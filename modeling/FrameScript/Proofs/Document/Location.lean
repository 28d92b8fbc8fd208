import FrameScript.Proofs.Document.Offset
import FrameScript.Proofs.Document.Requests
import FrameScript.Proofs.Text.Lines

/-!
# Positions of offsets

The slots of a document, read from the first line to the last, have ascending offsets, and the
position of the offset of a slot is that slot. The other way round there is one kind of offset that
no slot has: the one in the middle of a break of two characters. Its position lies on the line that
the break ends, one column behind the last slot, and edits are refused there.

## Main definitions

* `Document.LiesOn` — how an offset lies on a line
* `Document.PartsBreak`, `Document.PartsBreakOf` — an offset lies in the middle of a break, and of
  which

## Main results

* `Document.exists_liesOn` — every offset of a text lies on a line
* `Document.position?_length` — the end of the text is the last slot of the last line
* `Document.offset?_lt_iff` — offsets ascend strictly with the slots
* `Document.position_of_offset` — slots are found again from their offsets
* `Document.offset_of_position` — offsets are found again from their positions, except in the
  middle of a break
-/

namespace FrameScript

namespace Document

variable {doc : Document} {p q : Position} {line : Text.Line} {n column offset : Nat}

/-! ### Lines and the text after them -/

theorem line?_eq_some_iff :
    doc.line? n = some line ↔ 1 ≤ n ∧ doc.lines[n - 1]? = some line := by
  rw [line?]
  split
  · simp_all
  · rename_i hne
    exact (and_iff_right (Nat.one_le_iff_ne_zero.mpr hne)).symm

/-- The text from the start of a line on is made up of that line and the lines below it. -/
theorem drop_lineStart (doc : Document) (n : Nat) :
    doc.text.drop (doc.lineStart n) = (doc.lines.drop (n - 1)).flatMap Text.Line.toText := by
  have htext : doc.lines.flatMap Text.Line.toText = doc.text := doc.text.flatMap_lines
  rw [lineStart, ← htext]
  nth_rewrite 2 [← List.take_append_drop (n - 1) doc.lines]
  rw [List.flatMap_append, List.drop_left]

/-- The characters of a line, its break included, stand in the text behind its start. -/
theorem getElem?_lineStart_add (hline : doc.line? n = some line) (hcolumn : column < line.length) :
    doc.text[doc.lineStart n + column]? = line.toText[column]? := by
  obtain ⟨-, hline⟩ := line?_eq_some_iff.mp hline
  obtain ⟨hindex, rfl⟩ := List.getElem?_eq_some_iff.mp hline
  rw [← List.getElem?_drop, drop_lineStart, List.drop_eq_getElem_cons hindex, List.flatMap_cons,
    List.getElem?_append_left (by rwa [Text.Line.length_toText])]

theorem getElem?_content (hline : doc.line? n = some line)
    (hcolumn : column < line.content.length) :
    doc.text[doc.lineStart n + column]? = line.content[column]? := by
  rw [getElem?_lineStart_add hline (Nat.lt_add_right _ hcolumn), Text.Line.toText,
    List.getElem?_append_left hcolumn]

theorem getElem?_ending (hline : doc.line? n = some line) (hcolumn : column < line.ending.length) :
    doc.text[doc.lineStart n + (line.content.length + column)]? = line.ending[column]? := by
  rw [getElem?_lineStart_add hline (Nat.add_lt_add_left hcolumn _), Text.Line.toText,
    List.getElem?_append_right (Nat.le_add_right ..), Nat.add_sub_cancel_left]

/-- A line of a document: its content, and the break behind it unless it is the last. -/
theorem content_and_ending (hline : doc.line? n = some line) :
    (∀ c ∈ line.content, Text.isBreak c = false) ∧
      (n = doc.lineCount ∧ line.ending = [] ∨
        n < doc.lineCount ∧ line.ending ∈ Text.breaks ∧
          (line.ending = ['\r'] → doc.text[doc.lineStart (n + 1)]? ≠ some '\n')) := by
  obtain ⟨hone, hline⟩ := line?_eq_some_iff.mp hline
  obtain ⟨hcontent, hending⟩ := (Text.areLines_lines doc.text).of_getElem? hline
  rw [Nat.sub_add_cancel hone] at hending
  have hnext := doc.drop_lineStart (n + 1)
  rw [Nat.add_sub_cancel] at hnext
  refine ⟨hcontent, hending.imp_right fun ⟨hlt, hbreak, hwhole⟩ => ⟨hlt, hbreak, fun hcr => ?_⟩⟩
  rw [← List.head?_drop, hnext]
  exact hwhole hcr

/-! ### Offsets on lines -/

/-- The offset lies on the line of a number, at a distance from its start. Only the last line has a
slot behind all its characters that does not lie on another line. -/
structure LiesOn (doc : Document) (offset n column : Nat) (line : Text.Line) : Prop where
  line?_eq : doc.line? n = some line
  offset_eq : offset = doc.lineStart n + column
  bound : column < line.length ∨ n = doc.lineCount ∧ column = line.length

/-- The position of an offset on one of some lines. -/
theorem locate_take_add {lines : List Text.Line} {index : Nat} (number : Nat)
    (hline : lines[index]? = some line)
    (hbound : column < line.length ∨ index + 1 = lines.length ∧ column = line.length) :
    locate number (((lines.take index).flatMap Text.Line.toText).length + column) lines =
      some (.of (number + index) (column + 1)) := by
  induction lines generalizing number index with
  | nil => cases hline
  | cons first rest ih =>
    cases index with
    | zero =>
      cases hline
      rw [List.take_zero, List.flatMap_nil, List.length_nil, Nat.zero_add]
      cases rest with
      | nil =>
        rw [locate, if_pos (by omega)]
        rfl
      | cons second more =>
        rw [List.length_cons, List.length_cons] at hbound
        rw [locate, if_pos (by omega)]
        rfl
    | succ index =>
      cases rest with
      | nil => cases hline
      | cons second more =>
        have hrest := ih (number + 1) hline (hbound.imp_right (And.imp_left Nat.succ.inj))
        rw [List.take_succ_cons, List.flatMap_cons, List.length_append, Text.Line.length_toText,
          Nat.add_assoc, locate, if_neg (Nat.not_lt.mpr (Nat.le_add_right ..)),
          Nat.add_sub_cancel_left, hrest, Nat.add_assoc, Nat.add_comm 1]

/-- An offset up to the end of some lines lies on one of them. -/
theorem exists_take_add {lines : List Text.Line} (hne : lines ≠ [])
    (hoffset : offset ≤ (lines.flatMap Text.Line.toText).length) :
    ∃ (index column : Nat) (line : Text.Line), lines[index]? = some line ∧
      offset = ((lines.take index).flatMap Text.Line.toText).length + column ∧
      (column < line.length ∨ index + 1 = lines.length ∧ column = line.length) := by
  induction lines generalizing offset with
  | nil => exact absurd rfl hne
  | cons first rest ih =>
    rw [List.flatMap_cons, List.length_append, Text.Line.length_toText] at hoffset
    rcases Nat.lt_or_ge offset first.length with hlt | hge
    · exact ⟨0, offset, first, rfl, (Nat.zero_add offset).symm, .inl hlt⟩
    · cases rest with
      | nil =>
        rw [List.flatMap_nil, List.length_nil] at hoffset
        exact ⟨0, offset, first, rfl, (Nat.zero_add offset).symm, .inr ⟨rfl, by omega⟩⟩
      | cons second more =>
        have hrest : offset - first.length ≤
            ((second :: more).flatMap Text.Line.toText).length := by omega
        obtain ⟨index, column, line, hline, heq, hbound⟩ := ih (List.cons_ne_nil _ _) hrest
        refine ⟨index + 1, column, line, hline, ?_,
          hbound.imp_right (And.imp_left (congrArg (· + 1)))⟩
        rw [List.take_succ_cons, List.flatMap_cons, List.length_append, Text.Line.length_toText]
        omega

/-- There is nothing behind the end of some lines. -/
theorem locate_eq_none {lines : List Text.Line} (number : Nat)
    (hoffset : (lines.flatMap Text.Line.toText).length < offset) :
    locate number offset lines = none := by
  fun_induction locate number offset lines with
  | case1 => rfl
  | case2 number offset last hle =>
    rw [List.flatMap_singleton, Text.Line.length_toText] at hoffset
    omega
  | case3 => rfl
  | case4 number offset first second more hlt =>
    rw [List.flatMap_cons, List.length_append, Text.Line.length_toText] at hoffset
    omega
  | case5 number offset first second more hge ih =>
    rw [List.flatMap_cons, List.length_append, Text.Line.length_toText] at hoffset
    exact ih (by omega)

/-- **Every offset** of a text lies on a line. -/
theorem exists_liesOn (hoffset : offset ≤ doc.text.length) :
    ∃ n column line, doc.LiesOn offset n column line := by
  have htext : doc.lines.flatMap Text.Line.toText = doc.text := doc.text.flatMap_lines
  rw [← htext] at hoffset
  obtain ⟨index, column, line, hline, heq, hbound⟩ :=
    exists_take_add (Text.lines_ne_nil doc.text) hoffset
  exact ⟨index + 1, column, line, line?_eq_some_iff.mpr ⟨Nat.le_add_left .., hline⟩, heq, hbound⟩

theorem position?_eq_none (hoffset : doc.text.length < offset) : doc.position? offset = none := by
  refine locate_eq_none 1 ?_
  rwa [show doc.lines.flatMap Text.Line.toText = doc.text from doc.text.flatMap_lines]

namespace LiesOn

theorem position? (h : doc.LiesOn offset n column line) :
    doc.position? offset = some (.of n (column + 1)) := by
  obtain ⟨hone, hline⟩ := line?_eq_some_iff.mp h.line?_eq
  have hlocate := locate_take_add 1 hline
    (h.bound.imp_right (And.imp_left (Nat.sub_add_cancel hone).trans))
  rwa [Nat.add_sub_cancel' hone, ← lineStart, ← h.offset_eq] at hlocate

/-- There is a way back up to the slot behind the last character of the line. -/
theorem offset?_eq (h : doc.LiesOn offset n column line) :
    doc.offset? (.of n (column + 1)) =
      if column ≤ line.content.length then some offset else none := by
  rw [offset?, Position.line_of, Position.column_of, h.line?_eq, h.offset_eq, Option.bind_some,
    Nat.add_succ_sub_one]
  by_cases hle : column ≤ line.content.length
  · rw [if_neg (by omega), if_pos hle]
  · rw [if_pos (by omega), if_neg hle]

/-- Behind the slots of the line there is at most the middle of its break. -/
theorem column_cases (h : doc.LiesOn offset n column line) :
    column ≤ line.content.length ∨
      line.ending = ['\r', '\n'] ∧ column = line.content.length + 1 := by
  have hbound := h.bound
  rw [Text.Line.length] at hbound
  rcases (content_and_ending h.line?_eq).2 with ⟨-, hending⟩ | ⟨hbelow, hbreak, -⟩
  · rw [hending, List.length_nil] at hbound
    omega
  · rcases Text.mem_breaks_iff.mp hbreak with hcrlf | ⟨c, hc, -⟩
    · rw [hcrlf, List.length_cons, List.length_singleton] at hbound
      refine or_iff_not_imp_left.mpr fun hbehind => ⟨hcrlf, ?_⟩
      omega
    · rw [hc, List.length_singleton] at hbound
      omega

end LiesOn

/-- The offset of a slot lies on the line of the slot. -/
theorem exists_liesOn_of_offset? (h : doc.offset? p = some offset) :
    ∃ column line, doc.LiesOn offset p.line column line ∧ p.column = column + 1 := by
  obtain ⟨line, hline, hcolumn, hoffset⟩ := offset?_eq_some_iff.mp h
  refine ⟨p.column - 1, line, ⟨hline, by omega, ?_⟩, by omega⟩
  rw [Text.Line.length]
  rcases (content_and_ending hline).2 with ⟨hlast, hending⟩ | ⟨-, hbreak, -⟩
  · rw [hending, List.length_nil]
    omega
  · have := List.length_pos_iff.mpr (Text.head?_of_mem_breaks _ hbreak).1
    omega

/-! ### The end of the text -/

/-- The end of the text lies on its last line, behind all its characters. -/
theorem liesOn_length (hlast : doc.line? doc.lineCount = some line) :
    doc.LiesOn doc.text.length doc.lineCount line.content.length line := by
  have hending : line.ending = [] := by
    rcases (content_and_ending hlast).2 with ⟨-, hending⟩ | ⟨hlt, -⟩
    · exact hending
    · exact absurd hlt (Nat.lt_irrefl _)
  have hlength : line.length = line.content.length := by
    rw [Text.Line.length, hending, List.length_nil, Nat.add_zero]
  refine ⟨hlast, ?_, .inr ⟨rfl, hlength.symm⟩⟩
  rw [← hlength, lineStart_add_length hlast, lineStart, Nat.add_sub_cancel, lineCount,
    List.take_length, lines, Text.flatMap_lines]

/-- **The end of the text** is the last slot of the last line. -/
theorem position?_length (doc : Document) : ∃ last, doc.line? doc.lineCount = some last ∧
    doc.position? doc.text.length = some (.of doc.lineCount (last.content.length + 1)) := by
  obtain ⟨last, hlast⟩ := exists_line?_iff.mpr ⟨doc.one_le_lineCount, Nat.le_refl _⟩
  exact ⟨last, hlast, (liesOn_length hlast).position?⟩

/-- The end of the text lies on one of its lines. -/
theorem exists_position?_length (doc : Document) :
    ∃ p, doc.position? doc.text.length = some p ∧ 1 ≤ p.line ∧ p.line ≤ doc.lineCount := by
  obtain ⟨last, -, hend⟩ := doc.position?_length
  exact ⟨_, hend, doc.one_le_lineCount, Nat.le_refl _⟩

/-! ### The middle of a break -/

/-- The offset lies between the two characters of a break. -/
def PartsBreak (doc : Document) (offset : Nat) : Prop :=
  1 ≤ offset ∧ doc.text[offset - 1]? = some '\r' ∧ doc.text[offset]? = some '\n'

/-- The offset lies between the two characters of the break that ends the line of a number. -/
def PartsBreakOf (doc : Document) (offset n : Nat) (line : Text.Line) : Prop :=
  doc.line? n = some line ∧ line.ending = ['\r', '\n'] ∧
    offset = doc.lineStart n + (line.content.length + 1)

/-- No line begins in the middle of a break: a carriage return that ends the line above it is not
followed by a line feed. -/
theorem not_partsBreak_lineStart (hline : doc.line? n = some line) :
    ¬doc.PartsBreak (doc.lineStart n) := by
  rintro ⟨hone, hcr, hlf⟩
  obtain ⟨hpos, hle⟩ := exists_line?_iff.mp ⟨line, hline⟩
  obtain ⟨k, rfl⟩ : ∃ k, n = k + 1 := Nat.exists_eq_add_of_le' hpos
  have hk : 1 ≤ k := by
    by_contra hzero
    obtain rfl : k = 0 := by omega
    cases hone
  obtain ⟨above, habove⟩ := exists_line?_iff.mpr ⟨hk, Nat.le_of_succ_le hle⟩
  have hnext := lineStart_add_length habove
  rw [Text.Line.length] at hnext
  rcases (content_and_ending habove).2 with ⟨hlast, -⟩ | ⟨-, hbreak, hwhole⟩
  · omega
  · have hbreakLength := List.length_pos_iff.mpr (Text.head?_of_mem_breaks _ hbreak).1
    have hlast : doc.lineStart (k + 1) - 1 =
        doc.lineStart k + (above.content.length + (above.ending.length - 1)) := by
      omega
    rw [hlast, getElem?_ending habove (by omega), ← List.getLast?_eq_getElem?] at hcr
    exact hwhole (Text.eq_of_getLast?_of_mem_breaks _ hbreak hcr) hlf

namespace LiesOn

/-- No slot of a line lies in the middle of a break. -/
theorem not_partsBreak (h : doc.LiesOn offset n column line) (hle : column ≤ line.content.length) :
    ¬doc.PartsBreak offset := by
  obtain ⟨hline, rfl, -⟩ := h
  intro hparts
  cases column with
  | zero => exact not_partsBreak_lineStart hline hparts
  | succ column =>
    -- the character in front of the slot is one of the content
    have hcr := hparts.2.1
    rw [← Nat.add_assoc, Nat.add_sub_cancel, getElem?_content hline hle] at hcr
    cases (content_and_ending hline).1 '\r' (List.mem_of_getElem? hcr)

theorem partsBreak (h : doc.LiesOn offset n column line) (hcrlf : line.ending = ['\r', '\n'])
    (hcolumn : column = line.content.length + 1) : doc.PartsBreak offset := by
  obtain ⟨hline, rfl, -⟩ := h
  subst hcolumn
  have htwo : line.ending.length = 2 := congrArg List.length hcrlf
  have hcr : doc.text[doc.lineStart n + (line.content.length + 0)]? = some '\r' := by
    rw [getElem?_ending hline (by omega), hcrlf]
    rfl
  have hlf : doc.text[doc.lineStart n + (line.content.length + 1)]? = some '\n' := by
    rw [getElem?_ending hline (by omega), hcrlf]
    rfl
  exact ⟨by omega, hcr, hlf⟩

end LiesOn

/-- **No slot** lies in the middle of a break. -/
theorem not_partsBreak_of_offset? (h : doc.offset? p = some offset) : ¬doc.PartsBreak offset := by
  obtain ⟨column, line, hlies, hcolumn⟩ := exists_liesOn_of_offset? h
  obtain ⟨found, hfound, hbound, -⟩ := offset?_eq_some_iff.mp h
  cases hlies.line?_eq.symm.trans hfound
  exact hlies.not_partsBreak (by omega)

/-! ### Positions and their offsets -/

theorem position?_of_offset? (h : doc.offset? p = some offset) :
    doc.position? offset = some (.of p.line p.column) := by
  obtain ⟨column, line, hlies, hcolumn⟩ := exists_liesOn_of_offset? h
  rw [hlies.position?, hcolumn]

/-- **Offsets ascend strictly** with the slots. -/
theorem offset?_lt_iff {start stop : Nat} (hstart : doc.offset? p = some start)
    (hstop : doc.offset? q = some stop) : p < q ↔ start < stop := by
  constructor
  · intro hlt
    refine Nat.lt_of_le_of_ne (offset?_mono (Position.le_of_lt hlt) hstart hstop) ?_
    rintro rfl
    have hsame := (position?_of_offset? hstart).symm.trans (position?_of_offset? hstop)
    rw [Option.some.injEq, Position.of_inj] at hsame
    rw [Position.lt_iff] at hlt
    omega
  · intro hlt
    rw [← Position.not_le]
    intro hle
    exact Nat.not_lt.mpr (offset?_mono hle hstop hstart) hlt

theorem lineLength?_reader (doc : Document) (n : Nat) :
    doc.reader.lineLength? n = (doc.line? n).map fun line => line.content.length := by
  rw [LineReader.lineLength?, line?_reader, Option.map_map]
  rfl

/-- The positions that have offsets are the slots of the lines. -/
theorem exists_offset?_iff : (∃ offset, doc.offset? p = some offset) ↔
    (1 ≤ p.line ∧ p.line ≤ doc.lineCount) ∧ ∃ length, doc.reader.lineLength? p.line = some length ∧
      1 ≤ p.column ∧ p.column ≤ length + 1 := by
  rw [← Option.isSome_iff_exists, isSome_offset?_iff, LineReader.lineLength?]
  constructor
  · rintro ⟨raw, hraw, hcolumn⟩
    exact ⟨(doc.isFaithful_reader p.line).mp ⟨raw, hraw⟩, raw.length, by rw [hraw]; rfl, hcolumn⟩
  · rintro ⟨-, length, hlength, hcolumn⟩
    obtain ⟨raw, hraw, rfl⟩ := Option.map_eq_some_iff.mp hlength
    exact ⟨raw, hraw, hcolumn⟩

/-- The slots of one line. -/
theorem exists_offset?_on_line (hline : doc.line? n = some line) :
    (∃ offset, doc.offset? (.of n column) = some offset) ↔
      1 ≤ column ∧ column ≤ line.content.length + 1 := by
  rw [exists_offset?_iff, Position.line_of, Position.column_of, lineLength?_reader, hline,
    and_iff_right (exists_line?_iff.mp ⟨line, hline⟩)]
  simp

/-- **Slots are found again** from their offsets. The positions that have one are the slots of the
lines. Their offsets are in the text and ascend from slot to slot, and the position of the offset
of a slot is that slot. -/
theorem position_of_offset (doc : Document) :
    (∀ p, (∃ offset, doc.offset? p = some offset) ↔
      (1 ≤ p.line ∧ p.line ≤ doc.lineCount) ∧
        ∃ length, doc.reader.lineLength? p.line = some length ∧
          1 ≤ p.column ∧ p.column ≤ length + 1) ∧
    (∀ p offset, doc.offset? p = some offset →
      offset ≤ doc.text.length ∧ ∃ q, doc.position? offset = some q ∧ q.sameSlot p = true) ∧
    ∀ p q start stop, doc.offset? p = some start → doc.offset? q = some stop →
      (p < q ↔ start < stop) ∧ (p.sameSlot q = true ↔ start = stop) := by
  refine ⟨fun p => exists_offset?_iff, fun p offset h => ?_, fun p q start stop hp hq => ?_⟩
  · exact ⟨offset?_le h, _, position?_of_offset? h, Position.sameSlot_iff.mpr ⟨rfl, rfl⟩⟩
  · have hlt := offset?_lt_iff hp hq
    have hgt := offset?_lt_iff hq hp
    refine ⟨hlt, ?_⟩
    rw [Position.lt_iff] at hlt hgt
    rw [Position.sameSlot_iff]
    omega

/-- The slots around a break of two characters have offsets that are not next to each other. -/
theorem position_of_offset_around_break :
    (ofText "a\r\nb".toList).offset? (.of 1 2) = some 1 ∧
      (ofText "a\r\nb".toList).offset? (.of 2 1) = some 3 ∧ Position.of 1 2 < .of 2 1 ∧
      ∃ q, (ofText "a\r\nb".toList).position? 1 = some q ∧ q.sameSlot (.of 1 2) = true := by
  have hfirst : (ofText "a\r\nb".toList).offset? (.of 1 2) = some 1 := by decide +kernel
  have hsecond : (ofText "a\r\nb".toList).offset? (.of 2 1) = some 3 := by decide +kernel
  obtain ⟨-, hposition, horder⟩ := position_of_offset (ofText "a\r\nb".toList)
  exact ⟨hfirst, hsecond, (horder _ _ _ _ hfirst hsecond).1.mpr (by decide),
    (hposition _ _ hfirst).2⟩

/-- **Offsets are found again** from their positions, except in the middle of a break. No slot has
such an offset. Its position lies on the line that the break ends, one column behind the last slot,
and has no offset. -/
theorem offset_of_position (doc : Document) (offset : Nat) :
    (offset ≤ doc.text.length → ∃ p, doc.position? offset = some p ∧
      (¬doc.PartsBreak offset → doc.offset? p = some offset) ∧
      (doc.PartsBreak offset → (∀ q, doc.offset? q ≠ some offset) ∧ doc.offset? p = none ∧
        ∃ line, doc.PartsBreakOf offset p.line line ∧
          doc.reader.lineLength? p.line = some line.content.length ∧
          p.column = line.content.length + 2 ∧
          ∀ column, (∃ found, doc.offset? (.of p.line column) = some found) ↔
            1 ≤ column ∧ column ≤ line.content.length + 1)) ∧
    (doc.text.length < offset → doc.position? offset = none) := by
  constructor
  · intro hoffset
    obtain ⟨n, column, line, hlies⟩ := exists_liesOn hoffset
    refine ⟨_, hlies.position?, fun hwhole => ?_, fun hparts => ⟨fun q hq => ?_, ?_⟩⟩
    · rcases hlies.column_cases with hle | ⟨hcrlf, hcolumn⟩
      · rw [hlies.offset?_eq, if_pos hle]
      · exact absurd (hlies.partsBreak hcrlf hcolumn) hwhole
    · exact not_partsBreak_of_offset? hq hparts
    · rcases hlies.column_cases with hle | ⟨hcrlf, rfl⟩
      · exact absurd hparts (hlies.not_partsBreak hle)
      · rw [hlies.offset?_eq, if_neg (by omega)]
        refine ⟨rfl, line, ⟨hlies.line?_eq, hcrlf, hlies.offset_eq⟩, ?_, rfl, fun column => ?_⟩
        · rw [lineLength?_reader, Position.line_of, hlies.line?_eq, Option.map_some]
        · exact exists_offset?_on_line hlies.line?_eq
  · exact position?_eq_none

/-- Behind a break, and in the middle of it. -/
theorem offset_of_position_around_break :
    (∃ p, (ofText "a\r\nb".toList).position? 3 = some p ∧
      (ofText "a\r\nb".toList).offset? p = some 3) ∧
    (ofText "a\r\nb".toList).PartsBreak 2 ∧
      ∀ q, (ofText "a\r\nb".toList).offset? q ≠ some 2 := by
  have hparts : (ofText "a\r\nb".toList).PartsBreak 2 := by
    unfold PartsBreak
    decide +kernel
  obtain ⟨p, hp, hback, -⟩ := (offset_of_position (ofText "a\r\nb".toList) 3).1 (by decide +kernel)
  obtain ⟨q, -, -, hlost⟩ := (offset_of_position (ofText "a\r\nb".toList) 2).1 (by decide +kernel)
  exact ⟨⟨p, hp, hback (by unfold PartsBreak; decide +kernel)⟩, hparts, (hlost hparts).1⟩

/-- The offset in the middle of a break is not found again: its position has no offset. -/
theorem offset_lost_in_break :
    (ofText "a\r\nb".toList).Reachable ∧ 2 ≤ (ofText "a\r\nb".toList).text.length ∧
      (ofText "a\r\nb".toList).position? 2 = some (.of 1 3) ∧
      (ofText "a\r\nb".toList).offset? (.of 1 3) = none :=
  ⟨.ofText _, by decide +kernel, by decide +kernel, by decide +kernel⟩

end Document

end FrameScript
