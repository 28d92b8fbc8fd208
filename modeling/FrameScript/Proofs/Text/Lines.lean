import FrameScript.Text.Lines
import Mathlib.Data.List.DropRight

/-!
# How a text falls into lines

There is one way only to cut a text up so that no line holds a character that ends lines, every
line but the last has a break behind it, and a carriage return before a line feed is one break with
it. So nothing depends on how the lines were found, and an edit that brings those two characters
together, or parts them, leaves a text that falls into lines as if it had been written that way.

## Main definitions

* `Text.breaks` — what stands between lines
* `Text.AreLines` — lines as they stand in a text
* `Text.Divides` — the same of contents and breaks that are given apart

## Main results

* `Text.areLines_lines`, `Text.AreLines.of_getElem?` — a line of a text, and what follows it
* `Text.AreLines.lines_flatMap`, `Text.AreLines.set` — lines put together, also with one replaced
* `Text.divides_iff` — contents and breaks of a text are those of its lines
* `Text.rdropWhile_append_of_isBreak` — to lose its break a line need only lose the characters at
  its end that end lines
-/

namespace FrameScript

namespace Text

variable {t content ending : Text} {line : Line} {ls : List Line} {c : Char} {index : Nat}

/-- What stands between lines. -/
def breaks : List Text :=
  [['\n'], ['\r', '\n'], ['\r'], ['\x0b'], ['\x0c'], ['\u0085'], ['\u2028'], ['\u2029']]

/-- Lines that follow each other in a text. They hold no character that ends lines, every line but
the last has a break, and no carriage return is parted from a line feed behind it. -/
inductive AreLines : List Line → Prop
  | last {content : Text} (hcontent : ∀ c ∈ content, isBreak c = false) : AreLines [⟨content, []⟩]
  | cons {content ending : Text} {rest : List Line} (hcontent : ∀ c ∈ content, isBreak c = false)
    (hending : ending ∈ breaks)
    (hwhole : ending = ['\r'] → (rest.flatMap Line.toText).head? ≠ some '\n')
    (hrest : AreLines rest) : AreLines (⟨content, ending⟩ :: rest)

/-! ### Breaks -/

theorem isBreak_of_mem_breaks : ∀ ending ∈ breaks, ∀ c ∈ ending, isBreak c = true := by
  simp [breaks, isBreak]

theorem isBreak_iff_mem_breaks : isBreak c = true ↔ [c] ∈ breaks := by
  refine ⟨fun h => ?_, fun h => isBreak_of_mem_breaks [c] h c (List.mem_singleton_self c)⟩
  rw [← c.ofNat_toNat]
  unfold isBreak at h
  split at h
  case h_8 => cases h
  all_goals
    rename_i hcode
    rw [hcode]
    decide

theorem head?_of_mem_breaks : ∀ ending ∈ breaks,
    ending ≠ [] ∧ (ending.head? = some '\n' ↔ ending = ['\n']) := by decide

theorem eq_of_getLast?_of_mem_breaks : ∀ ending ∈ breaks,
    ending.getLast? = some '\r' → ending = ['\r'] := by decide

/-- A break is a single character that ends lines, or a carriage return and a line feed. -/
theorem mem_breaks_iff :
    ending ∈ breaks ↔ ending = ['\r', '\n'] ∨ ∃ c, ending = [c] ∧ isBreak c = true := by
  constructor
  · intro h
    simp only [breaks, List.mem_cons, List.not_mem_nil, or_false] at h
    rcases h with rfl | rfl | rfl | rfl | rfl | rfl | rfl | rfl
    case inr.inl => exact Or.inl rfl
    all_goals exact Or.inr ⟨_, rfl, by decide⟩
  · rintro (rfl | ⟨c, rfl, hc⟩)
    · decide
    · exact isBreak_iff_mem_breaks.mp hc

/-! ### Lines at the beginning of a text -/

/-- Characters that do not end lines belong to the first line. -/
theorem lines_append_of_not_isBreak (hcontent : ∀ c ∈ content, isBreak c = false) (t : Text) :
    lines (content ++ t) =
      (lines t).modifyHead fun line => { line with content := content ++ line.content } := by
  induction content with
  | nil => cases h : lines t <;> simp [h]
  | cons c rest ih =>
    have hc : isBreak c = false := hcontent c List.mem_cons_self
    have hcr : ∀ more, c = '\r' → rest ++ t = '\n' :: more → False := by
      rintro more rfl -
      cases hc
    rw [List.cons_append, lines.eq_3 _ _ hcr, hc, if_neg Bool.false_ne_true,
      ih fun d hd => hcontent d (List.mem_cons_of_mem c hd)]
    cases lines t <;> rfl

/-- A break ends the first line, and the lines of what follows are the others. -/
theorem lines_append_of_mem_breaks (hending : ending ∈ breaks)
    (hwhole : ending = ['\r'] → t.head? ≠ some '\n') :
    lines (ending ++ t) = ⟨[], ending⟩ :: lines t := by
  rcases mem_breaks_iff.mp hending with rfl | ⟨c, rfl, hc⟩
  · rfl
  · have hcr : ∀ more, c = '\r' → t = '\n' :: more → False := by
      rintro more rfl rfl
      exact hwhole rfl rfl
    rw [List.singleton_append, lines.eq_3 _ _ hcr, hc, if_pos rfl]

/-! ### All lines -/

/-- **The lines of a text** follow each other as lines do. -/
theorem areLines_lines (t : Text) : AreLines (lines t) := by
  fun_induction lines t with
  | case1 => exact .last (by simp)
  | case2 rest ih => exact .cons (by simp) (by decide) (by simp) ih
  | case3 c rest hcr hc ih =>
    refine .cons (by simp) (isBreak_iff_mem_breaks.mp hc) (fun hsingle hhead => ?_) ih
    rw [flatMap_lines, List.head?_eq_some_iff] at hhead
    obtain ⟨more, rfl⟩ := hhead
    exact hcr more (List.head_eq_of_cons_eq hsingle) rfl
  | case4 c rest _ hc ih =>
    have hpush : ∀ content : Text, (∀ d ∈ content, isBreak d = false) →
        ∀ d ∈ c :: content, isBreak d = false := by
      simp [hc]
    cases hlines : lines rest with
    | nil => exact absurd hlines (lines_ne_nil rest)
    | cons first more =>
      rw [hlines] at ih
      cases ih with
      | last hcontent => exact .last (hpush _ hcontent)
      | cons hcontent hending hwhole hrest => exact .cons (hpush _ hcontent) hending hwhole hrest

theorem AreLines.ne_nil (h : AreLines ls) : ls ≠ [] := by
  cases h <;> exact List.cons_ne_nil _ _

/-- What follows a line are lines again. -/
theorem AreLines.drop (h : AreLines ls) (hindex : index < ls.length) :
    AreLines (ls.drop index) := by
  induction index generalizing ls with
  | zero => exact h
  | succ index ih =>
    cases h with
    | last => simp at hindex
    | cons _ _ _ hrest => exact ih hrest (by simpa using hindex)

/-- A line, and what follows it: nothing if it is the last, and else a break. -/
theorem AreLines.of_getElem? (h : AreLines ls) (hline : ls[index]? = some line) :
    (∀ c ∈ line.content, isBreak c = false) ∧
      (index + 1 = ls.length ∧ line.ending = [] ∨
        index + 1 < ls.length ∧ line.ending ∈ breaks ∧
          (line.ending = ['\r'] →
            ((ls.drop (index + 1)).flatMap Line.toText).head? ≠ some '\n')) := by
  obtain ⟨hindex, rfl⟩ := List.getElem?_eq_some_iff.mp hline
  have hlines := h.drop hindex
  rw [List.drop_eq_getElem_cons hindex] at hlines
  generalize hrest : ls.drop (index + 1) = rest at *
  generalize ls[index] = line at *
  have hlength : rest.length = ls.length - (index + 1) := by rw [← hrest, List.length_drop]
  cases hlines with
  | last hcontent =>
    rw [List.length_nil] at hlength
    exact ⟨hcontent, .inl ⟨by omega, rfl⟩⟩
  | cons hcontent hending hwhole hlines =>
    have hpos : 0 < rest.length := List.length_pos_iff.mpr hlines.ne_nil
    exact ⟨hcontent, .inr ⟨by omega, hending, hwhole⟩⟩

/-- What follows each other as lines do are the lines of the text that they make up. -/
theorem AreLines.lines_flatMap (h : AreLines ls) : lines (ls.flatMap Line.toText) = ls := by
  induction h with
  | @last content hcontent =>
    rw [List.flatMap_singleton, Line.toText, lines_append_of_not_isBreak hcontent]
    simp [lines]
  | cons hcontent hending hwhole hrest ih =>
    rw [List.flatMap_cons, Line.toText, List.append_assoc, lines_append_of_not_isBreak hcontent,
      lines_append_of_mem_breaks hending hwhole, ih, List.modifyHead_cons, List.append_nil]

/-- Some lines begin as the first of them does: only the last can be empty and without a break. -/
theorem AreLines.head?_flatMap (h : AreLines ls) :
    (ls.flatMap Line.toText).head? = ls.head?.bind fun line => line.toText.head? := by
  cases h with
  | last hcontent => rw [List.flatMap_singleton, List.head?_cons, Option.bind_some]
  | @cons content ending rest hcontent hending hwhole hrest =>
    have hne : Line.toText ⟨content, ending⟩ ≠ [] :=
      List.append_ne_nil_of_right_ne_nil _ (head?_of_mem_breaks ending hending).1
    rw [List.flatMap_cons, List.head?_append_of_ne_nil _ hne, List.head?_cons, Option.bind_some]

/-- A line can be replaced by any other with the same break that is not empty. An empty one could
bring the break before it and its own together. -/
theorem AreLines.set (h : AreLines ls) (hline : ls[index]? = some line)
    (hcontent : ∀ c ∈ content, isBreak c = false) (hne : content ≠ []) :
    AreLines (ls.set index ⟨content, line.ending⟩) := by
  induction h generalizing index with
  | last _ =>
    cases index with
    | zero =>
      cases hline
      exact .last hcontent
    | succ index => cases hline
  | @cons _ ending rest hfirst hending hwhole hrest ih =>
    cases index with
    | zero =>
      cases hline
      exact .cons hcontent hending hwhole hrest
    | succ index =>
      have hset := ih hline
      refine .cons hfirst hending (fun hcr => ?_) hset
      have hhead := hwhole hcr
      obtain ⟨next, more, rfl⟩ := List.exists_cons_of_ne_nil hrest.ne_nil
      rw [hrest.head?_flatMap, List.head?_cons] at hhead
      rw [hset.head?_flatMap]
      cases index with
      | succ index => rwa [List.set_cons_succ, List.head?_cons]
      | zero =>
        obtain ⟨c, content, rfl⟩ := List.exists_cons_of_ne_nil hne
        rw [List.set_cons_zero, List.head?_cons, Option.bind_some, Line.toText, List.cons_append,
          List.head?_cons, ne_eq, Option.some.injEq]
        rintro rfl
        cases hcontent '\n' List.mem_cons_self

/-! ### Contents and breaks -/

/-- Break characters at the end of a text go, and the others stay. -/
theorem rdropWhile_append_of_isBreak (hcontent : ∀ c ∈ content, isBreak c = false)
    (hending : ∀ c ∈ ending, isBreak c = true) :
    (content ++ ending).rdropWhile isBreak = content := by
  rw [List.rdropWhile, List.reverse_append,
    List.dropWhile_append_of_pos fun c hc => hending c (List.mem_reverse.mp hc)]
  refine List.rdropWhile_eq_self_iff.mpr fun hne => ?_
  rw [hcontent _ (List.getLast_mem hne)]
  exact Bool.false_ne_true

/-- Contents of lines with a break between any two that follow each other, put together to a
text. -/
structure Divides (contents endings : List Text) (t : Text) : Prop where
  length_eq : endings.length + 1 = contents.length
  not_mem : ∀ content ∈ contents, ∀ ending ∈ breaks, ∀ c ∈ ending, c ∉ content
  mem_breaks : ∀ ending ∈ endings, ending ∈ breaks
  /-- A carriage return is not parted from a line feed. -/
  whole : ∀ index, endings[index]? = some ['\r'] → contents[index + 1]? = some [] →
    endings[index + 1]? ≠ some ['\n']
  flatten_eq : (contents.zipWith (· ++ ·) (endings ++ [[]])).flatten = t

theorem not_mem_breaks_iff :
    (∀ c ∈ content, isBreak c = false) ↔ ∀ ending ∈ breaks, ∀ c ∈ ending, c ∉ content := by
  constructor
  · intro h ending hending c hc hmem
    cases (h c hmem).symm.trans (isBreak_of_mem_breaks ending hending c hc)
  · intro h c hmem
    by_contra hc
    rw [Bool.not_eq_false, isBreak_iff_mem_breaks] at hc
    exact h [c] hc c (List.mem_singleton_self c) hmem

namespace Divides

variable {contents endings : List Text}

theorem singleton (hcontent : ∀ c ∈ content, isBreak c = false) : Divides [content] [] content where
  length_eq := rfl
  not_mem other hother := by
    rw [List.mem_singleton.mp hother]
    exact not_mem_breaks_iff.mp hcontent
  mem_breaks ending hending := absurd hending List.not_mem_nil
  whole index hindex := by cases hindex
  flatten_eq := by simp

/-- A text begins with a line feed if that ends its first line, which is empty. -/
theorem head?_iff (h : Divides contents endings t) :
    t.head? = some '\n' ↔ contents[0]? = some [] ∧ endings[0]? = some ['\n'] := by
  obtain ⟨hlength, hnot, hbreaks, -, rfl⟩ := h
  obtain ⟨content, contents, rfl⟩ := List.exists_cons_of_length_eq_add_one hlength.symm
  cases content with
  | cons c content =>
    have hc : c ≠ '\n' := by
      rintro rfl
      exact hnot _ List.mem_cons_self ['\n'] (by decide) '\n' (by decide) List.mem_cons_self
    cases endings <;> simp [hc]
  | nil =>
    cases endings with
    | nil =>
      cases contents with
      | nil => simp
      | cons => cases hlength
    | cons ending endings =>
      obtain ⟨hne, hhead⟩ := head?_of_mem_breaks ending (hbreaks ending List.mem_cons_self)
      rw [List.cons_append, List.zipWith_cons_cons, List.nil_append, List.flatten_cons,
        List.head?_append_of_ne_nil _ hne, hhead]
      simp

theorem cons (h : Divides contents endings t) (hcontent : ∀ c ∈ content, isBreak c = false)
    (hending : ending ∈ breaks) (hwhole : ending = ['\r'] → t.head? ≠ some '\n') :
    Divides (content :: contents) (ending :: endings) (content ++ (ending ++ t)) where
  length_eq := congrArg (· + 1) h.length_eq
  not_mem := List.forall_mem_cons.mpr ⟨not_mem_breaks_iff.mp hcontent, h.not_mem⟩
  mem_breaks := List.forall_mem_cons.mpr ⟨hending, h.mem_breaks⟩
  whole index hcr hempty hlf := by
    cases index with
    | zero => exact hwhole (by simpa using hcr) (h.head?_iff.mpr ⟨hempty, hlf⟩)
    | succ index => exact h.whole index hcr hempty hlf
  flatten_eq := by
    rw [List.cons_append, List.zipWith_cons_cons, List.flatten_cons, h.flatten_eq,
      List.append_assoc]

/-- The text behind a break is divided as it is in the whole. -/
theorem exists_tail (h : Divides (content :: contents) (ending :: endings) t) :
    ∃ rest, Divides contents endings rest ∧ t = content ++ (ending ++ rest) ∧
      (ending = ['\r'] → rest.head? ≠ some '\n') := by
  have hrest : Divides contents endings (contents.zipWith (· ++ ·) (endings ++ [[]])).flatten :=
    { length_eq := Nat.succ.inj h.length_eq
      not_mem := (List.forall_mem_cons.mp h.not_mem).2
      mem_breaks := (List.forall_mem_cons.mp h.mem_breaks).2
      whole := fun index => h.whole (index + 1)
      flatten_eq := rfl }
  refine ⟨_, hrest, ?_, ?_⟩
  · rw [← h.flatten_eq, List.cons_append, List.zipWith_cons_cons, List.flatten_cons,
      List.append_assoc]
  · rintro rfl hhead
    obtain ⟨hempty, hlf⟩ := hrest.head?_iff.mp hhead
    exact h.whole 0 rfl hempty hlf

/-- Contents and breaks are those of the lines. -/
theorem eq_lines (h : Divides contents endings t) :
    contents = (lines t).map Line.content ∧ endings = (lines t).dropLast.map Line.ending := by
  induction endings generalizing contents t with
  | nil =>
    obtain ⟨content, rfl⟩ := List.length_eq_one_iff.mp h.length_eq.symm
    have hcontent := not_mem_breaks_iff.mpr (h.not_mem content List.mem_cons_self)
    have ht : t = content ++ [] := by simpa using h.flatten_eq.symm
    rw [ht, lines_append_of_not_isBreak hcontent]
    simp [lines]
  | cons ending endings ih =>
    obtain ⟨content, contents, rfl⟩ := List.exists_cons_of_length_eq_add_one h.length_eq.symm
    obtain ⟨rest, hrest, rfl, hwhole⟩ := h.exists_tail
    have hcontent := not_mem_breaks_iff.mpr (h.not_mem content List.mem_cons_self)
    have hending := h.mem_breaks ending List.mem_cons_self
    obtain ⟨hcontents, hendings⟩ := ih hrest
    rw [lines_append_of_not_isBreak hcontent, lines_append_of_mem_breaks hending hwhole,
      List.modifyHead_cons, List.dropLast_cons_of_ne_nil (lines_ne_nil rest), List.map_cons,
      List.map_cons, ← hcontents, ← hendings, List.append_nil]
    exact ⟨rfl, rfl⟩

/-- Contents and breaks are as long as the text together. -/
theorem length_flatten (h : Divides contents endings t) :
    contents.flatten.length + endings.flatten.length = t.length := by
  induction endings generalizing contents t with
  | nil =>
    obtain ⟨content, rfl⟩ := List.length_eq_one_iff.mp h.length_eq.symm
    rw [← h.flatten_eq]
    simp
  | cons ending endings ih =>
    obtain ⟨content, contents, rfl⟩ := List.exists_cons_of_length_eq_add_one h.length_eq.symm
    obtain ⟨rest, hrest, rfl, -⟩ := h.exists_tail
    simp only [List.flatten_cons, List.length_append, ← ih hrest]
    omega

/-- A line loses its break, and nothing else, with the characters at its end that end lines. -/
theorem rdropWhile_append (h : Divides contents endings t)
    (hcontent : contents[index]? = some content)
    (hending : (endings ++ [[]])[index]? = some ending) :
    (content ++ ending).rdropWhile isBreak = content := by
  refine rdropWhile_append_of_isBreak
    (not_mem_breaks_iff.mpr (h.not_mem content (List.mem_of_getElem? hcontent))) ?_
  rcases List.mem_append.mp (List.mem_of_getElem? hending) with hmem | hmem
  · exact isBreak_of_mem_breaks ending (h.mem_breaks ending hmem)
  · rw [List.mem_singleton.mp hmem]
    exact fun c hc => absurd hc List.not_mem_nil

end Divides

theorem AreLines.divides (h : AreLines ls) :
    Divides (ls.map Line.content) (ls.dropLast.map Line.ending) (ls.flatMap Line.toText) := by
  induction h with
  | last hcontent => simpa [Line.toText] using Divides.singleton hcontent
  | cons hcontent hending hwhole hrest ih =>
    rw [List.dropLast_cons_of_ne_nil hrest.ne_nil, List.flatMap_cons, Line.toText,
      List.append_assoc]
    exact ih.cons hcontent hending hwhole

/-- **Contents and breaks of a text** are those of its lines: there is one way only to divide it. -/
theorem divides_iff {contents endings : List Text} : Divides contents endings t ↔
    contents = (lines t).map Line.content ∧ endings = (lines t).dropLast.map Line.ending := by
  refine ⟨Divides.eq_lines, ?_⟩
  rintro ⟨rfl, rfl⟩
  simpa using (areLines_lines t).divides

end Text

end FrameScript
