import FrameScript.Proofs.Document.Location
import FrameScript.Proofs.Navigation.PlainText

/-!
# Carets inside clusters

A caret at a boundary of clusters is moved to a boundary by every movement that goes by clusters,
by lines or by the ends of lines and texts. Backspace, which goes back by a single character, can
lead into a cluster. It is not the only one: words begin where the class of the characters changes,
and a line starts for the caret at its first visible character, and either can be the middle of a
cluster, since marks that combine with the character before them are visible and most of them are
no letters.

Whether that happens is a matter of the line alone. A movement leads into a cluster from some
boundary of a line exactly if one of its own stops on that line lies inside of a cluster.

## Main definitions

* `LineReader.AtBoundary` — a position at a boundary of clusters
* `PlainText.KeepsBoundaries` — a movement does not lead into clusters from a line

## Main results

* `PlainText.boundaries_kept_iff` — where every movement leads from a boundary, and when it keeps to
  boundaries
-/

namespace FrameScript

/-- The position is at a boundary of clusters of a line that the reader has. -/
def LineReader.AtBoundary (reader : LineReader) (p : Position) : Prop :=
  reader.Admits (fun text column => column ∈ text.clusterStops) p

theorem Document.atBoundary_of_position?_length {doc : Document} {p : Position}
    (h : doc.reader.position? doc.reader.textLength = some p) : doc.reader.AtBoundary p := by
  obtain ⟨last, hlast, hend⟩ := doc.position?_length
  cases hend.symm.trans h
  have hraw : doc.reader.line? doc.lineCount = some last.content := by
    rw [line?_reader, hlast, Option.map_some]
  exact PlainText.admits_endColumn (fun _ _ => id) hraw

namespace PlainText

/-- From the boundaries of clusters of a line the movement leads to boundaries of clusters only. -/
def KeepsBoundaries (pageLines : Nat) (reader : LineReader) (line : Nat) (m : Movement) : Prop :=
  ∀ p remembered q, p.line = line → reader.AtBoundary p →
    ((mover pageLines).move reader p m remembered).1 = .ok q → reader.AtBoundary q

variable {doc : Document} {pageLines line : Nat} {m : Movement} {p q : Position} {raw : Text}

/-- From a boundary a movement leads to a boundary, or to one of its own stops of the same line. -/
theorem atBoundary_or_of_move (hraw : doc.reader.line? p.line = some raw)
    (hp : p.column ∈ raw.clusterStops) {remembered : Option Nat}
    (h : ((mover pageLines).move doc.reader p m remembered).1 = .ok q) :
    doc.reader.AtBoundary q ∨ q.line = p.line ∧ q.column ∈ ownStops m raw p.column :=
  admits_or_of_move (fun _ _ => id) doc.isFaithful_reader
    (fun _ => Document.atBoundary_of_position?_length) hraw (Text.mem_of_mem_clusterStops hp) hp h

section Line

variable (hraw : doc.reader.line? line = some raw)

include hraw

theorem atBoundary_of_iff {column : Nat} :
    doc.reader.AtBoundary (.of line column) ↔ column ∈ raw.clusterStops := by
  constructor
  · rintro ⟨raw', hraw', hmem⟩
    cases hraw.symm.trans hraw'
    exact hmem
  · exact fun hmem => ⟨raw, hraw, hmem⟩

/-- What a movement that keeps boundaries leads to on the line is a boundary. -/
theorem KeepsBoundaries.mem_of_move (h : KeepsBoundaries pageLines doc.reader line m)
    (hm : m.isVertical = false) {column stop : Nat} (hcolumn : column ∈ raw.clusterStops)
    (hmove : moveHorizontally doc.reader (.of line column) m = .ok (.of line stop)) :
    stop ∈ raw.clusterStops := by
  refine (atBoundary_of_iff hraw).mp (h (.of line column) none _ rfl ?_ ?_)
  · exact (atBoundary_of_iff hraw).mpr hcolumn
  · simp only [mover, hm, Bool.false_eq_true, if_false, hmove]

/-- **A movement keeps boundaries** exactly if its own stops are boundaries. -/
theorem keepsBoundaries_iff : KeepsBoundaries pageLines doc.reader line m ↔
    ∀ column ∈ raw.clusterStops, ∀ stop ∈ ownStops m raw column, stop ∈ raw.clusterStops := by
  constructor
  · intro h column hcolumn stop hstop
    cases m
    case wordRight =>
      -- a word stop inside of a cluster is where a step to the right from its start leads
      refine (Text.walksAlong_clusterStops raw).subset_of_next (Text.walksAlong_wordStops raw)
        (Text.one_mem_clusterStops raw) (fun column hcolumn s hs => ?_) hstop
      exact h.mem_of_move hraw rfl hcolumn
        ((moveHorizontally_wordRight hraw).trans (by rw [Position.column_of, hs]; rfl))
    case wordLeft =>
      refine (Text.walksAlong_clusterStops raw).subset_of_prev (Text.walksAlong_wordStops raw)
        (Text.endColumn_mem_clusterStops raw) (fun column hcolumn s hs => ?_) hstop
      exact h.mem_of_move hraw rfl hcolumn
        ((moveHorizontally_wordLeft hraw).trans (by rw [Position.column_of, hs]; rfl))
    case lineStart =>
      cases Set.mem_singleton_iff.mp hstop
      by_cases hfirst : firstVisibleColumn raw = 1
      · rw [hfirst]
        exact Text.one_mem_clusterStops raw
      · refine h.mem_of_move hraw rfl (Text.one_mem_clusterStops raw) ?_
        have hne : ¬(Position.of line 1).column = firstVisibleColumn raw := Ne.symm hfirst
        rw [moveHorizontally_lineStart hraw, if_neg hne, Position.line_of]
    case backspace =>
      obtain ⟨hone, rfl⟩ := hstop
      refine h.mem_of_move hraw rfl hcolumn ?_
      rw [moveHorizontally_backspace hraw (Text.mem_of_mem_clusterStops hcolumn),
        Position.column_of, if_pos (Nat.succ_le_succ hone), leftTo, Position.line_of,
        Nat.add_sub_cancel]
    all_goals exact absurd hstop (Set.notMem_empty stop)
  · rintro h p remembered q rfl ⟨raw', hraw', hp⟩ hmove
    cases hraw.symm.trans hraw'
    rcases atBoundary_or_of_move hraw hp hmove with hq | ⟨hline, hown⟩
    · exact hq
    · exact ⟨raw, hline ▸ hraw, h p.column hp q.column hown⟩

end Line

theorem mem_ownStops_iff (hm : m ≠ .backspace) {text : Text} {column stop : Nat} :
    stop ∈ ownStops m text column ↔
      (m = .wordLeft ∨ m = .wordRight) ∧ text.IsWordStop stop ∨
        m = .lineStart ∧ stop = firstVisibleColumn text := by
  cases m <;> simp [ownStops] at hm ⊢

/-- **Boundaries of clusters.** From a boundary no movement fails, a page down that cannot be
counted apart, and all of them but backspace lead to boundaries, except that a step by word can lead
to a stop between words and the way to the start of the line to its first visible character. Whether
these are boundaries is a matter of the line: a step by word keeps to boundaries exactly if all
stops between its words are boundaries, and the way to its start exactly if its first visible
character begins a cluster. -/
theorem boundaries_kept_iff (doc : Document) (pageLines : Nat) :
    (∀ p raw m remembered, doc.reader.line? p.line = some raw → p.column ∈ raw.clusterStops →
      m ≠ .backspace →
      ((m = .pageDown → PageFits p.line pageLines) →
        ∃ q, ((mover pageLines).move doc.reader p m remembered).1 = .ok q) ∧
      ∀ q, ((mover pageLines).move doc.reader p m remembered).1 = .ok q →
        doc.reader.AtBoundary q ∨ q.line = p.line ∧
          ((m = .wordLeft ∨ m = .wordRight) ∧ raw.IsWordStop q.column ∨
            m = .lineStart ∧ q.column = firstVisibleColumn raw)) ∧
    ∀ line raw, doc.reader.line? line = some raw →
      (∀ m, m ∉ [Movement.backspace, .wordLeft, .wordRight, .lineStart] →
        KeepsBoundaries pageLines doc.reader line m) ∧
      (∀ m, m = .wordLeft ∨ m = .wordRight →
        (KeepsBoundaries pageLines doc.reader line m ↔
          ∀ stop, raw.IsWordStop stop → stop ∈ raw.clusterStops)) ∧
      (KeepsBoundaries pageLines doc.reader line .lineStart ↔
        firstVisibleColumn raw ∈ raw.clusterStops) := by
  refine ⟨fun p raw m remembered hraw hp hm => ?_, fun line raw hraw => ⟨fun m hm => ?_, ?_, ?_⟩⟩
  · have hline := (doc.isFaithful_reader p.line).mp ⟨raw, hraw⟩
    obtain ⟨stop, hstop, -⟩ := doc.exists_position?_length
    refine ⟨fun _ => ?_, fun q hq => ?_⟩
    · exact exists_move_ok doc.isFaithful_reader hline ⟨stop, hstop⟩ pageLines m remembered
    · rw [← mem_ownStops_iff hm]
      exact atBoundary_or_of_move hraw hp hq
  · simp only [List.mem_cons, List.not_mem_nil, or_false, not_or] at hm
    obtain ⟨hbackspace, hleft, hright, hstart⟩ := hm
    refine (keepsBoundaries_iff hraw).mpr fun column _ stop hstop => ?_
    rcases (mem_ownStops_iff hbackspace).mp hstop with ⟨hword, -⟩ | ⟨hline, -⟩
    · exact absurd hword (not_or.mpr ⟨hleft, hright⟩)
    · exact absurd hline hstart
  · rintro m (rfl | rfl)
    all_goals
      rw [keepsBoundaries_iff hraw]
      exact ⟨fun h => h 1 (Text.one_mem_clusterStops raw), fun h _ _ => h⟩
  · rw [keepsBoundaries_iff hraw]
    refine ⟨fun h => h 1 (Text.one_mem_clusterStops raw) _ rfl, fun h _ _ stop hstop => ?_⟩
    rwa [Set.mem_singleton_iff.mp hstop]

/-- A letter with a combining mark: the caret goes back over both as one and to the start of the
line, but a step by word ends between them. -/
theorem boundaries_of_marked_letter :
    (∃ q, ((mover 20).move (Document.ofText "e\u0301".toList).reader (.of 1 3) .charLeft none).1 =
        .ok q ∧ (Document.ofText "e\u0301".toList).reader.AtBoundary q) ∧
      KeepsBoundaries 20 (Document.ofText "e\u0301".toList).reader 1 .lineStart ∧
      ¬KeepsBoundaries 20 (Document.ofText "e\u0301".toList).reader 1 .wordRight := by
  have hraw : (Document.ofText "e\u0301".toList).reader.line? 1 = some "e\u0301".toList := by
    decide +kernel
  have hstops : Text.clusterStops "e\u0301".toList = [1, 3] := by decide +kernel
  obtain ⟨hleads, hkept⟩ := boundaries_kept_iff (Document.ofText "e\u0301".toList) 20
  obtain ⟨-, hword, hstart⟩ := hkept 1 _ hraw
  refine ⟨?_, hstart.mpr (by decide +kernel), fun hright => ?_⟩
  · have hthree : 3 ∈ Text.clusterStops "e\u0301".toList := by
      rw [hstops]
      decide
    obtain ⟨hmoves, hends⟩ := hleads (.of 1 3) _ .charLeft none hraw hthree (by decide)
    obtain ⟨q, hmove⟩ := hmoves nofun
    exact ⟨q, hmove, (hends q hmove).resolve_right (by simp)⟩
  · have hmem := (hword .wordRight (Or.inr rfl)).mp hright 2
      (Text.isWordStop_iff.mpr (by decide +kernel))
    rw [hstops] at hmem
    exact absurd hmem (by decide)

/-- From the ends of a letter with a combining mark steps by word lead between the two, and from
the start of a line with a mark on a blank the way to its first visible character does. -/
theorem movements_into_clusters :
    ((Document.ofText "e\u0301".toList).reader.AtBoundary (.of 1 1) ∧
      ((mover 20).move (Document.ofText "e\u0301".toList).reader (.of 1 1) .wordRight none).1 =
        .ok (.of 1 2)) ∧
    ((Document.ofText "e\u0301".toList).reader.AtBoundary (.of 1 3) ∧
      ((mover 20).move (Document.ofText "e\u0301".toList).reader (.of 1 3) .wordLeft none).1 =
        .ok (.of 1 2)) ∧
    ¬(Document.ofText "e\u0301".toList).reader.AtBoundary (.of 1 2) ∧
    ((Document.ofText " \u0301".toList).reader.AtBoundary (.of 1 1) ∧
      ((mover 20).move (Document.ofText " \u0301".toList).reader (.of 1 1) .lineStart none).1 =
        .ok (.of 1 2)) ∧
    ¬(Document.ofText " \u0301".toList).reader.AtBoundary (.of 1 2) := by
  have hletter : (Document.ofText "e\u0301".toList).reader.line? 1 = some "e\u0301".toList := by
    decide +kernel
  have hblank : (Document.ofText " \u0301".toList).reader.line? 1 = some " \u0301".toList := by
    decide +kernel
  simp only [atBoundary_of_iff hletter, atBoundary_of_iff hblank]
  decide +kernel

end PlainText

end FrameScript
