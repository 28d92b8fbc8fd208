import FrameScript.Proofs.Document.Reader
import FrameScript.Selection

/-!
# The text that a rectangle covers

A rectangle is given by two corners, and any two will do: which of them is the anchor makes no
difference to what is covered, and neither does which of them is on the left. Of every line between
the corners it covers the characters between its edges. A line that ends before the right edge is
covered up to its end, one that ends before the left edge is met by an empty segment behind its last
character, and lines that are not there are met by none.

## Main definitions

* `Rectangle.Covers` — a position in one of the segments

## Main results

* `Rectangle.mem_segments_iff`, `Rectangle.pairwise_segments` — all segments, and their order
* `Rectangle.covers_iff` — what they cover
* `Rectangle.segments_congr` — only the edges matter
* `Rectangle.contains_of_covers` — what is covered lies in the span of the rectangle
* `Rectangle.segments_cover_rectangle` — rectangles over documents
-/

namespace FrameScript

namespace Rectangle

variable {r r' : Rectangle} {reader : LineReader} {segment : LineSegment} {p : Position}

/-! ### Segments -/

/-- **A segment** is the part of a line between the edges. -/
theorem mem_segments_iff : segment ∈ r.segments reader ↔
    (r.top ≤ segment.line ∧ segment.line ≤ r.bottom) ∧
      ∃ raw, reader.line? segment.line = some raw ∧
        segment.startColumn = min r.left (raw.length + 1) ∧
        segment.endColumn = min r.right (raw.length + 1) := by
  simp only [segments, List.mem_filterMap, List.mem_range'_1, LineReader.lineLength?,
    Option.map_map, Option.map_eq_some_iff, Function.comp_apply]
  constructor
  · rintro ⟨line, hline, raw, hraw, rfl⟩
    refine ⟨?_, raw, hraw, rfl, rfl⟩
    dsimp only
    omega
  · rintro ⟨hline, raw, hraw, hstart, hend⟩
    exact ⟨segment.line, by omega, raw, hraw, by rw [← hstart, ← hend]⟩

theorem pairwise_segments (r : Rectangle) (reader : LineReader) :
    (r.segments reader).Pairwise fun s t => s.line < t.line := by
  refine List.Pairwise.filterMap _ (fun line line' hlt s hs t ht => ?_) List.pairwise_lt_range'
  obtain ⟨length, -, rfl⟩ := Option.map_eq_some_iff.mp hs
  obtain ⟨length', -, rfl⟩ := Option.map_eq_some_iff.mp ht
  exact hlt

/-- There is one for every line between the corners that is there. -/
theorem exists_segment_iff {line : Nat} : (∃ s ∈ r.segments reader, s.line = line) ↔
    (r.top ≤ line ∧ line ≤ r.bottom) ∧ ∃ raw, reader.line? line = some raw := by
  constructor
  · rintro ⟨s, hs, rfl⟩
    obtain ⟨hline, raw, hraw, -⟩ := mem_segments_iff.mp hs
    exact ⟨hline, raw, hraw⟩
  · rintro ⟨hline, raw, hraw⟩
    exact ⟨⟨line, _, _⟩, mem_segments_iff.mpr ⟨hline, raw, hraw, rfl, rfl⟩, rfl⟩

theorem left_le_right (r : Rectangle) : r.left ≤ r.right := by
  rw [left, right]
  omega

theorem top_le_bottom (r : Rectangle) : r.top ≤ r.bottom := by
  rw [top, bottom]
  omega

theorem segment_within (h : segment ∈ r.segments reader) :
    ∃ raw, reader.line? segment.line = some raw ∧ segment.startColumn ≤ segment.endColumn ∧
      segment.endColumn ≤ raw.length + 1 := by
  obtain ⟨-, raw, hraw, hstart, hend⟩ := mem_segments_iff.mp h
  have hedges := r.left_le_right
  exact ⟨raw, hraw, by omega, by omega⟩

/-- **Only the edges matter**, not which corners they come from. -/
theorem segments_congr (htop : r.top = r'.top) (hbottom : r.bottom = r'.bottom)
    (hleft : r.left = r'.left) (hright : r.right = r'.right) :
    r.segments reader = r'.segments reader := by
  rw [segments, segments, htop, hbottom, hleft, hright]

theorem segments_swap (r : Rectangle) (reader : LineReader) :
    (Rectangle.mk r.active r.anchor).segments reader = r.segments reader :=
  segments_congr (Nat.min_comm ..) (Nat.max_comm ..) (Nat.min_comm ..) (Nat.max_comm ..)

theorem segments_exchange (r : Rectangle) (reader : LineReader) :
    (Rectangle.mk (r.anchor.withColumn r.active.column)
      (r.active.withColumn r.anchor.column)).segments reader = r.segments reader :=
  segments_congr rfl rfl (Nat.min_comm ..) (Nat.max_comm ..)

/-! ### What they cover -/

/-- The position is that of a character in one of the segments. -/
def Covers (r : Rectangle) (reader : LineReader) (p : Position) : Prop :=
  ∃ s ∈ r.segments reader, s.line = p.line ∧ s.startColumn ≤ p.column ∧ p.column < s.endColumn

/-- **What is covered** are the columns of the lines between the edges, as far as these lines go. -/
theorem covers_iff : r.Covers reader p ↔
    ((r.top ≤ p.line ∧ p.line ≤ r.bottom) ∧ r.left ≤ p.column ∧ p.column < r.right) ∧
      ∃ raw, reader.line? p.line = some raw ∧ p.column ≤ raw.length := by
  constructor
  · rintro ⟨s, hs, hline, hcolumn⟩
    obtain ⟨hbetween, raw, hraw, hstart, hend⟩ := mem_segments_iff.mp hs
    rw [hline] at hbetween hraw
    have hedges := r.left_le_right
    exact ⟨⟨hbetween, by omega⟩, raw, hraw, by omega⟩
  · rintro ⟨⟨hline, hcolumn⟩, raw, hraw, hlength⟩
    refine ⟨⟨p.line, min r.left (raw.length + 1), min r.right (raw.length + 1)⟩,
      mem_segments_iff.mpr ⟨hline, raw, hraw, rfl, rfl⟩, rfl, ?_⟩
    dsimp only
    omega

/-- **What is covered lies in the span** from the top left corner to the bottom right one. -/
theorem contains_of_covers (h : r.Covers reader p) : r.span.contains p = true := by
  obtain ⟨⟨hline, hcolumn⟩, -⟩ := covers_iff.mp h
  have hle : Position.of r.top r.left ≤ Position.of r.bottom r.right := by
    have hlines := r.top_le_bottom
    have hcolumns := r.left_le_right
    rw [Position.le_iff, Position.line_of, Position.line_of, Position.column_of, Position.column_of]
    omega
  rw [span, Span.ordered, dif_pos hle, Span.contains, Bool.and_eq_true, decide_eq_true_eq,
    decide_eq_true_eq, Position.le_iff, Position.lt_iff]
  simp only [Position.line_of, Position.column_of]
  omega

/-- A rectangle without columns has empty segments. -/
theorem isEmpty_of_mem_segments (h : (Selection.rectangle r).isEmpty = true)
    (hs : segment ∈ r.segments reader) : segment.isEmpty = true := by
  have hcolumns : r.anchor.column = r.active.column := of_decide_eq_true h
  obtain ⟨-, raw, -, hstart, hend⟩ := mem_segments_iff.mp hs
  rw [LineSegment.isEmpty, decide_eq_true_eq, hstart, hend, left, right, hcolumns, Nat.min_self,
    Nat.max_self]

/-- **The segments cover the rectangle.** Over every document there is, in ascending order, one
segment for each of its lines between the corners and none for any other line, and each is a part of
its line, the slot after the last character included. A character is covered exactly if it is
between the corners, both by its line and by its column. What is covered is the same for the corners
in the other order and for the two other corners. It lies in the span of the selection; and if the
selection counts as empty, every segment is. -/
theorem segments_cover_rectangle (doc : Document) (r : Rectangle) :
    (r.segments doc.reader).Pairwise (fun s t => s.line < t.line) ∧
    (∀ line, (∃ s ∈ r.segments doc.reader, s.line = line) ↔
      (min r.anchor.line r.active.line ≤ line ∧ line ≤ max r.anchor.line r.active.line) ∧
        1 ≤ line ∧ line ≤ doc.lineCount) ∧
    (∀ s ∈ r.segments doc.reader, ∃ raw, doc.reader.line? s.line = some raw ∧
      s.startColumn ≤ s.endColumn ∧ s.endColumn ≤ raw.length + 1) ∧
    (∀ p raw, doc.reader.line? p.line = some raw → 1 ≤ p.column ∧ p.column ≤ raw.length →
      (r.Covers doc.reader p ↔
        (min r.anchor.line r.active.line ≤ p.line ∧ p.line ≤ max r.anchor.line r.active.line) ∧
          min r.anchor.column r.active.column ≤ p.column ∧
          p.column < max r.anchor.column r.active.column)) ∧
    (Rectangle.mk r.active r.anchor).segments doc.reader = r.segments doc.reader ∧
    (Rectangle.mk (r.anchor.withColumn r.active.column)
      (r.active.withColumn r.anchor.column)).segments doc.reader = r.segments doc.reader ∧
    (∃ span, (Selection.rectangle r).span? = some span ∧
      ∀ p, r.Covers doc.reader p → span.contains p = true) ∧
    ((Selection.rectangle r).isEmpty = true →
      ∀ s ∈ r.segments doc.reader, s.isEmpty = true) := by
  refine ⟨r.pairwise_segments doc.reader, ?_, ?_, ?_, r.segments_swap doc.reader,
    r.segments_exchange doc.reader, ⟨r.span, rfl, ?_⟩, ?_⟩
  · intro line
    rw [exists_segment_iff, doc.isFaithful_reader line]
    exact Iff.rfl
  · intro s hs
    exact segment_within hs
  · intro p raw hraw hcolumn
    rw [covers_iff]
    exact and_iff_left ⟨raw, hraw, hcolumn.2⟩
  · intro p hp
    exact contains_of_covers hp
  · intro h s hs
    exact isEmpty_of_mem_segments h hs

/-- A script with a line that is shorter than those around it. -/
def shortLine : Document := .ofText "  15,R,J\n#\n   1,D".toList

/-- From the bottom left corner to the top right one, over the short line and beyond the end of the
last one; and a rectangle without columns. -/
theorem segments_cover_short_line :
    (shortLine.reader.line? 3 = some "   1,D".toList ∧
      (1 ≤ (Position.of 3 6).column ∧ (Position.of 3 6).column ≤ "   1,D".toList.length) ∧
      Covers ⟨.of 3 5, .of 1 9⟩ shortLine.reader (.of 3 6)) ∧
    (∃ span, (Selection.rectangle ⟨.of 3 5, .of 1 9⟩).span? = some span ∧
      span.contains (.of 3 6) = true) ∧
    (⟨2, 2, 2⟩ ∈ segments ⟨.of 3 5, .of 1 9⟩ shortLine.reader ∧
      ∃ raw, shortLine.reader.line? 2 = some raw ∧ 2 ≤ raw.length + 1) ∧
    (Selection.rectangle ⟨.of 3 5, .of 1 5⟩).isEmpty = true ∧
      ⟨3, 5, 5⟩ ∈ segments ⟨.of 3 5, .of 1 5⟩ shortLine.reader ∧
      (LineSegment.mk 3 5 5).isEmpty = true := by
  obtain ⟨-, -, hwithin, hcovers, -, -, ⟨span, hspan, hcontains⟩, -⟩ :=
    segments_cover_rectangle shortLine ⟨.of 3 5, .of 1 9⟩
  obtain ⟨-, -, -, -, -, -, -, hempty⟩ :=
    segments_cover_rectangle shortLine ⟨.of 3 5, .of 1 5⟩
  have hraw : shortLine.reader.line? 3 = some "   1,D".toList := by decide +kernel
  have hcolumn : 1 ≤ (Position.of 3 6).column ∧
      (Position.of 3 6).column ≤ "   1,D".toList.length := by
    decide
  have hcovered := (hcovers (.of 3 6) _ hraw hcolumn).mpr (by decide)
  have hsecond : ⟨2, 2, 2⟩ ∈ segments ⟨.of 3 5, .of 1 9⟩ shortLine.reader := by decide +kernel
  have hthird : ⟨3, 5, 5⟩ ∈ segments ⟨.of 3 5, .of 1 5⟩ shortLine.reader := by decide +kernel
  obtain ⟨raw, hline, -, hend⟩ := hwithin _ hsecond
  exact ⟨⟨hraw, hcolumn, hcovered⟩, ⟨span, hspan, hcontains _ hcovered⟩,
    ⟨hsecond, raw, hline, hend⟩, rfl, hthird, hempty rfl _ hthird⟩

end Rectangle

end FrameScript
