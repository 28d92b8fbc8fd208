/-!
# Text as a list of characters

Every column, offset and length in this library counts characters, so text is a list of them. A
`String` appears only where a fixed word or a message is written down.

Fields are cut at commas by `List.splitOn` and words at blanks by `List.splitOnP`; what the pieces
hold is `not_separator_of_mem_splitOnP`. Properties of characters are tables of code points.
-/

namespace FrameScript

/-- A piece of text, character by character. -/
abbrev Text := List Char

namespace Text

/-- The pieces of a text cut at separators hold no separator. -/
theorem not_separator_of_mem_splitOnP {p : Char → Bool} {t piece : Text}
    (h : piece ∈ t.splitOnP p) : ∀ c ∈ piece, p c = false := by
  induction t generalizing piece with
  | nil => simp_all
  | cons c rest ih =>
    rw [List.splitOnP_cons_eq_if_modifyHead] at h
    split at h
    · rcases List.mem_cons.1 h with rfl | h
      · simp
      · exact ih h
    · obtain ⟨first, more, hs⟩ := List.exists_cons_of_ne_nil (List.splitOnP_ne_nil p rest)
      rw [hs] at h ih
      rcases List.mem_cons.1 h with rfl | h
      · intro d hd
        rcases List.mem_cons.1 hd with rfl | hd
        · simp_all
        · exact ih (List.mem_cons_self ..) d hd
      · exact ih (List.mem_cons_of_mem _ h)

end Text

/-! ### Tables of code points -/

/-- A property of characters, given by the ranges of code points that have it: first and last
code point of each range, in ascending order. -/
abbrev CodeTable := List (Nat × Nat)

namespace CodeTable

/-- Whether a code point lies in one of the ranges. The ranges ascend, so the search stops at the
first range that begins after it. -/
def covers : CodeTable → Nat → Bool
  | [], _ => false
  | (first, last) :: rest, n => if n < first then false else n ≤ last || covers rest n

/-- Whether a character has the property. -/
def has (table : CodeTable) (c : Char) : Bool := table.covers c.toNat

end CodeTable

end FrameScript
