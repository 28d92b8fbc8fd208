import FrameScript.Text.Basic

/-!
# Blanks

The blank characters are those with the White_Space property: the five controls from tab to
carriage return, the space, U+0085, the no-break space and the spaces and separators of the
General Punctuation, Ogham and CJK blocks. Zero-width space and byte order mark are not blank.

`trim` removes blanks from both ends and `words` cuts a text at runs of them.
-/

namespace FrameScript.Text

/-- The ranges of the White_Space property. -/
def blankTable : CodeTable :=
  [ (0x0009, 0x000D), (0x0020, 0x0020), (0x0085, 0x0085), (0x00A0, 0x00A0), (0x1680, 0x1680),
    (0x2000, 0x200A), (0x2028, 0x2029), (0x202F, 0x202F), (0x205F, 0x205F), (0x3000, 0x3000) ]

/-- Whether a character is a blank. -/
def isBlank (c : Char) : Bool := blankTable.has c

/-- The text without its leading blanks. -/
def trimStart (t : Text) : Text := t.dropWhile isBlank

/-- The text without its trailing blanks. -/
def trimEnd (t : Text) : Text := (trimStart t.reverse).reverse

/-- The text without blanks at either end. -/
def trim (t : Text) : Text := trimEnd (trimStart t)

/-- The non-empty runs of characters between blanks. -/
def words (t : Text) : List Text := (t.splitOnP isBlank).filter (! ·.isEmpty)

/-- A blank parts the words before it from those behind it. -/
theorem words_append_blank {c : Char} (h : isBlank c = true) (t rest : Text) :
    words (t ++ c :: rest) = words t ++ words rest := by
  rw [words, List.splitOnP_append_cons t rest h, List.filter_append]
  rfl

theorem words_blanks_append {blanks : Text} (h : ∀ c ∈ blanks, isBlank c = true) (t : Text) :
    words (blanks ++ t) = words t := by
  induction blanks with
  | nil => rfl
  | cons c rest ih =>
    rw [List.cons_append, ← List.nil_append (c :: (rest ++ t)),
      words_append_blank (h c (List.mem_cons_self ..)),
      ih fun d hd => h d (List.mem_cons_of_mem _ hd)]
    rfl

/-- Several blanks do no more than one. -/
theorem words_append_blanks {blanks : Text} (hne : blanks ≠ [])
    (h : ∀ c ∈ blanks, isBlank c = true) (t rest : Text) :
    words (t ++ blanks ++ rest) = words t ++ words rest := by
  obtain ⟨c, more, rfl⟩ := List.exists_cons_of_ne_nil hne
  rw [List.append_assoc, List.cons_append, words_append_blank (h c (List.mem_cons_self ..)),
    words_blanks_append fun d hd => h d (List.mem_cons_of_mem _ hd)]

end FrameScript.Text
