import FrameScript.Text.Blank
import Mathlib.Data.List.TakeWhile

/-!
# Trimming

Blanks around a text go, and nothing else does: a text is its trimmed text between blanks, and a
text without blanks is left as it is.

## Main results

* `Text.trim_blanks_append`, `Text.trim_append_blanks` — blanks at either end go
* `Text.exists_eq_blanks_trim` — and nothing else does
* `Text.trim_eq_nil_iff` — nothing is left of blanks, and of blanks only
* `Text.trim_of_not_blank` — a text without blanks is its own trimmed text
-/

namespace FrameScript

namespace Text

theorem trimStart_of_not_blank {t : Text} (h : ∀ c ∈ t, isBlank c = false) : trimStart t = t := by
  cases t with
  | nil => rfl
  | cons c rest =>
    rw [trimStart, List.dropWhile_cons_of_neg]
    rw [h c (List.mem_cons_self ..)]
    exact Bool.false_ne_true

theorem trimEnd_of_not_blank {t : Text} (h : ∀ c ∈ t, isBlank c = false) : trimEnd t = t := by
  rw [trimEnd, trimStart_of_not_blank fun c hc => h c (List.mem_reverse.mp hc),
    List.reverse_reverse]

theorem trim_of_not_blank {t : Text} (h : ∀ c ∈ t, isBlank c = false) : trim t = t := by
  rw [trim, trimStart_of_not_blank h, trimEnd_of_not_blank h]

/-! ### Blanks at either end -/

theorem trim_blanks_append {before : Text} (h : ∀ c ∈ before, isBlank c = true) (t : Text) :
    trim (before ++ t) = trim t := by
  rw [trim, trimStart, List.dropWhile_append_of_pos h]
  rfl

theorem trimEnd_append_blanks {after : Text} (h : ∀ c ∈ after, isBlank c = true) (t : Text) :
    trimEnd (t ++ after) = trimEnd t := by
  rw [trimEnd, List.reverse_append, trimStart,
    List.dropWhile_append_of_pos fun c hc => h c (List.mem_reverse.mp hc)]
  rfl

theorem trim_append_blanks {after : Text} (h : ∀ c ∈ after, isBlank c = true) (t : Text) :
    trim (t ++ after) = trim t := by
  rw [trim, trim, trimStart, List.dropWhile_append]
  split
  · rename_i hnil
    rw [List.dropWhile_eq_nil_iff.mpr h, trimStart, List.isEmpty_iff.mp hnil]
  · exact trimEnd_append_blanks h _

/-- **A text is its trimmed text between blanks.** -/
theorem exists_eq_blanks_trim (t : Text) :
    ∃ before after, (∀ c ∈ before, isBlank c = true) ∧ (∀ c ∈ after, isBlank c = true) ∧
      t = before ++ (trim t ++ after) := by
  have hend : (trimStart t).reverse.takeWhile isBlank ++ trimStart (trimStart t).reverse =
      (trimStart t).reverse := List.takeWhile_append_dropWhile
  refine ⟨t.takeWhile isBlank, ((trimStart t).reverse.takeWhile isBlank).reverse,
    fun c hc => List.mem_takeWhile_imp hc,
    fun c hc => List.mem_takeWhile_imp (List.mem_reverse.mp hc), ?_⟩
  rw [trim, trimEnd, ← List.reverse_append, hend, List.reverse_reverse]
  exact List.takeWhile_append_dropWhile.symm

theorem trim_eq_nil_iff {t : Text} : trim t = [] ↔ ∀ c ∈ t, isBlank c = true := by
  constructor
  · intro hnil c hc
    obtain ⟨before, after, hbefore, hafter, ht⟩ := exists_eq_blanks_trim t
    rw [hnil, List.nil_append] at ht
    rw [ht] at hc
    rcases List.mem_append.mp hc with hc | hc
    · exact hbefore c hc
    · exact hafter c hc
  · intro h
    have hnil := trim_append_blanks h []
    rwa [List.nil_append] at hnil

theorem trim_spaces_append {t : Text} (h : ∀ c ∈ t, isBlank c = false) (n : Nat) :
    trim (List.replicate n ' ' ++ t) = t := by
  have hspaces : ∀ c ∈ List.replicate n ' ', isBlank c = true := by
    intro c hc
    rw [List.eq_of_mem_replicate hc]
    decide
  rw [trim_blanks_append hspaces, trim_of_not_blank h]

/-! ### Characters that are not blank -/

/-- Digits are not blank: the table has no range between the space and U+0085. -/
theorem not_blank_of_isDigit {c : Char} (h : c.isDigit = true) : isBlank c = false := by
  have hlow : 48 ≤ c.toNat := of_decide_eq_true (Bool.and_eq_true_iff.mp h).1
  have hhigh : c.toNat < 58 := Nat.lt_succ_of_le (of_decide_eq_true (Bool.and_eq_true_iff.mp h).2)
  have htable : ∀ n : Fin 58, 48 ≤ n.val → blankTable.covers n.val = false := by decide
  exact htable ⟨c.toNat, hhigh⟩ hlow

end Text

end FrameScript
