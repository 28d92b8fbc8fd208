import FrameScript.Number.Binary64
import FrameScript.Proofs.Number.Decimal

/-!
# Reading floating point numbers back

The shortest decimal of a finite number is read as that number. For the candidates on the grids of
one to seventeen digits this is what the search tests; if it finds none, the exact decimal of 1074
places stands behind it, and rounding does not change a number that the format can hold.

The exponents `1074` and `2098` are generalised before anything is computed with them: no proof
evaluates a power of that size.

## Main results

* `Binary64.ofDecimal_shortest` — the shortest decimal has the value that it stands for
* `Binary64.ofText?_toText` — a finite number is read back from its text
-/

namespace FrameScript

namespace Binary64

/-! ### Powers -/

theorem pow_five_mul_pow_two (k : Nat) : Nat.pow 5 k * Nat.pow 2 k = Nat.pow 10 k :=
  (Nat.mul_pow 5 2 k).symm

theorem pow_two_add (j k : Nat) : Nat.pow 2 (j + k) = Nat.pow 2 j * Nat.pow 2 k :=
  Nat.pow_add 2 j k

theorem pow_pos_of_pos {b : Nat} (hb : 0 < b) (k : Nat) : 0 < Nat.pow b k := Nat.pow_pos hb

/-- A number of more than 400 digits is too large for the format. -/
theorem unitsOfInfinity_le {digits k : Nat} (hpos : 0 < digits) (hk : 400 ≤ k) :
    unitsOfInfinity ≤ digits * Nat.pow 10 k * unitsOfOne := by
  unfold unitsOfInfinity unitsOfOne
  have hexp : 2098 = 1024 + 1074 := rfl
  have hlt : 1024 ≤ 3 * k := by omega
  generalize 2098 = n, 1074 = one, 1024 = j at hexp hlt ⊢
  rw [hexp, pow_two_add]
  refine Nat.mul_le_mul_right _ ?_
  calc Nat.pow 2 j ≤ Nat.pow 2 (3 * k) := Nat.pow_le_pow_right (by decide) hlt
    _ = Nat.pow 8 k := Nat.pow_mul 2 3 k
    _ ≤ Nat.pow 10 k := Nat.pow_le_pow_left (by decide) k
    _ ≤ digits * Nat.pow 10 k := Nat.le_mul_of_pos_left _ hpos

theorem le_log2_mul_pow_five {units : Nat} (k : Nat) (hpos : units ≠ 0) :
    k ≤ (units * Nat.pow 5 k).log2 := by
  refine (Nat.le_log2 (Nat.mul_ne_zero hpos (Nat.ne_of_gt (pow_pos_of_pos (by decide) k)))).2 ?_
  calc Nat.pow 2 k ≤ 1 * Nat.pow 5 k := by
        rw [Nat.one_mul]
        exact Nat.pow_le_pow_left (by decide) k
    _ ≤ units * Nat.pow 5 k := Nat.mul_le_mul_right _ (Nat.one_le_iff_ne_zero.2 hpos)

/-! ### Rounding -/

/-- A whole quotient is not changed by rounding. -/
theorem roundHalfEven_mul {q den : Nat} (hden : 0 < den) : roundHalfEven (q * den) den = q := by
  rw [roundHalfEven, Nat.mul_mod_left, Nat.mul_div_cancel _ hden]
  simp [hden]

theorem le_roundHalfEven (num den : Nat) : num / den ≤ roundHalfEven num den := by
  simp only [roundHalfEven]
  split
  · exact Nat.le_refl _
  · split <;> omega

/-- What the format can hold is not changed by rounding. -/
theorem roundToFormat_mul {units den : Nat} (h : Representable units) (hden : 0 < den) :
    roundToFormat (units * den) den = units := by
  obtain ⟨q, hq⟩ := Nat.dvd_of_mod_eq_zero h.2
  rw [roundToFormat, Nat.mul_div_cancel _ hden]
  generalize hstep : Nat.pow 2 (units.log2 - 52) = step at hq ⊢
  have hpos : 0 < step := hstep ▸ pow_pos_of_pos (by decide) _
  have hnum : units * den = q * (den * step) := by
    rw [hq, Nat.mul_comm step q, Nat.mul_assoc, Nat.mul_comm step den]
  rw [hnum, roundHalfEven_mul (Nat.mul_pos hden hpos), Nat.mul_comm, ← hq]

/-- A whole number stays above a power of two when it is rounded. -/
theorem pow_two_le_roundToFormat {k num : Nat} (hk : 52 ≤ k) (h : Nat.pow 2 k ≤ num) :
    Nat.pow 2 k ≤ roundToFormat num 1 := by
  have hne : num ≠ 0 := Nat.ne_of_gt (Nat.lt_of_lt_of_le (pow_pos_of_pos (by decide) k) h)
  have hlog : k ≤ num.log2 := (Nat.le_log2 hne).2 h
  have hsplit : Nat.pow 2 52 * Nat.pow 2 (num.log2 - 52) ≤ num := by
    rw [← pow_two_add, show 52 + (num.log2 - 52) = num.log2 by omega]
    exact Nat.log2_self_le hne
  have hquot : Nat.pow 2 52 ≤ num / Nat.pow 2 (num.log2 - 52) :=
    (Nat.le_div_iff_mul_le (pow_pos_of_pos (by decide) _)).2 hsplit
  calc Nat.pow 2 k ≤ Nat.pow 2 (52 + (num.log2 - 52)) :=
        Nat.pow_le_pow_right (by decide) (by omega)
    _ = Nat.pow 2 52 * Nat.pow 2 (num.log2 - 52) := pow_two_add _ _
    _ ≤ num / Nat.pow 2 (num.log2 - 52) * Nat.pow 2 (num.log2 - 52) :=
        Nat.mul_le_mul_right _ hquot
    _ ≤ roundToFormat num 1 := by
        rw [roundToFormat, Nat.div_one, Nat.one_mul]
        exact Nat.mul_le_mul_right _ (le_roundHalfEven _ _)

theorem ofUnits_of_representable {units : Nat} (negative : Bool) (h : Representable units) :
    ofUnits negative units = finite negative units h := dif_pos h

/-- A whole number of units that is too large is rounded to infinity. -/
theorem ofUnits_round_of_le {num : Nat} (negative : Bool) (h : unitsOfInfinity ≤ num) :
    ofUnits negative (roundToFormat num 1) = infinite negative := by
  have hle : unitsOfInfinity ≤ roundToFormat num 1 := by
    unfold unitsOfInfinity at h ⊢
    have hk : 52 ≤ 2098 := by decide
    generalize 2098 = k at hk h ⊢
    exact pow_two_le_roundToFormat hk h
  exact dif_neg fun hr => Nat.not_lt.2 hle hr.1

/-! ### The shortest decimal -/

theorem ofDecimal_ofNat (negative : Bool) (digits zeros : Nat) :
    ofDecimal ⟨negative, digits, .ofNat zeros⟩ = ofUnits negative
      (roundToFormat (digits * Nat.pow 10 (min zeros 400) * unitsOfOne) 1) := by
  simp only [ofDecimal]

theorem ofDecimal_negSucc (negative : Bool) (digits k : Nat) :
    ofDecimal ⟨negative, digits, .negSucc k⟩ = ofUnits negative
      (roundToFormat (digits * unitsOfOne) (Nat.pow 10 (min (k + 1) (digits.log2 + 401)))) := by
  simp only [ofDecimal]

theorem ofDecimal_zero (negative : Bool) (h : Representable 0) (zeros : Nat) :
    ofDecimal ⟨negative, 0, .ofNat zeros⟩ = finite negative 0 h := by
  have hround := roundToFormat_mul h (Nat.zero_lt_one)
  rw [ofDecimal_ofNat, Nat.zero_mul, Nat.zero_mul]
  rw [Nat.zero_mul] at hround
  rw [hround, ofUnits_of_representable]

theorem ofDecimal_of_nearer? {x : Binary64} {below above d : Decimal} {belowIsNearer : Bool}
    (h : nearer? x below above belowIsNearer = some d) : ofDecimal d = x := by
  rw [nearer?] at h
  split at h
  · split at h <;> cases h <;> simp_all
  · cases h
    simp_all
  · cases h
    simp_all
  · cases h

theorem ofDecimal_of_onGrid? {negative : Bool} {units count : Nat} {x : Binary64} {d : Decimal}
    (h : onGrid? negative units x count = some d) : ofDecimal d = x :=
  ofDecimal_of_nearer? h

/-- Every number of units is exactly a decimal of 1074 places. -/
theorem ofDecimal_exact {units : Nat} (negative : Bool) (hpos : units ≠ 0)
    (h : Representable units) :
    ofDecimal ⟨negative, units * Nat.pow 5 1074, -1074⟩ = finite negative units h := by
  rw [show (-1074 : Int) = .negSucc 1073 from rfl, ofDecimal_negSucc]
  unfold unitsOfOne
  have hplaces : 1073 + 1 = 1074 := rfl
  generalize 1074 = k at hplaces ⊢
  rw [hplaces, Nat.min_eq_left (Nat.le_add_right_of_le (le_log2_mul_pow_five k hpos)),
    Nat.mul_assoc, pow_five_mul_pow_two, roundToFormat_mul h (pow_pos_of_pos (by decide) k),
    ofUnits_of_representable]

/-- The shortest decimal is read as the number that it stands for. -/
theorem ofDecimal_shortest {units : Nat} (negative : Bool) (h : Representable units) :
    ofDecimal (shortest negative units h) = finite negative units h := by
  rw [shortest]
  split
  · rename_i hzero
    subst hzero
    exact ofDecimal_zero negative h 0
  · rename_i hpos
    dsimp only
    cases hgrid : (List.range' 1 17).findSome?
        (onGrid? negative units (finite negative units h)) with
    | some d =>
      obtain ⟨count, -, hcount⟩ := List.exists_of_findSome?_eq_some hgrid
      exact ofDecimal_of_onGrid? hcount
    | none => exact ofDecimal_exact negative hpos h

/-! ### Reading what was written -/

/-- A number of more than 400 digits before the point is infinite. -/
theorem ofDecimal_of_le_zeros {digits zeros : Nat} (negative : Bool) (hpos : 0 < digits)
    (hlarge : 400 ≤ zeros) : ofDecimal ⟨negative, digits, .ofNat zeros⟩ = infinite negative := by
  rw [ofDecimal_ofNat]
  exact ofUnits_round_of_le negative
    (unitsOfInfinity_le hpos (Nat.le_min.2 ⟨hlarge, Nat.le_refl _⟩))

/-- Zeros before the point do not change a finite value. -/
theorem ofDecimal_positional {d : Decimal} (h : (ofDecimal d).isFinite = true) :
    ofDecimal d.positional = ofDecimal d := by
  obtain ⟨negative, digits, exponent⟩ := d
  cases exponent with
  | negSucc k => rfl
  | ofNat zeros =>
    show ofDecimal ⟨negative, digits * Nat.pow 10 zeros, .ofNat 0⟩ = _
    rw [ofDecimal_ofNat, ofDecimal_ofNat, Nat.zero_min,
      show Nat.pow 10 0 = 1 from rfl, Nat.mul_one]
    rcases Nat.le_total zeros 400 with hsmall | hlarge
    · rw [Nat.min_eq_left hsmall]
    · -- more than 400 zeros: the value is zero, or else it would not be finite
      rcases Nat.eq_zero_or_pos digits with rfl | hpos
      · simp only [Nat.zero_mul]
      · rw [ofDecimal_of_le_zeros negative hpos hlarge] at h
        exact absurd h Bool.false_ne_true

/-- **A finite number is read back from its text.** -/
theorem ofText?_toText {x : Binary64} (h : x.isFinite = true) : ofText? x.toText = some x := by
  cases x with
  | nan => exact absurd h Bool.false_ne_true
  | infinite negative => exact absurd h Bool.false_ne_true
  | finite negative units hr =>
    have hback := ofDecimal_shortest negative hr
    rw [toText, ofText?, Decimal.ofText?_toText]
    show some (ofDecimal (shortest negative units hr).positional) = _
    rw [ofDecimal_positional (by rw [hback]; rfl), hback]

/-! ### The text of a finite number -/

theorem toText_ne_nil {x : Binary64} (h : x.isFinite = true) : x.toText ≠ [] := by
  intro hnil
  have hback := ofText?_toText h
  rw [hnil] at hback
  exact absurd hback (by simp [ofText?, Decimal.ofText?, Decimal.takeSign, Decimal.takeDigits,
    Decimal.takeFraction, isWord])

theorem mem_toText {x : Binary64} (h : x.isFinite = true) {c : Char} (hc : c ∈ x.toText) :
    c.isDigit = true ∨ c = '-' ∨ c = '.' := by
  cases x with
  | nan => exact absurd h Bool.false_ne_true
  | infinite negative => exact absurd h Bool.false_ne_true
  | finite negative units hr => exact Decimal.mem_toText hc

end Binary64

end FrameScript
