import FrameScript.Number.Decimal

/-!
# Reading decimals back

Positional notation is read back as what it says: every place after the point is kept, and zeros
before the point become digits of the number. `positional` is the decimal in that form.

## Main results

* `Decimal.ofText?_toText` — what is written is read, in positional form
* `Decimal.mem_toText` — the characters that a written decimal has
-/

namespace FrameScript

namespace Decimal

/-! ### Cutting a text -/

/-- A run of digits is taken whole if no digit follows it. -/
theorem takeDigits_append_of_head {digits : Text} (hd : ∀ c ∈ digits, c.isDigit = true)
    (rest : Text) (hr : ∀ c ∈ rest.head?, c.isDigit = false) :
    takeDigits (digits ++ rest) = (digits, rest) := by
  have hrest : rest.takeWhile Char.isDigit = [] ∧ rest.dropWhile Char.isDigit = rest := by
    cases rest with
    | nil => exact ⟨rfl, rfl⟩
    | cons c more => simp [hr c rfl]
  rw [takeDigits, List.takeWhile_append_of_pos hd, List.dropWhile_append_of_pos hd, hrest.1,
    hrest.2, List.append_nil]

/-- A sign in front of a digit is read as it was written. -/
theorem takeSign_append {digits : Text} (negative : Bool) (hne : digits ≠ [])
    (hd : ∀ c ∈ digits, c.isDigit = true) (rest : Text) :
    takeSign ((if negative then ['-'] else []) ++ digits ++ rest) = (negative, digits ++ rest) := by
  obtain ⟨c, more, rfl⟩ := List.exists_cons_of_ne_nil hne
  have hc : c.isDigit = true := hd c (List.mem_cons_self ..)
  have hplus : c ≠ '+' := by rintro rfl; exact absurd hc (by decide)
  have hminus : c ≠ '-' := by rintro rfl; exact absurd hc (by decide)
  cases negative with
  | true => rfl
  | false =>
    simp only [Bool.false_eq_true, if_false, List.nil_append, List.cons_append]
    rw [takeSign]
    · exact fun more hmore => hplus (List.cons.inj hmore).1
    · exact fun more hmore => hminus (List.cons.inj hmore).1

/-- Digits without a point are read as a whole number. -/
theorem ofText?_whole {digits : Text} (negative : Bool) (hne : digits ≠ [])
    (hd : ∀ c ∈ digits, c.isDigit = true) :
    ofText? ((if negative then ['-'] else []) ++ digits) =
      some ⟨negative, digitsValue digits, 0⟩ := by
  have hsign := takeSign_append negative hne hd []
  have hdigits := takeDigits_append_of_head hd [] (by simp)
  simp only [List.append_nil] at hsign hdigits
  simp [ofText?, hsign, hdigits, takeFraction, exponentOf?, hne]

/-- Digits on both sides of a point are read together, scaled by the places after the point. -/
theorem ofText?_places {whole fraction : Text} (negative : Bool) (hne : whole ≠ [])
    (hw : ∀ c ∈ whole, c.isDigit = true) (hf : ∀ c ∈ fraction, c.isDigit = true) :
    ofText? ((if negative then ['-'] else []) ++ (whole ++ '.' :: fraction)) =
      some ⟨negative, digitsValue (whole ++ fraction), -(fraction.length : Int)⟩ := by
  have hsign := takeSign_append negative hne hw ('.' :: fraction)
  have hwhole := takeDigits_append_of_head hw ('.' :: fraction) (by simp)
  have hfraction := takeDigits_append_of_head hf [] (by simp)
  simp only [List.append_nil, List.append_assoc] at hsign hfraction
  simp [ofText?, hsign, hwhole, takeFraction, hfraction, exponentOf?, hne]

/-! ### Values of runs of digits -/

theorem digitsValue_append_zeros (digits : Text) (k : Nat) :
    digitsValue (digits ++ List.replicate k '0') = digitsValue digits * Nat.pow 10 k := by
  rw [digitsValue, Nat.ofDigitChars_append, Nat.ofDigitChars_replicate_zero, Nat.mul_comm]
  rfl

theorem digitsValue_leftpad (digits : Text) (k : Nat) :
    digitsValue (digits.leftpad k '0') = digitsValue digits := by
  rw [List.leftpad, digitsValue, Nat.ofDigitChars_append, Nat.ofDigitChars_replicate_zero,
    Nat.mul_zero, digitsValue]

/-! ### Positional notation -/

/-- The decimal that positional notation is read as: zeros before the point count as digits. -/
def positional (d : Decimal) : Decimal :=
  match d.exponent with
  | .ofNat zeros => ⟨d.negative, d.digits * Nat.pow 10 zeros, 0⟩
  | .negSucc _ => d

theorem isDigit_of_mem_leftpad {n k : Nat} {c : Char} (h : c ∈ (wholeText n).leftpad k '0') :
    c.isDigit = true := by
  rw [List.leftpad, List.mem_append] at h
  rcases h with h | h
  · rw [List.eq_of_mem_replicate h]
    decide
  · exact isDigit_of_mem_wholeText h

/-- **What is written is read.** -/
theorem ofText?_toText (d : Decimal) : ofText? d.toText = some d.positional := by
  obtain ⟨negative, digits, exponent⟩ := d
  cases exponent with
  | ofNat zeros =>
    have hne : wholeText digits ++ List.replicate zeros '0' ≠ [] := by
      simp [wholeText_ne_nil]
    have hd : ∀ c ∈ wholeText digits ++ List.replicate zeros '0', c.isDigit = true := by
      intro c hc
      rcases List.mem_append.1 hc with hc | hc
      · exact isDigit_of_mem_wholeText hc
      · rw [List.eq_of_mem_replicate hc]
        decide
    rw [show toText ⟨negative, digits, .ofNat zeros⟩ =
        (if negative then ['-'] else []) ++ (wholeText digits ++ List.replicate zeros '0') from rfl,
      ofText?_whole negative hne hd, digitsValue_append_zeros, digitsValue_wholeText]
    rfl
  | negSucc k =>
    have hlong : k + 1 < ((wholeText digits).leftpad (k + 2) '0').length := by
      rw [List.length_leftpad]
      omega
    have hdigit : ∀ c ∈ (wholeText digits).leftpad (k + 2) '0', c.isDigit = true :=
      fun c hc => isDigit_of_mem_leftpad hc
    generalize hpad : (wholeText digits).leftpad (k + 2) '0' = padded at hlong hdigit
    have hne : padded.take (padded.length - (k + 1)) ≠ [] := by
      intro h
      have := congrArg List.length h
      rw [List.length_take, List.length_nil] at this
      omega
    rw [show toText ⟨negative, digits, .negSucc k⟩ = (if negative then ['-'] else []) ++
        (padded.take (padded.length - (k + 1)) ++ '.' :: padded.drop (padded.length - (k + 1)))
        by simp only [toText, placesText, hpad],
      ofText?_places negative hne (fun c hc => hdigit c (List.mem_of_mem_take hc))
        (fun c hc => hdigit c (List.mem_of_mem_drop hc)),
      List.take_append_drop, ← hpad, digitsValue_leftpad, digitsValue_wholeText, hpad,
      List.length_drop, show padded.length - (padded.length - (k + 1)) = k + 1 by omega]
    rfl

/-- The characters of positional notation. -/
theorem mem_toText {d : Decimal} {c : Char} (h : c ∈ d.toText) :
    c.isDigit = true ∨ c = '-' ∨ c = '.' := by
  obtain ⟨negative, digits, exponent⟩ := d
  rw [toText, List.mem_append] at h
  rcases h with h | h
  · split at h <;> simp_all
  · cases exponent with
    | ofNat zeros =>
      rcases List.mem_append.1 h with h | h
      · exact Or.inl (isDigit_of_mem_wholeText h)
      · rw [List.eq_of_mem_replicate h]
        exact Or.inl (by decide)
    | negSucc k =>
      rcases List.mem_append.1 h with h | h
      · exact Or.inl (isDigit_of_mem_leftpad (List.mem_of_mem_take h))
      · rcases List.mem_cons.1 h with rfl | h
        · exact Or.inr (Or.inr rfl)
        · exact Or.inl (isDigit_of_mem_leftpad (List.mem_of_mem_drop h))

end Decimal

end FrameScript
