import FrameScript.Text.Basic

/-!
# Decimal numbers as text

A `Decimal` is a whole number of digits scaled by a power of ten, with a sign of its own so that
minus zero exists. `Decimal.ofText?` reads the usual notation, with or without point and exponent;
`Decimal.toText` writes positional notation and never an exponent.

## Implementation notes

Writing is exact about places: a negative exponent `-k` becomes exactly `k` digits after the
point, trailing zeros included, and a positive one becomes zeros before it. Reading a text written
that way gives the same digits and places back.
-/

namespace FrameScript

/-- The number `± digits · 10 ^ exponent`. -/
structure Decimal where
  negative : Bool
  digits : Nat
  exponent : Int
deriving DecidableEq, Repr

namespace Decimal

/-! ### Writing -/

/-- The digits of a whole number, without leading zeros. -/
def wholeText (n : Nat) : Text := Nat.toDigits 10 n

/-- The digits of a number with so many places after the point; at least one digit stands before
the point. -/
def placesText (n places : Nat) : Text :=
  let digits := (wholeText n).leftpad (places + 1) '0'
  digits.take (digits.length - places) ++ '.' :: digits.drop (digits.length - places)

/-- Positional notation. -/
def toText (d : Decimal) : Text :=
  (if d.negative then ['-'] else []) ++
    match d.exponent with
    | .ofNat zeros => wholeText d.digits ++ List.replicate zeros '0'
    | .negSucc k => placesText d.digits (k + 1)

/-! ### Reading -/

/-- A leading sign, and what follows it. The flag is true for a minus. -/
def takeSign : Text → Bool × Text
  | '+' :: rest => (false, rest)
  | '-' :: rest => (true, rest)
  | rest => (false, rest)

/-- The ASCII digits a text begins with, and what follows them. -/
def takeDigits (t : Text) : Text × Text := (t.takeWhile Char.isDigit, t.dropWhile Char.isDigit)

/-- The value of a run of digits. -/
def digitsValue (digits : Text) : Nat := Nat.ofDigitChars 10 digits 0

/-- The exponent that ends a number, zero if there is none. -/
def exponentOf? : Text → Option Int
  | [] => some 0
  | c :: rest =>
    if c = 'e' ∨ c = 'E' then
      let (negative, rest) := takeSign rest
      let (digits, rest) := takeDigits rest
      if digits = [] ∨ rest ≠ [] then none
      else if negative then some (-(digitsValue digits : Int)) else some (digitsValue digits : Int)
    else none

/-- The digits after a point, and what follows them. -/
def takeFraction : Text → Text × Text
  | '.' :: rest => takeDigits rest
  | rest => ([], rest)

/-- Reads a sign, digits with or without a point among or beside them, and an exponent; sign and
exponent may be missing, but not all of the digits. -/
def ofText? (t : Text) : Option Decimal :=
  let (negative, rest) := takeSign t
  let (whole, rest) := takeDigits rest
  let (fraction, rest) := takeFraction rest
  if whole = [] ∧ fraction = [] then none
  else
    (exponentOf? rest).map fun exponent =>
      ⟨negative, digitsValue (whole ++ fraction), exponent - fraction.length⟩

/-! ### Small facts -/

theorem digitsValue_wholeText (n : Nat) : digitsValue (wholeText n) = n :=
  Nat.ofDigitChars_ten_toDigits

theorem wholeText_ne_nil (n : Nat) : wholeText n ≠ [] := Nat.toDigits_ne_nil

theorem isDigit_of_mem_wholeText {n : Nat} {c : Char} (h : c ∈ wholeText n) : c.isDigit = true :=
  Nat.isDigit_of_mem_toDigits (by decide) (by decide) h

end Decimal

end FrameScript
