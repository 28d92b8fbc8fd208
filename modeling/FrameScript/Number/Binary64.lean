import FrameScript.Number.Decimal

/-!
# Binary floating point numbers of 64 bits

The values of the usual double format, held exactly: a finite number is a sign and a whole number
of units, one unit being the smallest positive number `2 ^ -1074`. Reading a decimal rounds it to
the nearest value of the format, a tie going to the one with an even significand; what is too
large becomes infinite.

## Implementation notes

The format keeps 53 significant bits, so of a number of units all but the top 53 bits must be
zero. That and the bound on the exponent are the two halves of `Representable`, which every finite
value carries as a proof. Two values are equal exactly if they are written alike: minus zero
differs from zero, and there is one value that is not a number.
-/

namespace FrameScript

/-- The number one in units. -/
def unitsOfOne : Nat := Nat.pow 2 1074

/-- The number `2 ^ 1024` in units: the first that is too large. -/
def unitsOfInfinity : Nat := Nat.pow 2 2098

/-- Whether the format has a value of so many units: at most 53 significant bits, and less than
`2 ^ 1024` in all. -/
def Representable (units : Nat) : Prop :=
  units < unitsOfInfinity ∧ units % Nat.pow 2 (units.log2 - 52) = 0

instance (units : Nat) : Decidable (Representable units) := by
  unfold Representable; infer_instance

/-- A value of the double format. -/
inductive Binary64
  | nan
  | infinite (negative : Bool)
  /-- The number `± units · 2 ^ -1074`. -/
  | finite (negative : Bool) (units : Nat) (representable : Representable units)
deriving DecidableEq

namespace Binary64

/-- Whether a value is a number and not infinite. -/
def isFinite : Binary64 → Bool
  | finite .. => true
  | _ => false

/-- The value of so many units; infinite if they do not fit the format. -/
def ofUnits (negative : Bool) (units : Nat) : Binary64 :=
  if h : Representable units then finite negative units h else infinite negative

/-! ### Rounding -/

/-- A quotient rounded to the nearest whole number, a tie going to the even one. -/
def roundHalfEven (num den : Nat) : Nat :=
  let quotient := num / den
  let remainder := num % den
  if 2 * remainder < den then quotient
  else if den < 2 * remainder then quotient + 1
  else quotient + quotient % 2

/-- A quotient rounded to 53 significant bits. -/
def roundToFormat (num den : Nat) : Nat :=
  let step := Nat.pow 2 ((num / den).log2 - 52)
  roundHalfEven num (den * step) * step

/-- The value nearest to a decimal. Powers of ten far beyond the range of the format are cut down
first: beyond the bounds taken here, every number is infinite or zero. -/
def ofDecimal (d : Decimal) : Binary64 :=
  match d.exponent with
  | .ofNat k =>
    ofUnits d.negative (roundToFormat (d.digits * Nat.pow 10 (min k 400) * unitsOfOne) 1)
  | .negSucc k =>
    let places := min (k + 1) (d.digits.log2 + 401)
    ofUnits d.negative (roundToFormat (d.digits * unitsOfOne) (Nat.pow 10 places))

/-! ### Reading -/

/-- Whether two texts agree but for the case of ASCII letters, the second being in lower case. -/
def isWord (t : Text) (word : String) : Bool := t.map Char.toLower = word.toList

/-- Reads a decimal, or one of the words for infinity and for what is not a number, with or
without sign and in any case. -/
def ofText? (t : Text) : Option Binary64 :=
  match Decimal.ofText? t with
  | some d => some (ofDecimal d)
  | none =>
    let (negative, rest) := Decimal.takeSign t
    if isWord rest "inf" || isWord rest "infinity" then some (infinite negative)
    else if isWord rest "nan" then some nan
    else none

/-! ### Writing -/

/-- A positive number of units scaled by a power of ten, as a fraction. -/
def scaled (units : Nat) (exponent : Int) : Nat × Nat :=
  match exponent with
  | .ofNat k => (units, unitsOfOne * Nat.pow 10 k)
  | .negSucc k => (units * Nat.pow 10 (k + 1), unitsOfOne)

/-- The exponent of the leading digit, counted so that `1` has exponent one. -/
def leadingExponent (units : Nat) : Int :=
  (Decimal.wholeText (units * Nat.pow 10 400 / unitsOfOne)).length - 400

/-- Of two neighbouring decimals the one that is read as the given number; if both are, the one
below if it is nearer. -/
def nearer? (x : Binary64) (below above : Decimal) (belowIsNearer : Bool) : Option Decimal :=
  match decide (ofDecimal below = x), decide (ofDecimal above = x) with
  | true, true => if belowIsNearer then some below else some above
  | true, false => some below
  | false, true => some above
  | false, false => none

/-- A decimal of at most so many digits that is read as the given number, if there is one: of its
two neighbours on the grid of such decimals the nearer, or the larger if both are equally near. -/
def onGrid? (negative : Bool) (units : Nat) (x : Binary64) (count : Nat) : Option Decimal :=
  let lead := leadingExponent units
  let exponent := lead - count
  let fraction := scaled units exponent
  let quotient := fraction.1 / fraction.2
  let remainder := fraction.1 % fraction.2
  let above : Decimal :=
    if quotient + 1 = Nat.pow 10 count then ⟨negative, 1, lead⟩
    else ⟨negative, quotient + 1, exponent⟩
  nearer? x ⟨negative, quotient, exponent⟩ above (2 * remainder < fraction.2)

/-- The decimal of fewest digits that is read as the given number of units. Seventeen digits
always suffice; the exact value stands behind them. -/
def shortest (negative : Bool) (units : Nat) (h : Representable units) : Decimal :=
  if units = 0 then ⟨negative, 0, 0⟩
  else
    let exact : Decimal := ⟨negative, units * Nat.pow 5 1074, -1074⟩
    ((List.range' 1 17).findSome? (onGrid? negative units (finite negative units h))).getD exact

/-- The shortest decimal text that is read as the value, in positional notation. -/
def toText : Binary64 → Text
  | nan => "NaN".toList
  | infinite negative => if negative then "-inf".toList else "inf".toList
  | finite negative units h => (shortest negative units h).toText

end Binary64

end FrameScript
