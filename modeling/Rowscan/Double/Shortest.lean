import Rowscan.Double.Basic

/-!
The fewest decimal digits that read back as a given double. For one digit, two digits and so on
the two decimal numbers next to the double are tried; the first count at which one of them
rounds to the double decides, and of two the nearer is taken.
-/
namespace Rowscan.Double

/-- What happens when two decimal numbers of the same length are equally near. -/
inductive TieRule where
  | upward
  | even
  deriving DecidableEq

/-- How many decimal digits a number has; zero has one. -/
def decimalLength (n : Nat) : Nat := (Nat.toDigits 10 n).length

/-- The position `p` of the decimal point: a positive `num / den` is below `10 ^ p` and not
below `10 ^ (p - 1)`. -/
def pointOf (num den : Nat) : Int :=
  if den ≤ num then decimalLength (num / den) else 1 - decimalLength ((den - 1) / num)

/-- A magnitude in units as a quotient counting steps of `10 ^ scale`. -/
def inSteps (units : Nat) (scale : Int) : Nat × Nat :=
  if 0 ≤ scale then (units, one * Nat.pow 10 scale.toNat)
  else (units * Nat.pow 10 (-scale).toNat, one)

/-- The magnitude, in units, of the double nearest to `count` steps of `10 ^ scale`. -/
def unitsOfDecimal (count : Nat) (scale : Int) : Nat :=
  if 0 ≤ scale then roundUnits (count * Nat.pow 10 scale.toNat * one) 1
  else roundUnits (count * one) (Nat.pow 10 (-scale).toNat)

/-- Whether the multiple of `10 ^ scale` below a magnitude is the nearer of its neighbours. -/
def lowerIsNearer (tie : TieRule) (num den : Nat) : Bool :=
  match compare (2 * (num % den)) den, tie with
  | .lt, _ => true
  | .gt, _ => false
  | .eq, .upward => false
  | .eq, .even => num / den % 2 = 0

/-- The nearest multiple of `10 ^ scale` that reads back as the magnitude, if one of the two
neighbours does. -/
def neighbour? (tie : TieRule) (units : Nat) (scale : Int) : Option Nat :=
  let (num, den) := inSteps units scale
  let below := num / den
  let tried := if lowerIsNearer tie num den then [below, below + 1] else [below + 1, below]
  tried.find? (unitsOfDecimal · scale = units)

/-- Decimal digits and where the point stands: `0.d₁d₂… × 10 ^ point`. -/
structure Decimal where
  digits : List Char
  point : Int
  deriving DecidableEq

/-- The decimal number of `count` steps of `10 ^ scale`, without zeros at the end. -/
def Decimal.ofSteps (count : Nat) (scale : Int) : Decimal :=
  let digits := Nat.toDigits 10 count
  { digits := (digits.reverse.dropWhile (· == '0')).reverse, point := digits.length + scale }

/-- The shortest decimal number found with at least `length` digits, trying `attempts` lengths;
after the last one the digits are taken as they are. -/
def shortestFrom (tie : TieRule) (units : Nat) (point : Int) (length : Nat) : Nat → Decimal
  | 0 =>
    let (num, den) := inSteps units (point - length)
    .ofSteps (num / den) (point - length)
  | attempts + 1 =>
    match neighbour? tie units (point - length) with
    | some count => .ofSteps count (point - length)
    | none => shortestFrom tie units point (length + 1) attempts

/-- The shortest decimal number that reads back as the magnitude; 17 digits always suffice. -/
def shortest (tie : TieRule) (units : Nat) : Decimal :=
  if units = 0 then { digits := ['0'], point := 1 }
  else shortestFrom tie units (pointOf units one) 1 17

end Rowscan.Double
