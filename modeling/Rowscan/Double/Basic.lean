/-!
Binary floating point in double precision, held exactly. The smallest positive double is
2^-1074, so the magnitude of every finite double is a whole number of such units, and
arithmetic is exact arithmetic on units followed by one rounding to the nearest double, a tie
going to the even neighbour.
-/
namespace Rowscan

namespace Double

/-- One is this power of two, in units. -/
def unitExponent : Nat := 1074

/-- The number of units in one. -/
def one : Nat := Nat.pow 2 unitExponent

/-- Every finite magnitude is below this power of two, in units. -/
def topExponent : Nat := 2098

/-- The first power of two beyond every finite magnitude, in units. -/
def beyond : Nat := Nat.pow 2 topExponent

/-- The distance between doubles around a magnitude of so many units: 53 binary digits are
kept. -/
def spacing (units : Nat) : Nat := Nat.pow 2 (units.log2 - 52)

/-- The magnitude belongs to a finite double. -/
def Fits (units : Nat) : Prop := units < beyond ∧ units % spacing units = 0

instance (units : Nat) : Decidable (Fits units) := by unfold Fits; infer_instance

end Double

/-- A double: not a number, an infinity, or a sign and a magnitude in units. -/
inductive Double where
  | nan
  | infinite (negative : Bool)
  | finite (negative : Bool) (units : Nat) (fits : Double.Fits units)
  deriving DecidableEq

namespace Double

private theorem two_pow_pos (n : Nat) : 0 < Nat.pow 2 n := Nat.two_pow_pos n

theorem fits_zero : Fits 0 := by
  unfold Fits beyond
  exact ⟨two_pow_pos topExponent, Nat.zero_mod _⟩

/-- Zero of either sign. -/
def signedZero (negative : Bool) : Double := .finite negative 0 fits_zero

/-- Positive zero. -/
def zero : Double := signedZero false

instance : Inhabited Double := ⟨zero⟩

/-! ## Rounding -/

/-- The whole number nearest to a quotient, a half going to the even neighbour. -/
def nearestQuotient (num den : Nat) : Nat :=
  let floor := num / den
  let twice := 2 * (num % den)
  if twice < den then floor
  else if den < twice then floor + 1
  else if floor % 2 = 0 then floor
  else floor + 1

/-- The magnitude nearest to `num / den` units that has at most 53 binary digits. -/
def roundUnits (num den : Nat) : Nat :=
  let step := spacing (num / den)
  nearestQuotient num (den * step) * step

/-- A double from its sign and rounded magnitude; one that is too large is an infinity. -/
def ofUnits (negative : Bool) (units : Nat) : Double :=
  if fits : Fits units then .finite negative units fits else .infinite negative

/-- The double nearest to `num / den` units of the given sign. -/
def ofRatio (negative : Bool) (num den : Nat) : Double := ofUnits negative (roundUnits num den)

/-- The double nearest to a whole number. -/
def ofInt (n : Int) : Double := ofRatio (n < 0) (n.natAbs * one) 1

/-- The double nearest to a natural number. -/
def ofNat (n : Nat) : Double := ofInt n

/-! ## Arithmetic -/

/-- A signed number of units. -/
def signed (negative : Bool) (units : Nat) : Int := if negative then -units else units

/-- The opposite double. -/
def neg : Double → Double
  | .nan => .nan
  | .infinite negative => .infinite (!negative)
  | .finite negative units fits => .finite (!negative) units fits

/-- The sum. Opposite infinities have none, and an exact zero is negative only if both
operands are. -/
def add : Double → Double → Double
  | .nan, _ => .nan
  | _, .nan => .nan
  | .infinite a, .infinite b => if a = b then .infinite a else .nan
  | .infinite a, .finite .. => .infinite a
  | .finite .., .infinite b => .infinite b
  | .finite a u _, .finite b v _ =>
    let sum := signed a u + signed b v
    if sum = 0 then signedZero (a && b) else ofRatio (sum < 0) sum.natAbs 1

/-- The product. -/
def mul : Double → Double → Double
  | .nan, _ => .nan
  | _, .nan => .nan
  | .infinite a, .infinite b => .infinite (a != b)
  | .infinite a, .finite b v _ => if v = 0 then .nan else .infinite (a != b)
  | .finite a u _, .infinite b => if u = 0 then .nan else .infinite (a != b)
  | .finite a u _, .finite b v _ => ofRatio (a != b) (u * v) one

/-- The quotient. -/
def div : Double → Double → Double
  | .nan, _ => .nan
  | _, .nan => .nan
  | .infinite _, .infinite _ => .nan
  | .infinite a, .finite b _ _ => .infinite (a != b)
  | .finite a _ _, .infinite b => signedZero (a != b)
  | .finite a u _, .finite b v _ =>
    if v = 0 then (if u = 0 then .nan else .infinite (a != b))
    else ofRatio (a != b) (u * one) v

instance : Neg Double := ⟨neg⟩
instance : Add Double := ⟨add⟩
instance : Mul Double := ⟨mul⟩
instance : Div Double := ⟨div⟩

/-! ## Order and whole parts -/

/-- Neither an infinity nor not a number. -/
def isFinite : Double → Bool
  | .finite .. => true
  | _ => false

/-- The value in units, with the infinities beyond every finite double. Both zeros have the
same value, and not a number has none. -/
def value? : Double → Option Int
  | .nan => none
  | .infinite negative => some (signed negative beyond)
  | .finite negative units _ => some (signed negative units)

/-- How two doubles compare as numbers; `none` if one is not a number. -/
def compare? (x y : Double) : Option Ordering :=
  match x.value?, y.value? with
  | some a, some b => some (compare a b)
  | _, _ => none

/-- Whether `x` is below `y` as a number. -/
def less (x y : Double) : Bool := x.compare? y == some .lt

/-- The place of a double in the total order, where negative zero stands just below zero and
not a number above everything. -/
def rank : Double → Int
  | .nan => beyond + 1
  | .infinite negative => if negative then -beyond - 1 else beyond
  | .finite negative units _ => if negative then -units - 1 else units

/-- Finite and without a fraction. -/
def isWhole : Double → Bool
  | .finite _ units _ => units % one = 0
  | _ => false

/-- The number without its fraction, held to the 64-bit signed range; zero for not a number. -/
def toInt64 : Double → Int64
  | .nan => 0
  | .infinite negative => if negative then Int64.minValue else Int64.maxValue
  | .finite negative units _ =>
    Int64.ofInt
      (max Int64.minValue.toInt (min Int64.maxValue.toInt (signed negative (units / one))))

end Double
end Rowscan
