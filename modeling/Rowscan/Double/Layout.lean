import Rowscan.Double.Shortest

/-!
Doubles as text. All layouts write the shortest digits that read back; they differ in when the
point gives way to an exponent, whether a whole number keeps a fraction, and how a tie between
equally near digits goes.
-/
namespace Rowscan.Double

/-- How digits are laid out. -/
structure Layout where
  tie : TieRule
  /-- The least and the greatest position of the point for which no exponent is written; with
  no bounds an exponent is never written. -/
  positional : Option (Int × Int)
  /-- Whether a whole number without an exponent ends in `.0`. -/
  keepsFraction : Bool
  /-- Whether a positive exponent carries its sign. -/
  plusSign : Bool

/-- Plain text: never an exponent and never an idle fraction. -/
def Layout.plain : Layout := ⟨.upward, none, false, false⟩

/-- Interchange text: a fraction or an exponent is always there; an exponent appears from
`1e+16` up and below `0.00001`. -/
def Layout.interchange : Layout := ⟨.even, some (-4, 16), true, true⟩

/-- Diagnostic text: as interchange text, with an exponent from `1e16` up and below `0.0001`. -/
def Layout.diagnostic : Layout := ⟨.upward, some (-3, 16), true, false⟩

/-- Digits with the point written out. -/
def Decimal.positional (keepsFraction : Bool) (d : Decimal) : List Char :=
  if d.point ≤ 0 then ['0', '.'] ++ List.replicate (-d.point).toNat '0' ++ d.digits
  else
    let whole := d.point.toNat
    if d.digits.length ≤ whole then
      d.digits ++ List.replicate (whole - d.digits.length) '0' ++
        (if keepsFraction then ['.', '0'] else [])
    else d.digits.take whole ++ ['.'] ++ d.digits.drop whole

/-- Digits with one before the point, and an exponent. -/
def Decimal.scientific (plusSign : Bool) (d : Decimal) : List Char :=
  let exponent := d.point - 1
  let sign := if exponent < 0 then ['-'] else if plusSign then ['+'] else []
  d.digits.take 1 ++ (if d.digits.length ≤ 1 then [] else '.' :: d.digits.drop 1) ++ ['e'] ++ sign
    ++ Nat.toDigits 10 exponent.natAbs

/-- A magnitude in a layout. -/
def Layout.magnitude (layout : Layout) (units : Nat) : List Char :=
  let decimal := shortest layout.tie units
  match layout.positional with
  | none => decimal.positional layout.keepsFraction
  | some (least, greatest) =>
    if least ≤ decimal.point ∧ decimal.point ≤ greatest then
      decimal.positional layout.keepsFraction
    else decimal.scientific layout.plusSign

/-- The text of a double in a layout. -/
def Layout.write (layout : Layout) : Double → String
  | .nan => "NaN"
  | .infinite negative => if negative then "-inf" else "inf"
  | .finite negative units _ =>
    String.ofList ((if negative then ['-'] else []) ++ layout.magnitude units)

/-- The plain text of a double. -/
def text (x : Double) : String := Layout.plain.write x

end Rowscan.Double
