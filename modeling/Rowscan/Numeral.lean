import Rowscan.Double.Basic
import Rowscan.Text.Blank

/-!
Numbers as text. A decimal numeral is an optional sign, digits with an optional fraction (one
digit at least, before or after the point), and an optional exponent. Numerals decide how keys
are encoded, how conditions compare and which stored values count as numbers, so the reader is
one scan that keeps what it read.
-/
namespace Rowscan

/-- A decimal numeral by its parts; the digits are kept as they stand. -/
structure Numeral where
  negative : Bool
  whole : List Char
  fraction : List Char
  exponent : Int
  deriving DecidableEq

namespace Numeral

/-- Takes a sign off the front; without one the text is not negative. -/
def splitSign : List Char → Bool × List Char
  | '-' :: rest => (true, rest)
  | '+' :: rest => (false, rest)
  | chars => (false, chars)

/-- The value of decimal digits. -/
def digitsValue (digits : List Char) : Nat := Nat.ofDigitChars 10 digits 0

/-- One digit or more, and nothing else. -/
def isDigits (chars : List Char) : Bool := !chars.isEmpty && chars.all Char.isDigit

/-- A whole number: an optional sign and digits. -/
def readInt? (chars : List Char) : Option Int :=
  let (negative, digits) := splitSign chars
  if isDigits digits then
    some (if negative then -(digitsValue digits : Int) else digitsValue digits)
  else none

/-- What may stand after the digits: nothing, or a mark and a whole number. -/
def readExponent? : List Char → Option Int
  | [] => some 0
  | mark :: rest => if mark = 'e' ∨ mark = 'E' then readInt? rest else none

/-- The digits after a point, and what is left. Without a point there are none. -/
def splitFraction : List Char → List Char × List Char
  | '.' :: rest => (rest.takeWhile Char.isDigit, rest.dropWhile Char.isDigit)
  | chars => ([], chars)

/-- The numeral that the whole text is, if it is one. -/
def read? (chars : List Char) : Option Numeral :=
  let (negative, body) := splitSign chars
  let whole := body.takeWhile Char.isDigit
  let (fraction, rest) := splitFraction (body.dropWhile Char.isDigit)
  if whole.isEmpty && fraction.isEmpty then none
  else (readExponent? rest).map fun exponent => { negative, whole, fraction, exponent }

/-- The digits without the point, as one number. -/
def coefficient (n : Numeral) : Nat := digitsValue (n.whole ++ n.fraction)

/-- The power of ten that the coefficient is multiplied by. -/
def scale (n : Numeral) : Int := n.exponent - n.fraction.length

/-- The double nearest to a numeral. Powers of ten far outside the range of doubles are not
computed: such numerals are an infinity or zero. -/
def toDouble (n : Numeral) : Double :=
  let coefficient := n.coefficient
  let point := n.scale + (Nat.toDigits 10 coefficient).length
  if coefficient = 0 then .signedZero n.negative
  else if 400 < point then .infinite n.negative
  else if point < -400 then .signedZero n.negative
  else if 0 ≤ n.scale then
    .ofRatio n.negative (coefficient * Nat.pow 10 n.scale.toNat * Double.one) 1
  else .ofRatio n.negative (coefficient * Double.one) (Nat.pow 10 (-n.scale).toNat)

end Numeral

/-- Whether a text is a decimal numeral, with nothing around it (`is_numeric_str`). -/
def isNumeral (text : String) : Bool := (Numeral.read? text.toList).isSome

/-- Reads a double: a decimal numeral, or one of the words `inf`, `infinity` and `nan` in any
case, with an optional sign. -/
def Double.ofText? (text : String) : Option Double :=
  match Numeral.read? text.toList with
  | some numeral => some numeral.toDouble
  | none =>
    let (negative, word) := Numeral.splitSign text.toList
    let word := word.map Char.toLower
    if word = "inf".toList ∨ word = "infinity".toList then some (.infinite negative)
    else if word = "nan".toList then some .nan
    else none

/-- The number, if it is in the 64-bit signed range. -/
def int64OfInt? (n : Int) : Option Int64 :=
  if Int64.minValue.toInt ≤ n ∧ n ≤ Int64.maxValue.toInt then some (Int64.ofInt n) else none

/-- Reads a whole number in the 64-bit signed range. -/
def int64OfText? (text : String) : Option Int64 :=
  (Numeral.readInt? text.toList).bind int64OfInt?

/-- The value of a hexadecimal digit of either case. -/
def hexDigit? (c : Char) : Option Nat :=
  if c.isDigit then some (c.toNat - '0'.toNat)
  else if 'a' ≤ c ∧ c ≤ 'f' then some (c.toNat - 'a'.toNat + 10)
  else if 'A' ≤ c ∧ c ≤ 'F' then some (c.toNat - 'A'.toNat + 10)
  else none

/-- The value of hexadecimal digits. -/
def hexValue? (digits : List Char) : Option Nat :=
  digits.foldlM (fun value c => (hexDigit? c).map (16 * value + ·)) 0

/-- A hexadecimal whole number in the 64-bit signed range, with an optional sign of its own. -/
def hexInt64? (chars : List Char) : Option Int64 :=
  let (negative, digits) := Numeral.splitSign chars
  if digits.isEmpty then none
  else (hexValue? digits).bind fun value => int64OfInt? (if negative then -(value : Int) else value)

/-- The hexadecimal mark, taken off the front. -/
def afterHexMark? : List Char → Option (List Char)
  | '0' :: 'x' :: rest => some rest
  | '0' :: 'X' :: rest => some rest
  | _ => none

/-- Reads a text as a number the way scripts coerce strings: blanks around it are ignored, and it is
a decimal numeral or a hexadecimal number after an optional minus sign (`to_number`). -/
def toNumber? (text : String) : Option Double :=
  let chars := Text.trimBlank text.toList
  match Numeral.read? chars with
  | some numeral => some numeral.toDouble
  | none =>
    let (negative, body) := match chars with
      | '-' :: rest => (true, rest)
      | _ => (false, chars)
    ((afterHexMark? body).bind hexInt64?).map fun n =>
      let number := Double.ofInt n.toInt
      if negative then -number else number

end Rowscan
