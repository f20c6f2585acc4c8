import Rowscan.FieldMap
import Rowscan.Json.Basic
import Rowscan.Numeral

/-!
Reading JSON text. The members of an object are put in the order of their names, and of a
repeated name the last one counts. A number with a fraction or an exponent, or one too large
for 64 bits, is read quickly rather than exactly: as many of its digits as fit in 64 bits are
kept, and the result is multiplied or divided once by a power of ten.
-/
namespace Rowscan.Json

/-- The characters that may stand between tokens. -/
def isSpace (c : Char) : Bool := c = ' ' || c = '\t' || c = '\n' || c = '\r'

/-- Skips the space before a token. -/
def skipSpace (chars : List Char) : List Char := chars.dropWhile isSpace

/-! ## Numbers -/

/-- The largest unsigned number of 64 bits. -/
def wordMax : Nat := UInt64.size - 1

/-- Appends digits to a number while it stays within 64 bits; gives the number, how many
digits were appended, and how many were not. -/
def keepDigits (kept : Nat) (count : Nat) : List Char → Nat × Nat × Nat
  | [] => (kept, count, 0)
  | digit :: rest =>
    let next := 10 * kept + Numeral.digitsValue [digit]
    if next ≤ wordMax then keepDigits next (count + 1) rest else (kept, count, rest.length + 1)

/-- Scales by a power of ten in steps that a double can hold. Too large a result is none. -/
def scaleByTen (x : Double) (exponent : Int) : Nat → Option Double
  | 0 => some .zero
  | steps + 1 =>
    if exponent.natAbs ≤ 308 then
      let power := Double.ofNat (Nat.pow 10 exponent.natAbs)
      if 0 ≤ exponent then
        let product := x * power
        if product.isFinite then some product else none
      else some (x / power)
    else if x = .zero then some x
    else if 0 ≤ exponent then none
    else scaleByTen (x / Double.ofNat (Nat.pow 10 308)) (exponent + 308) steps

/-- A floating number from its sign, whole digits, fraction digits and exponent. -/
def floatOfDigits? (negative : Bool) (whole fraction : List Char) (exponent : Int) :
    Option Double :=
  let (kept, _, dropped) := keepDigits 0 0 whole
  let (kept, appended, _) := keepDigits kept 0 fraction
  let magnitude := scaleByTen (Double.ofNat kept) (exponent + dropped - appended) 8
  magnitude.map fun x => if negative then -x else x

/-- A number without fraction and exponent: whole if it fits in 64 bits, signed or not. Minus
zero is a floating number. -/
def ofWholeDigits? (negative : Bool) (digits : List Char) : Option Json :=
  let value : Nat := Numeral.digitsValue digits
  if !negative && value ≤ wordMax then some (.integer value)
  else if negative && 0 < value && Int64.minValue.toInt ≤ -(value : Int) then
    some (.integer (-value))
  else (floatOfDigits? negative digits [] 0).map .float

/-- The digits of a whole part: a single zero, or digits that do not start with one. -/
def readWhole? (chars : List Char) : Option (List Char × List Char) :=
  match chars with
  | '0' :: rest => if (rest.takeWhile Char.isDigit).isEmpty then some (['0'], rest) else none
  | _ =>
    let digits := chars.takeWhile Char.isDigit
    if digits.isEmpty then none else some (digits, chars.dropWhile Char.isDigit)

/-- The exponent after the digits, if there is one. -/
def readExponent? (chars : List Char) : Option (Option Int × List Char) :=
  match chars with
  | mark :: rest =>
    if mark = 'e' ∨ mark = 'E' then
      let (negative, rest) := Numeral.splitSign rest
      let digits := rest.takeWhile Char.isDigit
      if digits.isEmpty then none
      else
        let value : Int := Numeral.digitsValue digits
        some (some (if negative then -value else value), rest.dropWhile Char.isDigit)
    else some (none, chars)
  | [] => some (none, [])

/-- A number at the front of the text. -/
def readNumber? (chars : List Char) : Option (Json × List Char) :=
  let (negative, body) := match chars with
    | '-' :: rest => (true, rest)
    | _ => (false, chars)
  match readWhole? body with
  | none => none
  | some (whole, rest) =>
    let (fraction, afterFraction) := Numeral.splitFraction rest
    if rest.head? = some '.' ∧ fraction.isEmpty then none
    else match readExponent? afterFraction with
      | none => none
      | some (exponent, rest) =>
        if fraction.isEmpty ∧ exponent.isNone then
          (ofWholeDigits? negative whole).map (·, rest)
        else
          (floatOfDigits? negative whole fraction (exponent.getD 0)).map (.float ·, rest)

/-! ## Strings -/

/-- Four hexadecimal digits as one unit of sixteen bits. -/
def readUnit? : List Char → Option (Nat × List Char)
  | a :: b :: c :: d :: rest => (hexValue? [a, b, c, d]).map (·, rest)
  | _ => none

/-- The character of an escape after its backslash; two units may make one character. -/
def readEscape? : List Char → Option (Char × List Char)
  | '"' :: rest => some ('"', rest)
  | '\\' :: rest => some ('\\', rest)
  | '/' :: rest => some ('/', rest)
  | 'b' :: rest => some ('\x08', rest)
  | 'f' :: rest => some ('\x0c', rest)
  | 'n' :: rest => some ('\n', rest)
  | 'r' :: rest => some ('\r', rest)
  | 't' :: rest => some ('\t', rest)
  | 'u' :: rest =>
    match readUnit? rest with
    | none => none
    | some (unit, rest) =>
      if 0xD800 ≤ unit ∧ unit ≤ 0xDBFF then
        match rest with
        | '\\' :: 'u' :: rest =>
          match readUnit? rest with
          | some (low, rest) =>
            if 0xDC00 ≤ low ∧ low ≤ 0xDFFF then
              some (Char.ofNat (0x10000 + (unit - 0xD800) * 0x400 + (low - 0xDC00)), rest)
            else none
          | none => none
        | _ => none
      else if 0xDC00 ≤ unit ∧ unit ≤ 0xDFFF then none
      else some (Char.ofNat unit, rest)
  | _ => none

/-- The rest of a string, up to its closing quote; `fuel` bounds the characters. -/
def readString? : Nat → List Char → List Char → Option (String × List Char)
  | 0, _, _ => none
  | fuel + 1, before, chars =>
    match chars with
    | [] => none
    | '"' :: rest => some (String.ofList before.reverse, rest)
    | '\\' :: rest =>
      match readEscape? rest with
      | some (c, rest) => readString? fuel (c :: before) rest
      | none => none
    | c :: rest => if c.toNat < 0x20 then none else readString? fuel (c :: before) rest

/-! ## Values -/

/-- The text after a word that must come first. -/
def afterWord? (word : String) (chars : List Char) : Option (List Char) :=
  if word.toList.isPrefixOf chars then some (chars.drop word.toList.length) else none

mutual

/-- A value at the front of the text; `fuel` bounds the tokens. -/
def readValue? : Nat → List Char → Option (Json × List Char)
  | 0, _ => none
  | fuel + 1, chars =>
    match skipSpace chars with
    | [] => none
    | '"' :: rest => (readString? (rest.length + 1) [] rest).map fun (text, rest) =>
        (.string text, rest)
    | '[' :: rest =>
      match skipSpace rest with
      | ']' :: rest => some (.array [], rest)
      | rest => (readItems? fuel [] rest).map fun (items, rest) => (.array items, rest)
    | '\x7b' :: rest =>
      match skipSpace rest with
      | '\x7d' :: rest => some (.object [], rest)
      | rest => (readMembers? fuel [] rest).map fun (members, rest) => (.object members, rest)
    | chars =>
      match afterWord? "null" chars, afterWord? "true" chars, afterWord? "false" chars with
      | some rest, _, _ => some (.null, rest)
      | _, some rest, _ => some (.bool true, rest)
      | _, _, some rest => some (.bool false, rest)
      | _, _, _ => readNumber? chars

/-- The items of an array, up to its closing bracket. -/
def readItems? : Nat → List Json → List Char → Option (List Json × List Char)
  | 0, _, _ => none
  | fuel + 1, before, chars =>
    match readValue? fuel chars with
    | none => none
    | some (item, rest) =>
      match skipSpace rest with
      | ',' :: rest => readItems? fuel (item :: before) rest
      | ']' :: rest => some ((item :: before).reverse, rest)
      | _ => none

/-- The members of an object, up to its closing brace. -/
def readMembers? : Nat → List (String × Json) → List Char →
    Option (List (String × Json) × List Char)
  | 0, _, _ => none
  | fuel + 1, before, chars =>
    match skipSpace chars with
    | '"' :: rest =>
      match readString? (rest.length + 1) [] rest with
      | none => none
      | some (name, rest) =>
        match skipSpace rest with
        | ':' :: rest =>
          match readValue? fuel rest with
          | none => none
          | some (value, rest) =>
            let members := FieldMap.insertEntry name value before
            match skipSpace rest with
            | ',' :: rest => readMembers? fuel members rest
            | '\x7d' :: rest => some (members, rest)
            | _ => none
        | _ => none
    | _ => none

end

/-- The value that the whole text is, if it is one. -/
def read? (text : String) : Option Json :=
  let chars := text.toList
  match readValue? (2 * chars.length + 2) chars with
  | some (value, rest) => if (skipSpace rest).isEmpty then some value else none
  | none => none

end Rowscan.Json
