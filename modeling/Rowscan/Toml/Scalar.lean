import Rowscan.Numeral
import Rowscan.Toml.Value

/-!
Strings, numbers, dates and keys of TOML. Each reader takes what it can from the front of the
text and gives what is left.
-/
namespace Rowscan.Toml

/-- A space or a tab. -/
def isSpace (c : Char) : Bool := c = ' ' || c = '\t'

/-- Skips spaces and tabs. -/
def skipSpace (chars : List Char) : List Char := chars.dropWhile isSpace

/-- The text after the end of a line, which is LF or CR LF. -/
def afterNewline? : List Char → Option (List Char)
  | '\n' :: rest => some rest
  | '\r' :: '\n' :: rest => some rest
  | _ => none

/-- Whether a character may stand in a comment or, but for its quotes and escapes, in a string:
a tab, or anything that is no control. -/
def isPlain (c : Char) : Bool := c = '\t' || (0x20 ≤ c.toNat && c.toNat ≠ 0x7F)

/-- Skips a comment up to the end of its line. -/
def skipComment : List Char → List Char
  | '#' :: rest => rest.dropWhile isPlain
  | chars => chars

/-! ## Strings -/

/-- A character given by so many hexadecimal digits. -/
def readCodePoint? (digits : Nat) (chars : List Char) : Option (Char × List Char) :=
  if chars.length < digits then none
  else (hexValue? (chars.take digits)).bind fun code =>
    if code < 0xD800 || (0xDFFF < code && code < 0x110000) then
      some (Char.ofNat code, chars.drop digits)
    else none

/-- The character of an escape, after its backslash. -/
def readEscape? : List Char → Option (Char × List Char)
  | 'b' :: rest => some ('\x08', rest)
  | 't' :: rest => some ('\t', rest)
  | 'n' :: rest => some ('\n', rest)
  | 'f' :: rest => some ('\x0c', rest)
  | 'r' :: rest => some ('\r', rest)
  | '"' :: rest => some ('"', rest)
  | '\\' :: rest => some ('\\', rest)
  | 'u' :: rest => readCodePoint? 4 rest
  | 'U' :: rest => readCodePoint? 8 rest
  | _ => none

/-- The rest of a string in double quotes. -/
def readBasic? : Nat → List Char → List Char → Option (String × List Char)
  | 0, _, _ => none
  | fuel + 1, before, chars =>
    match chars with
    | [] => none
    | '"' :: rest => some (String.ofList before.reverse, rest)
    | '\\' :: rest => (readEscape? rest).bind fun (c, rest) => readBasic? fuel (c :: before) rest
    | c :: rest => if isPlain c then readBasic? fuel (c :: before) rest else none

/-- The rest of a string in single quotes, which knows no escapes. -/
def readLiteral? (chars : List Char) : Option (String × List Char) :=
  let isInside c := isPlain c && c ≠ '\''
  match chars.dropWhile isInside with
  | '\'' :: rest => some (String.ofList (chars.takeWhile isInside), rest)
  | _ => none

/-- The text after a backslash at the end of a line: spaces and line ends are skipped. -/
def skipFolded : Nat → List Char → List Char
  | 0, chars => chars
  | fuel + 1, chars =>
    match afterNewline? (skipSpace chars) with
    | some rest => skipFolded fuel rest
    | none => skipSpace chars

/-- The rest of a string of several lines between triple quotes. Up to two more quotes may stand
before the closing ones; only double quotes admit escapes. -/
def readLines? (quote : Char) : Nat → List Char → List Char → Option (String × List Char)
  | 0, _, _ => none
  | fuel + 1, before, chars =>
    match chars with
    | [] => none
    | c :: rest =>
      if c = quote then
        let quotes := chars.takeWhile (· = quote)
        let after := chars.dropWhile (· = quote)
        if quotes.length < 3 then readLines? quote fuel (quotes ++ before) after
        else if quotes.length ≤ 5 then
          some (String.ofList (before.reverse ++ quotes.drop 3), after)
        else none
      else if c = '\\' ∧ quote = '"' then
        if (afterNewline? (skipSpace rest)).isSome then
          readLines? quote fuel before (skipFolded rest.length rest)
        else (readEscape? rest).bind fun (c, rest) => readLines? quote fuel (c :: before) rest
      else match afterNewline? chars with
        | some rest => readLines? quote fuel ('\n' :: before) rest
        | none => if isPlain c then readLines? quote fuel (c :: before) rest else none

/-- A string of any kind. A line end right after triple quotes is dropped. -/
def readString? (chars : List Char) : Option (String × List Char) :=
  match chars with
  | '"' :: '"' :: '"' :: rest =>
    let body := (afterNewline? rest).getD rest
    readLines? '"' (body.length + 1) [] body
  | '\'' :: '\'' :: '\'' :: rest =>
    let body := (afterNewline? rest).getD rest
    readLines? '\'' (body.length + 1) [] body
  | '"' :: rest => readBasic? (rest.length + 1) [] rest
  | '\'' :: rest => readLiteral? rest
  | _ => none

/-! ## Numbers -/

/-- Digits after the first, where single underscores may stand between digits. -/
def readMoreDigits (isDigit : Char → Bool) : List Char → List Char × List Char
  | '_' :: c :: rest =>
    if isDigit c then
      let (digits, rest) := readMoreDigits isDigit rest
      (c :: digits, rest)
    else ([], '_' :: c :: rest)
  | c :: rest =>
    if isDigit c then
      let (digits, rest) := readMoreDigits isDigit rest
      (c :: digits, rest)
    else ([], c :: rest)
  | [] => ([], [])

/-- One digit or more, without their underscores. -/
def readDigits? (isDigit : Char → Bool) : List Char → Option (List Char × List Char)
  | c :: rest =>
    if isDigit c then
      let (digits, rest) := readMoreDigits isDigit rest
      some (c :: digits, rest)
    else none
  | [] => none

/-- The digits of a whole part: a zero, or digits that do not start with one. -/
def readWhole? : List Char → Option (List Char × List Char)
  | '0' :: rest => some (['0'], rest)
  | chars => readDigits? Char.isDigit chars

/-- A sign as a text. -/
def readSign : List Char → List Char × List Char
  | '+' :: rest => (['+'], rest)
  | '-' :: rest => (['-'], rest)
  | chars => ([], chars)

/-- A fraction, as it goes into the text of a number. -/
def readFraction? : List Char → Option (List Char × List Char)
  | '.' :: rest => (readDigits? Char.isDigit rest).map fun (digits, rest) => ('.' :: digits, rest)
  | _ => none

/-- An exponent, as it goes into the text of a number. -/
def readExponent? : List Char → Option (List Char × List Char)
  | c :: rest =>
    if c = 'e' ∨ c = 'E' then
      let (sign, rest) := readSign rest
      (readDigits? Char.isDigit rest).map fun (digits, rest) => ('e' :: sign ++ digits, rest)
    else none
  | [] => none

/-- What makes a number a float: an exponent, or a fraction and perhaps an exponent. -/
def readFloatTail? (chars : List Char) : Option (List Char × List Char) :=
  match readExponent? chars with
  | some tail => some tail
  | none =>
    (readFraction? chars).map fun (fraction, rest) =>
      match readExponent? rest with
      | some (exponent, rest) => (fraction ++ exponent, rest)
      | none => (fraction, rest)

/-- An infinity or not a number, after its sign. -/
def readSpecial? (negative : Bool) : List Char → Option (Value × List Char)
  | 'i' :: 'n' :: 'f' :: rest => some (.float (.infinite negative), rest)
  | 'n' :: 'a' :: 'n' :: rest => some (.float .nan, rest)
  | _ => none

/-- Digits of a base other than ten, after the mark of the base. -/
def readBased? (base : Nat) (chars : List Char) : Option (Value × List Char) :=
  let isDigit c := match hexDigit? c with
    | some digit => digit < base
    | none => false
  (readDigits? isDigit chars).bind fun (digits, rest) =>
    let value := digits.foldl (fun value c => base * value + (hexDigit? c).getD 0) 0
    (int64OfInt? value).map fun value => (.integer value.toInt, rest)

/-- A number in base ten: a float if it has a fraction or an exponent. A float that would be
positive infinity is refused, and so is an integer beyond 64 bits. -/
def readDecimal? (chars : List Char) : Option (Value × List Char) :=
  let (sign, body) := readSign chars
  (readWhole? body).bind fun (whole, rest) =>
    match readFloatTail? rest with
    | some (tail, rest) =>
      (Numeral.read? (sign ++ whole ++ tail)).bind fun numeral =>
        if numeral.toDouble = .infinite false then none
        else some (.float numeral.toDouble, rest)
    | none =>
      ((Numeral.readInt? (sign ++ whole)).bind int64OfInt?).map fun value =>
        (.integer value.toInt, rest)

/-- A number. -/
def readNumber? (chars : List Char) : Option (Value × List Char) :=
  match chars with
  | '0' :: 'x' :: rest => readBased? 16 rest
  | '0' :: 'o' :: rest => readBased? 8 rest
  | '0' :: 'b' :: rest => readBased? 2 rest
  | chars =>
    match readDecimal? chars with
    | some number => some number
    | none =>
      let (sign, rest) := readSign chars
      readSpecial? (sign = ['-']) rest

/-! ## Dates and times -/

/-- A number of exactly so many digits within bounds. -/
def readField? (digits least greatest : Nat) (chars : List Char) : Option (Nat × List Char) :=
  let field := chars.take digits
  if field.length = digits && field.all Char.isDigit then
    let value := Numeral.digitsValue field
    if least ≤ value && value ≤ greatest then some (value, chars.drop digits) else none
  else none

/-- The text after a character that must come first. -/
def after? (c : Char) : List Char → Option (List Char)
  | first :: rest => if first = c then some rest else none
  | [] => none

/-- How many days a month has. -/
def daysIn (year month : Nat) : Nat :=
  if month = 2 then (if year % 4 = 0 ∧ (year % 100 ≠ 0 ∨ year % 400 = 0) then 29 else 28)
  else if month = 4 ∨ month = 6 ∨ month = 9 ∨ month = 11 then 30
  else 31

/-- A date. -/
def afterDate? (chars : List Char) : Option (List Char) := do
  let (year, rest) ← readField? 4 0 9999 chars
  let rest ← after? '-' rest
  let (month, rest) ← readField? 2 1 12 rest
  let rest ← after? '-' rest
  let (_, rest) ← readField? 2 1 (daysIn year month) rest
  return rest

/-- A time of day. -/
def afterTime? (chars : List Char) : Option (List Char) := do
  let (_, rest) ← readField? 2 0 23 chars
  let rest ← after? ':' rest
  let (_, rest) ← readField? 2 0 59 rest
  let rest ← after? ':' rest
  let (_, rest) ← readField? 2 0 60 rest
  match rest with
  | '.' :: c :: fraction =>
    if c.isDigit then return fraction.dropWhile Char.isDigit else return rest
  | _ => return rest

/-- An offset from universal time. -/
def afterOffset? (chars : List Char) : Option (List Char) :=
  match chars with
  | c :: rest =>
    if c = 'Z' ∨ c = 'z' then some rest
    else if c = '+' ∨ c = '-' then do
      let (_, rest) ← readField? 2 0 23 rest
      let rest ← after? ':' rest
      let (_, rest) ← readField? 2 0 59 rest
      return rest
    else none
  | [] => none

/-- A time after a date, if there is one. -/
def afterTimeOfDate (chars : List Char) : List Char :=
  match chars with
  | c :: rest =>
    if c = 'T' ∨ c = 't' ∨ c = ' ' then
      match afterTime? rest with
      | some rest => (afterOffset? rest).getD rest
      | none => chars
    else chars
  | [] => chars

/-- A date, a time, or both. -/
def readDatetime? (chars : List Char) : Option (Value × List Char) :=
  match afterDate? chars with
  | some rest => some (.datetime, afterTimeOfDate rest)
  | none => (afterTime? chars).map (.datetime, ·)

/-! ## Keys -/

/-- Whether a character may stand in a key without quotes. -/
def isBare (c : Char) : Bool := c.isAlpha || c.isDigit || c = '_' || c = '-'

/-- One part of a key. -/
def readKeyPart? (chars : List Char) : Option (String × List Char) :=
  match chars with
  | '"' :: rest => readBasic? (rest.length + 1) [] rest
  | '\'' :: rest => readLiteral? rest
  | chars =>
    let bare := chars.takeWhile isBare
    if bare.isEmpty then none else some (String.ofList bare, chars.dropWhile isBare)

/-- The parts of a key, with dots between them. -/
def readKey? : Nat → List Char → Option (List String × List Char)
  | 0, _ => none
  | fuel + 1, chars =>
    (readKeyPart? (skipSpace chars)).bind fun (part, rest) =>
      match skipSpace rest with
      | '.' :: rest => (readKey? fuel rest).map fun (parts, rest) => (part :: parts, rest)
      | rest => some ([part], rest)

end Rowscan.Toml
