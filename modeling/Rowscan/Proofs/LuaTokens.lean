import Mathlib.Data.List.TakeWhile
import Rowscan.Lua
import Rowscan.Proofs.Numerals
import Rowscan.Proofs.WireLines

/-!
The tokens of Lua source. A text is cut at its front into the longest word, numeral, quoted string
or symbol that is there, and blanks between tokens are dropped (`tokens?`); comments and long
brackets are left out. Main statements: a quoted text is one token with the bytes of the text
(`next?_quote`), and every decimal numeral without a sign is one token as it stands
(`next?_numeral`).
-/
namespace Rowscan.Lua

/-! ## Tokens -/

/-- A token of the script language. -/
inductive Token where
  | name (word : String)
  | keyword (word : String)
  | numeral (text : String)
  /-- A quoted string with the bytes that it stands for. -/
  | string (content : List UInt8)
  | symbol (text : String)
  deriving DecidableEq

/-- The reserved words. -/
def keywords : List String :=
  ["and", "break", "do", "else", "elseif", "end", "false", "for", "function", "if", "in", "local",
    "nil", "not", "or", "repeat", "return", "then", "true", "until", "while"]

/-- Operators and punctuation, those that begin alike from long to short. -/
def symbols : List String :=
  ["...", "..", "==", "~=", "<=", ">=", "+", "-", "*", "/", "%", "^", "#", "<", ">", "=", "(", ")",
    "\x7b", "\x7d", "[", "]", ";", ":", ",", "."]

/-- Blanks between tokens. -/
def isSpace (c : Char) : Bool := [' ', '\t', '\n', '\x0b', '\x0c', '\r'].contains c

/-- What words begin with. -/
def isNameStart (c : Char) : Bool := c.isAlpha || c == '_'

/-- What words go on with. -/
def isNameChar (c : Char) : Bool := c.isAlphanum || c == '_'

/-- A word is a keyword if it is reserved. -/
def wordToken (word : String) : Token :=
  if keywords.contains word then .keyword word else .name word

/-! ## Strings -/

/-- The place of a reader inside quotes: between characters, after a backslash, after one or two
digits of a code, or after an escaped line end. -/
inductive StringState where
  | plain
  | escaped
  | code (value count : Nat)
  | lineEnd (first : Char)

/-- One character between others: the bytes that it gives, and the place after it, which is none
after the closing quote. A line end is not allowed. -/
def plainStep (quote c : Char) : Option (List UInt8 × Option StringState) :=
  if c = quote then some ([], none)
  else if c = '\\' then some ([], some .escaped)
  else if c = '\n' ∨ c = '\r' then none
  else some (String.utf8EncodeChar c, some .plain)

/-- What a character after a backslash stands for; most stand for themselves. -/
def escapedBytes (c : Char) : List UInt8 :=
  match c with
  | 'a' => [7]
  | 'b' => [8]
  | 't' => [9]
  | 'n' => [10]
  | 'v' => [11]
  | 'f' => [12]
  | 'r' => [13]
  | c => String.utf8EncodeChar c

/-- One character inside quotes. A code has three decimal digits at most, and is a byte. -/
def stringStep (quote : Char) : StringState → Char → Option (List UInt8 × Option StringState)
  | .plain, c => plainStep quote c
  | .escaped, c =>
    if c = '\n' ∨ c = '\r' then some ([10], some (.lineEnd c))
    else if c.isDigit then some ([], some (.code (c.toNat - '0'.toNat) 1))
    else some (escapedBytes c, some .plain)
  | .code value count, c =>
    if c.isDigit then
      let value := 10 * value + (c.toNat - '0'.toNat)
      if count < 2 then some ([], some (.code value (count + 1)))
      else if value < 256 then some ([UInt8.ofNat value], some .plain)
      else none
    else (plainStep quote c).map fun (bytes, next) => (UInt8.ofNat value :: bytes, next)
  | .lineEnd first, c =>
    if (c = '\n' ∨ c = '\r') ∧ c ≠ first then some ([], some .plain) else plainStep quote c

/-- The bytes up to the closing quote, and what is left after it. -/
def readString? (quote : Char) : StringState → List Char → Option (List UInt8 × List Char)
  | _, [] => none
  | state, c :: rest =>
    match stringStep quote state c with
    | none => none
    | some (bytes, none) => some (bytes, rest)
    | some (bytes, some state) =>
      (readString? quote state rest).map fun (more, after) => (bytes ++ more, after)

/-! ## Numerals -/

/-- Whether a numeral begins a text: a digit does, and a point before a digit. -/
def startsNumeral : List Char → Bool
  | '.' :: digit :: _ => digit.isDigit
  | c :: _ => c.isDigit
  | [] => false

/-- The digits and points that a numeral begins with are taken in one go. -/
def isNumeralFront (c : Char) : Bool := c.isDigit || c == '.'

/-- Takes a sign off the front, as it stands. -/
def splitPlusMinus : List Char → List Char × List Char
  | '+' :: rest => (['+'], rest)
  | '-' :: rest => (['-'], rest)
  | chars => ([], chars)

/-- Takes an exponent mark off the front, with a sign after it. -/
def splitMark : List Char → List Char × List Char
  | [] => ([], [])
  | mark :: rest =>
    if mark = 'e' ∨ mark = 'E' then (mark :: (splitPlusMinus rest).1, (splitPlusMinus rest).2)
    else ([], mark :: rest)

/-- The characters that are read as one numeral, and what is left: letters go with it. -/
def spanNumeral (chars : List Char) : List Char × List Char :=
  let (mark, rest) := splitMark (chars.dropWhile isNumeralFront)
  (chars.takeWhile isNumeralFront ++ mark ++ rest.takeWhile isNameChar, rest.dropWhile isNameChar)

/-- Whether characters are a number: a decimal numeral, or hexadecimal digits after their mark. -/
def isNumber (chars : List Char) : Bool :=
  (Numeral.read? chars).isSome ||
    (afterHexMark? chars).any fun digits => !digits.isEmpty && (hexValue? digits).isSome

/-- A numeral at the front of a text. -/
def readNumeral? (chars : List Char) : Option (Token × List Char) :=
  let (numeral, rest) := spanNumeral chars
  if isNumber numeral then some (.numeral (String.ofList numeral), rest) else none

/-! ## Reading tokens -/

/-- Whether a text begins with a comment or a long bracket. -/
def startsLong : List Char → Bool
  | '-' :: '-' :: _ => true
  | '[' :: '[' :: _ => true
  | '[' :: '=' :: _ => true
  | _ => false

/-- The longest symbol at the front of a text. -/
def readSymbol? (chars : List Char) : Option (Token × List Char) :=
  (symbols.find? (·.toList.isPrefixOf chars)).map fun symbol =>
    (.symbol symbol, chars.drop symbol.toList.length)

/-- The token at the front of a text, and what is left after it. -/
def next? (chars : List Char) : Option (Token × List Char) :=
  match chars with
  | [] => none
  | c :: rest =>
    if isNameStart c then
      some (wordToken (String.ofList (chars.takeWhile isNameChar)), chars.dropWhile isNameChar)
    else if startsNumeral chars then readNumeral? chars
    else if c = '\'' ∨ c = '"' then
      (readString? c .plain rest).map fun (content, after) => (.string content, after)
    else if startsLong chars then none
    else readSymbol? chars

/-! ### Progress -/

theorem isNameChar_of_isNameStart {c : Char} (start : isNameStart c = true) :
    isNameChar c = true := by
  simp only [isNameStart, isNameChar, Char.isAlphanum, Bool.or_eq_true] at start ⊢
  exact start.imp_left .inl

private theorem length_lt_of_readString? {quote : Char} {state : StringState}
    {chars after : List Char}
    {content : List UInt8} (read : readString? quote state chars = some (content, after)) :
    after.length < chars.length := by
  induction chars generalizing state content with
  | nil => cases read
  | cons c rest ih =>
    rw [readString?] at read
    split at read
    next => cases read
    next =>
      cases read
      exact Nat.lt_succ_self _
    next =>
      obtain ⟨⟨more, tail⟩, found, same⟩ := Option.map_eq_some_iff.1 read
      cases same
      exact Nat.lt_succ_of_lt (ih found)

private theorem length_splitPlusMinus (chars : List Char) :
    (splitPlusMinus chars).2.length ≤ chars.length := by
  unfold splitPlusMinus
  split
  · exact Nat.le_succ _
  · exact Nat.le_succ _
  · exact Nat.le_refl _

private theorem length_splitMark (chars : List Char) :
    (splitMark chars).2.length ≤ chars.length := by
  unfold splitMark
  split
  · exact Nat.le_refl _
  split
  · exact Nat.le_succ_of_le (length_splitPlusMinus _)
  · exact Nat.le_refl _

private theorem length_lt_of_readNumeral? {c : Char} {rest after : List Char} {token : Token}
    (front : isNumeralFront c = true) (read : readNumeral? (c :: rest) = some (token, after)) :
    after.length < (c :: rest).length := by
  unfold readNumeral? at read
  dsimp only at read
  split at read
  next =>
    cases read
    have body : (rest.dropWhile isNumeralFront).length ≤ rest.length :=
      List.length_dropWhile_le _ _
    have mark := length_splitMark (rest.dropWhile isNumeralFront)
    have tail : ((splitMark (rest.dropWhile isNumeralFront)).2.dropWhile isNameChar).length ≤ _ :=
      List.length_dropWhile_le _ _
    rw [spanNumeral, List.dropWhile_cons_of_pos front, List.length_cons]
    dsimp only
    omega
  next => cases read

private theorem isNumeralFront_of_startsNumeral {c : Char} {rest : List Char}
    (starts : startsNumeral (c :: rest) = true) : isNumeralFront c = true := by
  unfold startsNumeral at starts
  split at starts
  next same =>
    cases same
    rfl
  next same =>
    cases same
    rw [isNumeralFront, starts, Bool.true_or]
  next same => cases same

private theorem length_lt_of_next? {chars after : List Char} {token : Token}
    (found : next? chars = some (token, after)) : after.length < chars.length := by
  cases chars with
  | nil => cases found
  | cons c rest =>
    rw [next?] at found
    split at found
    next start =>
      cases found
      rw [List.dropWhile_cons_of_pos (isNameChar_of_isNameStart start)]
      exact Nat.lt_succ_of_le (List.length_dropWhile_le _ _)
    split at found
    next starts => exact length_lt_of_readNumeral? (isNumeralFront_of_startsNumeral starts) found
    split at found
    next =>
      obtain ⟨⟨content, tail⟩, read, same⟩ := Option.map_eq_some_iff.1 found
      cases same
      exact Nat.lt_succ_of_lt (length_lt_of_readString? read)
    split at found
    next => cases found
    next =>
      obtain ⟨symbol, member, same⟩ := Option.map_eq_some_iff.1 found
      cases same
      have long : 0 < symbol.toList.length := by
        have all : ∀ symbol ∈ symbols, 0 < symbol.toList.length := by decide
        exact all symbol (List.mem_of_find?_eq_some member)
      rw [List.length_drop, List.length_cons]
      omega

/-- The tokens of a text. -/
def tokens? : List Char → Option (List Token)
  | [] => some []
  | c :: rest =>
    if isSpace c then tokens? rest
    else
      match _found : next? (c :: rest) with
      | none => none
      | some (token, after) => (tokens? after).map (token :: ·)
termination_by chars => chars.length
decreasing_by
  · exact Nat.lt_succ_self _
  · exact length_lt_of_next? _found

/-! ## Token by token -/

variable {chars text rest : List Char} {token : Token} {tokens : List Token}

private theorem isSpace_of_next? {c : Char} (found : next? (c :: rest) = some (token, text)) :
    isSpace c = false := by
  rw [Bool.eq_false_iff]
  intro space
  have none : next? (c :: rest) = none := by
    simp only [isSpace, List.contains_eq_mem, List.mem_cons, List.not_mem_nil, or_false,
      decide_eq_true_eq] at space
    rcases space with rfl | rfl | rfl | rfl | rfl | rfl <;> rfl
  rw [none] at found
  cases found

/-- The tokens of a text are its first one and those of what is left. -/
theorem tokens?_token (found : next? chars = some (token, text))
    (others : tokens? text = some tokens) : tokens? chars = some (token :: tokens) := by
  cases chars with
  | nil => cases found
  | cons c rest =>
    rw [tokens?, if_neg (by rw [isSpace_of_next? found]; decide)]
    split
    next none =>
      rw [found] at none
      cases none
    next first after some =>
      rw [found] at some
      cases some
      rw [others, Option.map_some]

theorem tokens?_space (others : tokens? text = some tokens) :
    tokens? (' ' :: text) = some tokens := by
  rw [tokens?, if_pos (by decide), others]

/-! ### Words -/

/-- Nothing at the front of a text goes on with a word or a numeral before it. -/
def Ends (rest : List Char) : Prop := ∀ c ∈ rest.head?, isNameChar c = false ∧ c ≠ '.'

theorem ends_nil : Ends [] := by
  intro c front
  cases front

theorem ends_cons {c : Char} (other : isNameChar c = false ∧ c ≠ '.') : Ends (c :: rest) := by
  intro d front
  cases front
  exact other

theorem Ends.takes (ends : Ends rest) (word : ∀ c ∈ chars, isNameChar c = true) :
    (chars ++ rest).takeWhile isNameChar = chars ∧ (chars ++ rest).dropWhile isNameChar = rest :=
  takeWhile_before word fun c first => (ends c first).1

/-- A text is a word: what names are made of, whether it is reserved or not. -/
def IsWord (word : String) : Prop :=
  ∃ first more, word.toList = first :: more ∧ isNameStart first = true ∧
    ∀ c ∈ more, isNameChar c = true

/-- Keywords are made of letters. -/
theorem isNameStart_of_mem_keywords {word : String} (reserved : word ∈ keywords) :
    ∀ c ∈ word.toList, isNameStart c = true := by
  have letters : keywords.all (fun word => word.toList.all isNameStart) = true := by decide
  exact List.all_eq_true.1 (List.all_eq_true.1 letters word reserved)

theorem isWord_of_mem_keywords {word : String} (reserved : word ∈ keywords) : IsWord word := by
  have letters := isNameStart_of_mem_keywords reserved
  have some : word.toList ≠ [] := by
    intro none
    rw [String.toList_eq_nil_iff.1 none] at reserved
    exact absurd reserved (by decide)
  obtain ⟨first, more, spelled⟩ := List.exists_cons_of_ne_nil some
  rw [spelled] at letters
  exact ⟨first, more, spelled, letters first List.mem_cons_self, fun c later =>
    isNameChar_of_isNameStart (letters c (List.mem_cons_of_mem _ later))⟩

/-- A word before something else is one token. -/
theorem next?_word {word : String} (isWord : IsWord word) (ends : Ends rest) :
    next? (word.toList ++ rest) = some (wordToken word, rest) := by
  obtain ⟨first, more, spelled, start, others⟩ := isWord
  have all : ∀ c ∈ word.toList, isNameChar c = true := by
    rw [spelled]
    intro c member
    rcases List.mem_cons.1 member with rfl | later
    · exact isNameChar_of_isNameStart start
    · exact others c later
  obtain ⟨taken, left⟩ := ends.takes all
  have split : next? (word.toList ++ rest) =
      some (wordToken (String.ofList ((word.toList ++ rest).takeWhile isNameChar)),
        (word.toList ++ rest).dropWhile isNameChar) := by
    rw [spelled, List.cons_append, next?, if_pos start]
  rw [split, taken, left, String.ofList_toList]

/-! ### Strings -/

/-- A character is written so that it is read as its bytes. -/
theorem readString?_escapeChar (c : Char) (rest : List Char) :
    readString? '\'' .plain (escapeChar c ++ rest) = (readString? '\'' .plain rest).map
      fun (more, after) => (String.utf8EncodeChar c ++ more, after) := by
  by_cases special : c ∈ ['\x00', '\n', '\r', '\\', '\x1a', '\'']
  · simp only [List.mem_cons, List.not_mem_nil, or_false] at special
    rcases special with rfl | rfl | rfl | rfl | rfl | rfl <;>
      cases after : readString? '\'' .plain rest <;>
        simp [escapeChar, readString?, stringStep, plainStep, escapedBytes, after] <;> rfl
  · simp only [List.mem_cons, List.not_mem_nil, or_false, not_or] at special
    obtain ⟨notZero, notNewline, notReturn, notBackslash, notEnd, notQuote⟩ := special
    simp only [escapeChar, notZero, notNewline, notReturn, notBackslash, notEnd, notQuote, if_false,
      List.singleton_append, readString?, stringStep, plainStep, or_self]

/-- A text in quotes is read as the bytes of the text, up to its closing quote. -/
theorem readString?_escaped (chars rest : List Char) :
    readString? '\'' .plain (chars.flatMap escapeChar ++ '\'' :: rest) =
      some (chars.flatMap String.utf8EncodeChar, rest) := by
  induction chars with
  | nil => rfl
  | cons c more ih =>
    rw [List.flatMap_cons, List.append_assoc, readString?_escapeChar, ih, Option.map_some,
      List.flatMap_cons]

/-- A quoted text is one token with the bytes of the text. -/
theorem next?_quote (text : String) (rest : List Char) :
    next? ((quote text).toList ++ rest) = some (.string (Text.utf8 text), rest) := by
  have spelled : (quote text).toList ++ rest =
      '\'' :: (text.toList.flatMap escapeChar ++ '\'' :: rest) := by
    simp [quote]
  have opened (more : List Char) : next? ('\'' :: more) =
      (readString? '\'' .plain more).map fun (content, after) => (.string content, after) := rfl
  rw [spelled, opened, readString?_escaped, Text.utf8_eq_flatMap, Option.map_some]

/-! ### Numerals -/

theorem isNumeralFront_of_isDigit {c : Char} (digit : c.isDigit = true) :
    isNumeralFront c = true := by
  rw [isNumeralFront, digit, Bool.true_or]

theorem isNameChar_of_isDigit {c : Char} (digit : c.isDigit = true) : isNameChar c = true := by
  rw [isNameChar, Char.isAlphanum, digit, Bool.or_true, Bool.true_or]

theorem not_isNumeralFront {c : Char} (other : isNameChar c = false) (point : c ≠ '.') :
    isNumeralFront c = false := by
  rw [Bool.eq_false_iff]
  intro front
  rw [isNumeralFront, Bool.or_eq_true, beq_iff_eq] at front
  rcases front with digit | same
  · rw [isNameChar_of_isDigit digit] at other
    cases other
  · exact point same

theorem isNameStart_of_isNumeralFront {c : Char} (front : isNumeralFront c = true) :
    isNameStart c = false := by
  rw [isNumeralFront, Bool.or_eq_true, beq_iff_eq] at front
  rcases front with digit | rfl
  · have letter : isNameStart c = (decide (c.val ≥ 65 ∧ c.val ≤ 90) ||
        c.val ≥ 97 && c.val ≤ 122 || c == '_') := rfl
    rw [Char.isDigit, Bool.and_eq_true, decide_eq_true_eq, decide_eq_true_eq] at digit
    have upper : c.val ≤ 57 := digit.2
    have different : c ≠ '_' := by
      rintro rfl
      exact absurd upper (by decide)
    rw [letter]
    grind
  · rfl

private theorem startsNumeral_digit {c : Char} (digit : c.isDigit = true) (rest : List Char) :
    startsNumeral (c :: rest) = true := by
  unfold startsNumeral
  split
  next same =>
    cases same
    cases digit
  next same =>
    cases same
    exact digit
  next same => cases same

/-- A numeral begins with digits, if there are any, or with a point and digits after it. -/
theorem startsNumeral_digits {whole : List Char} (digits : ∀ c ∈ whole, c.isDigit = true)
    (rest : List Char) (pointed : whole = [] → startsNumeral rest = true) :
    startsNumeral (whole ++ rest) = true := by
  cases whole with
  | nil => exact pointed rfl
  | cons digit others => exact startsNumeral_digit (digits digit List.mem_cons_self) _

theorem startsNumeral_append {front : List Char} (starts : startsNumeral front = true)
    (rest : List Char) : startsNumeral (front ++ rest) = true := by
  unfold startsNumeral at starts
  split at starts
  next => exact starts
  next c more _ => exact startsNumeral_digit starts (more ++ rest)
  next => cases starts

/-- Digits and a point come first in a numeral without a sign, and an exponent after them. -/
theorem parts_of_read? {numeral : Numeral} (unsigned : Numeral.splitSign chars = (false, chars))
    (read : Numeral.read? chars = some numeral) :
    ∃ front tail, chars = front ++ tail ∧ (∀ c ∈ front, isNumeralFront c = true) ∧
      startsNumeral front = true ∧ (Numeral.readExponent? tail).isSome = true := by
  obtain ⟨some, exponent⟩ :=
    (Numeral.isSome_read?_of_splits rfl).1 (Option.isSome_of_eq_some read)
  rw [unsigned] at some exponent
  obtain ⟨front, spelled, shape⟩ := Numeral.exists_isMantissa rfl some
  refine ⟨front, _, spelled, fun c member => ?_, ?_, exponent⟩
  · rcases shape.digit_or_point c member with digit | rfl
    · exact isNumeralFront_of_isDigit digit
    · rfl
  · obtain ⟨digits, places, given, rfl | ⟨rfl, none⟩⟩ := shape
    · refine startsNumeral_digits digits _ fun noWhole => ?_
      have given := given.resolve_left (not_not_intro noWhole)
      obtain ⟨place, others, fraction⟩ := List.exists_cons_of_ne_nil given
      rw [fraction]
      exact places place (by simp [fraction])
    · have given := given.resolve_right (not_not_intro none)
      rw [← List.append_nil (List.takeWhile _ _)]
      exact startsNumeral_digits digits _ fun noWhole => absurd noWhole given

/-- A numeral is one without a sign, or such a one after a sign. -/
theorem sign_cases {numeral : Numeral} (read : Numeral.read? chars = some numeral) :
    ∃ body, (chars = '-' :: body ∨ chars = '+' :: body ∨ chars = body) ∧
      Numeral.splitSign body = (false, body) ∧ (Numeral.read? body).isSome = true := by
  have accepted := (Numeral.isSome_read?_of_splits rfl).1 (Option.isSome_of_eq_some read)
  obtain ⟨front, spelled, shape⟩ := Numeral.exists_isMantissa rfl accepted.1
  have unsigned : Numeral.splitSign (Numeral.splitSign chars).2 =
      (false, (Numeral.splitSign chars).2) := by
    rw [spelled]
    exact shape.unsigned
  refine ⟨(Numeral.splitSign chars).2, ?_, unsigned, ?_⟩
  · obtain ⟨sign, signed⟩ := Numeral.exists_sign chars
    cases sign with
    | absent => exact .inr (.inr signed)
    | plus => exact .inr (.inl signed)
    | minus => exact .inl signed
  · rw [Numeral.isSome_read?_of_splits rfl, unsigned]
    exact accepted

/-- Digits stop where the text ends. -/
theorem takes_digits {digits : List Char} (ends : Ends rest)
    (all : Numeral.isDigits digits = true) :
    (digits ++ rest).takeWhile isNameChar = digits ∧
      (digits ++ rest).dropWhile isNameChar = rest := by
  exact ends.takes fun c member => isNameChar_of_isDigit ((Numeral.isDigits_iff.1 all).2 c member)

theorem splitPlusMinus_other {c : Char} (other : c ≠ '+' ∧ c ≠ '-') (rest : List Char) :
    splitPlusMinus (c :: rest) = ([], c :: rest) := by
  unfold splitPlusMinus
  split
  next same => exact absurd (List.cons.inj same).1 other.1
  next same => exact absurd (List.cons.inj same).1 other.2
  next => rfl

private theorem splitPlusMinus_digit {c : Char} (digit : c.isDigit = true) (rest : List Char) :
    splitPlusMinus (c :: rest) = ([], c :: rest) := by
  apply splitPlusMinus_other
  constructor
  · rintro rfl
    cases digit
  · rintro rfl
    cases digit

/-- A whole number is taken whole: its sign, and its digits. -/
theorem takes_int (ends : Ends rest) (read : (Numeral.readInt? chars).isSome = true) :
    (splitPlusMinus (chars ++ rest)).1 ++
        (splitPlusMinus (chars ++ rest)).2.takeWhile isNameChar = chars ∧
      (splitPlusMinus (chars ++ rest)).2.dropWhile isNameChar = rest := by
  rw [Numeral.isSome_readInt?] at read
  unfold Numeral.splitSign at read
  split at read
  next body =>
    obtain ⟨taken, left⟩ := takes_digits ends read
    exact ⟨congrArg ('-' :: ·) taken, left⟩
  next body =>
    obtain ⟨taken, left⟩ := takes_digits ends read
    exact ⟨congrArg ('+' :: ·) taken, left⟩
  next =>
    cases chars with
    | nil => cases read
    | cons c more =>
      have digit : c.isDigit = true := (Numeral.isDigits_iff.1 read).2 c List.mem_cons_self
      rw [List.cons_append, splitPlusMinus_digit digit, List.nil_append]
      exact takes_digits ends read

/-- An exponent is taken whole: its mark, and a whole number after it. -/
theorem takes_exponent (ends : Ends rest) (read : (Numeral.readExponent? chars).isSome = true) :
    (splitMark (chars ++ rest)).1 ++ (splitMark (chars ++ rest)).2.takeWhile isNameChar = chars ∧
      (splitMark (chars ++ rest)).2.dropWhile isNameChar = rest := by
  cases chars with
  | nil =>
    have unmarked : splitMark rest = ([], rest) := by
      cases rest with
      | nil => rfl
      | cons c more =>
        have other := (ends c rfl).1
        rw [splitMark, if_neg]
        rintro (rfl | rfl) <;> cases other
    rw [List.nil_append, unmarked]
    exact ends.takes fun c member => absurd member List.not_mem_nil
  | cons mark more =>
    obtain ⟨marked, number⟩ := Numeral.isSome_readExponent?_cons.1 read
    obtain ⟨taken, left⟩ := takes_int ends number
    rw [List.cons_append, splitMark, if_pos marked]
    exact ⟨congrArg (mark :: ·) taken, left⟩

private theorem spanNumeral_eq {numeral : Numeral} (ends : Ends rest)
    (unsigned : Numeral.splitSign chars = (false, chars))
    (read : Numeral.read? chars = some numeral) : spanNumeral (chars ++ rest) = (chars, rest) := by
  obtain ⟨front, tail, rfl, all, -, exponent⟩ := parts_of_read? unsigned read
  obtain ⟨taken, left⟩ := takes_exponent ends exponent
  have stops : ∀ c ∈ (tail ++ rest).head?, isNumeralFront c = false := by
    intro c first
    cases tail with
    | nil => exact not_isNumeralFront (ends c first).1 (ends c first).2
    | cons mark more =>
      have marked := Numeral.head_of_readExponent? exponent mark rfl
      cases first
      rcases marked with rfl | rfl <;> rfl
  have split := takeWhile_before all stops
  rw [← List.append_assoc] at split
  rw [spanNumeral, split.1, split.2]
  dsimp only
  rw [List.append_assoc, taken, left]

/-- A decimal numeral without a sign is one token as it stands. -/
theorem next?_numeral {numeral : Numeral} (ends : Ends rest)
    (unsigned : Numeral.splitSign chars = (false, chars))
    (read : Numeral.read? chars = some numeral) :
    next? (chars ++ rest) = some (.numeral (String.ofList chars), rest) := by
  have number : readNumeral? (chars ++ rest) = some (.numeral (String.ofList chars), rest) := by
    rw [readNumeral?, spanNumeral_eq ends unsigned read]
    simp [isNumber, read]
  have starts : startsNumeral (chars ++ rest) = true := by
    obtain ⟨front, tail, rfl, -, starts, -⟩ := parts_of_read? unsigned read
    rw [List.append_assoc]
    exact startsNumeral_append starts _
  cases whole : chars ++ rest with
  | nil =>
    rw [whole] at starts
    cases starts
  | cons c more =>
    rw [whole] at starts number
    have notName := isNameStart_of_isNumeralFront (isNumeralFront_of_startsNumeral starts)
    rw [next?, notName, if_neg Bool.false_ne_true, if_pos starts, number]

/-- A minus before a numeral is a token of its own. -/
theorem next?_minus (starts : startsNumeral chars = true) :
    next? ('-' :: chars) = some (.symbol "-", chars) := by
  have short : startsLong ('-' :: chars) = false := by
    unfold startsLong
    split
    next same =>
      cases same
      cases starts
    next same => cases same
    next same => cases same
    next => rfl
  have other : next? ('-' :: chars) =
      if startsLong ('-' :: chars) then none else readSymbol? ('-' :: chars) := rfl
  rw [other, short, if_neg Bool.false_ne_true]
  rfl

end Rowscan.Lua
