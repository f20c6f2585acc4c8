import Mathlib.Algebra.Group.Nat.Defs
import Mathlib.Data.List.TakeWhile
import Mathlib.Tactic.ByContra
import Rowscan.Numeral

/-!
Numerals character by character. A text that reads as a numeral is written in a small alphabet
(`isNumeralChar_of_read?`), so nothing is trimmed from it and it reads as a number as it stands
(`toNumber?_of_read?`). Conversely digits with a sign and a point read back as the numeral that
they were written from (`read?_whole`, `read?_point`), and a 64-bit number is read back from its
text, as a double (`toNumber?_int`) and as itself (`int64OfText?_toString`).
-/
namespace Rowscan

/-- What is taken stops before a character of another kind. -/
theorem takeWhile_before {p : Char → Bool} {chars rest : List Char}
    (front : ∀ c ∈ chars, p c = true) (stops : ∀ c ∈ rest.head?, p c = false) :
    (chars ++ rest).takeWhile p = chars ∧ (chars ++ rest).dropWhile p = rest := by
  rw [List.takeWhile_append_of_pos front, List.dropWhile_append_of_pos front]
  cases rest with
  | nil => exact ⟨List.append_nil chars, rfl⟩
  | cons c more =>
    have stop : ¬ p c = true := by
      rw [stops c rfl]
      decide
    rw [List.takeWhile_cons_of_neg stop, List.dropWhile_cons_of_neg stop, List.append_nil]
    exact ⟨rfl, rfl⟩

namespace Numeral

/-! ## Parts -/

/-- A sign in front of a number, if there is one. -/
inductive Sign where
  | absent
  | plus
  | minus
  deriving DecidableEq

/-- The characters of a sign. -/
def Sign.chars : Sign → List Char
  | .absent => []
  | .plus => ['+']
  | .minus => ['-']

theorem Sign.chars_injective : Function.Injective Sign.chars := by
  intro sign other same
  cases sign <;> cases other <;> first | rfl | cases same

theorem splitSign_other {c : Char} (minus : c ≠ '-') (plus : c ≠ '+') (rest : List Char) :
    splitSign (c :: rest) = (false, c :: rest) := by
  unfold splitSign
  split
  next same => exact absurd (List.cons.inj same).1 minus
  next same => exact absurd (List.cons.inj same).1 plus
  next => rfl

theorem splitSign_digit {c : Char} (digit : c.isDigit = true) (rest : List Char) :
    splitSign (c :: rest) = (false, c :: rest) := by
  apply splitSign_other
  · rintro rfl
    cases digit
  · rintro rfl
    cases digit

/-- A sign is taken off a text that has no second one. -/
theorem splitSign_chars (sign : Sign) {rest : List Char}
    (unsigned : splitSign rest = (false, rest)) :
    splitSign (sign.chars ++ rest) = (decide (sign = .minus), rest) := by
  cases sign with
  | absent => exact unsigned
  | plus => rfl
  | minus => rfl

/-- Every text is a sign and what is left without it. -/
theorem exists_sign (chars : List Char) :
    ∃ sign : Sign, chars = sign.chars ++ (splitSign chars).2 := by
  unfold splitSign
  split
  next => exact ⟨.minus, rfl⟩
  next => exact ⟨.plus, rfl⟩
  next => exact ⟨.absent, rfl⟩

theorem isDigits_iff {chars : List Char} :
    isDigits chars = true ↔ chars ≠ [] ∧ ∀ c ∈ chars, c.isDigit = true := by
  rw [isDigits, Bool.and_eq_true, List.all_eq_true, Bool.not_eq_true', List.isEmpty_eq_false_iff]

private theorem splitFraction_cases (chars : List Char) :
    (∃ after, chars = '.' :: after ∧
      splitFraction chars = (after.takeWhile Char.isDigit, after.dropWhile Char.isDigit)) ∨
      splitFraction chars = ([], chars) := by
  unfold splitFraction
  split
  next after => exact .inl ⟨after, rfl, rfl⟩
  next => exact .inr rfl

/-! ## Cutting numerals -/

variable {text whole fraction tail : List Char}

theorem isSome_readInt? (text : List Char) :
    (readInt? text).isSome = isDigits (splitSign text).2 := by
  rw [readInt?]
  dsimp only
  cases isDigits (splitSign text).2 <;> rfl

theorem isSome_readExponent?_cons {mark : Char} : (readExponent? (mark :: tail)).isSome = true ↔
    (mark = 'e' ∨ mark = 'E') ∧ (readInt? tail).isSome = true := by
  rw [readExponent?]
  split
  next marked => exact (and_iff_right marked).symm
  next other => exact iff_of_false Bool.false_ne_true fun both => other both.1

/-- An exponent begins with its mark. -/
theorem head_of_readExponent? (read : (readExponent? text).isSome = true) :
    ∀ c ∈ text.head?, c = 'e' ∨ c = 'E' := by
  intro c first
  cases text with
  | nil => cases first
  | cons mark rest =>
    cases first
    exact (isSome_readExponent?_cons.1 read).1

/-- A text is digits with an optional fraction: these before the point, and those after it. -/
structure IsMantissa (text whole fraction : List Char) : Prop where
  whole_digits : ∀ c ∈ whole, c.isDigit = true
  fraction_digits : ∀ c ∈ fraction, c.isDigit = true
  some_digit : whole ≠ [] ∨ fraction ≠ []
  spelled : text = whole ++ '.' :: fraction ∨ text = whole ∧ fraction = []

/-- Digits with an optional fraction have no sign. -/
theorem IsMantissa.unsigned (front : IsMantissa text whole fraction) :
    splitSign (text ++ tail) = (false, text ++ tail) := by
  obtain ⟨digits, -, some, spelled⟩ := front
  cases whole with
  | cons first more =>
    have digit := digits first List.mem_cons_self
    rcases spelled with rfl | ⟨rfl, -⟩
    · exact splitSign_digit digit _
    · exact splitSign_digit digit _
  | nil =>
    rcases spelled with rfl | ⟨-, rfl⟩
    · rfl
    · exact absurd some (by simp)

/-- In front of an exponent they are taken apart as they are written. -/
theorem IsMantissa.splits (front : IsMantissa text whole fraction)
    (marked : ∀ c ∈ tail.head?, c = 'e' ∨ c = 'E') :
    (text ++ tail).takeWhile Char.isDigit = whole ∧
      splitFraction ((text ++ tail).dropWhile Char.isDigit) = (fraction, tail) := by
  have stops : ∀ c ∈ tail.head?, c.isDigit = false := by
    intro c first
    rcases marked c first with rfl | rfl <;> rfl
  obtain ⟨digits, places, -, rfl | ⟨rfl, rfl⟩⟩ := front
  · have point : ∀ c ∈ ('.' :: (fraction ++ tail)).head?, c.isDigit = false := by
      rintro c ⟨⟩
      rfl
    obtain ⟨taken, left⟩ := takeWhile_before digits point
    obtain ⟨takenPlaces, leftTail⟩ := takeWhile_before places stops
    rw [List.append_assoc, List.cons_append, taken, left, splitFraction, takenPlaces, leftTail]
    exact ⟨rfl, rfl⟩
  · obtain ⟨taken, left⟩ := takeWhile_before digits stops
    rw [taken, left]
    refine ⟨rfl, ?_⟩
    rcases splitFraction_cases tail with ⟨after, rfl, -⟩ | same
    · exact absurd (marked '.' rfl) (by decide)
    · exact same

theorem IsMantissa.digit_or_point (front : IsMantissa text whole fraction) :
    ∀ c ∈ text, c.isDigit = true ∨ c = '.' := by
  obtain ⟨digits, places, -, rfl | ⟨rfl, -⟩⟩ := front
  · intro c member
    rcases List.mem_append.1 member with digit | after
    · exact .inl (digits c digit)
    · rcases List.mem_cons.1 after with point | place
      · exact .inr point
      · exact .inl (places c place)
  · exact fun c member => .inl (digits c member)

/-- What is taken off the front of a text is digits with an optional fraction. -/
theorem exists_isMantissa
    (split : splitFraction (text.dropWhile Char.isDigit) = (fraction, tail))
    (some : text.takeWhile Char.isDigit ≠ [] ∨ fraction ≠ []) :
    ∃ front, text = front ++ tail ∧ IsMantissa front (text.takeWhile Char.isDigit) fraction := by
  have parts := List.takeWhile_append_dropWhile (p := Char.isDigit) (l := text)
  have digits : ∀ c ∈ text.takeWhile Char.isDigit, c.isDigit = true :=
    fun c member => List.mem_takeWhile_imp member
  rcases splitFraction_cases (text.dropWhile Char.isDigit) with ⟨after, point, same⟩ | same
  · obtain ⟨rfl, rfl⟩ := Prod.mk.inj (same.symm.trans split)
    have places : ∀ c ∈ after.takeWhile Char.isDigit, c.isDigit = true :=
      fun c member => List.mem_takeWhile_imp member
    refine ⟨_, ?_, digits, places, some, .inl rfl⟩
    rw [List.append_assoc, List.cons_append, List.takeWhile_append_dropWhile, ← point, parts]
  · obtain ⟨rfl, rfl⟩ := Prod.mk.inj (same.symm.trans split)
    exact ⟨_, parts.symm, digits, by simp, some, .inr ⟨rfl, rfl⟩⟩

/-- A numeral is read if a digit is found after its sign, and an exponent or nothing after that. -/
theorem isSome_read?_of_splits
    (split : splitFraction ((splitSign text).2.dropWhile Char.isDigit) = (fraction, tail)) :
    (read? text).isSome = true ↔
      ((splitSign text).2.takeWhile Char.isDigit ≠ [] ∨ fraction ≠ []) ∧
        (readExponent? tail).isSome = true := by
  rw [read?]
  dsimp only
  rw [split]
  generalize (splitSign text).2.takeWhile Char.isDigit = whole
  cases whole <;> cases fraction <;> simp

/-! ## The alphabet -/

/-- The characters that numerals are written in. -/
def isNumeralChar (c : Char) : Bool := c.isDigit || ['+', '-', '.', 'e', 'E'].contains c

theorem isNumeralChar_of_isDigit {c : Char} (digit : c.isDigit = true) :
    isNumeralChar c = true := by
  rw [isNumeralChar, digit, Bool.true_or]

/-- What holds of the signs and of the characters after a sign holds of all characters. -/
theorem forall_of_splitSign {chars : List Char} {P : Char → Prop} (minus : P '-') (plus : P '+')
    (rest : ∀ c ∈ (splitSign chars).2, P c) : ∀ c ∈ chars, P c := by
  intro c member
  unfold splitSign at rest
  split at rest
  · rcases List.mem_cons.1 member with rfl | member
    · exact minus
    · exact rest c member
  · rcases List.mem_cons.1 member with rfl | member
    · exact plus
    · exact rest c member
  · exact rest c member

theorem isNumeralChar_readInt? {chars : List Char} {value : Int}
    (read : readInt? chars = some value) : ∀ c ∈ chars, isNumeralChar c = true := by
  have digits := Option.isSome_of_eq_some read
  rw [isSome_readInt?, isDigits_iff] at digits
  refine forall_of_splitSign (by rfl) (by rfl) fun c member => ?_
  exact isNumeralChar_of_isDigit (digits.2 c member)

private theorem isNumeralChar_readExponent? {chars : List Char}
    (read : (readExponent? chars).isSome = true) : ∀ c ∈ chars, isNumeralChar c = true := by
  intro c member
  cases chars with
  | nil => cases member
  | cons mark rest =>
    obtain ⟨marked, number⟩ := isSome_readExponent?_cons.1 read
    obtain ⟨value, number⟩ := Option.isSome_iff_exists.1 number
    rcases List.mem_cons.1 member with rfl | member
    · rcases marked with rfl | rfl <;> rfl
    · exact isNumeralChar_readInt? number c member

/-- A numeral is written in digits, signs, the point and the exponent marks alone. -/
theorem isNumeralChar_of_read? {chars : List Char} {numeral : Numeral}
    (read : read? chars = some numeral) : ∀ c ∈ chars, isNumeralChar c = true := by
  obtain ⟨some, exponent⟩ := (isSome_read?_of_splits rfl).1 (Option.isSome_of_eq_some read)
  obtain ⟨front, spelled, shape⟩ := exists_isMantissa rfl some
  refine forall_of_splitSign (by rfl) (by rfl) ?_
  rw [spelled]
  intro c member
  rcases List.mem_append.1 member with before | after
  · rcases shape.digit_or_point c before with digit | rfl
    · exact isNumeralChar_of_isDigit digit
    · rfl
  · exact isNumeralChar_readExponent? exponent c after

theorem isNumeralChar_range {c : Char} (numeral : isNumeralChar c = true) :
    43 ≤ c.toNat ∧ c.toNat ≤ 101 := by
  simp only [isNumeralChar, Bool.or_eq_true, List.contains_eq_mem, decide_eq_true_eq,
    List.mem_cons, List.not_mem_nil, or_false] at numeral
  rcases numeral with digit | rfl | rfl | rfl | rfl | rfl
  · rw [Char.isDigit, Bool.and_eq_true, decide_eq_true_eq, decide_eq_true_eq] at digit
    have low : 48 ≤ c.val.toNat := digit.1
    have high : c.val.toNat ≤ 57 := digit.2
    constructor <;> simp only [Char.toNat] <;> omega
  all_goals decide

/-- Nothing in the alphabet of numerals is blank. -/
theorem isBlank_of_isNumeralChar {c : Char} (numeral : isNumeralChar c = true) :
    Text.isBlank c = false := by
  obtain ⟨low, high⟩ := isNumeralChar_range numeral
  rw [Text.isBlank, Bool.eq_false_iff, ne_eq, Text.CodePoints.has_iff]
  rintro ⟨range, member, above, below⟩
  have outside : ∀ range ∈ Text.whiteSpace, range.2 < 43 ∨ 101 < range.1 := by decide
  rcases outside range member with before | after <;> omega

/-! ## Digits -/

@[simp] theorem digitsValue_toDigits (n : Nat) : digitsValue (Nat.toDigits 10 n) = n :=
  Nat.ofDigitChars_ten_toDigits

theorem digitsValue_append (front back : List Char) :
    digitsValue (front ++ back) = digitsValue front * 10 ^ back.length + digitsValue back := by
  unfold digitsValue
  rw [Nat.ofDigitChars_append, Nat.ofDigitChars_eq_ofDigitChars_zero, Nat.mul_comm]

theorem digitsValue_replicate_zero (count : Nat) :
    digitsValue (List.replicate count '0') = 0 := by
  simp [digitsValue]

theorem isDigit_toDigits (n : Nat) : ∀ c ∈ Nat.toDigits 10 n, c.isDigit = true :=
  fun _ member => Nat.isDigit_of_mem_toDigits (by decide) (by decide) member

/-! ## Reading what was written -/

/-- The sign that a negative number is written with. -/
def signChars (negative : Bool) : List Char := if negative then ['-'] else []

private theorem splitSign_signChars {c : Char} (digit : c.isDigit = true) (negative : Bool)
    (rest : List Char) : splitSign (signChars negative ++ c :: rest) = (negative, c :: rest) := by
  cases negative with
  | true => rfl
  | false => exact splitSign_digit digit rest

/-- Digits without a point are a numeral without a fraction. -/
theorem read?_whole {whole : List Char} (digits : ∀ c ∈ whole, c.isDigit = true)
    (nonempty : whole ≠ []) (negative : Bool) :
    read? (signChars negative ++ whole) =
      some { negative, whole, fraction := [], exponent := 0 } := by
  obtain ⟨first, rest, rfl⟩ := List.exists_cons_of_ne_nil nonempty
  have taken : (first :: rest).takeWhile Char.isDigit = first :: rest :=
    List.takeWhile_eq_self_iff.2 digits
  have dropped : (first :: rest).dropWhile Char.isDigit = [] :=
    List.dropWhile_eq_nil_iff.2 digits
  simp only [read?, splitSign_signChars (digits first List.mem_cons_self), taken, dropped]
  rfl

/-- Digits with a point among them are a numeral with a fraction. -/
theorem read?_point {whole fraction : List Char} (digits : ∀ c ∈ whole, c.isDigit = true)
    (nonempty : whole ≠ []) (fractionDigits : ∀ c ∈ fraction, c.isDigit = true)
    (negative : Bool) :
    read? (signChars negative ++ (whole ++ '.' :: fraction)) =
      some { negative, whole, fraction, exponent := 0 } := by
  obtain ⟨first, rest, rfl⟩ := List.exists_cons_of_ne_nil nonempty
  have point : ∀ c ∈ ('.' :: fraction).head?, c.isDigit = false := by
    rintro c ⟨⟩
    rfl
  obtain ⟨taken, dropped⟩ := takeWhile_before digits point
  have fractionTaken : fraction.takeWhile Char.isDigit = fraction :=
    List.takeWhile_eq_self_iff.2 fractionDigits
  have fractionDropped : fraction.dropWhile Char.isDigit = [] :=
    List.dropWhile_eq_nil_iff.2 fractionDigits
  have sign : splitSign (signChars negative ++ (first :: rest ++ '.' :: fraction)) =
      (negative, first :: rest ++ '.' :: fraction) :=
    splitSign_signChars (digits first List.mem_cons_self) negative _
  simp only [read?, sign, taken, dropped, splitFraction, fractionTaken, fractionDropped]
  rfl

/-! ## Whole numbers -/

/-- The numeral that a whole number is written as. -/
def ofInt (n : Int) : Numeral where
  negative := decide (n < 0)
  whole := Nat.toDigits 10 n.natAbs
  fraction := []
  exponent := 0

theorem toList_toString (n : Int) :
    (toString n).toList = signChars (decide (n < 0)) ++ Nat.toDigits 10 n.natAbs := by
  cases n with
  | ofNat n =>
    have text : toString (Int.ofNat n) = toString n := rfl
    rw [text, Nat.toString_eq_repr, Nat.toList_repr]
    rfl
  | negSucc n =>
    have text : toString (Int.negSucc n) = "-" ++ toString (n + 1) := rfl
    have mark : "-".toList = signChars true := by decide
    have sign : decide (Int.negSucc n < 0) = true := decide_eq_true (Int.negSucc_lt_zero n)
    rw [text, String.toList_append, Nat.toString_eq_repr, Nat.toList_repr, sign, mark]
    rfl

/-- The text of a whole number is its numeral. -/
theorem read?_toString (n : Int) : read? (toString n).toList = some (ofInt n) := by
  rw [toList_toString]
  exact read?_whole (isDigit_toDigits _) Nat.toDigits_ne_nil _

private theorem splitSign_toString (n : Int) :
    splitSign (toString n).toList = (decide (n < 0), Nat.toDigits 10 n.natAbs) := by
  obtain ⟨first, rest, digits⟩ :=
    List.exists_cons_of_ne_nil (Nat.toDigits_ne_nil (b := 10) (n := n.natAbs))
  have digit : first.isDigit = true := by
    apply isDigit_toDigits n.natAbs
    simp [digits]
  rw [toList_toString, digits, splitSign_signChars digit]

private theorem isDigits_toDigits (n : Nat) : isDigits (Nat.toDigits 10 n) = true :=
  isDigits_iff.2 ⟨Nat.toDigits_ne_nil, isDigit_toDigits n⟩

theorem readInt?_toString (n : Int) : readInt? (toString n).toList = some n := by
  simp only [readInt?, splitSign_toString, isDigits_toDigits, digitsValue_toDigits, if_true,
    decide_eq_true_eq]
  split <;> congr 1 <;> omega

theorem coefficient_ofInt (n : Int) : (ofInt n).coefficient = n.natAbs := by
  rw [coefficient, ofInt, List.append_nil, digitsValue_toDigits]

/-- The numeral of a whole number is the double nearest to it. -/
theorem toDouble_ofInt {n : Int} (short : (Nat.toDigits 10 n.natAbs).length ≤ 400) :
    (ofInt n).toDouble = .ofInt n := by
  have scale : (ofInt n).scale = 0 := rfl
  have sign : (ofInt n).negative = decide (n < 0) := rfl
  have notAbove : ¬ (400 : Int) < 0 + (Nat.toDigits 10 n.natAbs).length := by omega
  have notBelow : ¬ (0 : Int) + (Nat.toDigits 10 n.natAbs).length < -400 := by omega
  rw [toDouble, coefficient_ofInt, scale, sign, Double.ofInt]
  rw [if_neg notAbove, if_neg notBelow, if_pos (Int.le_refl 0)]
  split
  next zero =>
    have none : n = 0 := Int.natAbs_eq_zero.1 zero
    have rounded : Double.roundUnits 0 1 = 0 := by decide
    rw [none, Int.natAbs_zero, Nat.zero_mul, Double.ofRatio, rounded]
    exact (dif_pos Double.fits_zero).symm
  next => rw [Int.toNat_zero, Nat.pow_eq, Nat.pow_zero, Nat.mul_one]

end Numeral

/-! ## Reading texts as numbers -/

private theorem trimBlank_of_none {chars : List Char} (none : ∀ c ∈ chars, Text.isBlank c = false) :
    Text.trimBlank chars = chars := by
  have kept (list : List Char) (none : ∀ c ∈ list, Text.isBlank c = false) :
      list.dropWhile Text.isBlank = list := by
    cases list with
    | nil => rfl
    | cons first rest => rw [List.dropWhile_cons_of_neg (by simp [none first])]
  rw [Text.trimBlank, kept chars none, kept chars.reverse (by simpa using none),
    List.reverse_reverse]

/-- A numeral is its own number: there is nothing around it to trim. -/
theorem toNumber?_of_read? {text : String} {numeral : Numeral}
    (read : Numeral.read? text.toList = some numeral) :
    toNumber? text = some numeral.toDouble := by
  have untrimmed : Text.trimBlank text.toList = text.toList :=
    trimBlank_of_none fun c member =>
      Numeral.isBlank_of_isNumeralChar (Numeral.isNumeralChar_of_read? read c member)
  simp only [toNumber?, untrimmed, read]

/-- A 64-bit number is read back from its text. -/
theorem toNumber?_int (value : Int64) :
    toNumber? (toString value.toInt) = some (.ofInt value.toInt) := by
  rw [toNumber?_of_read? (Numeral.read?_toString _), Numeral.toDouble_ofInt]
  have bound : value.toInt.natAbs < 10 ^ 19 := by
    have below := value.toInt_lt
    have above := value.le_toInt
    omega
  have short := (Nat.length_toDigits_le_iff (by decide) (by decide)).2 bound
  exact short.trans (by decide)

/-- A number has a 64-bit form if it is the value of one. -/
theorem int64OfInt?_eq_some_iff {n : Int} {word : Int64} :
    int64OfInt? n = some word ↔ word.toInt = n := by
  rw [int64OfInt?]
  constructor
  · intro held
    split at held
    next range =>
      cases held
      exact Int64.toInt_ofInt_of_le range.1 (Int.lt_of_le_of_lt range.2 (by decide))
    next => cases held
  · rintro rfl
    rw [if_pos ⟨word.minValue_le_toInt, word.toInt_le⟩, Int64.ofInt_toInt]

theorem int64OfText?_toString (value : Int64) :
    int64OfText? (toString value.toInt) = some value := by
  rw [int64OfText?, Numeral.readInt?_toString, Option.bind_some, int64OfInt?_eq_some_iff]

theorem isNumeral_int (value : Int64) : isNumeral (toString value.toInt) = true := by
  rw [isNumeral, Numeral.read?_toString]
  rfl

end Rowscan
