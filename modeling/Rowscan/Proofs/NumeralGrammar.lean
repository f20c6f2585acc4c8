import Mathlib.Computability.RegularExpressions
import Mathlib.Tactic.IntervalCases
import Rowscan.Proofs.Numerals

/-!
The grammar of decimal numerals, as a regular expression: a sign or none, digits with an optional
fraction, and an exponent or none (`decimal`). The reader goes through a text once and cuts it
where the grammar has its seams, and each piece is read exactly if it has the form that stands
there. So a text is a numeral if and only if the grammar has it (`isNumeral_iff_decimal`).
-/
namespace Rowscan

namespace Numeral

open RegularExpression (char matches'_add matches'_char matches'_epsilon matches'_mul matches'_star)

/-! ## The grammar -/

/-- One of several characters. -/
def oneOf (chars : List Char) : RegularExpression Char := (chars.map char).sum

/-- A part that may be left out. -/
def maybe (part : RegularExpression Char) : RegularExpression Char := 1 + part

/-- A part once or more often. -/
def repeated (part : RegularExpression Char) : RegularExpression Char := part * part.star

/-- One of the ten digits. -/
def digit : RegularExpression Char := oneOf "0123456789".toList

/-- A plus or a minus. -/
def sign : RegularExpression Char := oneOf ['+', '-']

/-- A sign or none, and one digit or more. -/
def wholeNumber : RegularExpression Char := maybe sign * repeated digit

/-- Digits with an optional fraction, one digit at least before the point or after it. -/
def mantissa : RegularExpression Char :=
  repeated digit * maybe (char '.' * digit.star) + char '.' * repeated digit

/-- A mark and a whole number. -/
def exponentPart : RegularExpression Char := oneOf ['e', 'E'] * wholeNumber

/-- The decimal numerals. -/
def decimal : RegularExpression Char := maybe sign * (mantissa * maybe exponentPart)

variable {chars text : List Char} {part : RegularExpression Char}

/-! ## Its parts -/

private theorem mem_oneOf : text ∈ (oneOf chars).matches' ↔ ∃ c ∈ chars, text = [c] := by
  induction chars with
  | nil => exact iff_of_false (Set.notMem_empty text) (by simp)
  | cons c more ih =>
    have first : (oneOf (c :: more)).matches' = {[c]} + (oneOf more).matches' := rfl
    rw [first, Language.mem_add, ih, List.exists_mem_cons_iff]
    rfl

private theorem mem_maybe : text ∈ (maybe part).matches' ↔ text = [] ∨ text ∈ part.matches' := by
  rw [maybe, matches'_add, Language.mem_add, matches'_epsilon, Language.mem_one]

private theorem mem_star_oneOf : text ∈ (oneOf chars).star.matches' ↔ ∀ c ∈ text, c ∈ chars := by
  rw [matches'_star, Language.mem_kstar]
  constructor
  · rintro ⟨pieces, rfl, all⟩ c member
    obtain ⟨piece, among, inside⟩ := List.mem_flatten.1 member
    obtain ⟨d, listed, rfl⟩ := mem_oneOf.1 (all piece among)
    rwa [List.mem_singleton.1 inside]
  · intro all
    refine ⟨text.map fun c => [c], ?_, ?_⟩
    · rw [← List.flatMap_def, List.flatMap_singleton']
    · simpa [mem_oneOf] using all

theorem mem_digits_iff {c : Char} : c ∈ "0123456789".toList ↔ c.isDigit = true := by
  constructor
  · intro member
    have digits : "0123456789".toList.all Char.isDigit = true := by decide
    exact List.all_eq_true.1 digits c member
  · intro digit
    rw [Char.isDigit, Bool.and_eq_true, decide_eq_true_eq, decide_eq_true_eq] at digit
    have low : 48 ≤ c.toNat := digit.1
    have high : c.toNat ≤ 57 := digit.2
    have listed : ∀ code, 48 ≤ code → code ≤ 57 → Char.ofNat code ∈ "0123456789".toList := by
      intro code low high
      interval_cases code <;> decide
    simpa only [Char.ofNat_toNat] using listed c.toNat low high

private theorem mem_star_digit : text ∈ digit.star.matches' ↔ ∀ c ∈ text, c.isDigit = true := by
  rw [digit, mem_star_oneOf]
  exact forall₂_congr fun c _ => mem_digits_iff

private theorem mem_repeated_digit : text ∈ (repeated digit).matches' ↔ isDigits text = true := by
  rw [repeated, matches'_mul, Language.mem_mul, isDigits_iff]
  constructor
  · rintro ⟨first, one, more, others, rfl⟩
    obtain ⟨c, listed, rfl⟩ := mem_oneOf.1 one
    exact ⟨List.cons_ne_nil c more,
      List.forall_mem_cons.2 ⟨mem_digits_iff.1 listed, mem_star_digit.1 others⟩⟩
  · rintro ⟨nonempty, all⟩
    obtain ⟨c, more, rfl⟩ := List.exists_cons_of_ne_nil nonempty
    obtain ⟨first, others⟩ := List.forall_mem_cons.1 all
    exact ⟨[c], mem_oneOf.2 ⟨c, mem_digits_iff.2 first, rfl⟩, more, mem_star_digit.2 others, rfl⟩

private theorem mem_maybe_sign : text ∈ (maybe sign).matches' ↔ ∃ sign :
    Sign, text = sign.chars := by
  rw [mem_maybe, sign, mem_oneOf]
  constructor
  · rintro (rfl | ⟨c, listed, rfl⟩)
    · exact ⟨.absent, rfl⟩
    · simp only [List.mem_cons, List.not_mem_nil, or_false] at listed
      rcases listed with rfl | rfl
      · exact ⟨.plus, rfl⟩
      · exact ⟨.minus, rfl⟩
  · rintro ⟨sign, rfl⟩
    cases sign with
    | absent => exact .inl rfl
    | plus => exact .inr ⟨'+', by decide, rfl⟩
    | minus => exact .inr ⟨'-', by decide, rfl⟩

/-- Before texts that have no sign of their own, a sign is taken off as the grammar has it. -/
theorem mem_signed (unsigned : ∀ text ∈ part.matches', splitSign text = (false, text)) :
    text ∈ (maybe sign * part).matches' ↔ (splitSign text).2 ∈ part.matches' := by
  rw [matches'_mul, Language.mem_mul]
  constructor
  · rintro ⟨front, signed, body, accepted, rfl⟩
    obtain ⟨sign, rfl⟩ := mem_maybe_sign.1 signed
    rwa [splitSign_chars sign (unsigned body accepted)]
  · intro accepted
    obtain ⟨sign, spelled⟩ := exists_sign text
    exact ⟨sign.chars, mem_maybe_sign.2 ⟨sign, rfl⟩, _, accepted, spelled.symm⟩

/-! ## Reading its parts -/

theorem isSome_readInt?_iff : (readInt? text).isSome = true ↔ text ∈ wholeNumber.matches' := by
  rw [isSome_readInt?, wholeNumber, mem_signed, mem_repeated_digit]
  intro text digits
  obtain ⟨nonempty, all⟩ := isDigits_iff.1 (mem_repeated_digit.1 digits)
  obtain ⟨c, more, rfl⟩ := List.exists_cons_of_ne_nil nonempty
  exact splitSign_digit (all c List.mem_cons_self) more

theorem isSome_readExponent?_iff :
    (readExponent? text).isSome = true ↔ text ∈ (maybe exponentPart).matches' := by
  rw [mem_maybe, exponentPart, matches'_mul, Language.mem_mul]
  cases text with
  | nil => exact iff_of_true rfl (.inl rfl)
  | cons mark rest =>
    rw [isSome_readExponent?_cons, isSome_readInt?_iff]
    constructor
    · rintro ⟨marked, number⟩
      have listed : mark ∈ ['e', 'E'] := by simpa using marked
      exact .inr ⟨[mark], mem_oneOf.2 ⟨mark, listed, rfl⟩, rest, number, rfl⟩
    · rintro (none | ⟨front, marked, number, accepted, same⟩)
      · cases none
      · obtain ⟨c, listed, rfl⟩ := mem_oneOf.1 marked
        cases same
        exact ⟨by simpa using listed, accepted⟩

private theorem mem_mantissa :
    text ∈ mantissa.matches' ↔ ∃ whole fraction, IsMantissa text whole fraction := by
  simp only [mantissa, matches'_add, matches'_mul, matches'_char, Language.mem_add,
    Language.mem_mul, mem_maybe, mem_star_digit, mem_repeated_digit, isDigits_iff]
  constructor
  · rintro (⟨whole, ⟨some, digits⟩, _, rfl | ⟨_, rfl, fraction, places, rfl⟩, rfl⟩ |
      ⟨_, rfl, fraction, ⟨some, places⟩, rfl⟩)
    · exact ⟨whole, [], digits, by simp, .inl some, .inr ⟨List.append_nil whole, rfl⟩⟩
    · exact ⟨whole, fraction, digits, places, .inl some, .inl rfl⟩
    · exact ⟨[], fraction, by simp, places, .inr some, .inl rfl⟩
  · rintro ⟨whole, fraction, digits, places, some, rfl | ⟨rfl, rfl⟩⟩
    -- A point with digits before it and none after it is in the first alternative only.
    · by_cases none : whole = []
      · subst none
        exact .inr ⟨['.'], rfl, fraction, ⟨some.resolve_left (by simp), places⟩, rfl⟩
      · exact .inl ⟨whole, ⟨none, digits⟩, '.' :: fraction,
          .inr ⟨['.'], rfl, fraction, places, rfl⟩, rfl⟩
    · exact .inl ⟨_, ⟨some.resolve_right (by simp), digits⟩, [], .inl rfl, List.append_nil _⟩

/-! ## Reading numerals -/

/-- The reader accepts the texts of the grammar, and no others. -/
theorem isSome_read?_iff : (read? text).isSome = true ↔ text ∈ decimal.matches' := by
  rw [decimal, mem_signed, matches'_mul, Language.mem_mul]
  · constructor
    · intro read
      obtain ⟨some, exponent⟩ := (isSome_read?_of_splits rfl).1 read
      obtain ⟨front, spelled, shape⟩ := exists_isMantissa rfl some
      exact ⟨front, mem_mantissa.2 ⟨_, _, shape⟩, _, isSome_readExponent?_iff.1 exponent,
        spelled.symm⟩
    · rintro ⟨front, accepted, tail, exponent, spelled⟩
      obtain ⟨whole, fraction, shape⟩ := mem_mantissa.1 accepted
      have read := isSome_readExponent?_iff.2 exponent
      -- No exponent begins with a digit or a point, so the reader cuts where the grammar does.
      obtain ⟨taken, left⟩ := shape.splits (head_of_readExponent? read)
      rw [spelled] at taken left
      rw [isSome_read?_of_splits left, taken]
      exact ⟨shape.some_digit, read⟩
  · intro text accepted
    obtain ⟨front, first, tail, -, rfl⟩ := Language.mem_mul.1 accepted
    obtain ⟨whole, fraction, shape⟩ := mem_mantissa.1 first
    exact shape.unsigned

end Numeral

/-- A text is a numeral if and only if it is in the grammar of decimal numerals. Numerals are
written in ASCII, without blanks. -/
theorem isNumeral_iff_decimal (text : String) :
    (isNumeral text = true ↔ text.toList ∈ Numeral.decimal.matches') ∧
      (isNumeral text = true → ∀ c ∈ text.toList, c.toNat < 128 ∧ Text.isBlank c = false) := by
  refine ⟨Numeral.isSome_read?_iff, fun numeral c member => ?_⟩
  obtain ⟨parts, read⟩ := Option.isSome_iff_exists.1 numeral
  have listed := Numeral.isNumeralChar_of_read? read c member
  have range := Numeral.isNumeralChar_range listed
  exact ⟨by omega, Numeral.isBlank_of_isNumeralChar listed⟩

theorem isNumeral_iff_decimal_exponent :
    (isNumeral "-1.5e3" = true ∧ "-1.5e3".toList ∈ Numeral.decimal.matches' ∧
      ∀ c ∈ "-1.5e3".toList, c.toNat < 128 ∧ Text.isBlank c = false) ∧
    "1e".toList ∉ Numeral.decimal.matches' := by
  have numeral : isNumeral "-1.5e3" = true := by decide
  obtain ⟨accepted, ascii⟩ := isNumeral_iff_decimal "-1.5e3"
  refine ⟨⟨numeral, accepted.1 numeral, ascii numeral⟩, fun unfinished => ?_⟩
  exact absurd ((isNumeral_iff_decimal "1e").1.2 unfinished) (by decide)

end Rowscan
