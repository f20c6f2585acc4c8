import Mathlib.Data.Nat.Digits.Defs
import Rowscan.Proofs.NumeralGrammar
import Rowscan.Text.Lowercase

/-!
Which texts are read as numbers. Without the blanks around it, such a text is a decimal numeral, or
a hexadecimal number: an optional minus sign, the mark, and digits whose value fits 64 bits
(`HexNumeral`). The digits may have a sign of their own, also after a minus sign in front of the
mark, and nothing else is taken beyond the two forms of numbers (`isSome_toNumber?_iff`).
-/
namespace Rowscan

open Numeral (Sign signChars splitSign)

/-! ## Hexadecimal digits -/

/-- The hexadecimal digits in lower case, in the order of their values. -/
def hexDigits : List Char := "0123456789abcdef".toList

/-- Whether a character is a hexadecimal digit, of either case. -/
def isHexDigit (c : Char) : Bool := hexDigits.contains c.toLower

/-- The value of a hexadecimal digit: its place among the digits. -/
def hexDigitValue (c : Char) : Nat := hexDigits.idxOf c.toLower

/-- The number that hexadecimal digits stand for, the first one being the highest. -/
def hexMagnitude (digits : List Char) : Nat := Nat.ofDigits 16 (digits.reverse.map hexDigitValue)

private theorem toNat_of_isHexDigit {c : Char} (digit : isHexDigit c = true) : c.toNat < 128 := by
  have ascii : hexDigits.all (fun d => decide (d.toNat < 0x80)) = true := by decide
  apply Text.toNat_lt_of_toLower
  exact of_decide_eq_true (List.all_eq_true.1 ascii _ (List.contains_iff_mem.1 digit))

private theorem hexDigit?_of_le {c : Char} (high : 128 ≤ c.toNat) : hexDigit? c = none := by
  have above (last : Char) (low : last.toNat < 128) : ¬ c ≤ last :=
    fun (within : c.toNat ≤ last.toNat) => by omega
  have notDigit : ¬ c.isDigit = true := by
    intro digit
    rw [Char.isDigit, Bool.and_eq_true, decide_eq_true_eq, decide_eq_true_eq] at digit
    exact above '9' (by decide) digit.2
  rw [hexDigit?, if_neg notDigit, if_neg fun within => above 'f' (by decide) within.2,
    if_neg fun within => above 'F' (by decide) within.2]

private theorem hexDigit?_eq (c : Char) :
    hexDigit? c = if isHexDigit c then some (hexDigitValue c) else none := by
  by_cases small : c.toNat < 128
  · have ascii : ∀ code < 128, hexDigit? (Char.ofNat code) =
        if isHexDigit (Char.ofNat code) then some (hexDigitValue (Char.ofNat code)) else none := by
      decide +kernel
    simpa only [Char.ofNat_toNat] using ascii c.toNat small
  · rw [if_neg fun digit => small (toNat_of_isHexDigit digit), hexDigit?_of_le (by omega)]

private theorem hexValue?_append_singleton (digits : List Char) (c : Char) :
    hexValue? (digits ++ [c]) =
      (hexValue? digits).bind fun value => (hexDigit? c).map (16 * value + ·) := by
  rw [hexValue?, List.foldlM_append, hexValue?]
  simp

/-- Characters have a value if each of them is a digit, and it is the number they stand for. -/
theorem hexValue?_eq (digits : List Char) :
    hexValue? digits = if digits.all isHexDigit then some (hexMagnitude digits) else none := by
  induction digits using List.reverseRecOn with
  | nil => rfl
  | append_singleton digits c ih =>
    have last : hexMagnitude (digits ++ [c]) = 16 * hexMagnitude digits + hexDigitValue c := by
      rw [hexMagnitude, List.reverse_append, List.reverse_singleton, List.singleton_append,
        List.map_cons, Nat.ofDigits_cons, Nat.add_comm]
      rfl
    rw [hexValue?_append_singleton, ih, hexDigit?_eq, last, List.all_append, List.all_cons,
      List.all_nil, Bool.and_true]
    cases digits.all isHexDigit <;> cases isHexDigit c <;> rfl

/-! ## Hexadecimal numbers -/

/-- A hexadecimal number as a text spells it: a minus sign or none, the letter of the mark, the sign
of the digits, and the digits. -/
@[ext]
structure HexNumeral where
  negative : Bool
  mark : Char
  sign : Sign
  digits : List Char
  marked : mark = 'x' ∨ mark = 'X'
  nonempty : digits ≠ []
  isHex : ∀ c ∈ digits, isHexDigit c = true

namespace HexNumeral

/-- The text of a hexadecimal number. -/
def chars (h : HexNumeral) : List Char :=
  signChars h.negative ++ '0' :: h.mark :: (h.sign.chars ++ h.digits)

/-- The number that the digits stand for with their sign. -/
def value (h : HexNumeral) : Int :=
  if h.sign = .minus then -(hexMagnitude h.digits : Int) else hexMagnitude h.digits

/-- The value is in the 64-bit signed range. -/
def Fits (h : HexNumeral) : Prop := -2 ^ 63 ≤ h.value ∧ h.value < 2 ^ 63

instance (h : HexNumeral) : Decidable h.Fits := by unfold Fits; infer_instance

/-- The double nearest to the value, or its opposite after a minus sign. -/
def toDouble (h : HexNumeral) : Double :=
  if h.negative then -Double.ofInt h.value else .ofInt h.value

variable {rest : List Char} {h : HexNumeral}

private theorem splitSign_digits (h : HexNumeral) : splitSign h.digits = (false, h.digits) := by
  obtain ⟨c, more, spelled⟩ := List.exists_cons_of_ne_nil h.nonempty
  have digit := h.isHex c (by simp [spelled])
  rw [spelled]
  apply Numeral.splitSign_other
  · rintro rfl
    exact absurd digit (by decide)
  · rintro rfl
    exact absurd digit (by decide)

/-- A text spells one hexadecimal number only. -/
theorem chars_injective : Function.Injective HexNumeral.chars := by
  intro h other same
  have negative : h.negative = other.negative := by
    unfold chars signChars at same
    cases first : h.negative <;> cases second : other.negative <;> simp_all
  rw [chars, chars, negative] at same
  obtain ⟨-, marked⟩ := List.cons.inj (List.append_cancel_left same)
  obtain ⟨mark, spelled⟩ := List.cons.inj marked
  have split := congrArg splitSign spelled
  rw [Numeral.splitSign_chars _ h.splitSign_digits,
    Numeral.splitSign_chars _ other.splitSign_digits] at split
  have digits : h.digits = other.digits := congrArg Prod.snd split
  rw [digits] at spelled
  exact HexNumeral.ext negative mark
    (Sign.chars_injective (List.append_cancel_right spelled)) digits

/-! ## Reading hexadecimal numbers -/

theorem afterHexMark?_eq_some_iff {text : List Char} : afterHexMark? text = some rest ↔
    ∃ mark, (mark = 'x' ∨ mark = 'X') ∧ text = '0' :: mark :: rest := by
  constructor
  · intro read
    unfold afterHexMark? at read
    split at read
    next => exact ⟨'x', .inl rfl, by rw [Option.some.inj read]⟩
    next => exact ⟨'X', .inr rfl, by rw [Option.some.inj read]⟩
    next => cases read
  · rintro ⟨mark, rfl | rfl, rfl⟩ <;> rfl

/-- What stands after the mark is read if its value fits. -/
theorem hexInt64?_chars (h : HexNumeral) :
    hexInt64? (h.sign.chars ++ h.digits) = int64OfInt? h.value := by
  have some : h.digits.isEmpty = false := List.isEmpty_eq_false_iff.2 h.nonempty
  have hex : h.digits.all isHexDigit = true := List.all_eq_true.2 h.isHex
  rw [hexInt64?, Numeral.splitSign_chars _ h.splitSign_digits]
  dsimp only
  rw [some, hexValue?_eq, hex, value]
  simp

theorem fits_iff : h.Fits ↔ ∃ word : Int64, word.toInt = h.value := by
  constructor
  · rintro ⟨above, below⟩
    exact ⟨.ofInt h.value, Int64.toInt_ofInt_of_le above below⟩
  · rintro ⟨word, same⟩
    rw [Fits, ← same]
    exact ⟨word.le_toInt, word.toInt_lt⟩

/-- What is read after the mark is the rest of a hexadecimal number. -/
theorem exists_of_hexInt64? {word : Int64} (read : hexInt64? rest = some word) (negative : Bool)
    {mark : Char} (marked : mark = 'x' ∨ mark = 'X') :
    ∃ h : HexNumeral, h.chars = signChars negative ++ '0' :: mark :: rest ∧ h.Fits := by
  obtain ⟨sign, spelled⟩ := Numeral.exists_sign rest
  have nonempty : (splitSign rest).2 ≠ [] := by
    intro none
    simp [hexInt64?, none] at read
  have isHex : (splitSign rest).2.all isHexDigit = true := by
    by_contra other
    simp [hexInt64?, hexValue?_eq, other] at read
  let h : HexNumeral :=
    { negative, mark, sign, digits := (splitSign rest).2, marked, nonempty,
      isHex := List.all_eq_true.1 isHex }
  have same : h.sign.chars ++ h.digits = rest := spelled.symm
  have value : int64OfInt? h.value = some word := by rw [← hexInt64?_chars, same, read]
  refine ⟨h, ?_, fits_iff.2 ⟨word, int64OfInt?_eq_some_iff.1 value⟩⟩
  rw [chars, same]

/-- A hexadecimal number is no decimal numeral. -/
theorem read?_chars (h : HexNumeral) : Numeral.read? h.chars = none := by
  rw [Option.eq_none_iff_forall_ne_some]
  intro numeral read
  have among : h.mark ∈ h.chars := by simp [chars]
  have listed := Numeral.isNumeralChar_of_read? read h.mark among
  rcases h.marked with same | same <;> rw [same] at listed <;> cases listed

/-- A hexadecimal number whose value fits is read as its double. -/
theorem toNumber?_chars {text : String} (spelled : h.chars = Text.trimBlank text.toList)
    (fits : h.Fits) : toNumber? text = some h.toDouble := by
  obtain ⟨word, same⟩ := fits_iff.1 fits
  have read : ((afterHexMark? ('0' :: h.mark :: (h.sign.chars ++ h.digits))).bind hexInt64?) =
      some word := by
    rw [afterHexMark?_eq_some_iff.2 ⟨h.mark, h.marked, rfl⟩, Option.bind_some, hexInt64?_chars,
      int64OfInt?_eq_some_iff.2 same]
  rw [toNumber?, ← spelled]
  dsimp only
  rw [h.read?_chars, chars, toDouble, ← same]
  cases h.negative <;> simp [signChars, read]

/-- What is read and is no decimal numeral is a hexadecimal number. -/
theorem exists_of_toNumber? {text : String} (read : (toNumber? text).isSome = true)
    (other : Numeral.read? (Text.trimBlank text.toList) = none) :
    ∃ h : HexNumeral, h.chars = Text.trimBlank text.toList ∧ h.Fits := by
  rw [toNumber?] at read
  dsimp only at read
  rw [other] at read
  dsimp only at read
  rw [Option.isSome_map, Option.isSome_iff_exists] at read
  obtain ⟨word, read⟩ := read
  obtain ⟨rest, marked, held⟩ := Option.bind_eq_some_iff.1 read
  obtain ⟨mark, letter, spelled⟩ := afterHexMark?_eq_some_iff.1 marked
  split at spelled
  next body same =>
    obtain ⟨h, chars, fits⟩ := exists_of_hexInt64? held true letter
    refine ⟨h, ?_, fits⟩
    rw [chars, same, ← spelled]
    rfl
  next =>
    obtain ⟨h, chars, fits⟩ := exists_of_hexInt64? held false letter
    exact ⟨h, chars.trans spelled.symm, fits⟩

end HexNumeral

/-! ## Reading numbers -/

private theorem isSome_toNumber?_of_decimal {text : String}
    (decimal : Text.trimBlank text.toList ∈ Numeral.decimal.matches') :
    (toNumber? text).isSome = true := by
  obtain ⟨numeral, read⟩ := Option.isSome_iff_exists.1 (Numeral.isSome_read?_iff.2 decimal)
  rw [toNumber?]
  dsimp only
  rw [read]
  rfl

/-- A text is read as a number if and only if, without the blanks around it, it is a decimal numeral
or a hexadecimal number whose value fits, and a hexadecimal number is read as its double. To leave
out the hexadecimal numbers whose digits have a sign of their own would make a difference for these
texts and for no others. -/
theorem isSome_toNumber?_iff (text : String) :
    let core := Text.trimBlank text.toList
    ((toNumber? text).isSome = true ↔
      core ∈ Numeral.decimal.matches' ∨ ∃ h : HexNumeral, h.chars = core ∧ h.Fits) ∧
    (∀ h : HexNumeral, h.chars = core → h.Fits → toNumber? text = some h.toDouble) ∧
    (((toNumber? text).isSome = true ↔ core ∈ Numeral.decimal.matches' ∨
        ∃ h : HexNumeral, h.sign = .absent ∧ h.chars = core ∧ h.Fits) ↔
      ∀ h : HexNumeral, h.chars = core → h.Fits → h.sign = .absent) := by
  intro core
  have value : ∀ h : HexNumeral, h.chars = core → h.Fits → toNumber? text = some h.toDouble :=
    fun h spelled fits => HexNumeral.toNumber?_chars spelled fits
  have accepted : (toNumber? text).isSome = true ↔
      core ∈ Numeral.decimal.matches' ∨ ∃ h : HexNumeral, h.chars = core ∧ h.Fits := by
    constructor
    · intro read
      cases found : Numeral.read? core with
      | some numeral => exact .inl (Numeral.isSome_read?_iff.1 (Option.isSome_of_eq_some found))
      | none => exact .inr (HexNumeral.exists_of_toNumber? read found)
    · rintro (decimal | ⟨h, spelled, fits⟩)
      · exact isSome_toNumber?_of_decimal decimal
      · exact Option.isSome_of_eq_some (value h spelled fits)
  refine ⟨accepted, value, ?_, ?_⟩
  · intro plain h spelled fits
    -- The text spells no other number, so what has no second sign is this one.
    rcases plain.1 (Option.isSome_of_eq_some (value h spelled fits)) with
      decimal | ⟨other, absent, same, -⟩
    · have read := Numeral.isSome_read?_iff.2 decimal
      rw [← spelled, h.read?_chars] at read
      cases read
    · rw [HexNumeral.chars_injective (spelled.trans same.symm), absent]
  · intro absent
    rw [accepted]
    exact or_congr_right <| exists_congr fun h =>
      ⟨fun ⟨spelled, fits⟩ => ⟨absent h spelled fits, spelled, fits⟩, And.right⟩

/-- The number `-0x1A` with its sign between the mark and the digits. -/
def signedDigits : HexNumeral where
  negative := false
  mark := 'x'
  sign := .minus
  digits := ['1', 'A']
  marked := .inl rfl
  nonempty := List.cons_ne_nil _ _
  isHex := List.all_eq_true.1 (by decide)

/-- A sign after the mark is taken, although no form of numbers has one there. -/
theorem isSome_toNumber?_signedDigits :
    toNumber? "0x-1A" = some (.ofInt (-26)) ∧
      ¬ ((toNumber? "0x-1A").isSome = true ↔ "0x-1A".toList ∈ Numeral.decimal.matches' ∨
        ∃ h : HexNumeral, h.sign = .absent ∧ h.chars = "0x-1A".toList ∧ h.Fits) := by
  obtain ⟨-, value, plain⟩ := isSome_toNumber?_iff "0x-1A"
  have core : Text.trimBlank "0x-1A".toList = "0x-1A".toList := by decide
  rw [core] at value plain
  have spelled : signedDigits.chars = "0x-1A".toList := by decide
  have fits : signedDigits.Fits := by decide
  have number : signedDigits.value = -26 := by decide
  have double : signedDigits.toDouble = .ofInt (-26) := by
    rw [HexNumeral.toDouble, number]
    exact if_neg Bool.false_ne_true
  rw [← double]
  refine ⟨value signedDigits spelled fits, fun claimed => ?_⟩
  exact absurd (plain.1 claimed signedDigits spelled fits) (by decide)

end Rowscan
