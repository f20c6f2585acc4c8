import Mathlib.Data.List.Basic
import Rowscan.Proofs.ShortestDigits
import Rowscan.Table

/-!
Encoded keys as text. Parts of a text are cut where a mark stands that none of them goes on after
(`CutBy`). No key has a colon in it (`colon_notMem_encode`), so the place of a row tells its table
and its key apart (`KeySpace.rowKey_inj`), and rows of different tables never share a place.
-/
namespace Rowscan

/-! ## Cutting texts -/

/-- Parts of this kind are cut where the mark that follows them stands. -/
def CutBy (mark : Char) (isPart : List Char → Prop) : Prop :=
  ∀ first second left right : List Char, isPart first → isPart second →
    first ++ mark :: left = second ++ mark :: right → first = second ∧ left = right

/-- Parts are cut by a mark if none goes on after it as another part. -/
theorem cutBy_of_ends {mark : Char} {isPart : List Char → Prop}
    (ends : ∀ part rest, isPart part → ¬ isPart (part ++ mark :: rest)) : CutBy mark isPart := by
  intro first second left right firstPart secondPart same
  rcases List.append_eq_append_iff.1 same with ⟨between, longer, rest⟩ | ⟨between, longer, rest⟩
  · cases between with
    | nil => exact ⟨by rw [longer, List.append_nil], (List.cons.inj rest).2⟩
    | cons head tail =>
      rw [longer, ← (List.cons.inj rest).1] at secondPart
      exact absurd secondPart (ends first tail firstPart)
  · cases between with
    | nil => exact ⟨by rw [longer, List.append_nil], (List.cons.inj rest).2.symm⟩
    | cons head tail =>
      rw [longer, ← (List.cons.inj rest).1] at firstPart
      exact absurd firstPart (ends second tail secondPart)

/-- Parts without the mark are cut by it. -/
theorem cutBy_of_notMem {mark : Char} {isPart : List Char → Prop}
    (free : ∀ part, isPart part → mark ∉ part) : CutBy mark isPart :=
  cutBy_of_ends fun part _ _ longer =>
    free _ longer (List.mem_append_right part List.mem_cons_self)

/-! ## Hexadecimal digits -/

/-- The characters of digests. -/
def isHexChar (c : Char) : Bool := c.isDigit || ['a', 'b', 'c', 'd', 'e', 'f'].contains c

private theorem isHexChar_hexByte (byte : UInt8) :
    ∀ c ∈ Digest.hexByte byte, isHexChar c = true := by
  have digit : ∀ n < 16, isHexChar (Nat.digitChar n) = true := by decide
  have bound := byte.toNat_lt
  intro c member
  rcases List.mem_pair.1 member with rfl | rfl
  · exact digit _ (by omega)
  · exact digit _ (by omega)

/-- Digests are written in hexadecimal digits. -/
theorem isHexChar_digest (text : String) :
    ∀ c ∈ (KeyValue.digest text).toList, isHexChar c = true := by
  intro c member
  rw [KeyValue.digest, Digest.hexDigest, String.toList_ofList] at member
  obtain ⟨byte, -, inside⟩ := List.mem_flatMap.1 member
  exact isHexChar_hexByte byte c inside

/-! ## No colons -/

private theorem colon_notMem_digest (text : String) : ':' ∉ (KeyValue.digest text).toList := by
  intro member
  exact absurd (isHexChar_digest text ':' member) (by decide)

private theorem colon_notMem_of_isNumeral {text : String} (numeral : isNumeral text = true) :
    ':' ∉ text.toList := by
  obtain ⟨parts, read⟩ := Option.isSome_iff_exists.1 numeral
  intro member
  exact absurd (Numeral.isNumeralChar_of_read? read ':' member) (by decide)

private theorem colon_notMem_of_isPlain {text : String} (plain : KeyValue.isPlain text = true) :
    ':' ∉ text.toList := by
  intro member
  have chars := (Bool.and_eq_true _ _).mp plain
  exact absurd (List.all_eq_true.1 chars.2 ':' member) (by decide)

theorem colon_notMem_encodeText (text : String) : ':' ∉ (KeyValue.encodeText text).toList := by
  unfold KeyValue.encodeText
  split
  next stands =>
    rcases (Bool.or_eq_true _ _).mp stands with numeral | plain
    · exact colon_notMem_of_isNumeral numeral
    · exact colon_notMem_of_isPlain plain
  next => exact colon_notMem_digest text

private theorem colon_notMem_double (value : Double) : ':' ∉ value.text.toList := by
  cases finite : value.isFinite with
  | true => exact colon_notMem_of_isNumeral (Double.isNumeral_text finite)
  | false =>
    cases value with
    | nan => decide
    | infinite negative => cases negative <;> decide
    | finite negative units fits => cases finite

private theorem colon_notMem_encodeScalar (literal : Literal) :
    ':' ∉ (KeyValue.encodeScalar literal).toList := by
  cases literal with
  | null => exact colon_notMem_digest "null"
  | bool value => cases value <;> decide
  | int value => exact colon_notMem_of_isNumeral (isNumeral_int value)
  | float value => exact colon_notMem_double value
  | string text => exact colon_notMem_encodeText text
  | raw expression => exact colon_notMem_encodeText expression

private theorem mem_intercalate {c : Char} {separator : List Char} {parts : List (List Char)}
    (member : c ∈ separator.intercalate parts) : c ∈ separator ∨ ∃ part ∈ parts, c ∈ part := by
  induction parts with
  | nil => cases member
  | cons part rest ih =>
    cases rest with
    | nil =>
      rw [List.intercalate_singleton] at member
      exact .inr ⟨part, List.mem_cons_self, member⟩
    | cons next more =>
      rw [List.intercalate_cons_cons, List.mem_append, List.mem_append] at member
      rcases member with (inside | between) | later
      · exact .inr ⟨part, List.mem_cons_self, inside⟩
      · exact .inl between
      · rcases ih later with between | ⟨other, stored, inside⟩
        · exact .inl between
        · exact .inr ⟨other, List.mem_cons_of_mem _ stored, inside⟩

/-- The text of a numeric literal is a numeral. -/
theorem Literal.isNumeral_text {literal : Literal} (numeric : literal.isNumeric = true) :
    isNumeral literal.text = true := by
  cases literal with
  | null => cases numeric
  | bool value => cases numeric
  | int value => exact isNumeral_int value
  | float value => exact Double.isNumeral_text numeric
  | string text => exact numeric
  | raw expression => cases numeric

private theorem colon_notMem_encodeFields (fields : FieldMap Literal) :
    ':' ∉ (KeyValue.encodeFields fields).toList := by
  unfold KeyValue.encodeFields
  split
  next numeric =>
    have numerals := List.all_eq_true.1 ((Bool.and_eq_true _ _).mp numeric).2
    intro member
    rw [String.toList_intercalate] at member
    rcases mem_intercalate member with dash | ⟨part, stored, inside⟩
    · exact absurd dash (by decide)
    · obtain ⟨text, joined, rfl⟩ := List.mem_map.1 stored
      obtain ⟨literal, given, rfl⟩ := List.mem_map.1 joined
      exact colon_notMem_of_isNumeral (Literal.isNumeral_text (numerals literal given)) inside
  next => exact colon_notMem_digest _

/-- No encoded key has a colon in it. -/
theorem colon_notMem_encode (key : KeyValue) : ':' ∉ key.encode.toList := by
  cases key with
  | scalar value => exact colon_notMem_encodeScalar value
  | composite fields =>
    rw [KeyValue.encode]
    split
    · exact colon_notMem_encodeScalar _
    · exact colon_notMem_encodeFields fields

/-! ## Places -/

/-- Two texts that end in parts without the mark are cut at its last occurrence. -/
private theorem cut_last {mark : Char} {front other first second : List Char}
    (firstMark : mark ∉ first) (secondMark : mark ∉ second)
    (same : front ++ mark :: first = other ++ mark :: second) : front = other ∧ first = second := by
  have cut : CutBy mark fun part => mark ∉ part := cutBy_of_notMem fun _ => id
  have backward := congrArg List.reverse same
  simp only [List.reverse_append, List.reverse_cons, List.append_assoc, List.singleton_append]
    at backward
  obtain ⟨tails, fronts⟩ := cut _ _ _ _ (mt List.mem_reverse.1 firstMark)
    (mt List.mem_reverse.1 secondMark) backward
  exact ⟨List.reverse_inj.1 fronts, List.reverse_inj.1 tails⟩

namespace KeySpace

private theorem toList_rowKey (space : KeySpace) (key : String) :
    (space.rowKey key).toList = (space.stem.toList ++ [':', 'a']) ++ ':' :: key.toList := by
  have middle : ":a:".toList = [':', 'a', ':'] := by decide
  rw [rowKey, String.toList_append, String.toList_append, middle]
  simp

/-- The place of a row tells its table and its key. -/
theorem rowKey_inj {space other : KeySpace} {first second : String}
    (firstColon : ':' ∉ first.toList) (secondColon : ':' ∉ second.toList) :
    space.rowKey first = other.rowKey second ↔ space = other ∧ first = second := by
  constructor
  · intro same
    have chars := congrArg String.toList same
    rw [toList_rowKey, toList_rowKey] at chars
    obtain ⟨stems, keys⟩ := cut_last firstColon secondColon chars
    have stem : space.stem = other.stem := String.toList_inj.1 (List.append_cancel_right stems)
    exact ⟨congrArg KeySpace.mk stem, String.toList_inj.1 keys⟩
  · rintro ⟨rfl, rfl⟩
    rfl

theorem rowKey_inj_same {space : KeySpace} {first second : String} :
    space.rowKey first = space.rowKey second ↔ first = second := by
  constructor
  · intro same
    have chars := congrArg String.toList same
    rw [toList_rowKey, toList_rowKey] at chars
    exact String.toList_inj.1 (List.cons.inj (List.append_cancel_left chars)).2
  · rintro rfl
    rfl

end KeySpace

/-- Tables with different names have different places. -/
theorem Table.keySpace_inj {table other : Table} {clustered : Bool} :
    table.keySpace clustered = other.keySpace clustered ↔ table.name = other.name := by
  constructor
  · intro same
    have stem := congrArg KeySpace.stem same
    cases clustered with
    | false => exact stem
    | true =>
      have chars := congrArg String.toList stem
      change ("\x7b" ++ table.name ++ "\x7d").toList = ("\x7b" ++ other.name ++ "\x7d").toList at chars
      rw [String.toList_append, String.toList_append, String.toList_append, String.toList_append]
        at chars
      exact String.toList_inj.1 (List.append_cancel_left (List.append_cancel_right chars))
  · intro same
    rw [Table.keySpace, Table.keySpace, same]

/-! ## Keys that are one literal -/

/-- Whether a literal stands in keys for its text: a number, a text or a boolean. -/
def Literal.isKeyed : Literal → Bool
  | .bool _ => true
  | .int _ => true
  | .string _ => true
  | _ => false

/-- The key of such a literal depends on its text alone. -/
theorem encodeScalar_of_isKeyed {literal : Literal} (keyed : literal.isKeyed = true) :
    KeyValue.encodeScalar literal = KeyValue.encodeText literal.text := by
  have numeral {text : String} (numeral : isNumeral text = true) :
      KeyValue.encodeText text = text := by
    rw [KeyValue.encodeText, numeral, Bool.true_or]
    rfl
  cases literal with
  | null => cases keyed
  | bool value => cases value <;> exact (numeral (by decide)).symm
  | int value => exact (numeral (isNumeral_int value)).symm
  | float value => cases keyed
  | string text => rfl
  | raw expression => cases keyed

end Rowscan
