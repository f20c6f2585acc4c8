import Mathlib.Data.String.Basic
import Rowscan.Proofs.InsertedRows

/-!
Texts that share a key. A text that may stand as a key is its own key, and every other text is
digested. Digests are texts that may stand (`isPlain_digest`), so a text that is digested shares its
key with the text of its digest, and with no other. On a table with one key field, the row of one of
them takes the place of the row of the other (`texts_share_key_iff`).
-/
namespace Rowscan

/-! ## Digests as keys -/

private theorem digit_or_letter {c : Char} (hexadecimal : isHexChar c = true) :
    c.isDigit = true ∨ c ∈ ['a', 'b', 'c', 'd', 'e', 'f'] := by
  simpa [isHexChar] using hexadecimal

private theorem isPlainChar_of_isHexChar {c : Char} (hexadecimal : isHexChar c = true) :
    KeyValue.isPlainChar c = true := by
  have letters : ∀ c ∈ ['a', 'b', 'c', 'd', 'e', 'f'], KeyValue.isPlainChar c = true := by simp [KeyValue.isPlainChar]
  obtain digit | letter := digit_or_letter hexadecimal
  · simp [KeyValue.isPlainChar, digit]
  · exact letters c letter

private theorem utf8Size_of_isHexChar {c : Char} (hexadecimal : isHexChar c = true) :
    c.utf8Size = 1 := by
  have letters : ∀ c ∈ ['a', 'b', 'c', 'd', 'e', 'f'], c.utf8Size = 1 := by simp [Char.utf8Size]
  obtain digit | letter := digit_or_letter hexadecimal
  · rw [Char.utf8Size_eq_one_iff]
    simp only [Char.isDigit, Bool.and_eq_true, decide_eq_true_eq] at digit
    exact UInt32.le_trans digit.2 (by decide)
  · exact letters c letter

private theorem utf8Len_of_single {chars : List Char} (single : ∀ c ∈ chars, c.utf8Size = 1) :
    String.utf8Len chars = chars.length := by
  induction chars with
  | nil => rfl
  | cons c rest ih =>
    rw [String.utf8Len, ih fun d member => single d (List.mem_cons_of_mem _ member),
      single c List.mem_cons_self, List.length_cons]

/-- Digests are short enough to stand as keys, and have only letters and digits. -/
theorem isPlain_digest (text : String) : KeyValue.isPlain (KeyValue.digest text) = true := by
  have length : (KeyValue.digest text).toList.length = 32 := Digest.length_hexDigest _
  have bytes : (KeyValue.digest text).utf8ByteSize = 32 := by
    rw [← String.ofList_toList (s := KeyValue.digest text), String.utf8ByteSize_ofList,
      utf8Len_of_single fun c member => utf8Size_of_isHexChar (isHexChar_digest text c member),
      length]
  have chars : (KeyValue.digest text).toList.all KeyValue.isPlainChar = true :=
    List.all_eq_true.2 fun c member => isPlainChar_of_isHexChar (isHexChar_digest text c member)
  rw [KeyValue.isPlain, String.isEmpty, bytes, chars]
  rfl

/-! ## Texts -/

/-- The first text is the digest of the second, which may not stand as a key itself. -/
def IsDigestOf (text other : String) : Prop :=
  (Literal.string other).standsAlone = false ∧ text = KeyValue.digest other

instance (text other : String) : Decidable (IsDigestOf text other) :=
  inferInstanceAs (Decidable (_ ∧ _))

private theorem standsAlone_of_isDigestOf {text other : String} (digested : IsDigestOf text other) :
    (Literal.string text).standsAlone = true := by
  rw [digested.2, Literal.standsAlone, isPlain_digest, Bool.or_true]

/-- Different texts share a key exactly if one is the digest of the other, unless they share a
digest by accident. -/
theorem encode_text_eq_iff {first second : String} (differ : first ≠ second)
    (apart : KeyValue.digest first = KeyValue.digest second → first = second) :
    (KeyValue.scalar (.string first)).encode = (KeyValue.scalar (.string second)).encode ↔
      IsDigestOf first second ∨ IsDigestOf second first := by
  have same : KeyValue.encodeScalar (.string first) = KeyValue.encodeScalar (.string second) ↔
      (Literal.string first).SameKey (.string second) := Literal.encodeScalar_eq_iff rfl rfl apart
  refine same.trans ?_
  rw [Literal.SameKey]
  constructor
  · intro shared
    split_ifs at shared with alike stands
    · exact absurd shared differ
    · rw [stands] at alike
      exact .inl ⟨Bool.eq_false_iff.2 (Ne.symm alike), shared⟩
    · exact .inr ⟨Bool.eq_false_iff.2 stands, shared.symm⟩
  · rintro (digested | digested)
    · rw [standsAlone_of_isDigestOf digested, digested.1]
      exact digested.2
    · rw [standsAlone_of_isDigestOf digested, digested.1]
      exact digested.2.symm

/-! ## Rows -/

namespace Store

variable {table : Table} {field text : String} {attributes : List (String × Literal)}

private theorem given_fields (single : table.primaryKey = [field])
    (given : (FieldMap.ofList attributes).find? field = some (.string text)) :
    ∀ name ∈ table.primaryKey,
      (FieldMap.ofList attributes).find? name = some (.string text) := by
  intro name member
  rw [single, List.mem_singleton] at member
  rwa [member]

variable (store : Store) (single : table.primaryKey = [field])
variable (given : (FieldMap.ofList attributes).find? field = some (.string text))
include single given

/-- A row is inserted under the key of the text in its only key field. -/
theorem insert_key_text :
    (store.insert table attributes).1 = (KeyValue.scalar (.string text)).encode := by
  rw [insert_key_given (given_fields single given) fun _ _ => rfl, single]
  rfl

/-- A row that was inserted holds the text of its key field. -/
theorem find?_insert_text :
    ((store.insert table attributes).2.rowOf (table.keySpace store.isClustered)
      (store.insert table attributes).1).find? field = some text := by
  rw [rowOf, find?_insert_same, Option.getD_some,
    settledOf_ofRow (given_fields single given) fun _ _ => rfl]
  exact find?_storedRow.2 ⟨.string text, given, rfl, rfl⟩

end Store

/-- Different texts share a key exactly if one is the digest of the other. On a table with one key
field, a row whose key is the second text leaves the row under the key of the first as it is, unless
one text is the digest of the other, and takes its place if so. What is assumed is that the two
texts do not share a digest by accident. -/
theorem texts_share_key_iff {first second : String} (differ : first ≠ second)
    (apart : KeyValue.digest first = KeyValue.digest second → first = second) :
    ((KeyValue.scalar (.string first)).encode = (KeyValue.scalar (.string second)).encode ↔
      IsDigestOf first second ∨ IsDigestOf second first) ∧
    ∀ (store : Store) (table : Table) (field : String) (attributes : List (String × Literal)),
      table.primaryKey = [field] →
      (FieldMap.ofList attributes).find? field = some (.string second) →
      let space := table.keySpace store.isClustered
      let key := (KeyValue.scalar (.string first)).encode
      let inserted := (store.insert table attributes).2
      (¬ (IsDigestOf first second ∨ IsDigestOf second first) →
        inserted.rows.find? (space.rowKey key) = store.rows.find? (space.rowKey key)) ∧
      (IsDigestOf first second ∨ IsDigestOf second first →
        (inserted.rowOf space key).find? field = some second) := by
  have shared := encode_text_eq_iff differ apart
  refine ⟨shared, fun store table field attributes single given => ?_⟩
  intro space key inserted
  have encoded := store.insert_key_text single given
  constructor
  · intro unrelated
    apply store.find?_insert_other table attributes
    rw [encoded]
    exact fun same => unrelated (shared.1 same)
  · intro digested
    have same : key = (store.insert table attributes).1 := (shared.2 digested).trans encoded.symm
    rw [same]
    exact store.find?_insert_text single given

/-! The text of a digest is the key of what was digested. -/

/-- Words, each under itself. -/
def words : Table := { name := "words", primaryKey := ["word"] }

def spaced : String := "hello world"

def spacedDigest : String := "5eb63bbbe01eeed093cb22bb8f5acdc3"

theorem texts_share_key_spaced :
    IsDigestOf spacedDigest spaced ∧
    (KeyValue.scalar (.string spaced)).encode = (KeyValue.scalar (.string spacedDigest)).encode ∧
    ∀ store : Store,
      ((store.insert words [("word", .string spacedDigest)]).2.rowOf
        (words.keySpace store.isClustered) (KeyValue.scalar (.string spaced)).encode).find? "word" =
          some spacedDigest := by
  have digested : IsDigestOf spacedDigest spaced := by decide +kernel
  have apart : KeyValue.digest spaced = KeyValue.digest spacedDigest → spaced = spacedDigest :=
    fun same => absurd same (by decide +kernel)
  obtain ⟨shared, rows⟩ := texts_share_key_iff (by decide) apart
  refine ⟨digested, shared.2 (.inr digested), fun store => ?_⟩
  exact (rows store words "word" [("word", .string spacedDigest)] rfl rfl).2 (.inr digested)

/-- Different texts with different digests share a key, and of their two rows one is left. -/
theorem digest_takes_key :
    spaced ≠ spacedDigest ∧ KeyValue.digest spaced ≠ KeyValue.digest spacedDigest ∧
    (KeyValue.scalar (.string spaced)).encode = (KeyValue.scalar (.string spacedDigest)).encode ∧
    let first := ((Store.empty false false).insert words [("word", .string spaced)]).2
    let second := (first.insert words [("word", .string spacedDigest)]).2
    second.rows.size = 1 := by
  decide +kernel

end Rowscan
