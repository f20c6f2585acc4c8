import Rowscan.Proofs.KeyEncodings
import Rowscan.Proofs.LookupScan

/-!
When a row is found by its own key. Lookup and scan tell the values of key fields apart in two
ways: the lookup by the key that they encode to (`SameKey`, `encode_keyOver_eq_iff`), the scan by
their texts, with floats equal to nothing (`SameText`, `hasEntry_byFields`). On a table that holds
one row the two paths agree about a filter that gives all key fields exactly if the two ways do,
and they do not always: a row under the key `1.5` is found by the float 1.5 in a lookup and never
in a scan.
-/
namespace Rowscan

/-! ## One key field -/

namespace Literal

/-- Whether a value may be that of a key field: it is neither null nor of the script language. -/
def isKeyValue (literal : Literal) : Bool := !literal.isNull && !literal.isRaw

/-- Whether conditions take a value for a float, which no stored text equals. -/
def isFloat : Literal → Bool
  | .float _ => true
  | _ => false

/-- Whether a value stands as a key with its own text, and is not digested. -/
def standsAlone : Literal → Bool
  | .string text => isNumeral text || KeyValue.isPlain text
  | _ => true

/-- Two values of a single key field make the same key: both stand as the same text or are
digested from the same text, or one of them is the digest of the other. -/
def SameKey (stored sought : Literal) : Prop :=
  if stored.standsAlone = sought.standsAlone then stored.text = sought.text
  else if stored.standsAlone then stored.text = KeyValue.digest sought.text
  else KeyValue.digest stored.text = sought.text

instance (stored sought : Literal) : Decidable (SameKey stored sought) := by
  unfold SameKey
  infer_instance

private theorem sameKey_refl (literal : Literal) : literal.SameKey literal := by
  rw [SameKey, if_pos rfl]

private theorem isNull_of_isKeyValue {literal : Literal} (value : literal.isKeyValue = true) :
    literal.isNull = false := by
  cases literal <;> first | rfl | cases value

private theorem isRaw_of_isKeyValue {literal : Literal} (value : literal.isKeyValue = true) :
    literal.isRaw = false := by
  cases literal <;> first | rfl | cases value

private theorem encodeScalar_eq {literal : Literal} (value : literal.isKeyValue = true) :
    KeyValue.encodeScalar literal =
      if literal.standsAlone then literal.text else KeyValue.digest literal.text := by
  cases literal with
  | null => cases value
  | raw expression => cases value
  | _ => rfl

theorem encodeScalar_eq_iff {stored sought : Literal} (value : stored.isKeyValue = true)
    (soughtValue : sought.isKeyValue = true)
    (apart : KeyValue.digest stored.text = KeyValue.digest sought.text →
      stored.text = sought.text) :
    KeyValue.encodeScalar stored = KeyValue.encodeScalar sought ↔ SameKey stored sought := by
  rw [encodeScalar_eq value, encodeScalar_eq soughtValue, SameKey]
  cases stored.standsAlone <;> cases sought.standsAlone
  · exact ⟨apart, congrArg KeyValue.digest⟩
  · exact Iff.rfl
  · exact Iff.rfl
  · exact Iff.rfl

end Literal

/-! ## All key fields -/

/-- The key that these values of the key fields make. -/
def keyOver (fields : List String) (value : String → Literal) : KeyValue :=
  .composite (.ofList (fields.map fun field => (field, value field)))

/-- What that key is digested from, if it is. -/
def keyInput (fields : List String) (value : String → Literal) : String :=
  match fields with
  | [field] => (value field).text
  | fields => KeyValue.objectText (.ofList (fields.map fun field => (field, value field)))

/-- The values of several key fields make the same key: either both are all numbers with the same
texts, or neither is and the canonical texts are the same. -/
def SameFields (fields : List String) (stored sought : String → Literal) : Prop :=
  ((∀ field ∈ fields, (stored field).isNumeric = true) ↔
      ∀ field ∈ fields, (sought field).isNumeric = true) ∧
    if ∀ field ∈ fields, (stored field).isNumeric = true then
      ∀ field ∈ fields, (stored field).text = (sought field).text
    else ∀ field ∈ fields,
      KeyValue.canonicalForm (stored field) = KeyValue.canonicalForm (sought field)

/-- The values of all key fields make the same key. -/
def SameKey (fields : List String) (stored sought : String → Literal) : Prop :=
  match fields with
  | [field] => (stored field).SameKey (sought field)
  | fields => SameFields fields stored sought

/-- The stored texts of all key fields equal what is sought, which is no float. -/
def SameText (fields : List String) (stored sought : String → Literal) : Prop :=
  ∀ field ∈ fields, (sought field).isFloat = false ∧ (stored field).text = (sought field).text

section Keys

instance (fields : List String) (stored sought : String → Literal) :
    Decidable (SameFields fields stored sought) := by
  unfold SameFields
  infer_instance

instance (fields : List String) (stored sought : String → Literal) :
    Decidable (SameKey fields stored sought) := by
  unfold SameKey
  split <;> infer_instance

instance (fields : List String) (stored sought : String → Literal) :
    Decidable (SameText fields stored sought) := by
  unfold SameText
  infer_instance

variable {fields : List String} {stored sought : String → Literal}

private theorem encode_keyOver (several : 2 ≤ fields.length) (distinct : fields.Nodup)
    (value : String → Literal) : (keyOver fields value).encode =
      KeyValue.encodeFields (.ofList (fields.map fun field => (field, value field))) := by
  have length : (FieldMap.ofList (fields.map fun field => (field, value field))).values.length =
      fields.length := by
    rw [FieldMap.values_ofList_map, List.length_map, (FieldMap.index_perm distinct).length_eq]
  exact KeyValue.encode_composite (by rw [length]; exact several)

/-- The same key fields in another order make the same key. -/
theorem keyOver_perm {others : List String} (same : fields.Perm others) (value : String → Literal) :
    keyOver fields value = keyOver others value := by
  rw [keyOver, keyOver, FieldMap.ofList_map_perm same]

private theorem all_index_map (holds : Literal → Bool) (value : String → Literal) :
    ((FieldMap.index fields).map value).all holds = true ↔
      ∀ field ∈ fields, holds (value field) = true := by
  simp only [List.all_map, List.all_eq_true, FieldMap.mem_index, Function.comp_apply]

private theorem index_map_inj (text : Literal → String) :
    ((FieldMap.index fields).map stored).map text = ((FieldMap.index fields).map sought).map text ↔
      ∀ field ∈ fields, text (stored field) = text (sought field) := by
  simp only [List.map_map, List.map_inj_left, FieldMap.mem_index, Function.comp_apply]

/-- Key fields encode alike exactly if their values make the same key, unless what they are
digested from differs and shares a digest. -/
theorem encode_keyOver_eq_iff (given : fields ≠ []) (distinct : fields.Nodup)
    (storedValues : ∀ field ∈ fields, (stored field).isKeyValue = true)
    (soughtValues : ∀ field ∈ fields, (sought field).isKeyValue = true)
    (apart : KeyValue.digest (keyInput fields stored) = KeyValue.digest (keyInput fields sought) →
      keyInput fields stored = keyInput fields sought) :
    (keyOver fields stored).encode = (keyOver fields sought).encode ↔
      SameKey fields stored sought := by
  match fields with
  | [] => exact absurd rfl given
  | [field] =>
    exact Literal.encodeScalar_eq_iff (storedValues field List.mem_cons_self)
      (soughtValues field List.mem_cons_self) apart
  | first :: second :: rest =>
    have several : 2 ≤ (first :: second :: rest).length := by simp
    have names := (FieldMap.names_ofList_map (first :: second :: rest) stored).trans
      (FieldMap.names_ofList_map (first :: second :: rest) sought).symm
    have size : 2 ≤ (FieldMap.ofList ((first :: second :: rest).map fun field =>
        (field, stored field))).values.length := by
      rw [FieldMap.values_ofList_map, List.length_map, (FieldMap.index_perm distinct).length_eq]
      exact several
    rw [encode_keyOver several distinct, encode_keyOver several distinct,
      KeyValue.encodeFields_eq_iff names size apart, Bool.eq_iff_iff]
    simp only [FieldMap.values_ofList_map, all_index_map, index_map_inj]
    exact Iff.rfl

end Keys

/-! ## A store with one row -/

namespace Store

/-- A store that one row was inserted into, and nothing else. -/
def ofRow (isClustered isNewer : Bool) (table : Table) (attributes : List (String × Literal)) :
    Store :=
  ((Store.empty isClustered isNewer).insert table attributes).2

variable {table : Table} {attributes : List (String × Literal)} {stored : String → Literal}
variable (isClustered isNewer : Bool)
variable (given : ∀ field ∈ table.primaryKey,
  (FieldMap.ofList attributes).find? field = some (stored field))
variable (values : ∀ field ∈ table.primaryKey, (stored field).isKeyValue = true)
include given values

theorem settledOf_ofRow (store : Store) :
    store.settledOf table attributes = .ofList attributes := by
  refine settledOf_given store table attributes fun field member => ?_
  exact ⟨stored field, given field member, Literal.isNull_of_isKeyValue (values field member)⟩

/-- The row is inserted under the key that its key fields make. -/
theorem insert_key_given (store : Store) :
    (store.insert table attributes).1 = (keyOver table.primaryKey stored).encode := by
  have settled : table.primaryKey.map (fun field =>
      (field, ((FieldMap.ofList attributes).find? field).getD .null)) =
      table.primaryKey.map fun field => (field, stored field) := by
    refine List.map_congr_left fun field member => ?_
    rw [given field member]
    rfl
  rw [insert_key, settledOf_ofRow given values, keyOf, settled]
  rfl

private theorem listOf_ofRow : (ofRow isClustered isNewer table attributes).listOf
    (table.keySpace isClustered) = [(keyOver table.primaryKey stored).encode] := by
  have listed : (ofRow isClustered isNewer table attributes).lists.find?
      (table.keySpace isClustered).listKey =
        some [((Store.empty isClustered isNewer).insert table attributes).1] := by
    rw [ofRow, insert_lists]
    exact (FieldMap.find?_insert _ _ _ _).trans (if_pos rfl)
  rw [listOf, listed, insert_key_given given values]
  rfl

private theorem rowOf_ofRow (key : String) : (ofRow isClustered isNewer table attributes).rowOf
    (table.keySpace isClustered) key =
      if key = (keyOver table.primaryKey stored).encode then storedRow (.ofList attributes)
      else .empty := by
  have found : (ofRow isClustered isNewer table attributes).rows.find?
      ((table.keySpace isClustered).rowKey key) =
        if (table.keySpace isClustered).rowKey key =
            (table.keySpace isClustered).rowKey (keyOver table.primaryKey stored).encode then
          some (storedRow (.ofList attributes)) else none := by
    rw [ofRow, insert_rows, insert_key_given given values, settledOf_ofRow given values]
    exact FieldMap.find?_insert _ _ _ _
  rw [rowOf, found]
  by_cases same : key = (keyOver table.primaryKey stored).encode
  · rw [if_pos same, if_pos (KeySpace.rowKey_inj_same.2 same)]
    rfl
  · rw [if_neg same, if_neg (mt KeySpace.rowKey_inj_same.1 same)]
    rfl

private theorem find?_ofRow {field : String} (member : field ∈ table.primaryKey) :
    (storedRow (.ofList attributes)).find? field = some (stored field).text :=
  find?_storedRow.2 ⟨stored field, given field member,
    Literal.isNull_of_isKeyValue (values field member), rfl⟩

end Store

/-! ## What both paths read from the filter -/

/-- The filter that gives these values to these fields. -/
def Filter.byFields (fields : List String) (sought : String → Literal) : Filter :=
  .hash (fields.map fun field => (field, .value (sought field)))

/-- A query for the rows with these values in these fields. -/
def TableQuery.byFields (table : Table) (fields : List String) (sought : String → Literal) :
    TableQuery where
  table := table
  query := { filter := some (.byFields fields sought) }

section Filters

variable {table : Table} {fields : List String} {sought : String → Literal}

private theorem isEligible_byFields (given : table.primaryKey ≠ [])
    (same : fields.Perm table.primaryKey) :
    Lookup.isEligible (.byFields fields sought) table = true := by
  have names : (fields.map fun field => (field, HashValue.value (sought field))).map (·.1) =
      fields := by
    rw [List.map_map]
    exact List.map_id fields
  have nonempty : fields ≠ [] := fun none => given (List.nil_perm.1 (none ▸ same))
  rw [Filter.byFields, Lookup.isEligible, names, Table.isPrimaryKey]
  simp [nonempty, same.mem_iff]

private theorem compositeFields_values (fields : List String) :
    Lookup.compositeFields (fields.map fun field => (field, .value (sought field))) =
      .ok (fields.map fun field => (field, sought field)) := by
  induction fields with
  | nil => rfl
  | cons field rest ih =>
    rw [List.map_cons, Lookup.compositeFields, ih]
    rfl

/-- The lookup reads one key from such a filter, which encodes like that of the key fields. -/
theorem keysOf_byFields (given : table.primaryKey ≠ []) (same : fields.Perm table.primaryKey)
    (values : ∀ field ∈ table.primaryKey, (sought field).isKeyValue = true) :
    ∃ key, Lookup.keysOf (.byFields fields sought) table = .ok (some [key]) ∧
      Lookup.hasRaw key = false ∧ key.encode = (keyOver table.primaryKey sought).encode := by
  have fieldValues : ∀ literal ∈ (FieldMap.ofList
      (fields.map fun field => (field, sought field))).values, literal.isKeyValue = true := by
    rw [FieldMap.values_ofList_map]
    intro literal member
    obtain ⟨field, indexed, rfl⟩ := List.mem_map.1 member
    exact values field (same.mem_iff.1 (FieldMap.mem_index.1 indexed))
  by_cases composite : table.hasCompositeKey = true
  · have filled : (FieldMap.ofList (fields.map fun field => (field, sought field))).values.any
        Literal.isNull = false :=
      List.any_eq_false.2 fun literal member =>
        Bool.eq_false_iff.1 (Literal.isNull_of_isKeyValue (fieldValues literal member))
    refine ⟨keyOver fields sought, ?_, ?_, by rw [keyOver_perm same]⟩
    · refine (if_pos composite).trans ?_
      rw [compositeFields_values]
      change Except.ok (some (if _ then _ else _)) = _
      rw [filled]
      rfl
    · exact List.any_eq_false.2 fun literal member =>
        Bool.eq_false_iff.1 (Literal.isRaw_of_isKeyValue (fieldValues literal member))
  · obtain ⟨field, single⟩ : ∃ field, table.primaryKey = [field] := by
      rcases parts : table.primaryKey with _ | ⟨field, _ | ⟨second, rest⟩⟩
      · exact absurd parts given
      · exact ⟨field, rfl⟩
      · exact absurd (by rw [Table.hasCompositeKey, parts]; rfl) composite
    rw [single] at same values ⊢
    cases List.perm_singleton.1 same
    have value := values field List.mem_cons_self
    refine ⟨.scalar (sought field), ?_, Literal.isRaw_of_isKeyValue value, rfl⟩
    refine (if_neg composite).trans ?_
    rw [Filter.scalarKeys_given (List.forall_mem_singleton.2 (Literal.isNull_of_isKeyValue value))]
    rfl

theorem candidates_byFields (given : table.primaryKey ≠ []) (same : fields.Perm table.primaryKey)
    (values : ∀ field ∈ table.primaryKey, (sought field).isKeyValue = true) :
    ∃ key, Lookup.candidates (.byFields fields sought) table = .ok (some [key]) ∧
      key.encode = (keyOver table.primaryKey sought).encode := by
  obtain ⟨key, found, plain, encoded⟩ := keysOf_byFields given same values
  refine ⟨key, ?_, encoded⟩
  rw [Lookup.candidates, isEligible_byFields given same, found]
  change Except.ok (if [key].any Lookup.hasRaw then none else some [key]) = _
  rw [List.any_cons, plain]
  rfl

private theorem equals_of_isKeyValue (row : Row) (column : String) {literal : Literal}
    (value : literal.isKeyValue = true) {text : String} (found : row.find? column = some text) :
    row.equals column literal = decide (literal.isFloat = false ∧ text = literal.text) := by
  cases float : literal.isFloat with
  | true => cases literal <;> first | rfl | cases float
  | false =>
    have keyed : literal.isKeyed = true := by
      cases literal with
      | null => cases value
      | float number => cases float
      | raw expression => cases value
      | _ => rfl
    rw [row.equals_of_isKeyed column keyed, found, Bool.eq_iff_iff, beq_iff_eq, decide_eq_true_eq,
      Option.some.injEq]
    exact (and_iff_right rfl).symm

private theorem isPlain_byFields (same : fields.Perm table.primaryKey)
    (values : ∀ field ∈ table.primaryKey, (sought field).isKeyValue = true) :
    (Filter.byFields fields sought).isPlain = true := by
  rw [Filter.byFields, Filter.isPlain, List.all_map, List.all_eq_true]
  intro field member
  have plain := Literal.isRaw_of_isKeyValue (values field (same.mem_iff.1 member))
  rw [Function.comp_apply, HashValue.isPlain, plain]
  rfl

/-- The scan holds the filter true of a row exactly if the texts of the key fields are the same. -/
theorem hasEntry_byFields {stored : String → Literal} {row : Row}
    (same : fields.Perm table.primaryKey)
    (values : ∀ field ∈ table.primaryKey, (sought field).isKeyValue = true)
    (held : ∀ field ∈ table.primaryKey, row.find? field = some (stored field).text) :
    (fields.map fun field => (field, HashValue.value (sought field))).all row.hasEntry =
      decide (SameText table.primaryKey stored sought) := by
  rw [Bool.eq_iff_iff, List.all_map, List.all_eq_true, decide_eq_true_eq, SameText]
  refine forall_congr' fun field => ?_
  rw [same.mem_iff]
  refine forall_congr' fun member => ?_
  have equal := equals_of_isKeyValue row field (values field member) (held field member)
  change row.equals field (sought field) = true ↔ _
  rw [equal, decide_eq_true_eq]

end Filters

/-! ## Lookup and scan of one row -/

section OneRow

variable {table : Table} {attributes : List (String × Literal)} {stored sought : String → Literal}
variable {fields : List String} (isClustered isNewer : Bool)
variable (given : ∀ field ∈ table.primaryKey,
  (FieldMap.ofList attributes).find? field = some (stored field))
variable (values : ∀ field ∈ table.primaryKey, (stored field).isKeyValue = true)
include given values

/-- A lookup by one key finds the row exactly if the key fields encode to that key. -/
theorem looks_ofRow (keyed : table.primaryKey ≠ []) (key : KeyValue) : ∃ found : List Row,
    Looks (.ofRow isClustered isNewer table attributes) (.byFields table fields sought) [key] .all
        (.ok found) ∧
      found = if key.encode = (keyOver table.primaryKey stored).encode then
        [Store.storedRow (.ofList attributes)] else [] := by
  have filled : (Store.storedRow (.ofList attributes)).isEmpty = false := by
    obtain ⟨field, rest, parts⟩ := List.exists_cons_of_ne_nil keyed
    have member : field ∈ table.primaryKey := parts ▸ List.mem_cons_self
    exact FieldMap.isEmpty_eq_false_of_find? (Store.find?_ofRow given values member)
  have read := Store.rowOf_ofRow isClustered isNewer given values key.encode
  have one : Lookup.found (.ofRow isClustered isNewer table attributes) (table.keySpace isClustered)
      [key] = [key.encode].filter (Lookup.isStored (.ofRow isClustered isNewer table attributes)
        (table.keySpace isClustered)) := rfl
  have looked := looks_unbounded (.byFields table fields sought) [key] rfl rfl rfl
    (.ofRow isClustered isNewer table attributes) .all
  rw [Query.Kind.answerOf_all] at looked
  refine ⟨_, looked, ?_⟩
  change (Lookup.found _ (table.keySpace isClustered) [key]).map _ = _
  rw [one]
  by_cases same : key.encode = (keyOver table.primaryKey stored).encode
  · rw [if_pos same] at read ⊢
    have isStored : Lookup.isStored (.ofRow isClustered isNewer table attributes)
        (table.keySpace isClustered) key.encode = true := by
      rw [Lookup.isStored, read, filled]
      rfl
    rw [List.filter_cons_of_pos isStored]
    exact congrArg (fun row => [row]) read
  · rw [if_neg same] at read ⊢
    have notStored : ¬ Lookup.isStored (.ofRow isClustered isNewer table attributes)
        (table.keySpace isClustered) key.encode = true := by
      rw [Lookup.isStored, read]
      exact Bool.false_ne_true
    rw [List.filter_cons_of_neg notStored]
    rfl

/-- A scan finds the row exactly if the texts of the key fields are the same. -/
theorem scans_ofRow (same : fields.Perm table.primaryKey)
    (soughtValues : ∀ field ∈ table.primaryKey, (sought field).isKeyValue = true) :
    ∃ matched : List Row,
      Scans (.ofRow isClustered isNewer table attributes) (.byFields table fields sought) .all
          (.ok matched) ∧
        matched = if SameText table.primaryKey stored sought then
          [Store.storedRow (.ofList attributes)] else [] := by
  have row := Store.rowOf_ofRow isClustered isNewer given values
    (keyOver table.primaryKey stored).encode
  rw [if_pos rfl] at row
  have decided : ∀ key, (Filter.byFields fields sought).meaning
      ((Store.ofRow isClustered isNewer table attributes).rowOf (table.keySpace isClustered) key) =
        .ok ((fields.map fun field => (field, .value (sought field))).all
          ((Store.ofRow isClustered isNewer table attributes).rowOf
            (table.keySpace isClustered) key).hasEntry) := fun _ => rfl
  have scanned := scans_unbounded (.byFields table fields sought) rfl rfl rfl rfl
    (isPlain_byFields same soughtValues) (.ofRow isClustered isNewer table attributes) decided .all
    nofun
  rw [Query.Kind.answerOfReply_all] at scanned
  refine ⟨_, scanned, ?_⟩
  change (((Store.ofRow isClustered isNewer table attributes).listOf
    (table.keySpace isClustered)).filter _).map _ = _
  have holds := hasEntry_byFields same soughtValues fun field member =>
    Store.find?_ofRow given values member
  rw [Store.listOf_ofRow isClustered isNewer given values, List.filter_singleton, row, holds]
  by_cases texts : SameText table.primaryKey stored sought
  · rw [decide_eq_true texts, if_pos texts]
    exact congrArg (fun row => [row]) row
  · rw [decide_eq_false texts, if_neg texts]
    rfl

/-- On a table with one row, a lookup by values of all key fields finds the row exactly if they
make its key, and a scan exactly if they have its texts and none of them is a float. So lookup and
scan agree exactly if both is so or neither is. What is assumed is that what the two keys are
digested from does not share a digest by accident. -/
theorem lookup_scan_agree_iff (keyed : table.primaryKey ≠ []) (distinct : table.primaryKey.Nodup)
    (same : fields.Perm table.primaryKey)
    (soughtValues : ∀ field ∈ table.primaryKey, (sought field).isKeyValue = true)
    (apart : KeyValue.digest (keyInput table.primaryKey stored) =
        KeyValue.digest (keyInput table.primaryKey sought) →
      keyInput table.primaryKey stored = keyInput table.primaryKey sought) :
    ∃ (key : KeyValue) (found matched : List Row),
      Lookup.candidates (.byFields fields sought) table = .ok (some [key]) ∧
      Looks (.ofRow isClustered isNewer table attributes) (.byFields table fields sought) [key] .all
        (.ok found) ∧
      Scans (.ofRow isClustered isNewer table attributes) (.byFields table fields sought) .all
        (.ok matched) ∧
      (found = if SameKey table.primaryKey stored sought then
        [Store.storedRow (.ofList attributes)] else []) ∧
      (matched = if SameText table.primaryKey stored sought then
        [Store.storedRow (.ofList attributes)] else []) ∧
      (found = matched ↔
        (SameKey table.primaryKey stored sought ↔ SameText table.primaryKey stored sought)) := by
  obtain ⟨key, candidates, encoded⟩ := candidates_byFields keyed same soughtValues
  obtain ⟨found, looked, foundRow⟩ := looks_ofRow isClustered isNewer given values keyed key
  obtain ⟨matched, scanned, matchedRow⟩ :=
    scans_ofRow isClustered isNewer given values same soughtValues
  have identity := encode_keyOver_eq_iff keyed distinct values soughtValues apart
  have sameKey : key.encode = (keyOver table.primaryKey stored).encode ↔
      SameKey table.primaryKey stored sought := by
    rw [encoded, eq_comm]
    exact identity
  simp only [sameKey] at foundRow
  refine ⟨key, found, matched, candidates, looked, scanned, foundRow, matchedRow, ?_⟩
  rw [foundRow, matchedRow]
  by_cases keys : SameKey table.primaryKey stored sought <;>
    by_cases texts : SameText table.primaryKey stored sought <;> simp [keys, texts]

end OneRow

/-! The row under a float is found by a lookup for that float, and not by a scan. -/

/-- Readings, each under the value that was read. -/
def readings : Table := { name := "readings" }

def onePointFive : Literal := .float (Numeral.toDouble ⟨false, ['1'], ['5'], 0⟩)

theorem lookup_float_apart : ∃ (key : KeyValue) (found matched : List Row),
    Lookup.candidates (.byFields ["id"] fun _ => onePointFive) readings = .ok (some [key]) ∧
      Looks (.ofRow false false readings [("id", onePointFive)])
        (.byFields readings ["id"] fun _ => onePointFive) [key] .all (.ok found) ∧
      Scans (.ofRow false false readings [("id", onePointFive)])
        (.byFields readings ["id"] fun _ => onePointFive) .all (.ok matched) ∧
      found = [Store.storedRow (.ofList [("id", onePointFive)])] ∧ matched = [] := by
  have given : ∀ field ∈ readings.primaryKey,
      (FieldMap.ofList [("id", onePointFive)]).find? field = some onePointFive := by
    intro field member
    rw [List.mem_singleton.1 member]
    rfl
  have value : ∀ field ∈ readings.primaryKey, onePointFive.isKeyValue = true := fun _ _ => rfl
  obtain ⟨key, found, matched, candidates, looked, scanned, foundRow, matchedRow, -⟩ :=
    lookup_scan_agree_iff false false given value nofun (by decide) (List.Perm.refl _) value
      fun _ => rfl
  have sameKey : SameKey readings.primaryKey (fun _ => onePointFive) fun _ => onePointFive :=
    onePointFive.sameKey_refl
  have otherText : ¬ SameText readings.primaryKey (fun _ => onePointFive) fun _ => onePointFive :=
    fun texts => nomatch (texts "id" List.mem_cons_self).1
  rw [if_pos sameKey] at foundRow
  rw [if_neg otherText] at matchedRow
  exact ⟨key, found, matched, candidates, looked, scanned, foundRow, matchedRow⟩

end Rowscan
