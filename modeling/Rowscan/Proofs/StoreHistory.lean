import Rowscan.Proofs.FieldMaps
import Rowscan.Proofs.KeyTexts
import Rowscan.Store.Basic

/-!
What a store holds after any history of inserts and removals. `Store.Reached` tells the history
of one table with a single key field among writes to any other tables, and `Store.Consistent` is
what every such history leaves: each stored row is listed once under the key that its key field
encodes to, and a listed key without a row was removed (`Reached.consistent`).
-/
namespace Rowscan

/-! ## One write -/

namespace Store

private theorem entries_storedRow (attributes : FieldMap Literal) : (storedRow attributes).entries =
    (attributes.entries.filter (!·.2.isNull)).map fun entry => (entry.1, entry.2.text) := by
  refine FieldMap.entries_ofList ?_
  rw [List.pairwise_map]
  exact attributes.sorted.filter _

/-- A stored row has the texts of the attributes that are not null. -/
theorem find?_storedRow {attributes : FieldMap Literal} {name text : String} :
    (storedRow attributes).find? name = some text ↔
      ∃ value, attributes.find? name = some value ∧ value.isNull = false ∧ value.text = text := by
  rw [← FieldMap.mem_entries, entries_storedRow, List.mem_map]
  constructor
  · rintro ⟨⟨name, value⟩, kept, ⟨⟩⟩
    obtain ⟨stored, given⟩ := List.mem_filter.1 kept
    exact ⟨value, FieldMap.mem_entries.1 stored, by simpa using given, rfl⟩
  · rintro ⟨value, found, given, rfl⟩
    have stored : (name, value) ∈ attributes.entries := FieldMap.mem_entries.2 found
    exact ⟨(name, value), List.mem_filter.2 ⟨stored, by simpa using given⟩, rfl⟩

variable (store : Store) (table : Table) (attributes : List (String × Literal))

/-- The attributes with the key fields filled in. -/
def settledOf : FieldMap Literal :=
  (table.primaryKey.foldl (settleKeyField (table.keySpace store.isClustered))
    (.ofList attributes, store.counters)).1

theorem insert_key :
    (store.insert table attributes).1 = (keyOf table (store.settledOf table attributes)).encode :=
  rfl

theorem insert_isClustered : (store.insert table attributes).2.isClustered = store.isClustered :=
  rfl

theorem insert_rows : (store.insert table attributes).2.rows = store.rows.insert
    ((table.keySpace store.isClustered).rowKey (store.insert table attributes).1)
    (storedRow (store.settledOf table attributes)) := rfl

theorem insert_lists : (store.insert table attributes).2.lists = store.lists.insert
    (table.keySpace store.isClustered).listKey
    (if store.rows.contains
        ((table.keySpace store.isClustered).rowKey (store.insert table attributes).1) then
      store.listOf (table.keySpace store.isClustered)
    else store.listOf (table.keySpace store.isClustered) ++ [(store.insert table attributes).1]) :=
  rfl

/-- An insert lists its key unless the row is stored. -/
theorem listOf_insert :
    (store.insert table attributes).2.listOf (table.keySpace store.isClustered) =
      if store.rows.contains
          ((table.keySpace store.isClustered).rowKey (store.insert table attributes).1) then
        store.listOf (table.keySpace store.isClustered)
      else store.listOf (table.keySpace store.isClustered) ++ [(store.insert table attributes).1] := by
  rw [listOf, insert_lists, FieldMap.find?_insert, if_pos rfl, Option.getD_some]

theorem colon_notMem_insert : ':' ∉ (store.insert table attributes).1.toList :=
  colon_notMem_encode _

/-- A key field that is given stays as it is. -/
theorem settleKeyField_given {space : KeySpace} {attributes : FieldMap Literal}
    {counters : FieldMap Int64} {field : String} {value : Literal}
    (found : attributes.find? field = some value) (given : value.isNull = false) :
    (settleKeyField space (attributes, counters) field).1 = attributes := by
  simp [settleKeyField, found, given]

/-- Attributes that give all key fields are stored as they are. -/
theorem settledOf_given (given : ∀ field ∈ table.primaryKey, ∃ value,
    (FieldMap.ofList attributes).find? field = some value ∧ value.isNull = false) :
    store.settledOf table attributes = .ofList attributes := by
  have kept (counters : FieldMap Int64) (fields : List String)
      (given : ∀ field ∈ fields, ∃ value,
        (FieldMap.ofList attributes).find? field = some value ∧ value.isNull = false) :
      (fields.foldl (settleKeyField (table.keySpace store.isClustered))
        (.ofList attributes, counters)).1 = .ofList attributes := by
    induction fields generalizing counters with
    | nil => rfl
    | cons field rest ih =>
      obtain ⟨value, found, notNull⟩ := given field List.mem_cons_self
      have settled : (settleKeyField (table.keySpace store.isClustered)
          (.ofList attributes, counters) field).1 = .ofList attributes :=
        settleKeyField_given found notNull
      rw [List.foldl_cons, ← Prod.eta (settleKeyField _ _ _), settled]
      exact ih _ fun field member => given field (List.mem_cons_of_mem _ member)
  exact kept store.counters table.primaryKey given

/-- A key field that is missing or null becomes the next number of its counter. -/
theorem settleKeyField_numbered {space : KeySpace} {attributes : FieldMap Literal}
    {counters : FieldMap Int64} {field : String}
    (missing : ((attributes.find? field).getD .null).isNull = true) :
    (settleKeyField space (attributes, counters) field).1 =
      attributes.insert field (.int ((counters.find? (space.counterKey field)).getD 0 + 1)) := by
  simp [settleKeyField, missing]

private theorem settleKeyField_missing {space : KeySpace} {attributes : FieldMap Literal}
    {counters : FieldMap Int64} {field : String}
    (missing : ((attributes.find? field).getD .null).isNull = true) :
    ∃ next, (settleKeyField space (attributes, counters) field).1 =
      attributes.insert field (.int next) := ⟨_, settleKeyField_numbered missing⟩

/-- The values that the key field of a history may be given: a number, a text or a boolean, or
nothing, so that the counter numbers the row. -/
def IsKeyGiven (field : String) (attributes : List (String × Literal)) : Prop :=
  ∀ value, (FieldMap.ofList attributes).find? field = some value →
    value.isNull = true ∨ value.isKeyed = true

variable {store table attributes} {field : String}

theorem settledOf_single (single : table.primaryKey = [field]) :
    store.settledOf table attributes = (settleKeyField (table.keySpace store.isClustered)
      (.ofList attributes, store.counters) field).1 := by
  rw [settledOf, single]
  rfl

/-- A single key field is filled with a value whose text alone makes the key. -/
theorem settledOf_keyed (store : Store) (single : table.primaryKey = [field])
    (given : IsKeyGiven field attributes) :
    ∃ value, (store.settledOf table attributes).find? field = some value ∧
      value.isNull = false ∧ value.isKeyed = true := by
  rw [settledOf_single single]
  have numbered (missing : (((FieldMap.ofList attributes).find? field).getD .null).isNull = true) :
      ∃ value, (settleKeyField (table.keySpace store.isClustered)
        (.ofList attributes, store.counters) field).1.find? field = some value ∧
        value.isNull = false ∧ value.isKeyed = true := by
    obtain ⟨next, settled⟩ := settleKeyField_missing missing
    rw [settled, FieldMap.find?_insert, if_pos rfl]
    exact ⟨.int next, rfl, rfl, rfl⟩
  cases found : (FieldMap.ofList attributes).find? field with
  | none => exact numbered (by rw [found]; rfl)
  | some value =>
    rcases given value found with null | keyed
    · exact numbered (by rw [found]; exact null)
    · have notNull : value.isNull = false := by cases value <;> first | rfl | cases keyed
      rw [settleKeyField_given found notNull]
      exact ⟨value, found, notNull, keyed⟩

/-- The row that is inserted holds the text that its key encodes. -/
theorem insert_keyed (store : Store) (single : table.primaryKey = [field])
    (given : IsKeyGiven field attributes) :
    ∃ text, (storedRow (store.settledOf table attributes)).find? field = some text ∧
      (store.insert table attributes).1 = KeyValue.encodeText text := by
  obtain ⟨value, found, notNull, keyed⟩ := settledOf_keyed store single given
  refine ⟨value.text, find?_storedRow.2 ⟨value, found, notNull, rfl⟩, ?_⟩
  rw [insert_key, keyOf, single, List.map_singleton, found, ← encodeScalar_of_isKeyed keyed]
  rfl

end Store

/-! ## Histories -/

/-- What writes leave in a store, and which keys of a table were removed on the way. The table
has one key field; no removed key is inserted again, and other tables have other names. -/
inductive Store.Reached (table : Table) (field : String) : Store → List String → Prop where
  | empty (isClustered isNewer : Bool) : Reached table field (.empty isClustered isNewer) []
  | insert {store : Store} {removed : List String} {attributes : List (String × Literal)}
      (reached : Reached table field store removed) (given : IsKeyGiven field attributes)
      (fresh : (store.insert table attributes).1 ∉ removed) :
      Reached table field (store.insert table attributes).2 removed
  | remove {store : Store} {removed : List String} (key : String)
      (reached : Reached table field store removed) :
      Reached table field (store.removeRow table key).2
        (if (store.removeRow table key).1 then key :: removed else removed)
  | insertOther {store : Store} {removed : List String} {other : Table}
      (attributes : List (String × Literal)) (reached : Reached table field store removed)
      (differs : other.name ≠ table.name) :
      Reached table field (store.insert other attributes).2 removed
  | removeOther {store : Store} {removed : List String} {other : Table} (key : KeyValue)
      (reached : Reached table field store removed) (differs : other.name ≠ table.name) :
      Reached table field (store.removeRow other key.encode).2 removed

namespace Store

/-- Every stored row of a table is listed once under the key of its key field, and every listed
key without a row was removed. -/
structure Consistent (table : Table) (field : String) (store : Store) (removed : List String) :
    Prop where
  nodup : (store.listOf (table.keySpace store.isClustered)).Nodup
  colonless : ∀ key ∈ store.listOf (table.keySpace store.isClustered), ':' ∉ key.toList
  listed : ∀ key, ':' ∉ key.toList →
    store.rows.contains ((table.keySpace store.isClustered).rowKey key) = true →
    key ∈ store.listOf (table.keySpace store.isClustered)
  stored : ∀ key ∈ store.listOf (table.keySpace store.isClustered),
    store.rows.contains ((table.keySpace store.isClustered).rowKey key) = true ∨ key ∈ removed
  keyed : ∀ key row, ':' ∉ key.toList →
    store.rows.find? ((table.keySpace store.isClustered).rowKey key) = some row →
    ∃ text, row.find? field = some text ∧ KeyValue.encodeText text = key

variable {store : Store} {table : Table} {field : String} {removed : List String}
variable {attributes : List (String × Literal)}

private theorem consistent_empty (isClustered isNewer : Bool) :
    Consistent table field (.empty isClustered isNewer) [] where
  nodup := .nil
  colonless := nofun
  listed := nofun
  stored := nofun
  keyed := nofun

/-- The key that is inserted is listed, and no other key is listed or left out by that. -/
theorem mem_listOf_insert (consistent : Consistent table field store removed) {key : String} :
    key ∈ (store.insert table attributes).2.listOf (table.keySpace store.isClustered) ↔
      key = (store.insert table attributes).1 ∨
        key ∈ store.listOf (table.keySpace store.isClustered) := by
  rw [listOf_insert]
  split
  next there =>
    have known := consistent.listed _ (colon_notMem_insert store table attributes) there
    constructor
    · exact .inr
    · rintro (rfl | member)
      · exact known
      · exact member
  next => rw [List.mem_append, List.mem_singleton, or_comm]

theorem contains_insert {key : String} :
    (store.insert table attributes).2.rows.contains
        ((table.keySpace store.isClustered).rowKey key) = true ↔
      key = (store.insert table attributes).1 ∨
        store.rows.contains ((table.keySpace store.isClustered).rowKey key) = true := by
  rw [insert_rows, FieldMap.contains_insert, Bool.or_eq_true, decide_eq_true_eq,
    KeySpace.rowKey_inj_same]

private theorem consistent_insert (single : table.primaryKey = [field])
    (consistent : Consistent table field store removed) (given : IsKeyGiven field attributes)
    (fresh : (store.insert table attributes).1 ∉ removed) :
    Consistent table field (store.insert table attributes).2 removed where
  nodup := by
    rw [insert_isClustered, listOf_insert]
    split
    next => exact consistent.nodup
    next unstored =>
      have unlisted : (store.insert table attributes).1 ∉
          store.listOf (table.keySpace store.isClustered) := by
        intro member
        rcases consistent.stored _ member with there | gone
        · exact unstored there
        · exact fresh gone
      rw [List.nodup_append]
      refine ⟨consistent.nodup, List.nodup_singleton _, ?_⟩
      rintro key member _ last rfl
      exact unlisted (List.mem_singleton.1 last ▸ member)
  colonless key member := by
    rcases (mem_listOf_insert consistent).1 member with rfl | listed
    · exact colon_notMem_insert store table attributes
    · exact consistent.colonless key listed
  listed key colonless there := by
    rcases contains_insert.1 there with rfl | before
    · exact (mem_listOf_insert consistent).2 (.inl rfl)
    · exact (mem_listOf_insert consistent).2 (.inr (consistent.listed key colonless before))
  stored key member := by
    rcases (mem_listOf_insert consistent).1 member with rfl | listed
    · exact .inl (contains_insert.2 (.inl rfl))
    · exact (consistent.stored key listed).imp_left fun there => contains_insert.2 (.inr there)
  keyed key row colonless found := by
    rw [insert_isClustered, insert_rows, FieldMap.find?_insert] at found
    split at found
    next same =>
      obtain ⟨text, held, encoded⟩ := insert_keyed store single given
      cases found
      exact ⟨text, held, encoded.symm.trans (KeySpace.rowKey_inj_same.1 same).symm⟩
    next => exact consistent.keyed key row colonless found

theorem contains_removeRow {key probe : String} :
    (store.removeRow table key).2.rows.contains
        ((table.keySpace store.isClustered).rowKey probe) = true ↔
      probe ≠ key ∧
        store.rows.contains ((table.keySpace store.isClustered).rowKey probe) = true := by
  have erased := FieldMap.contains_erase store.rows
    ((table.keySpace store.isClustered).rowKey key) ((table.keySpace store.isClustered).rowKey probe)
  rw [removeRow, erased, Bool.and_eq_true, decide_eq_true_eq, ne_eq, KeySpace.rowKey_inj_same]

private theorem consistent_remove (consistent : Consistent table field store removed)
    (key : String) :
    Consistent table field (store.removeRow table key).2
      (if (store.removeRow table key).1 then key :: removed else removed) where
  nodup := consistent.nodup
  colonless := consistent.colonless
  listed probe colonless there :=
    consistent.listed probe colonless (contains_removeRow.1 there).2
  stored probe member := by
    rcases consistent.stored probe member with there | gone
    · by_cases same : probe = key
      · subst same
        have removes : (store.removeRow table probe).1 = true := there
        rw [if_pos removes]
        exact .inr List.mem_cons_self
      · exact .inl (contains_removeRow.2 ⟨same, there⟩)
    · refine .inr ?_
      split
      · exact List.mem_cons_of_mem _ gone
      · exact gone
  keyed probe row colonless found := by
    have kept : (store.rows.erase ((table.keySpace store.isClustered).rowKey key)).find?
        ((table.keySpace store.isClustered).rowKey probe) = some row := found
    rw [FieldMap.find?_erase] at kept
    split at kept
    next => cases kept
    next => exact consistent.keyed probe row colonless kept

/-! ## Other tables -/

/-- A write that keeps a table's list and rows keeps the table consistent. -/
theorem Consistent.kept {after : Store} (consistent : Consistent table field store removed)
    (clustered : after.isClustered = store.isClustered)
    (list : after.listOf (table.keySpace store.isClustered) =
      store.listOf (table.keySpace store.isClustered))
    (rows : ∀ key, ':' ∉ key.toList →
      after.rows.find? ((table.keySpace store.isClustered).rowKey key) =
        store.rows.find? ((table.keySpace store.isClustered).rowKey key)) :
    Consistent table field after removed := by
  have there (key : String) (colonless : ':' ∉ key.toList) :
      after.rows.contains ((table.keySpace store.isClustered).rowKey key) =
        store.rows.contains ((table.keySpace store.isClustered).rowKey key) := by
    rw [FieldMap.contains, rows key colonless, ← FieldMap.contains]
  constructor
  · rw [clustered, list]
    exact consistent.nodup
  · rw [clustered, list]
    exact consistent.colonless
  · rw [clustered, list]
    intro key colonless stored
    exact consistent.listed key colonless (there key colonless ▸ stored)
  · rw [clustered, list]
    intro key member
    rw [there key (consistent.colonless key member)]
    exact consistent.stored key member
  · rw [clustered]
    intro key row colonless found
    exact consistent.keyed key row colonless (rows key colonless ▸ found)

private theorem rowKey_differs {other : Table} {clustered : Bool}
    (differs : other.name ≠ table.name)
    {key otherKey : String} (colonless : ':' ∉ key.toList) (otherColonless : ':' ∉ otherKey.toList) :
    (table.keySpace clustered).rowKey key ≠ (other.keySpace clustered).rowKey otherKey := by
  intro same
  have spaces := ((KeySpace.rowKey_inj colonless otherColonless).1 same).1
  exact differs (Table.keySpace_inj.1 spaces).symm

private theorem listKey_differs {other : Table} {clustered : Bool}
    (differs : other.name ≠ table.name) :
    (table.keySpace clustered).listKey ≠ (other.keySpace clustered).listKey := by
  intro same
  exact differs (Table.keySpace_inj.1 (congrArg KeySpace.mk same)).symm

section Elsewhere

variable {other : Table} (differs : other.name ≠ table.name)
include differs

theorem listOf_insertOther :
    (store.insert other attributes).2.listOf (table.keySpace store.isClustered) =
      store.listOf (table.keySpace store.isClustered) := by
  rw [listOf, insert_lists, FieldMap.find?_insert, if_neg (listKey_differs differs), listOf]

theorem find?_insertOther {key : String} (colonless : ':' ∉ key.toList) :
    (store.insert other attributes).2.rows.find? ((table.keySpace store.isClustered).rowKey key) =
      store.rows.find? ((table.keySpace store.isClustered).rowKey key) := by
  rw [insert_rows, FieldMap.find?_insert,
    if_neg (rowKey_differs differs colonless (colon_notMem_insert store other attributes))]

theorem find?_removeOther {key : String} (colonless : ':' ∉ key.toList) (gone : KeyValue) :
    (store.removeRow other gone.encode).2.rows.find?
        ((table.keySpace store.isClustered).rowKey key) =
      store.rows.find? ((table.keySpace store.isClustered).rowKey key) := by
  rw [removeRow, FieldMap.find?_erase,
    if_neg (rowKey_differs differs colonless (colon_notMem_encode gone))]

private theorem consistent_insertOther (consistent : Consistent table field store removed) :
    Consistent table field (store.insert other attributes).2 removed :=
  consistent.kept rfl (listOf_insertOther differs) fun _ => find?_insertOther differs

private theorem consistent_removeOther (consistent : Consistent table field store removed)
    (key : KeyValue) : Consistent table field (store.removeRow other key.encode).2 removed :=
  consistent.kept rfl rfl fun _ colonless => find?_removeOther differs colonless key

end Elsewhere

theorem Reached.consistent (single : table.primaryKey = [field])
    (reached : Reached table field store removed) :
    Consistent table field store removed := by
  induction reached with
  | empty isClustered isNewer => exact consistent_empty isClustered isNewer
  | insert _ given fresh ih => exact consistent_insert single ih given fresh
  | remove key _ ih => exact consistent_remove ih key
  | insertOther attributes _ differs ih => exact consistent_insertOther differs ih
  | removeOther key _ differs ih => exact consistent_removeOther differs ih key

end Store
end Rowscan
