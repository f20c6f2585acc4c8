import Rowscan.Proofs.QueryKinds

/-!
A table is a map in the order of insertion. A history of inserts is told as a list of writes, each
by the attributes given and the numbers that the counters stood at. A table that was only
inserted into lists the keys of the writes in the order in which they first came, and under each
key stands what the last write put there (`Store.ListsWrites`, `all_insertAll`).
-/
namespace Rowscan

/-! ## Writes -/

/-- One insert: the attributes given, and the numbers that the counters of fields give next. -/
structure Write where
  attributes : List (String × Literal)
  next : String → Int64

namespace Write

variable (table : Table) (write : Write)

/-- The last value given to a name, unless that is null. -/
def given? (name : String) : Option Literal :=
  (write.attributes.reverse.lookup name).filter (!·.isNull)

/-- The value that is stored under a name: the one given, and for a key field without one the next
number of its counter. -/
def value? (name : String) : Option Literal :=
  (write.given? name).or
    (if name ∈ table.primaryKey then some (.int (write.next name)) else none)

/-- Every key field has a value. -/
theorem value?_of_mem {table : Table} {field : String} (member : field ∈ table.primaryKey) :
    ∃ value, write.value? table field = some value := by
  rw [value?, if_pos member]
  cases write.given? field with
  | none => exact ⟨_, rfl⟩
  | some value => exact ⟨value, rfl⟩

/-- The text of a field. -/
def text? (name : String) : Option String := (write.value? table name).map Literal.text

/-- The key that the values of the key fields encode to. -/
def key : String :=
  (KeyValue.composite (.ofList (table.primaryKey.map fun field =>
    (field, (write.value? table field).getD .null)))).encode

/-- The last of several writes under a key. -/
def lastUnder (key : String) (writes : List Write) : Option Write :=
  writes.reverse.find? fun write => write.key table == key

variable {table}

private theorem lastUnder_append_same {write : Write} (writes : List Write) :
    lastUnder table (write.key table) (writes ++ [write]) = some write := by
  simp [lastUnder]

private theorem lastUnder_append_other {write : Write} {key : String}
    (differs : key ≠ write.key table) (writes : List Write) :
    lastUnder table key (writes ++ [write]) = lastUnder table key writes := by
  simp [lastUnder, differs.symm]

/-- A key has a last write if it has any. -/
theorem isSome_lastUnder {key : String} {writes : List Write} :
    (lastUnder table key writes).isSome = true ↔ key ∈ writes.map (·.key table) := by
  simp [lastUnder, List.find?_isSome]

/-- A key that comes again is not listed again. -/
theorem eraseDups_append_singleton (keys : List String) (key : String) :
    (keys ++ [key]).eraseDups = if key ∈ keys then keys.eraseDups else keys.eraseDups ++ [key] := by
  rw [List.eraseDups_append]
  by_cases known : key ∈ keys <;> simp [List.removeAll, known, List.eraseDups_cons]

end Write

/-! ## What an insert stores -/

theorem FieldMap.find?_ofList {α : Type} (pairs : List (String × α)) (name : String) :
    (ofList pairs).find? name = pairs.reverse.lookup name := by
  have added (map : FieldMap α) :
      (pairs.foldl (fun map pair => map.insert pair.1 pair.2) map).find? name =
        (pairs.reverse.lookup name).or (map.find? name) := by
    induction pairs generalizing map with
    | nil => rfl
    | cons pair rest ih =>
      rw [List.foldl_cons, ih, List.reverse_cons, List.lookup_append, find?_insert, Option.or_assoc]
      congr 1
      obtain ⟨key, value⟩ := pair
      by_cases same : name = key
      · simp [same]
      · have differs : (name == key) = false := beq_eq_false_iff_ne.2 same
        simp [List.lookup_cons, differs, same]
  rw [ofList, added, find?_empty, Option.or_none]

theorem KeySpace.counterKey_inj {space : KeySpace} {first second : String} :
    space.counterKey first = space.counterKey second ↔ first = second := by
  constructor
  · intro same
    have chars := congrArg String.toList same
    simp only [counterKey, String.toList_append] at chars
    exact String.toList_inj.1 (List.append_cancel_left chars)
  · rintro rfl
    rfl

namespace Store

/-- Pushing a counter leaves the others alone. -/
theorem find?_pushCounter {counters : FieldMap Int64} {counterKey probe : String}
    (differs : probe ≠ counterKey) (value : Literal) :
    (pushCounter counters counterKey value).find? probe = counters.find? probe := by
  rw [pushCounter]
  split
  · rfl
  · dsimp only
    split
    · rw [FieldMap.find?_insert, if_neg differs]
    · rfl

theorem find?_settleKeyField_counters {space : KeySpace}
    {state : FieldMap Literal × FieldMap Int64} {field name : String} (differs : name ≠ field) :
    (settleKeyField space state field).2.find? (space.counterKey name) =
      state.2.find? (space.counterKey name) := by
  have keys : space.counterKey name ≠ space.counterKey field :=
    fun same => differs (KeySpace.counterKey_inj.1 same)
  rw [settleKeyField]
  split
  · rw [FieldMap.find?_insert, if_neg keys]
  · exact find?_pushCounter keys _

/-- Settling one key field numbers it unless it has a value. -/
theorem find?_settleKeyField (space : KeySpace) (state : FieldMap Literal × FieldMap Int64)
    (field name : String) : ((settleKeyField space state field).1.find? name).filter (!·.isNull) =
      ((state.1.find? name).filter (!·.isNull)).or (if name = field then
        some (.int ((state.2.find? (space.counterKey name)).getD 0 + 1)) else none) := by
  obtain ⟨attributes, counters⟩ := state
  cases missing : ((attributes.find? field).getD .null).isNull with
  | true =>
    rw [settleKeyField_numbered missing, FieldMap.find?_insert]
    by_cases same : name = field
    · subst same
      have nothing : (attributes.find? name).filter (!·.isNull) = none := by
        cases found : attributes.find? name <;> simp_all
      rw [if_pos rfl, if_pos rfl, nothing]
      rfl
    · rw [if_neg same, if_neg same, Option.or_none]
  | false =>
    obtain ⟨value, found⟩ : ∃ value, attributes.find? field = some value := by
      cases found : attributes.find? field with
      | none => simp [found, Literal.isNull] at missing
      | some value => exact ⟨value, rfl⟩
    have given : value.isNull = false := by rw [found] at missing; exact missing
    rw [settleKeyField_given found given]
    by_cases same : name = field
    · subst same
      rw [if_pos rfl, found, Option.filter_some, given]
      rfl
    · rw [if_neg same, Option.or_none]

/-- Settling the key fields leaves the values that are given, and numbers the other fields. -/
theorem find?_settle (space : KeySpace) (fields : List String)
    (state : FieldMap Literal × FieldMap Int64) (name : String) :
    ((fields.foldl (settleKeyField space) state).1.find? name).filter (!·.isNull) =
      ((state.1.find? name).filter (!·.isNull)).or (if name ∈ fields then
        some (.int ((state.2.find? (space.counterKey name)).getD 0 + 1)) else none) := by
  induction fields generalizing state with
  | nil => simp
  | cons field rest ih =>
    rw [List.foldl_cons, ih, find?_settleKeyField, Option.or_assoc]
    congr 1
    by_cases same : name = field
    · simp [same]
    · rw [find?_settleKeyField_counters same]
      simp [same]

variable (store : Store) (table : Table) (attributes : List (String × Literal))

/-- The number that the counter of a key field gives next. -/
def nextNumber (field : String) : Int64 :=
  (store.counters.find? ((table.keySpace store.isClustered).counterKey field)).getD 0 + 1

/-- The write that an insert into the store makes. -/
def writeOf : Write := ⟨attributes, store.nextNumber table⟩

private theorem find?_settledOf (name : String) :
    ((store.settledOf table attributes).find? name).filter (!·.isNull) =
      (store.writeOf table attributes).value? table name := by
  rw [settledOf, find?_settle, FieldMap.find?_ofList]
  rfl

/-- The row that is stored shows what the write puts under each name. -/
theorem find?_storedRow_settledOf (name : String) :
    (storedRow (store.settledOf table attributes)).find? name =
      (store.writeOf table attributes).text? table name := by
  rw [Write.text?, ← find?_settledOf]
  refine Option.ext fun text => ?_
  rw [find?_storedRow]
  simp [Option.filter_eq_some_iff, and_assoc]

/-- The key that an insert gives is the one of its write. -/
theorem insert_key_eq :
    (store.insert table attributes).1 = (store.writeOf table attributes).key table := by
  rw [insert_key, keyOf, Write.key]
  congr 3
  refine List.map_congr_left fun field member => ?_
  obtain ⟨value, filled⟩ := (store.writeOf table attributes).value?_of_mem member
  have settled := (find?_settledOf store table attributes field).trans filled
  rw [(Option.filter_eq_some_iff.1 settled).1, filled]

/-! ## Histories -/

/-- The store after several inserts into a table. -/
def insertAll (history : List (List (String × Literal))) : Store :=
  history.foldl (fun store attributes => (store.insert table attributes).2) store

/-- The writes that several inserts into a table make, one after the other. -/
def writes (store : Store) (table : Table) : List (List (String × Literal)) → List Write
  | [] => []
  | attributes :: rest =>
    store.writeOf table attributes :: writes (store.insert table attributes).2 table rest

/-- A store holds what these writes put into a table: the keys as they first came, and under each
key the row of the last write. -/
structure ListsWrites (store : Store) (table : Table) (writes : List Write) : Prop where
  keys : store.listOf (table.keySpace store.isClustered) = (writes.map (·.key table)).eraseDups
  rows : ∀ key, Option.Rel (fun row write => ∀ name, row.find? name = write.text? table name)
    (store.rows.find? ((table.keySpace store.isClustered).rowKey key))
    (Write.lastUnder table key writes)

variable {store table} {before : List Write}

theorem listsWrites_empty (table : Table) (isClustered isNewer : Bool) :
    ListsWrites (.empty isClustered isNewer) table [] where
  keys := rfl
  rows _ := .none

/-- A row is stored under a key if one was written. -/
theorem ListsWrites.contains_iff (lists : ListsWrites store table before) (key : String) :
    store.rows.contains ((table.keySpace store.isClustered).rowKey key) = true ↔
      key ∈ before.map (·.key table) := by
  rw [← Write.isSome_lastUnder, FieldMap.contains]
  have related := lists.rows key
  generalize store.rows.find? _ = stored at related ⊢
  generalize Write.lastUnder table key before = last at related ⊢
  cases related <;> simp

/-- The row under a key that was written is the one of the last write. -/
theorem ListsWrites.rowOf (lists : ListsWrites store table before) {key : String}
    (written : key ∈ before.map (·.key table)) : ∃ write ∈ Write.lastUnder table key before,
      ∀ name, (store.rowOf (table.keySpace store.isClustered) key).find? name =
        write.text? table name := by
  have related := lists.rows key
  rw [← Write.isSome_lastUnder] at written
  rw [Store.rowOf]
  generalize store.rows.find? _ = stored at related ⊢
  generalize Write.lastUnder table key before = last at related written ⊢
  cases related with
  | none => cases written
  | some shown => exact ⟨_, rfl, shown⟩

/-- An insert adds its write. -/
theorem ListsWrites.insert (lists : ListsWrites store table before)
    (attributes : List (String × Literal)) :
    ListsWrites (store.insert table attributes).2 table
      (before ++ [store.writeOf table attributes]) where
  keys := by
    rw [insert_isClustered, listOf_insert, List.map_append, List.map_singleton,
      Write.eraseDups_append_singleton, insert_key_eq, ← lists.keys]
    exact if_congr (lists.contains_iff _) rfl rfl
  rows key := by
    rw [insert_isClustered, insert_rows, insert_key_eq, FieldMap.find?_insert]
    by_cases same : key = (store.writeOf table attributes).key table
    · rw [if_pos (KeySpace.rowKey_inj_same.2 same), same, Write.lastUnder_append_same]
      exact .some (find?_storedRow_settledOf store table attributes)
    · rw [if_neg fun placed => same (KeySpace.rowKey_inj_same.1 placed),
        Write.lastUnder_append_other same]
      exact lists.rows key

/-- A history of inserts adds its writes. -/
theorem ListsWrites.insertAll (lists : ListsWrites store table before)
    (history : List (List (String × Literal))) :
    ListsWrites (store.insertAll table history) table (before ++ store.writes table history) := by
  induction history generalizing store before with
  | nil => simpa [Store.insertAll, writes] using lists
  | cons attributes rest ih =>
    have later := ih (lists.insert attributes)
    rw [List.append_assoc] at later
    exact later

end Store

/-! ## Reading the table -/

/-- A query for a whole table. -/
def Table.everyRow (table : Table) : TableQuery := { table, query := {} }

/-- A table that was only inserted into reads as a map in the order of insertion: one row for each
key, in the order in which the keys were first inserted, with the fields of the last insert under
that key. The fields are the last values given to their names, nulls left out, as texts, and the
numbers of the counters for key fields that were given no value. -/
theorem all_insertAll (table : Table) (isClustered isNewer : Bool)
    (history : List (List (String × Literal))) :
    let store := (Store.empty isClustered isNewer).insertAll table history
    let writes := (Store.empty isClustered isNewer).writes table history
    let keys := (writes.map (·.key table)).eraseDups
    ∃ rows : List Row, (table.everyRow.all Store.executor).Gives store (.ok rows) ∧
      List.Forall₂ (fun key row => ∃ write ∈ Write.lastUnder table key writes,
        ∀ name, row.find? name = write.text? table name) keys rows ∧
      (table.everyRow.count Store.executor).Gives store (.ok keys.length) := by
  intro store writes keys
  have lists : store.ListsWrites table writes :=
    (Store.listsWrites_empty table isClustered isNewer).insertAll history
  have listed : store.listOf (table.everyRow.spaceIn store) = keys := lists.keys
  have matching : table.everyRow.matched store = .ok (keys.map
      (store.rowOf (table.everyRow.spaceIn store))) := by
    have ordered : table.everyRow.query.singleOrder = .ok none := rfl
    have everything := TableQuery.matched_unfiltered store rfl ordered
    rw [← listed]
    exact everything
  refine ⟨_, TableQuery.all_of_matched rfl matching, ?_, ?_⟩
  · rw [Query.page_unbounded rfl rfl, List.forall₂_map_right_iff, List.forall₂_same]
    intro key member
    exact lists.rowOf (List.mem_eraseDups.1 member)
  · rw [← List.length_map (store.rowOf (table.everyRow.spaceIn store))]
    have ordered : table.everyRow.query.singleOrder = .ok none := rfl
    exact TableQuery.count_of_matched rfl ordered rfl rfl matching

end Rowscan
