import Rowscan.Proofs.CommandTraces
import Rowscan.Proofs.KeyIdentity

/-!
What is inserted can be looked up. A key field holds the value that it was given, or the number of
its counter (`Write.keyValue`), and the filter that names all of them asks for the key that the
insert gave. So one read finds the row that was inserted, and the rows under all other keys of the
table are what they were (`one_insert`).
-/
namespace Rowscan

/-! ## Key fields -/

namespace Write

/-- The value that a key field gets. -/
def keyValue (table : Table) (write : Write) (field : String) : Literal :=
  (write.value? table field).getD .null

/-- No key field is given a raw value. -/
def KeyIsPlain (table : Table) (write : Write) : Prop :=
  ∀ field ∈ table.primaryKey, ∀ value ∈ write.given? field, value.isRaw = false

instance (table : Table) (write : Write) : Decidable (write.KeyIsPlain table) :=
  inferInstanceAs (Decidable (∀ field ∈ table.primaryKey, ∀ value ∈ write.given? field,
    value.isRaw = false))

variable {table : Table} {write : Write} {field : String}

private theorem value?_eq_keyValue (member : field ∈ table.primaryKey) :
    write.value? table field = some (write.keyValue table field) := by
  obtain ⟨value, filled⟩ := write.value?_of_mem member
  rw [keyValue, filled, Option.getD_some]

private theorem isKeyValue_keyValue (plain : write.KeyIsPlain table)
    (member : field ∈ table.primaryKey) :
    (write.keyValue table field).isKeyValue = true := by
  rw [keyValue, value?, if_pos member]
  cases found : write.given? field with
  | none => rfl
  | some value =>
    have given : value.isNull = false := by
      simpa using (Option.filter_eq_some_iff.1 found).2
    change value.isKeyValue = true
    rw [Literal.isKeyValue, given, plain field member value found]
    rfl

end Write

/-! ## Reading one row -/

section OneRow

variable {store : Store} {space : KeySpace} {key : String} {row : Row}

/-- A row that is stored is read by one command. -/
theorem Lookup.fetch_stored (stored : store.rows.find? (space.rowKey key) = some row) :
    Run.Issues Store.executor (fetch Store.executor space key)
      (fetch Store.executor.logged space key) store (.ok row) store
      [⟨.hgetall (space.rowKey key), .ok (store.hashReply (space.rowKey key))⟩] := by
  have read : Row.ofReply (store.hashReply (space.rowKey key)) = .ok row := by
    rw [Row.ofReply_hashReply, stored, Option.getD_some]
  have sent := Run.issues_send Store.executor (.hgetall (space.rowKey key)) store
  rw [← read]
  exact sent.thenOf Row.ofReply

/-- A window without bounds that takes in one row is filled by the first row that is stored. -/
theorem Lookup.fetchWindow_stored (stored : store.rows.find? (space.rowKey key) = some row)
    (filled : row.isEmpty = false) (rest : List String) :
    Run.Issues Store.executor (fetchWindow Store.executor space ⟨0, none⟩ true 0 (key :: rest))
      (fetchWindow Store.executor.logged space ⟨0, none⟩ true 0 (key :: rest)) store
      (.ok [row]) store
      [⟨.hgetall (space.rowKey key), .ok (store.hashReply (space.rowKey key))⟩] := by
  refine (fetch_stored stored).bind ?_
  simp only [filled]
  exact Run.issues_pure Store.executor [row] store

/-- A row under the key of its key fields is found by one read. -/
theorem TableQuery.one_byFields {table : Table} {fields : List String} {sought : String → Literal}
    (keyed : table.primaryKey ≠ []) (same : fields.Perm table.primaryKey)
    (values : ∀ field ∈ table.primaryKey, (sought field).isKeyValue = true)
    (stored : store.rows.find? ((table.keySpace store.isClustered).rowKey
      (keyOver table.primaryKey sought).encode) = some row) (filled : row.isEmpty = false) :
    ∃ exchange : Exchange,
      Run.Issues Store.executor ((byFields table fields sought).one Store.executor)
        ((byFields table fields sought).one Store.executor.logged) store (.ok (some row)) store
        [exchange] ∧
      exchange.command = .hgetall ((table.keySpace store.isClustered).rowKey
        (keyOver table.primaryKey sought).encode) := by
  obtain ⟨key, found, encoded⟩ := candidates_byFields keyed same values
  rw [← encoded] at stored ⊢
  have inSpace := keySpace_issues Store.executor (byFields table fields sought) store
  have read := (Lookup.fetchWindow_stored stored filled []).thenOf Query.Kind.one.answerOf
  have unordered : (byFields table fields sought).query.singleOrder = .ok none := rfl
  exact ⟨_, inSpace.bind (.afterOk found (.afterOk unordered read)), rfl⟩

end OneRow

/-! ## The row that was inserted -/

namespace Store

variable (store : Store) (table : Table) (attributes : List (String × Literal))

/-- An insert puts the row of its write under its key. -/
theorem find?_insert_same :
    (store.insert table attributes).2.rows.find? ((table.keySpace store.isClustered).rowKey
      (store.insert table attributes).1) = some (storedRow (store.settledOf table attributes)) := by
  rw [insert_rows, FieldMap.find?_insert, if_pos rfl]

/-- An insert leaves the rows under other keys alone. -/
theorem find?_insert_other {key : String} (other : key ≠ (store.insert table attributes).1) :
    (store.insert table attributes).2.rows.find? ((table.keySpace store.isClustered).rowKey key) =
      store.rows.find? ((table.keySpace store.isClustered).rowKey key) := by
  rw [insert_rows, FieldMap.find?_insert, if_neg fun same => other (KeySpace.rowKey_inj_same.1 same)]

/-- The row of a write has its key fields. -/
theorem isEmpty_storedRow (keyed : table.primaryKey ≠ []) :
    (storedRow (store.settledOf table attributes)).isEmpty = false := by
  obtain ⟨field, rest, parts⟩ := List.exists_cons_of_ne_nil keyed
  have member : field ∈ table.primaryKey := parts ▸ List.mem_cons_self
  have shown := store.find?_storedRow_settledOf table attributes field
  rw [Write.text?, Write.value?_eq_keyValue member, Option.map_some] at shown
  exact FieldMap.isEmpty_eq_false_of_find? shown

end Store

/-- After an insert the filter by all key fields, with the values that were given and the numbers
that were filled in, finds the row by one read: it shows what the insert wrote under each name, and
the rows under the other keys of the table are what they were. -/
theorem one_insert (store : Store) {table : Table} (keyed : table.primaryKey ≠ [])
    (attributes : List (String × Literal))
    (plain : (store.writeOf table attributes).KeyIsPlain table) {fields : List String}
    (same : fields.Perm table.primaryKey) :
    let write := store.writeOf table attributes
    let inserted := store.insert table attributes
    let space := table.keySpace store.isClustered
    let request := TableQuery.byFields table fields (write.keyValue table)
    ∃ row exchange,
      Run.Issues Store.executor (request.one Store.executor) (request.one Store.executor.logged)
        inserted.2 (.ok (some row)) inserted.2 [exchange] ∧
      exchange.command = .hgetall (space.rowKey inserted.1) ∧
      (∀ name, row.find? name = write.text? table name) ∧
      ∀ key ≠ inserted.1,
        inserted.2.rows.find? (space.rowKey key) = store.rows.find? (space.rowKey key) := by
  intro write inserted space request
  have encoded : inserted.1 = (keyOver table.primaryKey (write.keyValue table)).encode :=
    store.insert_key_eq table attributes
  have stored := store.find?_insert_same table attributes
  rw [encoded, ← store.insert_isClustered table attributes] at stored
  obtain ⟨exchange, issued, asks⟩ := TableQuery.one_byFields keyed same
    (fun field member => Write.isKeyValue_keyValue plain member) stored
    (store.isEmpty_storedRow table attributes keyed)
  refine ⟨_, exchange, issued, ?_, store.find?_storedRow_settledOf table attributes, ?_⟩
  · rw [asks, encoded, store.insert_isClustered table attributes]
  · exact fun key other => store.find?_insert_other table attributes other

/-- Orders, numbered within each shop. -/
def orders : Table := { name := "orders", primaryKey := ["shop", "number"] }

/-- An order with a note that was given twice, without a number and without a date. -/
def newOrder : List (String × Literal) :=
  [("shop", .string "corner's"), ("note", .string "soon"), ("number", .null), ("date", .null),
    ("note", .string "today")]

/-- The first order of a shop is found by the shop and the number one. -/
theorem one_insert_numbered :
    let write := (Store.empty false false).writeOf orders newOrder
    let inserted := (Store.empty false false).insert orders newOrder
    let request := TableQuery.byFields orders ["number", "shop"] (write.keyValue orders)
    request.query.filter = some (.hash
      [("number", .value (.int 1)), ("shop", .value (.string "corner's"))]) ∧
    ∃ row exchange,
      Run.Issues Store.executor (request.one Store.executor) (request.one Store.executor.logged)
        inserted.2 (.ok (some row)) inserted.2 [exchange] ∧
      exchange.command = .hgetall ((orders.keySpace false).rowKey inserted.1) ∧
      row.find? "shop" = some "corner's" ∧ row.find? "number" = some "1" ∧
      row.find? "note" = some "today" ∧ row.find? "date" = none := by
  intro write inserted request
  have plain : write.KeyIsPlain orders := by decide +kernel
  have same : ["number", "shop"].Perm orders.primaryKey := by decide
  have number : write.keyValue orders "number" = .int 1 := by decide +kernel
  have shop : write.keyValue orders "shop" = .string "corner's" := by decide +kernel
  obtain ⟨row, exchange, issued, asks, shows, -⟩ :=
    one_insert (.empty false false) (by decide) newOrder plain same
  refine ⟨?_, row, exchange, issued, asks, ?_, ?_, ?_, ?_⟩
  · change some (Filter.hash [("number", .value (write.keyValue orders "number")),
      ("shop", .value (write.keyValue orders "shop"))]) = _
    rw [number, shop]
  all_goals
    rw [shows]
    decide +kernel

end Rowscan
