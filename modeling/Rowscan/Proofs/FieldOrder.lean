import Rowscan.Proofs.InsertedRows
import Rowscan.Proofs.KeyListing

/-!
The order of fields does not matter. Attributes and key fields are settled one after the other, but
each key field reads and writes only its own value and its own counter (`Store.slot`), so that the
fields may be settled in any order (`Store.insert_perm`). A condition on a composite key gives the
same key in any order of its entries (`Lookup.candidates_perm`). Two histories or two lookups that
differ in the order of fields alone cannot be told apart (`fieldOrder_immaterial`).
-/
namespace Rowscan

/-! ## Inserts -/

namespace Store

section Settling

variable {space : KeySpace} {state first second : FieldMap Literal × FieldMap Int64}
variable {field other : String}

/-- What settling a key field reads and writes: its value and its counter. -/
def slot (space : KeySpace) (state : FieldMap Literal × FieldMap Int64) (field : String) :
    Option Literal × Option Int64 :=
  (state.1.find? field, state.2.find? (space.counterKey field))

/-- Settling a field leaves the values of other fields alone. -/
theorem find?_settleKeyField_other (apart : other ≠ field) :
    (settleKeyField space state field).1.find? other = state.1.find? other := by
  rw [settleKeyField]
  split
  · rw [FieldMap.find?_insert, if_neg apart]
  · rfl

/-- Settling a field leaves what is no counter of its own alone. -/
theorem find?_settleKeyField_elsewhere {place : String} (apart : place ≠ space.counterKey field) :
    (settleKeyField space state field).2.find? place = state.2.find? place := by
  rw [settleKeyField]
  split
  · rw [FieldMap.find?_insert, if_neg apart]
  · exact find?_pushCounter apart _

private theorem slot_settleKeyField_other (apart : other ≠ field) :
    slot space (settleKeyField space state field) other = slot space state other := by
  rw [slot, find?_settleKeyField_other apart, find?_settleKeyField_counters apart, slot]

/-- What becomes of a field depends on its value and its counter alone. -/
theorem slot_settleKeyField_congr (same : slot space first field = slot space second field) :
    slot space (settleKeyField space first field) field =
      slot space (settleKeyField space second field) field := by
  obtain ⟨attributes, counters⟩ := first
  obtain ⟨others, tallies⟩ := second
  obtain ⟨values, numbers⟩ := Prod.mk.inj same
  dsimp only at values numbers
  simp only [slot, settleKeyField, values, numbers]
  split
  · simp only [FieldMap.find?_insert, if_true]
  · unfold pushCounter
    simp only [numbers]
    split
    · rw [numbers, values]
    · split
      · simp only [FieldMap.find?_insert, if_true, values]
      · rw [numbers, values]

/-- States are equal that agree on all values and counters. -/
theorem state_ext (values : ∀ name, first.1.find? name = second.1.find? name)
    (counters : ∀ place, first.2.find? place = second.2.find? place) : first = second :=
  Prod.ext (FieldMap.ext_find? values) (FieldMap.ext_find? counters)

/-- Two fields may be settled in either order. -/
theorem settleKeyField_comm (space : KeySpace) (state : FieldMap Literal × FieldMap Int64)
    (field other : String) :
    settleKeyField space (settleKeyField space state field) other =
      settleKeyField space (settleKeyField space state other) field := by
  by_cases apart : field = other
  · rw [apart]
  -- Each of the two ends up as it would if it were settled alone.
  have own (first second : String) (differ : first ≠ second) :
      slot space (settleKeyField space (settleKeyField space state first) second) first =
        slot space (settleKeyField space (settleKeyField space state second) first) first :=
    (slot_settleKeyField_other differ).trans
      (slot_settleKeyField_congr (slot_settleKeyField_other differ).symm)
  obtain ⟨fieldValue, fieldCounter⟩ := Prod.mk.inj (own field other apart)
  obtain ⟨otherValue, otherCounter⟩ := Prod.mk.inj (own other field (Ne.symm apart))
  refine state_ext (fun name => ?_) fun place => ?_
  · by_cases isField : name = field
    · rw [isField, fieldValue]
    by_cases isOther : name = other
    · rw [isOther, otherValue]
    simp only [find?_settleKeyField_other isField, find?_settleKeyField_other isOther]
  · by_cases isField : place = space.counterKey field
    · rw [isField, fieldCounter]
    by_cases isOther : place = space.counterKey other
    · rw [isOther, otherCounter]
    simp only [find?_settleKeyField_elsewhere isField, find?_settleKeyField_elsewhere isOther]

private theorem settle_perm {fields others : List String} (same : others.Perm fields)
    (state : FieldMap Literal × FieldMap Int64) :
    others.foldl (settleKeyField space) state = fields.foldl (settleKeyField space) state :=
  have commutes (first : String) (_ : first ∈ others) (second : String) (_ : second ∈ others)
      (middle : FieldMap Literal × FieldMap Int64) :=
    settleKeyField_comm space middle first second
  same.foldl_eq' commutes state

end Settling

variable {table declared : Table} {attributes given : List (String × Literal)}

/-- The key fields of a row may be read in any order. -/
theorem keyOf_perm (keyed : declared.primaryKey.Perm table.primaryKey)
    (settled : FieldMap Literal) : keyOf declared settled = keyOf table settled :=
  congrArg KeyValue.composite
    (FieldMap.ofList_map_perm keyed fun field => (settled.find? field).getD .null)

private theorem keySpace_of_name (named : declared.name = table.name) (clustered : Bool) :
    declared.keySpace clustered = table.keySpace clustered :=
  congrArg (KeySpace.ofTable · clustered) named

/-- An insert gives the same key and leaves the same store whatever the order of the attributes
and of the key fields. -/
theorem insert_perm (store : Store) (named : declared.name = table.name)
    (keyed : declared.primaryKey.Perm table.primaryKey) (distinct : (attributes.map (·.1)).Nodup)
    (permuted : given.Perm attributes) :
    store.insert declared given = store.insert table attributes := by
  simp only [insert, FieldMap.ofList_perm distinct permuted, settle_perm keyed, keyOf_perm keyed,
    keySpace_of_name named]

private theorem removeRow_of_name (store : Store) (named : declared.name = table.name)
    (key : String) :
    store.removeRow declared key = store.removeRow table key := by
  simp only [removeRow, keySpace_of_name named]

end Store

/-- Edits that differ in the order of attributes alone. -/
inductive Edit.Alike : Edit → Edit → Prop
  | insert {given attributes : List (String × Literal)}
      (distinct : (attributes.map (·.1)).Nodup) (permuted : given.Perm attributes) :
      Alike (.insert given) (.insert attributes)
  | remove (key : String) : Alike (.remove key) (.remove key)

namespace Store

variable {table declared : Table}

private theorem edit_alike (store : Store) (named : declared.name = table.name)
    (keyed : declared.primaryKey.Perm table.primaryKey) {other next : Edit}
    (alike : other.Alike next) : store.edit declared other = store.edit table next := by
  cases alike with
  | insert distinct permuted =>
    exact congrArg Prod.snd (store.insert_perm named keyed distinct permuted)
  | remove key => exact congrArg Prod.snd (store.removeRow_of_name named key)

/-- Histories that differ in the order of fields alone leave the same store. -/
theorem editAll_alike (store : Store) (named : declared.name = table.name)
    (keyed : declared.primaryKey.Perm table.primaryKey) {others edits : List Edit}
    (alike : List.Forall₂ Edit.Alike others edits) :
    store.editAll declared others = store.editAll table edits := by
  simp only [editAll]
  induction alike generalizing store with
  | nil => rw [List.foldl_nil, List.foldl_nil]
  | cons first _ ih =>
    rw [List.foldl_cons, List.foldl_cons, store.edit_alike named keyed first]
    exact ih _

end Store

/-! ## Lookups -/

namespace Lookup

variable {table declared : Table} {entries others : List (String × HashValue)}

/-- The values for the fields of a composite key, if no list is among them, are the entries. -/
theorem entries_of_compositeFields {pairs : List (String × Literal)}
    (fields : compositeFields entries = .ok pairs) :
    entries = pairs.map fun pair => (pair.1, .value pair.2) := by
  induction entries generalizing pairs with
  | nil =>
    cases fields
    rfl
  | cons entry rest ih =>
    obtain ⟨column, value⟩ := entry
    cases value with
    | list items => cases fields
    | value literal =>
      obtain ⟨later, others, rfl⟩ := of_map_ok fields
      rw [ih others, List.map_cons]

/-- A condition on a composite key gives the same values in any order, or is refused alike. -/
theorem compositeFields_perm (permuted : others.Perm entries) :
    (∃ failure, compositeFields others = .error failure ∧
      compositeFields entries = .error failure) ∨
    ∃ given pairs, compositeFields others = .ok given ∧ compositeFields entries = .ok pairs ∧
      given.Perm pairs := by
  have refusedAlike (failure : Failure) : compositeFields others = .error failure ↔
      compositeFields entries = .error failure := by
    simp only [TableQuery.compositeFields_error, permuted.mem_iff]
  cases fields : compositeFields entries with
  | error failure => exact .inl ⟨failure, (refusedAlike failure).2 fields, rfl⟩
  | ok pairs =>
    cases otherFields : compositeFields others with
    | error failure => cases fields.symm.trans ((refusedAlike failure).1 otherFields)
    | ok given =>
      have asEntries : Function.Injective
          fun pair : String × Literal => (pair.1, HashValue.value pair.2) := by
        rintro ⟨column, literal⟩ ⟨other, value⟩ same
        cases same
        rfl
      rw [entries_of_compositeFields fields, entries_of_compositeFields otherFields] at permuted
      exact .inr ⟨given, pairs, rfl, rfl, (List.map_perm_map_iff asEntries).1 permuted⟩

/-- Only one entry names a key of one field. -/
theorem keysOf_scalar (single : table.hasCompositeKey = false) (several : entries.length ≠ 1) :
    keysOf (.hash entries) table = .ok none := by
  rcases entries with _ | ⟨first, _ | ⟨second, more⟩⟩
  · simp [keysOf, single]
  · exact absurd rfl several
  · simp [keysOf, single]

private theorem keysOf_perm (keyed : declared.primaryKey.Perm table.primaryKey)
    (distinct : (entries.map (·.1)).Nodup) (permuted : others.Perm entries) :
    keysOf (.hash others) declared = keysOf (.hash entries) table := by
  have composite : declared.hasCompositeKey = table.hasCompositeKey := by
    rw [Table.hasCompositeKey, Table.hasCompositeKey, keyed.length_eq]
  cases fields : table.hasCompositeKey with
  | true =>
    rw [fields] at composite
    simp only [keysOf, composite, fields, if_true]
    obtain ⟨failure, refused, refusedToo⟩ | ⟨given, pairs, values, same, alike⟩ :=
      compositeFields_perm permuted
    · rw [refused, refusedToo]
    · have names : (pairs.map (·.1)).Nodup := by
        rw [entries_of_compositeFields same, List.map_map] at distinct
        exact distinct
      rw [values, same, Except.map, Except.map, FieldMap.ofList_perm names alike]
  | false =>
    rw [fields] at composite
    by_cases one : entries.length = 1
    · obtain ⟨entry, rfl⟩ := List.length_eq_one_iff.1 one
      obtain rfl := List.perm_singleton.1 permuted
      simp only [keysOf, composite, fields]
    · rw [keysOf_scalar fields one, keysOf_scalar composite (permuted.length_eq ▸ one)]

/-- A hash condition asks for the same keys whatever the order of its entries and of the key
fields. -/
theorem candidates_perm (keyed : declared.primaryKey.Perm table.primaryKey)
    (distinct : (entries.map (·.1)).Nodup) (permuted : others.Perm entries) :
    candidates (.hash others) declared = candidates (.hash entries) table := by
  have eligible : isEligible (.hash others) declared = isEligible (.hash entries) table := by
    have columns := permuted.map (·.1)
    have some : others.map (·.1) ≠ [] ↔ entries.map (·.1) ≠ [] := by
      rw [ne_eq, ne_eq, ← List.length_eq_zero_iff, ← List.length_eq_zero_iff, columns.length_eq]
    rw [isEligible, isEligible, Bool.eq_iff_iff, TableQuery.isPrimaryKey_iff,
      TableQuery.isPrimaryKey_iff, some]
    simp only [columns.mem_iff, keyed.mem_iff]
  rw [candidates, candidates, eligible, keysOf_perm keyed distinct permuted]
  rfl

end Lookup

namespace TableQuery

/-- A query for the rows that meet a hash condition. -/
def byHash (table : Table) (query : Query) (entries : List (String × HashValue)) : TableQuery :=
  { table, query := { query with filter := some (.hash entries) } }

/-- Requests that look up the same keys of one table in the same order and window are answered by
the same computation. -/
theorem answer_congr {σ : Type} {request other : TableQuery} (executor : Executor σ)
    (kind : Query.Kind) (named : other.table.name = request.table.name)
    (keys : other.keys? = request.keys?) (orders : other.query.order = request.query.order)
    (windows : other.query.window = request.query.window) (looked : request.keys? ≠ .ok none) :
    other.answer executor kind = request.answer executor kind := by
  have inSpace : other.keySpace executor = request.keySpace executor := by
    simp only [keySpace, Store.keySpace_of_name named]
  rw [answer, answer, inSpace, keys]
  refine bind_congr fun space => ?_
  cases found : request.keys? with
  | error failure => rfl
  | ok keys =>
    cases keys with
    | none => exact absurd found looked
    | some keys =>
      have lookups : Lookup.run executor space other.query kind keys =
          Lookup.run executor space request.query kind keys := by
        simp only [Lookup.run, Query.singleOrder, orders, windows]
      exact lookups

end TableQuery

/-- The order of fields does not matter, in three ways, whichever way the key fields of a table are
declared. An insert of the same attributes in any order gives the same key and leaves the same
store, its lists, rows and counters; so do the inserts and removals of a whole history, one after
the other; and a hash condition with its entries in any order asks for the same keys, so that a
lookup by it issues the same commands over every executor and ends with the same outcome. -/
theorem fieldOrder_immaterial {table declared : Table} (named : declared.name = table.name)
    (keyed : declared.primaryKey.Perm table.primaryKey) :
    (∀ (store : Store) (attributes given : List (String × Literal)),
      (attributes.map (·.1)).Nodup → given.Perm attributes →
        store.insert declared given = store.insert table attributes) ∧
    (∀ (store : Store) (edits others : List Edit), List.Forall₂ Edit.Alike others edits →
      store.editAll declared others = store.editAll table edits) ∧
    ∀ (entries others : List (String × HashValue)), (entries.map (·.1)).Nodup →
      others.Perm entries → ∀ query : Query,
        let request := TableQuery.byHash table query entries
        let other := TableQuery.byHash declared query others
        other.keys? = request.keys? ∧
          (request.keys? ≠ .ok none → ∀ (σ : Type) (executor : Executor σ) (kind : Query.Kind)
            (state : σ), ∃ outcome after exchanges,
              Run.Issues executor (request.answer executor kind)
                (request.answer executor.logged kind) state outcome after exchanges ∧
              Run.Issues executor (other.answer executor kind)
                (other.answer executor.logged kind) state outcome after exchanges) := by
  refine ⟨fun store attributes given distinct permuted => ?_,
    fun store edits others alike => store.editAll_alike named keyed alike, ?_⟩
  · exact store.insert_perm named keyed distinct permuted
  · intro entries others distinct permuted query request other
    have keys : other.keys? = request.keys? := Lookup.candidates_perm keyed distinct permuted
    refine ⟨keys, fun looked σ executor kind state => ?_⟩
    obtain ⟨outcome, after, exchanges, issued, -⟩ :=
      TableQuery.answer_issues executor request kind state
    refine ⟨outcome, after, exchanges, issued, ?_⟩
    rw [TableQuery.answer_congr executor kind named keys rfl rfl looked,
      TableQuery.answer_congr executor.logged kind named keys rfl rfl looked]
    exact issued

/-- The numbers of the orders of each shop, with the fields of the key turned around. -/
def ordersTurned : Table := { name := "orders", primaryKey := ["number", "shop"] }

/-- Two orders of one shop, the first of them with a number, and the second order looked up. -/
theorem fieldOrder_immaterial_turned :
    let first : Edit := .insert [("shop", .string "corner's"), ("number", .int 7)]
    let firstTurned : Edit := .insert [("number", .int 7), ("shop", .string "corner's")]
    let second : Edit :=
      .insert [("number", .null), ("note", .string "today"), ("shop", .string "corner's")]
    let secondTurned : Edit :=
      .insert [("shop", .string "corner's"), ("number", .null), ("note", .string "today")]
    let request := TableQuery.byHash orders {}
      [("shop", .value (.string "corner's")), ("number", .value (.int 8))]
    let turned := TableQuery.byHash ordersTurned {}
      [("number", .value (.int 8)), ("shop", .value (.string "corner's"))]
    let store := (Store.empty false false).editAll orders [first, second]
    (Store.empty false false).editAll ordersTurned [firstTurned, secondTurned] = store ∧
      turned.keys? = request.keys? ∧
      ∃ outcome after exchanges,
        Run.Issues Store.executor (request.answer Store.executor .one)
          (request.answer Store.executor.logged .one) store outcome after exchanges ∧
        Run.Issues Store.executor (turned.answer Store.executor .one)
          (turned.answer Store.executor.logged .one) store outcome after exchanges := by
  intro first firstTurned second secondTurned request turned store
  have named : ordersTurned.name = orders.name := rfl
  have keyed : ordersTurned.primaryKey.Perm orders.primaryKey := by decide
  obtain ⟨-, histories, lookups⟩ := fieldOrder_immaterial named keyed
  have alike : List.Forall₂ Edit.Alike [firstTurned, secondTurned] [first, second] :=
    .cons (.insert (by decide) (by decide)) (.cons (.insert (by decide) (by decide)) .nil)
  obtain ⟨keys, issued⟩ := lookups
    [("shop", .value (.string "corner's")), ("number", .value (.int 8))]
    [("number", .value (.int 8)), ("shop", .value (.string "corner's"))]
    (by decide) (by decide) {}
  have looked : request.keys? ≠ .ok none := by decide +kernel
  exact ⟨histories (.empty false false) [first, second] [firstTurned, secondTurned] alike, keys,
    issued looked Store Store.executor .one store⟩

end Rowscan
