import Rowscan.Proofs.StoreViews

/-!
Tables do not interfere. All tables share the lists, rows and counters of a store, under keys that
are put together from the name of the table and, for a row, its encoded key. No encoded key has a
colon in it, so the place of a row is read apart from its end, whatever colons and braces the names
have; a change to one table is then no change to what queries on another see (`alike_change`), and
neither are many (`tables_apart`).
-/
namespace Rowscan

/-! ## Changes -/

/-- One change of a store. A row is removed by the encoding of its key, which is what an insert
gives. -/
inductive Change where
  | insert (table : Table) (attributes : List (String × Literal))
  | remove (table : Table) (key : KeyValue)

/-- The table that is changed. -/
def Change.table : Change → Table
  | .insert table _ => table
  | .remove table _ => table

namespace Store

/-- The store after a change. -/
def change (store : Store) : Change → Store
  | .insert table attributes => (store.insert table attributes).2
  | .remove table key => (store.removeRow table key.encode).2

/-- The store after several changes. -/
def changeAll (store : Store) (changes : List Change) : Store := changes.foldl change store

/-- No listed key has a colon in it. -/
def Colonless (store : Store) : Prop := ∀ space, ∀ key ∈ store.listOf space, ':' ∉ key.toList

variable {store : Store}

private theorem change_isClustered (store : Store) (edit : Change) :
    (store.change edit).isClustered = store.isClustered := by
  cases edit <;> rfl

private theorem colonless_empty (isClustered isNewer : Bool) :
    (empty isClustered isNewer).Colonless :=
  fun _ _ => nofun

/-- Only encoded keys are ever listed. -/
theorem Colonless.change (colonless : store.Colonless) (edit : Change) :
    (store.change edit).Colonless := by
  cases edit with
  | remove table key => exact colonless
  | insert table attributes =>
    intro space key member
    rw [Store.change, listOf, insert_lists, FieldMap.find?_insert] at member
    split at member
    next here =>
      rw [Option.getD_some] at member
      split at member
      next known => exact colonless _ key member
      next =>
        rcases List.mem_append.1 member with before | new
        · exact colonless _ key before
        · rw [List.mem_singleton.1 new]
          exact colon_notMem_insert store table attributes
    next elsewhere => exact colonless space key member

theorem Colonless.changeAll (colonless : store.Colonless) (changes : List Change) :
    (store.changeAll changes).Colonless := by
  induction changes generalizing store with
  | nil => exact colonless
  | cons edit rest ih => exact ih (colonless.change edit)

/-! ## Other tables -/

variable {table : Table} {edit : Change}

/-- A change of one table leaves the key lists of others. -/
theorem listOf_change (elsewhere : edit.table.name ≠ table.name) :
    (store.change edit).listOf (table.keySpace store.isClustered) =
      store.listOf (table.keySpace store.isClustered) := by
  cases edit with
  | insert other attributes => exact listOf_insertOther elsewhere
  | remove other gone => rfl

/-- A change of one table leaves the rows of others. -/
theorem rowOf_change (elsewhere : edit.table.name ≠ table.name) {key : String}
    (colonless : ':' ∉ key.toList) :
    (store.change edit).rowOf (table.keySpace store.isClustered) key =
      store.rowOf (table.keySpace store.isClustered) key := by
  have same : (store.change edit).rows.find? ((table.keySpace store.isClustered).rowKey key) =
      store.rows.find? ((table.keySpace store.isClustered).rowKey key) := by
    cases edit with
    | insert other attributes => exact find?_insertOther elsewhere colonless
    | remove other gone => exact find?_removeOther elsewhere colonless gone
  rw [rowOf, same, rowOf]

/-- A change of one table is none to queries on others. -/
theorem alike_change (colonless : store.Colonless) (elsewhere : edit.table.name ≠ table.name) :
    Alike (table.keySpace store.isClustered) store (store.change edit) where
  list := (listOf_change elsewhere).symm
  listed key member := (rowOf_change elsewhere (colonless _ key member)).symm
  encoded key := (rowOf_change elsewhere (colon_notMem_encode key)).symm

private theorem alike_changeAll (colonless : store.Colonless) {changes : List Change}
    (elsewhere : ∀ edit ∈ changes, edit.table.name ≠ table.name) :
    Alike (table.keySpace store.isClustered) store (store.changeAll changes) ∧
      (store.changeAll changes).isClustered = store.isClustered := by
  induction changes generalizing store with
  | nil => exact ⟨.refl store, rfl⟩
  | cons edit rest ih =>
    have first := alike_change colonless (elsewhere edit List.mem_cons_self)
    obtain ⟨later, clustered⟩ := ih (colonless.change edit)
      fun other member => elsewhere other (List.mem_cons_of_mem _ member)
    rw [change_isClustered] at later clustered
    exact ⟨first.trans later, clustered⟩

end Store

/-- Tables do not interfere. Whatever was written before, changes of other tables leave the outcome
of every operation of every query on a table; for no encoded key has a colon in it, and the place
of a row tells the name of its table and its encoded key. -/
theorem tables_apart (isClustered isNewer : Bool) (history changes : List Change)
    (request : TableQuery) (operation : TableQuery.Operation)
    (elsewhere : ∀ edit ∈ changes, edit.table.name ≠ request.table.name) :
    let before := (Store.empty isClustered isNewer).changeAll history
    (request.perform Store.executor operation).SameFrom before (before.changeAll changes) ∧
      (∀ key : KeyValue, ':' ∉ key.encode.toList) ∧
      ∀ (name other : String) (first second : KeyValue),
        (KeySpace.ofTable name isClustered).rowKey first.encode =
            (KeySpace.ofTable other isClustered).rowKey second.encode ↔
          name = other ∧ first.encode = second.encode := by
  intro before
  have colonless : before.Colonless :=
    (Store.colonless_empty isClustered isNewer).changeAll history
  obtain ⟨alike, clustered⟩ := Store.alike_changeAll colonless elsewhere
  refine ⟨request.sameFrom_perform clustered.symm alike operation, colon_notMem_encode,
    fun name other first second => ?_⟩
  have spaces : (Table.mk name []).keySpace isClustered = (Table.mk other []).keySpace isClustered ↔
      name = other := Table.keySpace_inj
  rw [KeySpace.rowKey_inj (colon_notMem_encode first) (colon_notMem_encode second)]
  exact and_congr_left' spaces

/-- Names with colons and braces, of which one extends another: a row comes and another goes, and
those of the table in question are counted as before. -/
theorem tables_apart_nested :
    let history : List Change :=
      [.insert ⟨"t", ["id"]⟩ [("id", .int 1)], .insert ⟨"t:k", ["id"]⟩ [("id", .int 1)]]
    let changes : List Change :=
      [.insert ⟨"{t}", ["id"]⟩ [("id", .int 1)], .remove ⟨"t:k", ["id"]⟩ (.scalar (.int 1))]
    let before := (Store.empty true false).changeAll history
    (∀ edit ∈ changes, edit.table.name ≠ "t") ∧ before.changeAll changes ≠ before ∧
      (TableQuery.perform { table := ⟨"t", ["id"]⟩, query := {} } Store.executor .count).SameFrom
        before (before.changeAll changes) := by
  intro history changes before
  have elsewhere : ∀ edit ∈ changes, edit.table.name ≠ "t" := by decide
  refine ⟨elsewhere, by decide +kernel, ?_⟩
  exact (tables_apart true false history changes { table := ⟨"t", ["id"]⟩, query := {} } .count
    elsewhere).1

end Rowscan
