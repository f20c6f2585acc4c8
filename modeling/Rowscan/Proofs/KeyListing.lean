import Rowscan.Proofs.InsertionOrder

/-!
How often a table lists a key. An insert lists its key unless the row is stored, and a removal takes
the row but leaves its key listed. So a key is listed once for each time that its row was taken, and
once more while its row is stored (`Store.Tallied`). A table lists every row exactly once as long as
no removed key is inserted again; after that its row is returned twice (`listing_of_edits`).
-/
namespace Rowscan

/-! ## Edits -/

/-- One edit of a table. A row is removed by its encoded key. -/
inductive Edit where
  | insert (attributes : List (String × Literal))
  | remove (key : String)
  deriving DecidableEq

namespace Store

/-- The store after an edit of a table. -/
def edit (table : Table) (store : Store) : Edit → Store
  | .insert attributes => (store.insert table attributes).2
  | .remove key => (store.removeRow table key).2

/-- The store after several edits of a table. -/
def editAll (table : Table) (store : Store) (edits : List Edit) : Store :=
  edits.foldl (edit table) store

/-- Whether a row is stored under an encoded key. -/
def holds (table : Table) (store : Store) (key : String) : Bool :=
  store.rows.contains ((table.keySpace store.isClustered).rowKey key)

/-- Whether an edit takes away the row that is stored under a key. -/
def takes (table : Table) (store : Store) (key : String) : Edit → Bool
  | .insert _ => false
  | .remove gone => gone = key && store.holds table key

/-- How many edits, one after the other, take away a row that is stored under a key. -/
def removals (table : Table) (store : Store) (key : String) : List Edit → Nat
  | [] => 0
  | next :: rest =>
    (store.takes table key next).toNat + (store.edit table next).removals table key rest

variable {store : Store} {table : Table}

private theorem edit_isClustered (store : Store) (next : Edit) :
    (store.edit table next).isClustered = store.isClustered := by
  cases next <;> rfl

theorem editAll_append_singleton (store : Store) (edits : List Edit) (last : Edit) :
    store.editAll table (edits ++ [last]) = (store.editAll table edits).edit table last :=
  List.foldl_append

private theorem editAll_isClustered (store : Store) (edits : List Edit) :
    (store.editAll table edits).isClustered = store.isClustered := by
  induction edits using List.reverseRecOn with
  | nil => rfl
  | append_singleton edits last ih => rw [editAll_append_singleton, edit_isClustered, ih]

private theorem removals_append_singleton (store : Store) (key : String) (edits : List Edit)
    (last : Edit) : store.removals table key (edits ++ [last]) =
      store.removals table key edits +
        ((store.editAll table edits).takes table key last).toNat := by
  induction edits generalizing store with
  | nil => exact Nat.add_comm _ _
  | cons next rest ih =>
    rw [List.cons_append, removals, ih, removals, Nat.add_assoc]
    rfl

/-! ## The tally -/

/-- A table lists a key once for each time its row was removed, and once more while its row is
stored. Every stored row is one of the table's. -/
structure Tallied (table : Table) (store : Store) (removed : String → Nat) : Prop where
  count : ∀ key, (store.listOf (table.keySpace store.isClustered)).count key =
    removed key + (store.holds table key).toNat
  placed : ∀ place, store.rows.contains place = true →
    ∃ key, place = (table.keySpace store.isClustered).rowKey key

variable {removed : String → Nat}

private theorem tallied_empty (table : Table) (isClustered isNewer : Bool) :
    Tallied table (.empty isClustered isNewer) fun _ => 0 where
  count _ := rfl
  placed := nofun

private theorem holds_insert (store : Store) (attributes : List (String × Literal)) (key : String) :
    (store.insert table attributes).2.holds table key =
      (decide (key = (store.insert table attributes).1) || store.holds table key) := by
  rw [Bool.eq_iff_iff, Bool.or_eq_true, decide_eq_true_eq]
  exact contains_insert

private theorem holds_removeRow (store : Store) (gone key : String) :
    (store.removeRow table gone).2.holds table key =
      (decide (key ≠ gone) && store.holds table key) := by
  rw [Bool.eq_iff_iff, Bool.and_eq_true, decide_eq_true_eq]
  exact contains_removeRow

/-- An insert lists its key unless the row is stored, and the row is stored then. -/
theorem Tallied.insert (tallied : Tallied table store removed)
    (attributes : List (String × Literal)) :
    Tallied table (store.insert table attributes).2 removed where
  count key := by
    have before := tallied.count key
    rw [insert_isClustered, listOf_insert, ← holds, holds_insert]
    by_cases same : key = (store.insert table attributes).1
    · subst same
      cases known : store.holds table (store.insert table attributes).1 <;>
        simp [known, List.count_append] at before ⊢ <;> omega
    · have others : [(store.insert table attributes).1].count key = 0 :=
        List.count_eq_zero.2 fun member => same (List.mem_singleton.1 member)
      have listed : (if store.holds table (store.insert table attributes).1 then
          store.listOf (table.keySpace store.isClustered)
        else store.listOf (table.keySpace store.isClustered) ++
          [(store.insert table attributes).1]).count key =
            (store.listOf (table.keySpace store.isClustered)).count key := by
        split
        · rfl
        · rw [List.count_append, others, Nat.add_zero]
      rw [listed, before, decide_eq_false same, Bool.false_or]
  placed place there := by
    rw [insert_rows, FieldMap.contains_insert, Bool.or_eq_true, decide_eq_true_eq] at there
    rcases there with rfl | before
    · exact ⟨_, rfl⟩
    · exact tallied.placed place before

/-- A removal takes the row if it is stored, and leaves the list. -/
theorem Tallied.remove (tallied : Tallied table store removed) (gone : String) :
    Tallied table (store.removeRow table gone).2 fun key =>
      removed key + (store.takes table key (.remove gone)).toNat where
  count key := by
    have before := tallied.count key
    have kept : (store.removeRow table gone).2.listOf
        (table.keySpace (store.removeRow table gone).2.isClustered) =
          store.listOf (table.keySpace store.isClustered) := rfl
    rw [kept, before, holds_removeRow, takes]
    by_cases same : key = gone
    · simp [same]
    · have apart : gone ≠ key := Ne.symm same
      simp [same, apart]
  placed place there := by
    rw [removeRow, FieldMap.contains_erase, Bool.and_eq_true] at there
    exact tallied.placed place there.2

theorem Tallied.edit (tallied : Tallied table store removed) (next : Edit) :
    Tallied table (store.edit table next) fun key =>
      removed key + (store.takes table key next).toNat := by
  cases next with
  | insert attributes => exact tallied.insert attributes
  | remove gone => exact tallied.remove gone

/-- Any edits of a table are tallied. -/
theorem Tallied.editAll (table : Table) (isClustered isNewer : Bool) (edits : List Edit) :
    Tallied table ((Store.empty isClustered isNewer).editAll table edits) fun key =>
      (Store.empty isClustered isNewer).removals table key edits := by
  induction edits using List.reverseRecOn with
  | nil => exact tallied_empty table isClustered isNewer
  | append_singleton edits last ih =>
    simp only [editAll_append_singleton, removals_append_singleton]
    exact ih.edit last

/-- The key of every stored row is listed. -/
theorem Tallied.listed (tallied : Tallied table store removed) {place : String}
    (stored : store.rows.contains place = true) :
    ∃ key ∈ store.listOf (table.keySpace store.isClustered),
      place = (table.keySpace store.isClustered).rowKey key := by
  obtain ⟨key, rfl⟩ := tallied.placed place stored
  have count := tallied.count key
  rw [holds, stored, Bool.toNat_true] at count
  exact ⟨key, List.count_pos_iff.1 (by omega), rfl⟩

/-! ## Keys listed twice -/

/-- An insert keeps the listed keys distinct exactly if its key was never removed. -/
theorem Tallied.nodup_insert (tallied : Tallied table store removed)
    (attributes : List (String × Literal)) :
    ((store.insert table attributes).2.listOf (table.keySpace store.isClustered)).Nodup ↔
      (store.listOf (table.keySpace store.isClustered)).Nodup ∧
        removed (store.insert table attributes).1 = 0 := by
  have before := tallied.count (store.insert table attributes).1
  rw [listOf_insert, ← holds]
  cases known : store.holds table (store.insert table attributes).1 with
  | true =>
    rw [known, Bool.toNat_true] at before
    rw [if_pos rfl]
    refine ⟨fun nodup => ⟨nodup, ?_⟩, And.left⟩
    have once := List.nodup_iff_count_le_one.1 nodup (store.insert table attributes).1
    omega
  | false =>
    rw [known, Bool.toNat_false, Nat.add_zero] at before
    rw [if_neg Bool.false_ne_true, ← before, List.count_eq_zero, ← List.concat_eq_append]
    exact (List.nodup_concat _ _).trans and_comm

/-- No key is inserted again after its row was removed. -/
def NoneReturns (table : Table) (store : Store) (edits : List Edit) : Prop :=
  ∀ sooner attributes later, edits = sooner ++ .insert attributes :: later →
    store.removals table ((store.editAll table sooner).insert table attributes).1 sooner = 0

private theorem noneReturns_append_singleton (store : Store) (edits : List Edit) (last : Edit) :
    store.NoneReturns table (edits ++ [last]) ↔ store.NoneReturns table edits ∧
      ∀ attributes, last = .insert attributes →
        store.removals table ((store.editAll table edits).insert table attributes).1 edits = 0 := by
  constructor
  · intro none
    refine ⟨fun sooner attributes later split => ?_, fun attributes inserted => ?_⟩
    · exact none sooner attributes (later ++ [last]) (by simp [split])
    · exact none edits attributes [] (by rw [inserted])
  · rintro ⟨none, unreturned⟩ sooner attributes later split
    rcases later.eq_nil_or_concat with rfl | ⟨others, final, rfl⟩
    · obtain ⟨rfl, ⟨⟩⟩ := List.append_singleton_inj.1 split
      exact unreturned attributes rfl
    · rw [List.concat_eq_append, ← List.cons_append, ← List.append_assoc] at split
      obtain ⟨same, -⟩ := List.append_singleton_inj.1 split
      exact none sooner attributes others same

/-- The listed keys are distinct exactly if no key is inserted again after its row was removed. -/
theorem nodup_listOf_editAll (table : Table) (isClustered isNewer : Bool) (edits : List Edit) :
    (((Store.empty isClustered isNewer).editAll table edits).listOf
      (table.keySpace isClustered)).Nodup ↔
      (Store.empty isClustered isNewer).NoneReturns table edits := by
  induction edits using List.reverseRecOn with
  | nil => exact ⟨fun _ _ _ _ split => by simp at split, fun _ => List.nodup_nil⟩
  | append_singleton edits last ih =>
    rw [editAll_append_singleton, noneReturns_append_singleton, ← ih]
    cases last with
    | remove gone => exact ⟨fun nodup => ⟨nodup, nofun⟩, And.left⟩
    | insert attributes =>
      have step := (Tallied.editAll table isClustered isNewer edits).nodup_insert attributes
      rw [editAll_isClustered] at step
      refine step.trans (and_congr_right fun _ => ?_)
      simp

end Store

/-! ## Reading the table -/

/-- A query for a whole table gives a row for every listed key. -/
theorem all_everyRow (store : Store) (table : Table) :
    (table.everyRow.all Store.executor).Gives store
      (.ok ((store.listOf (table.keySpace store.isClustered)).map
        (store.rowOf (table.keySpace store.isClustered)))) := by
  have unfiltered : table.everyRow.query.filter = none := rfl
  have ordered : table.everyRow.query.singleOrder = .ok none := rfl
  have live : table.everyRow.isEmulated = false := rfl
  have rows := TableQuery.all_of_matched live
    (TableQuery.matched_unfiltered store unfiltered ordered)
  rw [Query.page_unbounded rfl rfl] at rows
  exact rows

/-- What a table lists after any inserts and removals. Every stored row is listed, and a query for
the whole table gives the row of every listed key as often as the key is listed: once for each time
that its row was removed, and once more if its row is stored. So a stored row is returned exactly
once if and only if no row was ever removed under its key, and the listed keys are distinct exactly
if no key is inserted again after its row was removed. -/
theorem listing_of_edits (table : Table) (isClustered isNewer : Bool) (edits : List Edit) :
    let empty := Store.empty isClustered isNewer
    let store := empty.editAll table edits
    let list := store.listOf (table.keySpace isClustered)
    (table.everyRow.all Store.executor).Gives store
        (.ok (list.map (store.rowOf (table.keySpace isClustered)))) ∧
      (∀ place, store.rows.contains place = true →
        ∃ key ∈ list, place = (table.keySpace isClustered).rowKey key) ∧
      (∀ key, list.count key =
        empty.removals table key edits + (store.holds table key).toNat) ∧
      (list.Nodup ↔ empty.NoneReturns table edits) := by
  intro empty store list
  have clustered : store.isClustered = isClustered := Store.editAll_isClustered empty edits
  have tallied := Store.Tallied.editAll table isClustered isNewer edits
  have everyRow := all_everyRow store table
  have listed (place : String) (stored : store.rows.contains place = true) := tallied.listed stored
  have counts := tallied.count
  rw [clustered] at everyRow
  simp only [Store.editAll_isClustered] at listed counts
  exact ⟨everyRow, listed, counts, Store.nodup_listOf_editAll table isClustered isNewer edits⟩

/-- A row that is inserted, removed and inserted again is listed twice, and returned twice. -/
theorem listing_of_returned :
    let edits : List Edit := [.insert [("id", .int 1)], .remove "1", .insert [("id", .int 1)]]
    let store := (Store.empty false false).editAll ⟨"t", ["id"]⟩ edits
    let row : Row := .ofList [("id", "1")]
    store.listOf ⟨"t"⟩ = ["1", "1"] ∧
      ((Table.everyRow ⟨"t", ["id"]⟩).all Store.executor).Gives store (.ok [row, row]) ∧
      ¬ (Store.empty false false).NoneReturns ⟨"t", ["id"]⟩ edits := by
  intro edits store row
  obtain ⟨everyRow, -, -, distinct⟩ := listing_of_edits ⟨"t", ["id"]⟩ false false edits
  have list : store.listOf ⟨"t"⟩ = ["1", "1"] := by decide +kernel
  have rows : ["1", "1"].map (store.rowOf ⟨"t"⟩) = [row, row] := by decide +kernel
  refine ⟨list, ?_, fun none => ?_⟩
  · rw [← rows, ← list]
    exact everyRow
  · have nodup := distinct.2 none
    change (store.listOf ⟨"t"⟩).Nodup at nodup
    rw [list] at nodup
    exact absurd nodup (by decide)

end Rowscan
