import Rowscan.Proofs.KeyListing
import Rowscan.Proofs.StoreViews

/-!
Whether a row matches is told by the first matching row. A listed key need not have a row; a scan
sees one without fields there, and if its condition holds of that, the first match is no row at
all. A query for one row then answers with none, and the question whether a row matches with no,
whatever matches later (`hasMatch_iff`). A lookup passes over missing rows, and on a table from
which no row was removed the answer is right (`hasMatch_of_unremoved`).
-/
namespace Rowscan

/-- The first of the rows is missing, and a later one is not. -/
def Row.Overlooked (rows : List Row) : Prop :=
  ∃ first rest, rows = first :: rest ∧ first.isEmpty = true ∧ ∃ row ∈ rest, row.isEmpty = false

/-- The first of the rows tells whether there is one with fields, unless that is overlooked. -/
theorem Row.any_head?_iff (rows : List Row) :
    (rows.head?.any (!·.isEmpty) = true ↔ ∃ row ∈ rows, row.isEmpty = false) ↔
      ¬ Row.Overlooked rows := by
  cases rows with
  | nil => simp [Overlooked]
  | cons first rest => cases filled : first.isEmpty <;> simp [Overlooked, filled]

namespace TableQuery

variable {request : TableQuery} {store : Store} {rows : List Row}

section Answered

variable (unskipped : request.query.offset = none) (unlimited : request.query.limit = none)
variable (answered : (request.all Store.executor).Gives store (.ok rows))
include unskipped unlimited answered

/-- Without a window, the rows that are answered are those that match, and none if the query is
emulated. -/
theorem matched_of_all : request.isEmulated = true ∧ rows = [] ∨
    request.isEmulated = false ∧ request.matched store = .ok rows := by
  cases emulated : request.isEmulated with
  | true =>
    have none := (all_of_emulated emulated).unique answered
    exact .inl ⟨rfl, (Except.ok.inj none).symm⟩
  | false =>
    refine .inr ⟨rfl, ?_⟩
    cases matching : request.matched store with
    | error failure => cases (all_of_unmatched emulated matching).unique answered
    | ok found =>
      have whole := (all_of_matched emulated matching).unique answered
      rw [Query.page_unbounded unskipped unlimited] at whole
      exact whole

/-- One row is the first that is answered, unless that is missing. -/
theorem one_of_all :
    (request.one Store.executor).Gives store (.ok (rows.head?.filter (!·.isEmpty))) := by
  obtain ⟨emulated, rfl⟩ | ⟨live, matching⟩ := matched_of_all unskipped unlimited answered
  · exact answerOr_of_emulated emulated .one none
  · have first := one_of_matched live matching
    rw [Query.page_unbounded unskipped unlimited] at first
    exact first

/-- There is a match if the first row that is answered is not missing. -/
theorem hasMatch_of_all :
    (request.hasMatch Store.executor).Gives store (.ok (rows.head?.any (!·.isEmpty))) := by
  have first := one_of_all unskipped unlimited answered
  rw [← Option.isSome_filter]
  exact first.bind (Run.gives_pure _)

/-- A missing row is answered only by a scan, under a listed key. -/
theorem unstored_of_all {row : Row} (member : row ∈ rows) (missing : row.isEmpty = true) :
    request.keys? = .ok none ∧ ∃ key ∈ store.listOf (request.spaceIn store),
      store.rowOf (request.spaceIn store) key = row := by
  obtain ⟨-, rfl⟩ | ⟨-, matching⟩ := matched_of_all unskipped unlimited answered
  · cases member
  · obtain ⟨keys, -, found⟩ | ⟨unnamed, scanned⟩ := found_or_scanned matching
    · cases (filled_of_found found row member).symm.trans missing
    · obtain ⟨program, built, rest⟩ := of_bind_ok scanned
      obtain ⟨keys, kept, same⟩ := of_bind_ok rest
      obtain ⟨isMatch, -, rfl⟩ := Verdict.filter_of_keep kept
      cases same
      obtain ⟨key, visited, rfl⟩ := List.mem_map.1 member
      have listed := (store.perm_candidates program).mem_iff.1 (List.mem_filter.1 visited).1
      rw [(ScanProgram.of_ofQuery built).1] at listed ⊢
      exact ⟨unnamed, key, listed, rfl⟩

end Answered

/-- What a query tells of a match, against all that matches. Without a window, one row is the first
of all unless that is missing, and whether there is a match is whether there is that row. So the
answer is right, that some row matches if and only if one of all has fields, exactly if no match is
overlooked behind a missing row; and a match is only overlooked by a scan of a list with a key whose
row is missing. -/
theorem hasMatch_iff (unskipped : request.query.offset = none)
    (unlimited : request.query.limit = none)
    (answered : (request.all Store.executor).Gives store (.ok rows)) :
    ∃ found first, (request.hasMatch Store.executor).Gives store (.ok found) ∧
      (request.one Store.executor).Gives store (.ok first) ∧
      found = first.isSome ∧ first = rows.head?.filter (!·.isEmpty) ∧
      ((found = true ↔ ∃ row ∈ rows, row.isEmpty = false) ↔ ¬ Row.Overlooked rows) ∧
      (Row.Overlooked rows → request.keys? = .ok none ∧
        ∃ key ∈ store.listOf (request.spaceIn store),
          (store.rowOf (request.spaceIn store) key).isEmpty = true) := by
  refine ⟨_, _, hasMatch_of_all unskipped unlimited answered,
    one_of_all unskipped unlimited answered, ?_, rfl, Row.any_head?_iff rows, ?_⟩
  · rw [Option.isSome_filter]
  · rintro ⟨first, rest, rfl, missing, -⟩
    obtain ⟨unnamed, key, listed, same⟩ :=
      unstored_of_all unskipped unlimited answered List.mem_cons_self missing
    exact ⟨unnamed, key, listed, same ▸ missing⟩

/-- The row of the first listed key was removed. The other row is there, and one of all; but asked
for one row the query gives none, and asked whether a row matches it says no. -/
theorem hasMatch_iff_overlooked :
    let people : Table := ⟨"t", ["id"]⟩
    let store := (Store.empty false false).editAll people
      [.insert [("id", .int 1)], .insert [("id", .int 2)], .remove "1"]
    let rows : List Row := [.empty, .ofList [("id", "2")]]
    (people.everyRow.all Store.executor).Gives store (.ok rows) ∧ Row.Overlooked rows ∧
      (people.everyRow.hasMatch Store.executor).Gives store (.ok false) ∧
      (people.everyRow.one Store.executor).Gives store (.ok none) := by
  intro people store rows
  have answered : (people.everyRow.all Store.executor).Gives store (.ok rows) := by
    have listed : (store.listOf (people.keySpace store.isClustered)).map
        (store.rowOf (people.keySpace store.isClustered)) = rows := by decide +kernel
    exact listed ▸ all_everyRow store people
  have overlooked : Row.Overlooked rows :=
    ⟨.empty, [.ofList [("id", "2")]], rfl, rfl, _, List.mem_cons_self, by decide +kernel⟩
  obtain ⟨found, first, hasMatch, one, same, taken, -, -⟩ := hasMatch_iff rfl rfl answered
  have missing : first = none := taken
  subst missing
  rw [same] at hasMatch
  exact ⟨answered, overlooked, hasMatch, one⟩

end TableQuery

/-! ## Tables without missing rows -/

namespace Store

variable {store : Store} {table : Table}

/-- Every stored row has fields. -/
def Filled (store : Store) : Prop :=
  ∀ place row, store.rows.find? place = some row → row.isEmpty = false

/-- An insert stores a row with the key fields. -/
theorem Filled.edit (filled : store.Filled) (keyed : table.primaryKey ≠ []) (next : Edit) :
    (store.edit table next).Filled := by
  intro place row found
  cases next with
  | insert attributes =>
    rw [Store.edit, insert_rows, FieldMap.find?_insert] at found
    split at found
    next =>
      cases found
      obtain ⟨field, rest, fields⟩ := List.exists_cons_of_ne_nil keyed
      have member : field ∈ table.primaryKey := fields ▸ List.mem_cons_self
      obtain ⟨value, given⟩ := (store.writeOf table attributes).value?_of_mem member
      have stored := find?_storedRow_settledOf store table attributes field
      rw [Write.text?, given] at stored
      exact FieldMap.isEmpty_eq_false_of_find? stored
    next => exact filled place row found
  | remove gone =>
    rw [Store.edit, removeRow, FieldMap.find?_erase] at found
    split at found
    next => cases found
    next => exact filled place row found

private theorem filled_editAll (keyed : table.primaryKey ≠ []) (isClustered isNewer : Bool)
    (edits : List Edit) : ((empty isClustered isNewer).editAll table edits).Filled := by
  induction edits using List.reverseRecOn with
  | nil => exact fun _ _ => nofun
  | append_singleton edits last ih =>
    rw [editAll_append_singleton]
    exact ih.edit keyed last

/-- Every listed key has a row with fields as long as no row was removed. -/
theorem filled_of_unremoved (keyed : table.primaryKey ≠ []) (isClustered isNewer : Bool)
    {edits : List Edit}
    (unremoved : ∀ key, (empty isClustered isNewer).removals table key edits = 0) :
    let store := (empty isClustered isNewer).editAll table edits
    ∀ key ∈ store.listOf (table.keySpace store.isClustered),
      (store.rowOf (table.keySpace store.isClustered) key).isEmpty = false := by
  intro store key listed
  have count := (Tallied.editAll table isClustered isNewer edits).count key
  have stored : store.holds table key = true := by
    rw [unremoved key, Nat.zero_add] at count
    have once := List.count_pos_iff.2 listed
    by_contra missing
    rw [Bool.eq_false_iff.2 missing] at count
    exact absurd count once.ne'
  obtain ⟨row, found⟩ := Option.isSome_iff_exists.1 stored
  rw [rowOf, found]
  exact filled_editAll keyed isClustered isNewer edits _ row found

end Store

/-- On a table from which no row was removed, there is a match if and only if there is one of
all. -/
theorem TableQuery.hasMatch_of_unremoved {request : TableQuery}
    (keyed : request.table.primaryKey ≠ []) (unskipped : request.query.offset = none)
    (unlimited : request.query.limit = none) (isClustered isNewer : Bool) {edits : List Edit}
    (unremoved : ∀ key, (Store.empty isClustered isNewer).removals request.table key edits = 0)
    {rows : List Row}
    (answered : (request.all Store.executor).Gives
      ((Store.empty isClustered isNewer).editAll request.table edits) (.ok rows)) :
    (request.hasMatch Store.executor).Gives
      ((Store.empty isClustered isNewer).editAll request.table edits) (.ok (!rows.isEmpty)) := by
  have first := hasMatch_of_all unskipped unlimited answered
  cases rows with
  | nil => exact first
  | cons row rest =>
    have filled : row.isEmpty = false := by
      by_contra missing
      obtain ⟨-, key, listed, rfl⟩ := unstored_of_all unskipped unlimited answered
        List.mem_cons_self (Bool.not_eq_false _ ▸ missing)
      exact missing (Store.filled_of_unremoved keyed isClustered isNewer unremoved key listed)
    rw [List.head?_cons, Option.any_some, filled] at first
    exact first

end Rowscan
