import Rowscan.Proofs.Pagination

/-!
The kinds of query agree. All rows, one field of each, their number and the first of them are
answered by different commands and read from different replies, and yet tell of the same rows, or
fail alike (`TableQuery.kinds_agree`). A count without a filter is the length of the key list, and
one by lookup reads the rows; both are the number of rows that are answered without a window.
-/
namespace Rowscan.TableQuery

variable {request : TableQuery} {store : Store} {rows : List Row} {failure : Failure}

/-! ## The first row -/

theorem one_of_matched (live : request.isEmulated = false)
    (matching : request.matched store = .ok rows) : (request.one Store.executor).Gives store
      (.ok ((request.query.page rows).head?.filter (!·.isEmpty))) := by
  have answered := answer_of_matched .one matching rfl nofun
  rw [Query.Kind.answerOfReply_head, Query.slice_window, ← answerOr_of_live live] at answered
  exact answered

/-! ## Counting -/

/-- The key list has as many keys as there are rows without a filter. -/
theorem listLength_gives : (request.listLength Store.executor).Gives store
    (.ok (store.listOf (request.spaceIn store)).length) := by
  have sent : (Store.executor.send (.llen (request.spaceIn store).listKey)).Gives store
      (.ok (.integer (store.listOf (request.spaceIn store)).length)) := rfl
  exact (Run.gives_pure _).bind (sent.bind (Run.gives_pure _))

private theorem length_unfiltered {order : Option OrderTerm}
    (unfiltered : request.query.filter = none)
    (ordered : request.query.singleOrder = .ok order) (matching : request.matched store = .ok rows) :
    rows.length = (store.listOf (request.spaceIn store)).length := by
  cases (matched_unfiltered store unfiltered ordered).symm.trans matching
  rw [List.length_map]
  exact (store.perm_candidates _).length_eq

/-- Without a window, a count is the number of matching rows. -/
theorem count_of_matched (live : request.isEmulated = false) {order : Option OrderTerm}
    (ordered : request.query.singleOrder = .ok order) (unskipped : request.query.offset = none)
    (unlimited : request.query.limit = none) (matching : request.matched store = .ok rows) :
    (request.count Store.executor).Gives store (.ok rows.length) := by
  cases filtered : request.query.filter with
  | none =>
    rw [count, live, filtered, length_unfiltered filtered ordered matching]
    exact listLength_gives
  | some filter =>
    rcases found_or_scanned matching with ⟨keys, named, found⟩ | ⟨unnamed, -⟩
    · rw [count_of_filter live filtered]
      have looked := looks_of_found .count found
      rw [if_pos rfl, Query.Kind.answerOf_count] at looked
      exact answer_of_looks named looked
    · have counted := count_of_scanned live filtered unnamed matching
      rw [Query.page_unbounded unskipped unlimited] at counted
      exact counted

/-- A query that fails to match rows has a filter, and fails to count them. -/
theorem count_of_unmatched (live : request.isEmulated = false) {order : Option OrderTerm}
    (ordered : request.query.singleOrder = .ok order)
    (failed : request.matched store = .error failure) :
    (request.count Store.executor).Gives store (.error failure) := by
  cases filtered : request.query.filter with
  | none =>
    cases (matched_unfiltered store filtered ordered).symm.trans failed
  | some filter =>
    rw [count_of_filter live filtered]
    exact answer_of_unmatched .count failed nofun

/-! ## Agreement -/

theorem singleOrder_of_length {query : Query} (single : query.order.length ≤ 1) :
    ∃ order, query.singleOrder = .ok order := by
  rw [Query.singleOrder]
  rcases terms : query.order with _ | ⟨term, _ | ⟨second, more⟩⟩
  · exact ⟨none, rfl⟩
  · exact ⟨some term, rfl⟩
  · simp [terms] at single

/-- All kinds of query tell of the same rows: a field of each of them, their number if there is no
window, and the first of them unless that has no fields. Or all of them fail alike, except that a
query for one row may be answered before the failure. -/
theorem kinds_agree (store : Store) (request : TableQuery) (live : request.isEmulated = false)
    (single : request.query.order.length ≤ 1) :
    (∃ rows : List Row, (request.all Store.executor).Gives store (.ok rows) ∧
      (∀ name, (request.column Store.executor name).Gives store
        (.ok (rows.map (·.find? name)))) ∧
      (request.query.offset = none → request.query.limit = none →
        (request.count Store.executor).Gives store (.ok rows.length)) ∧
      (request.one Store.executor).Gives store (.ok (rows.head?.filter (!·.isEmpty)))) ∨
    ∃ failure, (request.all Store.executor).Gives store (.error failure) ∧
      (∀ name, (request.column Store.executor name).Gives store (.error failure)) ∧
      (request.count Store.executor).Gives store (.error failure) := by
  obtain ⟨order, ordered⟩ := singleOrder_of_length single
  cases matching : request.matched store with
  | error failure =>
    exact .inr ⟨failure, all_of_unmatched live matching, column_of_unmatched live matching,
      count_of_unmatched live ordered matching⟩
  | ok rows =>
    refine .inl ⟨request.query.page rows, all_of_matched live matching, fun name => ?_,
      fun unskipped unlimited => ?_, one_of_matched live matching⟩
    · rw [Query.map_page]
      exact column_of_matched live matching name
    · rw [Query.page_unbounded unskipped unlimited]
      exact count_of_matched live ordered unskipped unlimited matching

/-- Every person, the one without a row included. -/
def everyone : TableQuery where
  table := people
  query := {}

theorem kinds_agree_everyone :
    (everyone.all Store.executor).Gives peopleStore
      (.ok [personRow "1" "30", .empty, personRow "3" "20"]) ∧
    (everyone.column Store.executor "age").Gives peopleStore
      (.ok [some "30", none, some "20"]) ∧
    (everyone.count Store.executor).Gives peopleStore (.ok 3) ∧
    (everyone.one Store.executor).Gives peopleStore (.ok (some (personRow "1" "30"))) := by
  have given : (everyone.all Store.executor).Gives peopleStore
      (.ok [personRow "1" "30", .empty, personRow "3" "20"]) := by decide +kernel
  rcases kinds_agree peopleStore everyone rfl (by decide) with
    ⟨rows, all, column, count, one⟩ | ⟨failure, failed, -, -⟩
  · cases all.unique given
    exact ⟨given, column "age", count rfl rfl, one⟩
  · cases failed.unique given

end Rowscan.TableQuery
