import Rowscan.Proofs.Matches

/-!
A window is a slice. Positions are counted from one by the scan, by the lookup in an order and by
the lookup that stops when the window is past; for each of them, skipping `offset` matches and
keeping `limit` of the rest is dropping and taking rows of the answer without a window
(`TableQuery.all_eq_page`).
-/
namespace Rowscan

/-- The items left after so many are skipped, at most as many as the limit. -/
def Query.page {α : Type} (query : Query) (items : List α) : List α :=
  let rest := items.drop (query.offset.getD 0)
  match query.limit with
  | none => rest
  | some limit => rest.take limit

/-! ## Windows as slices -/

namespace Window

variable {α : Type} (offset passed : Nat) (items : List α)

private theorem contains_unlimited (position : Nat) :
    (Window.mk offset none).contains position = decide (offset < position) := by
  simp [contains]

private theorem contains_limited (limit position : Nat) :
    (Window.mk offset (some limit)).contains position =
      decide (offset < position ∧ position ≤ offset + limit) := by
  simp [contains]

/-- Without a limit the window drops what is left of the offset. -/
theorem sliceFrom_unlimited :
    (Window.mk offset none).sliceFrom passed items = items.drop (offset - passed) := by
  induction items generalizing passed with
  | nil => simp [sliceFrom]
  | cons item rest ih =>
    rw [sliceFrom_cons, contains_unlimited, ih (passed + 1)]
    by_cases skipped : offset < passed + 1
    · have none : offset - passed = 0 := by omega
      have noneLater : offset - (passed + 1) = 0 := by omega
      simp [skipped, none, noneLater]
    · have step : offset - passed = offset - (passed + 1) + 1 := by omega
      simp [skipped, step]

/-- With a limit it then takes what is left of that. -/
theorem sliceFrom_limited (limit : Nat) :
    (Window.mk offset (some limit)).sliceFrom passed items =
      (items.drop (offset - passed)).take (limit - (passed - offset)) := by
  induction items generalizing passed with
  | nil => simp [sliceFrom]
  | cons item rest ih =>
    rw [sliceFrom_cons, contains_limited, ih (passed + 1)]
    by_cases skipped : offset < passed + 1
    · have none : offset - passed = 0 := by omega
      have noneLater : offset - (passed + 1) = 0 := by omega
      by_cases room : passed + 1 ≤ offset + limit
      · have step : limit - (passed - offset) = limit - (passed + 1 - offset) + 1 := by omega
        simp [skipped, room, none, noneLater, step]
      · have full : limit - (passed - offset) = 0 := by omega
        have fullLater : limit - (passed + 1 - offset) = 0 := by omega
        simp [room, full, fullLater]
    · have step : offset - passed = offset - (passed + 1) + 1 := by omega
      have kept : limit - (passed - offset) = limit := by omega
      have keptLater : limit - (passed + 1 - offset) = limit := by omega
      simp [skipped, step, kept, keptLater]

end Window

theorem Query.slice_window {α : Type} (query : Query) (items : List α) :
    query.window.slice items = query.page items := by
  rw [Window.slice_eq, Query.window, Query.page]
  cases query.limit with
  | none => exact Window.sliceFrom_unlimited _ 0 items
  | some limit =>
    rw [Window.sliceFrom_limited, Nat.zero_sub, Nat.sub_zero, Nat.sub_zero]

/-- Without an offset and a limit everything is on the page. -/
theorem Query.page_unbounded {α : Type} {query : Query} (unskipped : query.offset = none)
    (unlimited : query.limit = none) (items : List α) : query.page items = items := by
  rw [page, unskipped, unlimited]
  rfl

theorem Query.page_nil {α : Type} (query : Query) : query.page ([] : List α) = [] := by
  unfold page
  cases query.limit <;> simp

theorem Query.map_page {α β : Type} (query : Query) (change : α → β) (items : List α) :
    (query.page items).map change = query.page (items.map change) := by
  unfold page
  cases query.limit <;> simp [List.map_take, List.map_drop]

/-! ## Positions of 64 bits -/

namespace Window

variable (window : Window) {position : Nat}

/-- No position that can be written lies between the written end of a window and its end. -/
theorem contains_eq_isInside (written : position ≤ lastPosition) :
    window.contains position = window.isInside position := by
  obtain ⟨offset, limit⟩ := window
  cases limit with
  | none => simp [contains, isInside, end?]
  | some limit => simp [contains, isInside, end?, written]

/-- A window is past once its written end is reached, as long as positions can be written. -/
theorem isPast_eq_isExhausted (written : position < lastPosition) :
    window.isPast position = window.isExhausted position := by
  obtain ⟨offset, limit⟩ := window
  cases limit with
  | none => rfl
  | some limit =>
    have reached : min (offset + limit) lastPosition ≤ position ↔ offset + limit ≤ position := by
      omega
    simp [isPast, isExhausted, end?, reached]

end Window

/-! ## Queries with a window -/

namespace TableQuery

/-- The query without its window. -/
def unpaged (request : TableQuery) : TableQuery := { request with query := request.query.unpaged }

variable {request : TableQuery} {store : Store} {rows : List Row} {failure : Failure}

section Answered

variable (live : request.isEmulated = false)
include live

theorem answerOr_of_live (kind : Query.Kind) (emulated : kind.Answer) :
    request.answerOr Store.executor kind emulated = request.answer Store.executor kind := by
  rw [answerOr, live]
  rfl

theorem all_of_matched (matching : request.matched store = .ok rows) :
    (request.all Store.executor).Gives store (.ok (request.query.page rows)) := by
  have answered := answer_of_matched .all matching rfl nofun
  rw [Query.Kind.answerOfReply_all, Query.slice_window, ← answerOr_of_live live] at answered
  exact answered

theorem column_of_matched (matching : request.matched store = .ok rows) (name : String) :
    (request.column Store.executor name).Gives store
      (.ok (request.query.page (rows.map (·.find? name)))) := by
  have answered := answer_of_matched (.column name) matching rfl nofun
  rw [Query.Kind.answerOfReply_column, Query.slice_window, Query.map_page,
    ← answerOr_of_live live] at answered
  exact answered

theorem all_of_unmatched (failed : request.matched store = .error failure) :
    (request.all Store.executor).Gives store (.error failure) := by
  have answered := answer_of_unmatched .all failed nofun
  rw [← answerOr_of_live live] at answered
  exact answered

theorem column_of_unmatched (failed : request.matched store = .error failure) (name : String) :
    (request.column Store.executor name).Gives store (.error failure) := by
  have answered := answer_of_unmatched (.column name) failed nofun
  rw [← answerOr_of_live live] at answered
  exact answered

/-- With a filter, a count is answered like the other kinds. -/
theorem count_of_filter {filter : Filter} (filtered : request.query.filter = some filter) :
    request.count Store.executor = request.answer Store.executor .count := by
  rw [count, live, filtered]
  rfl

/-- A count by scan counts the rows in the window. -/
theorem count_of_scanned {filter : Filter} (filtered : request.query.filter = some filter)
    (unnamed : request.keys? = .ok none) (matching : request.matched store = .ok rows) :
    (request.count Store.executor).Gives store (.ok (request.query.page rows).length) := by
  rw [matched, unnamed] at matching
  have answered := answer_of_scans unnamed (scans_of_scanned .count matching)
  rw [Query.Kind.answerOfReply_count, Query.slice_window, ← count_of_filter live filtered]
    at answered
  exact answered

end Answered

section Emulated

variable (emulated : request.isEmulated = true)
include emulated

theorem answerOr_of_emulated (kind : Query.Kind) (nothing : kind.Answer) :
    (request.answerOr Store.executor kind nothing).Gives store (.ok nothing) := by
  rw [answerOr, emulated]
  exact Run.gives_pure _

theorem all_of_emulated : (request.all Store.executor).Gives store (.ok []) :=
  answerOr_of_emulated emulated .all []

theorem column_of_emulated (name : String) :
    (request.column Store.executor name).Gives store (.ok []) :=
  answerOr_of_emulated emulated (.column name) []

private theorem count_of_emulated : (request.count Store.executor).Gives store (.ok 0) := by
  rw [count, emulated]
  exact Run.gives_pure _

end Emulated

/-- A window is a slice, whichever way the rows are reached: rows and fields are those of the query
without the window, after the offset and up to the limit, and a scan counts just those. A query
that fails without the window fails in the same way with it. The window is written with an end that
may be cut short, which makes no difference at a position that can be written. -/
theorem all_eq_page (store : Store) (request : TableQuery) :
    ∃ outcome : Except Failure (List Row),
      (request.unpaged.all Store.executor).Gives store outcome ∧
      (request.all Store.executor).Gives store (outcome.map request.query.page) ∧
      (∀ name, ∃ fields : Except Failure (List (Option String)),
        (request.unpaged.column Store.executor name).Gives store fields ∧
        (request.column Store.executor name).Gives store (fields.map request.query.page)) ∧
      (∀ filter, request.query.filter = some filter →
        Lookup.candidates filter request.table = .ok none →
        (request.count Store.executor).Gives store
          (outcome.map fun rows => (request.query.page rows).length)) ∧
      ∀ position ≤ Window.lastPosition,
        request.query.window.contains position = request.query.window.isInside position ∧
        (position < Window.lastPosition →
          request.query.window.isPast position = request.query.window.isExhausted position) := by
  have written : ∀ position ≤ Window.lastPosition,
      request.query.window.contains position = request.query.window.isInside position ∧
      (position < Window.lastPosition →
        request.query.window.isPast position = request.query.window.isExhausted position) :=
    fun position fits => ⟨request.query.window.contains_eq_isInside fits,
      request.query.window.isPast_eq_isExhausted⟩
  cases emulated : request.isEmulated with
  | true =>
    have emulatedUnpaged : request.unpaged.isEmulated = true := emulated
    have fields (name : String) : (request.column Store.executor name).Gives store
        (.ok (request.query.page [])) := by
      rw [Query.page_nil]
      exact column_of_emulated emulated name
    refine ⟨.ok [], all_of_emulated emulatedUnpaged, ?_,
      fun name => ⟨.ok [], column_of_emulated emulatedUnpaged name, fields name⟩, fun _ _ _ => ?_, written⟩
    · rw [Except.map, Query.page_nil]
      exact all_of_emulated emulated
    · rw [Except.map, Query.page_nil]
      exact count_of_emulated emulated
  | false =>
    have live : request.isEmulated = false := emulated
    have liveUnpaged : request.unpaged.isEmulated = false := live
    cases matching : request.matched store with
    | error failure =>
      have unpaged : request.unpaged.matched store = .error failure := matching
      refine ⟨.error failure, all_of_unmatched liveUnpaged unpaged, all_of_unmatched live matching,
        fun name => ⟨.error failure, column_of_unmatched liveUnpaged unpaged name,
          column_of_unmatched live matching name⟩, fun filter filtered _ => ?_, written⟩
      rw [count_of_filter live filtered]
      exact answer_of_unmatched .count matching nofun
    | ok rows =>
      have unpaged : request.unpaged.matched store = .ok rows := matching
      refine ⟨.ok rows, all_of_matched liveUnpaged unpaged, all_of_matched live matching,
        fun name => ⟨_, column_of_matched liveUnpaged unpaged name,
          column_of_matched live matching name⟩, fun filter filtered unnamed => ?_, written⟩
      have keys : request.keys? = .ok none := by rw [keys?, filtered]; exact unnamed
      exact count_of_scanned live filtered keys matching

/-- Everyone except those of a certain age, from the second on. The limit is the largest there is,
and the row of one listed key is missing. -/
def others : TableQuery where
  table := people
  query := {
    filter := some (.negation (.hash [("age", .value (.string "30"))]))
    offset := some 1
    limit := some 18446744073709551615 }

theorem pages_others :
    (others.unpaged.all Store.executor).Gives peopleStore (.ok [.empty, personRow "3" "20"]) ∧
      (others.all Store.executor).Gives peopleStore (.ok [personRow "3" "20"]) ∧
      (others.column Store.executor "age").Gives peopleStore (.ok [some "20"]) ∧
      (others.count Store.executor).Gives peopleStore (.ok 1) := by
  obtain ⟨outcome, whole, paged, columns, counted, -⟩ := all_eq_page peopleStore others
  obtain ⟨fields, wholeColumn, pagedColumn⟩ := columns "age"
  have rows : (others.unpaged.all Store.executor).Gives peopleStore
      (.ok [.empty, personRow "3" "20"]) := by decide +kernel
  have ages : (others.unpaged.column Store.executor "age").Gives peopleStore
      (.ok [none, some "20"]) := by decide +kernel
  cases whole.unique rows
  cases wholeColumn.unique ages
  exact ⟨rows, paged, pagedColumn, counted _ rfl rfl⟩

end TableQuery
end Rowscan
