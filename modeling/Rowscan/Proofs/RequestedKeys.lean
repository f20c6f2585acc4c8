import Rowscan.Proofs.LookupScan

/-!
What an answer owes to the keys that were asked for. A lookup drops repeated encodings and keeps
the first of each, so lists with the same encoded keys find the same rows, though in different
orders (`found_perm`). In an order by number no two keys share a place, so nothing of the order of
the request is left in the answer; without an order only the order of the rows depends on it
(`run_eq_of_askAlike`).
-/
namespace Rowscan.Lookup

/-- Two lists of keys ask for the same encoded keys, in any order and however often. -/
def AskAlike (first second : List KeyValue) : Prop :=
  ∀ key, key ∈ first.map KeyValue.encode ↔ key ∈ second.map KeyValue.encode

section Requests

variable (store : Store) (space : KeySpace) {query : Query} {first second : List KeyValue}

private theorem mem_found {keys : List KeyValue} {key : String} : key ∈ found store space keys ↔
    key ∈ keys.map KeyValue.encode ∧ isStored store space key = true := by
  rw [found, List.mem_filter, mem_distinct]

private theorem nodup_found (keys : List KeyValue) : (found store space keys).Nodup :=
  (nodup_distinct _).filter _

/-- The same rows are found for the same encoded keys. -/
theorem found_perm (same : AskAlike first second) :
    (found store space first).Perm (found store space second) := by
  apply (List.perm_ext_iff_of_nodup (nodup_found store space first)
    (nodup_found store space second)).2
  intro key
  rw [mem_found, mem_found, same key]

/-- In an order by number, the sorted rows are all that any kind of answer is made of. -/
theorem run_numeric (same : AskAlike first second) {term : OrderTerm}
    (ordered : query.singleOrder = .ok (some term))
    (numeric : ∀ key ∈ first.map KeyValue.encode,
      sortsByNumber ((store.rowOf space key).find? term.column) = true) (kind : Query.Kind) :
    ∃ rows : List Row,
      (run Store.executor space query kind first).Gives store (kind.answerOf rows) ∧
      (run Store.executor space query kind second).Gives store (kind.answerOf rows) := by
  have perm := found_perm store space same
  by_cases counted : kind = .count
  · subst counted
    have looked := run_count store space second ordered
    rw [← perm.length_eq] at looked
    refine ⟨(found store space first).map (store.rowOf space), ?_⟩
    rw [Query.Kind.answerOf_count, List.length_map]
    exact ⟨run_count store space first ordered, looked⟩
  · have numericFound : ∀ key ∈ found store space first,
        sortsByNumber ((store.rowOf space key).find? term.column) = true :=
      fun key member => numeric key ((mem_found store space).1 member).1
    have looked := run_sorted kind ordered counted fun key member =>
      numericFound key (perm.mem_iff.2 member)
    rw [← sortKeys_perm perm] at looked
    exact ⟨_, run_sorted kind ordered counted numericFound, looked⟩

end Requests

/-- Lists of keys with the same encodings, in any order and however often, are answered alike. In
an order by number, whatever the window, every kind of answer is the same. Without an order and a
window, every kind of answer is made from the same rows up to their order, and the counts are the
same. -/
theorem run_eq_of_askAlike (store : Store) (space : KeySpace) (query : Query)
    {first second : List KeyValue} (same : AskAlike first second) :
    (∀ term, query.order = [term] →
      (∀ key ∈ first.map KeyValue.encode,
        sortsByNumber ((store.rowOf space key).find? term.column) = true) →
      ∀ kind : Query.Kind, ∃ rows : List Row,
        (run Store.executor space query kind first).Gives store (kind.answerOf rows) ∧
        (run Store.executor space query kind second).Gives store (kind.answerOf rows)) ∧
    (query.order = [] → query.offset = none → query.limit = none →
      ∃ rows others : List Row, rows.Perm others ∧ rows.length = others.length ∧
        ∀ kind : Query.Kind,
          (run Store.executor space query kind first).Gives store (kind.answerOf rows) ∧
          (run Store.executor space query kind second).Gives store (kind.answerOf others)) := by
  constructor
  · intro term ordered numeric kind
    exact run_numeric store space same (Query.singleOrder_of_one ordered) numeric kind
  · intro unordered unskipped unlimited
    have perm := (found_perm store space same).map (store.rowOf space)
    refine ⟨_, _, perm, perm.length_eq, fun kind => ⟨?_, ?_⟩⟩
    · exact run_unbounded store space kind first unordered unskipped unlimited
    · exact run_unbounded store space kind second unordered unskipped unlimited

/-! Two requests for the same players, two of whom have equal scores and one of whom has none. -/

/-- Players, each with a score once there is one. -/
def players : Table := { name := "players" }

def playerStore : Store :=
  let first := ((Store.empty false false).insert players [("id", .int 2), ("score", .string "7")]).2
  let second := (first.insert players [("id", .int 10), ("score", .string "7.0")]).2
  (second.insert players [("id", .int 1)]).2

/-- The fifth player is not stored. -/
def requested : List KeyValue :=
  [.scalar (.int 2), .scalar (.int 10), .scalar (.int 5), .scalar (.int 1)]

def requestedAgain : List KeyValue :=
  [.scalar (.string "1"), .composite (.ofList [("id", .int 10)]), .scalar (.string "2"),
    .scalar (.int 5), .scalar (.int 2)]

/-- The row of a player with a score. -/
def playerRow (id score : String) : Row := .ofList [("id", id), ("score", score)]

/-- The row of the player without one. -/
def newcomerRow : Row := .ofList [("id", "1")]

/-- The second of the players, the best ones first. -/
def secondBest : Query :=
  { order := [⟨"score", .descending⟩], offset := some 1, limit := some 1 }

private theorem askAlike_requested : AskAlike requested requestedAgain := by
  intro key
  have encoded : requested.map KeyValue.encode = ["2", "10", "5", "1"] := by decide +kernel
  have again : requestedAgain.map KeyValue.encode = ["1", "10", "2", "5", "2"] := by
    decide +kernel
  rw [encoded, again]
  simp only [List.mem_cons, List.not_mem_nil, or_false]
  tauto

theorem run_eq_requested :
    AskAlike requested requestedAgain ∧
    (∀ key ∈ requested.map KeyValue.encode,
      sortsByNumber ((playerStore.rowOf (players.keySpace false) key).find? "score") = true) ∧
    ((run Store.executor (players.keySpace false) secondBest .all requested).Gives playerStore
        (.ok [playerRow "10" "7.0"]) ∧
      (run Store.executor (players.keySpace false) secondBest .all requestedAgain).Gives playerStore
        (.ok [playerRow "10" "7.0"])) ∧
    [playerRow "2" "7", playerRow "10" "7.0", newcomerRow].Perm
      [newcomerRow, playerRow "10" "7.0", playerRow "2" "7"] ∧
    (run Store.executor (players.keySpace false) {} .all requested).Gives playerStore
      (.ok [playerRow "2" "7", playerRow "10" "7.0", newcomerRow]) ∧
    (run Store.executor (players.keySpace false) {} .all requestedAgain).Gives playerStore
      (.ok [newcomerRow, playerRow "10" "7.0", playerRow "2" "7"]) := by
  have numeric : ∀ key ∈ requested.map KeyValue.encode,
      sortsByNumber ((playerStore.rowOf (players.keySpace false) key).find? "score") = true := by
    decide +kernel
  obtain ⟨rows, first, second⟩ := (run_eq_of_askAlike playerStore (players.keySpace false)
    secondBest askAlike_requested).1 _ rfl numeric .all
  have sorted : sortKeys .descending
      (fun key => (playerStore.rowOf (players.keySpace false) key).find? "score")
      (found playerStore (players.keySpace false) requested) = ["2", "10", "1"] :=
    sortKeys_eq_of_perm (by decide +kernel) (by decide +kernel)
  have best := @run_sorted playerStore (players.keySpace false) requested .all secondBest
    ⟨"score", .descending⟩ rfl nofun (by decide +kernel)
  have shown : (secondBest.window.slice ["2", "10", "1"]).map
      (playerStore.rowOf (players.keySpace false)) = [playerRow "10" "7.0"] := by decide +kernel
  rw [sorted, Query.Kind.answerOf_all, shown] at best
  have settled := first.unique best
  rw [settled] at second
  obtain ⟨rows, others, perm, -, answers⟩ := (run_eq_of_askAlike playerStore
    (players.keySpace false) {} askAlike_requested).2 rfl rfl rfl
  have read := answers .all
  rw [Query.Kind.answerOf_all, Query.Kind.answerOf_all] at read
  have listed : (run Store.executor (players.keySpace false) {} .all requested).Gives playerStore
      (.ok [playerRow "2" "7", playerRow "10" "7.0", newcomerRow]) := by decide +kernel
  have relisted : (run Store.executor (players.keySpace false) {} .all requestedAgain).Gives
      playerStore (.ok [newcomerRow, playerRow "10" "7.0", playerRow "2" "7"]) := by
    decide +kernel
  rw [Except.ok.inj (read.1.unique listed), Except.ok.inj (read.2.unique relisted)] at perm read
  exact ⟨askAlike_requested, numeric, ⟨best, second⟩, perm, read⟩

end Rowscan.Lookup
