import Rowscan.Proofs.LookupScan

/-!
The rows that a query matches. Whatever the filter, the order and the store, a query has one list
of matching rows, or one failure (`TableQuery.matched`); the answers are read from the part of it
that is in the window. A count by lookup alone takes the whole list, and a scan for one row stops
at the first, before later rows can fail.
-/
namespace Rowscan

/-- A computation gives what its first part gives and then, if that is a value, its second. -/
theorem Run.Gives.andThen {σ α β : Type} {state : σ} {first : Run σ α} {next : α → Run σ β}
    {outcome : Except Failure α} {continued : α → Except Failure β}
    (given : first.Gives state outcome)
    (follows : ∀ value, outcome = .ok value → (next value).Gives state (continued value)) :
    (first >>= next).Gives state (outcome >>= continued) := by
  unfold Gives at given follows ⊢
  rw [ExceptT.run_bind, StateT.run_bind, given]
  cases outcome with
  | error failure => rfl
  | ok value => exact follows value rfl

theorem Run.Gives.fails {σ α β : Type} {state : σ} {first : Run σ α} {failure : Failure}
    (failed : first.Gives state (.error failure)) (next : α → Run σ β) :
    (first >>= next).Gives state (.error failure) := by
  have nothing : ∀ value : α, Except.error failure = .ok value →
      (next value).Gives state (.error failure) := nofun
  exact failed.andThen nothing

section Steps

variable {α β : Type} {outcome : Except Failure α} {continued : α → Except Failure β}
variable {value : β} {failure : Failure}

/-- Two steps that succeed succeed one after the other. -/
theorem of_bind_ok (all : (outcome >>= continued) = .ok value) :
    ∃ first, outcome = .ok first ∧ continued first = .ok value := by
  cases outcome with
  | error failure => cases all
  | ok first => exact ⟨first, rfl, all⟩

theorem of_map_ok {change : α → β} (all : outcome.map change = .ok value) :
    ∃ first, outcome = .ok first ∧ value = change first := by
  cases outcome with
  | error failure => cases all
  | ok first =>
    cases all
    exact ⟨first, rfl, rfl⟩

private theorem of_map_error {change : α → β} (failed : outcome.map change = .error failure) :
    outcome = .error failure := by
  cases outcome with
  | error reason =>
    cases failed
    rfl
  | ok first => cases failed

/-- Of two steps that fail, the first fails or the second after it. -/
theorem of_bind_error (failed : (outcome >>= continued) = .error failure) :
    outcome = .error failure ∨ ∃ first, outcome = .ok first ∧ continued first = .error failure := by
  cases outcome with
  | error reason =>
    cases failed
    exact .inl rfl
  | ok first => exact .inr ⟨first, rfl, failed⟩

end Steps

/-! ## Verdicts on several items -/

namespace Verdict

variable {α : Type} {verdict : α → Verdict}

/-- The items that match, unless the verdict on some item is an error. -/
def keep (verdict : α → Verdict) : List α → Except Failure (List α)
  | [] => .ok []
  | item :: rest => do
    if ← verdict item then return item :: (← keep verdict rest)
    else keep verdict rest

private theorem keep_cons_error {item : α} {failure : Failure}
    (raised : verdict item = .error failure)
    (rest : List α) : keep verdict (item :: rest) = .error failure := by
  rw [keep, raised]
  rfl

private theorem keep_cons_ok {item : α} {holds : Bool} (settled : verdict item = .ok holds)
    (rest : List α) : keep verdict (item :: rest) =
      (keep verdict rest).map fun kept => if holds then item :: kept else kept := by
  rw [keep, settled]
  cases holds <;> cases keep verdict rest <;> rfl

/-- Items are kept if there is a verdict on each, and then those that match. -/
theorem filter_of_keep {items kept : List α} (all : keep verdict items = .ok kept) :
    ∃ isMatch : α → Bool, (∀ item ∈ items, verdict item = .ok (isMatch item)) ∧
      kept = items.filter isMatch := by
  refine ⟨fun item => (verdict item).toOption.getD false, ?_⟩
  induction items generalizing kept with
  | nil => cases all; simp
  | cons item rest ih =>
    obtain ⟨holds, settled, -⟩ := of_bind_ok all
    rw [keep_cons_ok settled] at all
    obtain ⟨remaining, others, same⟩ := of_map_ok all
    obtain ⟨decided, filtered⟩ := ih others
    constructor
    · intro other member
      rcases List.mem_cons.1 member with rfl | later
      · simp [settled, Except.toOption]
      · exact decided other later
    · rw [List.filter_cons, ← filtered, same]
      simp [settled, Except.toOption]

theorem keep_of_decided {items : List α} {isMatch : α → Bool}
    (decided : ∀ item ∈ items, verdict item = .ok (isMatch item)) :
    keep verdict items = .ok (items.filter isMatch) := by
  induction items with
  | nil => rfl
  | cons item rest ih =>
    rw [keep_cons_ok (decided item List.mem_cons_self),
      ih fun other later => decided other (List.mem_cons_of_mem _ later), List.filter_cons]
    rfl

private theorem keep_of_holds {items : List α} (holds : ∀ item ∈ items, verdict item = .ok true) :
    keep verdict items = .ok items := by
  rw [keep_of_decided holds, List.filter_true]

end Verdict

/-! ## The scan -/

/-- The query without its window. -/
def Query.unpaged (query : Query) : Query := { query with offset := none, limit := none }

/-- The kind and the window are the only parts of a program that depend on them. -/
theorem ScanProgram.ofQuery_eq (space : KeySpace) (query : Query) (kind : Query.Kind) :
    ofQuery space query kind = (ofQuery space query.unpaged .all).map
      fun program => { program with kind, window := query.window } := by
  obtain ⟨filter, order, offset, limit⟩ := query
  simp only [ofQuery, Query.unpaged, Query.singleOrder]
  rcases order with _ | ⟨term, _ | ⟨second, more⟩⟩
  · cases filter with
    | none => rfl
    | some filter => cases compiled : filter.compile .empty <;> simp only [compiled] <;> rfl
  · cases filter with
    | none => rfl
    | some filter => cases compiled : filter.compile .empty <;> simp only [compiled] <;> rfl
  · rfl

/-- The program that visits a whole table. -/
def ScanProgram.unconditional (space : KeySpace) (order : Option OrderTerm) : ScanProgram :=
  { space, kind := .all, condition := .constant true, columns := .empty, order, window := ⟨0, none⟩ }

namespace Store

variable {store : Store} {program : ScanProgram} {keys found : List String}

/-- If there is a verdict on every key, the scan picks from those that match. -/
theorem select_of_keep (kept : Verdict.keep (store.satisfies program) keys = .ok found)
    (passed : Nat) : store.select program passed keys =
      .ok (program.window.pick (returnsEarly program) passed found) := by
  obtain ⟨isMatch, decided, rfl⟩ := Verdict.filter_of_keep kept
  exact select_eq decided passed

/-- A scan that does not return early meets the first error there is. -/
theorem select_fails {failure : Failure} (full : returnsEarly program = false)
    (raised : Verdict.keep (store.satisfies program) keys = .error failure) (passed : Nat) :
    store.select program passed keys = .error failure := by
  induction keys generalizing passed with
  | nil => cases raised
  | cons key rest ih =>
    cases settled : store.satisfies program key with
    | error reason =>
      rw [Verdict.keep_cons_error settled] at raised
      cases raised
      rw [select, settled]
      rfl
    | ok holds =>
      rw [Verdict.keep_cons_ok settled] at raised
      have later := of_map_error raised
      cases holds with
      | false =>
        rw [select_skip settled]
        exact ih later passed
      | true =>
        cases inside : program.window.contains (passed + 1) with
        | false =>
          rw [select_outside settled inside]
          exact ih later (passed + 1)
        | true =>
          rw [select_inside settled inside, full, ih later (passed + 1)]
          rfl

/-- A scan visits every listed key as often as it is listed. -/
theorem perm_candidates (store : Store) (program : ScanProgram) :
    (store.candidates program).Perm (store.listOf program.space) := by
  rw [candidates]
  cases program.order with
  | none => exact .refl _
  | some term =>
    exact perm_arrange term.direction (fun key => (store.rowOf program.space key).find? term.column)
      (store.listOf program.space)

/-- The reply over the rows in the window, of which a scan for one row keeps the first. -/
theorem gather_pick (store : Store) (kind : Query.Kind) (window : Window) {onlyOne : Bool}
    (single : onlyOne = true → kind = .one) (rows : List Row) :
    store.gather kind (window.pick onlyOne 0 rows) = store.gather kind (window.slice rows) := by
  cases onlyOne with
  | false => rfl
  | true =>
    rw [single rfl, gather_one, gather_one, Window.head?_pick, Window.slice_eq]

/-- The rows with these keys, in the order asked for. -/
def inOrder (store : Store) (space : KeySpace) (order : Option OrderTerm) (keys : List String) :
    List Row :=
  match order with
  | none => keys.map (store.rowOf space)
  | some term => (SortEntry.sort term.direction (keys.map (entryOf
      (fun key => (store.rowOf space key).find? term.column) (store.rowOf space)))).map (·.item)

private theorem perm_inOrder (store : Store) (space : KeySpace) (order : Option OrderTerm)
    (keys : List String) : (store.inOrder space order keys).Perm (keys.map (store.rowOf space)) := by
  cases order with
  | none => exact .refl _
  | some term =>
    have sorted := (SortEntry.perm_sort term.direction (keys.map (entryOf
      (fun key => (store.rowOf space key).find? term.column) (store.rowOf space)))).map (·.item)
    rw [List.map_map] at sorted
    exact sorted

end Store

/-! ## Matching rows -/

namespace TableQuery

variable (request : TableQuery) (store : Store)

/-- The rows that a lookup finds under the keys, in the order asked for. -/
def foundRows (keys : List KeyValue) : Except Failure (List Row) := do
  let order ← request.query.singleOrder
  return store.inOrder (request.spaceIn store) order
    (Lookup.found store (request.spaceIn store) keys)

/-- The rows of which the condition holds, in the order in which a scan visits them. -/
def scannedRows : Except Failure (List Row) := do
  let program ← ScanProgram.ofQuery (request.spaceIn store) request.query.unpaged .all
  let keys ← Verdict.keep (store.satisfies program) (store.candidates program)
  return keys.map (store.rowOf program.space)

/-- The rows that match, in the order in which they are answered. -/
def matched : Except Failure (List Row) := do
  match ← request.keys? with
  | some keys => request.foundRows store keys
  | none => request.scannedRows store

variable {request store} {rows : List Row} {keys : List KeyValue} (kind : Query.Kind)
variable {failure : Failure}

/-! ### Lookups -/

/-- A lookup for a count counts what was found; for another kind it answers from the window. -/
theorem looks_of_found (found : request.foundRows store keys = .ok rows) : Looks store request keys
    kind (kind.answerOf (if kind = .count then rows else request.query.window.slice rows)) := by
  obtain ⟨order, ordered, same⟩ := of_bind_ok found
  cases same
  by_cases counted : kind = .count
  · subst counted
    have looked := Lookup.run_count store (request.spaceIn store) keys ordered
    have length := (store.perm_inOrder (request.spaceIn store) order
      (Lookup.found store (request.spaceIn store) keys)).length_eq
    rw [List.length_map] at length
    rw [← length] at looked
    rw [if_pos rfl, Query.Kind.answerOf_count]
    exact looked
  · rw [if_neg counted]
    cases order with
    | some term => exact Lookup.run_ordered store (request.spaceIn store) kind keys ordered counted
    | none =>
      have looked := Lookup.run_unordered store (request.spaceIn store) kind keys ordered counted
      by_cases single : kind = .one
      · -- The window is left after its first row, which is the only one that the answer needs.
        subst single
        rw [Query.Kind.answerOf_one, Window.head?_pick] at looked
        rw [Query.Kind.answerOf_one]
        exact looked
      · rw [decide_eq_false single] at looked
        exact looked

theorem looks_of_unfound (unfound : request.foundRows store keys = .error failure) :
    Looks store request keys kind (.error failure) := by
  rcases of_bind_error unfound with unordered | ⟨order, -, returned⟩
  · have start : (Run.ofExcept request.query.singleOrder).Gives store (.error failure) :=
      unordered ▸ Run.gives_ofExcept _
    exact start.fails _
  · cases returned

/-- Rows that were found have fields. -/
theorem filled_of_found (found : request.foundRows store keys = .ok rows) :
    ∀ row ∈ rows, row.isEmpty = false := by
  obtain ⟨order, -, same⟩ := of_bind_ok found
  cases same
  intro row member
  obtain ⟨key, present, rfl⟩ := List.mem_map.1 ((store.perm_inOrder _ _ _).mem_iff.1 member)
  simpa [Lookup.isStored] using (List.mem_filter.1 present).2

/-! ### Scans -/

variable (request store) in
/-- What a scan gives: the reply of its program, read for the kind. -/
theorem scans_outcome : Scans store request kind (do
    let program ← ScanProgram.ofQuery (request.spaceIn store) request.query kind
    let reply ← store.scan program
    kind.answerOfReply reply) := by
  refine (Run.gives_ofExcept _).andThen fun program _ => ?_
  have sent : (Store.executor.send (.eval program)).Gives store (store.scan program) := rfl
  exact sent.andThen fun reply _ => Run.gives_ofExcept _

/-- A scan replies with what its kind gathers from the matching rows in the window. -/
theorem scans_of_scanned (scanned : request.scannedRows store = .ok rows) : Scans store request
    kind (kind.answerOfReply (store.gather kind (request.query.window.slice rows))) := by
  obtain ⟨program, built, rest⟩ := of_bind_ok scanned
  obtain ⟨keys, kept, same⟩ := of_bind_ok rest
  cases same
  let asked : ScanProgram := { program with kind, window := request.query.window }
  have asks : ScanProgram.ofQuery (request.spaceIn store) request.query kind = .ok asked := by
    rw [ScanProgram.ofQuery_eq, built]
    rfl
  have keptAsked : Verdict.keep (store.satisfies asked) (store.candidates asked) = .ok keys := kept
  have selected := Store.select_of_keep keptAsked 0
  have single : Store.returnsEarly asked = true → kind = .one := by
    simp only [Store.returnsEarly, Bool.and_eq_true, decide_eq_true_eq]
    exact And.left
  have replied : store.scan asked = .ok (store.gather kind
      (request.query.window.slice (keys.map (store.rowOf program.space)))) := by
    rw [Store.scan, selected, ← store.gather_pick kind request.query.window single,
      ← Window.map_pick]
    rfl
  exact scan_gives asks replied

/-- A scan that does not stop at the first match fails if any verdict does. -/
theorem scans_of_unscanned (unscanned : request.scannedRows store = .error failure)
    (several : kind ≠ .one) : Scans store request kind (.error failure) := by
  have outcome := scans_outcome request store kind
  rw [ScanProgram.ofQuery_eq] at outcome
  rcases of_bind_error unscanned with unbuilt | ⟨program, built, rest⟩
  · rw [unbuilt] at outcome
    exact outcome
  · rcases of_bind_error rest with raised | ⟨keys, -, returned⟩
    · let asked : ScanProgram := { program with kind, window := request.query.window }
      have full : Store.returnsEarly asked = false := by
        simp [Store.returnsEarly, asked, several]
      have failed : store.select asked 0 (store.candidates asked) = .error failure :=
        Store.select_fails full raised 0
      have silent : store.scan asked = .error failure := by
        rw [Store.scan, failed]
        rfl
      have given : (do
          let reply ← store.scan asked
          kind.answerOfReply reply) = .error failure := by
        rw [silent]
        rfl
      rw [built] at outcome
      exact given ▸ outcome
    · cases returned

/-- Without a filter every listed key has a row, if only one without fields. -/
theorem matched_unfiltered (store : Store) (unfiltered : request.query.filter = none)
    {order : Option OrderTerm} (ordered : request.query.singleOrder = .ok order) :
    request.matched store = .ok ((store.candidates
      (.unconditional (request.spaceIn store) order)).map (store.rowOf (request.spaceIn store))) := by
  have unnamed : request.keys? = .ok none := by rw [keys?, unfiltered]
  have orderedUnpaged : request.query.unpaged.singleOrder = .ok order := ordered
  have unfilteredUnpaged : request.query.unpaged.filter = none := unfiltered
  have built : ScanProgram.ofQuery (request.spaceIn store) request.query.unpaged .all =
      .ok (.unconditional (request.spaceIn store) order) := by
    rw [ScanProgram.ofQuery, orderedUnpaged, unfilteredUnpaged]
    rfl
  have kept : Verdict.keep (store.satisfies (.unconditional (request.spaceIn store) order))
      (store.candidates (.unconditional (request.spaceIn store) order)) =
      .ok (store.candidates (.unconditional (request.spaceIn store) order)) :=
    Verdict.keep_of_holds fun _ _ => rfl
  rw [matched, unnamed]
  change request.scannedRows store = _
  rw [scannedRows, built]
  change (Verdict.keep (store.satisfies _) (store.candidates _) >>= _) = _
  rw [kept]
  rfl

/-! ### Answers -/

variable {kind} in
theorem answer_of_looks {outcome : Except Failure kind.Answer}
    (named : request.keys? = .ok (some keys)) (looked : Looks store request keys kind outcome) :
    (request.answer Store.executor kind).Gives store outcome := by
  have start : (Run.ofExcept request.keys?).Gives store (.ok (some keys)) :=
    named ▸ Run.gives_ofExcept _
  exact (Run.gives_pure _).bind (start.bind looked)

variable {kind} in
theorem answer_of_scans {outcome : Except Failure kind.Answer}
    (unnamed : request.keys? = .ok none) (scanned : Scans store request kind outcome) :
    (request.answer Store.executor kind).Gives store outcome := by
  have start : (Run.ofExcept request.keys?).Gives store (.ok none) :=
    unnamed ▸ Run.gives_ofExcept _
  exact (Run.gives_pure _).bind (start.bind scanned)

/-- Matching rows were found by key or scanned. -/
theorem found_or_scanned (matching : request.matched store = .ok rows) :
    (∃ keys, request.keys? = .ok (some keys) ∧ request.foundRows store keys = .ok rows) ∨
      request.keys? = .ok none ∧ request.scannedRows store = .ok rows := by
  obtain ⟨keys, named, rest⟩ := of_bind_ok matching
  cases keys with
  | some keys => exact .inl ⟨keys, named, rest⟩
  | none => exact .inr ⟨named, rest⟩

/-- An answer without numbers, other than a count, is read off the reply over the rows in the
window, whichever way they were reached. -/
theorem answer_of_matched (matching : request.matched store = .ok rows)
    (plain : kind.isNumber = false) (uncounted : kind ≠ .count) :
    (request.answer Store.executor kind).Gives store
      (kind.answerOfReply (store.gather kind (request.query.window.slice rows))) := by
  rcases found_or_scanned matching with ⟨keys, named, found⟩ | ⟨unnamed, scanned⟩
  · have looked := looks_of_found kind found
    have filled : ∀ row ∈ request.query.window.slice rows, row.isEmpty = false :=
      fun row member => filled_of_found found row
        (Window.mem_of_mem_sliceFrom request.query.window member)
    have agree := Query.Kind.agree_gather store kind _ filled
    rw [if_neg uncounted, ← agree.eq (.inl (Query.Kind.isSettled_answerOf plain _))] at looked
    exact answer_of_looks named looked
  · exact answer_of_scans unnamed (scans_of_scanned kind scanned)

/-- A query that fails to match rows fails, unless it may stop at the first. -/
theorem answer_of_unmatched (failed : request.matched store = .error failure)
    (several : kind ≠ .one) :
    (request.answer Store.executor kind).Gives store (.error failure) := by
  rcases of_bind_error failed with refused | ⟨keys, named, rest⟩
  · have start : (Run.ofExcept request.keys?).Gives store (.error failure) :=
      refused ▸ Run.gives_ofExcept _
    exact (Run.gives_pure _).bind (start.fails _)
  · cases keys with
    | some keys => exact answer_of_looks named (looks_of_unfound kind rest)
    | none => exact answer_of_scans named (scans_of_unscanned kind rest several)

end TableQuery

end Rowscan
