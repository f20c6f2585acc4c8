import Rowscan.Proofs.InsertionOrder
import Rowscan.Proofs.Refusals
import Rowscan.Proofs.StoreViews

/-!
Which commands a query issues. The executor is any function from commands and states, so it may
answer with any reply or failure; its log tells what it was asked. A query over it is told of
twice, over the executor itself and over the one that logs, and both end alike
(`Run.Issues`). Every operation then issues nothing, one list length, reads of rows by key up to the
first failure, or one program (`commands_of_perform`).
-/
namespace Rowscan

variable {σ α β : Type}

/-! ## Exchanges -/

/-- A command and what the executor answered. -/
structure Exchange where
  command : Command
  outcome : Except Failure Reply

/-- The row that the answer to a read holds. -/
def Exchange.row (exchange : Exchange) : Except Failure Row := do
  Row.ofReply (← exchange.outcome)

/-- An executor answers several commands like this, one after the other. -/
inductive Executor.Answers (executor : Executor σ) : σ → List Exchange → σ → Prop where
  | done (state : σ) : Answers executor state [] state
  | next {command : Command} {outcome : Except Failure Reply} {state middle after : σ}
      {exchanges : List Exchange} (first : executor.execute command state = (outcome, middle))
      (rest : Answers executor middle exchanges after) :
      Answers executor state (⟨command, outcome⟩ :: exchanges) after

theorem Executor.Answers.append {executor : Executor σ} {state middle after : σ}
    {sooner later : List Exchange} (first : executor.Answers state sooner middle)
    (second : executor.Answers middle later after) :
    executor.Answers state (sooner ++ later) after := by
  induction first with
  | done state => exact second
  | next answered rest ih => exact .next answered (ih second)

/-- A computation ends with an outcome and a state after these exchanges. Over the logging
executor it ends alike, and the log has grown by just these commands. -/
structure Run.Issues (executor : Executor σ) (plain : Run σ α) (logged : Run (σ × List Command) α)
    (state : σ) (outcome : Except Failure α) (after : σ) (exchanges : List Exchange) : Prop where
  plain : plain.run.run state = (outcome, after)
  logged : ∀ before, logged.run.run (state, before) =
    (outcome, after, (exchanges.map (·.command)).reverse ++ before)
  answers : executor.Answers state exchanges after

namespace Run

variable {executor : Executor σ} {state middle after : σ} {plain : Run σ α}
variable {logged : Run (σ × List Command) α} {sooner later : List Exchange}

theorem issues_pure (executor : Executor σ) (value : α) (state : σ) :
    Issues executor (pure value) (pure value) state (.ok value) state [] :=
  ⟨rfl, fun _ => rfl, .done state⟩

private theorem issues_ofExcept (executor : Executor σ) (outcome : Except Failure α) (state : σ) :
    Issues executor (ofExcept outcome) (ofExcept outcome) state outcome state [] :=
  ⟨rfl, fun _ => rfl, .done state⟩

/-- One command is one exchange. -/
theorem issues_send (executor : Executor σ) (command : Command) (state : σ) :
    Issues executor (executor.send command) (executor.logged.send command) state
      (executor.execute command state).1 (executor.execute command state).2
      [⟨command, (executor.execute command state).1⟩] :=
  ⟨rfl, fun _ => rfl, .next rfl (.done _)⟩

/-- What follows a value comes after the exchanges that led to it. -/
theorem Issues.bind {next : α → Run σ β} {nextLogged : α → Run (σ × List Command) β} {value : α}
    {outcome : Except Failure β} (first : Issues executor plain logged state (.ok value) middle sooner)
    (second : Issues executor (next value) (nextLogged value) middle outcome after later) :
    Issues executor (plain >>= next) (logged >>= nextLogged) state outcome after
      (sooner ++ later) where
  plain := by
    rw [ExceptT.run_bind, StateT.run_bind, first.plain]
    exact second.plain
  logged before := by
    rw [ExceptT.run_bind, StateT.run_bind, first.logged before, List.map_append,
      List.reverse_append, List.append_assoc]
    exact second.logged _
  answers := first.answers.append second.answers

/-- Nothing follows a failure. -/
theorem Issues.fails {failure : Failure}
    (failed : Issues executor plain logged state (.error failure) after sooner)
    (next : α → Run σ β) (nextLogged : α → Run (σ × List Command) β) :
    Issues executor (plain >>= next) (logged >>= nextLogged) state (.error failure) after
      sooner where
  plain := by
    rw [ExceptT.run_bind, StateT.run_bind, failed.plain]
    rfl
  logged before := by
    rw [ExceptT.run_bind, StateT.run_bind, failed.logged before]
    rfl
  answers := failed.answers

/-- What follows a value at hand. -/
theorem Issues.afterOk {given : Except Failure α} {value : α} (holds : given = .ok value)
    {next : α → Run σ β} {nextLogged : α → Run (σ × List Command) β} {outcome : Except Failure β}
    (second : Issues executor (next value) (nextLogged value) state outcome after later) :
    Issues executor (ofExcept given >>= next) (ofExcept given >>= nextLogged) state outcome after
      later := by
  rw [holds]
  exact (issues_pure executor value state).bind second

/-- Nothing follows a failure at hand. -/
theorem issues_afterError {given : Except Failure α} {failure : Failure}
    (failed : given = .error failure) (next : α → Run σ β)
    (nextLogged : α → Run (σ × List Command) β) :
    Issues executor (ofExcept given >>= next) (ofExcept given >>= nextLogged) state
      (.error failure) state [] := by
  rw [failed]
  exact (issues_ofExcept executor (.error failure) state).fails next nextLogged

/-- A last step without commands of its own. -/
theorem Issues.thenOf {outcome : Except Failure α}
    (issued : Issues executor plain logged state outcome after sooner)
    (step : α → Except Failure β) :
    Issues executor (plain >>= fun value => ofExcept (step value))
      (logged >>= fun value => ofExcept (step value)) state (outcome >>= step) after sooner := by
  cases outcome with
  | error failure => exact issued.fails _ _
  | ok value =>
    rw [← List.append_nil sooner]
    exact issued.bind (issues_ofExcept executor (step value) after)

theorem Issues.map {outcome : Except Failure α}
    (issued : Issues executor plain logged state outcome after sooner) (change : α → β) :
    Issues executor (change <$> plain) (change <$> logged) state (outcome.map change) after
      sooner := by
  have mapped := issued.thenOf fun value => .ok (change value)
  cases outcome <;> exact mapped

end Run

/-! ## Reads of rows -/

namespace Lookup

/-- Rows are read under keys in their order, until no more are wanted or until one of them cannot
be read. -/
inductive Reads (space : KeySpace) : List String → List Exchange → Option Failure → Prop where
  | enough (keys : List String) : Reads space keys [] none
  | failed {key : String} {exchange : Exchange} {failure : Failure} (rest : List String)
      (asks : exchange.command = .hgetall (space.rowKey key))
      (fails : exchange.row = .error failure) : Reads space (key :: rest) [exchange] (some failure)
  | read {key : String} {exchange : Exchange} {row : Row} {rest : List String}
      {exchanges : List Exchange} {failure : Option Failure}
      (asks : exchange.command = .hgetall (space.rowKey key)) (holds : exchange.row = .ok row)
      (later : Reads space rest exchanges failure) :
      Reads space (key :: rest) (exchange :: exchanges) failure

variable {space : KeySpace} {keys : List String} {exchanges : List Exchange}
variable {failure : Option Failure}

/-- The commands are reads of a first part of the keys. -/
theorem Reads.isPrefix (reads : Reads space keys exchanges failure) :
    exchanges.map (·.command) <+: keys.map fun key => .hgetall (space.rowKey key) := by
  induction reads with
  | enough keys => exact List.nil_prefix
  | failed rest asks fails =>
    rw [List.map_cons, List.map_cons, asks, List.cons_prefix_cons]
    exact ⟨rfl, List.nil_prefix⟩
  | read asks holds later ih =>
    rw [List.map_cons, List.map_cons, asks, List.cons_prefix_cons]
    exact ⟨rfl, ih⟩

/-- A row that cannot be read is the last that is asked for. -/
theorem Reads.halts (reads : Reads space keys exchanges failure) {sooner later : List Exchange}
    {exchange : Exchange} {reason : Failure} (split : exchanges = sooner ++ exchange :: later)
    (fails : exchange.row = .error reason) : later = [] ∧ failure = some reason := by
  induction reads generalizing sooner with
  | enough keys => simp at split
  | failed rest asks failed =>
    obtain ⟨rfl, same⟩ | ⟨others, -, tail⟩ := List.cons_eq_append_iff.1 split
    · cases same
      cases fails.symm.trans failed
      exact ⟨rfl, rfl⟩
    · simp at tail
  | read asks holds rest ih =>
    obtain ⟨rfl, same⟩ | ⟨others, -, tail⟩ := List.cons_eq_append_iff.1 split
    · cases same
      cases fails.symm.trans holds
    · exact ih tail

/-- Reading fails only by a row that cannot be read. -/
theorem Reads.succeeds (reads : Reads space keys exchanges failure)
    (read : ∀ exchange ∈ exchanges, ∃ row, exchange.row = .ok row) : failure = none := by
  induction reads with
  | enough keys => rfl
  | failed rest asks fails =>
    obtain ⟨row, holds⟩ := read _ List.mem_cons_self
    cases fails.symm.trans holds
  | read asks holds later ih =>
    exact ih fun exchange member => read exchange (List.mem_cons_of_mem _ member)

variable (executor : Executor σ)

/-- Reading a row is one exchange, and ends with what the answer holds. -/
theorem fetch_issues (space : KeySpace) (key : String) (state : σ) :
    ∃ exchange after, exchange.command = .hgetall (space.rowKey key) ∧
      Run.Issues executor (fetch executor space key) (fetch executor.logged space key) state
        exchange.row after [exchange] := by
  let answer := executor.execute (.hgetall (space.rowKey key)) state
  have sent := Run.issues_send executor (.hgetall (space.rowKey key)) state
  exact ⟨⟨.hgetall (space.rowKey key), answer.1⟩, answer.2, rfl, sent.thenOf Row.ofReply⟩

/-- Reading all keys reads them in order, and leaves one out only after a failure. -/
theorem fetchAll_issues (space : KeySpace) (keys : List String) (state : σ) :
    ∃ outcome after exchanges,
      Run.Issues executor (fetchAll executor space keys) (fetchAll executor.logged space keys) state
        outcome after exchanges ∧
      Reads space keys exchanges (failure? outcome) ∧
      (failure? outcome = none → exchanges.length = keys.length) := by
  induction keys generalizing state with
  | nil => exact ⟨_, _, _, Run.issues_pure executor [] state, .enough [], fun _ => rfl⟩
  | cons key rest ih =>
    obtain ⟨exchange, middle, asks, fetched⟩ := fetch_issues executor space key state
    cases held : exchange.row with
    | error reason =>
      rw [held] at fetched
      exact ⟨_, _, _, fetched.fails _ _, .failed rest asks held, nofun⟩
    | ok row =>
      rw [held] at fetched
      obtain ⟨outcome, after, exchanges, others, reads, whole⟩ := ih middle
      refine ⟨_, _, _, fetched.bind (others.map fun found =>
        if row.isEmpty then found else (key, row) :: found), ?_, ?_⟩
      · cases outcome <;> exact .read asks held reads
      · intro succeeded
        have count : exchanges.length = rest.length := by
          cases outcome with
          | error reason => cases succeeded
          | ok found => exact whole rfl
        exact congrArg (· + 1) count

/-- Reading up to the end of a window reads keys in order. -/
theorem fetchWindow_issues (space : KeySpace) (window : Window) (onlyOne : Bool)
    (keys : List String) (found : Nat) (state : σ) :
    ∃ outcome after exchanges,
      Run.Issues executor (fetchWindow executor space window onlyOne found keys)
        (fetchWindow executor.logged space window onlyOne found keys) state outcome after
        exchanges ∧
      Reads space keys exchanges (failure? outcome) := by
  induction keys generalizing found state with
  | nil => exact ⟨_, _, _, Run.issues_pure executor [] state, .enough []⟩
  | cons key rest ih =>
    simp only [fetchWindow]
    cases past : window.isPast found with
    | true => exact ⟨_, _, _, Run.issues_pure executor [] state, .enough (key :: rest)⟩
    | false =>
      obtain ⟨exchange, middle, asks, fetched⟩ := fetch_issues executor space key state
      cases held : exchange.row with
      | error reason =>
        rw [held] at fetched
        exact ⟨_, _, _, fetched.fails _ _, .failed rest asks held⟩
      | ok row =>
        rw [held] at fetched
        -- Whether the row counts or not, reading goes on or there is enough.
        have goesOn (passed : Nat) := ih passed middle
        cases empty : row.isEmpty with
        | true =>
          obtain ⟨outcome, after, exchanges, others, reads⟩ := goesOn found
          refine ⟨outcome, after, exchange :: exchanges, fetched.bind ?_, .read asks held reads⟩
          simp only [empty, if_true]
          exact others
        | false =>
          obtain ⟨outcome, after, exchanges, others, reads⟩ := goesOn (found + 1)
          cases inside : window.contains (found + 1) with
          | false =>
            refine ⟨outcome, after, exchange :: exchanges, fetched.bind ?_, .read asks held reads⟩
            simp only [empty]
            exact others
          | true =>
            cases onlyOne with
            | true =>
              refine ⟨.ok [row], middle, [exchange], fetched.bind ?_, .read asks held (.enough rest)⟩
              simp only [empty]
              exact Run.issues_pure executor [row] middle
            | false =>
              refine ⟨outcome.map (row :: ·), after, exchange :: exchanges, fetched.bind ?_, ?_⟩
              · simp only [empty]
                exact others.map (row :: ·)
              · cases outcome <;> exact .read asks held reads

/-- A lookup in an order reads all keys; without one it may stop at the end of the window. -/
theorem rowsInWindow_issues (space : KeySpace) (window : Window) (onlyOne : Bool)
    (order : Option OrderTerm) (keys : List String) (state : σ) :
    ∃ outcome after exchanges,
      Run.Issues executor (rowsInWindow executor space window onlyOne order keys)
        (rowsInWindow executor.logged space window onlyOne order keys) state outcome after
        exchanges ∧
      Reads space keys exchanges (failure? outcome) ∧
      (order.isSome = true → failure? outcome = none → exchanges.length = keys.length) := by
  cases order with
  | none =>
    obtain ⟨outcome, after, exchanges, issued, reads⟩ :=
      fetchWindow_issues executor space window onlyOne keys 0 state
    exact ⟨outcome, after, exchanges, issued, reads, nofun⟩
  | some term =>
    obtain ⟨outcome, after, exchanges, issued, reads, whole⟩ :=
      fetchAll_issues executor space keys state
    have sorted := issued.map fun found => window.slice ((SortEntry.sort term.direction
      (found.map fun entry => SortEntry.mk (entry.2.find? term.column) entry.1 entry.2)).map (·.item))
    refine ⟨_, after, exchanges, sorted, ?_, fun _ => ?_⟩
    · cases outcome <;> exact reads
    · cases outcome <;> exact whole

/-- The distinct texts are those that are left when repetitions are erased. -/
theorem distinct_eq_eraseDups (texts : List String) : distinct texts = texts.eraseDups := by
  induction texts using List.reverseRecOn with
  | nil => rfl
  | append_singleton texts text ih =>
    rw [Write.eraseDups_append_singleton, ← ih]
    have member : text ∈ texts.foldl
        (fun seen text => if seen.contains text then seen else text :: seen) [] ↔ text ∈ texts := by
      have same : text ∈ distinct texts ↔ text ∈ texts := mem_distinct
      rwa [distinct, List.mem_reverse] at same
    rw [distinct, distinct, List.foldl_append, List.foldl_cons, List.foldl_nil]
    by_cases known : text ∈ texts
    · rw [if_pos (List.contains_iff_mem.2 (member.2 known)), if_pos known]
    · have unseen := fun seen => known (member.1 (List.contains_iff_mem.1 seen))
      rw [if_neg unseen, if_neg known, List.reverse_cons]

/-- The keys that a lookup reads: the encoded keys in the order asked for, each once. -/
def encodedKeys (keys : List KeyValue) : List String := (keys.map KeyValue.encode).eraseDups

/-- A lookup reads the rows of keys in their order and no row twice, all of them where it has to be
`whole`. The first row that cannot be read is the last that is asked for, and its failure is the
outcome. -/
structure ReadsRows (space : KeySpace) (keys : List String) (whole : Prop)
    (exchanges : List Exchange) (outcome : Except Failure α) : Prop where
  inOrder : exchanges.map (·.command) <+: keys.map fun key => .hgetall (space.rowKey key)
  once : (exchanges.map (·.command)).Nodup
  complete : whole → (∀ exchange ∈ exchanges, ∃ row, exchange.row = .ok row) →
    exchanges.length = keys.length
  halts : ∀ sooner exchange later failure, exchanges = sooner ++ exchange :: later →
    exchange.row = .error failure → later = [] ∧ outcome = .error failure

private theorem nodup_encodedKeys (keys : List KeyValue) : (encodedKeys keys).Nodup := by
  rw [encodedKeys, ← distinct_eq_eraseDups]
  exact nodup_distinct _

theorem Reads.readsRows {read : Except Failure β} {outcome : Except Failure α} {whole : Prop}
    (reads : Reads space keys exchanges (failure? read)) (distinct : keys.Nodup)
    (complete : whole → failure? read = none → exchanges.length = keys.length)
    (passed : ∀ failure, read = .error failure → outcome = .error failure) :
    ReadsRows space keys whole exchanges outcome where
  inOrder := reads.isPrefix
  once := by
    refine reads.isPrefix.sublist.nodup (List.Nodup.map ?_ distinct)
    intro first second same
    exact KeySpace.rowKey_inj_same.1 (Command.hgetall.inj same)
  complete needed held := complete needed (reads.succeeds held)
  halts sooner exchange later failure split fails := by
    obtain ⟨last, failed⟩ := reads.halts split fails
    exact ⟨last, passed failure (failure?_eq_some.1 failed)⟩

/-- A lookup reads rows, and then answers from them without a further command. -/
theorem run_issues (space : KeySpace) {query : Query} (kind : Query.Kind) (keys : List KeyValue)
    {order : Option OrderTerm} (ordered : query.singleOrder = .ok order) (state : σ) :
    ∃ read after exchanges,
      Run.Issues executor (run executor space query kind keys)
        (run executor.logged space query kind keys) state (read >>= kind.answerOf) after
        exchanges ∧
      Reads space (encodedKeys keys) exchanges (failure? read) ∧
      (kind = .count ∨ order.isSome = true → failure? read = none →
        exchanges.length = (encodedKeys keys).length) := by
  rw [encodedKeys, ← distinct_eq_eraseDups]
  have start (τ : Type) : (Run.ofExcept query.singleOrder : Run τ _) = pure order :=
    ordered ▸ rfl
  simp only [run, start, pure_bind]
  by_cases counted : kind = .count
  · obtain ⟨outcome, after, exchanges, issued, reads, whole⟩ :=
      fetchAll_issues executor space (distinct (keys.map KeyValue.encode)) state
    have rows := (issued.map fun found => found.map (·.2)).thenOf kind.answerOf
    simp only [counted, if_true] at rows ⊢
    refine ⟨_, after, exchanges, rows, ?_, fun _ => ?_⟩
    · cases outcome <;> exact reads
    · cases outcome <;> exact whole
  · obtain ⟨outcome, after, exchanges, issued, reads, whole⟩ :=
      rowsInWindow_issues executor space query.window (kind = .one) order
        (distinct (keys.map KeyValue.encode)) state
    have rows := issued.thenOf kind.answerOf
    simp only [counted, if_false] at rows ⊢
    refine ⟨outcome, after, exchanges, rows, reads, ?_⟩
    rintro (count | someOrder)
    · exact count.elim
    · exact whole someOrder

end Lookup

/-! ## Operations -/

namespace TableQuery

/-- The kind of answer that an operation asks for. -/
def Operation.kind : Operation → Query.Kind
  | .all => .all
  | .allIndexed _ => .all
  | .one => .one
  | .count => .count
  | .hasMatch => .one
  | .scalar _ => .one
  | .column name => .column name
  | .sum name => .sum name
  | .average name => .average name
  | .min name => .min name
  | .max name => .max name

/-- What an operation makes of the answer. -/
def Operation.conclude : (operation : Operation) → operation.kind.Answer → operation.Result
  | .all => fun rows => rows
  | .allIndexed name => fun (rows : List Row) =>
    FieldMap.ofList (rows.filterMap fun row => (row.find? name).map (·, row))
  | .one => fun row => row
  | .count => fun number => number
  | .hasMatch => fun (row : Option Row) => row.isSome
  | .scalar name => fun (row : Option Row) => row.bind (·.find? name)
  | .column _ => fun fields => fields
  | .sum _ => fun number => number
  | .average _ => fun number => number
  | .min _ => fun number => number
  | .max _ => fun number => number

/-- A count of all rows, which reads the length of the key list. -/
def CountsKeys (request : TableQuery) (operation : Operation) : Prop :=
  request.isEmulated = false ∧ operation = .count ∧ request.query.filter = none

variable {request : TableQuery} {operation : Operation}

theorem perform_emulated (emulated : request.isEmulated = true) (operation : Operation) :
    ∃ result, ∀ {τ : Type} (executor : Executor τ),
      request.perform executor operation = pure result := by
  cases operation <;>
    simp only [perform, all, allIndexed, one, count, hasMatch, scalar, column, sum, average, min,
      max, answerOr, emulated, if_true] <;>
    exact ⟨_, fun _ => rfl⟩

/-- Every other operation answers by its kind and concludes from the answer. -/
theorem perform_live (live : request.isEmulated = false)
    (asked : ¬ request.CountsKeys operation) {τ : Type} (executor : Executor τ) :
    request.perform executor operation =
      operation.conclude <$> request.answer executor operation.kind := by
  have answers (kind : Query.Kind) (nothing : kind.Answer) :
      request.answerOr executor kind nothing = request.answer executor kind := by
    rw [answerOr, live]
    rfl
  have everyRow : request.all executor = request.answer executor .all := answers .all []
  have firstRow : request.one executor = request.answer executor .one := answers .one none
  have asIs {α : Type} (answer : Run τ α) : answer = (fun value => value) <$> answer :=
    (id_map answer).symm
  cases operation with
  | count =>
    have filtered : request.query.filter.isNone = false := by
      cases filter : request.query.filter with
      | none => exact (asked ⟨live, rfl, filter⟩).elim
      | some filter => rfl
    simp only [perform, count, live, filtered]
    exact asIs _
  | all => exact everyRow.trans (asIs _)
  | allIndexed name =>
    rw [perform, allIndexed, everyRow, map_eq_pure_bind]
    rfl
  | one => exact firstRow.trans (asIs _)
  | hasMatch =>
    rw [perform, hasMatch, firstRow, map_eq_pure_bind]
    rfl
  | scalar name =>
    rw [perform, scalar, firstRow, map_eq_pure_bind]
    rfl
  | column name => exact (answers (.column name) []).trans (asIs _)
  | sum name => exact (answers (.sum name) .zero).trans (asIs _)
  | average name => exact (answers (.average name) .zero).trans (asIs _)
  | min name => exact (answers (.min name) none).trans (asIs _)
  | max name => exact (answers (.max name) none).trans (asIs _)

/-- What an answer issues. A refused query issues nothing and fails with its refusal; a query with
keys to look up reads rows, all of them for a count or an order; any other runs one program. -/
structure Answering (request : TableQuery) (space : KeySpace) (kind : Query.Kind)
    (exchanges : List Exchange) (outcome : Except Failure α) : Prop where
  refused : ∀ failure, request.Refused failure → exchanges = [] ∧ outcome = .error failure
  looked : (∀ failure, ¬ request.Refused failure) → ∀ keys, request.keys? = .ok (some keys) →
    Lookup.ReadsRows space (Lookup.encodedKeys keys) (kind = .count ∨ request.query.order ≠ [])
      exchanges outcome
  scanned : (∀ failure, ¬ request.Refused failure) → request.keys? = .ok none →
    ∃ program, ScanProgram.ofQuery space request.query kind = .ok program ∧
      exchanges.map (·.command) = [.eval program]

variable {space : KeySpace} {kind : Query.Kind} {exchanges : List Exchange}
variable {outcome : Except Failure α}

theorem Answering.map (answering : Answering request space kind exchanges outcome)
    (change : α → β) : Answering request space kind exchanges (outcome.map change) where
  refused failure refused := by
    obtain ⟨nothing, failed⟩ := answering.refused failure refused
    exact ⟨nothing, by rw [failed]; rfl⟩
  looked unrefused keys named := by
    have reads := answering.looked unrefused keys named
    refine { reads with halts := fun sooner exchange later failure split fails => ?_ }
    obtain ⟨last, failed⟩ := reads.halts sooner exchange later failure split fails
    exact ⟨last, by rw [failed]; rfl⟩
  scanned := answering.scanned

/-- Rows are never both read one by one and scanned. -/
theorem Answering.apart (answering : Answering request space kind exchanges outcome) :
    ¬ ((∃ key, .hgetall key ∈ exchanges.map (·.command)) ∧
      ∃ program, .eval program ∈ exchanges.map (·.command)) := by
  rintro ⟨⟨key, read⟩, program, ran⟩
  by_cases refused : ∃ failure, request.Refused failure
  · obtain ⟨failure, refused⟩ := refused
    rw [(answering.refused failure refused).1] at read
    cases read
  · have unrefused := not_exists.1 refused
    obtain ⟨-, ⟨keys, named⟩ | ⟨unnamed, -⟩⟩ := planned_of_unrefused unrefused
    · have reads := (answering.looked unrefused keys named).inOrder
      obtain ⟨other, -, same⟩ := List.mem_map.1 (reads.subset ran)
      cases same
    · obtain ⟨only, -, alone⟩ := answering.scanned unrefused unnamed
      rw [alone] at read
      cases List.mem_singleton.1 read

theorem keySpace_issues (executor : Executor σ) (request : TableQuery) (state : σ) :
    Run.Issues executor (request.keySpace executor) (request.keySpace executor.logged) state
      (.ok (request.table.keySpace (executor.isClustered state))) state [] :=
  ⟨rfl, fun _ => rfl, .done state⟩

private theorem singleOrder_isSome {query : Query} {order : Option OrderTerm}
    (ordered : query.singleOrder = .ok order) : order.isSome = true ↔ query.order ≠ [] := by
  rw [Query.singleOrder] at ordered
  split at ordered
  next unordered =>
    cases ordered
    simp [unordered]
  next term only =>
    cases ordered
    simp [only]
  next => cases ordered

/-- Every answer issues what its query plans, whatever the executor replies. -/
theorem answer_issues (executor : Executor σ) (request : TableQuery) (kind : Query.Kind)
    (state : σ) :
    ∃ outcome after exchanges,
      Run.Issues executor (request.answer executor kind) (request.answer executor.logged kind)
        state outcome after exchanges ∧
      Answering request (request.table.keySpace (executor.isClustered state)) kind exchanges
        outcome := by
  have inSpace := keySpace_issues executor request state
  by_cases refused : ∃ failure, request.Refused failure
  · obtain ⟨failure, refused⟩ := refused
    refine ⟨.error failure, state, [], inSpace.bind ?_, ?_⟩
    · -- The refusal comes before the first command: of the keys, the order or the program.
      obtain failed | ⟨keys, found, unordered⟩ | ⟨unnamed, unformed⟩ := refused.fails
      · exact Run.issues_afterError failed _ _
      · exact .afterOk found (Run.issues_afterError unordered _ _)
      · exact .afterOk unnamed (Run.issues_afterError (unformed _ kind) _ _)
    · refine ⟨fun other also => ⟨rfl, ?_⟩, ?_, ?_⟩
      · rw [refused.unique also]
      · exact fun unrefused => (unrefused failure refused).elim
      · exact fun unrefused => (unrefused failure refused).elim
  · have unrefused := not_exists.1 refused
    obtain ⟨⟨order, ordered⟩, ⟨keys, found⟩ | ⟨unnamed, forms⟩⟩ := planned_of_unrefused unrefused
    · obtain ⟨read, after, exchanges, issued, reads, whole⟩ := Lookup.run_issues executor
        (request.table.keySpace (executor.isClustered state)) kind keys ordered state
      refine ⟨_, _, _, inSpace.bind (.afterOk found issued), ?_, ?_, ?_⟩
      · exact fun failure refused => (unrefused failure refused).elim
      · intro _ others same
        cases found.symm.trans same
        refine reads.readsRows (Lookup.nodup_encodedKeys keys) ?_ ?_
        · exact fun asked => whole (asked.imp_right (singleOrder_isSome ordered).2)
        · rintro failure rfl
          rfl
      · exact fun _ unnamed => nomatch found.symm.trans unnamed
    · obtain ⟨program, formed⟩ := forms (request.table.keySpace (executor.isClustered state)) kind
      have ran := (Run.issues_send executor (.eval program) state).thenOf kind.answerOfReply
      refine ⟨_, _, _, inSpace.bind (.afterOk unnamed (.afterOk formed ran)), ?_, ?_, ?_⟩
      · exact fun failure refused => (unrefused failure refused).elim
      · exact fun _ keys found => nomatch unnamed.symm.trans found
      · exact fun _ _ => ⟨program, formed, rfl⟩

/-- The length of the key list is asked for once. -/
theorem listLength_issues (executor : Executor σ) (request : TableQuery) (state : σ) :
    ∃ outcome after exchanges,
      Run.Issues executor (request.listLength executor) (request.listLength executor.logged)
        state outcome after exchanges ∧
      exchanges.map (·.command) =
        [.llen (request.table.keySpace (executor.isClustered state)).listKey] := by
  let length (reply : Reply) : Except Failure Nat :=
    reply.int?.elim (.error (reply.unexpectedFor "LLEN")) fun number => .ok number.toNat
  have reading {τ : Type} (other : Executor τ) : request.listLength other =
      request.keySpace other >>= fun space =>
        other.send (.llen space.listKey) >>= fun reply => Run.ofExcept (length reply) := by
    refine bind_congr fun space => bind_congr fun reply => ?_
    simp only [length]
    cases reply.int? <;> rfl
  rw [reading executor, reading executor.logged]
  exact ⟨_, _, _, (keySpace_issues executor request state).bind
    ((Run.issues_send executor _ state).thenOf length), rfl⟩

/-- What an operation issues, for every executor whatever it replies. An emulated query issues
nothing, a count of all rows asks for the length of the key list once, and any other operation
issues what its query plans: nothing if it is refused, reads of rows by key, or one program. -/
theorem commands_of_perform (executor : Executor σ) (request : TableQuery) (operation : Operation)
    (state : σ) :
    ∃ outcome after exchanges,
      Run.Issues executor (request.perform executor operation)
        (request.perform executor.logged operation) state outcome after exchanges ∧
      (request.isEmulated = true → exchanges = []) ∧
      (request.CountsKeys operation → exchanges.map (·.command) =
        [.llen (request.table.keySpace (executor.isClustered state)).listKey]) ∧
      (request.isEmulated = false → ¬ request.CountsKeys operation →
        Answering request (request.table.keySpace (executor.isClustered state)) operation.kind
          exchanges outcome) ∧
      ¬ ((∃ key, .hgetall key ∈ exchanges.map (·.command)) ∧
        ∃ program, .eval program ∈ exchanges.map (·.command)) := by
  cases emulated : request.isEmulated with
  | true =>
    obtain ⟨result, nothing⟩ := perform_emulated emulated operation
    refine ⟨.ok result, state, [], ?_, fun _ => rfl, ?_, nofun, ?_⟩
    · rw [nothing executor, nothing executor.logged]
      exact Run.issues_pure executor result state
    · rintro ⟨live, -⟩
      cases emulated.symm.trans live
    · rintro ⟨⟨key, read⟩, -⟩
      cases read
  | false =>
    by_cases counts : request.CountsKeys operation
    · obtain ⟨-, rfl, unfiltered⟩ := counts
      obtain ⟨outcome, after, exchanges, issued, asked⟩ := listLength_issues executor request state
      refine ⟨outcome, after, exchanges, ?_, nofun, fun _ => asked, ?_, ?_⟩
      · simp only [perform, count, emulated, unfiltered]
        exact issued
      · exact fun _ others => (others ⟨emulated, rfl, unfiltered⟩).elim
      · rw [asked]
        rintro ⟨⟨key, read⟩, -⟩
        cases List.mem_singleton.1 read
    · obtain ⟨outcome, after, exchanges, issued, answering⟩ :=
        answer_issues executor request operation.kind state
      refine ⟨outcome.map operation.conclude, after, exchanges, ?_, nofun, ?_, ?_, answering.apart⟩
      · rw [perform_live emulated counts executor, perform_live emulated counts executor.logged]
        exact issued.map operation.conclude
      · exact fun counts' => (counts counts').elim
      · exact fun _ _ => answering.map operation.conclude

end TableQuery
end Rowscan
