import Rowscan.Proofs.CommandTraces
import Rowscan.Proofs.KeyListing

/-!
Which replies of a store are refused by the one who asked. The store and the reader of its replies
are written apart: one shapes a reply for each command, the other accepts some shapes and refuses
the rest as a fault of the protocol. They agree on everything but one point. A sum, a mean or an
extremum travels as the text of a number, and the texts of the numbers that are not finite are no
numerals; so a scan that gathers such a number is answered with a reply that is refused
(`replies_refused_iff`). A lookup computes the same numbers without sending them, and a number that
is finite always reads back.
-/
namespace Rowscan

/-! ## Outcomes that are no refusal -/

/-- No reply was refused on the way to this outcome. -/
def Undisputed {α : Type} (outcome : Except Failure α) : Prop :=
  ∀ what, outcome ≠ .error (.protocol what)

section Outcomes

variable {α β : Type}

theorem undisputed_ok (value : α) : Undisputed (.ok value) := nofun

private theorem undisputed_notSupported (what : String) :
    Undisputed (.error (.notSupported what) : Except Failure α) := nofun

private theorem undisputed_server (text : String) :
    Undisputed (.error (.server text) : Except Failure α) := nofun

/-- Steps without a refusal make a run without one. -/
theorem Undisputed.bind {outcome : Except Failure α} {next : α → Except Failure β}
    (first : Undisputed outcome) (later : ∀ value, outcome = .ok value → Undisputed (next value)) :
    Undisputed (outcome >>= next) := by
  cases outcome with
  | error failure =>
    intro what refused
    cases refused
    exact first what rfl
  | ok value => exact later value rfl

theorem Undisputed.map {outcome : Except Failure α} (undisputed : Undisputed outcome)
    (change : α → β) : Undisputed (outcome.map change) :=
  undisputed.bind fun value _ => undisputed_ok (change value)

theorem Undisputed.of_error {failure : Failure}
    (undisputed : Undisputed (.error failure : Except Failure α)) :
    Undisputed (.error failure : Except Failure β) := by
  intro what refused
  cases refused
  exact undisputed what rfl

end Outcomes

/-- Changing the value of a computation changes its outcome, if that is a value. -/
theorem Run.Gives.mapped {σ α β : Type} {state : σ} {computation : Run σ α}
    {outcome : Except Failure α} (given : computation.Gives state outcome) (change : α → β) :
    (change <$> computation).Gives state (outcome.map change) :=
  given.andThen fun value _ => gives_pure (change value)

/-! ## Evaluating conditions -/

namespace Condition

private theorem undisputed_equalHolds (field : Option String) (value : Literal) :
    Undisputed (equalHolds field value) := by
  cases value with
  | raw expression => exact undisputed_notSupported _
  | _ => exact undisputed_ok _

private theorem undisputed_compareHolds (field : Option String) (op : CompareOp) (value : Literal)
    (numeric : Bool) : Undisputed (compareHolds field op value numeric) := by
  unfold compareHolds numericHolds textHolds
  split
  · exact undisputed_notSupported _
  · split
    · split
      · exact undisputed_server _
      · split
        · exact undisputed_server _
        · exact undisputed_ok _
    · split
      · exact undisputed_ok _
      · exact undisputed_server _
      · exact undisputed_server _

mutual

/-- A condition fails because of what it compares, or because it is raw. -/
theorem undisputed_holds (row : Row) (field : String → Option String) :
    (condition : Condition) → Undisputed (condition.holds row field)
  | .empty => undisputed_ok true
  | .constant value => undisputed_ok value
  | .absent _ => undisputed_ok _
  | .equal label value => undisputed_equalHolds (field label) value
  | .compare label op value numeric => undisputed_compareHolds (field label) op value numeric
  | .negation condition => by
    rw [holds]
    exact (undisputed_holds row field condition).map _
  | .conjunction conditions => by
    rw [holds]
    exact undisputed_allHold row field conditions
  | .disjunction conditions => by
    rw [holds]
    exact undisputed_anyHolds row field conditions
  | .raw _ => undisputed_notSupported _

private theorem undisputed_allHold (row : Row) (field : String → Option String) :
    (conditions : List Condition) → Undisputed (allHold row field conditions)
  | [] => undisputed_ok true
  | condition :: rest => by
    have first := undisputed_holds row field condition
    rw [allHold]
    split
    · exact undisputed_allHold row field rest
    · exact first

private theorem undisputed_anyHolds (row : Row) (field : String → Option String) :
    (conditions : List Condition) → Undisputed (anyHolds row field conditions)
  | [] => undisputed_ok false
  | condition :: rest => by
    have first := undisputed_holds row field condition
    rw [anyHolds]
    split
    · exact undisputed_anyHolds row field rest
    · exact first

end

end Condition

/-! ## Forming and running a scan -/

theorem Query.undisputed_singleOrder (query : Query) : Undisputed query.singleOrder := by
  intro what refused
  cases (TableQuery.singleOrder_error.1 refused).1

theorem Filter.undisputed_compile (filter : Filter) (aliases : Aliases) :
    Undisputed (filter.compile aliases) := by
  intro what refused
  have pattern := filter.failure?_compile aliases
  rw [failure?_eq_some.2 refused] at pattern
  cases first : filter.patterns.head? with
  | none => simp [first] at pattern
  | some op => simp [first, Filter.likeRefused] at pattern

theorem ScanProgram.undisputed_ofQuery (space : KeySpace) (query : Query) (kind : Query.Kind) :
    Undisputed (ofQuery space query kind) := by
  rw [ofQuery]
  refine query.undisputed_singleOrder.bind fun order _ => ?_
  cases query.filter with
  | none => exact undisputed_ok _
  | some filter => exact (filter.undisputed_compile .empty).bind fun compiled _ => undisputed_ok _

namespace Store

variable (store : Store) (program : ScanProgram)

private theorem undisputed_satisfies (key : String) : Undisputed (store.satisfies program key) :=
  Condition.undisputed_holds _ _ program.condition

private theorem undisputed_select (matched : Nat) (keys : List String) :
    Undisputed (store.select program matched keys) := by
  induction keys generalizing matched with
  | nil => exact undisputed_ok []
  | cons key rest ih =>
    rw [select]
    refine (store.undisputed_satisfies program key).bind fun holds _ => ?_
    split
    · split
      · split
        · exact undisputed_ok [key]
        · exact (ih (matched + 1)).bind fun found _ => undisputed_ok _
      · exact ih (matched + 1)
    · exact ih matched

private theorem undisputed_scan : Undisputed (store.scan program) :=
  (store.undisputed_select program 0 _).bind fun _ _ => undisputed_ok _

private theorem undisputed_keep (keys : List String) :
    Undisputed (Verdict.keep (store.satisfies program) keys) := by
  induction keys with
  | nil => exact undisputed_ok []
  | cons key rest ih =>
    refine (store.undisputed_satisfies program key).bind fun holds _ => ?_
    split
    · exact ih.bind fun kept _ => undisputed_ok _
    · exact ih

end Store

/-! ## Matching rows -/

namespace TableQuery

variable (request : TableQuery) (store : Store)

private theorem undisputed_keys? : Undisputed request.keys? := by
  intro what refused
  cases keys?_error.1 refused

private theorem undisputed_foundRows (keys : List KeyValue) :
    Undisputed (request.foundRows store keys) :=
  request.query.undisputed_singleOrder.bind fun _ _ => undisputed_ok _

private theorem undisputed_matched : Undisputed (request.matched store) := by
  refine request.undisputed_keys?.bind fun keys _ => ?_
  cases keys with
  | some keys => exact request.undisputed_foundRows store keys
  | none =>
    refine (ScanProgram.undisputed_ofQuery _ _ _).bind fun program _ => ?_
    exact (store.undisputed_keep program _).bind fun found _ => undisputed_ok _

end TableQuery

/-! ## Numbers as replies -/

namespace Query.Kind

/-- The number that an answer over these rows is, if it is one. -/
def number? : Query.Kind → List Row → Option Double
  | .sum name, rows => some (Row.sum name rows)
  | .average name, rows => Row.average? name rows
  | .min name, rows => Row.least? (Row.numbers name rows)
  | .max name, rows => Row.greatest? (Row.numbers name rows)
  | _, _ => none

private theorem number?_of_plain {kind : Query.Kind} (plain : kind.isNumber = false)
    (rows : List Row) :
    kind.number? rows = none := by
  cases kind with
  | all => rfl
  | one => rfl
  | count => rfl
  | column name => rfl
  | _ => cases plain

/-- How the reply that holds a number is refused. -/
def refusal (kind : Query.Kind) (number : Double) : Failure :=
  (Store.numberReply number).unexpectedFor kind.name

variable (store : Store) (rows : List Row)

private theorem numberOfReply_sent (kind : Query.Kind) (number : Double) :
    numberOfReply kind (Store.numberReply number) =
      if number.isFinite then .ok number else .error (kind.refusal number) := by
  cases finite : number.isFinite with
  | true => exact numberOfReply_numberReply finite
  | false => exact numberOfReply_not_finite finite

/-- The number that was gathered is read back, or its reply is refused if it is not finite. -/
theorem answerOfReply_number {kind : Query.Kind} (numeric : kind.isNumber = true) :
    kind.answerOfReply (store.gather kind rows) =
      match kind.number? rows with
      | none => kind.answerOf rows
      | some number =>
        if number.isFinite then kind.answerOf rows else .error (kind.refusal number) := by
  have extremum (kind : Query.Kind) (number : Option Double) :
      (if (store.optionalReply number).isFalse then .ok none
        else (numberOfReply kind (store.optionalReply number)).map some) =
      match number with
      | none => Except.ok number
      | some value => if value.isFinite then .ok number else .error (kind.refusal value) := by
    rw [read_optionalReply]
    cases number <;> rfl
  cases kind with
  | sum name =>
    rw [Store.gather_sum, answerOf_sum]
    exact numberOfReply_sent (.sum name) _
  | average name =>
    rw [Store.gather_average, answerOf_average, number?]
    cases Row.average? name rows with
    | none => exact if_pos (isFalse_falseReply store)
    | some mean =>
      exact numberOfReply_sent (.average name) mean
  | min name =>
    rw [Store.gather_min, answerOf_min]
    exact extremum (.min name) _
  | max name =>
    rw [Store.gather_max, answerOf_max]
    exact extremum (.max name) _
  | _ => cases numeric

private theorem undisputed_answerOf (kind : Query.Kind) : Undisputed (kind.answerOf rows) := by
  cases kind with
  | average name =>
    rw [answerOf_average]
    split
    · exact undisputed_ok _
    · intro what refused
      cases refused
  | _ => exact undisputed_ok _

/-- A reply that was gathered is refused for a number that is not finite, and for nothing else. -/
theorem answerOfReply_refused_iff (kind : Query.Kind) (what : String) :
    kind.answerOfReply (store.gather kind rows) = .error (.protocol what) ↔
      ∃ number, kind.number? rows = some number ∧ number.isFinite = false ∧
        kind.refusal number = .protocol what := by
  have plain (unnumbered : kind.number? rows = none)
      (undisputed : Undisputed (kind.answerOfReply (store.gather kind rows))) :
      kind.answerOfReply (store.gather kind rows) = .error (.protocol what) ↔
        ∃ number, kind.number? rows = some number ∧ number.isFinite = false ∧
          kind.refusal number = .protocol what := by
    simp [unnumbered, undisputed what]
  by_cases numeric : kind.isNumber = true
  · rw [answerOfReply_number store rows numeric]
    have answered := undisputed_answerOf rows kind what
    cases number : kind.number? rows with
    | none => simp [answered]
    | some value => cases finite : value.isFinite <;> simp [answered, finite]
  · cases kind with
    | all => exact plain rfl (answerOfReply_all store rows ▸ undisputed_ok _)
    | one => exact plain rfl (answerOfReply_head store rows ▸ undisputed_ok _)
    | count => exact plain rfl (answerOfReply_count store rows ▸ undisputed_ok _)
    | column name => exact plain rfl (answerOfReply_column store rows name ▸ undisputed_ok _)
    | _ => exact (numeric rfl).elim

end Query.Kind

/-! ## Commands and operations -/

/-- How the reply to a command is refused by the one who asked: a row for a hash, a length for a
list, and for a program the answer of its kind. -/
def Command.refusal? : Command → Reply → Option Failure
  | .hgetall _, reply => failure? (Row.ofReply reply)
  | .llen _, reply => if reply.int?.isNone then some (reply.unexpectedFor "LLEN") else none
  | .eval program, reply => failure? (program.kind.answerOfReply reply)

/-- The only replies of a store that are refused are those of scans that have gathered a number
that is not finite. -/
theorem Store.reply_refused_iff {store : Store} {command : Command} {reply : Reply}
    (replied : store.reply command = .ok reply) (what : String) :
    command.refusal? reply = some (.protocol what) ↔
      ∃ program keys number, command = .eval program ∧
        store.select program 0 (store.candidates program) = .ok keys ∧
        program.kind.number? (keys.map (store.rowOf program.space)) = some number ∧
        number.isFinite = false ∧ program.kind.refusal number = .protocol what := by
  cases command with
  | hgetall key =>
    cases replied
    simp [Command.refusal?, Row.ofReply_hashReply, failure?]
  | llen key =>
    cases replied
    simp [Command.refusal?, Reply.int?]
  | eval program =>
    obtain ⟨keys, selected, same⟩ := of_bind_ok replied
    cases same
    rw [Command.refusal?, failure?_eq_some, Query.Kind.answerOfReply_refused_iff]
    constructor
    · rintro ⟨number, gathered, infinite, refused⟩
      exact ⟨program, keys, number, rfl, selected, gathered, infinite, refused⟩
    · rintro ⟨_, others, number, ⟨⟩, selectedToo, gathered, infinite, refused⟩
      cases selected.symm.trans selectedToo
      exact ⟨number, gathered, infinite, refused⟩

namespace TableQuery

variable {request : TableQuery} {store : Store} {kind : Query.Kind}

/-- A scan, not a lookup, gathers this number from the rows of the query, and it is not finite. -/
structure Overflows (request : TableQuery) (store : Store) (kind : Query.Kind) (number : Double) :
    Prop where
  live : request.isEmulated = false
  scanned : request.keys? = .ok none
  gathered : ∃ rows, (request.all Store.executor).Gives store (.ok rows) ∧
    kind.number? rows = some number
  infinite : number.isFinite = false

/-- An outcome is refused for a number that overflows, and for nothing else. -/
def RefusedIfOverflows {α : Type} (request : TableQuery) (store : Store) (kind : Query.Kind)
    (outcome : Except Failure α) : Prop :=
  ∀ what, outcome = .error (.protocol what) ↔
    ∃ number, request.Overflows store kind number ∧ kind.refusal number = .protocol what

theorem RefusedIfOverflows.of_undisputed {α : Type} {outcome : Except Failure α}
    (undisputed : Undisputed outcome) (fits : ∀ number, ¬ request.Overflows store kind number) :
    request.RefusedIfOverflows store kind outcome := by
  intro what
  constructor
  · exact fun refused => (undisputed what refused).elim
  · rintro ⟨number, overflows, -⟩
    exact (fits number overflows).elim

theorem RefusedIfOverflows.map {α β : Type} {outcome : Except Failure α}
    (refused : request.RefusedIfOverflows store kind outcome) (change : α → β) :
    request.RefusedIfOverflows store kind (outcome.map change) := by
  intro what
  rw [← refused what]
  cases outcome <;> simp [Except.map]

/-! Without a table, a number, matching rows or a scan, nothing overflows. -/

private theorem not_overflows_of_emulated (emulated : request.isEmulated = true) (number : Double) :
    ¬ request.Overflows store kind number := by
  intro overflows
  cases emulated.symm.trans overflows.live

private theorem not_overflows_of_plain (plain : kind.isNumber = false) (number : Double) :
    ¬ request.Overflows store kind number := by
  intro overflows
  obtain ⟨rows, -, gathered⟩ := overflows.gathered
  cases (Query.Kind.number?_of_plain plain rows).symm.trans gathered

private theorem not_overflows_of_unmatched {failure : Failure}
    (failed : (request.all Store.executor).Gives store (.error failure)) (number : Double) :
    ¬ request.Overflows store kind number := by
  intro overflows
  obtain ⟨rows, answered, -⟩ := overflows.gathered
  cases failed.unique answered

private theorem not_overflows_of_keys {keys : List KeyValue}
    (named : request.keys? = .ok (some keys))
    (number : Double) : ¬ request.Overflows store kind number := by
  intro overflows
  cases named.symm.trans overflows.scanned

/-- Where no number is asked for, no reply is refused. -/
theorem answer_plain (request : TableQuery) (store : Store) (plain : kind.isNumber = false) :
    ∃ outcome, (request.answer Store.executor kind).Gives store outcome ∧ Undisputed outcome := by
  have refused := request.undisputed_keys?
  cases named : request.keys? with
  | error failure =>
    have start : (Run.ofExcept request.keys?).Gives store (.error failure) :=
      named ▸ Run.gives_ofExcept _
    exact ⟨.error failure, (Run.gives_pure _).bind (start.fails _), (named ▸ refused).of_error⟩
  | ok keys =>
    cases keys with
    | some keys =>
      have unfound := request.undisputed_foundRows store keys
      cases found : request.foundRows store keys with
      | error failure =>
        exact ⟨_, answer_of_looks named (looks_of_unfound kind found), (found ▸ unfound).of_error⟩
      | ok rows =>
        exact ⟨_, answer_of_looks named (looks_of_found kind found),
          Query.Kind.undisputed_answerOf _ kind⟩
    | none =>
      refine ⟨_, answer_of_scans named (scans_outcome request store kind), ?_⟩
      refine (ScanProgram.undisputed_ofQuery _ _ _).bind fun program built => ?_
      refine (store.undisputed_scan program).bind fun reply replied => ?_
      obtain ⟨keys, -, same⟩ := of_bind_ok replied
      cases same
      intro what refused
      rw [(ScanProgram.of_ofQuery built).2, Query.Kind.answerOfReply_refused_iff] at refused
      obtain ⟨number, gathered, -⟩ := refused
      cases (Query.Kind.number?_of_plain plain _).symm.trans gathered

/-- A query that asks for a number has this outcome, which is refused for a number that overflows,
and is otherwise the number that the matching rows in the window make. -/
structure EndsWith (request : TableQuery) (store : Store) (kind : Query.Kind)
    (outcome : Except Failure kind.Answer) : Prop where
  given : (request.answer Store.executor kind).Gives store outcome
  refused : request.RefusedIfOverflows store kind outcome
  read : (∀ number, ¬ request.Overflows store kind number) →
    ∀ rows, (request.all Store.executor).Gives store (.ok rows) → outcome = kind.answerOf rows

section Numbers

variable {rows : List Row} (live : request.isEmulated = false)

include live

private theorem endsWith_unmatched {failure : Failure}
    (matching : request.matched store = .error failure)
    (several : kind ≠ .one) : request.EndsWith store kind (.error failure) where
  given := answer_of_unmatched kind matching several
  refused := .of_undisputed (matching ▸ request.undisputed_matched store).of_error
    (not_overflows_of_unmatched (all_of_unmatched live matching))
  read := fun _ rows answered => by cases (all_of_unmatched live matching).unique answered

/-- The rows that all of a query gives, where its matching rows are known. -/
theorem eq_page_of_all (matching : request.matched store = .ok rows) {given : List Row}
    (answered : (request.all Store.executor).Gives store (.ok given)) :
    given = request.query.page rows :=
  Except.ok.inj (answered.unique (all_of_matched live matching))

/-- A lookup makes the number from the rows that it has found. -/
theorem endsWith_found (matching : request.matched store = .ok rows) {keys : List KeyValue}
    (named : request.keys? = .ok (some keys)) (found : request.foundRows store keys = .ok rows)
    (uncounted : kind ≠ .count) :
    request.EndsWith store kind (kind.answerOf (request.query.page rows)) := by
  have looked := looks_of_found kind found
  rw [if_neg uncounted, Query.slice_window] at looked
  refine ⟨answer_of_looks named looked, .of_undisputed (Query.Kind.undisputed_answerOf _ kind)
    (not_overflows_of_keys named), ?_⟩
  intro _ given answered
  rw [eq_page_of_all live matching answered]

/-- A scan sends the number. -/
theorem endsWith_scanned (matching : request.matched store = .ok rows)
    (unnamed : request.keys? = .ok none) (scanned : request.scannedRows store = .ok rows)
    (numeric : kind.isNumber = true) : request.EndsWith store kind
      (kind.answerOfReply (store.gather kind (request.query.page rows))) := by
  have whole := all_of_matched live matching
  have read := scans_of_scanned kind scanned
  rw [Query.slice_window] at read
  refine ⟨answer_of_scans unnamed read, fun what => ?_, fun fits given answered => ?_⟩
  · rw [Query.Kind.answerOfReply_refused_iff]
    constructor
    · rintro ⟨number, gathered, infinite, refused⟩
      exact ⟨number, ⟨live, unnamed, ⟨_, whole, gathered⟩, infinite⟩, refused⟩
    · rintro ⟨number, ⟨-, -, ⟨given, answered, gathered⟩, infinite⟩, refused⟩
      rw [eq_page_of_all live matching answered] at gathered
      exact ⟨number, gathered, infinite, refused⟩
  · rw [eq_page_of_all live matching answered, Query.Kind.answerOfReply_number store _ numeric]
    cases gathered : kind.number? (request.query.page rows) with
    | none => rfl
    | some number =>
      cases finite : number.isFinite with
      | true => simp [finite]
      | false => exact (fits number ⟨live, unnamed, ⟨_, whole, gathered⟩, finite⟩).elim

/-- A number is refused if a scan has gathered it and it is not finite. Otherwise it is the one
that the matching rows in the window make. -/
theorem answer_number (store : Store) (numeric : kind.isNumber = true) :
    ∃ outcome, request.EndsWith store kind outcome := by
  have several : kind ≠ .one := by
    rintro rfl
    cases numeric
  have uncounted : kind ≠ .count := by
    rintro rfl
    cases numeric
  cases matching : request.matched store with
  | error failure => exact ⟨_, endsWith_unmatched live matching several⟩
  | ok rows =>
    rcases found_or_scanned matching with ⟨keys, named, found⟩ | ⟨unnamed, scanned⟩
    · exact ⟨_, endsWith_found live matching named found uncounted⟩
    · exact ⟨_, endsWith_scanned live matching unnamed scanned numeric⟩

end Numbers

/-- An operation is refused for a number that overflows, and otherwise concludes from the number
that the matching rows in the window make. -/
theorem perform_refused_iff (request : TableQuery) (store : Store) (operation : Operation) :
    ∃ outcome, (request.perform Store.executor operation).Gives store outcome ∧
      request.RefusedIfOverflows store operation.kind outcome ∧
      (request.isEmulated = false → operation.kind.isNumber = true →
        (∀ number, ¬ request.Overflows store operation.kind number) →
          ∀ rows, (request.all Store.executor).Gives store (.ok rows) →
            outcome = (operation.kind.answerOf rows).map operation.conclude) := by
  cases emulated : request.isEmulated with
  | true =>
    obtain ⟨result, answers⟩ := perform_emulated emulated operation
    exact ⟨.ok result, answers Store.executor ▸ Run.gives_pure result,
      .of_undisputed (undisputed_ok result) (not_overflows_of_emulated emulated), nofun⟩
  | false =>
    by_cases counts : request.CountsKeys operation
    · obtain ⟨-, rfl, unfiltered⟩ := counts
      refine ⟨.ok (store.listOf (request.spaceIn store)).length, ?_,
        .of_undisputed (undisputed_ok _) (not_overflows_of_plain rfl), nofun⟩
      simp only [perform, count, emulated, unfiltered]
      exact listLength_gives
    · rw [perform_live emulated counts]
      by_cases numeric : operation.kind.isNumber = true
      · obtain ⟨outcome, given, refused, read⟩ := answer_number emulated store numeric
        refine ⟨outcome.map operation.conclude, given.mapped _, refused.map _, ?_⟩
        intro _ _ fits rows all
        rw [read fits rows all]
      · have plain := Bool.not_eq_true _ ▸ numeric
        obtain ⟨outcome, given, undisputed⟩ := answer_plain request store plain
        exact ⟨outcome.map operation.conclude, given.mapped _,
          .of_undisputed (undisputed.map _) (not_overflows_of_plain plain),
          fun _ numericToo => (numeric numericToo).elim⟩

end TableQuery

/-- Where a store and the reader of its replies disagree. A reply to a command is refused exactly
if it is that of a scan which has gathered a number that is not finite, and so is what an operation
of a query ends with. In every other case a number is the one that the rows of the query make. -/
theorem replies_refused_iff (store : Store) :
    (∀ command reply, store.reply command = .ok reply → ∀ what,
      command.refusal? reply = some (.protocol what) ↔
        ∃ program keys number, command = .eval program ∧
          store.select program 0 (store.candidates program) = .ok keys ∧
          program.kind.number? (keys.map (store.rowOf program.space)) = some number ∧
          number.isFinite = false ∧ program.kind.refusal number = .protocol what) ∧
    ∀ (request : TableQuery) (operation : TableQuery.Operation), ∃ outcome,
      (request.perform Store.executor operation).Gives store outcome ∧
      (∀ what, outcome = .error (.protocol what) ↔ ∃ number,
        request.Overflows store operation.kind number ∧
          operation.kind.refusal number = .protocol what) ∧
      (request.isEmulated = false → operation.kind.isNumber = true →
        (∀ number, ¬ request.Overflows store operation.kind number) →
          ∀ rows, (request.all Store.executor).Gives store (.ok rows) →
            outcome = (operation.kind.answerOf rows).map operation.conclude) := by
  exact ⟨fun command reply replied => Store.reply_refused_iff replied,
    fun request operation => request.perform_refused_iff store operation⟩

/-- One age is a numeral for a number beyond every double. -/
theorem replies_refused_beyond :
    let store := ((Store.empty false false).insert people
      [("id", .int 1), ("age", .string "1e999")]).2
    (people.everyRow.perform Store.executor (.sum "age")).Gives store
      (.error (.protocol "unexpected reply for sum: Bulk([105, 110, 102])")) := by
  intro store
  obtain ⟨outcome, performed, refused, -⟩ :=
    (replies_refused_iff store).2 people.everyRow (.sum "age")
  have gathered : ∃ rows, (people.everyRow.all Store.executor).Gives store (.ok rows) ∧
      Query.Kind.number? (.sum "age") rows = some (.infinite false) := by
    refine ⟨_, all_everyRow store people, ?_⟩
    decide +kernel
  have overflows : people.everyRow.Overflows store (.sum "age") (.infinite false) :=
    ⟨rfl, rfl, gathered, rfl⟩
  have worded : Query.Kind.refusal (.sum "age") (.infinite false) =
      .protocol "unexpected reply for sum: Bulk([105, 110, 102])" := by decide +kernel
  rw [(refused _).2 ⟨_, overflows, worded⟩] at performed
  exact performed

end Rowscan
