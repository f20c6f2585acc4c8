import Rowscan.Proofs.QueryKinds

/-!
What a query sees of a store. Two stores look alike on a key space if they list the same keys and
hold the same rows under those and under all encoded keys (`Store.Alike`); every operation of a query
and every lookup then ends the same on both (`TableQuery.sameFrom_perform`). The wire format is no
part of the view: rows come as maps in the newer one and as flat lists in the older, and a script's
`false` in two shapes, but what is read from them is the same (`newer_eq_older`).
-/
namespace Rowscan

/-! ## The same end from two states -/

/-- Running from either state has one outcome, and leaves the state as it is. -/
def Run.SameFrom {σ α : Type} (computation : Run σ α) (first second : σ) : Prop :=
  ∃ outcome, computation.Gives first outcome ∧ computation.Gives second outcome

namespace Run

variable {σ α β : Type} {first second : σ}

private theorem sameFrom_pure (value : α) : SameFrom (pure value : Run σ α) first second :=
  ⟨.ok value, gives_pure value, gives_pure value⟩

private theorem sameFrom_ofExcept (outcome : Except Failure α) :
    SameFrom (ofExcept outcome) first second :=
  ⟨outcome, gives_ofExcept outcome, gives_ofExcept outcome⟩

/-- A computation ends the same if its parts do. -/
theorem SameFrom.bind {start : Run σ α} {next : α → Run σ β} (same : start.SameFrom first second)
    (goesOn : ∀ value, start.Gives first (.ok value) → (next value).SameFrom first second) :
    (start >>= next).SameFrom first second := by
  obtain ⟨outcome, left, right⟩ := same
  cases outcome with
  | error failure => exact ⟨.error failure, left.fails next, right.fails next⟩
  | ok value =>
    obtain ⟨outcome, later, laterToo⟩ := goesOn value left
    exact ⟨outcome, left.bind later, right.bind laterToo⟩

theorem SameFrom.map {start : Run σ α} (same : start.SameFrom first second) (change : α → β) :
    (change <$> start).SameFrom first second :=
  same.bind fun value _ => sameFrom_pure (change value)

end Run

open Run

/-! ## Views -/

/-- Two stores list the same keys in a key space and hold the same rows under them, and under
every encoded key that may be asked for. -/
structure Store.Alike (space : KeySpace) (first second : Store) : Prop where
  list : first.listOf space = second.listOf space
  listed : ∀ key ∈ first.listOf space, first.rowOf space key = second.rowOf space key
  encoded : ∀ key : KeyValue, first.rowOf space key.encode = second.rowOf space key.encode

variable {first second : Store} {space : KeySpace}

theorem Store.Alike.refl (store : Store) : Alike space store store :=
  ⟨rfl, fun _ _ => rfl, fun _ => rfl⟩

theorem Store.Alike.trans {third : Store} (sooner : Alike space first second)
    (later : Alike space second third) : Alike space first third where
  list := sooner.list.trans later.list
  listed key member := (sooner.listed key member).trans (later.listed key (sooner.list ▸ member))
  encoded key := (sooner.encoded key).trans (later.encoded key)

/-! ### Lookups -/

namespace Lookup

private theorem sameFrom_fetch {key : String}
    (same : first.rowOf space key = second.rowOf space key) :
    (fetch Store.executor space key).SameFrom first second :=
  ⟨_, fetch_gives first space key, same ▸ fetch_gives second space key⟩

variable {keys : List String}
variable (same : ∀ key ∈ keys, first.rowOf space key = second.rowOf space key)
include same

private theorem sameFrom_fetchAll : (fetchAll Store.executor space keys).SameFrom first second := by
  induction keys with
  | nil => exact sameFrom_pure []
  | cons key rest ih =>
    have others := ih fun other later => same other (List.mem_cons_of_mem _ later)
    refine (sameFrom_fetch (same key List.mem_cons_self)).bind fun row _ => ?_
    exact others.bind fun found _ => sameFrom_pure _

private theorem sameFrom_fetchWindow (window : Window) (onlyOne : Bool) (found : Nat) :
    (fetchWindow Store.executor space window onlyOne found keys).SameFrom first second := by
  induction keys generalizing found with
  | nil => exact sameFrom_pure []
  | cons key rest ih =>
    have others := ih fun other later => same other (List.mem_cons_of_mem _ later)
    rw [fetchWindow]
    split
    next past => exact sameFrom_pure []
    next ahead =>
      refine (sameFrom_fetch (same key List.mem_cons_self)).bind fun row _ => ?_
      split
      next missing => exact others found
      next stored =>
        split
        next inside =>
          split
          next enough => exact sameFrom_pure [row]
          next => exact (others (found + 1)).bind fun rows _ => sameFrom_pure _
        next outside => exact others (found + 1)

private theorem sameFrom_rowsInWindow (window : Window) (onlyOne : Bool)
    (order : Option OrderTerm) :
    (rowsInWindow Store.executor space window onlyOne order keys).SameFrom first second := by
  cases order with
  | none => exact sameFrom_fetchWindow same window onlyOne 0
  | some term => exact (sameFrom_fetchAll same).bind fun found _ => sameFrom_pure _

end Lookup

/-- A lookup reads rows under encoded keys, and nothing else. -/
theorem Lookup.sameFrom_run
    (encoded : ∀ key : KeyValue, first.rowOf space key.encode = second.rowOf space key.encode)
    (query : Query) (kind : Query.Kind) (keys : List KeyValue) :
    (run Store.executor space query kind keys).SameFrom first second := by
  have same : ∀ key ∈ distinct (keys.map KeyValue.encode),
      first.rowOf space key = second.rowOf space key := by
    intro key member
    obtain ⟨value, -, rfl⟩ := List.mem_map.1 (mem_distinct.1 member)
    exact encoded value
  refine (sameFrom_ofExcept _).bind fun order _ => ?_
  split
  · exact ((sameFrom_fetchAll same).map _).bind fun rows _ => sameFrom_ofExcept _
  · exact (sameFrom_rowsInWindow same _ _ order).bind fun rows _ => sameFrom_ofExcept _

/-! ### Scans -/

namespace Store

variable {program : ScanProgram} {keys : List String}

/-- A scan selects the same keys if their rows are judged the same. -/
theorem select_congr
    (judged : ∀ key ∈ keys, first.satisfies program key = second.satisfies program key)
    (passed : Nat) : first.select program passed keys = second.select program passed keys := by
  induction keys generalizing passed with
  | nil => rfl
  | cons key rest ih =>
    have others := ih fun other later => judged other (List.mem_cons_of_mem _ later)
    simp only [select, judged key List.mem_cons_self, others]

/-- A scan selects among the keys that it visits. -/
theorem subset_of_select {store : Store} {passed : Nat} {found : List String}
    (selected : store.select program passed keys = .ok found) : found ⊆ keys := by
  induction keys generalizing passed found with
  | nil => cases selected; exact List.nil_subset _
  | cons key rest ih =>
    cases judged : store.satisfies program key with
    | error failure =>
      rw [select, judged] at selected
      cases selected
    | ok holds =>
      cases holds with
      | false =>
        rw [select_skip judged] at selected
        exact List.subset_cons_of_subset key (ih selected)
      | true =>
        cases inside : program.window.contains (passed + 1) with
        | false =>
          rw [select_outside judged inside] at selected
          exact List.subset_cons_of_subset key (ih selected)
        | true =>
          rw [select_inside judged inside] at selected
          split at selected
          · cases selected
            exact List.cons_subset_cons key (List.nil_subset rest)
          · obtain ⟨others, later, same⟩ := of_map_ok selected
            subst same
            exact List.cons_subset_cons key (ih later)

variable (alike : Alike program.space first second)
include alike

theorem Alike.candidates : first.candidates program = second.candidates program := by
  rw [Store.candidates, Store.candidates, ← alike.list]
  cases program.order with
  | none => rfl
  | some term =>
    dsimp only
    congr 2
    exact List.map_congr_left fun key member => by rw [alike.listed key member]

/-- Stores that look alike are scanned alike, up to the shape of the reply. -/
theorem Alike.scan : ∃ rows : Except Failure (List Row),
    first.scan program = rows.map (first.gather program.kind) ∧
      second.scan program = rows.map (second.gather program.kind) := by
  have visited : ∀ key ∈ first.candidates program,
      first.rowOf program.space key = second.rowOf program.space key := fun key member =>
    alike.listed key ((perm_candidates first program).mem_iff.1 member)
  have judged : ∀ key ∈ first.candidates program,
      first.satisfies program key = second.satisfies program key := by
    intro key member
    rw [satisfies, satisfies, visited key member]
  have same := select_congr judged 0
  rw [Store.scan, Store.scan, ← alike.candidates, ← same]
  cases selected : first.select program 0 (first.candidates program) with
  | error failure => exact ⟨.error failure, rfl, rfl⟩
  | ok keys =>
    have rows : keys.map (first.rowOf program.space) = keys.map (second.rowOf program.space) :=
      List.map_congr_left fun key member => visited key (subset_of_select selected member)
    exact ⟨.ok (keys.map (first.rowOf program.space)), rfl, by rw [rows]; rfl⟩

end Store

/-- What stands for a number that is missing is read the same in both wire formats. -/
theorem Store.optionalReply_congr {α : Type} (first second : Store) (number : Option Double)
    (missing : α) (read : Reply → α) :
    (if (first.optionalReply number).isFalse then missing else read (first.optionalReply number)) =
      if (second.optionalReply number).isFalse then missing
      else read (second.optionalReply number) := by
  cases number with
  | none => simp [optionalReply, Query.Kind.isFalse_falseReply]
  | some number => rfl

/-- The answer that is read from a reply does not depend on the wire format of the store. -/
theorem Query.Kind.answerOfReply_gather_congr (first second : Store) (kind : Query.Kind)
    (rows : List Row) :
    kind.answerOfReply (first.gather kind rows) = kind.answerOfReply (second.gather kind rows) := by
  cases kind with
  | all => rw [answerOfReply_all, answerOfReply_all]
  | one => rw [answerOfReply_head, answerOfReply_head]
  | count => rw [answerOfReply_count, answerOfReply_count]
  | column name => rw [answerOfReply_column, answerOfReply_column]
  | sum name => rw [Store.gather_sum, Store.gather_sum]
  | average name =>
    rw [Store.gather_average, Store.gather_average]
    exact first.optionalReply_congr second (Row.average? name rows) _ _
  | min name =>
    rw [Store.gather_min, Store.gather_min]
    exact first.optionalReply_congr second (Row.least? (Row.numbers name rows)) (.ok none)
      fun reply => (numberOfReply (.min name) reply).map some
  | max name =>
    rw [Store.gather_max, Store.gather_max]
    exact first.optionalReply_congr second (Row.greatest? (Row.numbers name rows)) (.ok none)
      fun reply => (numberOfReply (.max name) reply).map some

/-- A program walks the key space that it was made for, for the kind that it was made for. -/
theorem ScanProgram.of_ofQuery {query : Query} {kind : Query.Kind} {program : ScanProgram}
    (built : ofQuery space query kind = .ok program) :
    program.space = space ∧ program.kind = kind := by
  obtain ⟨order, -, rest⟩ := of_bind_ok built
  cases filtered : query.filter with
  | none =>
    rw [filtered] at rest
    cases rest
    exact ⟨rfl, rfl⟩
  | some filter =>
    rw [filtered] at rest
    obtain ⟨⟨condition, columns⟩, -, same⟩ := of_bind_ok rest
    cases same
    exact ⟨rfl, rfl⟩

/-! ## Operations -/

namespace TableQuery

/-- The operations of a query, with their columns. -/
inductive Operation where
  | all
  | allIndexed (column : String)
  | one
  | count
  | hasMatch
  | scalar (column : String)
  | column (name : String)
  | sum (name : String)
  | average (name : String)
  | min (name : String)
  | max (name : String)

/-- What an operation yields. -/
def Operation.Result : Operation → Type
  | .all => List Row
  | .allIndexed _ => FieldMap Row
  | .one => Option Row
  | .count => Nat
  | .hasMatch => Bool
  | .scalar _ => Option String
  | .column _ => List (Option String)
  | .sum _ => Double
  | .average _ => Double
  | .min _ => Option Double
  | .max _ => Option Double

/-- Performs an operation. -/
def perform {σ : Type} (request : TableQuery) (executor : Executor σ) :
    (operation : Operation) → Run σ operation.Result
  | .all => request.all executor
  | .allIndexed column => request.allIndexed executor column
  | .one => request.one executor
  | .count => request.count executor
  | .hasMatch => request.hasMatch executor
  | .scalar column => request.scalar executor column
  | .column name => request.column executor name
  | .sum name => request.sum executor name
  | .average name => request.average executor name
  | .min name => request.min executor name
  | .max name => request.max executor name

variable (request : TableQuery) (clustered : first.isClustered = second.isClustered)
variable (alike : Store.Alike (request.spaceIn first) first second)
include clustered

private theorem spaceIn_eq : request.spaceIn second = request.spaceIn first :=
  congrArg request.table.keySpace clustered.symm

private theorem sameFrom_keySpace : (request.keySpace Store.executor).SameFrom first second := by
  have same := spaceIn_eq request clustered
  exact ⟨.ok (request.spaceIn first), gives_pure _, same ▸ gives_pure _⟩

include alike

private theorem sameFrom_scan (kind : Query.Kind) :
    (request.scan Store.executor (request.spaceIn first) kind).SameFrom first second := by
  have left := scans_outcome request first kind
  have right := scans_outcome request second kind
  have same := spaceIn_eq request clustered
  rw [Scans, same] at right
  refine ⟨_, left, ?_⟩
  cases built : ScanProgram.ofQuery (request.spaceIn first) request.query kind with
  | error failure =>
    rw [built] at right
    exact right
  | ok program =>
    obtain ⟨placed, rfl⟩ := ScanProgram.of_ofQuery built
    rw [← placed] at alike
    obtain ⟨rows, scanned, scannedToo⟩ := alike.scan
    rw [built] at right
    change Run.Gives _ second (first.scan program >>= program.kind.answerOfReply)
    change Run.Gives _ second (second.scan program >>= program.kind.answerOfReply) at right
    rw [scannedToo] at right
    rw [scanned]
    cases rows with
    | error failure => exact right
    | ok rows =>
      change Run.Gives _ second (program.kind.answerOfReply (second.gather program.kind rows)) at right
      rw [← Query.Kind.answerOfReply_gather_congr first second] at right
      exact right

private theorem sameFrom_answer (kind : Query.Kind) :
    (request.answer Store.executor kind).SameFrom first second := by
  refine (sameFrom_keySpace request clustered).bind fun space placed => ?_
  cases (Gives.unique (gives_pure _) placed : Except.ok (request.spaceIn first) = .ok space)
  refine (sameFrom_ofExcept _).bind fun keys _ => ?_
  cases keys with
  | none => exact sameFrom_scan request clustered alike kind
  | some keys => exact Lookup.sameFrom_run alike.encoded request.query kind keys

private theorem sameFrom_answerOr (kind : Query.Kind) (emulated : kind.Answer) :
    (request.answerOr Store.executor kind emulated).SameFrom first second := by
  rw [answerOr]
  split
  · exact sameFrom_pure emulated
  · exact sameFrom_answer request clustered alike kind

private theorem sameFrom_listLength :
    (request.listLength Store.executor).SameFrom first second := by
  have same := spaceIn_eq request clustered
  have left : (request.listLength Store.executor).Gives first _ := listLength_gives
  have right : (request.listLength Store.executor).Gives second _ := listLength_gives
  rw [same, ← alike.list] at right
  exact ⟨_, left, right⟩

private theorem sameFrom_count : (request.count Store.executor).SameFrom first second := by
  cases emulated : request.isEmulated with
  | true =>
    rw [count, emulated]
    exact sameFrom_pure 0
  | false =>
    cases filtered : request.query.filter with
    | none =>
      rw [count, emulated, filtered]
      exact sameFrom_listLength request clustered alike
    | some filter =>
      rw [count_of_filter emulated filtered]
      exact sameFrom_answer request clustered alike .count

/-- Every operation ends the same on stores that look alike. -/
theorem sameFrom_perform (operation : Operation) :
    (request.perform Store.executor operation).SameFrom first second := by
  have answers (kind : Query.Kind) (emulated : kind.Answer) :=
    sameFrom_answerOr request clustered alike kind emulated
  cases operation with
  | all => exact answers .all _
  | allIndexed column => exact (answers .all _).bind fun rows _ => sameFrom_pure _
  | one => exact answers .one _
  | count => exact sameFrom_count request clustered alike
  | hasMatch => exact (answers .one _).bind fun row _ => sameFrom_pure _
  | scalar column => exact (answers .one _).bind fun row _ => sameFrom_pure _
  | column name => exact answers (.column name) _
  | sum name => exact answers (.sum name) _
  | average name => exact answers (.average name) _
  | min name => exact answers (.min name) _
  | max name => exact answers (.max name) _

end TableQuery

/-! ## Wire formats -/

/-- The wire format is no part of a table. -/
theorem Store.alike_isNewer (store : Store) (space : KeySpace) (left right : Bool) :
    Alike space { store with isNewer := left } { store with isNewer := right } :=
  ⟨rfl, fun _ _ => rfl, fun _ => rfl⟩

/-- The wire format is invisible. Of two stores that differ in it alone, one replies to a read with
a flat list and the other with a map, and a script's `false` is null from the one and a boolean from
the other; but every operation of every query, and every lookup of keys, has the same outcome on
both, its failures included. -/
theorem newer_eq_older (store : Store) :
    let older := { store with isNewer := false }
    let newer := { store with isNewer := true }
    (∀ (request : TableQuery) (operation : TableQuery.Operation),
      (request.perform Store.executor operation).SameFrom older newer) ∧
    (∀ (space : KeySpace) (query : Query) (kind : Query.Kind) (keys : List KeyValue),
      (Lookup.run Store.executor space query kind keys).SameFrom older newer) ∧
    (∀ key, (∃ flat, older.reply (.hgetall key) = .ok (.array flat)) ∧
      ∃ pairs, newer.reply (.hgetall key) = .ok (.map pairs)) ∧
    older.falseReply = .null ∧ newer.falseReply = .boolean false := by
  intro older newer
  have alike (space : KeySpace) : Store.Alike space older newer :=
    store.alike_isNewer space false true
  refine ⟨fun request operation => ?_, fun space query kind keys => ?_,
    fun key => ⟨⟨_, rfl⟩, ⟨_, rfl⟩⟩, rfl, rfl⟩
  · have clustered : older.isClustered = newer.isClustered := rfl
    exact request.sameFrom_perform clustered (alike _) operation
  · exact Lookup.sameFrom_run (alike space).encoded query kind keys

end Rowscan
