import Rowscan.Proofs.QueryKinds

/-!
Why a query cannot be formed. A filter on the fields of a composite key may be refused before
anything else is looked at, several ordering terms are refused on either path, and a pattern
condition is refused wherever it stands in a filter that a script would have to evaluate
(`TableQuery.Refused`). Nothing else is: a query that is not refused is served by key or compiles
(`planned_of_unrefused`).
-/
namespace Rowscan

/-- The failure that an outcome is, if it is one. -/
def failure? {α : Type} : Except Failure α → Option Failure
  | .ok _ => none
  | .error failure => some failure

theorem failure?_eq_some {α : Type} {outcome : Except Failure α} {failure : Failure} :
    failure? outcome = some failure ↔ outcome = .error failure := by
  cases outcome <;> simp [failure?]

private theorem failure?_eq_none {α : Type} {outcome : Except Failure α} :
    failure? outcome = none ↔ ∃ value, outcome = .ok value := by
  cases outcome <;> simp [failure?]

/-! ## Pattern conditions -/

namespace Filter

mutual

/-- The pattern operators in a filter, in the order in which they stand there. -/
def patterns : Filter → List LikeOp
  | .negation filter => patterns filter
  | .conjunction filters => patternsIn filters
  | .disjunction filters => patternsIn filters
  | .like op _ _ => [op]
  | _ => []
termination_by structural filter => filter

/-- The pattern operators in several filters. -/
def patternsIn : List Filter → List LikeOp
  | [] => []
  | filter :: rest => patterns filter ++ patternsIn rest
termination_by structural filters => filters

end

mutual

/-- Compiling fails for the first pattern operator in a filter, and for nothing else. -/
theorem failure?_compile : (filter : Filter) → (aliases : Aliases) →
    failure? (filter.compile aliases) = filter.patterns.head?.map likeRefused
  | .hash _, _ => rfl
  | .negation filter, aliases => by
    have inner := failure?_compile filter aliases
    rw [compile_negation, patterns, ← inner]
    cases filter.compile aliases <;> rfl
  | .conjunction filters, aliases => by
    have inner := failure?_compileAll filters aliases
    rw [compile_conjunction, patterns, ← inner]
    cases compileAll filters aliases <;> rfl
  | .disjunction filters, aliases => by
    have inner := failure?_compileAll filters aliases
    rw [compile_disjunction, patterns, ← inner]
    cases compileAll filters aliases <;> rfl
  | .between _ _ _ _, _ => rfl
  | .membership _ _ _, _ => rfl
  | .compare _ _ _, _ => rfl
  | .like _ _ _, _ => rfl
  | .raw _, _ => rfl

private theorem failure?_compileAll : (filters : List Filter) → (aliases : Aliases) →
    failure? (compileAll filters aliases) = (patternsIn filters).head?.map likeRefused
  | [], _ => rfl
  | filter :: rest, aliases => by
    rw [compileAll_cons, patternsIn, List.head?_append, Option.map_or, ← failure?_compile filter aliases]
    cases filter.compile aliases with
    | error failure => rfl
    | ok result =>
      obtain ⟨condition, registered⟩ := result
      have others := failure?_compileAll rest registered
      rw [← others]
      cases compiled : compileAll rest registered <;> simp only [compiled] <;> rfl

end

end Filter

/-! ## Queries -/

namespace TableQuery

/-- Conditions on a composite key that no path serves: membership among its fields, and a list of
values for one of them. -/
inductive RefusedByKey (request : TableQuery) : Failure → Prop where
  | membership {columns : List String} {items : List SetItem}
      (asked : request.query.filter = some (.membership columns items false))
      (composite : 1 < request.table.primaryKey.length) (named : columns ≠ [])
      (fields : ∀ column ∈ columns, column ∈ request.table.primaryKey) :
      RefusedByKey request (.notSupported "IN over a composite primary key is not supported")
  | list {entries : List (String × HashValue)} {column : String} {items : List SetItem}
      (asked : request.query.filter = some (.hash entries))
      (composite : 1 < request.table.primaryKey.length)
      (exact : ∀ field, field ∈ entries.map (·.1) ↔ field ∈ request.table.primaryKey)
      (listed : (column, .list items) ∈ entries) :
      RefusedByKey request
        (.notSupported "finding by a list of composite primary keys is not supported")

/-- The refusal of a query, the first that applies: of its key condition, of several ordering
terms, or of the first pattern in a filter that is not served by key. -/
inductive Refused (request : TableQuery) : Failure → Prop where
  | key {failure : Failure} (refused : request.RefusedByKey failure) : Refused request failure
  | order (formed : ∀ failure, ¬ request.RefusedByKey failure)
      (several : 1 < request.query.order.length) :
      Refused request (.notSupported "ordering by multiple columns is not supported")
  | pattern {filter : Filter} {op : LikeOp} (scanned : request.keys? = .ok none)
      (single : request.query.order.length ≤ 1) (asked : request.query.filter = some filter)
      (first : filter.patterns.head? = some op) :
      Refused request (Filter.likeRefused op)

variable {request : TableQuery} {failure : Failure}

/-! ### Conditions on the key -/

theorem compositeFields_error {entries : List (String × HashValue)} :
    Lookup.compositeFields entries = .error failure ↔
      failure = .notSupported "finding by a list of composite primary keys is not supported" ∧
        ∃ column items, (column, HashValue.list items) ∈ entries := by
  induction entries with
  | nil => simp [Lookup.compositeFields]
  | cons entry rest ih =>
    obtain ⟨column, value⟩ := entry
    cases value with
    | list items =>
      simp only [Lookup.compositeFields, Except.error.injEq]
      constructor
      · rintro rfl
        exact ⟨rfl, column, items, List.mem_cons_self⟩
      · exact fun refused => refused.1.symm
    | value literal =>
      have rest_error : Lookup.compositeFields ((column, .value literal) :: rest) =
          .error failure ↔ Lookup.compositeFields rest = .error failure := by
        rw [Lookup.compositeFields]
        cases Lookup.compositeFields rest <;> simp [Except.map]
      rw [rest_error, ih]
      simp

theorem isPrimaryKey_iff {table : Table} {columns : List String} :
    table.isPrimaryKey columns = true ↔
      columns ≠ [] ∧ ∀ field, field ∈ columns ↔ field ∈ table.primaryKey := by
  simp only [Table.isPrimaryKey, Bool.and_eq_true, List.all_eq_true, List.contains_iff_mem,
    Bool.not_eq_true', List.isEmpty_eq_false_iff, and_assoc]
  refine and_congr_right fun _ => ⟨?_, ?_⟩
  · rintro ⟨inside, covers⟩ field
    exact ⟨inside field, covers field⟩
  · intro same
    exact ⟨fun field => (same field).1, fun field => (same field).2⟩

theorem refusesMembership_iff {filter : Filter} {table : Table} :
    Lookup.refusesMembership filter table = true ↔
      ∃ columns items, filter = .membership columns items false ∧ 1 < table.primaryKey.length ∧
        columns ≠ [] ∧ ∀ column ∈ columns, column ∈ table.primaryKey := by
  unfold Lookup.refusesMembership
  split
  next columns items => simp [Table.hasCompositeKey, and_assoc]
  next other =>
    constructor
    · intro refuses
      cases refuses
    · rintro ⟨columns, items, rfl, -⟩
      exact (other columns items rfl).elim

/-- Of the filters on exactly the key fields, those with a list of values for a composite key
have no keys to offer. -/
theorem keysOf_error {filter : Filter} {table : Table} :
    Lookup.keysOf filter table = .error failure ↔
      failure = .notSupported "finding by a list of composite primary keys is not supported" ∧
        ∃ entries column items, filter = .hash entries ∧ 1 < table.primaryKey.length ∧
          (column, HashValue.list items) ∈ entries := by
  unfold Lookup.keysOf
  split
  next entries =>
    split
    next composite =>
      have several : 1 < table.primaryKey.length := by simpa [Table.hasCompositeKey] using composite
      have mapped {change : List (String × Literal) → Option (List KeyValue)} :
          (Lookup.compositeFields entries).map change = .error failure ↔
            Lookup.compositeFields entries = .error failure := by
        cases Lookup.compositeFields entries <;> simp [Except.map]
      simp [mapped, compositeFields_error, several]
    next scalar =>
      have few : ¬ 1 < table.primaryKey.length := by simpa [Table.hasCompositeKey] using scalar
      split <;> simp [few]
  next => simp
  next other _ =>
    simp only [reduceCtorEq, false_iff]
    rintro ⟨-, entries, -, -, rfl, -⟩
    exact other entries rfl

/-- The filter is refused for the reasons above, and for no other. -/
theorem keys?_error : request.keys? = .error failure ↔ request.RefusedByKey failure := by
  constructor
  · intro refused
    rw [keys?] at refused
    split at refused
    next filter asked =>
      rw [Lookup.candidates] at refused
      split at refused
      next membership =>
        obtain ⟨columns, items, rfl, composite, named, fields⟩ := refusesMembership_iff.1 membership
        cases refused
        exact .membership asked composite named fields
      next =>
        split at refused
        next eligible =>
          rcases of_bind_error refused with failed | ⟨keys, -, returned⟩
          · obtain ⟨rfl, entries, column, items, rfl, composite, listed⟩ := keysOf_error.1 failed
            exact .list asked composite (isPrimaryKey_iff.1 eligible).2 listed
          · split at returned <;> cases returned
        next => cases refused
    next => cases refused
  · intro refused
    cases refused with
    | @membership columns items asked composite named fields =>
      have refuses : Lookup.refusesMembership (.membership columns items false) request.table = true :=
        refusesMembership_iff.2 ⟨columns, items, rfl, composite, named, fields⟩
      rw [keys?, asked]
      simp only [Lookup.candidates, refuses, if_true]
    | @list entries column items asked composite exact listed =>
      have eligible : Lookup.isEligible (.hash entries) request.table = true :=
        isPrimaryKey_iff.2 ⟨List.ne_nil_of_mem (List.mem_map_of_mem listed), exact⟩
      have failed := keysOf_error.2 ⟨rfl, entries, column, items, rfl, composite, listed⟩
      have passed : Lookup.refusesMembership (.hash entries) request.table = false := rfl
      rw [keys?, asked]
      simp only [Lookup.candidates, passed, eligible, failed]
      rfl

/-! ### Either path -/

theorem singleOrder_error {query : Query} : query.singleOrder = .error failure ↔
    failure = .notSupported "ordering by multiple columns is not supported" ∧
      1 < query.order.length := by
  rw [Query.singleOrder]
  rcases query.order with _ | ⟨term, _ | ⟨second, more⟩⟩
  · simp
  · simp
  · simp [eq_comm]

/-- A program cannot be made if there are several ordering terms, or else a pattern. -/
theorem failure?_ofQuery (space : KeySpace) (query : Query) (kind : Query.Kind) :
    failure? (ScanProgram.ofQuery space query kind) = (failure? query.singleOrder).or
      (query.filter.bind fun filter => filter.patterns.head?.map Filter.likeRefused) := by
  rw [ScanProgram.ofQuery]
  cases query.singleOrder with
  | error failure => rfl
  | ok order =>
    cases query.filter with
    | none => rfl
    | some filter =>
      have compiled := filter.failure?_compile .empty
      rw [Option.bind_some, ← compiled]
      cases program : filter.compile .empty <;> simp only [program] <;> rfl

/-- A refused query fails before anything is looked up or run. -/
theorem Refused.fails (refused : request.Refused failure) :
    request.keys? = .error failure ∨
      (∃ keys, request.keys? = .ok (some keys) ∧ request.query.singleOrder = .error failure) ∨
      request.keys? = .ok none ∧
        ∀ space kind, ScanProgram.ofQuery space request.query kind = .error failure := by
  cases refused with
  | key refused => exact .inl (keys?_error.2 refused)
  | order formed several =>
    have unordered := singleOrder_error.2 ⟨rfl, several⟩
    cases named : request.keys? with
    | error failure => exact (formed failure (keys?_error.1 named)).elim
    | ok keys =>
      cases keys with
      | some keys => exact .inr (.inl ⟨keys, rfl, unordered⟩)
      | none =>
        refine .inr (.inr ⟨rfl, fun space kind => ?_⟩)
        rw [← failure?_eq_some, failure?_ofQuery, unordered]
        rfl
  | pattern scanned single asked first =>
    obtain ⟨order, ordered⟩ := singleOrder_of_length single
    refine .inr (.inr ⟨scanned, fun space kind => ?_⟩)
    rw [← failure?_eq_some, failure?_ofQuery, ordered, asked, Option.bind_some, first]
    rfl

/-- A query has one refusal at most. -/
theorem Refused.unique {other : Failure} (refused : request.Refused failure)
    (also : request.Refused other) : failure = other := by
  obtain first | ⟨keys, found, first⟩ | ⟨unnamed, first⟩ := refused.fails <;>
    obtain second | ⟨keys, found', second⟩ | ⟨unnamed', second⟩ := also.fails
  · exact Except.error.inj (first.symm.trans second)
  all_goals simp_all

/-- A query that is not refused has one order at most, and keys to look up or a program to run. -/
theorem planned_of_unrefused (unrefused : ∀ failure, ¬ request.Refused failure) :
    (∃ order, request.query.singleOrder = .ok order) ∧
      ((∃ keys, request.keys? = .ok (some keys)) ∨ request.keys? = .ok none ∧
        ∀ space kind, ∃ program, ScanProgram.ofQuery space request.query kind = .ok program) := by
  have formed : ∀ failure, ¬ request.RefusedByKey failure :=
    fun failure refused => unrefused failure (.key refused)
  have single : request.query.order.length ≤ 1 := by
    by_contra several
    exact unrefused _ (.order formed (by omega))
  obtain ⟨order, ordered⟩ := singleOrder_of_length single
  refine ⟨⟨order, ordered⟩, ?_⟩
  cases named : request.keys? with
  | error failure => exact (formed failure (keys?_error.1 named)).elim
  | ok keys =>
    cases keys with
    | some keys => exact .inl ⟨keys, rfl⟩
    | none =>
      refine .inr ⟨rfl, fun space kind => ?_⟩
      rw [← failure?_eq_none, failure?_ofQuery, ordered]
      cases asked : request.query.filter with
      | none => rfl
      | some filter =>
        cases first : filter.patterns.head? with
        | none => simp [failure?, first]
        | some op => exact (unrefused _ (.pattern named single asked first)).elim

end TableQuery
end Rowscan
