import Rowscan.Proofs.RefusedReplies

/-!
Aggregates are functions of the column. The sum, the mean and the extrema of a query are computed
from rows, on one path by the store and on the other by the one who asked; each of them is a
function of the fields that the query gives for the column (`aggregates_of_column`). The least and
the greatest number are found by one walk, which keeps a number that no number so far is better
than (`best?_spec`).
-/
namespace Rowscan

/-! ## The best of several numbers -/

section Best

variable {α : Type} (better : α → α → Bool)

/-- The first item that none is better than, as it is found from left to right. -/
def best? (items : List α) : Option α :=
  items.foldl (fun best x => match best with
    | none => some x
    | some y => if better x y then some x else some y) none

variable {better} {items : List α}

private theorem best?_append_singleton (items : List α) (x : α) :
    best? better (items ++ [x]) = match best? better items with
      | none => some x
      | some y => if better x y then some x else some y := by
  rw [best?, List.foldl_append]
  rfl

private theorem best?_eq_none : best? better items = none ↔ items = [] := by
  induction items using List.reverseRecOn with
  | nil => exact iff_of_true rfl rfl
  | append_singleton items x _ =>
    rw [best?_append_singleton]
    refine iff_of_false ?_ (by simp)
    cases best? better items with
    | none => exact Option.some_ne_none x
    | some best =>
      dsimp only
      split <;> exact Option.some_ne_none _

/-- What is found is one of the items, and none of them is better. -/
theorem best?_spec (irrefl : ∀ x, better x x = false)
    (trans : ∀ x y z, better x y = true → better y z = true → better x z = true) {best : α}
    (found : best? better items = some best) :
    best ∈ items ∧ ∀ x ∈ items, better x best = false := by
  induction items using List.reverseRecOn generalizing best with
  | nil => cases found
  | append_singleton items x ih =>
    rw [best?_append_singleton] at found
    cases before : best? better items with
    | none =>
      rw [before] at found
      cases found
      cases best?_eq_none.1 before
      exact ⟨List.mem_singleton_self x, List.forall_mem_singleton.2 (irrefl x)⟩
    | some old =>
      obtain ⟨member, unbeaten⟩ := ih before
      rw [before] at found
      cases improves : better x old with
      | true =>
        simp only [improves, if_true] at found
        cases found
        refine ⟨List.mem_concat_self, List.forall_mem_append.2 ⟨fun y earlier => ?_, ?_⟩⟩
        · -- An earlier item that is better than the new one would be better than the old one.
          by_contra beats
          have better' := trans y x old (Bool.eq_true_of_not_eq_false beats) improves
          exact absurd better' (by rw [unbeaten y earlier]; exact Bool.false_ne_true)
        · exact List.forall_mem_singleton.2 (irrefl x)
      | false =>
        simp only [improves] at found
        cases found
        exact ⟨List.mem_append_left _ member,
          List.forall_mem_append.2 ⟨unbeaten, List.forall_mem_singleton.2 improves⟩⟩

end Best

namespace Double

variable {x y z : Double}

theorem less_iff : x.less y = true ↔
    ∃ a b, x.value? = some a ∧ y.value? = some b ∧ a < b := by
  rw [less, compare?]
  cases x.value? <;> cases y.value? <;> simp [compare_lt_iff_lt]

private theorem less_irrefl (x : Double) : x.less x = false := by
  by_contra below
  obtain ⟨a, b, left, right, less⟩ := less_iff.1 (Bool.eq_true_of_not_eq_false below)
  cases left.symm.trans right
  exact Int.lt_irrefl a less

theorem less_trans (first : x.less y = true) (second : y.less z = true) : x.less z = true := by
  obtain ⟨a, b, left, middle, before⟩ := less_iff.1 first
  obtain ⟨b', c, middle', right, after⟩ := less_iff.1 second
  cases middle.symm.trans middle'
  exact less_iff.2 ⟨a, c, left, right, Int.lt_trans before after⟩

end Double

namespace Row

variable {values : List Double} {best : Double}

private theorem least?_eq_best? (values : List Double) :
    least? values = best? (fun x y => x.less y) values := by
  unfold least? best?
  congr 1
  funext best x
  cases best <;> rfl

private theorem greatest?_eq_best? (values : List Double) :
    greatest? values = best? (fun x y => y.less x) values := by
  unfold greatest? best?
  congr 1
  funext best x
  cases best <;> rfl

private theorem least?_eq_none : least? values = none ↔ values = [] := by
  rw [least?_eq_best?, best?_eq_none]

private theorem greatest?_eq_none : greatest? values = none ↔ values = [] := by
  rw [greatest?_eq_best?, best?_eq_none]

/-- The least number is one of the numbers, and none of them is below it. -/
theorem least?_spec (found : least? values = some best) :
    best ∈ values ∧ ∀ x ∈ values, x.less best = false := by
  rw [least?_eq_best?] at found
  exact best?_spec Double.less_irrefl (fun _ _ _ => Double.less_trans) found

/-- The greatest number is one of the numbers, and it is below none of them. -/
theorem greatest?_spec (found : greatest? values = some best) :
    best ∈ values ∧ ∀ x ∈ values, best.less x = false := by
  rw [greatest?_eq_best?] at found
  refine best?_spec ?_ ?_ found
  · exact Double.less_irrefl
  · exact fun x y z first second => Double.less_trans second first

end Row

/-! ## The column -/

/-- The numbers in a column, in order: missing fields and texts that are none are left out. -/
def columnNumbers (fields : List (Option String)) : List Double :=
  fields.filterMap (·.bind toNumber?)

/-- The sum of a column from left to right, where a field that holds no number counts as zero. -/
def columnSum (fields : List (Option String)) : Double :=
  fields.foldl (fun total field => total + (field.bind toNumber?).getD .zero) .zero

/-- The sum of several numbers from left to right, divided by how many they are. -/
def meanOf (numbers : List Double) : Double := numbers.foldl (· + ·) .zero / .ofNat numbers.length

/-- The mean of several numbers, if there are any. -/
def mean? (numbers : List Double) : Option Double :=
  if numbers = [] then none else some (meanOf numbers)

namespace Row

variable (name : String) (rows : List Row)

private theorem numbers_eq : numbers name rows = columnNumbers (rows.map (·.find? name)) := by
  rw [numbers, columnNumbers, List.filterMap_map]
  rfl

private theorem sum_eq : sum name rows = columnSum (rows.map (·.find? name)) := by
  rw [sum, columnSum, List.foldl_map]
  rfl

private theorem average?_eq :
    average? name rows = mean? (columnNumbers (rows.map (·.find? name))) := by
  rw [← numbers_eq, average?, mean?]
  split
  next nothing => rw [if_pos nothing]
  next others => rw [if_neg others, meanOf]

end Row

/-! ## Outcomes with a number -/

/-- A computation ends as expected, or the number that it came to is not finite and its reply is
refused. -/
def Run.EndsAt {σ α : Type} (computation : Run σ α) (state : σ) (expected : Except Failure α)
    (number? : Option Double) : Prop :=
  ∃ outcome, computation.Gives state outcome ∧ (outcome = expected ∨
    ∃ number ∈ number?, number.isFinite = false ∧ ∃ what, outcome = .error (.protocol what))

namespace Run.EndsAt

variable {σ α : Type} {computation : Run σ α} {state : σ} {expected other : Except Failure α}
variable {number? : Option Double}

private theorem of_finite (ends : computation.EndsAt state expected number?)
    (finite : ∀ number ∈ number?, number.isFinite = true) : computation.Gives state expected := by
  obtain ⟨outcome, given, rfl | ⟨number, held, infinite, -⟩⟩ := ends
  · exact given
  · cases (finite number held).symm.trans infinite

/-- A computation ends in a way that needs no number exactly if that is expected. -/
theorem gives_iff (ends : computation.EndsAt state expected number?) (undisputed : Undisputed other)
    (unnumbered : expected = other → number? = none) :
    computation.Gives state other ↔ expected = other := by
  constructor
  · intro given
    obtain ⟨outcome, ended, rfl | ⟨number, -, -, what, refused⟩⟩ := ends
    · exact ended.unique given
    · exact absurd ((given.unique ended).trans refused) (undisputed what)
  · intro same
    rw [← same]
    refine ends.of_finite fun number held => ?_
    cases (unnumbered same).symm.trans held

/-- A computation of the best of several numbers, if there are any. -/
theorem extremum {computation : Run σ (Option Double)} {numbers : List Double}
    {best? : Option Double} {IsBest : Double → Prop}
    (ends : computation.EndsAt state (.ok best?) best?) (nothing : best? = none ↔ numbers = [])
    (spec : ∀ best, best? = some best → best ∈ numbers ∧ IsBest best) :
    (computation.Gives state (.ok none) ↔ numbers = []) ∧
      (numbers ≠ [] → ∃ best ∈ numbers, IsBest best ∧
        (best.isFinite = true → computation.Gives state (.ok (some best)))) := by
  constructor
  · rw [← nothing, ends.gives_iff (undisputed_ok none) Except.ok.inj]
    exact Except.ok.injEq best? none ▸ Iff.rfl
  · intro others
    obtain ⟨best, found⟩ := Option.ne_none_iff_exists'.1 (mt nothing.1 others)
    obtain ⟨member, isBest⟩ := spec best found
    refine ⟨best, member, isBest, fun finite => ?_⟩
    rw [found] at ends
    exact ends.of_finite fun number held => Option.some_inj.1 held ▸ finite

end Run.EndsAt

/-! ## Answers from the column -/

namespace TableQuery

variable {request : TableQuery} {store : Store} {name : String} {fields : List (Option String)}

private theorem average_of_emulated (emulated : request.isEmulated = true) :
    (request.average Store.executor name).Gives store (.ok .zero) :=
  answerOr_of_emulated emulated (.average name) Double.zero

variable (given : (request.column Store.executor name).Gives store (.ok fields))
include given

/-- A column gives the fields of the rows that a number is made from. An emulated query has no rows,
and answers as over none if `nothing` is the answer over none. -/
theorem ends_of_column (kind : Query.Kind) (numeric : kind.isNumber = true) (nothing : kind.Answer)
    (settled : request.isEmulated = true → kind.answerOf [] = .ok nothing) :
    ∃ rows : List Row, fields = rows.map (·.find? name) ∧
      (request.answerOr Store.executor kind nothing).EndsAt store (kind.answerOf rows)
        (kind.number? rows) := by
  cases emulated : request.isEmulated with
  | true =>
    have none : fields = [] := Except.ok.inj (given.unique (column_of_emulated emulated name))
    exact ⟨[], none, _, answerOr_of_emulated emulated kind nothing, .inl (settled emulated).symm⟩
  | false =>
    cases matching : request.matched store with
    | error failure => cases given.unique (column_of_unmatched emulated matching name)
    | ok rows =>
      have same := given.unique (column_of_matched emulated matching name)
      rw [← Query.map_page] at same
      obtain ⟨outcome, answered, refused, read⟩ := answer_number emulated store numeric
      rw [answerOr_of_live emulated]
      refine ⟨request.query.page rows, Except.ok.inj same, outcome, answered, ?_⟩
      by_cases overflows : ∃ number, request.Overflows store kind number
      · obtain ⟨number, overflows⟩ := overflows
        obtain ⟨others, everyRow, gathered⟩ := overflows.gathered
        rw [eq_page_of_all emulated matching everyRow] at gathered
        obtain ⟨what, worded⟩ : ∃ what, kind.refusal number = .protocol what := ⟨_, rfl⟩
        have failed := (refused what).2 ⟨number, overflows, worded⟩
        exact .inr ⟨number, gathered, overflows.infinite, what, failed⟩
      · exact .inl (read (not_exists.1 overflows) _ (all_of_matched emulated matching))

private theorem sum_of_column :
    (request.sum Store.executor name).EndsAt store (.ok (columnSum fields))
    (some (columnSum fields)) := by
  have settled : Query.Kind.answerOf (.sum name) [] = .ok Double.zero := rfl
  obtain ⟨rows, rfl, ends⟩ := ends_of_column given (.sum name) rfl Double.zero fun _ => settled
  rw [← Row.sum_eq]
  exact ends

private theorem min_of_column : (request.min Store.executor name).EndsAt store
    (.ok (Row.least? (columnNumbers fields))) (Row.least? (columnNumbers fields)) := by
  have settled : Query.Kind.answerOf (.min name) [] = .ok (none : Option Double) := rfl
  obtain ⟨rows, rfl, ends⟩ := ends_of_column given (.min name) rfl none fun _ => settled
  rw [Query.Kind.answerOf_min] at ends
  rw [← Row.numbers_eq]
  exact ends

private theorem max_of_column : (request.max Store.executor name).EndsAt store
    (.ok (Row.greatest? (columnNumbers fields))) (Row.greatest? (columnNumbers fields)) := by
  have settled : Query.Kind.answerOf (.max name) [] = .ok (none : Option Double) := rfl
  obtain ⟨rows, rfl, ends⟩ := ends_of_column given (.max name) rfl none fun _ => settled
  rw [Query.Kind.answerOf_max] at ends
  rw [← Row.numbers_eq]
  exact ends

/-- The mean of a query that is not emulated; an emulated one has a zero for it without asking. -/
theorem average_of_column (live : request.isEmulated = false) :
    (request.average Store.executor name).EndsAt store
      ((mean? (columnNumbers fields)).elim (.error .emptyAggregate) .ok)
      (mean? (columnNumbers fields)) := by
  obtain ⟨rows, rfl, ends⟩ := ends_of_column given (.average name) rfl Double.zero
    fun emulated => nomatch live.symm.trans emulated
  rw [Query.Kind.answerOf_average, Query.Kind.number?] at ends
  rw [← Row.average?_eq]
  cases mean : Row.average? name rows with
  | none =>
    rw [mean] at ends
    exact ends
  | some value =>
    rw [mean] at ends
    exact ends

/-- The mean fails exactly without numbers, and is otherwise given as soon as it is finite. -/
theorem average_live (live : request.isEmulated = false) :
    ((request.average Store.executor name).Gives store (.error .emptyAggregate) ↔
      columnNumbers fields = []) ∧
    (columnNumbers fields ≠ [] → (meanOf (columnNumbers fields)).isFinite = true →
      (request.average Store.executor name).Gives store
        (.ok (meanOf (columnNumbers fields)))) := by
  have ends := average_of_column given live
  by_cases nothing : columnNumbers fields = []
  · rw [mean?, if_pos nothing] at ends
    have failed := ends.of_finite fun _ held => absurd held (Option.not_mem_none _)
    exact ⟨iff_of_true failed nothing, fun others => absurd nothing others⟩
  · rw [mean?, if_neg nothing] at ends
    have undisputed : Undisputed (.error .emptyAggregate : Except Failure Double) := nofun
    have differs (mean : Double) : (.ok mean : Except Failure Double) ≠ .error .emptyAggregate :=
      nofun
    refine ⟨iff_of_false ?_ nothing, fun _ finite => ?_⟩
    · rw [ends.gives_iff undisputed fun same => absurd same (differs _)]
      exact differs _
    · exact ends.of_finite fun number held => Option.some_inj.1 held ▸ finite

end TableQuery

/-- Aggregates are functions of the column, on either path and in any window. The sum counts a field
without a number as zero; the mean is that of the numbers, and fails exactly without any, unless
the query is emulated, which makes it zero; an extremum is missing exactly without numbers, and is
otherwise one of them that none is beyond. Each is given as soon as it is finite. -/
theorem aggregates_of_column (store : Store) (request : TableQuery) (name : String)
    {fields : List (Option String)}
    (given : (request.column Store.executor name).Gives store (.ok fields)) :
    let numbers := columnNumbers fields
    ((columnSum fields).isFinite = true →
      (request.sum Store.executor name).Gives store (.ok (columnSum fields))) ∧
    ((request.average Store.executor name).Gives store (.error .emptyAggregate) ↔
      numbers = [] ∧ request.isEmulated = false) ∧
    (request.isEmulated = true → (request.average Store.executor name).Gives store (.ok .zero)) ∧
    (numbers ≠ [] → (meanOf numbers).isFinite = true →
      (request.average Store.executor name).Gives store (.ok (meanOf numbers))) ∧
    ((request.min Store.executor name).Gives store (.ok none) ↔ numbers = []) ∧
    (numbers ≠ [] → ∃ least ∈ numbers, (∀ x ∈ numbers, x.less least = false) ∧
      (least.isFinite = true → (request.min Store.executor name).Gives store (.ok (some least)))) ∧
    ((request.max Store.executor name).Gives store (.ok none) ↔ numbers = []) ∧
    (numbers ≠ [] → ∃ greatest ∈ numbers, (∀ x ∈ numbers, greatest.less x = false) ∧
      (greatest.isFinite = true →
        (request.max Store.executor name).Gives store (.ok (some greatest)))) := by
  intro numbers
  have total := TableQuery.sum_of_column given
  have least := (TableQuery.min_of_column given).extremum Row.least?_eq_none
    fun _ => Row.least?_spec
  have greatest := (TableQuery.max_of_column given).extremum Row.greatest?_eq_none
    fun _ => Row.greatest?_spec
  refine ⟨fun finite => total.of_finite fun number held => Option.some_inj.1 held ▸ finite, ?_⟩
  cases emulated : request.isEmulated with
  | true =>
    have zero : (request.average Store.executor name).Gives store (.ok .zero) :=
      TableQuery.average_of_emulated emulated
    cases given.unique (TableQuery.column_of_emulated emulated name)
    refine ⟨iff_of_false (fun failed => ?_) nofun, fun _ => zero, fun others => ?_, ?_⟩
    · cases zero.unique failed
    · exact absurd rfl others
    · exact ⟨least.1, least.2, greatest.1, greatest.2⟩
  | false =>
    obtain ⟨failed, mean⟩ := TableQuery.average_live given emulated
    refine ⟨failed.trans (and_iff_left rfl).symm, nofun, mean, ?_⟩
    exact ⟨least.1, least.2, greatest.1, greatest.2⟩

/-- People of whom two have a number for an age. -/
def agesStore : Store :=
  (Store.empty false false).insertAll people
    [person 1 "10", [("id", .int 2)], person 3 "x", person 4 " 0x4 "]

private theorem column_agesStore : (people.everyRow.column Store.executor "age").Gives agesStore
    (.ok [some "10", none, some "x", some " 0x4 "]) := by
  have live : people.everyRow.isEmulated = false := rfl
  have unfiltered : people.everyRow.query.filter = none := rfl
  have ordered : people.everyRow.query.singleOrder = .ok none := rfl
  have column := TableQuery.column_of_matched live
    (TableQuery.matched_unfiltered agesStore unfiltered ordered) "age"
  rw [Query.page_unbounded rfl rfl] at column
  have shown : ((agesStore.candidates (.unconditional (people.everyRow.spaceIn agesStore) none)).map
      (agesStore.rowOf (people.everyRow.spaceIn agesStore))).map (·.find? "age") =
        [some "10", none, some "x", some " 0x4 "] := by decide +kernel
  rw [shown] at column
  exact column

theorem aggregates_of_column_ages :
    (people.everyRow.sum Store.executor "age").Gives agesStore (.ok (.ofInt 14)) ∧
    (people.everyRow.average Store.executor "age").Gives agesStore (.ok (.ofInt 7)) ∧
    (people.everyRow.min Store.executor "age").Gives agesStore (.ok (some (.ofInt 4))) := by
  have numbers : columnNumbers [some "10", none, some "x", some " 0x4 "] = [.ofInt 10, .ofInt 4] := by
    decide +kernel
  obtain ⟨sum, -, -, mean, -, least, -⟩ :=
    aggregates_of_column agesStore people.everyRow "age" column_agesStore
  rw [numbers] at mean least
  refine ⟨?_, ?_, ?_⟩
  · have total : columnSum [some "10", none, some "x", some " 0x4 "] = .ofInt 14 := by
      decide +kernel
    rw [total] at sum
    exact sum (by decide +kernel)
  · have seven : meanOf [.ofInt 10, .ofInt 4] = .ofInt 7 := by decide +kernel
    rw [seven] at mean
    exact mean (List.cons_ne_nil _ _) (by decide +kernel)
  · obtain ⟨best, member, unbeaten, given⟩ := least (List.cons_ne_nil _ _)
    have four : best = .ofInt 4 := by
      rcases List.mem_cons.1 member with first | last
      · rw [first] at unbeaten
        have below : (Double.ofInt 4).less (.ofInt 10) = true := by decide +kernel
        have above := unbeaten _ (List.mem_cons_of_mem _ (List.mem_singleton_self _))
        exact absurd (above.symm.trans below) Bool.false_ne_true
      · exact List.mem_singleton.1 last
    rw [four] at given
    exact given (by decide +kernel)

/-- The mean of an emulated query is zero over no numbers, and does not fail. -/
theorem average_emulated_zero :
    let request : TableQuery := { people.everyRow with isEmulated := true }
    (request.column Store.executor "age").Gives agesStore (.ok []) ∧ columnNumbers [] = [] ∧
      (request.average Store.executor "age").Gives agesStore (.ok .zero) ∧
      ¬ (request.average Store.executor "age").Gives agesStore (.error .emptyAggregate) := by
  intro request
  have zero : (request.average Store.executor "age").Gives agesStore (.ok .zero) :=
    TableQuery.average_of_emulated rfl
  refine ⟨TableQuery.column_of_emulated rfl "age", rfl, zero, fun failed => ?_⟩
  cases zero.unique failed

end Rowscan
