import Mathlib.Data.List.Induction
import Rowscan.Store.Execution

/-!
What is gathered from rows, told from all of them at once. A lookup and a scan each keep what they
have gathered in a state of their own and take the rows one by one; after every row the two states
say the same (`Store.push_tallyOf`), and so do they at the end (`Store.gather_eq`). Each kind of
answer is then a function of the rows or of the numbers in their column.
-/
namespace Rowscan

/-! ## Functions of all rows -/

namespace Row

/-- The numbers in a column of several rows, in order. -/
def numbers (column : String) (rows : List Row) : List Double :=
  rows.filterMap (·.number? column)

/-- The sum of a column from left to right. A field that holds no number counts as zero. -/
def sum (column : String) (rows : List Row) : Double :=
  rows.foldl (fun total row => total + (row.number? column).getD .zero) .zero

/-- The mean of the numbers in a column, if there are any. -/
def average? (column : String) (rows : List Row) : Option Double :=
  match numbers column rows with
  | [] => none
  | values => some (values.foldl (· + ·) .zero / .ofNat values.length)

/-- The first of the least numbers. -/
def least? (values : List Double) : Option Double :=
  values.foldl (fun best x => match best with
    | none => some x
    | some y => if x.less y then some x else some y) none

/-- The first of the greatest numbers. -/
def greatest? (values : List Double) : Option Double :=
  values.foldl (fun best x => match best with
    | none => some x
    | some y => if y.less x then some x else some y) none

private theorem numbers_append (name : String) (rows : List Row) (row : Row) :
    numbers name (rows ++ [row]) = numbers name rows ++ (row.number? name).toList := by
  rw [numbers, List.filterMap_append, List.filterMap_cons]
  cases row.number? name <;> rfl

private theorem least?_append (values : List Double) (x : Double) :
    least? (values ++ [x]) = if (least? values).all (x.less ·) then some x else least? values := by
  unfold least?
  rw [List.foldl_append]
  generalize values.foldl _ none = best
  cases best <;> rfl

private theorem greatest?_append (values : List Double) (x : Double) :
    greatest? (values ++ [x]) =
      if (greatest? values).all (·.less x) then some x else greatest? values := by
  unfold greatest?
  rw [List.foldl_append]
  generalize values.foldl _ none = best
  cases best <;> rfl

end Row

/-! ## What a lookup gathers -/

namespace Double

private theorem compare?_swap (x y : Double) : (x.compare? y).map Ordering.swap = y.compare? x := by
  unfold compare?
  cases x.value? with
  | none => cases y.value? <;> rfl
  | some a =>
    cases y.value? with
    | none => rfl
    | some b => exact congrArg some Std.OrientedOrd.eq_swap.symm

private theorem compare?_eq_lt (x y : Double) : decide (x.compare? y = some .lt) = x.less y := by
  rw [less]
  rcases x.compare? y with _ | _ | _ | _ <;> rfl

/-- A number is above another one exactly if that one is below it. -/
theorem compare?_eq_gt (x y : Double) : decide (x.compare? y = some .gt) = y.less x := by
  rw [less, ← compare?_swap x y]
  rcases x.compare? y with _ | _ | _ | _ <;> rfl

end Double

namespace Query.Kind

variable (name : String) (rows : List Row)

private theorem gathered_append (kind : Query.Kind) (row : Row) :
    kind.gathered (rows ++ [row]) = kind.push (kind.gathered rows) row := by
  rw [gathered, List.foldl_append]
  rfl

private theorem gathered_all : gathered .all rows = rows := by
  induction rows using List.reverseRecOn with
  | nil => rfl
  | append_singleton rows row ih =>
    rw [gathered_append, ih]
    rfl

private theorem gathered_one : gathered .one rows = rows.head? := by
  induction rows using List.reverseRecOn with
  | nil => rfl
  | append_singleton rows row ih =>
    rw [gathered_append, ih]
    cases rows <;> rfl

private theorem gathered_count : gathered .count rows = rows.length := by
  induction rows using List.reverseRecOn with
  | nil => rfl
  | append_singleton rows row ih =>
    rw [gathered_append, ih, List.length_append]
    rfl

private theorem gathered_column : gathered (.column name) rows = rows.map (·.find? name) := by
  induction rows using List.reverseRecOn with
  | nil => rfl
  | append_singleton rows row ih =>
    rw [gathered_append, ih, List.map_append]
    rfl

/-- A mean is gathered as the sum of the numbers and how many they are. -/
theorem gathered_average : gathered (.average name) rows =
    ((Row.numbers name rows).foldl (· + ·) .zero, (Row.numbers name rows).length) := by
  induction rows using List.reverseRecOn with
  | nil => rfl
  | append_singleton rows row ih =>
    rw [gathered_append, ih, Row.numbers_append, push]
    cases row.number? name with
    | none => rw [Option.toList_none, List.append_nil]
    | some x =>
      rw [Option.toList_some, List.foldl_append, List.length_append]
      rfl

private theorem gathered_min : gathered (.min name) rows = Row.least? (Row.numbers name rows) := by
  induction rows using List.reverseRecOn with
  | nil => rfl
  | append_singleton rows row ih =>
    rw [gathered_append, ih, Row.numbers_append, push]
    cases row.number? name with
    | none => rw [Option.toList_none, List.append_nil]
    | some x =>
      simp only [Double.compare?_eq_lt, Option.toList_some, Row.least?_append]
      rfl

private theorem gathered_max :
    gathered (.max name) rows = Row.greatest? (Row.numbers name rows) := by
  induction rows using List.reverseRecOn with
  | nil => rfl
  | append_singleton rows row ih =>
    rw [gathered_append, ih, Row.numbers_append, push]
    cases row.number? name with
    | none => rw [Option.toList_none, List.append_nil]
    | some x =>
      simp only [Double.compare?_eq_gt, Option.toList_some, Row.greatest?_append]
      rfl

theorem answerOf_all : answerOf .all rows = .ok rows := congrArg Except.ok (gathered_all rows)

theorem answerOf_one : answerOf .one rows = .ok rows.head? := congrArg Except.ok (gathered_one rows)

theorem answerOf_count : answerOf .count rows = .ok rows.length :=
  congrArg Except.ok (gathered_count rows)

theorem answerOf_column : answerOf (.column name) rows = .ok (rows.map (·.find? name)) :=
  congrArg Except.ok (gathered_column name rows)

theorem answerOf_sum : answerOf (.sum name) rows = .ok (Row.sum name rows) := rfl

theorem answerOf_average : answerOf (.average name) rows =
    match Row.average? name rows with
    | some mean => .ok mean
    | none => .error .emptyAggregate := by
  rw [answerOf, gathered_average, Row.average?]
  cases Row.numbers name rows <;> rfl

theorem answerOf_min : answerOf (.min name) rows = .ok (Row.least? (Row.numbers name rows)) :=
  congrArg Except.ok (gathered_min name rows)

theorem answerOf_max : answerOf (.max name) rows = .ok (Row.greatest? (Row.numbers name rows)) :=
  congrArg Except.ok (gathered_max name rows)

end Query.Kind

/-! ## What a scan gathers -/

namespace Store

variable (store : Store)

/-- What a scan has gathered when a lookup has gathered so much. -/
def tallyOf : (kind : Query.Kind) → kind.Gathered → Tally
  | .all, (rows : List Row) => .rows (rows.map flatReply)
  | .one, (first : Option Row) => .first (first.map flatReply)
  | .count, (n : Nat) => .count n
  | .column name, (fields : List (Option String)) =>
    .column name (fields.map fun field => (field.map .ofText).getD store.falseReply)
  | .sum name, (total : Double) => .sum name total
  | .average name, ((total, n) : Double × Nat) => .average name total n
  | .min name, (best : Option Double) => .min name best
  | .max name, (best : Option Double) => .max name best

section Step

variable (name : String) (row : Row)

private theorem push_average (total : Double) (n : Nat) :
    (Tally.average name total n).push store row =
      store.tallyOf (.average name) (Query.Kind.push (.average name) (total, n) row) := by
  rw [Tally.push, Query.Kind.push]
  cases row.number? name <;> rfl

private theorem push_min (best : Option Double) : (Tally.min name best).push store row =
    store.tallyOf (.min name) (Query.Kind.push (.min name) best row) := by
  rw [Tally.push, Query.Kind.push]
  cases row.number? name with
  | none => rfl
  | some x =>
    simp only [Double.compare?_eq_lt]
    cases best.all fun y => x.less y <;> rfl

private theorem push_max (best : Option Double) : (Tally.max name best).push store row =
    store.tallyOf (.max name) (Query.Kind.push (.max name) best row) := by
  rw [Tally.push, Query.Kind.push]
  cases row.number? name with
  | none => rfl
  | some x =>
    simp only [Double.compare?_eq_gt]
    cases best.all fun y => y.less x <;> rfl

end Step

/-- One row more leaves a scan and a lookup with the same. -/
theorem push_tallyOf (kind : Query.Kind) (gathered : kind.Gathered) (row : Row) :
    (store.tallyOf kind gathered).push store row = store.tallyOf kind (kind.push gathered row) := by
  cases kind with
  | all => exact congrArg Tally.rows (@List.map_append _ _ flatReply gathered [row]).symm
  | one => cases gathered <;> rfl
  | count => rfl
  | column name =>
    exact congrArg (Tally.column name) (@List.map_append _ _ _ gathered [row.find? name]).symm
  | sum name => rfl
  | average name => exact store.push_average name row gathered.1 gathered.2
  | min name => exact store.push_min name row gathered
  | max name => exact store.push_max name row gathered

/-- A scan replies with what a lookup gathers from the same rows. -/
theorem gather_eq (kind : Query.Kind) (rows : List Row) :
    store.gather kind rows = (store.tallyOf kind (kind.gathered rows)).finish store := by
  have start : Tally.start kind = store.tallyOf kind kind.start := by cases kind <;> rfl
  have run : rows.foldl (fun tally row => Tally.push store row tally) (Tally.start kind) =
      store.tallyOf kind (kind.gathered rows) := by
    induction rows using List.reverseRecOn with
    | nil => exact start
    | append_singleton rows row ih =>
      rw [List.foldl_append, ih, Query.Kind.gathered_append]
      exact store.push_tallyOf kind _ row
  exact congrArg (Tally.finish store) run

variable (rows : List Row) (name : String)

theorem gather_all : store.gather .all rows = .array (rows.map flatReply) := by
  rw [gather_eq, Query.Kind.gathered_all]
  rfl

theorem gather_one : store.gather .one rows = (rows.head?.map flatReply).getD (.array []) := by
  rw [gather_eq, Query.Kind.gathered_one]
  rfl

theorem gather_count : store.gather .count rows = .integer rows.length := by
  rw [gather_eq, Query.Kind.gathered_count]
  rfl

theorem gather_column : store.gather (.column name) rows =
    .array (rows.map fun row => ((row.find? name).map .ofText).getD store.falseReply) := by
  rw [gather_eq, Query.Kind.gathered_column]
  exact congrArg Reply.array List.map_map

theorem gather_sum : store.gather (.sum name) rows = numberReply (Row.sum name rows) := by
  rw [gather_eq]
  rfl

theorem gather_average :
    store.gather (.average name) rows = store.optionalReply (Row.average? name rows) := by
  rw [gather_eq, Query.Kind.gathered_average, Row.average?]
  cases Row.numbers name rows <;> rfl

theorem gather_min : store.gather (.min name) rows =
    store.optionalReply (Row.least? (Row.numbers name rows)) := by
  rw [gather_eq, Query.Kind.gathered_min]
  rfl

theorem gather_max : store.gather (.max name) rows =
    store.optionalReply (Row.greatest? (Row.numbers name rows)) := by
  rw [gather_eq, Query.Kind.gathered_max]
  rfl

end Store
end Rowscan
