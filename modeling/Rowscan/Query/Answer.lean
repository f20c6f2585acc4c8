import Rowscan.Query.Basic
import Rowscan.Reply.Row

/-!
Answers: what each kind of query yields. An answer is read from the reply of a scan program, or
gathered from the rows that match; aggregates count a field only where it holds a number.
-/
namespace Rowscan

/-- What a kind of query yields (`Output`). -/
def Query.Kind.Answer : Query.Kind → Type
  | .all => List Row
  | .one => Option Row
  | .count => Nat
  | .column _ => List (Option String)
  | .sum _ => Double
  | .average _ => Double
  | .min _ => Option Double
  | .max _ => Option Double

instance : (kind : Query.Kind) → DecidableEq kind.Answer
  | .all => inferInstanceAs (DecidableEq (List Row))
  | .one => inferInstanceAs (DecidableEq (Option Row))
  | .count => inferInstanceAs (DecidableEq Nat)
  | .column _ => inferInstanceAs (DecidableEq (List (Option String)))
  | .sum _ | .average _ => inferInstanceAs (DecidableEq Double)
  | .min _ | .max _ => inferInstanceAs (DecidableEq (Option Double))

namespace Row

/-- The number in a field, if the row has the field and it holds one. -/
def number? (row : Row) (column : String) : Option Double := (row.find? column).bind toNumber?

end Row

namespace Query.Kind

/-! ## Gathering rows -/

/-- What has been gathered of an answer so far (`Accumulator`). A mean is gathered as a total and
the number of its items. -/
def Gathered : Query.Kind → Type
  | .all => List Row
  | .one => Option Row
  | .count => Nat
  | .column _ => List (Option String)
  | .sum _ => Double
  | .average _ => Double × Nat
  | .min _ => Option Double
  | .max _ => Option Double

/-- Nothing gathered yet (`Accumulator::new`). -/
def start : (kind : Query.Kind) → kind.Gathered
  | .all => ([] : List Row)
  | .one => (none : Option Row)
  | .count => (0 : Nat)
  | .column _ => ([] : List (Option String))
  | .sum _ => Double.zero
  | .average _ => (Double.zero, (0 : Nat))
  | .min _ => (none : Option Double)
  | .max _ => (none : Option Double)

/-- One row more (`Accumulator::push`). A field that holds no number adds zero to a sum, and is left
out of a mean and of the extrema. Of equal extrema the first one stays. -/
def push : (kind : Query.Kind) → kind.Gathered → Row → kind.Gathered
  | .all, (rows : List Row), row => rows ++ [row]
  | .one, (first : Option Row), row => first <|> some row
  | .count, (n : Nat), _ => n + 1
  | .column name, (fields : List (Option String)), row => fields ++ [row.find? name]
  | .sum name, (total : Double), row => total + (row.number? name).getD .zero
  | .average name, (gathered : Double × Nat), row =>
    match row.number? name with
    | some x => (gathered.1 + x, gathered.2 + 1)
    | none => gathered
  | .min name, (best : Option Double), row =>
    match row.number? name with
    | some x => if best.all fun y => x.compare? y = some .lt then some x else best
    | none => best
  | .max name, (best : Option Double), row =>
    match row.number? name with
    | some x => if best.all fun y => x.compare? y = some .gt then some x else best
    | none => best

/-- The answer that was gathered (`Accumulator::finish`). There is no mean of nothing. -/
def finish : (kind : Query.Kind) → kind.Gathered → Except Failure kind.Answer
  | .all, rows => .ok rows
  | .one, first => .ok first
  | .count, n => .ok n
  | .column _, fields => .ok fields
  | .sum _, total => .ok total
  | .average _, ((total, n) : Double × Nat) =>
    if n = 0 then .error .emptyAggregate else .ok (total / .ofNat n)
  | .min _, best => .ok best
  | .max _, best => .ok best

/-- What has been gathered after several rows. -/
def gathered (kind : Query.Kind) (rows : List Row) : kind.Gathered :=
  rows.foldl kind.push kind.start

/-- The answer over the matching rows in the window. -/
def answerOf (kind : Query.Kind) (rows : List Row) : Except Failure kind.Answer :=
  kind.finish (kind.gathered rows)

/-! ## Reading replies -/

/-- A number: an integer, a double, or the text of a number (`number`). -/
def numberOfReply (kind : Query.Kind) : Reply → Except Failure Double
  | .integer value => .ok (.ofInt value)
  | .double value => .ok value
  | reply =>
    match reply.text?.bind toNumber? with
    | some number => .ok number
    | none => .error (reply.unexpectedFor kind.name)

/-- One field in the reply of a column program; false means that it is missing (`column_item`). -/
def fieldOfReply (reply : Reply) : Option String := if reply.isFalse then none else reply.shown?

/-- The items of an array; false stands for none. -/
def itemsOfReply (kind : Query.Kind) : Reply → Except Failure (List Reply)
  | .array items => .ok items
  | reply => if reply.isFalse then .ok [] else .error (reply.unexpectedFor kind.name)

/-- The answer that the reply of a scan program of the kind holds (`decode_output`). -/
def answerOfReply : (kind : Query.Kind) → Reply → Except Failure kind.Answer
  | .all, reply => (itemsOfReply .all reply).map Row.ofItems
  | .one, reply =>
    if reply.isFalse then .ok none
    else (Row.ofReply reply).map fun row => if row.isEmpty then none else some row
  | .count, reply =>
    match reply.int? with
    | some value => .ok value.toNat
    | none => .error (reply.unexpectedFor "count")
  | .column name, reply => (itemsOfReply (.column name) reply).map (·.map fieldOfReply)
  | .sum name, reply => numberOfReply (.sum name) reply
  | .average name, reply =>
    if reply.isFalse then .error .emptyAggregate else numberOfReply (.average name) reply
  | .min name, reply =>
    if reply.isFalse then .ok none else (numberOfReply (.min name) reply).map some
  | .max name, reply =>
    if reply.isFalse then .ok none else (numberOfReply (.max name) reply).map some

end Query.Kind
end Rowscan
