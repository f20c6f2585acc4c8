import Rowscan.Lookup

/-!
Queries on a table. A filter that names rows by key is served by lookup, and everything else by
one scan program. An emulated query answers as if nothing matched and issues no command.
-/
namespace Rowscan

/-- A query on a table (`ActiveQuery`). -/
structure TableQuery where
  table : Table
  query : Query
  isEmulated : Bool := false
  deriving Inhabited

namespace TableQuery

variable {σ : Type}

/-- The keys that the filter asks for, if it names rows by key. -/
def keys? (request : TableQuery) : Except Failure (Option (List KeyValue)) :=
  match request.query.filter with
  | some filter => Lookup.candidates filter request.table
  | none => .ok none

/-- The key space of the table for an executor. -/
def keySpace (request : TableQuery) (executor : Executor σ) : Run σ KeySpace := do
  return request.table.keySpace (executor.isClustered (← get))

/-- Answers by one scan program. -/
def scan (request : TableQuery) (executor : Executor σ) (space : KeySpace) (kind : Query.Kind) :
    Run σ kind.Answer := do
  let program ← Run.ofExcept (ScanProgram.ofQuery space request.query kind)
  let reply ← executor.send (.eval program)
  Run.ofExcept (kind.answerOfReply reply)

/-- Answers by lookup or by scan (`ActiveQuery::run`). -/
def answer (request : TableQuery) (executor : Executor σ) (kind : Query.Kind) :
    Run σ kind.Answer := do
  let space ← request.keySpace executor
  match ← Run.ofExcept request.keys? with
  | some keys => Lookup.run executor space request.query kind keys
  | none => request.scan executor space kind

/-- The answer, or the given one if the query is emulated. -/
def answerOr (request : TableQuery) (executor : Executor σ) (kind : Query.Kind)
    (emulated : kind.Answer) : Run σ kind.Answer :=
  if request.isEmulated then pure emulated else request.answer executor kind

/-- All matching rows (`ActiveQuery::all`). -/
def all (request : TableQuery) (executor : Executor σ) : Run σ (List Row) :=
  request.answerOr executor .all ([] : List Row)

/-- The matching rows by their value of a column (`ActiveQuery::all_indexed`). Rows without the
column are left out, and of several with one value the last counts. -/
def allIndexed (request : TableQuery) (executor : Executor σ) (column : String) :
    Run σ (FieldMap Row) := do
  let rows ← request.all executor
  return .ofList (rows.filterMap fun row => (row.find? column).map (·, row))

/-- The first matching row (`ActiveQuery::one`). -/
def one (request : TableQuery) (executor : Executor σ) : Run σ (Option Row) :=
  request.answerOr executor .one (none : Option Row)

/-- The length of the table's key list. -/
def listLength (request : TableQuery) (executor : Executor σ) : Run σ Nat := do
  let space ← request.keySpace executor
  let reply ← executor.send (.llen space.listKey)
  match reply.int? with
  | some length => return length.toNat
  | none => throw (reply.unexpectedFor "LLEN")

/-- The number of matching rows (`ActiveQuery::count`). Without a filter it is the length of the key
list. -/
def count (request : TableQuery) (executor : Executor σ) : Run σ Nat :=
  if request.isEmulated then pure 0
  else if request.query.filter.isNone then request.listLength executor
  else request.answer executor .count

/-- Whether a row matches (`ActiveQuery::exists`). -/
def hasMatch (request : TableQuery) (executor : Executor σ) : Run σ Bool := do
  return (← request.one executor).isSome

/-- A field of the first matching row (`ActiveQuery::scalar`). -/
def scalar (request : TableQuery) (executor : Executor σ) (column : String) :
    Run σ (Option String) := do
  return (← request.one executor).bind (·.find? column)

/-- A field of every matching row (`ActiveQuery::column`). -/
def column (request : TableQuery) (executor : Executor σ) (name : String) :
    Run σ (List (Option String)) :=
  request.answerOr executor (.column name) ([] : List (Option String))

/-- The sum of a column (`ActiveQuery::sum`). -/
def sum (request : TableQuery) (executor : Executor σ) (name : String) : Run σ Double :=
  request.answerOr executor (.sum name) Double.zero

/-- The mean of the numbers in a column (`ActiveQuery::average`). -/
def average (request : TableQuery) (executor : Executor σ) (name : String) : Run σ Double :=
  request.answerOr executor (.average name) Double.zero

/-- The least number in a column (`ActiveQuery::min`). -/
def min (request : TableQuery) (executor : Executor σ) (name : String) :
    Run σ (Option Double) :=
  request.answerOr executor (.min name) (none : Option Double)

/-- The greatest number in a column (`ActiveQuery::max`). -/
def max (request : TableQuery) (executor : Executor σ) (name : String) :
    Run σ (Option Double) :=
  request.answerOr executor (.max name) (none : Option Double)

end TableQuery
end Rowscan
