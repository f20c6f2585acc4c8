import Rowscan.Executor.Basic
import Rowscan.Query.Answer
import Rowscan.Query.Sorting
import Rowscan.Table

/-!
Lookup by key. A filter that names rows purely by primary key needs no scan: the rows are read
one by one, and the order and the window are applied to what was read.
-/
namespace Rowscan.Lookup

/-- Whether a filter names rows by primary key alone (`is_eligible`). -/
def isEligible (filter : Filter) (table : Table) : Bool :=
  match filter with
  | .hash entries => table.isPrimaryKey (entries.map (·.1))
  | .membership columns _ false => table.isPrimaryKey columns
  | _ => false

/-- Several values as keys (`scalars`). No stored row has a null key, so nulls are dropped. -/
def scalarKeys (values : List Literal) : List KeyValue :=
  (values.filter (!·.isNull)).map .scalar

/-- Membership among the fields of a composite key is refused. -/
def refusesMembership (filter : Filter) (table : Table) : Bool :=
  match filter with
  | .membership columns _ false =>
    table.hasCompositeKey && !columns.isEmpty && columns.all table.primaryKey.contains
  | _ => false

/-- The values that a hash condition gives to the fields of a composite key. -/
def compositeFields : List (String × HashValue) → Except Failure (List (String × Literal))
  | [] => .ok []
  | (_, .list _) :: _ =>
    .error (.notSupported "finding by a list of composite primary keys is not supported")
  | (column, .value literal) :: rest =>
    (compositeFields rest).map ((column, literal) :: ·)

/-- The keys that an eligible filter asks for. A hash condition that names a single key field
twice has none. -/
def keysOf (filter : Filter) (table : Table) : Except Failure (Option (List KeyValue)) :=
  match filter with
  | .hash entries =>
    if table.hasCompositeKey then
      (compositeFields entries).map fun pairs =>
        let fields := FieldMap.ofList pairs
        some (if fields.values.any Literal.isNull then [] else [.composite fields])
    else match entries with
      | [(_, .value literal)] => .ok (some (scalarKeys [literal]))
      | [(column, .list items)] => .ok (some (scalarKeys (items.map (SetItem.single column))))
      | _ => .ok none
  | .membership [column] items _ => .ok (some (scalarKeys (items.map (SetItem.single column))))
  | _ => .ok none

/-- Whether a key has a raw value, which only a script can evaluate. -/
def hasRaw : KeyValue → Bool
  | .scalar value => value.isRaw
  | .composite fields => fields.values.any Literal.isRaw

/-- The keys that a filter asks for, or none if it needs a scan (`candidates`). -/
def candidates (filter : Filter) (table : Table) : Except Failure (Option (List KeyValue)) := do
  if refusesMembership filter table then
    .error (.notSupported "IN over a composite primary key is not supported")
  else if isEligible filter table then
    match ← keysOf filter table with
    | some keys => return if keys.any hasRaw then none else some keys
    | none => return none
  else return none

/-! ## Reading the rows -/

/-- The texts without repetitions, each where it comes first. -/
def distinct (texts : List String) : List String :=
  (texts.foldl (fun seen text => if seen.contains text then seen else text :: seen) []).reverse

variable {σ : Type}

/-- Reads one row (`fetch`). -/
def fetch (executor : Executor σ) (space : KeySpace) (key : String) : Run σ Row := do
  let reply ← executor.send (.hgetall (space.rowKey key))
  Run.ofExcept (Row.ofReply reply)

/-- Reads the rows of all keys; keys without a row are left out. -/
def fetchAll (executor : Executor σ) (space : KeySpace) : List String → Run σ (List (String × Row))
  | [] => pure []
  | key :: rest => do
    let row ← fetch executor space key
    let found ← fetchAll executor space rest
    return if row.isEmpty then found else (key, row) :: found

/-- Reads rows until the window is past, or until the first one in it if one is enough.
`found` rows have been read before. -/
def fetchWindow (executor : Executor σ) (space : KeySpace) (window : Window) (onlyOne : Bool)
    (found : Nat) : List String → Run σ (List Row)
  | [] => pure []
  | key :: rest => do
    if window.isPast found then return []
    let row ← fetch executor space key
    if row.isEmpty then fetchWindow executor space window onlyOne found rest
    else if window.contains (found + 1) then
      if onlyOne then return [row]
      else return row :: (← fetchWindow executor space window onlyOne (found + 1) rest)
    else fetchWindow executor space window onlyOne (found + 1) rest

/-- The rows in the window, in the order asked for. -/
def rowsInWindow (executor : Executor σ) (space : KeySpace) (window : Window) (onlyOne : Bool)
    (order : Option OrderTerm) (keys : List String) : Run σ (List Row) :=
  match order with
  | none => fetchWindow executor space window onlyOne 0 keys
  | some term => do
    let found ← fetchAll executor space keys
    let entries := found.map fun (key, row) => SortEntry.mk (row.find? term.column) key row
    return window.slice ((SortEntry.sort term.direction entries).map (·.item))

/-- Answers a query from the rows with the given keys, each read once (`run`). A count tells how
many of the rows there are and has no window. -/
def run (executor : Executor σ) (space : KeySpace) (query : Query) (kind : Query.Kind)
    (keys : List KeyValue) : Run σ kind.Answer := do
  let order ← Run.ofExcept query.singleOrder
  let encoded := distinct (keys.map KeyValue.encode)
  let rows ←
    if kind = .count then (·.map (·.2)) <$> fetchAll executor space encoded
    else rowsInWindow executor space query.window (kind = .one) order encoded
  Run.ofExcept (kind.answerOf rows)

end Rowscan.Lookup
