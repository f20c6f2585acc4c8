import Rowscan.Store.Basic

/-!
Running commands on a store. A scan program visits the listed keys in order, evaluates its
condition on each row, and replies with what its kind gathers from the matches in the window.
-/
namespace Rowscan.Store

/-- A row as a flat list of names and values. -/
def flatReply (row : Row) : Reply :=
  .array (row.entries.flatMap fun (name, value) => [.ofText name, .ofText value])

/-- A row as a map. -/
def mapReply (row : Row) : Reply :=
  .map (row.entries.map fun (name, value) => (.ofText name, .ofText value))

/-- The reply to reading a hash: a map in the newer wire format, a flat list in the older
(`hgetall_reply`). -/
def hashReply (store : Store) (key : String) : Reply :=
  let row := (store.rows.find? key).getD .empty
  if store.isNewer then mapReply row else flatReply row

/-- What a script's `false` becomes on the wire (`lua_false`). -/
def falseReply (store : Store) : Reply := if store.isNewer then .boolean false else .null

/-- A number of a script as text (`lua_number`). -/
def numberReply (number : Double) : Reply := .ofText number.text

/-- A number of a script that may be missing. -/
def optionalReply (store : Store) (number : Option Double) : Reply :=
  match number with
  | some number => numberReply number
  | none => store.falseReply

/-! ## Scans -/

/-- The listed keys in the order that a program visits them. -/
def candidates (store : Store) (program : ScanProgram) : List String :=
  let list := store.listOf program.space
  match program.order with
  | none => list
  | some term =>
    let entries := list.map fun key =>
      SortEntry.mk ((store.rowOf program.space key).find? term.column) key ()
    (SortEntry.sort term.direction entries).map (·.key)

/-- Whether a program's condition holds of the row with a key. -/
def satisfies (store : Store) (program : ScanProgram) (key : String) : Except Failure Bool :=
  let row := store.rowOf program.space key
  program.condition.holds row (program.columns.fieldIn row)

/-- Whether a program returns at the first match in its window. -/
def returnsEarly (program : ScanProgram) : Bool := program.kind = .one && program.order.isNone

/-- The keys among those given whose rows match and are in the window; `matched` rows have
matched before. -/
def select (store : Store) (program : ScanProgram) (matched : Nat) :
    List String → Except Failure (List String)
  | [] => .ok []
  | key :: rest => do
    if ← store.satisfies program key then
      if program.window.contains (matched + 1) then
        if returnsEarly program then return [key]
        else return key :: (← store.select program (matched + 1) rest)
      else store.select program (matched + 1) rest
    else store.select program matched rest

/-- What a program has gathered of its reply so far (`Scan`). A mean is gathered as a total and the
number of its items. -/
inductive Tally where
  | rows (hashes : List Reply)
  | first (hash : Option Reply)
  | count (n : Nat)
  | column (name : String) (fields : List Reply)
  | sum (name : String) (total : Double)
  | average (name : String) (total : Double) (n : Nat)
  | min (name : String) (best : Option Double)
  | max (name : String) (best : Option Double)

namespace Tally

/-- Nothing gathered yet (`Scan::new`). -/
def start : Query.Kind → Tally
  | .all => .rows []
  | .one => .first none
  | .count => .count 0
  | .column name => .column name []
  | .sum name => .sum name .zero
  | .average name => .average name .zero 0
  | .min name => .min name none
  | .max name => .max name none

/-- One row more (`Scan::push`). A field that holds no number adds zero to a sum, and is left out of
a mean and of the extrema. Of equal extrema the first one stays. -/
def push (store : Store) (row : Row) : Tally → Tally
  | .rows hashes => .rows (hashes ++ [flatReply row])
  | .first none => .first (some (flatReply row))
  | .first (some hash) => .first (some hash)
  | .count n => .count (n + 1)
  | .column name fields =>
    .column name (fields ++ [((row.find? name).map .ofText).getD store.falseReply])
  | .sum name total => .sum name (total + (row.number? name).getD .zero)
  | .average name total n =>
    match row.number? name with
    | some x => .average name (total + x) (n + 1)
    | none => .average name total n
  | .min name best =>
    match row.number? name with
    | some x => if best.all fun y => x.less y then .min name (some x) else .min name best
    | none => .min name best
  | .max name best =>
    match row.number? name with
    | some x => if best.all fun y => y.less x then .max name (some x) else .max name best
    | none => .max name best

/-- The reply that was gathered (`Scan::finish`). -/
def finish (store : Store) : Tally → Reply
  | .rows hashes => .array hashes
  | .first hash => hash.getD (.array [])
  | .count n => .integer n
  | .column _ fields => .array fields
  | .sum _ total => numberReply total
  | .average _ total n =>
    if n = 0 then store.falseReply else numberReply (total / .ofNat n)
  | .min _ best => store.optionalReply best
  | .max _ best => store.optionalReply best

end Tally

/-- What a kind of program replies with over the selected rows. -/
def gather (store : Store) (kind : Query.Kind) (rows : List Row) : Reply :=
  (rows.foldl (fun tally row => tally.push store row) (Tally.start kind)).finish store

/-- Runs a scan program (`MemoryStore::eval`). -/
def scan (store : Store) (program : ScanProgram) : Except Failure Reply := do
  let keys ← store.select program 0 (store.candidates program)
  return store.gather program.kind (keys.map (store.rowOf program.space))

/-- Answers a command (`MemoryStore::execute`). Commands do not change the store. -/
def reply (store : Store) : Command → Except Failure Reply
  | .hgetall key => .ok (store.hashReply key)
  | .llen key => .ok (.integer ((store.lists.find? key).getD []).length)
  | .eval program => store.scan program

/-- The executor that runs commands on a store. -/
def executor : Executor Store where
  isClustered := Store.isClustered
  execute command store := (store.reply command, store)

end Rowscan.Store
