import Rowscan.Condition.Holds
import Rowscan.Executor.Basic
import Rowscan.Query.Sorting
import Rowscan.Table

/-!
Tables kept in memory. The store holds the lists, hashes and counters that a server would, runs
the same commands, and answers scan programs by evaluating their conditions.
-/
namespace Rowscan

/-- Lists of encoded keys, rows and counters, each under its physical key (`MemoryStore`). -/
structure Store where
  /-- Whether tables tag their keys as on a cluster. -/
  isClustered : Bool
  /-- Whether replies have the shapes of the newer wire format. -/
  isNewer : Bool
  lists : FieldMap (List String)
  rows : FieldMap Row
  counters : FieldMap Int64
  deriving DecidableEq, Inhabited

namespace Store

/-- A store without tables. -/
def empty (isClustered isNewer : Bool) : Store := ⟨isClustered, isNewer, .empty, .empty, .empty⟩

/-- The encoded keys of a table, in the order in which they were first stored. -/
def listOf (store : Store) (space : KeySpace) : List String :=
  (store.lists.find? space.listKey).getD []

/-- The row with an encoded key; a row that is not stored has no fields. -/
def rowOf (store : Store) (space : KeySpace) (key : String) : Row :=
  (store.rows.find? (space.rowKey key)).getD .empty

/-! ## Inserting -/

/-- Pushes a counter to a number given as a key, if that is whole and further on. -/
def pushCounter (counters : FieldMap Int64) (counterKey : String) (value : Literal) :
    FieldMap Int64 :=
  match toNumber? value.text with
  | none => counters
  | some number =>
    let counter := (counters.find? counterKey).getD 0
    if number.isWhole && (Double.ofInt counter.toInt).less number then
      counters.insert counterKey number.toInt64
    else counters

/-- Settles one field of the primary key: a given value pushes the counter, and a missing or
null one is filled with the counter's next number. -/
def settleKeyField (space : KeySpace) (state : FieldMap Literal × FieldMap Int64)
    (field : String) : FieldMap Literal × FieldMap Int64 :=
  let (attributes, counters) := state
  let counterKey := space.counterKey field
  let given := (attributes.find? field).getD .null
  if given.isNull then
    let next := (counters.find? counterKey).getD 0 + 1
    (attributes.insert field (.int next), counters.insert counterKey next)
  else (attributes, pushCounter counters counterKey given)

/-- The stored form of attributes: nulls are left out, other values are their texts. -/
def storedRow (attributes : FieldMap Literal) : Row :=
  .ofList ((attributes.entries.filter (!·.2.isNull)).map fun (name, value) => (name, value.text))

/-- The key that settled attributes give a row. -/
def keyOf (table : Table) (attributes : FieldMap Literal) : KeyValue :=
  .composite (.ofList (table.primaryKey.map fun field =>
    (field, (attributes.find? field).getD .null)))

/-- Stores a row and gives its encoded key (`MemoryStore::insert`). A row with the same key is
replaced, and a key is listed once as long as its row is stored. -/
def insert (store : Store) (table : Table) (attributes : List (String × Literal)) :
    String × Store :=
  let space := table.keySpace store.isClustered
  let (settled, counters) :=
    table.primaryKey.foldl (settleKeyField space) (.ofList attributes, store.counters)
  let encoded := (keyOf table settled).encode
  let rowKey := space.rowKey encoded
  let list := store.listOf space
  let listed := if store.rows.contains rowKey then list else list ++ [encoded]
  (encoded, { store with
    lists := store.lists.insert space.listKey listed
    rows := store.rows.insert rowKey (storedRow settled)
    counters })

/-- Removes a row and tells whether it was there (`remove_row`). Its key stays listed, as after a
writer that stopped halfway. -/
def removeRow (store : Store) (table : Table) (encoded : String) : Bool × Store :=
  let rowKey := (table.keySpace store.isClustered).rowKey encoded
  (store.rows.contains rowKey, { store with rows := store.rows.erase rowKey })

end Store
end Rowscan
