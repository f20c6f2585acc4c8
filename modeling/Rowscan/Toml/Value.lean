import Rowscan.Double.Basic

/-!
The values of a TOML document, and how a document's tables are put together. A key may be
defined once; what a header or a dotted key may add to depends on how a table came about.
-/
namespace Rowscan.Toml

/-- A value. The parts of a date or time play no role here. -/
inductive Value where
  | string (text : String)
  | integer (value : Int)
  | float (value : Double)
  | boolean (value : Bool)
  | datetime
  | array (items : List Value)
  | table (entries : List (String × Value))
  deriving Inhabited

/-- How a table came about: by its own header, as part of the path of a header, or as part of a
dotted key. -/
inductive Origin where
  | header
  | path
  | dotted
  deriving DecidableEq

/-- A document in the making. A value is closed; tables may still grow. -/
inductive Node where
  | value (value : Value)
  | table (origin : Origin) (entries : List (String × Node))
  | tables (tables : List (List (String × Node)))
  deriving Inhabited

/-- The entries of a table in the making. -/
abbrev Entries := List (String × Node)

namespace Entries

/-- Replaces the entry of a key, or adds one at the end. -/
def put (key : String) (node : Node) : Entries → Entries
  | [] => [(key, node)]
  | entry :: rest => if entry.1 = key then (key, node) :: rest else entry :: put key node rest

/-- Defines a dotted key. `isOpen` tells whether a key may be defined right here: in a table that
a header brought about, only by a key without dots. -/
def define (value : Value) (key : String) : List String → Bool → Entries → Option Entries
  | [], isOpen, entries =>
    if isOpen && (entries.lookup key).isNone then some (entries ++ [(key, .value value)]) else none
  | part :: path, _, entries =>
    match entries.lookup part with
    | none => (define value key path true []).map fun inner =>
        put part (.table .dotted inner) entries
    | some (.value _) => none
    | some (.table .header _) => none
    | some (.table origin inner) =>
      (define value key path (origin = .dotted) inner).map fun inner =>
        put part (.table origin inner) entries
    | some (.tables tables) =>
      (define value key path false (tables.getLast?.getD [])).map fun inner =>
        put part (.tables (tables.dropLast ++ [inner])) entries

/-- Changes the table at a path; of an array of tables the last one is meant. -/
def modify (change : Entries → Option Entries) : List String → Entries → Option Entries
  | [], entries => change entries
  | part :: path, entries =>
    match entries.lookup part with
    | none => (modify change path []).map fun inner => put part (.table .path inner) entries
    | some (.value _) => none
    | some (.table origin inner) =>
      (modify change path inner).map fun inner => put part (.table origin inner) entries
    | some (.tables tables) =>
      (modify change path (tables.getLast?.getD [])).map fun inner =>
        put part (.tables (tables.dropLast ++ [inner])) entries

/-- Opens the table of a header. -/
def openTable (key : String) (entries : Entries) : Option Entries :=
  match entries.lookup key with
  | none => some (put key (.table .header []) entries)
  | some (.table .path inner) => some (put key (.table .header inner) entries)
  | some _ => none

/-- Opens one more table of an array of tables. -/
def openNextTable (key : String) (entries : Entries) : Option Entries :=
  match entries.lookup key with
  | none => some (put key (.tables [[]]) entries)
  | some (.tables tables) => some (put key (.tables (tables ++ [[]])) entries)
  | some _ => none

end Entries

mutual

/-- The finished value of a node. -/
def Node.finish : Node → Value
  | .value value => value
  | .table _ entries => .table (finishEntries entries)
  | .tables tables => .array (finishTables tables)
termination_by structural node => node

/-- The finished values of a table's entries. -/
def finishEntries : List (String × Node) → List (String × Value)
  | [] => []
  | (key, node) :: rest => (key, node.finish) :: finishEntries rest
termination_by structural entries => entries

/-- The finished tables of an array. -/
def finishTables : List (List (String × Node)) → List Value
  | [] => []
  | entries :: rest => .table (finishEntries entries) :: finishTables rest
termination_by structural tables => tables

end

end Rowscan.Toml
