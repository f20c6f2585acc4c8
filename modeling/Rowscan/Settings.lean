import Rowscan.Failure
import Rowscan.Table
import Rowscan.Toml.Document

/-!
Settings: where and how to connect, and which tables there are. They are read from a TOML
document; what it leaves out has a default, and keys that are not known play no role. A record
may also be given as an array of its fields in order.
-/
namespace Rowscan

open Toml (Value)

/-- Where and how to connect (`ConnectionConfig`). -/
structure ConnectionSettings where
  host : String := "127.0.0.1"
  port : Nat := 6379
  isClustered : Bool := false
  /-- Whether to ask for the newer wire format. -/
  wantsNewer : Bool := true
  /-- The deadline of a request, in milliseconds. -/
  timeout : Option Nat := none
  deriving DecidableEq, Inhabited

/-- The definition of a table (`TableConfig`). -/
structure TableSettings where
  name : String
  /-- What the keys of the table start with, if not its name. -/
  stem : Option String := none
  primaryKey : List String := ["id"]
  deriving DecidableEq, Inhabited

/-- The table of a definition (`to_table`). -/
def TableSettings.table (settings : TableSettings) : Table :=
  { name := settings.stem.getD settings.name, primaryKey := settings.primaryKey }

/-- All settings (`Config`). -/
structure Settings where
  connection : ConnectionSettings := {}
  tables : List TableSettings := []
  deriving DecidableEq, Inhabited

/-- Why settings are refused. -/
inductive SettingsFault where
  /-- The document is malformed or a value has the wrong type. -/
  | unreadable
  | emptyPrimaryKey (table : String)
  | duplicateTable (table : String)
  deriving DecidableEq

/-- What a fault says. -/
def SettingsFault.text : SettingsFault → String
  | .unreadable => "unreadable document"
  | .emptyPrimaryKey table => "table '" ++ table ++ "' has an empty primary key"
  | .duplicateTable table => "table '" ++ table ++ "' is defined twice"

/-- The failure that a fault is. -/
def SettingsFault.failure (fault : SettingsFault) : Failure := .config fault.text

namespace Settings

/-! ## Reading -/

/-- A text. -/
def readText : Value → Option String
  | .string text => some text
  | _ => none

/-- A boolean. -/
def readBool : Value → Option Bool
  | .boolean value => some value
  | _ => none

/-- A natural number below a bound. -/
def readNat (bound : Nat) : Value → Option Nat
  | .integer value => if 0 ≤ value ∧ value < bound then some value.toNat else none
  | _ => none

/-- A list of texts. -/
def readTexts : Value → Option (List String)
  | .array items => items.mapM readText
  | _ => none

/-- The fields of a record: by name in a table, by position in an array. A date is read as a
table without known names. -/
def fieldsOf (names : List String) : Value → Option (String → Option Value)
  | .table entries => some fun name => entries.lookup name
  | .array items => some fun name => (names.zip items).lookup name
  | .datetime => some fun _ => none
  | _ => none

/-- A field that may be left out. -/
def readField {α : Type} (read : Value → Option α) (missing : α) (field : Option Value) :
    Option α :=
  match field with
  | none => some missing
  | some value => read value

/-- How to connect. -/
def readConnection (value : Value) : Option ConnectionSettings := do
  let field ← fieldsOf ["host", "port", "cluster", "resp3", "timeout_ms"] value
  let standard : ConnectionSettings := {}
  return {
    host := ← readField readText standard.host (field "host")
    port := ← readField (readNat UInt16.size) standard.port (field "port")
    isClustered := ← readField readBool standard.isClustered (field "cluster")
    wantsNewer := ← readField readBool standard.wantsNewer (field "resp3")
    timeout := ← readField (fun value => (readNat UInt64.size value).map some) none
      (field "timeout_ms") }

/-- Whether an array that stands for a table definition is too short: by position, the stem may
not be left out. -/
def isShort : Value → Bool
  | .array items => items.length < 2
  | _ => false

/-- A table definition. -/
def readTable (value : Value) : Option TableSettings := do
  if isShort value then none
  let field ← fieldsOf ["name", "prefix", "primary_key"] value
  return {
    name := ← (field "name").bind readText
    stem := ← readField (fun value => (readText value).map some) none (field "prefix")
    primaryKey := ← readField readTexts ["id"] (field "primary_key") }

/-- All table definitions. -/
def readTables : Value → Option (List TableSettings)
  | .array items => items.mapM readTable
  | _ => none

/-- The settings in the table of a document. -/
def ofEntries (entries : List (String × Value)) : Option Settings := do
  return {
    connection := ← readField readConnection {} (entries.lookup "connection")
    tables := ← readField readTables [] (entries.lookup "tables") }

/-! ## Checking -/

/-- What is wrong with a table definition among all of them, if anything. -/
def tableFault? (tables : List TableSettings) (table : TableSettings) : Option SettingsFault :=
  if table.primaryKey.isEmpty then some (.emptyPrimaryKey table.name)
  else if 1 < (tables.filter (·.name == table.name)).length then some (.duplicateTable table.name)
  else none

/-- The first fault in the table definitions (`Config::validate`). -/
def fault? (settings : Settings) : Option SettingsFault :=
  settings.tables.findSome? (tableFault? settings.tables)

/-- The settings that a document holds (`Config::from_toml`). -/
def ofToml (document : String) : Except SettingsFault Settings :=
  match (Toml.read? document).bind ofEntries with
  | none => .error .unreadable
  | some settings =>
    match settings.fault? with
    | some fault => .error fault
    | none => .ok settings

/-- The table of a name, if it is defined (`Config::table`). -/
def table? (settings : Settings) (name : String) : Option Table :=
  (settings.tables.find? (·.name == name)).map TableSettings.table

end Settings
end Rowscan
