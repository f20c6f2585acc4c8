import Rowscan.Proofs.AcceptedSettings
import Rowscan.Proofs.WrittenToml

/-!
Settings written as a document, and read back. The document has a table for the connection and one
for each definition of a table, and a line for each field. Settings in range are read from it as
they are (`read?_document`), whatever characters their texts have. So a document for settings exists
exactly if they are usable and in range (`exists_document_iff`).
-/
namespace Rowscan

open Toml (Plain Entries)

/-! ## The document -/

/-- The fields of a connection. -/
def ConnectionSettings.fields (connection : ConnectionSettings) : List (String × Plain) :=
  [("host", .text connection.host), ("port", .number connection.port),
    ("cluster", .flag connection.isClustered), ("resp3", .flag connection.wantsNewer)] ++
    connection.timeout.toList.map fun deadline => ("timeout_ms", .number deadline)

/-- The fields of a table definition. -/
def TableSettings.fields (definition : TableSettings) : List (String × Plain) :=
  ("name", .text definition.name) ::
    (definition.stem.toList.map fun stem => ("prefix", .text stem)) ++
    [("primary_key", .texts definition.primaryKey)]

/-- A table definition under its header. -/
def TableSettings.lines (definition : TableSettings) : List Char :=
  Toml.writeNextHeader "tables" ++ Toml.writeFields definition.fields

namespace Settings

/-- A document that holds the settings. -/
def document (settings : Settings) : String :=
  .ofList (Toml.writeHeader "connection" ++ (Toml.writeFields settings.connection.fields ++
    settings.tables.flatMap TableSettings.lines))

/-! ## Reading it -/

section Fields

variable {connection : ConnectionSettings} {definition : TableSettings}

private theorem mem_connectionFields {field : String × Plain} (member : field ∈ connection.fields) :
    field = ("host", .text connection.host) ∨ field = ("port", .number connection.port) ∨
      field = ("cluster", .flag connection.isClustered) ∨
      field = ("resp3", .flag connection.wantsNewer) ∨
      ∃ deadline ∈ connection.timeout, field = ("timeout_ms", .number deadline) := by
  simpa [ConnectionSettings.fields, or_assoc, eq_comm] using member

private theorem areFields_connection (inRange : connection.IsInRange) :
    Toml.AreFields connection.fields := by
  have small : connection.port < UInt64.size / 2 := inRange.port.trans (by decide)
  have names : ["host", "port", "cluster", "resp3", "timeout_ms"].all Toml.isBareName = true := by
    decide
  refine ⟨fun field member => List.all_eq_true.1 names _ ?_, fun field member => ?_, ?_⟩
  · rcases mem_connectionFields member with rfl | rfl | rfl | rfl | ⟨deadline, -, rfl⟩ <;> simp
  · rcases mem_connectionFields member with rfl | rfl | rfl | rfl | ⟨deadline, given, rfl⟩
    · trivial
    · exact small
    · trivial
    · trivial
    · exact inRange.timeout deadline given
  · cases timeout : connection.timeout <;> simp [ConnectionSettings.fields, timeout]

private theorem mem_tableFields {field : String × Plain} (member : field ∈ definition.fields) :
    field = ("name", .text definition.name) ∨
      (∃ stem ∈ definition.stem, field = ("prefix", .text stem)) ∨
      field = ("primary_key", .texts definition.primaryKey) := by
  simpa [TableSettings.fields, or_assoc, eq_comm] using member

private theorem areFields_table (definition : TableSettings) :
    Toml.AreFields definition.fields := by
  have names : ["name", "prefix", "primary_key"].all Toml.isBareName = true := by decide
  refine ⟨fun field member => List.all_eq_true.1 names _ ?_, fun field member => ?_, ?_⟩
  · rcases mem_tableFields member with rfl | ⟨stem, -, rfl⟩ | rfl <;> simp
  · rcases mem_tableFields member with rfl | ⟨stem, -, rfl⟩ | rfl <;> trivial
  · cases stem : definition.stem <;> simp [TableSettings.fields, stem]

private theorem readField_some {α : Type} (read : Toml.Value → Option α) (missing : α)
    (value : Toml.Value) : readField read missing (some value) = read value := rfl

/-- The fields of a connection are read one by one, so that its numbers are never computed with. -/
private theorem readConnection_of_fields {value : Toml.Value} {fields : String → Option Toml.Value}
    (found : fieldsOf ["host", "port", "cluster", "resp3", "timeout_ms"] value = some fields)
    (inRange : connection.IsInRange)
    (host : fields "host" = some (.string connection.host))
    (port : fields "port" = some (.integer connection.port))
    (isClustered : fields "cluster" = some (.boolean connection.isClustered))
    (wantsNewer : fields "resp3" = some (.boolean connection.wantsNewer))
    (timeout : fields "timeout_ms" = connection.timeout.map fun deadline => .integer deadline) :
    readConnection value = some connection := by
  have readPort : readNat UInt16.size (.integer connection.port) = some connection.port :=
    readNat_eq_some_iff.2 ⟨inRange.port, rfl⟩
  refine Option.bind_eq_some_iff.2 ⟨fields, found, ?_⟩
  refine Option.bind_eq_some_iff.2 ⟨connection.host, by rw [host]; rfl, ?_⟩
  refine Option.bind_eq_some_iff.2 ⟨connection.port, by rw [port, readField_some, readPort], ?_⟩
  refine Option.bind_eq_some_iff.2 ⟨connection.isClustered, by rw [isClustered]; rfl, ?_⟩
  refine Option.bind_eq_some_iff.2 ⟨connection.wantsNewer, by rw [wantsNewer]; rfl, ?_⟩
  refine Option.bind_eq_some_iff.2 ⟨connection.timeout, ?_, rfl⟩
  rw [timeout]
  cases given : connection.timeout with
  | none => rfl
  | some deadline =>
    have small : deadline < UInt64.size := (inRange.timeout deadline given).trans (by decide)
    have read : readNat UInt64.size (.integer deadline) = some deadline :=
      readNat_eq_some_iff.2 ⟨small, rfl⟩
    rw [Option.map_some, readField_some, read, Option.map_some]

private theorem readConnection_fields (inRange : connection.IsInRange) :
    readConnection (.table (connection.fields.map fun field => (field.1, field.2.value))) =
      some connection := by
  have values : connection.fields.map (fun field => (field.1, field.2.value)) =
      [("host", .string connection.host), ("port", .integer connection.port),
        ("cluster", .boolean connection.isClustered), ("resp3", .boolean connection.wantsNewer)] ++
        connection.timeout.toList.map fun deadline => ("timeout_ms", .integer deadline) := by
    simp [ConnectionSettings.fields, Plain.value]
  rw [values]
  apply readConnection_of_fields rfl inRange
  case timeout => cases connection.timeout <;> simp [List.lookup_cons]
  all_goals simp [List.lookup_cons]

private theorem readTexts_texts (texts : List String) :
    readTexts (.array (texts.map .string)) = some texts := by
  rw [readTexts, List.mapM_map]
  induction texts with
  | nil => rfl
  | cons text texts ih => simp_all [readText]

private theorem readTable_fields (definition : TableSettings) :
    readTable (.table (definition.fields.map fun field => (field.1, field.2.value))) =
      some definition := by
  obtain ⟨name, stem, primaryKey⟩ := definition
  have texts := readTexts_texts primaryKey
  cases stem <;>
    simp [readTable, isShort, fieldsOf, TableSettings.fields, Plain.value, List.lookup_cons,
      readField, readText, texts]

end Fields

/-- The entries of a document with a connection and these table definitions. -/
def rootOf (connection : ConnectionSettings) (definitions : List TableSettings) : Entries :=
  ("connection", .table .header (Toml.entriesOf connection.fields)) ::
    if definitions.isEmpty then []
    else [("tables", .tables (definitions.map fun definition => Toml.entriesOf definition.fields))]

section Lines

variable {settings : Settings} {connection : ConnectionSettings}

/-- One more table definition goes behind those that are there. -/
private theorem linesRead_table (done : List TableSettings) (definition : TableSettings)
    {path : List String} {rest : List Char} {entries : Entries}
    (further : Toml.LinesRead ⟨rootOf connection (done ++ [definition]), ["tables"]⟩ rest entries) :
    Toml.LinesRead ⟨rootOf connection done, path⟩ (definition.lines ++ rest) entries := by
  let before : Entries := [("connection", .table .header (Toml.entriesOf connection.fields))]
  let tables := done.map fun definition => Toml.entriesOf definition.fields
  have absent : before.lookup "tables" = none := by simp [before, List.lookup_cons]
  have opened : (rootOf connection done).openNextTable "tables" =
      some (before ++ [("tables", .tables (tables ++ [[]]))]) := by
    cases done <;>
      simp [rootOf, before, tables, Entries.openNextTable, Entries.put, List.lookup_cons]
  have root : rootOf connection (done ++ [definition]) =
      before ++ [("tables", .tables (tables ++ [Toml.entriesOf definition.fields]))] := by
    simp [rootOf, before, tables]
  rw [TableSettings.lines, List.append_assoc]
  refine Toml.LinesRead.nextHeader (by decide) opened ?_
  rw [root] at further
  exact Toml.LinesRead.fields (areFields_table definition) (Toml.isAt_tables absent tables) further

private theorem linesRead_tables (connection : ConnectionSettings)
    (left done : List TableSettings) (path : List String) :
    Toml.LinesRead ⟨rootOf connection done, path⟩ (left.flatMap TableSettings.lines)
      (rootOf connection (done ++ left)) := by
  induction left generalizing done path with
  | nil =>
    rw [List.append_nil]
    exact Toml.linesRead_nil
  | cons definition left ih =>
    have further := ih (done ++ [definition]) ["tables"]
    rw [List.append_assoc] at further
    exact linesRead_table done definition further

private theorem finishTables_definitions (definitions : List TableSettings) :
    Toml.finishTables (definitions.map fun definition => Toml.entriesOf definition.fields) =
      definitions.map fun definition =>
        .table (definition.fields.map fun field => (field.1, field.2.value)) := by
  induction definitions with
  | nil => rfl
  | cons definition definitions ih =>
    rw [List.map_cons, Toml.finishTables, Toml.finishEntries_entriesOf, ih, List.map_cons]

private theorem readTables_definitions (definitions : List TableSettings) :
    readTables (.array (definitions.map fun definition =>
      .table (definition.fields.map fun field => (field.1, field.2.value)))) =
        some definitions := by
  rw [readTables, List.mapM_map]
  induction definitions with
  | nil => rfl
  | cons definition definitions ih =>
    simp only [List.mapM_cons, Function.comp_apply, readTable_fields, ih]
    rfl

private theorem ofEntries_of_values {entries : List (String × Toml.Value)} {value : Toml.Value}
    (stored : entries.lookup "connection" = some value)
    (read : readConnection value = some settings.connection)
    (tables : readField readTables [] (entries.lookup "tables") = some settings.tables) :
    ofEntries entries = some settings := by
  have connection : readField readConnection {} (entries.lookup "connection") =
      some settings.connection := by rw [stored, readField_some, read]
  refine Option.bind_eq_some_iff.2 ⟨settings.connection, connection, ?_⟩
  exact Option.bind_eq_some_iff.2 ⟨settings.tables, tables, rfl⟩

private theorem ofEntries_rootOf (inRange : settings.connection.IsInRange) :
    ofEntries (Toml.finishEntries (rootOf settings.connection settings.tables)) =
      some settings := by
  refine ofEntries_of_values ?_ (readConnection_fields inRange) ?_
  · rw [rootOf, Toml.finishEntries, Toml.Node.finish, Toml.finishEntries_entriesOf]
    exact List.lookup_cons_self
  · have tables := readTables_definitions settings.tables
    rw [← finishTables_definitions] at tables
    cases given : settings.tables with
    | nil => rfl
    | cons definition definitions =>
      rw [given] at tables
      exact tables

/-- Settings in range are read from their document. -/
theorem read?_document (inRange : settings.connection.IsInRange) :
    read? settings.document = some settings := by
  have located : Toml.IsAt ["connection"] fun inner => [("connection", .table .header inner)] :=
    @Toml.isAt_table [] "connection" rfl .header
  have opened : Entries.openTable "connection" [] = some [("connection", .table .header [])] := rfl
  have tables := linesRead_tables settings.connection settings.tables [] ["connection"]
  have fields := Toml.LinesRead.fields (areFields_connection inRange) located tables
  have lines : Toml.LinesRead ⟨[], []⟩ _ _ := Toml.LinesRead.header (by decide) opened fields
  have whole : Toml.read? settings.document =
      some (Toml.finishEntries (rootOf settings.connection settings.tables)) := by
    refine lines.document ?_
    rw [Toml.writeHeader, List.cons_append, List.head?_cons]
    decide
  rw [read?, whole, Option.bind_some, ofEntries_rootOf inRange]

end Lines

/-- A document for settings exists exactly if they are usable and in range. -/
theorem exists_document_iff {settings : Settings} :
    (∃ document, ofToml document = .ok settings) ↔
      settings.IsUsable ∧ settings.connection.IsInRange := by
  constructor
  · rintro ⟨document, accepted⟩
    obtain ⟨read, usable⟩ := ofToml_eq_ok_iff.1 accepted
    exact ⟨usable, isInRange_of_read? read⟩
  · rintro ⟨usable, inRange⟩
    exact ⟨settings.document, ofToml_eq_ok_iff.2 ⟨read?_document inRange, usable⟩⟩

end Settings
end Rowscan
