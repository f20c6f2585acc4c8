import Mathlib.Data.List.Nodup
import Rowscan.Proofs.TomlTables
import Rowscan.Settings

/-!
Which settings are accepted. Settings are usable when every table has a primary key and no two
tables share their name, and a document is accepted exactly when it can be read as usable settings
(`ofToml_eq_ok_iff`). A refusal names the first table at fault (`fault?_eq_some_iff`). Every table
of accepted settings is found under its name, and each that is found has a primary key
(`table?_eq_some_iff`, `primaryKey_of_table?`). The port and the deadline are in range
(`isInRange_of_read?`), and it makes no difference in which order the keys of a document stand
(`ofEntries_perm`, `readConnection_perm`, `readTable_perm`).
-/
namespace Rowscan

/-- The port is one of 16 bits, and the deadline one that a document can hold. -/
structure ConnectionSettings.IsInRange (connection : ConnectionSettings) : Prop where
  port : connection.port < UInt16.size
  timeout : ∀ deadline ∈ connection.timeout, deadline < UInt64.size / 2

theorem ConnectionSettings.isInRange_default : ({} : ConnectionSettings).IsInRange :=
  ⟨by decide, nofun⟩

namespace Settings

open Toml (Value)

/-! ## Faults -/

/-- Every table has a primary key, and no two tables share their name. -/
structure IsUsable (settings : Settings) : Prop where
  keyed : ∀ table ∈ settings.tables, table.primaryKey ≠ []
  distinct : (settings.tables.map (·.name)).Nodup

section Faults

variable {settings : Settings} {tables : List TableSettings} {table : TableSettings} {name : String}

private theorem length_filter_name :
    (tables.filter (·.name == name)).length = (tables.map (·.name)).count name := by
  rw [List.count_eq_countP, List.countP_map, List.countP_eq_length_filter]
  rfl

theorem tableFault?_eq_empty_iff :
    tableFault? tables table = some (.emptyPrimaryKey name) ↔
      table.primaryKey = [] ∧ table.name = name := by
  simp only [tableFault?, List.isEmpty_iff]
  split
  next empty => simp [empty]
  next keyed => split <;> simp [keyed]

theorem tableFault?_eq_duplicate_iff :
    tableFault? tables table = some (.duplicateTable name) ↔
      table.primaryKey ≠ [] ∧ table.name = name ∧ 1 < (tables.map (·.name)).count name := by
  simp only [tableFault?, List.isEmpty_iff, length_filter_name]
  split
  next empty => simp [empty]
  next keyed =>
    split
    next twice => simpa [keyed] using fun same => same ▸ twice
    next once => simpa [keyed] using fun same => same ▸ Nat.not_lt.1 once

theorem tableFault?_eq_none_iff :
    tableFault? tables table = none ↔
      table.primaryKey ≠ [] ∧ (tables.map (·.name)).count table.name ≤ 1 := by
  simp only [tableFault?, List.isEmpty_iff, length_filter_name]
  split
  next empty => simp [empty]
  next keyed => split <;> simp_all

/-- No table is at fault exactly in usable settings. -/
theorem fault?_eq_none_iff : settings.fault? = none ↔ settings.IsUsable := by
  have each : settings.fault? = none ↔ ∀ table ∈ settings.tables, table.primaryKey ≠ [] ∧
      (settings.tables.map (·.name)).count table.name ≤ 1 := by
    simp only [fault?, List.findSome?_eq_none_iff, tableFault?_eq_none_iff]
  rw [each, forall₂_and]
  have once : (settings.tables.map (·.name)).Nodup ↔
      ∀ table ∈ settings.tables, (settings.tables.map (·.name)).count table.name ≤ 1 := by
    constructor
    · exact fun distinct table _ => List.nodup_iff_count_le_one.1 distinct table.name
    · intro each
      refine List.nodup_iff_count_le_one.2 fun name => ?_
      by_cases member : name ∈ settings.tables.map (·.name)
      · obtain ⟨table, defined, rfl⟩ := List.mem_map.1 member
        exact each table defined
      · exact (List.count_eq_zero.2 member) ▸ Nat.zero_le 1
  exact ⟨fun ⟨keyed, each⟩ => ⟨keyed, once.2 each⟩,
    fun ⟨keyed, distinct⟩ => ⟨keyed, once.1 distinct⟩⟩

/-- The fault that is named is that of the first table at fault. -/
theorem fault?_eq_some_iff {fault : SettingsFault} :
    settings.fault? = some fault ↔
      ∃ before table after, settings.tables = before ++ table :: after ∧
        tableFault? settings.tables table = some fault ∧
        ∀ earlier ∈ before, earlier.primaryKey ≠ [] ∧
          (settings.tables.map (·.name)).count earlier.name ≤ 1 := by
  rw [fault?, List.findSome?_eq_some_iff]
  simp only [tableFault?_eq_none_iff]

/-- A document that can be read is not refused as one that cannot. -/
theorem fault?_ne_unreadable : settings.fault? ≠ some .unreadable := by
  intro found
  obtain ⟨table, -, fault⟩ := List.exists_of_findSome?_eq_some found
  unfold tableFault? at fault
  split at fault
  next => cases fault
  next => split at fault <;> cases fault

end Faults

/-! ## Documents -/

section Documents

variable {settings : Settings} {document : String} {fault : SettingsFault}

/-- The settings that a document stands for, whether they are usable or not. -/
def read? (document : String) : Option Settings := (Toml.read? document).bind ofEntries

/-- A document is accepted exactly when it can be read as usable settings. -/
theorem ofToml_eq_ok_iff :
    ofToml document = .ok settings ↔ read? document = some settings ∧ settings.IsUsable := by
  rw [← fault?_eq_none_iff, ofToml, read?]
  cases (Toml.read? document).bind ofEntries with
  | none => simp
  | some found =>
    constructor
    · intro accepted
      dsimp only at accepted
      split at accepted
      next => cases accepted
      next free =>
        cases accepted
        exact ⟨rfl, free⟩
    · rintro ⟨same, free⟩
      cases same
      simp [free]

/-- A document is unreadable exactly when it is malformed or a value in it has the wrong type. -/
theorem ofToml_eq_unreadable_iff :
    ofToml document = .error .unreadable ↔ read? document = none := by
  rw [ofToml, read?]
  cases (Toml.read? document).bind ofEntries with
  | none => simp
  | some found =>
    have other := @fault?_ne_unreadable found
    dsimp only
    split <;> simp_all

/-- A document that can be read is refused for the fault of its settings. -/
theorem ofToml_eq_error_iff (readable : fault ≠ .unreadable) :
    ofToml document = .error fault ↔
      ∃ settings, read? document = some settings ∧ settings.fault? = some fault := by
  rw [ofToml, read?]
  cases (Toml.read? document).bind ofEntries with
  | none => simpa using readable.symm
  | some found =>
    dsimp only
    split <;> simp_all

end Documents

/-- Usable settings give a name the one table that they define under it. -/
theorem table?_eq_some_iff {settings : Settings} (usable : settings.IsUsable) {name : String}
    {table : Table} : settings.table? name = some table ↔
      ∃ definition ∈ settings.tables, definition.name = name ∧ definition.table = table := by
  rw [table?, Option.map_eq_some_iff]
  constructor
  · rintro ⟨definition, found, same⟩
    have named : definition.name = name := by simpa using List.find?_some found
    exact ⟨definition, List.mem_of_find?_eq_some found, named, same⟩
  · rintro ⟨definition, member, rfl, same⟩
    have isFound : (settings.tables.find? (·.name == definition.name)).isSome :=
      List.find?_isSome.2 ⟨definition, member, beq_self_eq_true _⟩
    obtain ⟨other, found⟩ := Option.isSome_iff_exists.1 isFound
    have named : other.name = definition.name := by simpa using List.find?_some found
    have stored := List.mem_of_find?_eq_some found
    rw [found, List.inj_on_of_nodup_map usable.distinct stored member named]
    exact ⟨definition, rfl, same⟩

/-- A table of usable settings has a primary key. -/
theorem primaryKey_of_table? {settings : Settings} (usable : settings.IsUsable) {name : String}
    {table : Table} (found : settings.table? name = some table) : table.primaryKey ≠ [] := by
  obtain ⟨definition, member, -, rfl⟩ := (table?_eq_some_iff usable).1 found
  exact usable.keyed definition member

/-! ## Bounds -/

section Bounds

variable {value : Value} {bound number : Nat} {names : List String}
  {fields : String → Option Value} {connection : ConnectionSettings}

theorem readNat_eq_some_iff :
    readNat bound value = some number ↔ number < bound ∧ value = .integer number := by
  cases value with
  | integer whole =>
    rw [readNat, Option.ite_none_right_eq_some, Option.some.injEq, Value.integer.injEq]
    omega
  | _ => simp [readNat]

/-- An integer of a document has 64 bits, of which one is its sign. -/
theorem lt_of_isSound (sound : (Value.integer number).IsSound) : number < UInt64.size / 2 := by
  generalize same : (number : Int) = whole at sound
  cases sound with
  | integer word =>
    have below := word.toInt_lt
    rw [show UInt64.size = 18446744073709551616 from rfl]
    omega

private theorem fieldsOf_sound (sound : value.IsSound) (found : fieldsOf names value = some fields)
    {name : String} {field : Value} (stored : fields name = some field) : field.IsSound := by
  unfold fieldsOf at found
  split at found
  next =>
    cases found
    cases sound with
    | table _ each => exact each _ (Toml.mem_of_lookup stored)
  next =>
    cases found
    cases sound with
    | array each => exact each _ (List.of_mem_zip (Toml.mem_of_lookup stored)).2
  next =>
    cases found
    cases stored
  next => cases found

private theorem isInRange_of_readConnection (sound : value.IsSound)
    (read : readConnection value = some connection) : connection.IsInRange := by
  obtain ⟨fields, found, read⟩ := Option.bind_eq_some_iff.1 read
  obtain ⟨host, -, read⟩ := Option.bind_eq_some_iff.1 read
  obtain ⟨port, portRead, read⟩ := Option.bind_eq_some_iff.1 read
  obtain ⟨isClustered, -, read⟩ := Option.bind_eq_some_iff.1 read
  obtain ⟨wantsNewer, -, read⟩ := Option.bind_eq_some_iff.1 read
  obtain ⟨timeout, timeoutRead, read⟩ := Option.bind_eq_some_iff.1 read
  cases read
  refine ⟨?_, fun deadline given => ?_⟩
  · cases stored : fields "port" with
    | none =>
      rw [stored] at portRead
      cases portRead
      exact ConnectionSettings.isInRange_default.port
    | some field =>
      rw [stored] at portRead
      exact (readNat_eq_some_iff.1 portRead).1
  · cases stored : fields "timeout_ms" with
    | none =>
      rw [stored] at timeoutRead
      cases timeoutRead
      cases given
    | some field =>
      rw [stored] at timeoutRead
      obtain ⟨number, numberRead, same⟩ := Option.map_eq_some_iff.1 timeoutRead
      cases same
      cases given
      rw [(readNat_eq_some_iff.1 numberRead).2] at stored
      exact lt_of_isSound (fieldsOf_sound sound found stored)

/-- However a document is read, its port and its deadline are in range. -/
theorem isInRange_of_read? {document : String} {settings : Settings}
    (read : read? document = some settings) : settings.connection.IsInRange := by
  obtain ⟨entries, table, read⟩ := Option.bind_eq_some_iff.1 read
  obtain ⟨connection, connectionRead, read⟩ := Option.bind_eq_some_iff.1 read
  obtain ⟨tables, -, read⟩ := Option.bind_eq_some_iff.1 read
  cases read
  cases stored : entries.lookup "connection" with
  | none =>
    rw [stored] at connectionRead
    cases connectionRead
    exact ConnectionSettings.isInRange_default
  | some field =>
    rw [stored] at connectionRead
    cases Toml.read?_sound table with
    | table _ each =>
      exact isInRange_of_readConnection (each _ (Toml.mem_of_lookup stored)) connectionRead

end Bounds

/-! ## The order of keys -/

section KeyOrder

variable {entries others : List (String × Value)}

private theorem fieldsOf_perm (names : List String) (distinct : (entries.map (·.1)).Nodup)
    (same : entries.Perm others) :
    fieldsOf names (.table entries) = fieldsOf names (.table others) :=
  congrArg some (funext fun _ => Toml.lookup_perm distinct same)

theorem readConnection_perm (distinct : (entries.map (·.1)).Nodup) (same : entries.Perm others) :
    readConnection (.table entries) = readConnection (.table others) := by
  rw [readConnection, readConnection, fieldsOf_perm _ distinct same]

theorem readTable_perm (distinct : (entries.map (·.1)).Nodup) (same : entries.Perm others) :
    readTable (.table entries) = readTable (.table others) := by
  rw [readTable, readTable, fieldsOf_perm _ distinct same]
  rfl

theorem ofEntries_perm (distinct : (entries.map (·.1)).Nodup) (same : entries.Perm others) :
    ofEntries entries = ofEntries others := by
  rw [ofEntries, ofEntries, Toml.lookup_perm distinct same, Toml.lookup_perm distinct same]

end KeyOrder

end Settings
end Rowscan
