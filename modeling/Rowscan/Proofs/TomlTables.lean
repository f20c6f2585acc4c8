import Mathlib.Data.List.Nodup
import Rowscan.Toml.Document

/-!
What every TOML document holds that is read. No table of it defines a key twice, however the table
came about, and its integers have 64 bits (`read?_sound`). A value is put under a key only where the
key is free, and a table that a header or a dotted key adds to keeps the keys that it had. So it
makes no difference in which order the keys of a table stand (`lookup_perm`).
-/
namespace Rowscan.Toml

/-! ## Tables with distinct keys -/

section Distinct

variable {α : Type} {entries others : List (String × α)} {key : String} {value : α}

theorem lookup_eq_none_iff : entries.lookup key = none ↔ key ∉ entries.map (·.1) := by
  rw [List.lookup_eq_none_iff, List.mem_map, not_exists]
  refine forall_congr' fun entry => ?_
  rw [not_and, bne_iff_ne]
  exact imp_congr_right fun _ => ne_comm

theorem mem_of_lookup (found : entries.lookup key = some value) : (key, value) ∈ entries := by
  induction entries with
  | nil => cases found
  | cons entry rest ih =>
    rw [List.lookup_cons] at found
    split at found
    next same =>
      cases found
      rw [eq_of_beq same]
      exact List.mem_cons_self
    next => exact List.mem_cons_of_mem _ (ih found)

/-- A key that is there once has the value that it is there with. -/
theorem lookup_eq_some_of_mem (distinct : (entries.map (·.1)).Nodup)
    (member : (key, value) ∈ entries) : entries.lookup key = some value := by
  cases found : entries.lookup key with
  | none => exact absurd (List.mem_map_of_mem member) (lookup_eq_none_iff.1 found)
  | some other =>
    have same := List.inj_on_of_nodup_map distinct (mem_of_lookup found) member rfl
    rw [(Prod.mk.inj same).2]

/-- What is under a key does not depend on the order of the keys. -/
theorem lookup_perm (distinct : (entries.map (·.1)).Nodup) (same : entries.Perm others) :
    entries.lookup key = others.lookup key := by
  cases found : entries.lookup key with
  | none =>
    have absent := lookup_eq_none_iff.1 found
    rw [(same.map (·.1)).mem_iff] at absent
    exact (lookup_eq_none_iff.2 absent).symm
  | some value =>
    have distinctOthers := (same.map (·.1)).nodup distinct
    exact (lookup_eq_some_of_mem distinctOthers (same.mem_iff.1 (mem_of_lookup found))).symm

end Distinct

/-! ## Sound values -/

/-- No key is defined twice in a table of a value, and its integers have 64 bits. -/
inductive Value.IsSound : Value → Prop
  | string (text : String) : IsSound (.string text)
  | integer (value : Int64) : IsSound (.integer value.toInt)
  | float (value : Double) : IsSound (.float value)
  | boolean (value : Bool) : IsSound (.boolean value)
  | datetime : IsSound .datetime
  | array {items : List Value} (each : ∀ item ∈ items, IsSound item) : IsSound (.array items)
  | table {entries : List (String × Value)} (distinct : (entries.map (·.1)).Nodup)
      (each : ∀ entry ∈ entries, IsSound entry.2) : IsSound (.table entries)

/-- The same of a table in the making. -/
inductive Node.IsSound : Node → Prop
  | value {value : Value} (sound : value.IsSound) : IsSound (.value value)
  | table {entries : Entries} (origin : Origin) (distinct : (entries.map (·.1)).Nodup)
      (each : ∀ entry ∈ entries, IsSound entry.2) : IsSound (.table origin entries)
  | tables {tables : List Entries} (distinct : ∀ entries ∈ tables, (entries.map (·.1)).Nodup)
      (each : ∀ entries ∈ tables, ∀ entry ∈ entries, IsSound entry.2) : IsSound (.tables tables)

namespace Entries

/-- Entries with distinct keys and sound values. -/
structure AreSound (entries : Entries) : Prop where
  distinct : (entries.map (·.1)).Nodup
  each : ∀ entry ∈ entries, entry.2.IsSound

variable {entries changed : Entries} {key : String} {node : Node} {value : Value}

private theorem areSound_nil : AreSound [] := ⟨.nil, nofun⟩

theorem AreSound.table (sound : entries.AreSound) (origin : Origin) :
    (Node.table origin entries).IsSound := .table origin sound.distinct sound.each

theorem AreSound.of_table {origin : Origin} (sound : (Node.table origin entries).IsSound) :
    entries.AreSound := by
  cases sound with
  | table _ distinct each => exact ⟨distinct, each⟩

theorem isSound_tables_iff {tables : List Entries} :
    (Node.tables tables).IsSound ↔ ∀ entries ∈ tables, entries.AreSound := by
  constructor
  · intro sound entries member
    cases sound with
    | tables distinct each => exact ⟨distinct entries member, each entries member⟩
  · exact fun sound => .tables (fun entries member => (sound entries member).distinct)
      fun entries member => (sound entries member).each

theorem AreSound.lookup (sound : entries.AreSound) (found : entries.lookup key = some node) :
    node.IsSound := sound.each _ (mem_of_lookup found)

/-- A key that is replaced stays where it is, and a new one comes last. -/
theorem keys_put (key : String) (node : Node) (entries : Entries) :
    (put key node entries).map (·.1) =
      if key ∈ entries.map (·.1) then entries.map (·.1) else entries.map (·.1) ++ [key] := by
  induction entries with
  | nil => rfl
  | cons entry rest ih =>
    rw [put]
    by_cases same : entry.1 = key
    · simp [same]
    · rw [if_neg same, List.map_cons, ih]
      by_cases member : key ∈ rest.map (·.1)
      · rw [if_pos member, List.map_cons, if_pos (List.mem_cons_of_mem _ member)]
      · have absent : key ∉ entry.1 :: rest.map (·.1) :=
          List.not_mem_cons_of_ne_of_not_mem (Ne.symm same) member
        rw [if_neg member, List.map_cons, if_neg absent]
        rfl

private theorem mem_put {entry : String × Node} (member : entry ∈ put key node entries) :
    entry = (key, node) ∨ entry ∈ entries := by
  induction entries with
  | nil => exact .inl (List.mem_singleton.1 member)
  | cons first rest ih =>
    rw [put] at member
    split at member
    · exact (List.mem_cons.1 member).imp_right (List.mem_cons_of_mem _)
    · rcases List.mem_cons.1 member with rfl | later
      · exact .inr List.mem_cons_self
      · exact (ih later).imp_right (List.mem_cons_of_mem _)

theorem AreSound.put (sound : entries.AreSound) (nodeSound : node.IsSound) :
    (put key node entries).AreSound := by
  refine ⟨?_, fun entry member => ?_⟩
  · rw [keys_put]
    split
    next => exact sound.distinct
    next absent => exact List.nodup_append_comm.2 (List.nodup_cons.2 ⟨absent, sound.distinct⟩)
  · rcases mem_put member with rfl | stored
    · exact nodeSound
    · exact sound.each entry stored

/-! ## Changes -/

section Last

variable {tables : List Entries}

private theorem areSound_last (sound : (Node.tables tables).IsSound) :
    AreSound (tables.getLast?.getD []) := by
  cases last : tables.getLast? with
  | none => exact areSound_nil
  | some entries => exact isSound_tables_iff.1 sound entries (List.mem_of_getLast? last)

theorem AreSound.replaceLast (changedSound : changed.AreSound)
    (sound : (Node.tables tables).IsSound) :
    (Node.tables (tables.dropLast ++ [changed])).IsSound := by
  refine isSound_tables_iff.2 fun entries member => ?_
  rcases List.mem_append.1 member with earlier | last
  · exact isSound_tables_iff.1 sound entries (List.dropLast_subset tables earlier)
  · rw [List.mem_singleton.1 last]
    exact changedSound

end Last

/-- A value is put under a free key only. -/
theorem AreSound.define (valueSound : value.IsSound) {path : List String} {isOpen : Bool}
    (sound : entries.AreSound) (defined : entries.define value key path isOpen = some changed) :
    changed.AreSound := by
  induction path generalizing entries isOpen changed with
  | nil =>
    obtain ⟨free, same⟩ := Option.ite_none_right_eq_some.1 defined
    cases same
    obtain ⟨-, absent⟩ := (Bool.and_eq_true _ _).mp free
    rw [Option.isNone_iff_eq_none, lookup_eq_none_iff] at absent
    refine ⟨?_, fun entry member => ?_⟩
    · rw [List.map_append]
      exact List.nodup_append_comm.2 (List.nodup_cons.2 ⟨absent, sound.distinct⟩)
    · rcases List.mem_append.1 member with stored | new
      · exact sound.each entry stored
      · rw [List.mem_singleton.1 new]
        exact .value valueSound
  | cons part path ih =>
    rw [Entries.define] at defined
    split at defined
    next =>
      obtain ⟨inner, inside, rfl⟩ := Option.map_eq_some_iff.1 defined
      exact sound.put ((ih areSound_nil inside).table .dotted)
    next => cases defined
    next => cases defined
    next origin inner _ found =>
      obtain ⟨changed, inside, rfl⟩ := Option.map_eq_some_iff.1 defined
      exact sound.put ((ih (.of_table (sound.lookup found)) inside).table origin)
    next tables found =>
      obtain ⟨changed, inside, rfl⟩ := Option.map_eq_some_iff.1 defined
      have last := sound.lookup found
      exact sound.put ((ih (areSound_last last) inside).replaceLast last)

/-- A change at a path keeps what it keeps of the table there. -/
theorem AreSound.modify {change : Entries → Option Entries}
    (keeps : ∀ {entries changed : Entries}, entries.AreSound → change entries = some changed →
      changed.AreSound) {path : List String} (sound : entries.AreSound)
    (modified : entries.modify change path = some changed) : changed.AreSound := by
  induction path generalizing entries changed with
  | nil => exact keeps sound modified
  | cons part path ih =>
    rw [Entries.modify] at modified
    split at modified
    next =>
      obtain ⟨inner, inside, rfl⟩ := Option.map_eq_some_iff.1 modified
      exact sound.put ((ih areSound_nil inside).table .path)
    next => cases modified
    next origin inner found =>
      obtain ⟨changed, inside, rfl⟩ := Option.map_eq_some_iff.1 modified
      exact sound.put ((ih (.of_table (sound.lookup found)) inside).table origin)
    next tables found =>
      obtain ⟨changed, inside, rfl⟩ := Option.map_eq_some_iff.1 modified
      have last := sound.lookup found
      exact sound.put ((ih (areSound_last last) inside).replaceLast last)

theorem AreSound.openTable (sound : entries.AreSound)
    (opened : entries.openTable key = some changed) : changed.AreSound := by
  rw [Entries.openTable] at opened
  split at opened
  next =>
    cases opened
    exact sound.put (areSound_nil.table .header)
  next inner found =>
    cases opened
    exact sound.put ((AreSound.of_table (sound.lookup found)).table .header)
  next => cases opened

theorem AreSound.openNextTable (sound : entries.AreSound)
    (opened : entries.openNextTable key = some changed) : changed.AreSound := by
  rw [Entries.openNextTable] at opened
  split at opened
  next =>
    cases opened
    exact sound.put (isSound_tables_iff.2 (List.forall_mem_singleton.2 areSound_nil))
  next tables found =>
    cases opened
    refine sound.put (isSound_tables_iff.2 fun entries member => ?_)
    rcases List.mem_append.1 member with earlier | last
    · exact isSound_tables_iff.1 (sound.lookup found) entries earlier
    · rw [List.mem_singleton.1 last]
      exact areSound_nil
  next => cases opened

end Entries

/-! ## Finished tables -/

private theorem keys_finishEntries (entries : Entries) :
    (finishEntries entries).map (·.1) = entries.map (·.1) := by
  induction entries with
  | nil => rfl
  | cons entry rest ih => exact congrArg (entry.1 :: ·) ih

mutual

theorem Node.IsSound.finish : (node : Node) → node.IsSound → node.finish.IsSound
  | .value _, sound => by
    cases sound with
    | value sound => exact sound
  | .table _ entries, sound => by
    obtain ⟨distinct, each⟩ := Entries.AreSound.of_table sound
    exact .table (keys_finishEntries entries ▸ distinct) (isSound_finishEntries entries each)
  | .tables tables, sound =>
    .array (isSound_finishTables tables (Entries.isSound_tables_iff.1 sound))
termination_by structural node => node

private theorem isSound_finishEntries : (entries : List (String × Node)) →
    (∀ entry ∈ entries, entry.2.IsSound) → ∀ entry ∈ finishEntries entries, entry.2.IsSound
  | [], _ => nofun
  | (_, node) :: rest, each => List.forall_mem_cons.2
    ⟨Node.IsSound.finish node (each _ List.mem_cons_self),
      isSound_finishEntries rest fun entry member => each entry (List.mem_cons_of_mem _ member)⟩
termination_by structural entries => entries

private theorem isSound_finishTables : (tables : List (List (String × Node))) →
    (∀ entries ∈ tables, Entries.AreSound entries) → ∀ item ∈ finishTables tables, item.IsSound
  | [], _ => nofun
  | entries :: rest, each => by
    obtain ⟨distinct, sound⟩ := each entries List.mem_cons_self
    refine List.forall_mem_cons.2 ⟨?_, isSound_finishTables rest fun entries member =>
      each entries (List.mem_cons_of_mem _ member)⟩
    exact .table (keys_finishEntries entries ▸ distinct) (isSound_finishEntries entries sound)
termination_by structural tables => tables

end

/-! ## Values -/

section Readers

variable {chars rest : List Char} {value : Value}

private theorem isSound_readDecimal? (read : readDecimal? chars = some (value, rest)) :
    value.IsSound := by
  obtain ⟨⟨whole, after⟩, -, read⟩ := Option.bind_eq_some_iff.1 read
  dsimp only at read
  split at read
  next tail behind _ =>
    obtain ⟨numeral, -, read⟩ := Option.bind_eq_some_iff.1 read
    split at read
    next => cases read
    next =>
      cases read
      exact .float _
  next =>
    obtain ⟨word, -, same⟩ := Option.map_eq_some_iff.1 read
    cases same
    exact .integer word

private theorem isSound_readBased? {base : Nat}
    (read : readBased? base chars = some (value, rest)) :
    value.IsSound := by
  obtain ⟨⟨digits, after⟩, -, read⟩ := Option.bind_eq_some_iff.1 read
  obtain ⟨word, -, same⟩ := Option.map_eq_some_iff.1 read
  cases same
  exact .integer word

private theorem isSound_readSpecial? {negative : Bool}
    (read : readSpecial? negative chars = some (value, rest)) : value.IsSound := by
  unfold readSpecial? at read
  split at read <;> cases read <;> exact .float _

private theorem isSound_readNumber? (read : readNumber? chars = some (value, rest)) :
    value.IsSound := by
  unfold readNumber? at read
  split at read
  next => exact isSound_readBased? read
  next => exact isSound_readBased? read
  next => exact isSound_readBased? read
  next =>
    split at read
    next number decimal =>
      cases read
      exact isSound_readDecimal? decimal
    next => exact isSound_readSpecial? read

private theorem isSound_readDatetime? (read : readDatetime? chars = some (value, rest)) :
    value.IsSound := by
  unfold readDatetime? at read
  split at read
  next =>
    cases read
    exact .datetime
  next =>
    obtain ⟨after, -, same⟩ := Option.map_eq_some_iff.1 read
    cases same
    exact .datetime

private theorem isSound_readWord? {word : String} {found : Value} (sound : found.IsSound)
    (read : readWord? word found chars = some (value, rest)) : value.IsSound := by
  obtain ⟨-, same⟩ := Option.ite_none_right_eq_some.1 read
  cases same
  exact sound

variable {readValue : List Char → Option (Value × List Char)}

private theorem isSound_readItems?
    (inner : ∀ {chars value rest}, readValue chars = some (value, rest) → value.IsSound)
    {fuel : Nat} {before items : List Value} (sound : ∀ item ∈ before, item.IsSound)
    (read : readItems? readValue fuel before chars = some (items, rest)) :
    ∀ item ∈ items, item.IsSound := by
  induction fuel generalizing before chars with
  | zero => cases read
  | succ fuel ih =>
    rw [readItems?] at read
    split at read
    next =>
      cases read
      exact fun item member => sound item (List.mem_reverse.1 member)
    next =>
      obtain ⟨⟨item, after⟩, first, read⟩ := Option.bind_eq_some_iff.1 read
      have longer : ∀ other ∈ item :: before, other.IsSound :=
        List.forall_mem_cons.2 ⟨inner first, sound⟩
      dsimp only at read
      split at read
      next => exact ih longer read
      next =>
        cases read
        exact fun item member => longer item (List.mem_reverse.1 member)
      next => cases read

private theorem areSound_readInline?
    (inner : ∀ {chars value rest}, readValue chars = some (value, rest) → value.IsSound)
    {fuel : Nat} {entries read : Entries} (sound : entries.AreSound)
    (found : readInline? readValue fuel entries chars = some (read, rest)) : read.AreSound := by
  induction fuel generalizing entries chars with
  | zero => cases found
  | succ fuel ih =>
    rw [readInline?] at found
    obtain ⟨⟨path, key, afterKey⟩, -, found⟩ := Option.bind_eq_some_iff.1 found
    obtain ⟨afterSign, -, found⟩ := Option.bind_eq_some_iff.1 found
    obtain ⟨⟨value, afterValue⟩, first, found⟩ := Option.bind_eq_some_iff.1 found
    obtain ⟨more, defined, found⟩ := Option.bind_eq_some_iff.1 found
    have longer := sound.define (inner first) defined
    split at found
    next => exact ih longer found
    next =>
      cases found
      exact longer
    next => cases found

/-- Every value that is read is sound. -/
theorem isSound_readValue? {depth : Nat} (read : readValue? depth chars = some (value, rest)) :
    value.IsSound := by
  -- Only arrays and inline tables go deeper, so that the other cases are the same at every depth.
  induction depth using Nat.strongRecOn generalizing chars value rest with
  | ind depth ih =>
    unfold readValue? at read
    split at read
    case h_1 => cases read
    case h_2 | h_3 =>
      obtain ⟨text, -, same⟩ := Option.map_eq_some_iff.1 read
      cases same
      exact .string _
    case h_4 =>
      split at read
      next => cases read
      next depth =>
        obtain ⟨⟨items, after⟩, found, same⟩ := Option.map_eq_some_iff.1 read
        cases same
        have inner := @ih depth depth.lt_succ_self
        exact .array (isSound_readItems? inner (List.forall_mem_nil _) found)
    case h_5 =>
      split at read
      next => cases read
      next depth =>
        split at read
        next =>
          cases read
          exact .table .nil nofun
        next =>
          obtain ⟨⟨entries, after⟩, found, same⟩ := Option.map_eq_some_iff.1 read
          cases same
          have inner := @ih depth depth.lt_succ_self
          have sound := areSound_readInline? inner Entries.areSound_nil found
          exact (sound.table .header).finish
    case h_6 => exact isSound_readWord? (.boolean true) read
    case h_7 => exact isSound_readWord? (.boolean false) read
    case h_8 =>
      split at read
      next found =>
        cases read
        exact isSound_readDatetime? found
      next => exact isSound_readNumber? read

end Readers

/-! ## Documents -/

section Documents

variable {draft changed : Draft} {chars rest : List Char}

private theorem areSound_header (sound : draft.root.AreSound)
    (read : readHeader? draft chars = some (changed, rest)) : changed.root.AreSound := by
  unfold readHeader? at read
  split at read
  next =>
    obtain ⟨⟨path, key, afterKey⟩, -, read⟩ := Option.bind_eq_some_iff.1 read
    obtain ⟨inner, -, read⟩ := Option.bind_eq_some_iff.1 read
    obtain ⟨outer, -, read⟩ := Option.bind_eq_some_iff.1 read
    obtain ⟨root, modified, read⟩ := Option.bind_eq_some_iff.1 read
    cases read
    exact sound.modify .openNextTable modified
  next =>
    obtain ⟨⟨path, key, afterKey⟩, -, read⟩ := Option.bind_eq_some_iff.1 read
    obtain ⟨inner, -, read⟩ := Option.bind_eq_some_iff.1 read
    obtain ⟨root, modified, read⟩ := Option.bind_eq_some_iff.1 read
    cases read
    exact sound.modify .openTable modified
  next => cases read

private theorem areSound_entry (sound : draft.root.AreSound)
    (read : readEntry? draft chars = some (changed, rest)) : changed.root.AreSound := by
  obtain ⟨⟨path, key, afterKey⟩, -, read⟩ := Option.bind_eq_some_iff.1 read
  obtain ⟨afterSign, -, read⟩ := Option.bind_eq_some_iff.1 read
  obtain ⟨⟨value, afterValue⟩, found, read⟩ := Option.bind_eq_some_iff.1 read
  obtain ⟨root, modified, read⟩ := Option.bind_eq_some_iff.1 read
  cases read
  exact sound.modify (fun sound => sound.define (isSound_readValue? found)) modified

private theorem areSound_lines {fuel : Nat} {entries : Entries} (sound : draft.root.AreSound)
    (read : readLinesOf? fuel draft chars = some entries) : entries.AreSound := by
  induction fuel generalizing draft chars with
  | zero => cases read
  | succ fuel ih =>
    rw [readLinesOf?] at read
    split at read
    next =>
      cases read
      exact sound
    next =>
      obtain ⟨-, same⟩ := Option.ite_none_right_eq_some.1 read
      cases same
      exact sound
    next =>
      obtain ⟨⟨changed, behind⟩, header, read⟩ := Option.bind_eq_some_iff.1 read
      obtain ⟨line, -, read⟩ := Option.bind_eq_some_iff.1 read
      exact ih (areSound_header sound header) read
    next =>
      obtain ⟨⟨changed, behind⟩, entry, read⟩ := Option.bind_eq_some_iff.1 read
      obtain ⟨line, -, read⟩ := Option.bind_eq_some_iff.1 read
      exact ih (areSound_entry sound entry) read

end Documents

/-- The table of a document defines no key twice, at any depth, and its integers have 64 bits. -/
theorem read?_sound {text : String} {entries : List (String × Value)}
    (read : read? text = some entries) : (Value.table entries).IsSound := by
  obtain ⟨root, lines, rfl⟩ := Option.map_eq_some_iff.1 read
  exact ((areSound_lines Entries.areSound_nil lines).table .header).finish

end Rowscan.Toml
