import Mathlib.Data.List.Nodup
import Rowscan.FieldMap

/-!
Maps and the lists they are built from. A map holds an entry exactly if the name is looked up to
the value (`mem_entries`), and building a map from entries that are in order gives those entries
back (`entries_ofList`, `ofList_entries`). A map does not depend on the order in which distinct
names are given (`ofList_perm`), nor, if it gives a value to each of several fields, on the order of
the fields (`ofList_map_perm`).
-/
namespace Rowscan.FieldMap

variable {α β : Type}

/-! ## Entries and lookups -/

private theorem lookup_of_mem {entries : List (String × α)} (sorted : entries.Pairwise (·.1 < ·.1))
    {name : String} {value : α} (member : (name, value) ∈ entries) :
    entries.lookup name = some value := by
  induction entries with
  | nil => simp at member
  | cons first rest ih =>
    obtain ⟨head, tail⟩ := List.pairwise_cons.1 sorted
    obtain ⟨key, item⟩ := first
    rcases List.mem_cons.1 member with same | later
    · cases same
      exact List.lookup_cons_self
    · have differs : (name == key) = false := by
        rw [beq_eq_false_iff_ne]
        intro same
        exact String.lt_irrefl key (same ▸ head _ later)
      rw [List.lookup_cons, differs]
      exact ih tail later

/-- A map holds the entries that its lookups tell. -/
theorem mem_entries {map : FieldMap α} {name : String} {value : α} :
    (name, value) ∈ map.entries ↔ map.find? name = some value := by
  constructor
  · exact lookup_of_mem map.sorted
  · intro found
    obtain ⟨before, after, parts, -⟩ := List.lookup_eq_some_iff.1 found
    rw [parts]
    exact List.mem_append_right _ List.mem_cons_self

theorem contains_iff {map : FieldMap α} {name : String} :
    map.contains name = true ↔ ∃ value, map.find? name = some value :=
  Option.isSome_iff_exists

theorem contains_insert (map : FieldMap α) (name probe : String) (value : α) :
    (map.insert name value).contains probe = (decide (probe = name) || map.contains probe) := by
  unfold contains
  rw [find?_insert]
  split <;> simp_all

theorem contains_erase (map : FieldMap α) (name probe : String) :
    (map.erase name).contains probe = (decide (probe ≠ name) && map.contains probe) := by
  unfold contains
  rw [find?_erase]
  split <;> simp_all

theorem isEmpty_iff {map : FieldMap α} : map.isEmpty = true ↔ map = empty := by
  obtain ⟨entries, sorted⟩ := map
  cases entries <;> simp [isEmpty, empty]

/-- A map with a value under some name is not empty. -/
theorem isEmpty_eq_false_of_find? {map : FieldMap α} {name : String} {value : α}
    (found : map.find? name = some value) : map.isEmpty = false := by
  rw [Bool.eq_false_iff]
  intro none
  rw [isEmpty_iff.1 none] at found
  simp at found

/-! ## Building maps -/

/-- An entry beyond all others goes to the end. -/
theorem insertEntry_last {name : String} {value : α} {entries : List (String × α)}
    (beyond : ∀ entry ∈ entries, entry.1 < name) :
    insertEntry name value entries = entries ++ [(name, value)] := by
  induction entries with
  | nil => rfl
  | cons first rest ih =>
    have before := beyond first List.mem_cons_self
    have notAfter : ¬ name < first.1 := fun after => String.lt_irrefl _ (String.lt_trans before after)
    have differs : name ≠ first.1 := fun same => String.lt_irrefl _ (same ▸ before)
    rw [insertEntry, if_neg notAfter, if_neg differs,
      ih fun entry member => beyond entry (List.mem_cons_of_mem _ member)]
    rfl

private theorem entries_foldl {pairs : List (String × α)} (map : FieldMap α)
    (sorted : (map.entries ++ pairs).Pairwise (·.1 < ·.1)) :
    (pairs.foldl (fun map pair => map.insert pair.1 pair.2) map).entries =
      map.entries ++ pairs := by
  induction pairs generalizing map with
  | nil => simp
  | cons pair rest ih =>
    have beyond : ∀ entry ∈ map.entries, entry.1 < pair.1 := fun entry member =>
      (List.pairwise_append.1 sorted).2.2 entry member pair List.mem_cons_self
    have inserted : (map.insert pair.1 pair.2).entries = map.entries ++ [pair] :=
      insertEntry_last beyond
    have parts : map.entries ++ pair :: rest = map.entries ++ [pair] ++ rest := by simp
    rw [List.foldl_cons, ih _ (by rw [inserted, ← parts]; exact sorted), inserted, ← parts]

/-- Entries in order are the entries of the map built from them. -/
theorem entries_ofList {pairs : List (String × α)} (sorted : pairs.Pairwise (·.1 < ·.1)) :
    (ofList pairs).entries = pairs := entries_foldl empty sorted

/-- A map is built again from its entries. -/
theorem ofList_entries (map : FieldMap α) : ofList map.entries = map := by
  have same := entries_ofList map.sorted
  obtain ⟨entries, sorted⟩ := map
  cases built : ofList entries with
  | mk entries' sorted' =>
    simp only [built] at same
    subst same
    rfl

/-- Values under two names may be put in either order. -/
theorem insert_comm (map : FieldMap α) {first second : String} (apart : first ≠ second)
    (value other : α) : (map.insert first value).insert second other =
      (map.insert second other).insert first value := by
  refine ext_find? fun name => ?_
  simp only [find?_insert]
  by_cases same : name = first
  · simp [same, apart]
  · simp [same]

/-- The order in which distinct names are given does not matter. -/
theorem ofList_perm {pairs others : List (String × α)} (distinct : (pairs.map (·.1)).Nodup)
    (same : others.Perm pairs) : ofList others = ofList pairs := by
  refine (same.symm.foldl_eq' (fun first given second also map => ?_) empty).symm
  by_cases names : first.1 = second.1
  · rw [List.inj_on_of_nodup_map distinct given also names]
  · exact map.insert_comm names first.2 second.2

private theorem mem_names {map : FieldMap α} {name : String} :
    name ∈ map.names ↔ ∃ value, map.find? name = some value := by
  rw [names, List.mem_map]
  constructor
  · rintro ⟨⟨name, value⟩, stored, rfl⟩
    exact ⟨value, mem_entries.1 stored⟩
  · rintro ⟨value, found⟩
    exact ⟨(name, value), mem_entries.2 found, rfl⟩

private theorem nodup_names (map : FieldMap α) : map.names.Nodup := by
  rw [names, List.nodup_iff_pairwise_ne, List.pairwise_map]
  refine map.sorted.imp fun {first second} less same => ?_
  rw [same] at less
  exact String.lt_irrefl _ less

theorem length_values (map : FieldMap α) : map.values.length = map.names.length := by
  rw [values, names, List.length_map, List.length_map]

private theorem map_lookup_eq_iff {entries others : List (String × α)} (change : α → β)
    (names : entries.map (·.1) = others.map (·.1)) (distinct : (entries.map (·.1)).Nodup) :
    (entries.map (·.2)).map change = (others.map (·.2)).map change ↔
      ∀ name, (entries.lookup name).map change = (others.lookup name).map change := by
  induction entries generalizing others with
  | nil =>
    rw [List.map_eq_nil_iff.1 names.symm]
    simp
  | cons entry rest ih =>
    obtain ⟨name, value⟩ := entry
    obtain _ | ⟨⟨name, other⟩, more⟩ := others
    · cases names
    cases (List.cons.inj names).1
    obtain ⟨fresh, distinct⟩ := List.nodup_cons.1 distinct
    have later := (List.cons.inj names).2
    have missing {entries : List (String × α)} (fresh : name ∉ entries.map (·.1)) :
        entries.lookup name = none := by
      rw [List.lookup_eq_none_iff]
      intro entry member
      exact bne_iff_ne.2 fun same => fresh (List.mem_map.2 ⟨entry, member, same.symm⟩)
    simp only [List.map_cons, List.cons.injEq, ih later distinct]
    constructor
    · rintro ⟨head, tail⟩ probe
      by_cases same : probe = name
      · simp [same, head]
      · simp [List.lookup_cons, beq_eq_false_iff_ne.2 same, tail probe]
    · intro all
      refine ⟨by simpa using all name, fun probe => ?_⟩
      by_cases same : probe = name
      · rw [same, missing fresh, missing (later ▸ fresh)]
      · simpa [List.lookup_cons, beq_eq_false_iff_ne.2 same] using all probe

/-- Over the same names, a function makes the same of all values of two maps exactly if it does so
name by name. -/
theorem map_values_eq_iff {first second : FieldMap α} (change : α → β)
    (names : first.names = second.names) :
    first.values.map change = second.values.map change ↔
      ∀ name, (first.find? name).map change = (second.find? name).map change :=
  map_lookup_eq_iff change names (nodup_names first)

/-! ## Maps that give a value to each of several fields -/

private theorem find?_foldl_map (fields : List String) (value : String → α) (map : FieldMap α)
    (name : String) :
    ((fields.map fun field => (field, value field)).foldl
        (fun map pair => map.insert pair.1 pair.2) map).find? name =
      if name ∈ fields then some (value name) else map.find? name := by
  induction fields generalizing map with
  | nil => rfl
  | cons field rest ih =>
    rw [List.map_cons, List.foldl_cons, ih, find?_insert]
    by_cases later : name ∈ rest
    · rw [if_pos later, if_pos (List.mem_cons_of_mem _ later)]
    · by_cases same : name = field
      · subst same
        rw [if_neg later, if_pos rfl, if_pos List.mem_cons_self]
      · have outside : name ∉ field :: rest := by
          rw [List.mem_cons]
          exact fun either => either.elim same later
        rw [if_neg later, if_neg same, if_neg outside]

private theorem find?_ofList_map (fields : List String) (value : String → α) (name : String) :
    (ofList (fields.map fun field => (field, value field))).find? name =
      if name ∈ fields then some (value name) else none :=
  find?_foldl_map fields value empty name

/-- These fields, each once and in order. -/
def index (fields : List String) : List String :=
  (ofList (fields.map fun field => (field, ()))).names

theorem mem_index {fields : List String} {name : String} : name ∈ index fields ↔ name ∈ fields := by
  rw [index, mem_names, find?_ofList_map]
  split
  next given => exact ⟨fun _ => given, fun _ => ⟨(), rfl⟩⟩
  next missing => exact ⟨nofun, fun given => absurd given missing⟩

theorem index_perm {fields : List String} (distinct : fields.Nodup) : (index fields).Perm fields :=
  (List.perm_ext_iff_of_nodup (nodup_names _) distinct).2 fun _ => mem_index

/-- The order in which fields are given does not matter. -/
theorem ofList_map_perm {fields others : List String} (same : fields.Perm others)
    (value : String → α) :
    ofList (fields.map fun field => (field, value field)) =
      ofList (others.map fun field => (field, value field)) := by
  refine ext_find? fun name => ?_
  simp only [find?_ofList_map, same.mem_iff]

private theorem entries_ofList_map (fields : List String) (value : String → α) :
    (ofList (fields.map fun field => (field, value field))).entries =
      (index fields).map fun field => (field, value field) := by
  have sorted : ((index fields).map fun field => (field, value field)).Pairwise (·.1 < ·.1) := by
    rw [List.pairwise_map, index, names, List.pairwise_map]
    exact (ofList (fields.map fun field => (field, ()))).sorted
  rw [← entries_ofList sorted]
  refine congrArg entries (ext_find? fun name => ?_)
  simp only [find?_ofList_map, mem_index]

theorem names_ofList_map (fields : List String) (value : String → α) :
    (ofList (fields.map fun field => (field, value field))).names = index fields := by
  rw [names, entries_ofList_map, List.map_map]
  exact List.map_id _

theorem values_ofList_map (fields : List String) (value : String → α) :
    (ofList (fields.map fun field => (field, value field))).values = (index fields).map value := by
  rw [values, entries_ofList_map, List.map_map]
  rfl

end Rowscan.FieldMap
