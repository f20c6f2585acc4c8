/-!
Maps from names to values. The entries are held in the order of their names, each name once, so
two maps with the same values under the same names are equal (`FieldMap.ext_find?`). Names
compare by code point, which is also the order of their UTF-8 bytes.
-/
namespace Rowscan

/-- A finite map from names. -/
structure FieldMap (α : Type) where
  entries : List (String × α)
  sorted : entries.Pairwise (·.1 < ·.1)
  deriving DecidableEq

namespace FieldMap

variable {α β : Type}

/-- The map without entries. -/
def empty : FieldMap α := ⟨[], .nil⟩

instance : EmptyCollection (FieldMap α) := ⟨empty⟩
instance : Inhabited (FieldMap α) := ⟨empty⟩

/-- Puts an entry in its place, or in the place of the one with the same name. -/
def insertEntry (name : String) (value : α) : List (String × α) → List (String × α)
  | [] => [(name, value)]
  | entry :: rest =>
    if name < entry.1 then (name, value) :: entry :: rest
    else if name = entry.1 then (name, value) :: rest
    else entry :: insertEntry name value rest

private theorem mem_insertEntry {name : String} {value : α} {entry : String × α}
    {entries : List (String × α)} (h : entry ∈ insertEntry name value entries) :
    entry = (name, value) ∨ entry ∈ entries := by
  induction entries with
  | nil => simpa [insertEntry] using h
  | cons first rest ih =>
    simp only [insertEntry] at h
    split at h
    · simpa using h
    · split at h <;> simp only [List.mem_cons] at h ⊢ <;> grind

private theorem pairwise_insertEntry (name : String) (value : α) {entries : List (String × α)}
    (h : entries.Pairwise (·.1 < ·.1)) :
    (insertEntry name value entries).Pairwise (·.1 < ·.1) := by
  induction entries with
  | nil => simp [insertEntry]
  | cons first rest ih =>
    have below {entry : String × α} (mem : entry ∈ rest) : first.1 < entry.1 :=
      List.rel_of_pairwise_cons h mem
    simp only [insertEntry]
    split
    next before =>
      refine .cons (fun entry mem => ?_) h
      rcases List.mem_cons.1 mem with rfl | mem
      · exact before
      · exact String.lt_trans before (below mem)
    next notBefore =>
      split
      next same => subst same; exact .cons (fun entry mem => below mem) h.of_cons
      next differs =>
        refine .cons (fun entry mem => ?_) (ih h.of_cons)
        rcases mem_insertEntry mem with rfl | mem
        · rcases String.le_total name first.1 with le | le
          · exact absurd (String.le_antisymm le (String.not_lt.1 notBefore)) differs
          · exact String.not_le.1 fun ge => differs (String.le_antisymm ge le)
        · exact below mem

/-- The map with a value put under a name. -/
def insert (map : FieldMap α) (name : String) (value : α) : FieldMap α :=
  ⟨insertEntry name value map.entries, pairwise_insertEntry name value map.sorted⟩

/-- The map of these pairs; of a repeated name the last value counts. -/
def ofList (pairs : List (String × α)) : FieldMap α :=
  pairs.foldl (fun map pair => map.insert pair.1 pair.2) empty

/-- The value under a name. -/
def find? (map : FieldMap α) (name : String) : Option α :=
  map.entries.lookup name

/-- Whether the name has a value. -/
def contains (map : FieldMap α) (name : String) : Bool := (map.find? name).isSome

/-- The map without a name. -/
def erase (map : FieldMap α) (name : String) : FieldMap α :=
  ⟨map.entries.filter (·.1 != name), map.sorted.filter _⟩

/-- Whether the map has no entries. -/
def isEmpty (map : FieldMap α) : Bool := map.entries.isEmpty

/-- The number of entries. -/
def size (map : FieldMap α) : Nat := map.entries.length

/-- The names, in order. -/
def names (map : FieldMap α) : List String := map.entries.map (·.1)

/-- The values, in the order of their names. -/
def values (map : FieldMap α) : List α := map.entries.map (·.2)

/-! ## Looking up -/

@[simp] theorem find?_empty (name : String) : (empty : FieldMap α).find? name = none := rfl

private theorem lookup_entry (key probe : String) (value : α) (rest : List (String × α)) :
    ((key, value) :: rest).lookup probe =
      if probe = key then some value else rest.lookup probe := by
  by_cases h : probe = key
  · subst h; simp
  · simp [List.lookup_cons, beq_eq_false_iff_ne.2 h, h]

private theorem lookup_insertEntry (name probe : String) (value : α)
    (entries : List (String × α)) :
    (insertEntry name value entries).lookup probe =
      if probe = name then some value else entries.lookup probe := by
  induction entries with
  | nil => simp [insertEntry, lookup_entry]
  | cons first rest ih =>
    obtain ⟨key, item⟩ := first
    simp only [insertEntry]
    split
    next => simp only [lookup_entry]
    next =>
      split
      next same => subst same; simp only [lookup_entry]; split <;> rfl
      next differs => simp only [lookup_entry, ih]; grind

/-- An inserted value is found under its name, and nothing else changes. -/
theorem find?_insert (map : FieldMap α) (name probe : String) (value : α) :
    (map.insert name value).find? probe = if probe = name then some value else map.find? probe :=
  lookup_insertEntry name probe value map.entries

/-- An erased name is found no more, and nothing else changes. -/
theorem find?_erase (map : FieldMap α) (name probe : String) :
    (map.erase name).find? probe = if probe = name then none else map.find? probe := by
  obtain ⟨entries, sorted⟩ := map
  simp only [find?, erase]
  clear sorted
  induction entries with
  | nil => simp
  | cons first rest ih =>
    obtain ⟨key, item⟩ := first
    rw [List.filter_cons]
    by_cases hn : key = name
    · subst hn
      simp only [bne_self_eq_false, Bool.false_eq_true, if_false, ih, lookup_entry]
      split <;> rfl
    · simp only [bne_iff_ne.2 hn, if_true, lookup_entry, ih]
      grind

private theorem lookup_eq_none {name : String} {entries : List (String × α)}
    (h : ∀ entry ∈ entries, name < entry.1) : entries.lookup name = none := by
  induction entries with
  | nil => rfl
  | cons first rest ih =>
    obtain ⟨key, item⟩ := first
    have below : name < key := h (key, item) List.mem_cons_self
    have differs : name ≠ key := fun same => String.lt_irrefl _ (same ▸ below)
    rw [lookup_entry, if_neg differs, ih fun entry mem => h entry (List.mem_cons_of_mem _ mem)]

private theorem entries_eq {first second : List (String × α)}
    (h₁ : first.Pairwise (·.1 < ·.1)) (h₂ : second.Pairwise (·.1 < ·.1))
    (same : ∀ name, first.lookup name = second.lookup name) : first = second := by
  induction first generalizing second with
  | nil =>
    cases second with
    | nil => rfl
    | cons head tail =>
      obtain ⟨key, value⟩ := head
      simpa [lookup_entry] using same key
  | cons head tail ih =>
    cases second with
    | nil =>
      obtain ⟨key, value⟩ := head
      simpa [lookup_entry] using same key
    | cons head' tail' =>
      obtain ⟨key, value⟩ := head
      obtain ⟨key', value'⟩ := head'
      have above {entry} (mem : entry ∈ tail) : key < entry.1 := List.rel_of_pairwise_cons h₁ mem
      have above' {entry} (mem : entry ∈ tail') : key' < entry.1 :=
        List.rel_of_pairwise_cons h₂ mem
      have keys : key = key' := by
        refine String.le_antisymm (String.not_lt.1 fun lt => ?_) (String.not_lt.1 fun lt => ?_)
        · have gone : ((key, value) :: tail).lookup key' = none :=
            lookup_eq_none fun entry mem => by
              rcases List.mem_cons.1 mem with rfl | mem
              · exact lt
              · exact String.lt_trans lt (above mem)
          simpa [gone, lookup_entry] using same key'
        · have gone : ((key', value') :: tail').lookup key = none :=
            lookup_eq_none fun entry mem => by
              rcases List.mem_cons.1 mem with rfl | mem
              · exact lt
              · exact String.lt_trans lt (above' mem)
          simpa [gone, lookup_entry] using (same key).symm
      subst keys
      have values : value = value' := by simpa [lookup_entry] using same key
      subst values
      congr 1
      refine ih h₁.of_cons h₂.of_cons fun name => ?_
      by_cases h : name = key
      · subst h
        rw [lookup_eq_none fun _ => above, lookup_eq_none fun _ => above']
      · simpa [lookup_entry, h] using same name

/-- Maps that answer every name alike are equal. -/
theorem ext_find? {first second : FieldMap α} (h : ∀ name, first.find? name = second.find? name) :
    first = second := by
  obtain ⟨entries, sorted⟩ := first
  obtain ⟨entries', sorted'⟩ := second
  have := entries_eq sorted sorted' h
  subst this
  rfl

end FieldMap
end Rowscan
