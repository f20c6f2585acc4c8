import Rowscan.Query.Sorting

/-!
Sorting keys by number. Rows that all sort by number are sorted as their keys are (`sort_eq`), and
no two keys share a place, so sorting commutes with leaving keys out (`filter_sortKeys`) and does
not depend on the order in which the keys came (`sortKeys_perm`).
-/
namespace Rowscan

/-- Whether a value in the column sorts by number: it is one, or it is missing. -/
def sortsByNumber (value : Option String) : Bool := value.all fun text => (toNumber? text).isSome

/-- Keys compare by the numbers of their rows, and by themselves if those are equal. -/
def compareKeys (value : String → Option String) (a b : String) : Ordering :=
  SortEntry.compareNumeric ⟨value a, a, ()⟩ ⟨value b, b, ()⟩

/-- The keys sorted by the numbers of their rows. -/
def sortKeys (direction : Direction) (value : String → Option String) (keys : List String) :
    List String :=
  keys.mergeSort fun a b => (direction.orient (compareKeys value a b)).isLE

/-! ## Directions -/

section Directions

variable {α : Type} (cmp : α → α → Ordering) (direction : Direction)

/-- A comparison in one order is one in either direction. -/
theorem Direction.transCmp_orient [Std.TransCmp cmp] :
    Std.TransCmp fun a b => direction.orient (cmp a b) := by
  cases direction with
  | ascending => exact inferInstanceAs (Std.TransCmp cmp)
  | descending =>
    have swapped : (fun a b => (cmp a b).swap) = fun a b => cmp b a := by
      funext a b
      exact Std.OrientedCmp.eq_swap.symm
    change Std.TransCmp fun a b => (cmp a b).swap
    rw [swapped]
    exact Std.TransCmp.opposite

theorem Direction.orient_eq_eq {ordering : Ordering} :
    direction.orient ordering = .eq ↔ ordering = .eq := by
  cases direction <;> cases ordering <;> decide

theorem isLE_total [Std.OrientedCmp cmp] (a b : α) :
    (cmp a b).isLE = true ∨ (cmp b a).isLE = true := by
  cases before : (cmp a b).isLE with
  | true => exact .inl rfl
  | false =>
    have after : cmp b a = .lt :=
      Std.OrientedCmp.lt_of_not_isLE (by rw [before]; exact Bool.false_ne_true)
    exact .inr (by rw [after]; rfl)

end Directions

/-! ## One order for keys -/

section Order

variable (value : String → Option String)

instance : Std.TransCmp (compareKeys value) :=
  inferInstanceAs (Std.TransCmp (compareLex
    (compareOn fun key => (SortEntry.mk (value key) key ()).rank) (compareOn id)))

variable {value} {direction : Direction} {a b c : String}

private theorem eq_of_compareKeys (same : compareKeys value a b = .eq) : a = b := by
  have keys := (Ordering.then_eq_eq.1 same).2
  exact Std.LawfulEqCmp.eq_of_compare keys

/-- A key stands before another, or at its place. -/
def Precedes (direction : Direction) (value : String → Option String) (a b : String) : Prop :=
  (direction.orient (compareKeys value a b)).isLE = true

instance : Decidable (Precedes direction value a b) := inferInstanceAs (Decidable (_ = true))

theorem Precedes.refl (a : String) : Precedes direction value a a := by
  have same : compareKeys value a a = .eq := Std.ReflCmp.compare_self
  rw [Precedes, direction.orient_eq_eq.2 same]
  rfl

theorem Precedes.trans (first : Precedes direction value a b)
    (second : Precedes direction value b c) : Precedes direction value a c :=
  (direction.transCmp_orient (compareKeys value)).isLE_trans first second

theorem precedes_total : Precedes direction value a b ∨ Precedes direction value b a := by
  have ordered := direction.transCmp_orient (compareKeys value)
  exact isLE_total (fun a b => direction.orient (compareKeys value a b)) a b

theorem Precedes.antisymm (first : Precedes direction value a b)
    (second : Precedes direction value b a) : a = b := by
  have ordered := direction.transCmp_orient (compareKeys value)
  have same := @Std.OrientedCmp.isLE_antisymm _ (fun a b => direction.orient (compareKeys value a b))
    _ a b first second
  exact eq_of_compareKeys (direction.orient_eq_eq.1 same)

end Order

/-! ## Sorted keys -/

variable {direction : Direction} {value : String → Option String}

private theorem perm_sortKeys (keys : List String) : (sortKeys direction value keys).Perm keys :=
  List.mergeSort_perm keys _

theorem pairwise_sortKeys (keys : List String) :
    (sortKeys direction value keys).Pairwise (Precedes direction value) := by
  refine List.pairwise_mergeSort (fun a b c first second => ?_) (fun a b => ?_) keys
  · exact Precedes.trans (b := b) first second
  · rw [Bool.or_eq_true]
    exact precedes_total

theorem mem_sortKeys {keys : List String} {key : String} :
    key ∈ sortKeys direction value keys ↔ key ∈ keys := (perm_sortKeys keys).mem_iff

/-- Two sorted lists of the same keys are the same list. -/
theorem eq_of_perm {first second : List String} (sortedFirst : first.Pairwise (Precedes direction value))
    (sortedSecond : second.Pairwise (Precedes direction value)) (same : first.Perm second) :
    first = second :=
  List.Perm.eq_of_pairwise (fun _ _ _ _ before after => before.antisymm after) sortedFirst
    sortedSecond same

theorem sortKeys_eq_of_perm {keys sorted : List String} (same : keys.Perm sorted)
    (inOrder : sorted.Pairwise (Precedes direction value)) : sortKeys direction value keys = sorted :=
  eq_of_perm (pairwise_sortKeys keys) inOrder ((perm_sortKeys keys).trans same)

theorem sortKeys_perm {first second : List String} (same : first.Perm second) :
    sortKeys direction value first = sortKeys direction value second :=
  sortKeys_eq_of_perm (same.trans (perm_sortKeys second).symm) (pairwise_sortKeys second)

theorem filter_sortKeys (keep : String → Bool) (keys : List String) :
    (sortKeys direction value keys).filter keep = sortKeys direction value (keys.filter keep) :=
  eq_of_perm ((pairwise_sortKeys keys).filter keep) (pairwise_sortKeys _)
    (((perm_sortKeys keys).filter keep).trans (perm_sortKeys _).symm)

/-- Sorting keeps every entry. -/
theorem SortEntry.perm_sort {α : Type} (direction : Direction) (entries : List (SortEntry α)) :
    (sort direction entries).Perm entries := List.mergeSort_perm entries _

/-- The entry that a key is sorted by. -/
def entryOf {α : Type} (value : String → Option String) (item : String → α) (key : String) :
    SortEntry α := ⟨value key, key, item key⟩

theorem areNumeric_entryOf {α : Type} (value : String → Option String) (item : String → α)
    (keys : List String) : SortEntry.areNumeric (keys.map (entryOf value item)) =
      keys.all fun key => sortsByNumber (value key) := by
  rw [SortEntry.areNumeric, List.all_map]
  congr 1
  funext key
  unfold Function.comp SortEntry.score? entryOf sortsByNumber
  cases value key <;> rfl

/-- Entries that all sort by number are sorted as their keys are. -/
theorem sort_eq {α : Type} (direction : Direction) {keys : List String} (item : String → α)
    (numeric : ∀ key ∈ keys, sortsByNumber (value key) = true) :
    SortEntry.sort direction (keys.map (entryOf value item)) =
      (sortKeys direction value keys).map (entryOf value item) := by
  have scored : SortEntry.areNumeric (keys.map (entryOf value item)) = true := by
    rw [areNumeric_entryOf, List.all_eq_true]
    exact numeric
  have sorted : SortEntry.sort direction (keys.map (entryOf value item)) =
      (keys.map (entryOf value item)).mergeSort fun a b =>
        (direction.orient (SortEntry.compareNumeric a b)).isLE := by
    rw [SortEntry.sort, scored]
    rfl
  have alike : ∀ a ∈ keys, ∀ b ∈ keys, (direction.orient (compareKeys value a b)).isLE =
      (direction.orient ((entryOf value item a).compareNumeric (entryOf value item b))).isLE :=
    fun _ _ _ _ => rfl
  rw [sorted]
  exact (List.map_mergeSort alike).symm

end Rowscan
