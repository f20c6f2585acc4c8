import Mathlib.Data.List.Basic
import Mathlib.Data.List.Pairwise
import Rowscan.Proofs.KeySorting

/-!
Sorting keys by text. Equal texts stay in their order, so where a key comes depends on the list
that is sorted, and not on its row alone (`PrecedesByText`). Two arrangements of the same keys are
the same list if and only if their orders agree on any two of the keys (`Arranged.eq_iff`); a part
of a list that is sorted by text, and the same keys sorted by themselves, may differ in the rule
they go by and in the places of equal texts (`arrange_eq_filter_iff`).
-/
namespace Rowscan

/-! ## Arrangements -/

/-- The items stand in the only order that the relation allows. -/
structure Arranged {α : Type} (before : α → α → Prop) (items : List α) : Prop where
  pairwise : items.Pairwise before
  refl : ∀ item, before item item
  antisymm : ∀ a ∈ items, ∀ b ∈ items, before a b → before b a → a = b

namespace Arranged

variable {α : Type} {before other : α → α → Prop} {first second : List α}

theorem filter (arranged : Arranged before first) (keep : α → Bool) :
    Arranged before (first.filter keep) where
  pairwise := arranged.pairwise.filter keep
  refl := arranged.refl
  antisymm a left b right :=
    arranged.antisymm a (List.mem_filter.1 left).1 b (List.mem_filter.1 right).1

/-- Two orders in which a list is arranged agree on its items. -/
theorem agree (arranged : Arranged before first) (alike : Arranged other first) :
    ∀ a ∈ first, ∀ b ∈ first, (before a b ↔ other a b) := by
  -- The relation between two items is read in both directions, to make it a symmetric one.
  let agreement (a b : α) : Prop := (before a b ↔ other a b) ∧ (before b a ↔ other b a)
  have symmetric : Std.Symm agreement := ⟨fun _ _ both => ⟨both.2, both.1⟩⟩
  have reflexive : ∀ a ∈ first, agreement a a := by
    intro a _
    have same : before a a ↔ other a a := iff_of_true (arranged.refl a) (alike.refl a)
    exact ⟨same, same⟩
  have ordered : first.Pairwise fun a b => before a b ∧ other a b :=
    arranged.pairwise.and alike.pairwise
  have pairwise : first.Pairwise agreement := by
    refine ordered.imp_of_mem fun {a b} left right both => ⟨iff_of_true both.1 both.2, ?_⟩
    constructor
    · intro back
      cases arranged.antisymm a left b right both.1 back
      exact both.2
    · intro back
      cases alike.antisymm a left b right both.2 back
      exact both.1
  intro a left b right
  exact (pairwise.forall_of_forall reflexive left right).1

/-- Arrangements of the same items are equal if and only if the orders agree on the items. -/
theorem eq_iff (arrangedFirst : Arranged before first) (arrangedSecond : Arranged other second)
    (same : first.Perm second) :
    first = second ↔ ∀ a ∈ first, ∀ b ∈ first, (before a b ↔ other a b) := by
  constructor
  · intro equal
    subst equal
    exact arrangedFirst.agree arrangedSecond
  · intro alike
    have sorted : second.Pairwise before := by
      refine arrangedSecond.pairwise.imp_of_mem fun {a b} left right precedes => ?_
      exact (alike a (same.mem_iff.2 left) b (same.mem_iff.2 right)).2 precedes
    refine List.Perm.eq_of_pairwise (fun a b left right => ?_) arrangedFirst.pairwise sorted same
    exact arrangedFirst.antisymm a left b (same.mem_iff.2 right)

end Arranged

/-! ## Texts -/

/-- Keys compare by the texts of their rows, missing texts first. -/
def compareTexts (value : String → Option String) (a b : String) : Ordering :=
  SortEntry.compareText ⟨value a, a, ()⟩ ⟨value b, b, ()⟩

section Texts

variable {value : String → Option String} {direction : Direction} {keys : List String}
variable {a b : String}

theorem compareTexts_eq (value : String → Option String) :
    compareTexts value = compareOn value := by
  funext a b
  unfold compareTexts SortEntry.compareText compareOn
  cases value a <;> cases value b <;> rfl

instance : Std.TransCmp (compareTexts value) := by
  rw [compareTexts_eq]
  infer_instance

private theorem compareTexts_eq_eq : compareTexts value a b = .eq ↔ value a = value b := by
  rw [compareTexts_eq, compareOn]
  exact Std.LawfulEqCmp.compare_eq_iff_eq

/-- A key comes before another when keys are sorted by text: its text does, or the texts are equal
and it already came first. -/
def PrecedesByText (direction : Direction) (value : String → Option String) (keys : List String)
    (a b : String) : Prop :=
  direction.orient (compareTexts value a b) = .lt ∨
    value a = value b ∧ keys.idxOf a ≤ keys.idxOf b

private theorem precedesByText_of_eq (same : value a = value b) :
    PrecedesByText direction value keys a b ↔ keys.idxOf a ≤ keys.idxOf b := by
  have equal : direction.orient (compareTexts value a b) = .eq :=
    direction.orient_eq_eq.2 (compareTexts_eq_eq.2 same)
  simp [PrecedesByText, equal, same]

private theorem precedesByText_of_ne (apart : value a ≠ value b) :
    PrecedesByText direction value keys a b ↔
      direction.orient (compareTexts value a b) = .lt := by
  simp [PrecedesByText, apart]

theorem PrecedesByText.antisymm (member : a ∈ keys)
    (first : PrecedesByText direction value keys a b)
    (second : PrecedesByText direction value keys b a) : a = b := by
  by_cases same : value a = value b
  · rw [precedesByText_of_eq same] at first
    rw [precedesByText_of_eq same.symm] at second
    exact (List.idxOf_inj member).1 (Nat.le_antisymm first second)
  · rw [precedesByText_of_ne same] at first
    rw [precedesByText_of_ne (Ne.symm same)] at second
    have ordered := direction.transCmp_orient (compareTexts value)
    have swapped : direction.orient (compareTexts value a b) =
        (direction.orient (compareTexts value b a)).swap := ordered.eq_swap
    rw [first, second] at swapped
    cases swapped

/-- The keys sorted by the texts of their rows. -/
def sortKeysByText (direction : Direction) (value : String → Option String) (keys : List String) :
    List String :=
  keys.mergeSort fun a b => (direction.orient (compareTexts value a b)).isLE

private theorem perm_sortKeysByText (direction : Direction) (value : String → Option String)
    (keys : List String) : (sortKeysByText direction value keys).Perm keys :=
  List.mergeSort_perm keys _

/-- A stable sort goes by the places in the list where the comparison does not decide. -/
theorem precedesByText_of_zipIdxLE {i j : Nat} (distinct : keys.Nodup) (first : (a, i) ∈ keys.zipIdx)
    (second : (b, j) ∈ keys.zipIdx) (sorted : List.zipIdxLE
      (fun a b => (direction.orient (compareTexts value a b)).isLE) (a, i) (b, j) = true) :
    PrecedesByText direction value keys a b := by
  have place {key : String} {i : Nat} (member : (key, i) ∈ keys.zipIdx) : keys.idxOf key = i := by
    obtain ⟨inside, rfl⟩ := List.getElem?_eq_some_iff.1 (List.mk_mem_zipIdx_iff_getElem?.1 member)
    exact distinct.idxOf_getElem i inside
  by_cases same : value a = value b
  · have equal : direction.orient (compareTexts value a b) = .eq :=
      direction.orient_eq_eq.2 (compareTexts_eq_eq.2 same)
    have back : direction.orient (compareTexts value b a) = .eq :=
      direction.orient_eq_eq.2 (compareTexts_eq_eq.2 same.symm)
    rw [precedesByText_of_eq same, place first, place second]
    simpa [List.zipIdxLE, equal, back] using sorted
  · have apart : direction.orient (compareTexts value a b) ≠ .eq := by
      rw [Ne, direction.orient_eq_eq, compareTexts_eq_eq]
      exact same
    rw [precedesByText_of_ne same]
    cases compared : direction.orient (compareTexts value a b) with
    | lt => rfl
    | eq => exact absurd compared apart
    | gt => simp [List.zipIdxLE, compared] at sorted

theorem isLE_orient_trans (a b c : String)
    (first : (direction.orient (compareTexts value a b)).isLE = true)
    (second : (direction.orient (compareTexts value b c)).isLE = true) :
    (direction.orient (compareTexts value a c)).isLE = true :=
  (direction.transCmp_orient (compareTexts value)).isLE_trans first second

theorem isLE_orient_total (a b : String) : ((direction.orient (compareTexts value a b)).isLE ||
    (direction.orient (compareTexts value b a)).isLE) = true := by
  have ordered := direction.transCmp_orient (compareTexts value)
  rw [Bool.or_eq_true]
  exact isLE_total (fun a b => direction.orient (compareTexts value a b)) a b

/-- The texts of sorted keys go in the direction, however often a key is listed. -/
theorem sorted_sortKeysByText : (sortKeysByText direction value keys).Pairwise
    fun a b => (direction.orient (compareTexts value a b)).isLE = true :=
  List.pairwise_mergeSort isLE_orient_trans isLE_orient_total keys

/-- Keys with one text stay in their order, however often a key is listed. -/
theorem filter_sortKeysByText (text : Option String) :
    (sortKeysByText direction value keys).filter (value · == text) =
      keys.filter (value · == text) := by
  have alike : (keys.filter (value · == text)).Pairwise
      fun a b => (direction.orient (compareTexts value a b)).isLE = true := by
    refine List.pairwise_of_forall_mem_list fun a left b right => ?_
    have leftText := eq_of_beq (List.mem_filter.1 left).2
    have rightText := eq_of_beq (List.mem_filter.1 right).2
    rw [direction.orient_eq_eq.2 (compareTexts_eq_eq.2 (leftText.trans rightText.symm))]
    rfl
  have kept : (keys.filter (value · == text)).Sublist (sortKeysByText direction value keys) :=
    List.sublist_mergeSort isLE_orient_trans isLE_orient_total alike List.filter_sublist
  have among := kept.filter (value · == text)
  rw [List.filter_filter] at among
  simp only [Bool.and_self] at among
  have count := ((perm_sortKeysByText direction value keys).filter (value · == text)).length_eq
  exact (among.eq_of_length count.symm).symm

/-- Sorting by text keeps keys with equal texts in their order. -/
theorem pairwise_sortKeysByText (distinct : keys.Nodup) :
    (sortKeysByText direction value keys).Pairwise (PrecedesByText direction value keys) := by
  let atMost (a b : String) : Bool := (direction.orient (compareTexts value a b)).isLE
  have transitive : ∀ a b c, atMost a b = true → atMost b c = true → atMost a c = true :=
    isLE_orient_trans
  have sorted := List.pairwise_mergeSort (List.zipIdxLE_trans transitive)
    (List.zipIdxLE_total isLE_orient_total) keys.zipIdx
  rw [sortKeysByText, ← List.mergeSort_zipIdx, List.pairwise_map]
  refine sorted.imp_of_mem fun {x y} left right precedes => ?_
  exact precedesByText_of_zipIdxLE distinct (List.mem_mergeSort.1 left)
    (List.mem_mergeSort.1 right) precedes

private theorem arranged_sortKeysByText (distinct : keys.Nodup) :
    Arranged (PrecedesByText direction value keys) (sortKeysByText direction value keys) where
  pairwise := pairwise_sortKeysByText distinct
  refl _ := .inr ⟨rfl, Nat.le_refl _⟩
  antisymm _ left _ _ := PrecedesByText.antisymm ((perm_sortKeysByText _ _ _).mem_iff.1 left)

end Texts

/-! ## Arranging keys -/

/-- The keys in the order in which their rows are sorted. -/
def arrange (direction : Direction) (value : String → Option String) (keys : List String) :
    List String :=
  (SortEntry.sort direction (keys.map (entryOf value fun _ => ()))).map (·.key)

section Arrange

variable {direction : Direction} {value : String → Option String} {keys : List String}

private theorem keys_entryOf {α : Type} (value : String → Option String) (item : String → α)
    (keys : List String) : (keys.map (entryOf value item)).map (·.key) = keys := by
  rw [List.map_map]
  exact List.map_id keys

theorem perm_arrange (direction : Direction) (value : String → Option String)
    (keys : List String) : (arrange direction value keys).Perm keys := by
  have sorted := (SortEntry.perm_sort direction (keys.map (entryOf value fun _ => ()))).map (·.key)
  rw [keys_entryOf] at sorted
  exact sorted

/-- Entries of which one does not sort by number are sorted as their keys are, by text. -/
theorem sort_eq_byText {α : Type} (direction : Direction) (item : String → α)
    (textual : ∃ key ∈ keys, sortsByNumber (value key) = false) :
    SortEntry.sort direction (keys.map (entryOf value item)) =
      (sortKeysByText direction value keys).map (entryOf value item) := by
  obtain ⟨key, member, text⟩ := textual
  have unscored : SortEntry.areNumeric (keys.map (entryOf value item)) = false := by
    rw [areNumeric_entryOf, List.all_eq_false]
    exact ⟨key, member, by rw [text]; exact Bool.false_ne_true⟩
  have alike : ∀ a ∈ keys, ∀ b ∈ keys, (direction.orient (compareTexts value a b)).isLE =
      (direction.orient ((entryOf value item a).compareText (entryOf value item b))).isLE :=
    fun _ _ _ _ => rfl
  rw [SortEntry.sort, unscored]
  exact (List.map_mergeSort alike).symm

theorem arrange_of_numeric (numeric : ∀ key ∈ keys, sortsByNumber (value key) = true) :
    arrange direction value keys = sortKeys direction value keys := by
  rw [arrange, sort_eq direction _ numeric, keys_entryOf]

theorem arrange_of_textual (textual : ∃ key ∈ keys, sortsByNumber (value key) = false) :
    arrange direction value keys = sortKeysByText direction value keys := by
  rw [arrange, sort_eq_byText direction _ textual, keys_entryOf]

/-- What an entry carries has no part in where it comes. -/
theorem sort_eq_arrange {α : Type} (direction : Direction) (value : String → Option String)
    (item : String → α) (keys : List String) :
    SortEntry.sort direction (keys.map (entryOf value item)) =
      (arrange direction value keys).map (entryOf value item) := by
  by_cases numeric : ∀ key ∈ keys, sortsByNumber (value key) = true
  · rw [sort_eq direction item numeric, arrange_of_numeric numeric]
  · have textual : ∃ key ∈ keys, sortsByNumber (value key) = false := by
      simpa using numeric
    rw [sort_eq_byText direction item textual, arrange_of_textual textual]

private theorem arranged_sortKeys :
    Arranged (Precedes direction value) (sortKeys direction value keys) where
  pairwise := pairwise_sortKeys keys
  refl := Precedes.refl
  antisymm _ _ _ _ := Precedes.antisymm

/-- Keys stand in the same order by themselves as among all listed keys, of which some have texts:
if they all have numbers, their numbers go as their texts do, and otherwise those with the same
text were given as they are listed. -/
def SameOrder (direction : Direction) (value : String → Option String)
    (keys listed : List String) : Prop :=
  if ∀ key ∈ keys, sortsByNumber (value key) = true then
    ∀ a ∈ keys, ∀ b ∈ keys,
      (Precedes direction value a b ↔ PrecedesByText direction value listed a b)
  else
    ∀ a ∈ keys, ∀ b ∈ keys, value a = value b →
      (keys.idxOf a ≤ keys.idxOf b ↔ listed.idxOf a ≤ listed.idxOf b)

instance (listed : List String) : Decidable (SameOrder direction value keys listed) := by
  unfold SameOrder Precedes PrecedesByText
  infer_instance

theorem precedesByText_congr_iff {listed : List String} {a b : String} :
    (PrecedesByText direction value keys a b ↔ PrecedesByText direction value listed a b) ↔
      (value a = value b → (keys.idxOf a ≤ keys.idxOf b ↔ listed.idxOf a ≤ listed.idxOf b)) := by
  by_cases same : value a = value b
  · simp [precedesByText_of_eq same, same]
  · simp [precedesByText_of_ne same, same]

/-- Sorting some keys and sorting all of them by text before they are picked out are the same if
and only if the order is. -/
theorem arrange_eq_filter_iff {listed : List String} {keep : String → Bool} (distinct : keys.Nodup)
    (distinctListed : listed.Nodup) (same : keys.Perm (listed.filter keep))
    (textual : ∃ key ∈ listed, sortsByNumber (value key) = false) :
    arrange direction value keys = (arrange direction value listed).filter keep ↔
      SameOrder direction value keys listed := by
  have perm : (arrange direction value keys).Perm ((arrange direction value listed).filter keep) :=
    ((perm_arrange _ _ _).trans same).trans ((perm_arrange _ _ _).filter keep).symm
  have picked : Arranged (PrecedesByText direction value listed)
      ((arrange direction value listed).filter keep) := by
    rw [arrange_of_textual textual]
    exact (arranged_sortKeysByText distinctListed).filter keep
  have members (key : String) : key ∈ arrange direction value keys ↔ key ∈ keys :=
    (perm_arrange direction value keys).mem_iff
  rw [SameOrder]
  split
  next numeric =>
    have sorted : Arranged (Precedes direction value) (arrange direction value keys) := by
      rw [arrange_of_numeric numeric]
      exact arranged_sortKeys
    rw [sorted.eq_iff picked perm]
    simp only [members]
  next unsettled =>
    have sorted : Arranged (PrecedesByText direction value keys) (arrange direction value keys) := by
      rw [arrange_of_textual (by simpa using unsettled)]
      exact arranged_sortKeysByText distinct
    rw [sorted.eq_iff picked perm]
    simp only [members, precedesByText_congr_iff]

end Arrange
end Rowscan
