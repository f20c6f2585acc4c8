import Mathlib.Data.List.Pairwise
import Rowscan.Proofs.Comparisons
import Rowscan.Proofs.KeySorting
import Rowscan.Proofs.WholeDoubles

/-!
The order in which rows come that sort by number. Sorting is by the place of a number, which is
its value except that negative zero stands just below zero (`Double.rank_lt_iff`), and equal
numbers go by the bytes of their keys (`Text.utf8_le_iff`). So the rows come in the order of the
server, where equal numbers of any spelling tie, if and only if no two rows with zeros of both
signs would have to change places (`SortEntry.sort_byNumber`).
-/
namespace Rowscan

/-! ## Numbers and their places -/

namespace Double

/-- The sign and the value of a number, with the infinities beyond every finite double. -/
inductive Worth : Double → Bool → Int → Prop
  | infinite (negative : Bool) : Worth (.infinite negative) negative (signed negative beyond)
  | finite (negative : Bool) (units : Nat) (fits : Fits units) :
    Worth (.finite negative units fits) negative (signed negative units)

variable {x y : Double} {negative other : Bool} {a b : Int}

private theorem exists_worth (number : x ≠ .nan) : ∃ negative value, x.Worth negative value := by
  cases x with
  | nan => exact absurd rfl number
  | infinite negative => exact ⟨_, _, .infinite negative⟩
  | finite negative units fits => exact ⟨_, _, .finite negative units fits⟩

private theorem signed_inj {units other : Nat}
    (same : signed negative units = signed negative other) :
    units = other := by
  cases negative <;> simp only [signed] at same <;> omega

private theorem side_signed (negative : Bool) (units : Nat) :
    if negative then signed negative units ≤ 0 else 0 ≤ signed negative units := by
  cases negative <;> simp [signed]

namespace Worth

theorem value? (worth : x.Worth negative a) : x.value? = some a := by
  cases worth <;> rfl

theorem rank (worth : x.Worth negative a) : x.rank = if negative then a - 1 else a := by
  cases worth <;> cases negative <;>
    simp only [Double.rank, signed, if_true, Bool.false_eq_true, if_false]

theorem side (worth : x.Worth negative a) : if negative then a ≤ 0 else 0 ≤ a := by
  cases worth <;> exact side_signed _ _

/-- A number is known by its sign and its value. -/
theorem unique (left : x.Worth negative a) (right : y.Worth negative b) (same : a = b) :
    x = y := by
  cases left with
  | infinite =>
    cases right with
    | infinite => rfl
    | finite _ units fits => exact absurd (signed_inj same) fits.1.ne'
  | finite _ units fits =>
    cases right with
    | infinite => exact absurd (signed_inj same) fits.1.ne
    | finite =>
      cases signed_inj same
      rfl

theorem zero (negative : Bool) : (signedZero negative).Worth negative 0 := by
  have worth := Worth.finite negative 0 fits_zero
  cases negative <;> exact worth

theorem eq_signedZero_iff (worth : x.Worth negative a) :
    x = signedZero other ↔ negative = other ∧ a = 0 := by
  constructor
  · rintro rfl
    cases worth
    exact ⟨rfl, by cases negative <;> rfl⟩
  · rintro ⟨rfl, none⟩
    exact worth.unique (zero negative) none

end Worth

/-- No two numbers have the same place. -/
theorem eq_of_rank (left : x ≠ .nan) (right : y ≠ .nan) (same : x.rank = y.rank) : x = y := by
  obtain ⟨negative, a, worth⟩ := exists_worth left
  obtain ⟨other, b, more⟩ := exists_worth right
  have sides := And.intro worth.side more.side
  rw [worth.rank, more.rank] at same
  have both : negative = other ∧ a = b := by
    cases negative <;> cases other <;> simp at same sides ⊢ <;> omega
  obtain ⟨rfl, equal⟩ := both
  exact worth.unique more equal

theorem rank_lt_iff (left : x ≠ .nan) (right : y ≠ .nan) :
    x.rank < y.rank ↔ x.less y = true ∨ x = signedZero true ∧ y = signedZero false := by
  obtain ⟨negative, a, worth⟩ := exists_worth left
  obtain ⟨other, b, more⟩ := exists_worth right
  have sides := And.intro worth.side more.side
  rw [less_of_value? worth.value? more.value?, decide_eq_true_eq, worth.eq_signedZero_iff,
    more.eq_signedZero_iff, worth.rank, more.rank]
  cases negative <;> cases other <;> simp at sides ⊢ <;> omega

private theorem compare?_self (number : x ≠ .nan) : x.compare? x = some .eq := by
  obtain ⟨negative, a, worth⟩ := exists_worth number
  simp [compare?, worth.value?]

private theorem ofRatio_ne_nan (negative : Bool) (num den : Nat) :
    ofRatio negative num den ≠ .nan := by
  rw [ofRatio, ofUnits]
  split <;> exact Double.noConfusion

private theorem neg_ne_nan (number : x ≠ .nan) : -x ≠ .nan := by
  cases x with
  | nan => exact absurd rfl number
  | infinite _ => exact Double.noConfusion
  | finite _ _ _ => exact Double.noConfusion

end Double

theorem Numeral.toDouble_ne_nan (numeral : Numeral) : numeral.toDouble ≠ .nan := by
  have infinite (negative : Bool) : Double.infinite negative ≠ .nan := Double.noConfusion
  have zero (negative : Bool) : Double.signedZero negative ≠ .nan := Double.noConfusion
  unfold Numeral.toDouble
  dsimp only
  split_ifs
  · exact zero _
  · exact infinite _
  · exact zero _
  · apply Double.ofRatio_ne_nan
  · apply Double.ofRatio_ne_nan

/-- A text never reads as something that is not a number. -/
theorem ne_nan_of_toNumber? {text : String} {x : Double} (read : toNumber? text = some x) :
    x ≠ .nan := by
  simp only [toNumber?] at read
  split at read
  next numeral _ =>
    cases read
    exact numeral.toDouble_ne_nan
  next =>
    obtain ⟨n, -, rfl⟩ := Option.map_eq_some_iff.1 read
    have number : Double.ofInt n.toInt ≠ .nan := by
      unfold Double.ofInt
      apply Double.ofRatio_ne_nan
    generalize Double.ofInt n.toInt = x at number ⊢
    split_ifs
    · exact Double.neg_ne_nan number
    · exact number

/-! ## Entries in order -/

/-- A relation read in the given direction. -/
def Direction.turn {α : Type} (direction : Direction) (before : α → α → Prop) (a b : α) : Prop :=
  match direction with
  | .ascending => before a b
  | .descending => before b a

namespace SortEntry

variable {α : Type} {a b : SortEntry α} {entries : List (SortEntry α)}

/-- The number that an entry is sorted by: a missing value counts as zero. -/
def number (entry : SortEntry α) : Double := entry.score?.getD .zero

/-- The order of the server: by number, and by the bytes of the keys where the numbers are equal. -/
def ByNumber (a b : SortEntry α) : Prop :=
  a.number.less b.number = true ∨
    a.number.compare? b.number = some .eq ∧ Text.utf8 a.key ≤ Text.utf8 b.key

/-- Two entries hold zeros of both signs. -/
def SplitsZero (a b : SortEntry α) : Prop :=
  a.number = .signedZero true ∧ b.number = .signedZero false

/-- The order that entries are sorted in: zeros of both signs are not equal here. -/
def ByPlace (a b : SortEntry α) : Prop :=
  a.number.less b.number = true ∨ SplitsZero a b ∨
    a.number = b.number ∧ Text.utf8 a.key ≤ Text.utf8 b.key

instance : Std.TransCmp (compareNumeric (α := α)) :=
  inferInstanceAs (Std.TransCmp (compareLex (compareOn rank) (compareOn key)))

private theorem number_ne_nan (entry : SortEntry α) : entry.number ≠ .nan := by
  rw [number]
  cases scored : entry.score? with
  | none => exact Double.noConfusion
  | some x =>
    rw [score?] at scored
    split at scored
    · cases scored
      exact Double.noConfusion
    · exact ne_nan_of_toNumber? scored

/-- Comparing by number and key is comparing by place. -/
theorem compareNumeric_isLE_iff : (compareNumeric a b).isLE = true ↔ ByPlace a b := by
  have places : a.rank < b.rank ↔ a.number.less b.number = true ∨ SplitsZero a b :=
    Double.rank_lt_iff a.number_ne_nan b.number_ne_nan
  have place : a.rank = b.rank ↔ a.number = b.number :=
    ⟨Double.eq_of_rank a.number_ne_nan b.number_ne_nan, congrArg Double.rank⟩
  rw [compareNumeric, ByPlace, Text.utf8_le_iff, ← place, ← or_assoc, ← places,
    Ordering.isLE_then_iff_or, compare_lt_iff_lt, compare_eq_iff_eq]

/-- Of two entries with zeros of both signs the negative one comes first. -/
theorem SplitsZero.not_byPlace (split : SplitsZero a b) : ¬ ByPlace b a := by
  obtain ⟨left, right⟩ := split
  rintro (less | ⟨zero, -⟩ | ⟨same, -⟩)
  · rw [left, right] at less
    exact absurd less (by decide)
  · rw [right] at zero
    exact absurd zero (by decide)
  · rw [left, right] at same
    exact absurd same (by decide)

/-- Whichever of two zeros is the negative one, its key comes first. -/
def ZerosByKey (a b : SortEntry α) : Prop :=
  (SplitsZero a b → Text.utf8 a.key ≤ Text.utf8 b.key) ∧
    (SplitsZero b a → Text.utf8 b.key ≤ Text.utf8 a.key)

instance : Std.Symm (ZerosByKey (α := α)) := ⟨fun _ _ both => both.symm⟩

theorem ZerosByKey.refl (a : SortEntry α) : ZerosByKey a a :=
  ⟨fun _ => List.le_refl _, fun _ => List.le_refl _⟩

/-- The order of the server holds between entries in order, unless they hold zeros of both signs
and their keys go the other way. -/
theorem ByPlace.byNumber_iff (ordered : ByPlace a b) : ByNumber a b ↔ ZerosByKey a b := by
  constructor
  · intro byNumber
    refine ⟨fun split => ?_, fun split => absurd ordered split.not_byPlace⟩
    rcases byNumber with less | ⟨-, keys⟩
    · rw [split.1, split.2] at less
      exact absurd less (by decide)
    · exact keys
  · rintro ⟨keys, -⟩
    rcases ordered with less | split | ⟨same, atMost⟩
    · exact .inl less
    · refine .inr ⟨?_, keys split⟩
      rw [split.1, split.2]
      rfl
    · refine .inr ⟨?_, atMost⟩
      rw [same]
      exact Double.compare?_self b.number_ne_nan

theorem orient_isLE_iff (direction : Direction) (a b : SortEntry α) :
    (direction.orient (compareNumeric a b)).isLE = true ↔ direction.turn ByPlace a b := by
  cases direction with
  | ascending => exact compareNumeric_isLE_iff
  | descending =>
    have swapped : (compareNumeric a b).swap = compareNumeric b a :=
      Std.OrientedCmp.eq_swap.symm
    rw [Direction.orient, swapped]
    exact compareNumeric_isLE_iff

theorem areNumeric_iff :
    areNumeric entries = true ↔ ∀ entry ∈ entries, sortsByNumber entry.value = true := by
  rw [areNumeric, List.all_eq_true]
  refine forall₂_congr fun entry _ => ?_
  rw [sortsByNumber, score?]
  cases entry.value with
  | none => exact iff_of_true rfl rfl
  | some text => exact Iff.rfl

private theorem pairwise_sort (direction : Direction)
    (numeric : ∀ entry ∈ entries, sortsByNumber entry.value = true) :
    (sort direction entries).Pairwise (direction.turn ByPlace) := by
  have ordered := direction.transCmp_orient (compareNumeric (α := α))
  let atMost (a b : SortEntry α) : Bool := (direction.orient (compareNumeric a b)).isLE
  have transitive (a b c : SortEntry α) : atMost a b = true → atMost b c = true → atMost a c = true :=
    ordered.isLE_trans
  have total (a b : SortEntry α) : (atMost a b || atMost b a) = true := by
    rw [Bool.or_eq_true]
    exact isLE_total (fun a b => direction.orient (compareNumeric a b)) a b
  rw [sort, areNumeric_iff.2 numeric]
  refine (List.pairwise_mergeSort transitive total entries).imp fun {a b} sorted => ?_
  exact (orient_isLE_iff direction a b).1 sorted

/-- What zeros of both signs ask for does not depend on the direction. -/
theorem turn_byNumber_iff (direction : Direction) (ordered : direction.turn ByPlace a b) :
    direction.turn ByNumber a b ↔ ZerosByKey a b := by
  cases direction with
  | ascending => exact ByPlace.byNumber_iff ordered
  | descending => exact (ByPlace.byNumber_iff ordered).trans and_comm

/-- Entries that all sort by number are sorted by place. They stand in the order of the server, in
either direction, if and only if no zeros of both signs would have to change places. -/
theorem sort_byNumber (direction : Direction)
    (numeric : ∀ entry ∈ entries, sortsByNumber entry.value = true) :
    (sort direction entries).Perm entries ∧
    (sort direction entries).Pairwise (direction.turn ByPlace) ∧
    ((sort direction entries).Pairwise (direction.turn ByNumber) ↔
      ∀ a ∈ entries, ∀ b ∈ entries, SplitsZero a b → Text.utf8 a.key ≤ Text.utf8 b.key) := by
  have perm := perm_sort direction entries
  have sorted := pairwise_sort direction numeric
  refine ⟨perm, sorted, fun byNumber => ?_, fun keys => ?_⟩
  · have zeros : (sort direction entries).Pairwise ZerosByKey :=
      (sorted.and byNumber).imp fun both => (turn_byNumber_iff direction both.1).1 both.2
    intro a left b right
    exact (zeros.forall_of_forall (fun a _ => ZerosByKey.refl a) (perm.mem_iff.2 left)
      (perm.mem_iff.2 right)).1
  · refine sorted.imp_of_mem fun {a b} left right ordered => ?_
    have memberLeft : a ∈ entries := perm.mem_iff.1 left
    have memberRight : b ∈ entries := perm.mem_iff.1 right
    exact (turn_byNumber_iff direction ordered).2
      ⟨keys a memberLeft b memberRight, keys b memberRight a memberLeft⟩

/-- Two rows with a zero each come by their zeros, and not by their keys. -/
theorem sort_byNumber_zeros :
    let entries : List (SortEntry Nat) := [⟨some "0", "1", 0⟩, ⟨some "-0", "2", 1⟩]
    (∀ entry ∈ entries, sortsByNumber entry.value = true) ∧
      (sort .ascending entries).Pairwise ByPlace ∧ ¬ (sort .ascending entries).Pairwise ByNumber := by
  intro entries
  have numeric : ∀ entry ∈ entries, sortsByNumber entry.value = true := by decide +kernel
  have split : SplitsZero (⟨some "-0", "2", 1⟩ : SortEntry Nat) ⟨some "0", "1", 0⟩ :=
    ⟨by decide +kernel, by decide +kernel⟩
  obtain ⟨-, byPlace, byNumber⟩ := sort_byNumber .ascending numeric
  refine ⟨numeric, byPlace, fun inOrder => ?_⟩
  have keys := byNumber.1 inOrder _ (by simp [entries]) _ (by simp [entries]) split
  exact absurd keys (by decide +kernel)

end SortEntry
end Rowscan
