import Mathlib.Tactic.SplitIfs
import Rowscan.Condition.Holds
import Rowscan.Proofs.WireLines

/-!
What the comparisons of a condition say of two numbers and of two texts, in terms of `<` and `≤`
alone: numbers stand as their values do, and texts as their bytes do. A condition answers from an
ordering instead, and gives the same answers (`Condition.opHolds_numbers`,
`Condition.opHolds_texts`).
-/
namespace Rowscan

/-! ## What comparisons say -/

namespace CompareOp

/-- Whether the two sides of a comparison stand as its operator says. -/
def relates {α : Type} [LT α] [LE α] [DecidableLT α] [DecidableLE α] :
    CompareOp → α → α → Bool
  | .greater, left, right => right < left
  | .greaterOrEqual, left, right => right ≤ left
  | .less, left, right => left < right
  | .lessOrEqual, left, right => left ≤ right

/-- A comparison of numbers: of their values, so both zeros are the same. Not a number has no
value, and no comparison holds of it. -/
def relatesNumbers (op : CompareOp) (left right : Double) : Bool :=
  match left.value?, right.value? with
  | some a, some b => op.relates a b
  | _, _ => false

/-- A comparison of texts: of their bytes, from the first one on. -/
def relatesTexts (op : CompareOp) (left right : String) : Bool :=
  op.relates (Text.utf8 left) (Text.utf8 right)

end CompareOp

/-! ## Byte order -/

namespace Text

open String (utf8EncodeChar utf8EncodeChar_ne_nil)

/-- A smaller character has smaller bytes, whatever follows. -/
theorem utf8EncodeChar_lt {c d : Char} (before : c < d) (rest more : List UInt8) :
    utf8EncodeChar c ++ rest < utf8EncodeChar d ++ more := by
  have below : c.val.toNat < d.val.toNat := before
  have last : d.val.toNat < 1114112 := by
    rcases d.valid with low | ⟨-, high⟩ <;> omega
  -- Each byte holds one digit to the base 64, so quotients are taken digit by digit.
  have second (n : Nat) : n / 4096 = n / 64 / 64 := by omega
  have third (n : Nat) : n / 262144 = n / 64 / 64 / 64 := by omega
  simp only [utf8EncodeChar]
  split_ifs <;> simp only [List.cons_append, List.nil_append, List.cons_lt_cons_iff,
    UInt8.lt_iff_toNat_lt, ← UInt8.toNat_inj, UInt8.toNat_ofNat', second, third] <;> omega

private theorem flatMap_utf8EncodeChar_lt {front back : List Char} (before : front < back) :
    front.flatMap utf8EncodeChar < back.flatMap utf8EncodeChar := by
  induction before with
  | @nil d back =>
    obtain ⟨byte, bytes, encoded⟩ := List.exists_cons_of_ne_nil (utf8EncodeChar_ne_nil (c := d))
    rw [List.flatMap_nil, List.flatMap_cons, encoded, List.cons_append]
    exact List.nil_lt_cons _ _
  | rel before => exact utf8EncodeChar_lt before _ _
  | cons _ less => exact List.append_left_lt less

private theorem utf8_lt {text other : String} (before : text < other) : utf8 text < utf8 other := by
  rw [utf8_eq_flatMap, utf8_eq_flatMap]
  exact flatMap_utf8EncodeChar_lt (String.lt_iff.1 before)

/-- Texts compare as their bytes do. -/
theorem utf8_le_iff {text other : String} :
    utf8 text ≤ utf8 other ↔ (compare text other).isLE = true := by
  rw [← List.not_lt]
  cases compared : compare text other with
  | lt =>
    have before : text < other := compareOfLessAndEq_eq_lt.1 compared
    exact iff_of_true (List.lt_asymm (utf8_lt before)) rfl
  | eq =>
    have same : text = other := Std.LawfulEqCmp.eq_of_compare compared
    subst same
    exact iff_of_true (List.lt_irrefl _) rfl
  | gt =>
    have swapped : compare other text = .lt := Std.OrientedCmp.lt_of_gt compared
    have after : other < text := compareOfLessAndEq_eq_lt.1 swapped
    exact iff_of_false (not_not_intro (utf8_lt after)) Bool.false_ne_true

end Text

/-! ## What conditions answer -/

namespace Condition

/-- An ordering answers as the order of the items does that it compares. -/
private theorem opHolds_of_order {α : Type} [LT α] [LE α] [DecidableLT α] [DecidableLE α]
    {a b : α} {ordering : Ordering} (atMost : a ≤ b ↔ ordering.isLE = true)
    (atLeast : b ≤ a ↔ ordering.isGE = true) (below : a < b ↔ ¬ b ≤ a) (above : b < a ↔ ¬ a ≤ b)
    (op : CompareOp) : opHolds op (some ordering) = op.relates a b := by
  rw [Bool.eq_iff_iff]
  cases op with
  | greater =>
    rw [CompareOp.relates, decide_eq_true_eq, above, atMost]
    cases ordering <;> decide
  | greaterOrEqual => rw [CompareOp.relates, decide_eq_true_eq, atLeast, opHolds]
  | less =>
    rw [CompareOp.relates, decide_eq_true_eq, below, atLeast]
    cases ordering <;> decide
  | lessOrEqual => rw [CompareOp.relates, decide_eq_true_eq, atMost, opHolds]

/-- Of two numbers a condition says what their values do. -/
theorem opHolds_numbers (op : CompareOp) (left right : Double) :
    opHolds op (left.compare? right) = op.relatesNumbers left right := by
  unfold Double.compare? CompareOp.relatesNumbers
  cases left.value? with
  | none => cases op <;> rfl
  | some a =>
    cases right.value? with
    | none => cases op <;> rfl
    | some b =>
      exact opHolds_of_order Std.isLE_compare.symm Std.isGE_compare.symm Int.not_le.symm
        Int.not_le.symm op

/-- Of two texts a condition says what their bytes do. -/
theorem opHolds_texts (op : CompareOp) (left right : String) :
    opHolds op (some (Ord.compare left right)) = op.relatesTexts left right := by
  have swapped : (Ord.compare right left).isLE = (Ord.compare left right).isGE := by
    rw [Std.OrientedOrd.eq_swap, Ordering.isLE_swap]
  have atLeast : Text.utf8 right ≤ Text.utf8 left ↔ (Ord.compare left right).isGE = true :=
    swapped ▸ Text.utf8_le_iff
  exact opHolds_of_order Text.utf8_le_iff atLeast List.not_le.symm List.not_le.symm op

end Condition
end Rowscan
