import Mathlib.Data.List.Nodup
import Rowscan.Proofs.FilterMeaning
import Rowscan.Proofs.KeyTexts
import Rowscan.TableQuery

/-!
Filters that name rows by a single key field. The lookup takes literals out of such a filter
(`Filter.keyLiterals`) and encodes them, each once; the scan asks whether the field holds the
text of one of them. Both read the same literals (`namesBy_of_candidates`).
-/
namespace Rowscan

/-! ## Distinct texts -/

namespace Lookup

private theorem mem_seen {text : String} {seen texts : List String} :
    text ∈ texts.foldl (fun seen text => if seen.contains text then seen else text :: seen) seen ↔
      text ∈ seen ∨ text ∈ texts := by
  induction texts generalizing seen with
  | nil => simp
  | cons first rest ih =>
    rw [List.foldl_cons, ih, List.mem_cons]
    split
    next known =>
      have member : first ∈ seen := by simpa using known
      constructor
      · exact Or.imp_right .inr
      · rintro (before | rfl | after)
        · exact .inl before
        · exact .inl member
        · exact .inr after
    next => rw [List.mem_cons, or_assoc, or_left_comm]

private theorem nodup_seen {seen texts : List String} (nodup : seen.Nodup) :
    (texts.foldl (fun seen text => if seen.contains text then seen else text :: seen)
      seen).Nodup := by
  induction texts generalizing seen with
  | nil => exact nodup
  | cons first rest ih =>
    rw [List.foldl_cons]
    split
    next => exact ih nodup
    next unknown => exact ih (List.nodup_cons.2 ⟨by simpa using unknown, nodup⟩)

theorem mem_distinct {text : String} {texts : List String} :
    text ∈ distinct texts ↔ text ∈ texts := by
  rw [distinct, List.mem_reverse, mem_seen]
  simp

theorem nodup_distinct (texts : List String) : (distinct texts).Nodup :=
  List.nodup_reverse.2 (nodup_seen .nil)

end Lookup

/-! ## Key literals -/

/-- The literals that a filter gives to a single column, if it names rows by that. -/
def Filter.keyLiterals : Filter → List Literal
  | .hash [(_, .value literal)] => [literal]
  | .hash [(column, .list items)] => items.map (SetItem.single column)
  | .membership [column] items _ => items.map (SetItem.single column)
  | _ => []

theorem Table.eq_of_isPrimaryKey {table : Table} {field column : String}
    (single : table.primaryKey = [field]) (eligible : table.isPrimaryKey [column] = true) :
    column = field := by
  have both : column = field ∧ field = column := by simpa [isPrimaryKey, single] using eligible
  exact both.1

theorem Row.equals_of_isKeyed (row : Row) (column : String) {literal : Literal}
    (keyed : literal.isKeyed = true) :
    row.equals column literal = (row.find? column == some literal.text) := by
  cases literal with
  | null => cases keyed
  | bool value => rfl
  | int value => rfl
  | float value => cases keyed
  | string text => rfl
  | raw expression => cases keyed

theorem Literal.isNull_of_isKeyed {literal : Literal} (keyed : literal.isKeyed = true) :
    literal.isNull = false := by
  cases literal <;> first | rfl | cases keyed

theorem Literal.isRaw_of_isKeyed {literal : Literal} (keyed : literal.isKeyed = true) :
    literal.isRaw = false := by
  cases literal <;> first | rfl | cases keyed

/-- What the lookup and the scan read from a filter on one field: the same literals, as keys of
the one and as texts of the field for the other. -/
structure Filter.NamesBy (filter : Filter) (field : String) (keys : List KeyValue) : Prop where
  keys : keys = filter.keyLiterals.map .scalar
  plain : filter.isPlain = true
  meaning : ∀ row : Row, filter.meaning row =
    .ok (filter.keyLiterals.any fun literal => row.find? field == some literal.text)

namespace Filter

variable {field : String}

theorem scalarKeys_given {literals : List Literal}
    (given : ∀ literal ∈ literals, literal.isNull = false) :
    Lookup.scalarKeys literals = literals.map .scalar := by
  have kept : literals.filter (!·.isNull) = literals := by
    rw [List.filter_eq_self]
    intro literal member
    rw [given literal member]
    rfl
  rw [Lookup.scalarKeys, kept]

private theorem isAmong_keyed (row : Row) {items : List SetItem}
    (keyed : ∀ literal ∈ items.map (SetItem.single field), literal.isKeyed = true) :
    row.isAmong [field] items = (items.map (SetItem.single field)).any fun literal =>
      row.find? field == some literal.text := by
  have same : ∀ item ∈ items, row.matchesItem [field] item =
      (row.find? field == some (item.single field).text) := fun item member =>
    row.equals_of_isKeyed field (keyed _ (List.mem_map_of_mem member))
  have one : row.isAmong [field] items = items.any (row.matchesItem [field]) := Bool.true_and _
  rw [one, List.any_map, Bool.eq_iff_iff, List.any_eq_true, List.any_eq_true]
  exact exists_congr fun item => and_congr_right fun member => by rw [same item member]; rfl

private theorem isPlain_keyed {items : List SetItem}
    (keyed : ∀ literal ∈ items.map (SetItem.single field), literal.isKeyed = true) :
    items.all (SetItem.isPlain [field]) = true := by
  refine List.all_eq_true.2 fun item member => ?_
  rw [SetItem.isPlain, Literal.isRaw_of_isKeyed (keyed _ (List.mem_map_of_mem member))]
  rfl

private theorem namesBy_value {literal : Literal} (keyed : literal.isKeyed = true) :
    NamesBy (.hash [(field, .value literal)]) field (Lookup.scalarKeys [literal]) where
  keys := scalarKeys_given (List.forall_mem_singleton.2 (Literal.isNull_of_isKeyed keyed))
  plain := by simp [isPlain, HashValue.isPlain, Literal.isRaw_of_isKeyed keyed]
  meaning row := by
    rw [Filter.meaning, keyLiterals, List.all_cons, List.all_nil, List.any_cons, List.any_nil,
      Bool.and_true, Bool.or_false, ← row.equals_of_isKeyed field keyed]
    rfl

private theorem namesBy_list {items : List SetItem}
    (keyed : ∀ literal ∈ items.map (SetItem.single field), literal.isKeyed = true) :
    NamesBy (.hash [(field, .list items)]) field
      (Lookup.scalarKeys (items.map (SetItem.single field))) where
  keys := scalarKeys_given fun literal member => Literal.isNull_of_isKeyed (keyed literal member)
  plain := by
    rw [isPlain, List.all_cons, List.all_nil, Bool.and_true]
    exact isPlain_keyed keyed
  meaning row := by
    rw [Filter.meaning, keyLiterals, ← isAmong_keyed row keyed, List.all_cons, List.all_nil,
      Bool.and_true]
    rfl

private theorem namesBy_membership {items : List SetItem}
    (keyed : ∀ literal ∈ items.map (SetItem.single field), literal.isKeyed = true) :
    NamesBy (.membership [field] items false) field
      (Lookup.scalarKeys (items.map (SetItem.single field))) where
  keys := scalarKeys_given fun literal member => Literal.isNull_of_isKeyed (keyed literal member)
  plain := isPlain_keyed keyed
  meaning row := by
    rw [Filter.meaning, keyLiterals, ← isAmong_keyed row keyed, Bool.bne_false]

private theorem candidates_some {table : Table} {filter : Filter} {keys : List KeyValue}
    (named : Lookup.candidates filter table = .ok (some keys)) :
    Lookup.isEligible filter table = true ∧ Lookup.keysOf filter table = .ok (some keys) := by
  unfold Lookup.candidates at named
  split at named
  · cases named
  · split at named
    next eligible =>
      refine ⟨eligible, ?_⟩
      cases found : Lookup.keysOf filter table with
      | error failure =>
        rw [found] at named
        cases named
      | ok answer =>
        rw [found] at named
        cases answer with
        | none => cases named
        | some given =>
          have kept : (if given.any Lookup.hasRaw then none else some given) = some keys :=
            Except.ok.inj named
          split at kept
          · cases kept
          · rw [kept]
    · cases named

section Single

variable {table : Table} (single : table.primaryKey = [field]) {keys : List KeyValue}
include single

private theorem namesBy_of_hash {entries : List (String × HashValue)}
    (eligible : Lookup.isEligible (.hash entries) table = true)
    (found : Lookup.keysOf (.hash entries) table = .ok (some keys))
    (keyed : ∀ literal ∈ (Filter.hash entries).keyLiterals, literal.isKeyed = true) :
    NamesBy (.hash entries) field keys := by
  have oneField : table.hasCompositeKey = false := by
    rw [Table.hasCompositeKey, single]
    rfl
  rcases entries with _ | ⟨⟨column, value⟩, _ | ⟨second, more⟩⟩
  · cases eligible
  · have same : column = field := table.eq_of_isPrimaryKey single eligible
    subst same
    cases value with
    | value literal =>
      rw [Lookup.keysOf, oneField, if_neg Bool.false_ne_true] at found
      have keys : Lookup.scalarKeys [literal] = keys := Option.some.inj (Except.ok.inj found)
      exact keys ▸ namesBy_value (keyed literal List.mem_cons_self)
    | list items =>
      rw [Lookup.keysOf, oneField, if_neg Bool.false_ne_true] at found
      have keys : Lookup.scalarKeys (items.map (SetItem.single column)) = keys :=
        Option.some.inj (Except.ok.inj found)
      exact keys ▸ namesBy_list keyed
  · have none : Lookup.keysOf (.hash ((column, value) :: second :: more)) table = .ok none := by
      simp [Lookup.keysOf, oneField]
    cases none.symm.trans found

private theorem namesBy_of_membership {columns : List String} {items : List SetItem}
    (eligible : Lookup.isEligible (.membership columns items false) table = true)
    (found : Lookup.keysOf (.membership columns items false) table = .ok (some keys))
    (keyed : ∀ literal ∈ (Filter.membership columns items false).keyLiterals,
      literal.isKeyed = true) :
    NamesBy (.membership columns items false) field keys := by
  rcases columns with _ | ⟨column, _ | ⟨second, more⟩⟩
  · cases found
  · have same : column = field := table.eq_of_isPrimaryKey single eligible
    subst same
    have keys : Lookup.scalarKeys (items.map (SetItem.single column)) = keys :=
      Option.some.inj (Except.ok.inj found)
    exact keys ▸ namesBy_membership keyed
  · cases found

/-- A filter that the lookup takes names rows by the key field alone. -/
theorem namesBy_of_candidates {filter : Filter}
    (named : Lookup.candidates filter table = .ok (some keys))
    (keyed : ∀ literal ∈ filter.keyLiterals, literal.isKeyed = true) :
    filter.NamesBy field keys := by
  obtain ⟨eligible, found⟩ := candidates_some named
  cases filter with
  | hash entries => exact namesBy_of_hash single eligible found keyed
  | membership columns items negated =>
    cases negated with
    | true => cases eligible
    | false => exact namesBy_of_membership single eligible found keyed
  | negation filter => cases eligible
  | conjunction filters => cases eligible
  | disjunction filters => cases eligible
  | between column low high negated => cases eligible
  | compare op column value => cases eligible
  | like op column pattern => cases eligible
  | raw condition => cases eligible

end Single

end Filter
end Rowscan
