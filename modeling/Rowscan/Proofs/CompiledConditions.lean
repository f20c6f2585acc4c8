import Rowscan.Condition.Compile
import Rowscan.Proofs.AliasRegistry
import Rowscan.Proofs.LuaConditions

/-!
What filters are compiled to. Aliases are names of the script language, so that a filter of data
gives a sound condition or none at all (`Filter.compile_yields`), and the text of the condition is
the Lua expression that it is meant to be, unless a numeral has a sign `+`
(`Filter.parse?_compile`).
-/
namespace Rowscan

open Lua

/-! ## Aliases -/

namespace Aliases

/-- An alias is a name: it begins with a letter, and it has a digit, as no reserved word does. -/
theorem isName_nameFor (column : String) (index : Nat) : IsName (nameFor column index) := by
  have spelled : (nameFor column index).toList =
      'c' :: (column.toList.filter isLetter ++ Nat.toDigits 10 index) := by
    rw [nameFor, String.toList_ofList, List.cons_append]
  refine ⟨⟨'c', _, spelled, by decide, ?_⟩, ?_⟩
  · intro c member
    rcases List.mem_append.1 member with letter | digit
    · have alpha : c.isAlpha = true := (List.mem_filter.1 letter).2
      exact isNameChar_of_isNameStart (by rw [isNameStart, alpha, Bool.true_or])
    · exact isNameChar_of_isDigit (Numeral.isDigit_toDigits index c digit)
  · intro reserved
    have letters := isNameStart_of_mem_keywords reserved
    obtain ⟨digit, rest, digits⟩ :=
      List.exists_cons_of_ne_nil (Nat.toDigits_ne_nil (b := 10) (n := index))
    have member : digit ∈ Nat.toDigits 10 index := by
      rw [digits]
      exact List.mem_cons_self
    have letter : isNameStart digit = true := by
      apply letters
      rw [spelled]
      exact List.mem_cons_of_mem _ (List.mem_append_right _ member)
    have front := isNumeralFront_of_isDigit (Numeral.isDigit_toDigits index digit member)
    rw [isNameStart_of_isNumeralFront front] at letter
    cases letter

theorem Numbered.isName {aliases : Aliases} (numbered : aliases.Numbered)
    {entry : String × String} (member : entry ∈ aliases.entries) : IsName entry.2 := by
  obtain ⟨index, inside, rfl⟩ := List.mem_iff_getElem.1 member
  rw [numbered.label_eq inside]
  exact isName_nameFor _ _

theorem Numbered.isName_register {aliases : Aliases} (numbered : aliases.Numbered)
    (column : String) : IsName (aliases.register column).1 :=
  (numbered.register column).isName (mem_register aliases column)

end Aliases

/-! ## What filters are compiled to -/

namespace Literal

private theorem isData_boolAsInt {value : Literal} (data : value.isData = true) :
    value.boolAsInt.isData = true := by
  cases value with
  | bool value => rfl
  | _ => exact data

private theorem hasPlus_boolAsInt (value : Literal) : value.boolAsInt.hasPlus = value.hasPlus := by
  cases value <;> rfl

end Literal

namespace SetItem

private theorem isData_find {fields : FieldMap Literal} (data : (tuple fields).isData = true)
    (column : String) : ((fields.find? column).getD .null).isData = true := by
  cases found : fields.find? column with
  | none => rfl
  | some literal => exact List.all_eq_true.1 data _ (FieldMap.mem_entries.2 found)

private theorem isData_field {item : SetItem} (data : item.isData = true) (column : String) :
    (item.field column).isData = true := by
  cases item with
  | value literal => rfl
  | tuple fields => exact isData_find data column

private theorem isData_single {item : SetItem} (data : item.isData = true) (column : String) :
    (item.single column).isData = true := by
  cases item with
  | value literal => exact data
  | tuple fields => exact isData_find data column

end SetItem

namespace Condition

/-- A part of a filter gives a sound condition, with a sign `+` or without one. -/
def Yields (plus : Bool) (part : Aliases → Condition × Aliases) : Prop :=
  ∀ aliases, aliases.Numbered → (part aliases).1.IsSound ∧ (part aliases).1.hasPlus = plus ∧
    (part aliases).2.Numbered

private theorem ofEquality_yields {value : Literal} (column : String) (data : value.isData = true) :
    Yields false (ofEquality column value) := by
  intro aliases numbered
  have named := numbered.isName_register column
  have after := numbered.register column
  cases value with
  | null => exact ⟨.absent column, rfl, numbered⟩
  | bool value => exact ⟨.equal named rfl, rfl, after⟩
  | int value => exact ⟨.equal named rfl, rfl, after⟩
  | float value => exact ⟨.equal named data, rfl, after⟩
  | string text => exact ⟨.equal named rfl, rfl, after⟩
  | raw expression => cases data

private theorem compileEach_yields {α : Type} {part : α → Aliases → Condition × Aliases}
    {items : List α} (each : ∀ item ∈ items, Yields false (part item)) {aliases : Aliases}
    (numbered : aliases.Numbered) :
    (∀ condition ∈ (compileEach part items aliases).1, condition.IsSound) ∧
      anyHasPlus (compileEach part items aliases).1 = false ∧
      (compileEach part items aliases).2.Numbered := by
  induction items generalizing aliases with
  | nil => exact ⟨fun condition member => absurd member List.not_mem_nil, rfl, numbered⟩
  | cons item rest ih =>
    obtain ⟨sound, plus, middle⟩ := each item List.mem_cons_self aliases numbered
    obtain ⟨others, none, after⟩ :=
      ih (fun item member => each item (List.mem_cons_of_mem _ member)) middle
    refine ⟨?_, ?_, after⟩
    · intro condition member
      rcases List.mem_cons.1 member with rfl | later
      · exact sound
      · exact others condition later
    · exact Bool.or_eq_false_iff.2 ⟨plus, none⟩

private theorem ofTuple_yields {columns : List String} {item : SetItem} (operands : columns ≠ [])
    (data : item.isData = true) : Yields false (ofTuple columns item) := by
  intro aliases numbered
  obtain ⟨sound, plus, after⟩ := compileEach_yields
    (fun column _ => ofEquality_yields column (item.isData_field data column)) numbered
  exact ⟨.conjunction (compileEach_ne_nil _ operands aliases) sound, plus, after⟩

/-- One of several parts, or none of them. -/
theorem alternatives_yield {part : SetItem → Aliases → Condition × Aliases} {items : List SetItem}
    (operands : items ≠ []) (negated : Bool) (each : ∀ item ∈ items, Yields false (part item)) :
    Yields false fun aliases =>
      (if negated then .negation (.disjunction (compileEach part items aliases).1)
        else .disjunction (compileEach part items aliases).1,
        (compileEach part items aliases).2) := by
  intro aliases numbered
  obtain ⟨sound, plus, after⟩ := compileEach_yields each numbered
  have any := IsSound.disjunction (compileEach_ne_nil part operands aliases) sound
  cases negated with
  | true => exact ⟨.negation any, plus, after⟩
  | false => exact ⟨any, plus, after⟩

private theorem ofMembership_yields {columns : List String} {items : List SetItem} (negated : Bool)
    (data : ∀ item ∈ items, item.isData = true) :
    Yields false (ofMembership columns items negated) := by
  intro aliases numbered
  unfold ofMembership
  split
  next => exact ⟨.constant negated, rfl, numbered⟩
  next some =>
    rw [Bool.or_eq_true, not_or, List.isEmpty_iff, List.isEmpty_iff] at some
    refine alternatives_yield some.1 negated (fun item member => ?_) aliases numbered
    split
    next column => exact ofEquality_yields column (item.isData_single (data item member) column)
    next => exact ofTuple_yields some.2 (data item member)

private theorem ofHashEntry_yields {entry : String × HashValue} (data : entry.2.isData = true) :
    Yields false (ofHashEntry entry) := by
  obtain ⟨column, value⟩ := entry
  cases value with
  | list items => exact ofMembership_yields false (List.all_eq_true.1 data)
  | value literal => exact ofEquality_yields column data

private theorem ofHash_yields {entries : List (String × HashValue)}
    (data : ∀ entry ∈ entries, entry.2.isData = true) {aliases : Aliases}
    (numbered : aliases.Numbered) :
    ((ofHash entries aliases).1.isEmpty = true ∨ (ofHash entries aliases).1.IsSound) ∧
      (ofHash entries aliases).1.hasPlus = false ∧ (ofHash entries aliases).2.Numbered := by
  obtain ⟨sound, plus, after⟩ :=
    compileEach_yields (fun entry member => ofHashEntry_yields (data entry member)) numbered
  unfold ofHash
  dsimp only
  refine ⟨?_, ?_, after⟩
  · split
    next => exact .inl rfl
    next only same =>
      refine .inr (sound only ?_)
      rw [same]
      exact List.mem_cons_self
    next none _ => exact .inr (.conjunction none sound)
  · split
    next => rfl
    next only same =>
      rw [same] at plus
      exact (Bool.or_eq_false_iff.1 plus).1
    next => exact plus

private theorem ofComparison_sound {label : String} {value : Literal} (named : IsName label)
    (op : CompareOp) (data : value.isData = true) : (ofComparison label op value).IsSound :=
  .compare named op (Literal.isData_boolAsInt data)

private theorem ofComparison_hasPlus (label : String) (op : CompareOp) (value : Literal) :
    (ofComparison label op value).hasPlus = value.hasPlus := value.hasPlus_boolAsInt

private theorem ofRange_yields {low high : Literal} (column : String) (negated : Bool)
    (lowData : low.isData = true) (highData : high.isData = true) :
    Yields (low.hasPlus || high.hasPlus) (ofRange column low high negated) := by
  intro aliases numbered
  have named := numbered.isName_register column
  have range : IsSound (.conjunction
      [ofComparison (aliases.register column).1 .greaterOrEqual low,
        ofComparison (aliases.register column).1 .lessOrEqual high]) := by
    refine .conjunction (List.cons_ne_nil _ _) fun condition member => ?_
    rcases List.mem_pair.1 member with rfl | rfl
    · exact ofComparison_sound named .greaterOrEqual lowData
    · exact ofComparison_sound named .lessOrEqual highData
  have plus : anyHasPlus [ofComparison (aliases.register column).1 .greaterOrEqual low,
      ofComparison (aliases.register column).1 .lessOrEqual high] =
      (low.hasPlus || high.hasPlus) := by
    simp [anyHasPlus, ofComparison_hasPlus]
  cases negated with
  | true => exact ⟨.negation range, plus, numbered.register column⟩
  | false => exact ⟨range, plus, numbered.register column⟩

private theorem hasPlus_of_isEmpty {condition : Condition} (none : condition.isEmpty = true) :
    condition.hasPlus = false := by
  cases condition with
  | empty => rfl
  | _ => cases none

private theorem anyHasPlus_filter (conditions : List Condition) :
    anyHasPlus (conditions.filter (!·.isEmpty)) = anyHasPlus conditions := by
  induction conditions with
  | nil => rfl
  | cons condition rest ih =>
    cases none : condition.isEmpty with
    | true =>
      rw [List.filter_cons_of_neg (by simp [none]), ih, anyHasPlus_cons, hasPlus_of_isEmpty none,
        Bool.false_or]
    | false =>
      rw [List.filter_cons_of_pos (by simp [none]), anyHasPlus_cons, anyHasPlus_cons, ih]

/-- A junction of what filters are compiled to, with the empty ones dropped. -/
theorem junction_yields {join : List Condition → Condition} {conditions : List Condition}
    (sound : ∀ {operands : List Condition}, operands ≠ [] →
      (∀ condition ∈ operands, condition.IsSound) → (join operands).IsSound)
    (plus : ∀ operands, (join operands).hasPlus = anyHasPlus operands)
    (each : ∀ condition ∈ conditions, condition.isEmpty = true ∨ condition.IsSound) :
    ((junction join conditions).isEmpty = true ∨ (junction join conditions).IsSound) ∧
      (junction join conditions).hasPlus = anyHasPlus conditions := by
  have kept : ∀ condition ∈ conditions.filter (!·.isEmpty), condition.IsSound := by
    intro condition member
    obtain ⟨among, some⟩ := List.mem_filter.1 member
    rcases each condition among with none | sound
    · simp [none] at some
    · exact sound
  rw [← anyHasPlus_filter conditions, junction]
  split
  next none =>
    rw [none]
    exact ⟨.inl rfl, rfl⟩
  next some => exact ⟨.inr (sound some kept), plus _⟩

private theorem opposite_yields {condition : Condition}
    (sound : condition.isEmpty = true ∨ condition.IsSound) :
    (opposite condition).IsSound ∧ (opposite condition).hasPlus = condition.hasPlus := by
  unfold opposite
  split
  next none => exact ⟨.constant false, (hasPlus_of_isEmpty none).symm⟩
  next some => exact ⟨.negation (sound.resolve_left some), rfl⟩

end Condition

namespace Filter

mutual

/-- Whether a filter has no patterns and no raw parts, and all its values are data. -/
def isData : Filter → Bool
  | .hash entries => entries.all (·.2.isData)
  | .negation filter => isData filter
  | .conjunction filters => areData filters
  | .disjunction filters => areData filters
  | .between _ low high _ => low.isData && high.isData
  | .membership _ items _ => items.all SetItem.isData
  | .compare _ _ value => value.isData
  | .like _ _ _ => false
  | .raw _ => false
termination_by structural filter => filter

/-- Whether all filters are so. -/
def areData : List Filter → Bool
  | [] => true
  | filter :: rest => isData filter && areData rest
termination_by structural filters => filters

end

mutual

/-- Whether a filter compares with a numeral with the sign `+`. -/
def hasPlus : Filter → Bool
  | .negation filter => hasPlus filter
  | .conjunction filters => anyHasPlus filters
  | .disjunction filters => anyHasPlus filters
  | .between _ low high _ => low.hasPlus || high.hasPlus
  | .compare _ _ value => value.hasPlus
  | _ => false
termination_by structural filter => filter

/-- Whether one of several filters does. -/
def anyHasPlus : List Filter → Bool
  | [] => false
  | filter :: rest => hasPlus filter || anyHasPlus rest
termination_by structural filters => filters

end

mutual

/-- A filter of data is compiled to no condition or to a sound one. -/
theorem compile_yields : (filter : Filter) → filter.isData = true → (aliases : Aliases) →
    aliases.Numbered → ∃ condition after, filter.compile aliases = .ok (condition, after) ∧
      (condition.isEmpty = true ∨ condition.IsSound) ∧ condition.hasPlus = filter.hasPlus ∧
      after.Numbered
  | .hash entries, data, aliases, numbered =>
    ⟨_, _, rfl, Condition.ofHash_yields (List.all_eq_true.1 data) numbered⟩
  | .negation filter, data, aliases, numbered => by
    obtain ⟨condition, after, compiled, sound, plus, later⟩ :=
      compile_yields filter data aliases numbered
    obtain ⟨opposite, same⟩ := Condition.opposite_yields sound
    exact ⟨_, after, by rw [compile_negation, compiled], .inr opposite, same.trans plus, later⟩
  | .conjunction filters, data, aliases, numbered => by
    obtain ⟨conditions, after, compiled, sound, plus, later⟩ :=
      compileAll_yields filters data aliases numbered
    obtain ⟨joined, same⟩ := Condition.junction_yields .conjunction (fun _ => rfl) sound
    exact ⟨_, after, by rw [compile_conjunction, compiled], joined, same.trans plus, later⟩
  | .disjunction filters, data, aliases, numbered => by
    obtain ⟨conditions, after, compiled, sound, plus, later⟩ :=
      compileAll_yields filters data aliases numbered
    obtain ⟨joined, same⟩ := Condition.junction_yields .disjunction (fun _ => rfl) sound
    exact ⟨_, after, by rw [compile_disjunction, compiled], joined, same.trans plus, later⟩
  | .between column low high negated, data, aliases, numbered => by
    obtain ⟨lowData, highData⟩ := Bool.and_eq_true_iff.1 data
    obtain ⟨sound, plus, later⟩ :=
      Condition.ofRange_yields column negated lowData highData aliases numbered
    exact ⟨_, _, rfl, .inr sound, plus, later⟩
  | .membership columns items negated, data, aliases, numbered => by
    obtain ⟨sound, plus, later⟩ :=
      Condition.ofMembership_yields negated (List.all_eq_true.1 data) aliases numbered
    exact ⟨_, _, rfl, .inr sound, plus, later⟩
  | .compare op column value, data, aliases, numbered =>
    ⟨_, _, rfl, .inr (Condition.ofComparison_sound (numbered.isName_register column) op data),
      Condition.ofComparison_hasPlus _ op value, numbered.register column⟩
  | .like _ _ _, data, _, _ => by cases data
  | .raw _, data, _, _ => by cases data
termination_by structural filter => filter

private theorem compileAll_yields : (filters : List Filter) → areData filters = true →
    (aliases : Aliases) → aliases.Numbered →
    ∃ conditions after, compileAll filters aliases = .ok (conditions, after) ∧
      (∀ condition ∈ conditions, condition.isEmpty = true ∨ condition.IsSound) ∧
      Condition.anyHasPlus conditions = anyHasPlus filters ∧ after.Numbered
  | [], _, aliases, numbered =>
    ⟨[], aliases, rfl, fun condition member => absurd member List.not_mem_nil, rfl, numbered⟩
  | filter :: rest, data, aliases, numbered => by
    obtain ⟨firstData, restData⟩ := Bool.and_eq_true_iff.1 data
    obtain ⟨condition, middle, compiled, sound, plus, between⟩ :=
      compile_yields filter firstData aliases numbered
    obtain ⟨conditions, after, others, each, pluses, later⟩ :=
      compileAll_yields rest restData middle between
    refine ⟨condition :: conditions, after, ?_, ?_, ?_, later⟩
    · rw [compileAll_cons, compiled]
      dsimp only
      rw [others]
    · intro other member
      rcases List.mem_cons.1 member with rfl | further
      · exact sound
      · exact each other further
    · rw [Condition.anyHasPlus_cons, anyHasPlus, plus, pluses]
termination_by structural filters => filters

end

/-- The condition of a filter of data is a Lua expression with the tree of the condition, and with
no other, whatever the names of its columns and its values are, unless it compares with a numeral
with the sign `+`; then its text is no expression, in whatever room it is parsed. -/
theorem parse?_compile (filter : Filter) (aliases : Aliases) (data : filter.isData = true)
    (reached : aliases.Reached) :
    ∃ condition after, filter.compile aliases = .ok (condition, after) ∧
      (condition.isEmpty = false →
        parse? condition.render =
          (if filter.hasPlus then none else some condition.expression) ∧
        ∀ expression, Reads condition.render expression ↔
          filter.hasPlus = false ∧ expression = condition.expression) := by
  obtain ⟨condition, after, compiled, sound, plus, -⟩ :=
    compile_yields filter data aliases reached.numbered
  refine ⟨condition, after, compiled, fun some => ?_⟩
  rcases sound with none | sound
  · rw [none] at some
    cases some
  · have parsed := sound.parse?_render
    rw [plus] at parsed
    refine ⟨parsed, fun expression => ?_⟩
    rw [← parse?_eq_some_iff, parsed]
    cases filter.hasPlus <;> simp [eq_comm]

/-- Quotes in names and values stay inside their strings, and a minus is an operator; a plus is
not one. -/
theorem parse?_compile_signs :
    (∃ condition after,
      (disjunction [.hash [("it's", .value (.string "' or '"))],
        .negation (.compare .less "age" (.string "-5"))]).compile .empty = .ok (condition, after) ∧
      condition.render = "(cits0=='\\' or \\'') or (not (tonumber(cage1) < -5))" ∧
      parse? condition.render = some (.binary .or
        (.binary .equal (.name "cits0") (.string (Text.utf8 "' or '")))
        (.unary .not (.binary .less (.call (.name "tonumber") [.name "cage1"])
          (.unary .minus (.numeral "5")))))) ∧
      ∃ condition after,
        (compare .greater "age" (.string "+5")).compile .empty = .ok (condition, after) ∧
        condition.render = "tonumber(cage0) > +5" ∧ parse? condition.render = none ∧
        ∀ expression, ¬ Reads condition.render expression := by
  constructor
  · obtain ⟨condition, after, compiled, parsed⟩ :=
      parse?_compile (disjunction [.hash [("it's", .value (.string "' or '"))],
        .negation (.compare .less "age" (.string "-5"))]) .empty rfl .empty
    cases compiled
    exact ⟨_, _, rfl, by decide, (parsed rfl).1⟩
  · obtain ⟨condition, after, compiled, parsed⟩ :=
      parse?_compile (compare .greater "age" (.string "+5")) .empty rfl .empty
    cases compiled
    obtain ⟨unparsed, reads⟩ := parsed rfl
    refine ⟨_, _, rfl, by decide, unparsed, fun expression read => ?_⟩
    exact absurd ((reads expression).1 read).1 (by decide)

end Filter

end Rowscan
