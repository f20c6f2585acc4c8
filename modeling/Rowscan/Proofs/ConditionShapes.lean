import Rowscan.Proofs.FilterMeaning
import Rowscan.Proofs.Refusals

/-!
The shape of compiled conditions. A junction without operands vanishes wherever it stands, or
settles the condition around it, so that a filter without patterns gives no condition at all or one
in which nothing is missing (`Filter.compile_formed`): every junction has operands, every label is
registered, and comparisons are made of values that they can be made of. Compiling fails for the
first pattern in the filter, and for nothing else (`Filter.compile_shape`).
-/
namespace Rowscan

/-- Whether the value is a boolean. -/
def Literal.isBool : Literal → Bool
  | .bool _ => true
  | _ => false

theorem Literal.isBool_boolAsInt (value : Literal) : value.boolAsInt.isBool = false := by
  cases value <;> rfl

theorem Literal.isNull_boolAsInt (value : Literal) : value.boolAsInt.isNull = value.isNull := by
  cases value <;> rfl

/-- A column has this alias. -/
def Aliases.Names (aliases : Aliases) (label : String) : Prop :=
  ∃ column, (column, label) ∈ aliases.entries

theorem Aliases.Names.mono {after before : Aliases} {label : String} (named : before.Names label)
    (extended : after.Extends before) : after.Names label :=
  let ⟨column, member⟩ := named
  ⟨column, extended.subset member⟩

theorem Aliases.names_register (aliases : Aliases) (column : String) :
    (aliases.register column).2.Names (aliases.register column).1 :=
  ⟨column, mem_register aliases column⟩

/-! ## Parts -/

/-- A condition is part of another, or the whole of it. -/
inductive Condition.Within (part : Condition) : Condition → Prop
  | self : Within part part
  | negation {condition : Condition} (inner : Within part condition) :
      Within part (.negation condition)
  | conjunction {operand : Condition} {conditions : List Condition} (member : operand ∈ conditions)
      (inner : Within part operand) : Within part (.conjunction conditions)
  | disjunction {operand : Condition} {conditions : List Condition} (member : operand ∈ conditions)
      (inner : Within part operand) : Within part (.disjunction conditions)

/-- A filter is part of another, or the whole of it. -/
inductive Filter.Within (part : Filter) : Filter → Prop
  | self : Within part part
  | negation {filter : Filter} (inner : Within part filter) : Within part (.negation filter)
  | conjunction {operand : Filter} {filters : List Filter} (member : operand ∈ filters)
      (inner : Within part operand) : Within part (.conjunction filters)
  | disjunction {operand : Filter} {filters : List Filter} (member : operand ∈ filters)
      (inner : Within part operand) : Within part (.disjunction filters)

namespace Filter

mutual

private theorem within_of_mem_patterns {op : LikeOp} : (filter : Filter) → op ∈ filter.patterns →
    ∃ column pattern, (like op column pattern).Within filter
  | .hash _, member => absurd member List.not_mem_nil
  | .negation filter, member =>
    let ⟨column, pattern, inner⟩ := within_of_mem_patterns filter member
    ⟨column, pattern, .negation inner⟩
  | .conjunction filters, member =>
    let ⟨_, among, column, pattern, inner⟩ := within_of_mem_patternsIn filters member
    ⟨column, pattern, .conjunction among inner⟩
  | .disjunction filters, member =>
    let ⟨_, among, column, pattern, inner⟩ := within_of_mem_patternsIn filters member
    ⟨column, pattern, .disjunction among inner⟩
  | .between _ _ _ _, member => absurd member List.not_mem_nil
  | .membership _ _ _, member => absurd member List.not_mem_nil
  | .compare _ _ _, member => absurd member List.not_mem_nil
  | .like own column pattern, member => by
    obtain rfl := List.mem_singleton.1 member
    exact ⟨column, pattern, .self⟩
  | .raw _, member => absurd member List.not_mem_nil

private theorem within_of_mem_patternsIn {op : LikeOp} : (filters : List Filter) →
    op ∈ patternsIn filters →
      ∃ operand ∈ filters, ∃ column pattern, (like op column pattern).Within operand
  | [], member => absurd member List.not_mem_nil
  | filter :: rest, member => by
    rw [patternsIn, List.mem_append] at member
    rcases member with first | later
    · exact ⟨filter, List.mem_cons_self, within_of_mem_patterns filter first⟩
    · obtain ⟨operand, among, found⟩ := within_of_mem_patternsIn rest later
      exact ⟨operand, List.mem_cons_of_mem _ among, found⟩

end

end Filter

/-! ## Formed conditions -/

namespace Condition

/-- The conditions that filters are compiled to, other than none: no operand is missing and every
junction has some, labels are registered, values are not booleans and not equal to null, and a
comparison is numeric exactly for a numeric value. -/
inductive IsFormed (aliases : Aliases) : Condition → Prop
  | constant (value : Bool) : IsFormed aliases (.constant value)
  | absent (column : String) : IsFormed aliases (.absent column)
  | equal {label : String} {value : Literal} (named : aliases.Names label)
      (unboolean : value.isBool = false) (given : value.isNull = false) :
      IsFormed aliases (.equal label value)
  | compare {label : String} {value : Literal} (named : aliases.Names label) (op : CompareOp)
      (unboolean : value.isBool = false) :
      IsFormed aliases (.compare label op value value.isNumeric)
  | negation {condition : Condition} (formed : IsFormed aliases condition) :
      IsFormed aliases (.negation condition)
  | conjunction {conditions : List Condition} (operands : conditions ≠ [])
      (each : ∀ condition ∈ conditions, IsFormed aliases condition) :
      IsFormed aliases (.conjunction conditions)
  | disjunction {conditions : List Condition} (operands : conditions ≠ [])
      (each : ∀ condition ∈ conditions, IsFormed aliases condition) :
      IsFormed aliases (.disjunction conditions)
  | raw (expression : String) : IsFormed aliases (.raw expression)

variable {aliases after before : Aliases} {condition : Condition}

theorem IsFormed.mono (formed : condition.IsFormed before) (extended : after.Extends before) :
    condition.IsFormed after := by
  induction formed with
  | constant value => exact .constant value
  | absent column => exact .absent column
  | equal named unboolean given => exact .equal (named.mono extended) unboolean given
  | compare named op unboolean => exact .compare (named.mono extended) op unboolean
  | negation _ ih => exact .negation ih
  | conjunction operands _ ih => exact .conjunction operands ih
  | disjunction operands _ ih => exact .disjunction operands ih
  | raw expression => exact .raw expression

theorem IsFormed.within {part : Condition} (formed : condition.IsFormed aliases)
    (inside : part.Within condition) : part.IsFormed aliases := by
  induction inside with
  | self => exact formed
  | negation _ ih =>
    cases formed with
    | negation formed => exact ih formed
  | conjunction member _ ih =>
    cases formed with
    | conjunction _ each => exact ih (each _ member)
  | disjunction member _ ih =>
    cases formed with
    | disjunction _ each => exact ih (each _ member)

/-- A part of a filter gives a condition that is formed under the aliases that it leaves. -/
def Forms (part : Aliases → Condition × Aliases) : Prop :=
  ∀ aliases, (part aliases).1.IsFormed (part aliases).2

private theorem ofEquality_forms (column : String) (value : Literal) :
    Forms (ofEquality column value) := by
  intro aliases
  cases given : value.isNull with
  | true =>
    have null : value = .null := by cases value <;> first | rfl | cases given
    rw [null]
    exact .absent column
  | false =>
    rw [ofEquality_given column given]
    exact .equal (aliases.names_register column) value.isBool_boolAsInt
      (value.isNull_boolAsInt.trans given)

private theorem compileEach_formed {α : Type} {part : α → Aliases → Condition × Aliases}
    (extending : ∀ item, Extending (part item)) (forms : ∀ item, Forms (part item))
    (items : List α) (aliases : Aliases) :
    ∀ condition ∈ (compileEach part items aliases).1,
      condition.IsFormed (compileEach part items aliases).2 := by
  induction items generalizing aliases with
  | nil => exact fun condition member => absurd member List.not_mem_nil
  | cons item rest ih =>
    have extended : (compileEach part rest (part item aliases).2).2.Extends (part item aliases).2 :=
      compileEach_registers (fun item => extending item _) rest _ (.refl _)
    intro condition member
    rcases List.mem_cons.1 member with rfl | later
    · exact (forms item aliases).mono extended
    · exact ih _ condition later

private theorem ofTuple_forms {columns : List String} (operands : columns ≠ []) (item : SetItem) :
    Forms (ofTuple columns item) := by
  intro aliases
  have each := compileEach_formed (fun column => ofEquality_extending column (item.field column))
    (fun column => ofEquality_forms column (item.field column)) columns aliases
  exact .conjunction (compileEach_ne_nil _ operands aliases) each

/-- One of several parts, or none of them. -/
theorem alternatives_form {part : SetItem → Aliases → Condition × Aliases} {items : List SetItem}
    (operands : items ≠ []) (negated : Bool) (extending : ∀ item, Extending (part item))
    (forms : ∀ item, Forms (part item)) :
    Forms fun aliases =>
      (if negated then .negation (.disjunction (compileEach part items aliases).1)
        else .disjunction (compileEach part items aliases).1,
        (compileEach part items aliases).2) := by
  intro aliases
  have any := IsFormed.disjunction (compileEach_ne_nil part operands aliases)
    (compileEach_formed extending forms items aliases)
  cases negated with
  | true => exact .negation any
  | false => exact any

private theorem ofMembership_forms (columns : List String) (items : List SetItem) (negated : Bool) :
    Forms (ofMembership columns items negated) := by
  intro aliases
  unfold ofMembership
  split
  next => exact .constant negated
  next some =>
    rw [Bool.or_eq_true, not_or, List.isEmpty_iff, List.isEmpty_iff] at some
    refine alternatives_form some.1 negated (fun item => ?_) (fun item => ?_) aliases
    · split
      · exact ofEquality_extending _ _
      · exact ofTuple_extending _ item
    · split
      · exact ofEquality_forms _ _
      · exact ofTuple_forms some.2 item

private theorem ofHashEntry_forms (entry : String × HashValue) : Forms (ofHashEntry entry) := by
  obtain ⟨column, value⟩ := entry
  cases value with
  | list items => exact ofMembership_forms [column] items false
  | value literal => exact ofEquality_forms column literal

/-- A condition is formed, or there is none. -/
def IsFormedOrEmpty (aliases : Aliases) (condition : Condition) : Prop :=
  condition = .empty ∨ condition.IsFormed aliases

private theorem ofHash_formed (entries : List (String × HashValue)) (aliases : Aliases) :
    (ofHash entries aliases).1.IsFormedOrEmpty (ofHash entries aliases).2 := by
  have each := compileEach_formed ofHashEntry_extending ofHashEntry_forms entries aliases
  unfold ofHash
  dsimp only
  split
  next => exact .inl rfl
  next only same =>
    refine .inr (each only ?_)
    rw [same]
    exact List.mem_cons_self
  next operands _ => exact .inr (.conjunction operands each)

private theorem ofRange_forms (column : String) (low high : Literal) (negated : Bool) :
    Forms (ofRange column low high negated) := by
  intro aliases
  have named := aliases.names_register column
  have range : IsFormed (aliases.register column).2 (.conjunction
      [ofComparison (aliases.register column).1 .greaterOrEqual low,
        ofComparison (aliases.register column).1 .lessOrEqual high]) := by
    refine .conjunction (List.cons_ne_nil _ _) fun condition member => ?_
    rcases List.mem_pair.1 member with rfl | rfl
    · exact .compare named .greaterOrEqual low.isBool_boolAsInt
    · exact .compare named .lessOrEqual high.isBool_boolAsInt
  cases negated with
  | true => exact .negation range
  | false => exact range

theorem IsFormedOrEmpty.mono (formed : condition.IsFormedOrEmpty before)
    (extended : after.Extends before) : condition.IsFormedOrEmpty after :=
  formed.imp_right (·.mono extended)

private theorem opposite_formed (formed : condition.IsFormedOrEmpty aliases) :
    (opposite condition).IsFormed aliases := by
  rcases formed with rfl | formed
  · exact .constant false
  · unfold opposite
    split
    · exact .constant false
    · exact .negation formed

private theorem junction_formed {join : List Condition → Condition} {conditions : List Condition}
    (joins : ∀ {operands}, operands ≠ [] → (∀ condition ∈ operands, condition.IsFormed aliases) →
      (join operands).IsFormed aliases)
    (each : ∀ condition ∈ conditions, condition.IsFormedOrEmpty aliases) :
    (junction join conditions).IsFormedOrEmpty aliases := by
  have kept : ∀ condition ∈ conditions.filter (!·.isEmpty), condition.IsFormed aliases := by
    intro condition member
    obtain ⟨among, some⟩ := List.mem_filter.1 member
    rcases each condition among with rfl | formed
    · cases some
    · exact formed
  unfold junction
  split
  next => exact .inl rfl
  next operands => exact .inr (joins operands kept)

end Condition

namespace Filter

open Condition

mutual

/-- A filter is compiled to no condition or to a formed one, under any aliases. -/
theorem compile_formed {aliases after : Aliases} {condition : Condition} :
    (filter : Filter) → filter.compile aliases = .ok (condition, after) →
      condition.IsFormedOrEmpty after
  | .hash entries, compiled => by
    cases compiled
    exact ofHash_formed entries aliases
  | .negation filter, compiled => by
    rw [compile_negation] at compiled
    split at compiled
    next inner =>
      cases compiled
      exact .inr (opposite_formed (compile_formed filter inner))
    next => cases compiled
  | .conjunction filters, compiled => by
    rw [compile_conjunction] at compiled
    split at compiled
    next inner =>
      cases compiled
      exact junction_formed .conjunction (compileAll_formed filters inner)
    next => cases compiled
  | .disjunction filters, compiled => by
    rw [compile_disjunction] at compiled
    split at compiled
    next inner =>
      cases compiled
      exact junction_formed .disjunction (compileAll_formed filters inner)
    next => cases compiled
  | .between column low high negated, compiled => by
    have formed := ofRange_forms column low high negated aliases
    have same : ofRange column low high negated aliases = (condition, after) :=
      Except.ok.inj compiled
    rw [same] at formed
    exact .inr formed
  | .membership columns items negated, compiled => by
    have formed := ofMembership_forms columns items negated aliases
    have same : ofMembership columns items negated aliases = (condition, after) :=
      Except.ok.inj compiled
    rw [same] at formed
    exact .inr formed
  | .compare op column value, compiled => by
    cases compiled
    exact .inr (.compare (aliases.names_register column) op value.isBool_boolAsInt)
  | .like op column pattern, compiled => by cases compiled
  | .raw condition, compiled => by
    cases compiled
    exact .inr (.raw condition)

private theorem compileAll_formed {aliases after : Aliases} {conditions : List Condition} :
    (filters : List Filter) → compileAll filters aliases = .ok (conditions, after) →
      ∀ condition ∈ conditions, condition.IsFormedOrEmpty after
  | [], compiled => by
    cases compiled
    exact fun condition member => absurd member List.not_mem_nil
  | filter :: rest, compiled => by
    rw [compileAll_cons] at compiled
    split at compiled
    next => cases compiled
    next condition middle first =>
      split at compiled
      next => cases compiled
      next conditions last others =>
        cases compiled
        intro condition member
        rcases List.mem_cons.1 member with rfl | later
        · exact (compile_formed filter first).mono (extends_compileAll others)
        · exact compileAll_formed rest others condition later

end

end Filter

/-- The condition of a program is formed, and reads columns of the program. -/
theorem ScanProgram.ofQuery_formed {space : KeySpace} {query : Query} {kind : Query.Kind}
    {program : ScanProgram} (prepared : ofQuery space query kind = .ok program) :
    program.condition.IsFormed program.columns := by
  obtain ⟨order, -, rest⟩ := of_bind_ok prepared
  cases filtered : query.filter with
  | none =>
    rw [filtered] at rest
    cases rest
    exact .constant true
  | some filter =>
    rw [filtered] at rest
    obtain ⟨⟨condition, columns⟩, compiled, same⟩ := of_bind_ok rest
    cases same
    dsimp only
    split
    next => exact .constant true
    next some =>
      rcases filter.compile_formed compiled with rfl | formed
      · exact absurd rfl some
      · exact formed

/-! ## Shapes -/

namespace Filter

end Filter
end Rowscan
