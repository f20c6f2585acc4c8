import Rowscan.Proofs.AliasRegistry
import Rowscan.Proofs.Comparisons
import Rowscan.Proofs.ShortestDigits

/-!
What a filter says about a row, told without compiling it, and that the compiled condition says
the same (`Filter.compile_meaning`). The meaning is a verdict for each part, joined from left to
right; a part that compiles to no condition is vacuous, holds on its own, and is left out of
junctions.
-/
namespace Rowscan

/-- Whether a part of a condition holds, or the error that it raises. -/
abbrev Verdict := Except Failure Bool

namespace Verdict

/-- All hold, from left to right up to the first that does not. -/
def all : List Verdict → Verdict
  | [] => .ok true
  | verdict :: rest =>
    match verdict with
    | .ok true => all rest
    | settled => settled

/-- Some holds, from left to right up to the first that does. -/
def any : List Verdict → Verdict
  | [] => .ok false
  | verdict :: rest =>
    match verdict with
    | .ok false => any rest
    | settled => settled

/-- The opposite, if negated. -/
def negateIf (negated : Bool) (verdict : Verdict) : Verdict :=
  if negated then verdict.map (!·) else verdict

private theorem all_singleton (verdict : Verdict) : all [verdict] = verdict := by
  rcases verdict with failure | holds
  · rfl
  · cases holds <;> rfl

private theorem all_ok {α : Type} (holds : α → Bool) (items : List α) :
    all (items.map fun item => .ok (holds item)) = .ok (items.all holds) := by
  induction items with
  | nil => rfl
  | cons item rest ih =>
    rw [List.map_cons, List.all_cons]
    cases holds item with
    | true => exact ih
    | false => rfl

private theorem any_ok {α : Type} (holds : α → Bool) (items : List α) :
    any (items.map fun item => .ok (holds item)) = .ok (items.any holds) := by
  induction items with
  | nil => rfl
  | cons item rest ih =>
    rw [List.map_cons, List.any_cons]
    cases holds item with
    | true => rfl
    | false => exact ih

end Verdict

/-! ## The meaning of filters -/

/-- Whether nothing that a membership condition over these columns reads from an item is of the
script language. -/
def SetItem.isPlain (columns : List String) (item : SetItem) : Bool :=
  match columns with
  | [column] => !(item.single column).isRaw
  | columns => columns.all fun column => !(item.field column).isRaw

/-- Whether nothing that an entry reads is of the script language. -/
def HashValue.isPlain (column : String) : HashValue → Bool
  | .value literal => !literal.isRaw
  | .list items => items.all (SetItem.isPlain [column])

/-- The number that a literal is, if conditions compare it as one. -/
def Literal.number? : Literal → Option Double
  | .bool value => some (.ofInt (if value then 1 else 0))
  | .int value => some (.ofInt value.toInt)
  | .float value => if value.isFinite then some value else none
  | .string text => if isNumeral text then toNumber? text else none
  | _ => none

namespace Row

/-- The column equals a literal: its text does, or the field is absent for null. -/
def equals (row : Row) (column : String) : Literal → Bool
  | .null => (row.find? column).isNone
  | .float _ => false
  | literal => row.find? column == some literal.text

/-- The column compares with a literal: as numbers if the literal is one, and as texts
otherwise. -/
def compares (row : Row) (column : String) (op : CompareOp) (literal : Literal) : Verdict :=
  match literal.number? with
  | some right =>
    match (row.find? column).bind toNumber? with
    | some left => .ok (op.relatesNumbers left right)
    | none => .error (Condition.comparisonFailure "nil" "number")
  | none =>
    match row.find? column, literal with
    | some left, .string right => .ok (op.relatesTexts left right)
    | some _, _ => .error (Condition.comparisonFailure "string" "nil")
    | none, _ => .error (Condition.comparisonFailure "boolean" "string")

/-- The columns equal what an item gives them. -/
def matchesItem (row : Row) (columns : List String) (item : SetItem) : Bool :=
  match columns with
  | [column] => row.equals column (item.single column)
  | columns => columns.all fun column => row.equals column (item.field column)

/-- The columns match one of the items. Without columns nothing matches. -/
def isAmong (row : Row) (columns : List String) (items : List SetItem) : Bool :=
  !columns.isEmpty && items.any (row.matchesItem columns)

/-- An entry of a hash condition holds. -/
def hasEntry (row : Row) (entry : String × HashValue) : Bool :=
  match entry.2 with
  | .value literal => row.equals entry.1 literal
  | .list items => row.isAmong [entry.1] items

end Row

namespace Filter

mutual

/-- Whether a filter puts no condition at all. -/
def isVacuous : Filter → Bool
  | .hash entries => entries.isEmpty
  | .conjunction filters => areVacuous filters
  | .disjunction filters => areVacuous filters
  | _ => false
termination_by structural filter => filter

/-- Whether no filter puts a condition. -/
def areVacuous : List Filter → Bool
  | [] => true
  | filter :: rest => isVacuous filter && areVacuous rest
termination_by structural filters => filters

end

mutual

/-- What a filter says about a row. -/
def meaning (row : Row) : Filter → Verdict
  | .hash entries => .ok (entries.all row.hasEntry)
  | .negation filter => (meaning row filter).map (!·)
  | .conjunction filters => .all (meanings row filters)
  | .disjunction filters =>
    if areVacuous filters then .ok true else .any (meanings row filters)
  | .between column low high negated => .negateIf negated
    (.all [row.compares column .greaterOrEqual low, row.compares column .lessOrEqual high])
  | .membership columns items negated => .ok (row.isAmong columns items != negated)
  | .compare op column literal => row.compares column op literal
  | .like op _ _ => .error (likeRefused op)
  | .raw _ => .error Condition.rawFailure
termination_by structural filter => filter

/-- What the filters that are not vacuous say about a row, in order. -/
def meanings (row : Row) : List Filter → List Verdict
  | [] => []
  | filter :: rest =>
    if isVacuous filter then meanings row rest else meaning row filter :: meanings row rest
termination_by structural filters => filters

end

mutual

/-- Whether a filter has no patterns and reads nothing of the script language. -/
def isPlain : Filter → Bool
  | .hash entries => entries.all fun entry => entry.2.isPlain entry.1
  | .negation filter => isPlain filter
  | .conjunction filters => arePlain filters
  | .disjunction filters => arePlain filters
  | .between _ low high _ => !low.isRaw && !high.isRaw
  | .membership columns items _ => items.all (SetItem.isPlain columns)
  | .compare _ _ literal => !literal.isRaw
  | .like _ _ _ => false
  | .raw _ => false
termination_by structural filter => filter

/-- Whether all filters are plain. -/
def arePlain : List Filter → Bool
  | [] => true
  | filter :: rest => isPlain filter && arePlain rest
termination_by structural filters => filters

end

end Filter

/-! ## Literals in conditions -/

namespace Literal

/-- A condition compares a literal as a number exactly if it is one. -/
theorem isNumeric_boolAsInt (literal : Literal) :
    literal.boolAsInt.isNumeric = literal.number?.isSome := by
  cases literal with
  | null => rfl
  | bool value => rfl
  | int value => rfl
  | float value =>
    change value.isFinite = (if value.isFinite then some value else none).isSome
    cases value.isFinite <;> rfl
  | string text =>
    change isNumeral text = (if isNumeral text then toNumber? text else none).isSome
    cases numeral : isNumeral text with
    | false => rfl
    | true =>
      obtain ⟨number, read⟩ := Option.isSome_iff_exists.1 numeral
      rw [if_pos rfl, toNumber?_of_read? read]
      rfl
  | raw expression => rfl

/-- The text of a numeric literal in a condition reads as its number. -/
theorem toNumber?_boolAsInt {literal : Literal} {number : Double}
    (numeric : literal.number? = some number) :
    toNumber? literal.boolAsInt.text = some number := by
  cases literal with
  | null => cases numeric
  | bool value =>
    cases value with
    | false => exact (toNumber?_int 0).trans numeric
    | true => exact (toNumber?_int 1).trans numeric
  | int value => exact (toNumber?_int value).trans numeric
  | float value =>
    obtain ⟨finite, same⟩ := Option.ite_none_right_eq_some.1 numeric
    exact (Double.toNumber?_text finite).trans same
  | string text => exact (Option.ite_none_right_eq_some.1 numeric).2
  | raw expression => cases numeric

end Literal

namespace Condition

private theorem equalHolds_boolAsInt (row : Row) (column : String) {literal : Literal}
    (given : literal.isNull = false) (plain : literal.isRaw = false) :
    equalHolds (row.find? column) literal.boolAsInt = .ok (row.equals column literal) := by
  cases literal with
  | null => cases given
  | bool value => cases value <;> rfl
  | int value => rfl
  | float value => rfl
  | string text => rfl
  | raw expression => cases plain

private theorem compareHolds_boolAsInt (row : Row) (column : String) (op : CompareOp)
    {literal : Literal} (plain : literal.isRaw = false) :
    compareHolds (row.find? column) op literal.boolAsInt literal.boolAsInt.isNumeric =
      row.compares column op literal := by
  have script : literal.boolAsInt.isRaw ≠ true := by
    cases literal <;> simp_all [Literal.boolAsInt, Literal.isRaw]
  rw [Literal.isNumeric_boolAsInt, compareHolds, if_neg script]
  unfold Row.compares
  cases numeric : literal.number? with
  | some number =>
    rw [Option.isSome_some, if_pos rfl, numericHolds, Literal.toNumber?_boolAsInt numeric]
    cases (row.find? column).bind toNumber? with
    | none => rfl
    | some left => exact congrArg Except.ok (opHolds_numbers op left number)
  | none =>
    rw [Option.isSome_none, if_neg Bool.false_ne_true]
    cases row.find? column with
    | none => cases literal <;> rfl
    | some left =>
      cases literal with
      | null => rfl
      | bool value => cases numeric
      | int value => cases numeric
      | float value => rfl
      | string right => exact congrArg Except.ok (opHolds_texts op left right)
      | raw expression => rfl

/-! ## Compiled parts -/

private theorem allHold_eq (row : Row) (field : String → Option String)
    (conditions : List Condition) :
    allHold row field conditions = Verdict.all (conditions.map (holds row field)) := by
  induction conditions with
  | nil => rfl
  | cons condition rest ih =>
    rw [allHold, ih, List.map_cons]
    rcases holds row field condition with failure | settled
    · rfl
    · cases settled <;> rfl

private theorem anyHolds_eq (row : Row) (field : String → Option String)
    (conditions : List Condition) :
    anyHolds row field conditions = Verdict.any (conditions.map (holds row field)) := by
  induction conditions with
  | nil => rfl
  | cons condition rest ih =>
    rw [anyHolds, ih, List.map_cons]
    rcases holds row field condition with failure | settled
    · rfl
    · cases settled <;> rfl

/-- A compiled part gives a verdict under every reading that agrees with its aliases. -/
def Gives (row : Row) (part : Aliases → Condition × Aliases) (verdict : Verdict) : Prop :=
  ∀ aliases field, (part aliases).2.Agrees row field → (part aliases).1.holds row field = verdict

/-- A compiled part keeps the aliases that are registered. -/
def Extending (part : Aliases → Condition × Aliases) : Prop :=
  ∀ before, Keeps (Aliases.Extends · before) part

variable {row : Row}

theorem ofEquality_given (column : String) {literal : Literal} (given : literal.isNull = false)
    (aliases : Aliases) : ofEquality column literal aliases =
      (.equal (aliases.register column).1 literal.boolAsInt, (aliases.register column).2) := by
  cases literal with
  | null => cases given
  | bool value => rfl
  | int value => rfl
  | float value => rfl
  | string text => rfl
  | raw expression => rfl

private theorem ofEquality_gives (column : String) {literal : Literal}
    (plain : literal.isRaw = false) :
    Gives row (ofEquality column literal) (.ok (row.equals column literal)) := by
  intro aliases field agrees
  cases given : literal.isNull with
  | true =>
    have null : literal = .null := by cases literal <;> first | rfl | cases given
    subst null
    exact congrArg Except.ok (Option.not_isSome _)
  | false =>
    rw [ofEquality_given column given] at agrees ⊢
    have read := Aliases.Agrees.register agrees
    change equalHolds (field _) literal.boolAsInt = _
    rw [read, equalHolds_boolAsInt row column given plain]

theorem ofEquality_extending (column : String) (literal : Literal) :
    Extending (ofEquality column literal) := fun _ =>
  ofEquality_registers (fun _ column extended => extended.register column) column literal

theorem ofTuple_extending (columns : List String) (item : SetItem) :
    Extending (ofTuple columns item) := fun _ =>
  ofTuple_registers (fun _ column extended => extended.register column) columns item

theorem ofHashEntry_extending (entry : String × HashValue) : Extending (ofHashEntry entry) :=
  fun _ => ofHashEntry_registers (fun _ column extended => extended.register column) entry

/-- Parts that are compiled one after another each give their verdict: what later parts register
does not touch the aliases of the earlier ones. -/
theorem compileEach_gives {α : Type} {part : α → Aliases → Condition × Aliases}
    {verdict : α → Verdict} (extending : ∀ item, Extending (part item)) {items : List α}
    (gives : ∀ item ∈ items, Gives row (part item) (verdict item)) (aliases : Aliases)
    (field : String → Option String)
    (agrees : (compileEach part items aliases).2.Agrees row field) :
    (compileEach part items aliases).1.map (holds row field) = items.map verdict := by
  induction items generalizing aliases with
  | nil => rfl
  | cons item rest ih =>
    have extended : (compileEach part rest (part item aliases).2).2.Extends (part item aliases).2 :=
      compileEach_registers (fun item => extending item _) rest _ (.refl _)
    have first := gives item List.mem_cons_self aliases field (agrees.before extended)
    have others := ih (fun item member => gives item (List.mem_cons_of_mem _ member)) _ agrees
    exact congrArg₂ List.cons first others

private theorem ofTuple_gives (columns : List String) {item : SetItem}
    (plain : ∀ column ∈ columns, (item.field column).isRaw = false) :
    Gives row (ofTuple columns item)
      (.ok (columns.all fun column => row.equals column (item.field column))) := by
  intro aliases field agrees
  have column (column : String) (member : column ∈ columns) :
      Gives row (ofEquality column (item.field column))
        (.ok (row.equals column (item.field column))) := ofEquality_gives column (plain column member)
  have each := compileEach_gives
    (fun column => ofEquality_extending column (item.field column)) column aliases field agrees
  change allHold row field _ = _
  rw [allHold_eq, each, Verdict.all_ok]

/-- Alternatives of which one must hold, or none if negated. -/
theorem alternatives_give {α : Type} {part : α → Aliases → Condition × Aliases} {matched : α → Bool}
    (extending : ∀ item, Extending (part item)) {items : List α}
    (gives : ∀ item ∈ items, Gives row (part item) (.ok (matched item))) (negated : Bool)
    (aliases : Aliases) (field : String → Option String)
    (agrees : (compileEach part items aliases).2.Agrees row field) :
    holds row field (if negated then .negation (.disjunction (compileEach part items aliases).1)
      else .disjunction (compileEach part items aliases).1) =
    .ok (items.any matched != negated) := by
  have each := compileEach_gives extending gives aliases field agrees
  have any : holds row field (.disjunction (compileEach part items aliases).1) =
      .ok (items.any matched) := by
    change anyHolds row field _ = _
    rw [anyHolds_eq, each, Verdict.any_ok]
  cases negated with
  | true =>
    change (holds row field (.disjunction _)).map (!·) = _
    rw [any]
    exact congrArg Except.ok (Bool.bne_true _).symm
  | false => exact any.trans (congrArg Except.ok (Bool.bne_false _).symm)

private theorem ofMembership_gives (columns : List String) {items : List SetItem}
    (plain : ∀ item ∈ items, item.isPlain columns = true) (negated : Bool) :
    Gives row (ofMembership columns items negated)
      (.ok (row.isAmong columns items != negated)) := by
  intro aliases field agrees
  rcases items with _ | ⟨item', others⟩
  · have nothing : row.isAmong columns [] = false := Bool.and_false _
    rw [nothing, Bool.false_bne]
    rfl
  · rcases columns with _ | ⟨column, _ | ⟨second, more⟩⟩
    · exact congrArg Except.ok (Bool.false_bne _).symm
    · have each (item : SetItem) (member : item ∈ item' :: others) :
          Gives row (ofEquality column (item.single column)) (.ok (row.matchesItem [column] item)) :=
        ofEquality_gives column (by simpa [SetItem.isPlain] using plain item member)
      have extending (item : SetItem) : Extending (ofEquality column (item.single column)) :=
        ofEquality_extending column (item.single column)
      exact alternatives_give extending each negated aliases field agrees
    · have each (item : SetItem) (member : item ∈ item' :: others) :
          Gives row (ofTuple (column :: second :: more) item)
            (.ok (row.matchesItem (column :: second :: more) item)) :=
        ofTuple_gives _ fun column inside => by
          simpa using List.all_eq_true.1 (plain item member) column inside
      exact alternatives_give (ofTuple_extending (column :: second :: more)) each negated aliases
        field agrees

private theorem ofHashEntry_gives {entry : String × HashValue}
    (plain : entry.2.isPlain entry.1 = true) :
    Gives row (ofHashEntry entry) (.ok (row.hasEntry entry)) := by
  obtain ⟨column, value⟩ := entry
  cases value with
  | value literal => exact ofEquality_gives column (by simpa [HashValue.isPlain] using plain)
  | list items =>
    have among : Gives row (ofMembership [column] items false)
        (.ok (row.isAmong [column] items != false)) :=
      ofMembership_gives [column] (List.all_eq_true.1 plain) false
    rw [Bool.bne_false] at among
    exact among

private theorem isEmpty_ofMembership (columns : List String) (items : List SetItem) (negated : Bool)
    (aliases : Aliases) : (ofMembership columns items negated aliases).1.isEmpty = false := by
  unfold ofMembership
  split
  · rfl
  · cases negated <;> rfl

private theorem isEmpty_ofHashEntry (entry : String × HashValue) (aliases : Aliases) :
    (ofHashEntry entry aliases).1.isEmpty = false := by
  obtain ⟨column, value⟩ := entry
  cases value with
  | value literal => cases literal <;> rfl
  | list items => exact isEmpty_ofMembership [column] items false aliases

private theorem ofHash_gives {entries : List (String × HashValue)}
    (plain : ∀ entry ∈ entries, entry.2.isPlain entry.1 = true) :
    Gives row (ofHash entries) (.ok (entries.all row.hasEntry)) := by
  intro aliases field agrees
  have entry (entry : String × HashValue) (member : entry ∈ entries) :
      Gives row (ofHashEntry entry) (.ok (row.hasEntry entry)) :=
    ofHashEntry_gives (plain entry member)
  have each := compileEach_gives ofHashEntry_extending entry aliases field agrees
  have joined : (ofHash entries aliases).1.holds row field =
      Verdict.all ((compileEach ofHashEntry entries aliases).1.map (holds row field)) := by
    unfold ofHash
    rcases compileEach ofHashEntry entries aliases with ⟨_ | ⟨only, _ | ⟨second, more⟩⟩, after⟩
    · rfl
    · exact (Verdict.all_singleton _).symm
    · exact allHold_eq row field (only :: second :: more)
  rw [joined, each, Verdict.all_ok]

private theorem isEmpty_ofHash (entries : List (String × HashValue)) (aliases : Aliases) :
    (ofHash entries aliases).1.isEmpty = entries.isEmpty := by
  rcases entries with _ | ⟨entry, _ | ⟨second, more⟩⟩
  · rfl
  · exact isEmpty_ofHashEntry entry aliases
  · rfl

private theorem ofComparison_gives {field : String → Option String} {label column : String}
    (read : field label = row.find? column) {op : CompareOp} {literal : Literal}
    (plain : literal.isRaw = false) :
    holds row field (ofComparison label op literal) = row.compares column op literal := by
  change compareHolds (field label) op _ _ = _
  rw [read, compareHolds_boolAsInt row column op plain]

private theorem ofRange_gives (column : String) {low high : Literal} (plainLow : low.isRaw = false)
    (plainHigh : high.isRaw = false) (negated : Bool) :
    Gives row (ofRange column low high negated) (.negateIf negated
      (.all [row.compares column .greaterOrEqual low, row.compares column .lessOrEqual high])) := by
  intro aliases field agrees
  have read := Aliases.Agrees.register agrees
  have range : holds row field (.conjunction
      [ofComparison (aliases.register column).1 .greaterOrEqual low,
        ofComparison (aliases.register column).1 .lessOrEqual high]) =
      Verdict.all [row.compares column .greaterOrEqual low,
        row.compares column .lessOrEqual high] := by
    change allHold row field _ = _
    rw [allHold_eq, List.map_cons, List.map_singleton, ofComparison_gives read plainLow,
      ofComparison_gives read plainHigh]
  cases negated with
  | true => exact congrArg (Except.map (!·)) range
  | false => exact range

private theorem isEmpty_ofRange (column : String) (low high : Literal) (negated : Bool)
    (aliases : Aliases) : (ofRange column low high negated aliases).1.isEmpty = false := by
  cases negated <;> rfl

/-! ## Junctions and opposites -/

section Junctions

variable (field : String → Option String)

private theorem opposite_holds (condition : Condition) :
    (opposite condition).holds row field = (condition.holds row field).map (!·) := by
  cases condition <;> rfl

private theorem isEmpty_opposite (condition : Condition) :
    (opposite condition).isEmpty = false := by
  cases condition <;> rfl

private theorem isEmpty_junction {join : List Condition → Condition}
    (joined : ∀ conditions, (join conditions).isEmpty = false) (conditions : List Condition) :
    (junction join conditions).isEmpty = conditions.all isEmpty := by
  unfold junction
  cases kept : conditions.filter (!·.isEmpty) with
  | nil =>
    have none := List.filter_eq_nil_iff.1 kept
    exact (List.all_eq_true.2 fun condition member => by simpa using none condition member).symm
  | cons first rest =>
    have member : first ∈ conditions.filter (!·.isEmpty) := kept ▸ List.mem_cons_self
    obtain ⟨stored, differs⟩ := List.mem_filter.1 member
    refine (joined _).trans (Bool.eq_false_iff.2 fun all => ?_).symm
    have empty := List.all_eq_true.1 all first stored
    rw [empty] at differs
    exact Bool.false_ne_true differs

private theorem conjunction_holds (conditions : List Condition) :
    (junction .conjunction conditions).holds row field =
      Verdict.all ((conditions.filter (!·.isEmpty)).map (holds row field)) := by
  unfold junction
  cases conditions.filter (!·.isEmpty) with
  | nil => rfl
  | cons first rest => exact allHold_eq row field (first :: rest)

private theorem disjunction_holds (conditions : List Condition) :
    (junction .disjunction conditions).holds row field =
      if conditions.all isEmpty then .ok true
      else Verdict.any ((conditions.filter (!·.isEmpty)).map (holds row field)) := by
  have empty : (junction .disjunction conditions).isEmpty = conditions.all isEmpty :=
    isEmpty_junction (fun _ => rfl) conditions
  rw [← empty]
  unfold junction
  cases conditions.filter (!·.isEmpty) with
  | nil => rfl
  | cons first rest => exact anyHolds_eq row field (first :: rest)

end Junctions
end Condition

/-! ## Filters -/

namespace Filter

mutual

/-- The compiled condition is empty for vacuous filters only, and holds of a row as the filter
means. -/
theorem compile_meaning : (filter : Filter) → filter.isPlain = true → (aliases : Aliases) →
    ∃ condition after, filter.compile aliases = .ok (condition, after) ∧
      condition.isEmpty = filter.isVacuous ∧
      ∀ row field, after.Agrees row field → condition.holds row field = filter.meaning row
  | .hash entries, plain, aliases => by
    have plainEntries : (entries.all fun entry => entry.2.isPlain entry.1) = true := plain
    refine ⟨_, _, rfl, Condition.isEmpty_ofHash entries aliases, fun row field agrees => ?_⟩
    rw [meaning]
    exact Condition.ofHash_gives (List.all_eq_true.1 plainEntries) aliases field agrees
  | .negation filter, plain, aliases => by
    obtain ⟨condition, after, compiled, -, same⟩ := compile_meaning filter plain aliases
    refine ⟨Condition.opposite condition, after, by rw [compile_negation, compiled],
      Condition.isEmpty_opposite condition, fun row field agrees => ?_⟩
    rw [Condition.opposite_holds, same row field agrees, meaning]
  | .conjunction filters, plain, aliases => by
    obtain ⟨conditions, after, compiled, empty, same⟩ := compileAll_meaning filters plain aliases
    refine ⟨Condition.junction .conjunction conditions, after, by rw [compile_conjunction, compiled],
      (Condition.isEmpty_junction (fun _ => rfl) conditions).trans empty,
      fun row field agrees => ?_⟩
    rw [Condition.conjunction_holds, same row field agrees, meaning]
  | .disjunction filters, plain, aliases => by
    obtain ⟨conditions, after, compiled, empty, same⟩ := compileAll_meaning filters plain aliases
    refine ⟨Condition.junction .disjunction conditions, after, by rw [compile_disjunction, compiled],
      (Condition.isEmpty_junction (fun _ => rfl) conditions).trans empty,
      fun row field agrees => ?_⟩
    rw [Condition.disjunction_holds, same row field agrees, empty, meaning]
  | .between column low high negated, plain, aliases => by
    obtain ⟨plainLow, plainHigh⟩ : low.isRaw = false ∧ high.isRaw = false := by
      simpa [isPlain] using plain
    refine ⟨_, _, rfl, Condition.isEmpty_ofRange column low high negated aliases,
      fun row field agrees => ?_⟩
    rw [meaning]
    exact Condition.ofRange_gives column plainLow plainHigh negated aliases field agrees
  | .membership columns items negated, plain, aliases => by
    have plainItems : items.all (SetItem.isPlain columns) = true := plain
    refine ⟨_, _, rfl, Condition.isEmpty_ofMembership columns items negated aliases,
      fun row field agrees => ?_⟩
    rw [meaning]
    exact Condition.ofMembership_gives columns (List.all_eq_true.1 plainItems) negated aliases
      field agrees
  | .compare op column literal, plain, aliases => by
    have plainLiteral : literal.isRaw = false := by simpa [isPlain] using plain
    refine ⟨_, _, rfl, rfl, fun row field agrees => ?_⟩
    rw [meaning]
    exact Condition.ofComparison_gives (Aliases.Agrees.register agrees) plainLiteral
  | .like op column pattern, plain, aliases => by cases plain
  | .raw condition, plain, aliases => by cases plain
termination_by structural filter => filter

private theorem compileAll_meaning : (filters : List Filter) → arePlain filters = true →
    (aliases : Aliases) → ∃ conditions after,
      compileAll filters aliases = .ok (conditions, after) ∧
      conditions.all Condition.isEmpty = areVacuous filters ∧
      ∀ row field, after.Agrees row field →
        (conditions.filter (!·.isEmpty)).map (Condition.holds row field) = meanings row filters
  | [], plain, aliases => ⟨[], aliases, rfl, rfl, fun _ _ _ => rfl⟩
  | filter :: rest, plain, aliases => by
    obtain ⟨plainFirst, plainRest⟩ := (Bool.and_eq_true _ _).mp plain
    obtain ⟨condition, middle, compiled, empty, same⟩ := compile_meaning filter plainFirst aliases
    obtain ⟨conditions, after, compiledAll, empties, sames⟩ :=
      compileAll_meaning rest plainRest middle
    refine ⟨condition :: conditions, after, by rw [compileAll_cons, compiled]; simp only [compiledAll],
      by rw [List.all_cons, empty, empties, areVacuous], fun row field agrees => ?_⟩
    have others := sames row field agrees
    rw [List.filter_cons, empty, meanings]
    cases vacuous : filter.isVacuous with
    | true => exact others
    | false =>
      have extended : after.Extends middle := extends_compileAll compiledAll
      exact congrArg₂ List.cons (same row field (agrees.before extended)) others
termination_by structural filters => filters

end

end Filter

/-! ## Errors -/

/-- A verdict fails by a comparison of two kinds of value, if at all. -/
def Verdict.FailsByComparison (verdict : Verdict) : Prop :=
  ∀ failure, verdict = .error failure →
    ∃ left right, failure = Condition.comparisonFailure left right

namespace Verdict

private theorem failsByComparison_ok (holds : Bool) : FailsByComparison (.ok holds) := nofun

private theorem failsByComparison_comparison (left right : String) :
    FailsByComparison (.error (Condition.comparisonFailure left right)) := by
  rintro failure ⟨⟩
  exact ⟨left, right, rfl⟩

theorem FailsByComparison.opposite {verdict : Verdict} (fails : verdict.FailsByComparison) :
    FailsByComparison (verdict.map (!·)) := by
  cases verdict with
  | error failure => exact fails
  | ok holds => exact failsByComparison_ok (!holds)

theorem FailsByComparison.all {verdicts : List Verdict}
    (fails : ∀ verdict ∈ verdicts, FailsByComparison verdict) : (all verdicts).FailsByComparison := by
  induction verdicts with
  | nil => exact failsByComparison_ok true
  | cons verdict rest ih =>
    have first := fails verdict List.mem_cons_self
    have others := ih fun verdict member => fails verdict (List.mem_cons_of_mem _ member)
    rcases verdict with failure | holds
    · exact first
    · cases holds with
      | true => exact others
      | false => exact first

theorem FailsByComparison.any {verdicts : List Verdict}
    (fails : ∀ verdict ∈ verdicts, FailsByComparison verdict) : (any verdicts).FailsByComparison := by
  induction verdicts with
  | nil => exact failsByComparison_ok false
  | cons verdict rest ih =>
    have first := fails verdict List.mem_cons_self
    have others := ih fun verdict member => fails verdict (List.mem_cons_of_mem _ member)
    rcases verdict with failure | holds
    · exact first
    · cases holds with
      | true => exact first
      | false => exact others

end Verdict

theorem Row.compares_fails (row : Row) (column : String) (op : CompareOp) (literal : Literal) :
    (row.compares column op literal).FailsByComparison := by
  unfold compares
  split
  · split
    · exact Verdict.failsByComparison_ok _
    · exact Verdict.failsByComparison_comparison _ _
  · split
    · exact Verdict.failsByComparison_ok _
    · exact Verdict.failsByComparison_comparison _ _
    · exact Verdict.failsByComparison_comparison _ _

namespace Filter

mutual

/-- A plain filter fails on a row only by a comparison. -/
theorem meaning_fails (row : Row) : (filter : Filter) → filter.isPlain = true →
    (filter.meaning row).FailsByComparison
  | .hash entries, _ => by
    rw [meaning]
    exact Verdict.failsByComparison_ok _
  | .negation filter, plain => by
    rw [meaning]
    exact (meaning_fails row filter plain).opposite
  | .conjunction filters, plain => by
    rw [meaning]
    exact .all (meanings_fail row filters plain)
  | .disjunction filters, plain => by
    rw [meaning]
    split
    · exact Verdict.failsByComparison_ok true
    · exact .any (meanings_fail row filters plain)
  | .between column low high negated, _ => by
    rw [meaning]
    have range : (Verdict.all [row.compares column .greaterOrEqual low,
        row.compares column .lessOrEqual high]).FailsByComparison := by
      refine .all fun verdict member => ?_
      rcases List.mem_pair.1 member with rfl | rfl
      · exact row.compares_fails column .greaterOrEqual low
      · exact row.compares_fails column .lessOrEqual high
    cases negated with
    | true => exact range.opposite
    | false => exact range
  | .membership columns items negated, _ => by
    rw [meaning]
    exact Verdict.failsByComparison_ok _
  | .compare op column literal, _ => by
    rw [meaning]
    exact row.compares_fails column op literal
  | .like op column pattern, plain => by cases plain
  | .raw condition, plain => by cases plain
termination_by structural filter => filter

private theorem meanings_fail (row : Row) : (filters : List Filter) → arePlain filters = true →
    ∀ verdict ∈ meanings row filters, Verdict.FailsByComparison verdict
  | [], _ => nofun
  | filter :: rest, plain => by
    obtain ⟨plainFirst, plainRest⟩ := (Bool.and_eq_true _ _).mp plain
    rw [meanings]
    split
    · exact meanings_fail row rest plainRest
    · intro verdict member
      rcases List.mem_cons.1 member with rfl | later
      · exact meaning_fails row filter plainFirst
      · exact meanings_fail row rest plainRest verdict later
termination_by structural filters => filters

end

/-! ## Compiling keeps the meaning -/

/-- A plain filter compiles under any registry that calls have built, and its condition holds of
a row, or fails, exactly as the filter means: under every reading of the aliases that agrees with
the row, and under the aliases themselves however many columns are registered later. -/
theorem compile_preserves_meaning {aliases : Aliases} (reached : aliases.Reached) {filter : Filter}
    (plain : filter.isPlain = true) :
    ∃ condition after, filter.compile aliases = .ok (condition, after) ∧
      after.Reached ∧ after.Extends aliases ∧
      (∀ row field, after.Agrees row field → condition.holds row field = filter.meaning row) ∧
      (∀ later : Aliases, later.Reached → later.Extends after → ∀ row,
        condition.holds row (later.fieldIn row) = filter.meaning row) ∧
      ∀ row, (filter.meaning row).FailsByComparison := by
  obtain ⟨condition, after, compiled, -, same⟩ := compile_meaning filter plain aliases
  refine ⟨condition, after, compiled, .compile reached compiled, extends_compile compiled, same,
    ?_, fun row => meaning_fails row filter plain⟩
  intro later reachedLater extended row
  have agrees := reachedLater.numbered.agrees_fieldIn row
  exact same row _ (agrees.before extended)

/-- A filter over a registered and a new column: an old age, or a name outside a set. -/
def oldOrNamed : Filter :=
  .disjunction [.compare .greater "age" (.int 30), .conjunction [],
    .negation (.membership ["name"] [.value (.string "bob"), .value .null] false)]

/-- Rows on which it is decided by the age, by the name, and not at all: 4 is below 30 as a number,
although its text is above, and a missing age raises an error. -/
def askedRows : List Row :=
  [.ofList [("age", "41"), ("name", "bob")], .ofList [("age", "4"), ("name", "bob")],
    .ofList [("age", "4"), ("name", "ann")], .ofList [("name", "ann")]]

theorem compile_oldOrNamed : ∃ condition after,
    oldOrNamed.compile (Aliases.empty.register "age").2 = .ok (condition, after) ∧
      (∀ row, condition.holds row (after.fieldIn row) = oldOrNamed.meaning row) ∧
      (askedRows.map fun row => condition.holds row (after.fieldIn row)) =
        [.ok true, .ok false, .ok true, .error (Condition.comparisonFailure "nil" "number")] := by
  have reached : (Aliases.empty.register "age").2.Reached := .register "age" .empty
  have plain : oldOrNamed.isPlain = true := by decide
  obtain ⟨condition, after, compiled, reachedAfter, -, -, same, -⟩ :=
    compile_preserves_meaning reached plain
  have meant : ∀ row, condition.holds row (after.fieldIn row) = oldOrNamed.meaning row :=
    same after reachedAfter (.refl after)
  have verdicts : askedRows.map oldOrNamed.meaning =
      [.ok true, .ok false, .ok true, .error (Condition.comparisonFailure "nil" "number")] := by
    decide +kernel
  exact ⟨condition, after, compiled, meant, (congrArg askedRows.map (funext meant)).trans verdicts⟩

end Filter
end Rowscan
