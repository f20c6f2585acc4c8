import Rowscan.Condition.Compile
import Rowscan.Condition.Holds
import Rowscan.Proofs.Numerals

/-!
The alias registry. Compiling touches it only by registering columns, one after another
(`compile_registers`), so whatever a registration preserves holds after any compilation: earlier
aliases stay as they are, and no alias ever stands for two columns (`Aliases.agrees_fieldIn`).
-/
namespace Rowscan
namespace Aliases

/-- A registry that calls have built, starting from none. -/
inductive Reached : Aliases → Prop where
  | empty : Reached .empty
  | register {aliases : Aliases} (column : String) (reached : Reached aliases) :
      Reached (aliases.register column).2
  | compile {aliases after : Aliases} {filter : Filter} {condition : Condition}
      (reached : Reached aliases) (compiled : filter.compile aliases = .ok (condition, after)) :
      Reached after

/-- The aliases read as the row's fields of the columns that they stand for. -/
def Agrees (aliases : Aliases) (row : Row) (field : String → Option String) : Prop :=
  ∀ entry ∈ aliases.entries, field entry.2 = row.find? entry.1

/-- Everything registered before is registered after, under the same alias. -/
def Extends (after before : Aliases) : Prop := before.entries <+: after.entries

theorem Extends.refl (aliases : Aliases) : aliases.Extends aliases := List.prefix_rfl

theorem Extends.trans {after middle before : Aliases} (later : after.Extends middle)
    (earlier : middle.Extends before) : after.Extends before := List.IsPrefix.trans earlier later

theorem Agrees.before {after before : Aliases} {row : Row} {field : String → Option String}
    (agrees : after.Agrees row field) (extended : after.Extends before) :
    before.Agrees row field := fun entry member => agrees entry (extended.subset member)

/-! ## Registering one column -/

private theorem register_known {aliases : Aliases} {column name : String}
    (known : aliases.find? column = some name) : aliases.register column = (name, aliases) := by
  rw [register, known]

private theorem register_new {aliases : Aliases} {column : String}
    (unknown : aliases.find? column = none) : aliases.register column =
      (nameFor column aliases.size,
        ⟨aliases.entries ++ [(column, nameFor column aliases.size)]⟩) := by
  rw [register, unknown]

theorem extends_register (aliases : Aliases) (column : String) :
    (aliases.register column).2.Extends aliases := by
  cases known : aliases.find? column with
  | some name =>
    rw [register_known known]
    exact .refl aliases
  | none =>
    rw [register_new known]
    exact List.prefix_append _ _

theorem Extends.register {after before : Aliases} (extended : after.Extends before)
    (column : String) : (after.register column).2.Extends before :=
  (extends_register after column).trans extended

theorem mem_register (aliases : Aliases) (column : String) :
    (column, (aliases.register column).1) ∈ (aliases.register column).2.entries := by
  cases known : aliases.find? column with
  | some name =>
    rw [register_known known]
    obtain ⟨before, after, parts, -⟩ := List.lookup_eq_some_iff.1 known
    rw [parts]
    exact List.mem_append_right _ List.mem_cons_self
  | none =>
    rw [register_new known]
    exact List.mem_append_right _ List.mem_cons_self

/-- The alias of a column reads as the row's field. -/
theorem Agrees.register {aliases : Aliases} {column : String} {row : Row}
    {field : String → Option String} (agrees : (aliases.register column).2.Agrees row field) :
    field (aliases.register column).1 = row.find? column :=
  agrees _ (mem_register aliases column)

end Aliases

/-! ## Compiling registers columns -/

section Registers

variable {holds : Aliases → Prop}

namespace Condition

/-- What registering a column preserves, a part of a condition preserves. -/
def Keeps (holds : Aliases → Prop) (part : Aliases → Condition × Aliases) : Prop :=
  ∀ aliases, holds aliases → holds (part aliases).2

theorem compileEach_registers {α : Type} {part : α → Aliases → Condition × Aliases}
    (keeps : ∀ item, Keeps holds (part item)) (items : List α) (aliases : Aliases)
    (start : holds aliases) : holds (compileEach part items aliases).2 := by
  induction items generalizing aliases with
  | nil => exact start
  | cons item rest ih => exact ih _ (keeps item aliases start)

theorem compileEach_ne_nil {α : Type} (part : α → Aliases → Condition × Aliases) {items : List α}
    (operands : items ≠ []) (aliases : Aliases) : (compileEach part items aliases).1 ≠ [] := by
  cases items with
  | nil => exact absurd rfl operands
  | cons item rest => exact List.cons_ne_nil _ _

variable (step : ∀ aliases column, holds aliases → holds (Aliases.register aliases column).2)
include step

theorem ofEquality_registers (column : String) (value : Literal) :
    Keeps holds (ofEquality column value) := by
  intro aliases start
  cases value with
  | null => exact start
  | bool value => exact step aliases column start
  | int value => exact step aliases column start
  | float value => exact step aliases column start
  | string text => exact step aliases column start
  | raw expression => exact step aliases column start

theorem ofTuple_registers (columns : List String) (item : SetItem) :
    Keeps holds (ofTuple columns item) :=
  compileEach_registers (fun column => ofEquality_registers step column (item.field column)) columns

private theorem ofMembership_registers (columns : List String) (items : List SetItem)
    (negated : Bool) :
    Keeps holds (ofMembership columns items negated) := by
  intro aliases start
  unfold ofMembership
  split
  · exact start
  · refine compileEach_registers (fun item => ?_) items aliases start
    split
    · exact ofEquality_registers step _ _
    · exact ofTuple_registers step _ item

theorem ofHashEntry_registers (entry : String × HashValue) :
    Keeps holds (ofHashEntry entry) := by
  obtain ⟨column, value⟩ := entry
  cases value with
  | list items => exact ofMembership_registers step [column] items false
  | value literal => exact ofEquality_registers step column literal

private theorem ofHash_registers (entries : List (String × HashValue)) :
    Keeps holds (ofHash entries) :=
  compileEach_registers (ofHashEntry_registers step) entries

end Condition

mutual

/-- What registering a column preserves, compiling a filter preserves, refused or not. -/
theorem Filter.compileKeeping_registers
    (step : ∀ aliases column, holds aliases → holds (Aliases.register aliases column).2) :
    (filter : Filter) → (aliases : Aliases) → holds aliases →
      holds (filter.compileKeeping aliases).2
  | .hash entries, aliases, start => Condition.ofHash_registers step entries aliases start
  | .negation filter, aliases, start => compileKeeping_registers step filter aliases start
  | .conjunction filters, aliases, start => compileAllKeeping_registers step filters aliases start
  | .disjunction filters, aliases, start => compileAllKeeping_registers step filters aliases start
  | .between column _ _ _, aliases, start => step aliases column start
  | .membership columns items negated, aliases, start =>
    Condition.ofMembership_registers step columns items negated aliases start
  | .compare _ column _, aliases, start => step aliases column start
  | .like _ _ _, _, start => start
  | .raw _, _, start => start

theorem Filter.compileAllKeeping_registers
    (step : ∀ aliases column, holds aliases → holds (Aliases.register aliases column).2) :
    (filters : List Filter) → (aliases : Aliases) → holds aliases →
      holds (Filter.compileAllKeeping filters aliases).2
  | [], _, start => start
  | filter :: rest, aliases, start => by
    have first := compileKeeping_registers step filter aliases start
    rw [Filter.compileAllKeeping]
    split
    next refused =>
      rw [refused] at first
      exact first
    next compiled =>
      rw [compiled] at first
      exact compileAllKeeping_registers step rest _ first

end

namespace Filter

theorem compile_negation (filter : Filter) (aliases : Aliases) :
    compile (.negation filter) aliases =
      match filter.compile aliases with
      | .ok (condition, after) => .ok (Condition.opposite condition, after)
      | .error failure => .error failure := by
  rw [compile, compile, compileKeeping]
  rcases filter.compileKeeping aliases with ⟨_ | condition, after⟩ <;> rfl

theorem compile_conjunction (filters : List Filter) (aliases : Aliases) :
    compile (.conjunction filters) aliases =
      match compileAll filters aliases with
      | .ok (conditions, after) => .ok (Condition.junction .conjunction conditions, after)
      | .error failure => .error failure := by
  rw [compile, compileAll, compileKeeping]
  rcases compileAllKeeping filters aliases with ⟨_ | conditions, after⟩ <;> rfl

theorem compile_disjunction (filters : List Filter) (aliases : Aliases) :
    compile (.disjunction filters) aliases =
      match compileAll filters aliases with
      | .ok (conditions, after) => .ok (Condition.junction .disjunction conditions, after)
      | .error failure => .error failure := by
  rw [compile, compileAll, compileKeeping]
  rcases compileAllKeeping filters aliases with ⟨_ | conditions, after⟩ <;> rfl

theorem compileAll_cons (filter : Filter) (rest : List Filter) (aliases : Aliases) :
    compileAll (filter :: rest) aliases =
      match filter.compile aliases with
      | .error failure => .error failure
      | .ok (condition, middle) =>
        match compileAll rest middle with
        | .error failure => .error failure
        | .ok (conditions, after) => .ok (condition :: conditions, after) := by
  rw [compileAll, compile, compileAllKeeping]
  rcases filter.compileKeeping aliases with ⟨_ | condition, middle⟩
  · rfl
  · dsimp only [Except.map]
    rw [compileAll]
    rcases compileAllKeeping rest middle with ⟨_ | conditions, after⟩ <;> rfl

theorem compileKeeping_of_compile {filter : Filter} {aliases after : Aliases}
    {condition : Condition} (compiled : filter.compile aliases = .ok (condition, after)) :
    filter.compileKeeping aliases = (.ok condition, after) := by
  rw [compile] at compiled
  generalize filter.compileKeeping aliases = kept at compiled ⊢
  obtain ⟨_ | other, left⟩ := kept
  · cases compiled
  · cases compiled
    rfl

private theorem compileAllKeeping_of_compileAll {filters : List Filter} {aliases after : Aliases}
    {conditions : List Condition}
    (compiled : compileAll filters aliases = .ok (conditions, after)) :
    compileAllKeeping filters aliases = (.ok conditions, after) := by
  rw [compileAll] at compiled
  generalize compileAllKeeping filters aliases = kept at compiled ⊢
  obtain ⟨_ | others, left⟩ := kept
  · cases compiled
  · cases compiled
    rfl

/-- What registering a column preserves, compiling a filter preserves. -/
theorem compile_registers
    (step : ∀ aliases column, holds aliases → holds (Aliases.register aliases column).2)
    {aliases after : Aliases} {condition : Condition} (filter : Filter)
    (compiled : filter.compile aliases = .ok (condition, after)) (start : holds aliases) :
    holds after := by
  have kept := compileKeeping_registers step filter aliases start
  rw [compileKeeping_of_compile compiled] at kept
  exact kept

private theorem compileAll_registers
    (step : ∀ aliases column, holds aliases → holds (Aliases.register aliases column).2)
    {aliases after : Aliases} {conditions : List Condition} (filters : List Filter)
    (compiled : compileAll filters aliases = .ok (conditions, after)) (start : holds aliases) :
    holds after := by
  have kept := compileAllKeeping_registers step filters aliases start
  rw [compileAllKeeping_of_compileAll compiled] at kept
  exact kept

end Filter

end Registers

/-- Compiling keeps the aliases that are registered. -/
theorem Filter.extends_compile {filter : Filter} {aliases after : Aliases} {condition : Condition}
    (compiled : filter.compile aliases = .ok (condition, after)) : after.Extends aliases :=
  have step : ∀ middle column, Aliases.Extends middle aliases →
      (middle.register column).2.Extends aliases := fun _ column extended => extended.register column
  Filter.compile_registers step filter compiled (.refl aliases)

theorem Filter.extends_compileAll {filters : List Filter} {aliases after : Aliases}
    {conditions : List Condition} (compiled : compileAll filters aliases = .ok (conditions, after)) :
    after.Extends aliases :=
  have step : ∀ middle column, Aliases.Extends middle aliases →
      (middle.register column).2.Extends aliases := fun _ column extended => extended.register column
  Filter.compileAll_registers step filters compiled (.refl aliases)

/-! ## No clashes -/

namespace Aliases

/-- Every column is registered once, and its alias carries its number. -/
structure Numbered (aliases : Aliases) : Prop where
  distinct : (aliases.entries.map (·.1)).Nodup
  numbered : ∀ entry ∈ aliases.entries.zipIdx, entry.1.2 = nameFor entry.1.1 entry.2

private theorem isLetter_of_isDigit {c : Char} (digit : c.isDigit = true) : isLetter c = false := by
  simp only [Char.isDigit, Bool.and_eq_true, decide_eq_true_eq] at digit
  have upper : c.val ≤ 57 := digit.2
  have letter : isLetter c =
      (decide (c.val ≥ 65 ∧ c.val ≤ 90) || c.val ≥ 97 && c.val ≤ 122) := rfl
  rw [letter]
  grind

/-- The number of an alias is what follows its letters. -/
theorem letters_nameFor (column : String) (index : Nat) :
    (nameFor column index).toList.dropWhile isLetter = Nat.toDigits 10 index := by
  have letters : ∀ c ∈ 'c' :: column.toList.filter isLetter, isLetter c = true := by
    intro c member
    rcases List.mem_cons.1 member with rfl | kept
    · decide
    · exact (List.mem_filter.1 kept).2
  rw [nameFor, String.toList_ofList, List.dropWhile_append_of_pos letters]
  cases digits : Nat.toDigits 10 index with
  | nil => rfl
  | cons digit rest =>
    have isDigit : digit.isDigit = true :=
      Numeral.isDigit_toDigits index digit (by rw [digits]; exact List.mem_cons_self)
    rw [List.dropWhile_cons, isLetter_of_isDigit isDigit]
    rfl

private theorem nameFor_index {column other : String} {index position : Nat}
    (same : nameFor column index = nameFor other position) : index = position := by
  have digits : Nat.toDigits 10 index = Nat.toDigits 10 position := by
    rw [← letters_nameFor column, same, letters_nameFor]
  rw [← Numeral.digitsValue_toDigits index, digits, Numeral.digitsValue_toDigits]

theorem Numbered.empty : Numbered .empty := ⟨.nil, by simp [Aliases.empty]⟩

theorem Numbered.register {aliases : Aliases} (numbered : aliases.Numbered) (column : String) :
    (aliases.register column).2.Numbered := by
  cases known : aliases.find? column with
  | some name =>
    rw [register_known known]
    exact numbered
  | none =>
    rw [register_new known]
    refine ⟨?_, ?_⟩
    · rw [List.map_append, List.nodup_append]
      refine ⟨numbered.distinct, by simp, ?_⟩
      intro first member second single
      rw [List.map_singleton, List.mem_singleton] at single
      rintro rfl
      obtain ⟨entry, stored, rfl⟩ := List.mem_map.1 member
      have absent := List.lookup_eq_none_iff.1 known entry stored
      exact absurd single.symm (by simpa using absent)
    · intro entry member
      rw [List.zipIdx_append, List.mem_append] at member
      rcases member with old | new
      · exact numbered.numbered entry old
      · rw [List.zipIdx_singleton, List.mem_singleton] at new
        subst new
        simp [size]

theorem Reached.numbered {aliases : Aliases} (reached : aliases.Reached) : aliases.Numbered := by
  induction reached with
  | empty => exact .empty
  | register column _ ih => exact ih.register column
  | compile _ compiled ih =>
    exact Filter.compile_registers (fun _ column numbered => numbered.register column) _ compiled ih

/-- The alias of the column with this number. -/
theorem Numbered.label_eq {aliases : Aliases} (numbered : aliases.Numbered) {index : Nat}
    (inside : index < aliases.entries.length) :
    aliases.entries[index].2 = nameFor aliases.entries[index].1 index :=
  numbered.numbered (aliases.entries[index], index)
    (List.mk_mem_zipIdx_iff_getElem?.2 (List.getElem?_eq_getElem inside))

/-- No two columns have one alias. -/
theorem Numbered.nodup_labels {aliases : Aliases} (numbered : aliases.Numbered) :
    (aliases.entries.map (·.2)).Nodup := by
  rw [List.Nodup, List.pairwise_map, List.pairwise_iff_getElem]
  intro first second insideFirst insideSecond before same
  rw [numbered.label_eq insideFirst, numbered.label_eq insideSecond] at same
  exact absurd (nameFor_index same) (Nat.ne_of_lt before)

/-- Reading an alias in a row gives the field of its column: no other column has the alias. -/
theorem Numbered.agrees_fieldIn {aliases : Aliases} (numbered : aliases.Numbered) (row : Row) :
    aliases.Agrees row (aliases.fieldIn row) := by
  intro entry member
  obtain ⟨index, inside, rfl⟩ := List.mem_iff_getElem.1 member
  have found : aliases.columnOf? aliases.entries[index].2 = some aliases.entries[index].1 := by
    have first : aliases.entries.find? (·.2 == aliases.entries[index].2) =
        some aliases.entries[index] := by
      refine List.find?_eq_some_iff_getElem.2 ⟨beq_self_eq_true _, index, inside, rfl, ?_⟩
      intro earlier before
      rw [Bool.not_eq_true', beq_eq_false_iff_ne, numbered.label_eq (before.trans inside),
        numbered.label_eq inside]
      intro same
      exact absurd (nameFor_index same) (Nat.ne_of_lt before)
    exact congrArg (Option.map (·.1)) first
  rw [fieldIn, found, Option.bind_some]

end Aliases
end Rowscan
