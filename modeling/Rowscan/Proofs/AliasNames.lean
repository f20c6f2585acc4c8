import Rowscan.Proofs.LocalNames

/-!
The aliases of columns as names. Whatever calls have built a registry, the calls that were refused
among them, its aliases differ from each other, from the reserved words and from the names that
programs use themselves (`Aliases.isAlias_of_names`). So a program declares each registered label
exactly once, before its condition, which reads no other (`aliases_hygienic`).
-/
namespace Rowscan

open Lua

/-! ## Registries -/

namespace Aliases

variable {aliases : Aliases} {label : String}

/-- The letter `c`, then letters, then digits. -/
def IsAlias (label : String) : Prop :=
  ∃ letters digits, label.toList = 'c' :: letters ++ digits ∧ (∀ c ∈ letters, isLetter c = true) ∧
    digits ≠ [] ∧ ∀ c ∈ digits, c.isDigit = true

private theorem isAlias_nameFor (column : String) (index : Nat) : IsAlias (nameFor column index) :=
  ⟨column.toList.filter isLetter, Nat.toDigits 10 index, String.toList_ofList,
    fun _ member => (List.mem_filter.1 member).2, Nat.toDigits_ne_nil,
    Numeral.isDigit_toDigits index⟩

/-- No name of the programs themselves has a digit. -/
theorem IsAlias.notMem_ownNames (isAlias : IsAlias label) : label ∉ ScanProgram.ownNames := by
  intro own
  have plain : (ScanProgram.ownNames.all fun name => name.toList.all (!·.isDigit)) = true := by
    decide +kernel
  obtain ⟨letters, digits, spelled, -, some, isDigit⟩ := isAlias
  obtain ⟨digit, rest, rfl⟩ := List.exists_cons_of_ne_nil some
  have member : digit ∈ label.toList := by
    rw [spelled]
    exact List.mem_append_right _ List.mem_cons_self
  have other := List.all_eq_true.1 (List.all_eq_true.1 plain label own) digit member
  rw [isDigit digit List.mem_cons_self] at other
  cases other

theorem isAlias_of_names (numbered : aliases.Numbered) (named : aliases.Names label) :
    IsAlias label ∧ IsName label ∧ label ∉ ScanProgram.ownNames := by
  obtain ⟨column, member⟩ := named
  obtain ⟨index, inside, same⟩ := List.mem_iff_getElem.1 member
  have isAlias : IsAlias label := by
    have spelled : label = nameFor column index := by
      have registered := numbered.label_eq inside
      rwa [same] at registered
    rw [spelled]
    exact isAlias_nameFor column index
  exact ⟨isAlias, numbered.isName member, isAlias.notMem_ownNames⟩

private theorem performAll_append (aliases : Aliases) (calls later : List Call) :
    aliases.performAll (calls ++ later) = (aliases.performAll calls).performAll later :=
  List.foldl_append

theorem Reached.perform (reached : aliases.Reached) (call : Call) :
    (aliases.perform call).Reached := by
  cases call with
  | register column => exact .register column reached
  | compile filter =>
    exact filter.compileKeeping_registers (fun _ column reached => .register column reached)
      aliases reached

theorem Reached.performAll (reached : aliases.Reached) (calls : List Call) :
    (aliases.performAll calls).Reached := by
  induction calls generalizing aliases with
  | nil => exact reached
  | cons call rest ih => exact ih (reached.perform call)

/-- A call changes and moves nothing that is registered. -/
theorem extends_perform (aliases : Aliases) (call : Call) :
    (aliases.perform call).Extends aliases := by
  cases call with
  | register column => exact extends_register aliases column
  | compile filter =>
    have step (middle : Aliases) (column : String) (extended : middle.Extends aliases) :
        (middle.register column).2.Extends aliases := extended.register column
    exact filter.compileKeeping_registers step aliases (.refl aliases)

private theorem extends_performAll (aliases : Aliases) (calls : List Call) :
    (aliases.performAll calls).Extends aliases := by
  induction calls generalizing aliases with
  | nil => exact .refl aliases
  | cons call rest ih => exact (ih _).trans (extends_perform aliases call)

end Aliases

/-! ## Programs -/

/-- A formed condition reads registered columns. -/
theorem Condition.IsFormed.names {aliases : Aliases} {condition : Condition} {label : String}
    (formed : condition.IsFormed aliases) (reads : condition.Reads label) :
    aliases.Names label := by
  induction reads with
  | equal value =>
    cases formed with
    | equal named _ _ => exact named
  | compare op value numeric =>
    cases formed with
    | compare named _ _ => exact named
  | negation _ ih =>
    cases formed with
    | negation formed => exact ih formed
  | conjunction member _ ih =>
    cases formed with
    | conjunction _ each => exact ih (each _ member)
  | disjunction member _ ih =>
    cases formed with
    | disjunction _ each => exact ih (each _ member)

theorem Filter.names_of_reads {filter : Filter} {aliases after : Aliases} {condition : Condition}
    (compiled : filter.compile aliases = .ok (condition, after)) {label : String}
    (reads : condition.Reads label) : after.Names label := by
  obtain rfl | formed := filter.compile_formed compiled
  · cases reads
  · exact formed.names reads

namespace ScanProgram

variable {space : KeySpace} {query : Query} {kind : Query.Kind} {program : ScanProgram}

/-- Without raw expressions, the tokens of a program are those before its condition, the condition
in the test, and those after it. Every registered label is declared once before the condition and
nowhere else, the condition reads only registered labels, and nothing but labels is named besides
what programs use themselves. -/
theorem declares_labels (built : ofQuery space query kind = .ok program)
    (unraw : Unraw program.pieces) :
    ∃ before after, tokens? program.source.toList = some (before ++
        .keyword "if" :: (tokensOf program.condition.pieces ++ .keyword "then" :: after)) ∧
      (∀ label, program.columns.Names label → (declared before).count label = 1 ∧
        label ∉ declared (tokensOf program.condition.pieces ++ .keyword "then" :: after)) ∧
      (∀ label, program.condition.Reads label → program.columns.Names label) ∧
      (∀ word, .name word ∈ before ++ after →
        word ∈ ownNames ∨ program.columns.Names word) ∧
      ∀ word, .name word ∈ tokensOf program.condition.pieces →
        word ∈ ownNames ∨ program.condition.Reads word := by
  obtain ⟨labelled, numbered⟩ := ofQuery_labelled built
  have formed := ofQuery_formed built
  have opening := scoped_openingPieces numbered
  have closing := scoped_closingPieces program
  have condition : Scoped program.condition.MayName (tokensOf program.condition.pieces) [] := by
    refine labelled.isScoped (unraw.mono fun piece inside => ?_)
    exact mem_pieces (test_mem_linePieces program) (by simp [inside])
  have cut := tokens?_source built unraw.rawsAreWhole
  rw [tokensOf_pieces] at cut
  refine ⟨_, _, cut, fun label named => ?_, fun label reads => formed.names reads,
    fun word member => ?_, condition.names⟩
  · obtain ⟨-, -, foreign⟩ := Aliases.isAlias_of_names numbered named
    constructor
    · obtain ⟨column, registered⟩ := named
      have own : ∀ word ∈ ["key", "allpks", "pks", "n", "v", "i"], word ∈ ownNames := by decide
      have among : label ∈ program.columns.entries.map (·.2) := List.mem_map_of_mem registered
      rw [opening.declares, List.count_append,
        List.count_eq_zero_of_not_mem fun inside => foreign (own label inside),
        List.count_eq_one_of_mem numbered.nodup_labels among]
    · rw [declared_append condition.closed, condition.declares, List.nil_append, declared,
        if_neg (by decide), List.nil_append, closing.declares]
      exact fun inside => foreign (kindLocals_own program.kind label inside)
  · rcases List.mem_append.1 member with early | late
    · exact opening.names word early
    · exact .inl (closing.names word late)

end ScanProgram

/-! ## Hygiene -/

/-- Whatever calls have built a registry, refused ones among them: each column is registered once,
no two columns have one alias, later calls change and move nothing, and a column that is registered
is there under the alias that is returned for it. Every alias is the letter `c`, letters and digits,
and so a name that is no reserved word and none that programs use themselves. What compiling
registers, further calls go on with, and the labels of its condition are registered. So in the
source of a program without raw expressions, every registered label is declared exactly once, before
the condition, and no other label is read. -/
theorem aliases_hygienic (calls : List Aliases.Call) :
    let aliases := Aliases.empty.performAll calls
    (aliases.entries.map (·.1)).Nodup ∧ (aliases.entries.map (·.2)).Nodup ∧
      (∀ later, aliases.entries <+: (Aliases.empty.performAll (calls ++ later)).entries) ∧
      (∀ column, (column, (aliases.register column).1) ∈
        (Aliases.empty.performAll (calls ++ [.register column])).entries) ∧
      (∀ label, aliases.Names label →
        Aliases.IsAlias label ∧ IsName label ∧ label ∉ ScanProgram.ownNames) ∧
      (∀ filter condition after, filter.compile aliases = .ok (condition, after) →
        after = Aliases.empty.performAll (calls ++ [.compile filter]) ∧
          ∀ label, condition.Reads label → after.Names label) ∧
      ∀ (space : KeySpace) (query : Query) (kind : Query.Kind) (program : ScanProgram),
        ScanProgram.ofQuery space query kind = .ok program → Unraw program.pieces →
          ∃ before after, tokens? program.source.toList = some (before ++
              .keyword "if" :: (tokensOf program.condition.pieces ++ .keyword "then" :: after)) ∧
            (∀ label, program.columns.Names label → (declared before).count label = 1 ∧
              label ∉ declared (tokensOf program.condition.pieces ++ .keyword "then" :: after)) ∧
            (∀ label, program.condition.Reads label → program.columns.Names label) ∧
            (∀ word, .name word ∈ before ++ after →
              word ∈ ScanProgram.ownNames ∨ program.columns.Names word) ∧
            ∀ word, .name word ∈ tokensOf program.condition.pieces →
              word ∈ ScanProgram.ownNames ∨ program.condition.Reads word := by
  intro aliases
  have numbered : aliases.Numbered := (Aliases.Reached.empty.performAll calls).numbered
  refine ⟨numbered.distinct, numbered.nodup_labels, fun later => ?_, fun column => ?_,
    fun label => Aliases.isAlias_of_names numbered, fun filter condition after compiled => ?_,
    fun space query kind program built unraw => ScanProgram.declares_labels built unraw⟩
  · rw [Aliases.performAll_append]
    exact aliases.extends_performAll later
  · rw [Aliases.performAll_append]
    exact aliases.mem_register column
  · refine ⟨?_, fun label reads => Filter.names_of_reads compiled reads⟩
    rw [Aliases.performAll_append]
    exact (congrArg Prod.snd (Filter.compileKeeping_of_compile compiled)).symm

/-- The first call is refused after it has registered a column. Another column with the same
letters, and one without letters, have aliases of their own, and a column that is named like a
reserved word has an alias that is none. -/
theorem aliases_hygienic_alike :
    let calls : List Aliases.Call :=
      [.compile (.conjunction [.compare .greater "größe" (.int 1),
          .like .like "name" (.string "a%")]),
        .register "gr_e", .register "12", .register "größe"]
    let aliases := Aliases.empty.performAll calls
    aliases.entries = [("größe", "cgre0"), ("gr_e", "cgre1"), ("12", "c2")] ∧
      (aliases.entries.map (·.2)).Nodup ∧ IsName "cgre0" ∧
      ∃ program before after,
        ScanProgram.ofQuery ⟨"t"⟩ { filter := some (.compare .greater "end" (.int 5)) } .count =
          .ok program ∧
        tokens? program.source.toList = some (before ++
          .keyword "if" :: (tokensOf program.condition.pieces ++ .keyword "then" :: after)) ∧
        (declared before).count "cend0" = 1 := by
  intro calls aliases
  have entries : aliases.entries = [("größe", "cgre0"), ("gr_e", "cgre1"), ("12", "c2")] := by
    decide +kernel
  obtain ⟨-, distinct, -, -, names, -, programs⟩ := aliases_hygienic calls
  have first : aliases.Names "cgre0" := ⟨"größe", by rw [entries]; exact List.mem_cons_self⟩
  have checked : ∃ program,
      ScanProgram.ofQuery ⟨"t"⟩ { filter := some (.compare .greater "end" (.int 5)) } .count =
        .ok program ∧
      program.condition = .compare "cend0" .greater (.int 5) true ∧ Unraw program.pieces :=
    ⟨_, rfl, rfl, by decide +kernel⟩
  obtain ⟨program, built, condition, unraw⟩ := checked
  obtain ⟨before, after, cut, declares, registered, -, -⟩ :=
    programs ⟨"t"⟩ _ .count program built unraw
  have reads : program.condition.Reads "cend0" := condition ▸ .compare .greater (.int 5) true
  exact ⟨entries, distinct, (names "cgre0" first).2.1, program, before, after, built, cut,
    (declares "cend0" (registered "cend0" reads)).1⟩

end Rowscan
