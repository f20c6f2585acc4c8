import Rowscan.Proofs.QuotedTexts

/-!
The names in a scan program. The tokens of a piece of code declare locals and name what programs
use themselves, and nothing else (`Lua.Scoped`); only the labels of a condition and the aliases of
its columns are named besides. So a program declares locals of its own and then each alias before
its condition (`ScanProgram.scoped_openingPieces`), nothing in it (`Condition.IsLabelled.isScoped`),
and what gathers the answer at most after it (`ScanProgram.scoped_closingPieces`).
-/
namespace Rowscan

open Lua

/-! ## Names -/

/-- The names that programs use themselves: locals, functions and their fields, and the two floats
that are written as words. -/
def ScanProgram.ownNames : List String :=
  ["key", "allpks", "pks", "n", "v", "i", "x", "_", "pk", "redis", "call", "pcall", "ipairs",
    "tonumber", "string", "format", "inf", "NaN"]

/-- A condition reads the field behind a label. -/
inductive Condition.Reads (label : String) : Condition → Prop
  | equal (value : Literal) : Reads label (.equal label value)
  | compare (op : CompareOp) (value : Literal) (numeric : Bool) :
      Reads label (.compare label op value numeric)
  | negation {condition : Condition} (reads : Reads label condition) :
      Reads label (.negation condition)
  | conjunction {operand : Condition} {conditions : List Condition} (member : operand ∈ conditions)
      (reads : Reads label operand) : Reads label (.conjunction conditions)
  | disjunction {operand : Condition} {conditions : List Condition} (member : operand ∈ conditions)
      (reads : Reads label operand) : Reads label (.disjunction conditions)

/-! ## Locals -/

namespace Lua

/-- The word of a name. -/
def Token.name? : Token → Option String
  | .name word => some word
  | _ => none

/-- The names that are declared as locals, in order. -/
def declared : List Token → List String
  | [] => []
  | token :: rest =>
    (if token = .keyword "local" then (rest.head?.bind Token.name?).toList else []) ++ declared rest

/-- Tokens that declare these locals and name nothing but what is allowed. -/
structure Scoped (allowed : String → Prop) (tokens : List Token) (locals : List String) :
    Prop where
  closed : tokens.getLast? ≠ some (.keyword "local")
  declares : declared tokens = locals
  names : ∀ word, .name word ∈ tokens → allowed word

variable {allowed permitted : String → Prop} {first second : List Token}
variable {locals others : List String}

theorem declared_append (closed : first.getLast? ≠ some (.keyword "local")) :
    declared (first ++ second) = declared first ++ declared second := by
  induction first with
  | nil => rfl
  | cons token rest ih =>
    rw [List.cons_append, declared, declared]
    cases rest with
    | nil =>
      have other : token ≠ .keyword "local" := fun same => closed (congrArg some same)
      rw [if_neg other, if_neg other]
      rfl
    | cons next more =>
      rw [ih (by simpa using closed), List.append_assoc]
      rfl

namespace Scoped

theorem nil : Scoped allowed [] [] := ⟨nofun, rfl, nofun⟩

theorem append (before : Scoped allowed first locals) (after : Scoped allowed second others) :
    Scoped allowed (first ++ second) (locals ++ others) where
  closed := by
    have closed := after.closed
    rw [List.getLast?_append]
    cases ends : second.getLast? with
    | none => exact before.closed
    | some last =>
      rw [ends] at closed
      exact closed
  declares := by rw [declared_append before.closed, before.declares, after.declares]
  names word member := by
    rcases List.mem_append.1 member with early | late
    · exact before.names word early
    · exact after.names word late

theorem mono (within : Scoped allowed first locals)
    (wider : ∀ word, allowed word → permitted word) : Scoped permitted first locals :=
  ⟨within.closed, within.declares, fun word member => wider word (within.names word member)⟩

theorem flatMap {α : Type} {items : List α} {tokens : α → List Token} {locals : α → List String}
    (each : ∀ item ∈ items, Scoped allowed (tokens item) (locals item)) :
    Scoped allowed (items.flatMap tokens) (items.flatMap locals) := by
  induction items with
  | nil => exact .nil
  | cons item rest ih =>
    rw [List.flatMap_cons, List.flatMap_cons]
    exact (each item List.mem_cons_self).append
      (ih fun other member => each other (List.mem_cons_of_mem _ member))

/-- Tokens without the keyword declare nothing. -/
theorem of_undeclared (undeclared : .keyword "local" ∉ first)
    (names : ∀ word, .name word ∈ first → allowed word) : Scoped allowed first [] := by
  refine ⟨fun last => undeclared (List.mem_of_getLast? last), ?_, names⟩
  induction first with
  | nil => rfl
  | cons token rest ih =>
    rw [List.mem_cons, not_or] at undeclared
    rw [declared, if_neg (Ne.symm undeclared.1), List.nil_append]
    exact ih undeclared.2 fun word member => names word (List.mem_cons_of_mem _ member)

end Scoped

/-! ## Pieces -/

/-- Whether a piece is a raw expression. -/
def Piece.isRaw : Piece → Bool
  | .raw _ => true
  | _ => false

/-- There is no raw expression among the pieces. -/
def Unraw (pieces : List Piece) : Prop := ∀ expression, .raw expression ∉ pieces

theorem unraw_iff {pieces : List Piece} : Unraw pieces ↔ pieces.all (!·.isRaw) = true := by
  rw [List.all_eq_true]
  constructor
  · intro unraw piece member
    cases piece with
    | raw expression => exact absurd member (unraw expression)
    | _ => rfl
  · intro each expression member
    cases each _ member

instance (pieces : List Piece) : Decidable (Unraw pieces) := decidable_of_iff _ unraw_iff.symm

theorem Unraw.mono {pieces before : List Piece} (unraw : Unraw pieces) (among : before ⊆ pieces) :
    Unraw before := fun expression member => unraw expression (among member)

theorem Unraw.rawsAreWhole {pieces : List Piece} (unraw : Unraw pieces) : RawsAreWhole pieces := by
  intro piece member
  cases piece with
  | raw expression => exact absurd member (unraw expression)
  | _ => rfl

/-- Whether code declares these locals and names nothing but what programs use themselves. -/
def isOwn (source : String) (locals : List String) : Bool :=
  let tokens := Piece.tokens (.code source)
  tokens.getLast? != some (.keyword "local") && declared tokens == locals &&
    tokens.all fun token => token.name?.all ScanProgram.ownNames.contains

private theorem scoped_code {source : String} (own : isOwn source locals = true) :
    Scoped (· ∈ ScanProgram.ownNames) (tokensOf [.code source]) locals := by
  rw [tokensOf_singleton]
  simp only [isOwn, Bool.and_eq_true, bne_iff_ne, beq_iff_eq, List.all_eq_true] at own
  obtain ⟨⟨closed, declares⟩, names⟩ := own
  refine ⟨closed, declares, fun word member => ?_⟩
  exact List.contains_iff_mem.1 (names _ member)

private theorem scoped_quoted (text : String) : Scoped allowed (tokensOf [.quoted text]) [] :=
  .of_undeclared (by simp [tokensOf, Piece.tokens]) (by simp [tokensOf, Piece.tokens])

private theorem scoped_numeralTokens (text : String) : Scoped allowed (numeralTokens text) [] := by
  unfold numeralTokens
  split <;> exact .of_undeclared (by simp) (by simp)

private theorem scoped_numeral (text : String) : Scoped allowed (tokensOf [.numeral text]) [] := by
  rw [tokensOf_singleton]
  exact scoped_numeralTokens text

private theorem tokensOf_cons (piece : Piece) (rest : List Piece) :
    tokensOf (piece :: rest) = tokensOf [piece] ++ tokensOf rest := tokensOf_append [piece] rest

private theorem scoped_append {before after : List Piece}
    (first : Scoped allowed (tokensOf before) []) (second : Scoped allowed (tokensOf after) []) :
    Scoped allowed (tokensOf (before ++ after)) [] := by
  rw [tokensOf_append]
  exact first.append second

private theorem scoped_cons {piece : Piece} {rest : List Piece}
    (first : Scoped allowed (tokensOf [piece]) [])
    (second : Scoped allowed (tokensOf rest) locals) :
    Scoped allowed (tokensOf (piece :: rest)) locals := by
  rw [tokensOf_cons]
  exact first.append second

/-- Of several pieces the first declares locals. -/
theorem scoped_first {piece : Piece} {rest : List Piece}
    (first : Scoped allowed (tokensOf [piece]) locals)
    (second : Scoped allowed (tokensOf rest) []) :
    Scoped allowed (tokensOf (piece :: rest)) locals := by
  rw [tokensOf_cons, ← List.append_nil locals]
  exact first.append second

private theorem scoped_intercalate {between : List Piece} {parts : List (List Piece)}
    (word : Scoped allowed (tokensOf between) [])
    (each : ∀ part ∈ parts, Scoped allowed (tokensOf part) []) :
    Scoped allowed (tokensOf (between.intercalate parts)) [] := by
  induction parts with
  | nil => exact .nil
  | cons first rest ih =>
    have alone := each first List.mem_cons_self
    have later := ih fun part member => each part (List.mem_cons_of_mem _ member)
    cases rest with
    | nil => rwa [List.intercalate_singleton]
    | cons second more =>
      rw [List.intercalate_cons_cons]
      exact scoped_append (scoped_append alone word) later

/-- A label, and code after it that names nothing. -/
theorem scoped_label {label source : String} (named : IsName label)
    (always : AlwaysSpells [.code source]) (ends : ∀ rest, Ends (source.toList ++ rest))
    (own : isOwn source [] = true) :
    Scoped (fun word => word ∈ ScanProgram.ownNames ∨ word = label)
      (tokensOf [.code (label ++ source)]) [] := by
  rw [tokensOf_label named always ends]
  have name : Scoped (fun word => word ∈ ScanProgram.ownNames ∨ word = label) [.name label] [] :=
    .of_undeclared (by simp) (by simp)
  exact name.append ((scoped_code own).mono fun _ => .inl)

private theorem scoped_literal (value : Literal) (unraw : Unraw (literalPieces value)) :
    Scoped (· ∈ ScanProgram.ownNames) (tokensOf (literalPieces value)) [] := by
  cases value with
  | null => exact scoped_code (by decide +kernel)
  | bool value => exact scoped_quoted _
  | int value => exact scoped_quoted _
  | string text => exact scoped_quoted text
  | raw expression => exact absurd List.mem_cons_self (unraw expression)
  | float value =>
    cases finite : value.isFinite with
    | true =>
      have cut := tokens?_numeral (Double.isNumeral_text finite) ends_nil tokens?_nil
      rw [List.append_nil, List.append_nil] at cut
      rw [literalPieces, tokensOf_singleton, Piece.tokens, cut]
      exact scoped_numeralTokens value.text
    | false =>
      cases value with
      | nan => exact scoped_code (by decide +kernel)
      | infinite negative => cases negative <;> exact scoped_code (by decide +kernel)
      | finite negative units fits => cases finite

end Lua

/-! ## Conditions -/

namespace Condition

/-- What a condition names, other than what programs use themselves, are the labels that it
reads. -/
abbrev MayName (condition : Condition) (word : String) : Prop :=
  word ∈ ScanProgram.ownNames ∨ condition.Reads word

/-- The operands of a junction, in parentheses and with a word between them. -/
theorem scoped_junction {allowed : String → Prop} {word : String} {conditions : List Condition}
    (own : isOwn word [] = true) (wide : ∀ word ∈ ScanProgram.ownNames, allowed word)
    (each : ∀ condition ∈ conditions, Unraw condition.pieces →
      Scoped allowed (tokensOf condition.pieces) [])
    (unraw : Unraw ([.code word].intercalate (piecesEach conditions))) :
    Scoped allowed (tokensOf ([.code word].intercalate (piecesEach conditions))) [] := by
  refine scoped_intercalate ((scoped_code own).mono wide) fun part member => ?_
  have within := subset_intercalate [.code word] member
  obtain ⟨condition, operand, rfl⟩ := mem_piecesEach.1 member
  have opening : Scoped allowed (tokensOf [.code "("]) [] :=
    (scoped_code (by decide +kernel)).mono wide
  have closing : Scoped allowed (tokensOf [.code ")"]) [] :=
    (scoped_code (by decide +kernel)).mono wide
  have inner := each condition operand ((unraw.mono within).mono fun piece inside =>
    List.mem_cons_of_mem _ (List.mem_append_left _ inside))
  exact scoped_cons opening (scoped_append inner closing)

private theorem scoped_operator {label before : String} (named : IsName label) (op : CompareOp)
    (delimited : isDelimited (before ++ op.symbol ++ " ") = true)
    (ends : ∀ rest, Ends (before.toList ++ rest))
    (own : isOwn (before ++ op.symbol ++ " ") [] = true) :
    Scoped (fun word => word ∈ ScanProgram.ownNames ∨ word = label)
      (tokensOf [.code (label ++ (before ++ op.symbol ++ " "))]) [] := by
  refine scoped_label named (alwaysSpells_code delimited) (fun rest => ?_) own
  rw [String.append_assoc, String.toList_append, List.append_assoc]
  exact ends _

private theorem scoped_compare {label : String} (named : IsName label) (op : CompareOp)
    (value : Literal) (numeric : Bool) (unraw : Unraw (compare label op value numeric).pieces) :
    Scoped (compare label op value numeric).MayName
      (tokensOf (compare label op value numeric).pieces) [] := by
  have reads (word : String) (name : word ∈ ScanProgram.ownNames ∨ word = label) :
      (compare label op value numeric).MayName word := by
    rcases name with own | rfl
    · exact .inl own
    · exact .inr (.compare op value numeric)
  rw [pieces] at unraw ⊢
  split at unraw
  next isNumber =>
    have closed : isDelimited (") " ++ op.symbol ++ " ") = true := by cases op <;> decide +kernel
    have own : isOwn (") " ++ op.symbol ++ " ") [] = true := by cases op <;> decide +kernel
    have function : Scoped (· ∈ ScanProgram.ownNames) (tokensOf [.code "tonumber("]) [] :=
      scoped_code (by decide +kernel)
    have left := scoped_operator named op closed (fun _ => ends_cons (by decide)) own
    rw [if_pos isNumber]
    exact scoped_cons (function.mono fun _ => .inl)
      (scoped_cons (left.mono reads) (scoped_numeral value.text))
  next textual =>
    have apart : isDelimited (" " ++ op.symbol ++ " ") = true := by cases op <;> decide +kernel
    have own : isOwn (" " ++ op.symbol ++ " ") [] = true := by cases op <;> decide +kernel
    have left := scoped_operator named op apart (fun _ => ends_cons (by decide)) own
    have right := scoped_literal value (unraw.mono (List.subset_cons_self _ _))
    rw [if_neg textual]
    exact scoped_cons (left.mono reads) (right.mono fun _ => .inl)

/-- A labelled condition without raw expressions declares nothing, and names labels that it reads
besides what programs use themselves. -/
theorem IsLabelled.isScoped {condition : Condition} (labelled : condition.IsLabelled) :
    Unraw condition.pieces → Scoped condition.MayName (tokensOf condition.pieces) [] := by
  induction labelled with
  | empty => exact fun _ => .nil
  | constant value =>
    intro _
    cases value <;> exact (scoped_code (by decide +kernel)).mono fun _ => .inl
  | absent column =>
    intro _
    have opening : Scoped (· ∈ ScanProgram.ownNames)
        (tokensOf [.code "redis.call('HEXISTS',key .. ':a:' .. pk,"]) [] :=
      scoped_code (by decide +kernel)
    have closing : Scoped (· ∈ ScanProgram.ownNames) (tokensOf [.code ")==0"]) [] :=
      scoped_code (by decide +kernel)
    exact (scoped_cons opening (scoped_cons (scoped_quoted column) closing)).mono fun _ => .inl
  | equal named value =>
    intro unraw
    have left := scoped_label named alwaysSpells_equality (fun _ => ends_cons (by decide))
      (by decide +kernel)
    have right := scoped_literal value (unraw.mono (List.subset_cons_self _ _))
    refine scoped_cons (left.mono fun word name => ?_) (right.mono fun _ => .inl)
    rcases name with own | rfl
    · exact .inl own
    · exact .inr (.equal value)
  | compare named op value => exact scoped_compare named op value _
  | negation _ ih =>
    intro unraw
    have inner := ih (unraw.mono fun piece inside =>
      List.mem_cons_of_mem _ (List.mem_append_left _ inside))
    have opening : Scoped (· ∈ ScanProgram.ownNames) (tokensOf [.code "not ("]) [] :=
      scoped_code (by decide +kernel)
    have closing : Scoped (· ∈ ScanProgram.ownNames) (tokensOf [.code ")"]) [] :=
      scoped_code (by decide +kernel)
    exact scoped_cons (opening.mono fun _ => .inl) (scoped_append
      (inner.mono fun word name => name.imp_right .negation) (closing.mono fun _ => .inl))
  | conjunction _ ih =>
    refine scoped_junction (by decide +kernel) (fun _ => .inl) fun operand member unraw => ?_
    exact (ih operand member unraw).mono fun word name => name.imp_right (.conjunction member)
  | disjunction _ ih =>
    refine scoped_junction (by decide +kernel) (fun _ => .inl) fun operand member unraw => ?_
    exact (ih operand member unraw).mono fun word name => name.imp_right (.disjunction member)
  | raw expression => exact fun unraw => absurd List.mem_cons_self (unraw expression)

end Condition

/-! ## Programs -/

namespace ScanProgram

/-- The lines of a program before the test of its condition. -/
def openingPieces (program : ScanProgram) : List (List Piece) :=
  [.code "local key=", .quoted program.space.stem] :: candidatePieces program.order ++
    startPieces ++ program.columns.entries.map aliasPieces

/-- The lines of a program after the test of its condition. -/
def closingPieces (program : ScanProgram) : List (List Piece) :=
  [.code "        i=i+1"] :: (.code "        if " :: (windowPieces program.window ++
    [.code " then"])) :: (.code "            " :: accumulatePieces program.kind program.order) ::
      codeLines (["        end", "    end", "end"] ++ returnLines program.kind)

/-- The locals that gather an answer. -/
def kindLocals : Query.Kind → List String
  | .average _ | .min _ | .max _ => ["x"]
  | .all | .one | .count | .column _ | .sum _ => []

theorem kindLocals_own (kind : Query.Kind) : ∀ word ∈ kindLocals kind, word ∈ ownNames := by
  have gathers : ∀ word ∈ ["x"], word ∈ ownNames := by decide
  cases kind with
  | average name => exact gathers
  | min name => exact gathers
  | max name => exact gathers
  | _ => exact fun word member => absurd member List.not_mem_nil

theorem tokensOf_pieces (program : ScanProgram) : tokensOf program.pieces =
    program.openingPieces.flatMap tokensOf ++
      .keyword "if" :: (tokensOf program.condition.pieces ++
        .keyword "then" :: program.closingPieces.flatMap tokensOf) := by
  have ended (line : List Piece) : tokensOf (line ++ [.code "\n"]) = tokensOf line := by
    have blank : tokensOf [.code "\n"] = [] := by decide +kernel
    rw [tokensOf_append, blank, List.append_nil]
  have gathered : tokensOf program.pieces = program.linePieces.flatMap tokensOf := by
    rw [pieces, tokensOf, List.flatMap_assoc]
    exact congrArg (program.linePieces.flatMap ·) (funext ended)
  have test : tokensOf (.code "    if " :: (program.condition.pieces ++ [.code " then"])) =
      .keyword "if" :: (tokensOf program.condition.pieces ++ [.keyword "then"]) := by
    have before : tokensOf [.code "    if "] = [.keyword "if"] := by decide +kernel
    have after : tokensOf [.code " then"] = [.keyword "then"] := by decide +kernel
    rw [tokensOf_cons, tokensOf_append, before, after]
    rfl
  have lines : program.linePieces = program.openingPieces ++
      (.code "    if " :: (program.condition.pieces ++ [.code " then"])) ::
        program.closingPieces := by
    simp only [linePieces, openingPieces, closingPieces, matchPieces, codeLines, List.map_cons,
      List.append_assoc, List.cons_append, List.nil_append]
  rw [gathered, lines, List.flatMap_append, List.flatMap_cons, test, List.cons_append,
    List.append_assoc]
  rfl

private theorem scoped_codeLines {lines : List String}
    (own : ∀ line ∈ lines, isOwn line [] = true) :
    Scoped (· ∈ ownNames) ((codeLines lines).flatMap tokensOf) [] := by
  induction lines with
  | nil => exact .nil
  | cons line rest ih =>
    have first := scoped_code (own line List.mem_cons_self)
    exact first.append (ih fun other member => own other (List.mem_cons_of_mem _ member))

private theorem scoped_fieldPieces {before after : String} {locals : List String} (column : String)
    (opening : isOwn (before ++ fieldOpening) locals = true)
    (closing : isOwn (")" ++ after) [] = true) :
    Scoped (· ∈ ownNames) (tokensOf (fieldPieces before column after)) locals :=
  scoped_first (scoped_code opening)
    (scoped_cons (scoped_quoted column) (scoped_code closing))

private theorem scoped_sortPieces {before after : String} {locals : List String} (term : OrderTerm)
    (opening : isOwn (before ++ "'SORT',key,'BY',key .. ':a:*->' .. ") locals = true)
    (closing : ∀ direction : Direction,
      isOwn (",'" ++ direction.symbol ++ "'" ++ after) [] = true) :
    Scoped (· ∈ ownNames) (tokensOf (sortPieces before term after)) locals :=
  scoped_first (scoped_code opening)
    (scoped_cons (scoped_quoted term.column) (scoped_code (closing term.direction)))

private theorem scoped_candidatePieces (order : Option OrderTerm) :
    Scoped (· ∈ ownNames) ((candidatePieces order).flatMap tokensOf) ["allpks"] := by
  cases order with
  | none =>
    have line : Scoped (· ∈ ownNames)
        (tokensOf [.code "local allpks=redis.call('LRANGE',key,0,-1)"]) ["allpks"] :=
      scoped_code (by decide +kernel)
    exact line.append .nil
  | some term =>
    have first : Scoped (· ∈ ownNames)
        (tokensOf (sortPieces "local allpks=redis.pcall(" term ")")) ["allpks"] :=
      scoped_sortPieces term (by decide +kernel) fun direction => by
        cases direction <;> decide +kernel
    have test : Scoped (· ∈ ownNames) (tokensOf [.code "if allpks['err'] then"]) [] :=
      scoped_code (by decide +kernel)
    have second : Scoped (· ∈ ownNames)
        (tokensOf (sortPieces "    allpks=redis.call(" term ",'ALPHA')")) [] :=
      scoped_sortPieces term (by decide +kernel) fun direction => by
        cases direction <;> decide +kernel
    have ending : Scoped (· ∈ ownNames) (tokensOf [.code "end"]) [] :=
      scoped_code (by decide +kernel)
    exact first.append (test.append (second.append (ending.append .nil)))

private theorem scoped_startPieces :
    Scoped (· ∈ ownNames) (startPieces.flatMap tokensOf) ["pks", "n", "v", "i"] := by
  have rows : Scoped (· ∈ ownNames) (tokensOf [.code "local pks=\x7b\x7d"]) ["pks"] :=
    scoped_code (by decide +kernel)
  have count : Scoped (· ∈ ownNames) (tokensOf [.code "local n=0"]) ["n"] :=
    scoped_code (by decide +kernel)
  have value : Scoped (· ∈ ownNames) (tokensOf [.code "local v=nil"]) ["v"] :=
    scoped_code (by decide +kernel)
  have position : Scoped (· ∈ ownNames) (tokensOf [.code "local i=0"]) ["i"] :=
    scoped_code (by decide +kernel)
  have loop : Scoped (· ∈ ownNames) (tokensOf [.code "for _,pk in ipairs(allpks) do"]) [] :=
    scoped_code (by decide +kernel)
  exact rows.append (count.append (value.append (position.append (loop.append .nil))))

/-- The declaration of an alias. -/
theorem scoped_aliasPieces {entry : String × String} (named : IsName entry.2) :
    Scoped (fun word => word ∈ ownNames ∨ word = entry.2) (tokensOf (aliasPieces entry))
      [entry.2] := by
  have word : tokensOf [.code "    local "] = [.keyword "local"] := by decide +kernel
  have label : tokensOf [.code (entry.2 ++ ("=" ++ fieldOpening))] =
      .name entry.2 :: tokensOf [.code ("=" ++ fieldOpening)] :=
    tokensOf_label named (alwaysSpells_code (by decide +kernel)) fun _ => by
      rw [String.toList_append]
      exact ends_cons (by decide)
  have split : tokensOf (aliasPieces entry) = [.keyword "local", .name entry.2] ++
      tokensOf [.code ("=" ++ fieldOpening), .quoted entry.1, .code ")"] := by
    rw [aliasPieces, tokensOf_cons, tokensOf_cons (.code (entry.2 ++ _)), word, label]
    exact congrArg (.keyword "local" :: .name entry.2 :: ·) (tokensOf_cons _ _).symm
  have declares : Scoped (fun word => word ∈ ownNames ∨ word = entry.2)
      [.keyword "local", .name entry.2] [entry.2] := ⟨by simp, rfl, by simp⟩
  have field : Scoped (· ∈ ownNames)
      (tokensOf [.code ("=" ++ fieldOpening), .quoted entry.1, .code ")"]) [] :=
    scoped_cons (scoped_code (by decide +kernel))
      (scoped_cons (scoped_quoted entry.1) (scoped_code (by decide +kernel)))
  rw [split]
  exact declares.append (field.mono fun _ => .inl)

/-- Before its condition, a program declares its own locals and then the aliases. -/
theorem scoped_openingPieces {program : ScanProgram} (numbered : program.columns.Numbered) :
    Scoped (fun word => word ∈ ownNames ∨ program.columns.Names word)
      (program.openingPieces.flatMap tokensOf)
      (["key", "allpks", "pks", "n", "v", "i"] ++ program.columns.entries.map (·.2)) := by
  have key : Scoped (· ∈ ownNames) (tokensOf [.code "local key=", .quoted program.space.stem])
      ["key"] := scoped_first (scoped_code (by decide +kernel)) (scoped_quoted program.space.stem)
  have aliases : Scoped (fun word => word ∈ ownNames ∨ program.columns.Names word)
      ((program.columns.entries.map aliasPieces).flatMap tokensOf)
      (program.columns.entries.flatMap fun entry => [entry.2]) := by
    rw [List.flatMap_map]
    refine .flatMap fun entry member => ?_
    refine (scoped_aliasPieces (numbered.isName member)).mono fun word name => ?_
    rcases name with own | rfl
    · exact .inl own
    · exact .inr ⟨entry.1, member⟩
  have lines := (key.append (scoped_candidatePieces program.order)).append scoped_startPieces
  rw [← List.flatMap_singleton' (program.columns.entries.map (·.2)), List.flatMap_map]
  simp only [openingPieces, List.cons_append, List.flatMap_cons, List.flatMap_append,
    ← List.append_assoc]
  exact (lines.mono fun _ => .inl).append aliases

private theorem scoped_windowPieces (window : Window) :
    Scoped (· ∈ ownNames) (tokensOf (windowPieces window)) [] := by
  have first : Scoped (· ∈ ownNames) (tokensOf [.code "i>"]) [] := scoped_code (by decide +kernel)
  have bound : Scoped (· ∈ ownNames) (tokensOf [.code " and i<="]) [] :=
    scoped_code (by decide +kernel)
  unfold windowPieces
  split
  · exact scoped_cons first (scoped_numeral _)
  · exact scoped_cons first (scoped_cons (scoped_numeral _)
      (scoped_cons bound (scoped_numeral _)))

private theorem scoped_accumulatePieces (kind : Query.Kind) (order : Option OrderTerm) :
    Scoped (· ∈ ownNames) (tokensOf (accumulatePieces kind order)) (kindLocals kind) := by
  have number : isOwn ("local x=tonumber(" ++ fieldOpening) ["x"] = true := by decide +kernel
  cases kind with
  | all =>
    have own : isOwn ("n=n+1 pks[n]=" ++ rowSource) [] = true := by decide +kernel
    exact scoped_code own
  | one =>
    have first : isOwn ("do return " ++ rowSource ++ " end") [] = true := by decide +kernel
    have least : isOwn ("if n==0 then n=1 pks=" ++ rowSource ++ " end") [] = true := by
      decide +kernel
    cases order with
    | none => exact scoped_code first
    | some term => exact scoped_code least
  | count =>
    have own : isOwn "n=n+1" [] = true := by decide +kernel
    exact scoped_code own
  | column name =>
    have own : isOwn ("n=n+1 pks[n]=" ++ fieldOpening) [] = true := by decide +kernel
    exact scoped_fieldPieces name own (by decide +kernel)
  | sum name =>
    have own : isOwn ("n=n+(tonumber(" ++ fieldOpening) [] = true := by decide +kernel
    exact scoped_fieldPieces name own (by decide +kernel)
  | average name => exact scoped_fieldPieces name number (by decide +kernel)
  | min name => exact scoped_fieldPieces name number (by decide +kernel)
  | max name => exact scoped_fieldPieces name number (by decide +kernel)

private theorem isOwn_returnLines (kind : Query.Kind) :
    ∀ line ∈ returnLines kind, isOwn line [] = true := by
  have rows : ∀ line ∈ ["return pks"], isOwn line [] = true := by decide +kernel
  have sum : ∀ line ∈ ["return " ++ exactSource "n"], isOwn line [] = true := by decide +kernel
  have average : ∀ line ∈ ["if n==0 then return false end", "return " ++ exactSource "v/n"],
      isOwn line [] = true := by decide +kernel
  have extreme : ∀ line ∈ ["if v==nil then return false end", "return " ++ exactSource "v"],
      isOwn line [] = true := by decide +kernel
  have count : ∀ line ∈ ["return n"], isOwn line [] = true := by decide +kernel
  cases kind with
  | all => exact rows
  | one => exact rows
  | count => exact count
  | column name => exact rows
  | sum name => exact sum
  | average name => exact average
  | min name => exact extreme
  | max name => exact extreme

/-- After its condition, a program declares what gathers the answer at most. -/
theorem scoped_closingPieces (program : ScanProgram) :
    Scoped (· ∈ ownNames) (program.closingPieces.flatMap tokensOf) (kindLocals program.kind) := by
  have matched : Scoped (· ∈ ownNames) (tokensOf [.code "        i=i+1"]) [] :=
    scoped_code (by decide +kernel)
  have window : Scoped (· ∈ ownNames) (tokensOf
      (.code "        if " :: (windowPieces program.window ++ [.code " then"]))) [] :=
    scoped_cons (scoped_code (by decide +kernel))
      (scoped_append (scoped_windowPieces program.window) (scoped_code (by decide +kernel)))
  have gathers : Scoped (· ∈ ownNames) (tokensOf
      (.code "            " :: accumulatePieces program.kind program.order))
      (kindLocals program.kind) :=
    scoped_cons (scoped_code (by decide +kernel))
      (scoped_accumulatePieces program.kind program.order)
  have ends : ∀ line ∈ ["        end", "    end", "end"], isOwn line [] = true := by
    decide +kernel
  have after : Scoped (· ∈ ownNames) ((codeLines (["        end", "    end", "end"] ++
      returnLines program.kind)).flatMap tokensOf) [] :=
    scoped_codeLines fun line member =>
      (List.mem_append.1 member).elim (ends line) (isOwn_returnLines program.kind line)
  have whole := matched.append (window.append (gathers.append after))
  rw [List.append_nil] at whole
  exact whole

end ScanProgram
end Rowscan
