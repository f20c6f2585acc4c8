import Rowscan.Proofs.SourcePieces

/-!
The tokens of scan programs. Wherever a piece of a program stands, it is cut as it is on its own:
a text in quotes is one token with the bytes of the text, whatever the text holds
(`ScanProgram.tokens?_source`), and the texts of a program are in quotes
(`ScanProgram.quoted_of_mem_texts`). Raw expressions are not looked into; they have to be whole
tokens by themselves.
-/
namespace Rowscan

open Lua

namespace Lua

variable {pieces before after : List Piece}

theorem tokensOf_append (first second : List Piece) :
    tokensOf (first ++ second) = tokensOf first ++ tokensOf second := List.flatMap_append

/-- Before a break, pieces are cut into their tokens. -/
def Spells (pieces : List Piece) : Prop := LexesTo (charsOf pieces) (tokensOf pieces)

/-- Whatever follows them, pieces are cut into their tokens. -/
def AlwaysSpells (pieces : List Piece) : Prop := AlwaysLexesTo (charsOf pieces) (tokensOf pieces)

theorem AlwaysSpells.spells (always : AlwaysSpells pieces) : Spells pieces := always.lexesTo

private theorem alwaysSpells_nil : AlwaysSpells [] := fun _ _ others => others

theorem AlwaysSpells.append (first : AlwaysSpells before) (second : AlwaysSpells after) :
    AlwaysSpells (before ++ after) := by
  rw [AlwaysSpells, charsOf_append, tokensOf_append]
  exact AlwaysLexesTo.append first second

theorem AlwaysSpells.append_spells (first : AlwaysSpells before) (second : Spells after) :
    Spells (before ++ after) := by
  rw [Spells, charsOf_append, tokensOf_append]
  exact AlwaysLexesTo.append_lexesTo first second

theorem Spells.append (first : Spells before) (second : Spells after)
    (breaks : ∀ rest, Breaks (charsOf after ++ rest)) : Spells (before ++ after) := by
  rw [Spells, charsOf_append, tokensOf_append]
  exact LexesTo.append first second breaks

theorem Spells.append_always (first : Spells before) (second : AlwaysSpells after)
    (breaks : ∀ rest, Breaks (charsOf after ++ rest)) : AlwaysSpells (before ++ after) := by
  rw [AlwaysSpells, charsOf_append, tokensOf_append]
  exact LexesTo.append_always first second breaks

theorem AlwaysSpells.intercalate {parts : List (List Piece)} (between : AlwaysSpells before)
    (each : ∀ part ∈ parts, AlwaysSpells part) : AlwaysSpells (before.intercalate parts) := by
  induction parts with
  | nil => exact alwaysSpells_nil
  | cons first rest ih =>
    have alone := each first List.mem_cons_self
    have others := ih fun part member => each part (List.mem_cons_of_mem _ member)
    cases rest with
    | nil => rwa [List.intercalate_singleton]
    | cons second more =>
      rw [List.intercalate_cons_cons]
      exact (alone.append between).append others

/-! ## Single pieces -/

/-- Whether a text is cut into tokens on its own. -/
def isWhole (source : String) : Bool := (tokens? source.toList).isSome

private theorem charsOf_singleton (piece : Piece) : charsOf [piece] = piece.source.toList :=
  List.append_nil _

theorem tokensOf_singleton (piece : Piece) : tokensOf [piece] = piece.tokens := List.append_nil _

private theorem alwaysSpells_quoted (text : String) : AlwaysSpells [.quoted text] := by
  rw [AlwaysSpells, charsOf_singleton, tokensOf_singleton]
  exact fun _ _ others => tokens?_quote text others

private theorem breaks_quoted (text : String) (rest : List Char) :
    Breaks (charsOf [.quoted text] ++ rest) := by
  have spelled : charsOf [.quoted text] =
      '\'' :: (text.toList.flatMap escapeChar ++ ['\'']) := by
    rw [charsOf_singleton, Piece.source, quote, String.toList_ofList, List.cons_append]
  rw [spelled]
  exact breaks_cons (by decide)

private theorem alwaysSpells_of_lexes {source : String} {tokens : List Token}
    (always : AlwaysLexesTo source.toList tokens) : AlwaysSpells [.code source] := by
  have own : Piece.tokens (.code source) = tokens := by
    rw [Piece.tokens, always.tokens?, Option.getD_some]
  rwa [AlwaysSpells, charsOf_singleton, tokensOf_singleton, own]

theorem alwaysSpells_code {source : String} (delimited : isDelimited source = true) :
    AlwaysSpells [.code source] := by
  obtain ⟨tokens, always⟩ := always_of_isDelimited delimited
  exact alwaysSpells_of_lexes always

private theorem spells_code {source : String} (whole : isWhole source = true) :
    Spells [.code source] := by
  obtain ⟨tokens, cut⟩ := Option.isSome_iff_exists.1 whole
  have own : Piece.tokens (.code source) = tokens := by
    rw [Piece.tokens, cut, Option.getD_some]
  rw [Spells, charsOf_singleton, tokensOf_singleton, own]
  exact lexesTo_of_tokens? cut

private theorem spells_raw {expression : String} (whole : isWhole expression = true) :
    Spells [.raw expression] := spells_code whole

private theorem spells_numeral {text : String} (isNumber : isNumeral text = true) :
    Spells [.numeral text] := by
  rw [Spells, charsOf_singleton, tokensOf_singleton]
  exact fun _ _ breaks others => tokens?_numeral isNumber breaks.ends others

private theorem isWhole_numeral {text : String} (isNumber : isNumeral text = true) :
    isWhole text = true := by
  have cut := tokens?_numeral isNumber ends_nil tokens?_nil
  rw [List.append_nil] at cut
  rw [isWhole, cut, Option.isSome_some]

section Label

variable {label source : String} (named : IsName label) (always : AlwaysSpells [.code source])
variable (ends : ∀ rest, Ends (source.toList ++ rest))
include named always ends

/-- A name, and code after it that does not go on with it. -/
theorem alwaysLexes_label :
    AlwaysLexesTo (label ++ source).toList (.name label :: tokensOf [.code source]) := by
  rw [AlwaysSpells, charsOf_singleton] at always
  intro rest tail others
  rw [String.toList_append, List.append_assoc]
  exact tokens?_name named (ends rest) (always rest tail others)

private theorem alwaysSpells_label : AlwaysSpells [.code (label ++ source)] :=
  alwaysSpells_of_lexes (alwaysLexes_label named always ends)

theorem tokensOf_label :
    tokensOf [.code (label ++ source)] = .name label :: tokensOf [.code source] := by
  have lexed := (alwaysLexes_label named always ends).tokens?
  rw [tokensOf_singleton (.code (label ++ source)), Piece.tokens, lexed, Option.getD_some]

end Label

private theorem alwaysSpells_parenthesised (spells : Spells pieces) :
    AlwaysSpells (.code "(" :: (pieces ++ [.code ")"])) :=
  have opening : AlwaysSpells [.code "("] := alwaysSpells_code (by decide +kernel)
  have closing : AlwaysSpells [.code ")"] := alwaysSpells_code (by decide +kernel)
  opening.append (spells.append_always closing fun _ => breaks_cons (by decide))

/-! ## Conditions -/

/-- Whether a piece, if it is a raw expression, is cut into tokens on its own. -/
def Piece.rawIsWhole : Piece → Bool
  | .raw expression => isWhole expression
  | _ => true

/-- The raw expressions among the pieces are cut into tokens on their own. -/
def RawsAreWhole (pieces : List Piece) : Prop := ∀ piece ∈ pieces, piece.rawIsWhole = true

instance (pieces : List Piece) : Decidable (RawsAreWhole pieces) :=
  inferInstanceAs (Decidable (∀ piece ∈ pieces, piece.rawIsWhole = true))

theorem RawsAreWhole.mono (whole : RawsAreWhole pieces) (among : before ⊆ pieces) :
    RawsAreWhole before := fun piece member => whole piece (among member)

private theorem isWhole_text (value : Double) : isWhole value.text = true := by
  cases finite : value.isFinite with
  | true => exact isWhole_numeral (Double.isNumeral_text finite)
  | false =>
    cases value with
    | nan => decide +kernel
    | infinite negative => cases negative <;> decide +kernel
    | finite negative units fits => cases finite

private theorem spells_literal (value : Literal) (whole : RawsAreWhole (literalPieces value)) :
    Spells (literalPieces value) := by
  cases value with
  | null => exact spells_code (by decide +kernel)
  | bool value => exact (alwaysSpells_quoted _).spells
  | int value => exact (alwaysSpells_quoted _).spells
  | float value => exact spells_code (isWhole_text value)
  | string text => exact (alwaysSpells_quoted text).spells
  | raw expression => exact spells_raw (whole _ List.mem_cons_self)

theorem subset_intercalate (between : List Piece) {part : List Piece} {parts : List (List Piece)}
    (member : part ∈ parts) : part ⊆ between.intercalate parts := by
  induction parts with
  | nil => cases member
  | cons first rest ih =>
    cases rest with
    | nil =>
      rw [List.mem_singleton.1 member, List.intercalate_singleton]
      exact List.Subset.refl _
    | cons second more =>
      rw [List.intercalate_cons_cons]
      rcases List.mem_cons.1 member with rfl | later
      · exact fun piece inside => List.mem_append_left _ (List.mem_append_left _ inside)
      · exact fun piece inside => List.mem_append_right _ (ih later inside)

end Lua

/-- The text of a literal that is one. -/
def Literal.texts : Literal → List String
  | .string text => [text]
  | _ => []

private theorem quoted_literalPieces {value : Literal} {text : String}
    (member : text ∈ value.texts) :
    .quoted text ∈ literalPieces value := by
  cases value with
  | string own =>
    rw [List.mem_singleton.1 member]
    exact List.mem_cons_self
  | _ => cases member

namespace Condition

theorem mem_piecesEach {conditions : List Condition} {part : List Piece} :
    part ∈ piecesEach conditions ↔ ∃ condition ∈ conditions,
      part = .code "(" :: (condition.pieces ++ [.code ")"]) := by
  induction conditions with
  | nil => simp [piecesEach]
  | cons condition rest ih => rw [piecesEach, List.mem_cons, ih, List.exists_mem_cons_iff]

mutual

/-- The columns that a condition tests for, and the texts that it compares with as texts. -/
def texts : Condition → List String
  | .absent column => [column]
  | .equal _ value => value.texts
  | .compare _ _ value numeric => if numeric then [] else value.texts
  | .negation condition => texts condition
  | .conjunction conditions => textsEach conditions
  | .disjunction conditions => textsEach conditions
  | _ => []
termination_by structural condition => condition

/-- The texts of several conditions. -/
def textsEach : List Condition → List String
  | [] => []
  | condition :: rest => texts condition ++ textsEach rest
termination_by structural conditions => conditions

end

mutual

theorem quoted_of_mem_texts {text : String} : (condition : Condition) →
    text ∈ condition.texts → .quoted text ∈ condition.pieces
  | .empty, member => by cases member
  | .constant _, member => by cases member
  | .absent column, member => by
    rw [texts, List.mem_singleton] at member
    simp [pieces, member]
  | .equal _ value, member => List.mem_cons_of_mem _ (quoted_literalPieces member)
  | .compare _ _ value numeric, member => by
    rw [texts] at member
    rw [pieces]
    split at member
    next => cases member
    next textual =>
      rw [if_neg textual]
      exact List.mem_cons_of_mem _ (quoted_literalPieces member)
  | .negation condition, member => by
    have inside := quoted_of_mem_texts condition member
    exact List.mem_cons_of_mem _ (List.mem_append_left _ inside)
  | .conjunction conditions, member => by
    obtain ⟨part, listed, inside⟩ := quoted_of_mem_textsEach conditions member
    exact subset_intercalate _ listed inside
  | .disjunction conditions, member => by
    obtain ⟨part, listed, inside⟩ := quoted_of_mem_textsEach conditions member
    exact subset_intercalate _ listed inside
  | .raw _, member => by cases member

private theorem quoted_of_mem_textsEach {text : String} : (conditions : List Condition) →
    text ∈ textsEach conditions → ∃ part ∈ piecesEach conditions, .quoted text ∈ part
  | [], member => by cases member
  | condition :: rest, member => by
    rw [textsEach, List.mem_append] at member
    rw [piecesEach]
    rcases member with first | later
    · have inside := quoted_of_mem_texts condition first
      exact ⟨_, List.mem_cons_self, List.mem_cons_of_mem _ (List.mem_append_left _ inside)⟩
    · obtain ⟨part, listed, inside⟩ := quoted_of_mem_textsEach rest later
      exact ⟨part, List.mem_cons_of_mem _ listed, inside⟩

end

/-- The operands of a junction with a word between them. -/
theorem spells_junction {word : String} {conditions : List Condition}
    (delimited : isDelimited word = true)
    (each : ∀ condition ∈ conditions, RawsAreWhole condition.pieces → Spells condition.pieces)
    (whole : RawsAreWhole ([.code word].intercalate (piecesEach conditions))) :
    Spells ([.code word].intercalate (piecesEach conditions)) := by
  refine ((alwaysSpells_code delimited).intercalate fun part member => ?_).spells
  have within := whole.mono (subset_intercalate [.code word] member)
  obtain ⟨condition, operand, rfl⟩ := mem_piecesEach.1 member
  exact alwaysSpells_parenthesised (each condition operand (within.mono fun piece inside =>
    List.mem_cons_of_mem _ (List.mem_append_left _ inside)))

theorem alwaysSpells_equality : AlwaysSpells [.code "=="] := by
  have sign : AlwaysLexesTo "==".toList [.symbol "=="] := fun _ _ others => tokens?_equal others
  exact alwaysSpells_of_lexes sign

private theorem spells_equal {label : String} (named : IsName label) (value : Literal)
    (whole : RawsAreWhole (equal label value).pieces) : Spells (equal label value).pieces := by
  have left := alwaysSpells_label named alwaysSpells_equality fun _ => ends_cons (by decide)
  exact left.append_spells (spells_literal value (whole.mono (List.subset_cons_self _ _)))

/-- A label up to the number or the text that it is compared with. -/
theorem alwaysSpells_operator {label before : String} (named : IsName label) (op : CompareOp)
    (delimited : isDelimited (before ++ op.symbol ++ " ") = true)
    (ends : ∀ rest, Ends (before.toList ++ rest)) :
    AlwaysSpells [.code (label ++ (before ++ op.symbol ++ " "))] := by
  refine alwaysSpells_label named (alwaysSpells_code delimited) fun rest => ?_
  rw [String.append_assoc, String.toList_append, List.append_assoc]
  exact ends _

private theorem spells_compare {label : String} (named : IsName label) (op : CompareOp)
    (value : Literal) (whole : RawsAreWhole (compare label op value value.isNumeric).pieces) :
    Spells (compare label op value value.isNumeric).pieces := by
  rw [pieces] at whole ⊢
  split at whole
  next numeric =>
    have closed : isDelimited (") " ++ op.symbol ++ " ") = true := by cases op <;> decide +kernel
    have left := alwaysSpells_operator named op closed fun _ => ends_cons (by decide)
    have function : AlwaysSpells [.code "tonumber("] := alwaysSpells_code (by decide +kernel)
    rw [if_pos numeric]
    exact (function.append left).append_spells (spells_numeral (isNumeral_text numeric))
  next textual =>
    have apart : isDelimited (" " ++ op.symbol ++ " ") = true := by cases op <;> decide +kernel
    have left := alwaysSpells_operator named op apart fun _ => ends_cons (by decide)
    rw [if_neg textual]
    exact left.append_spells (spells_literal value (whole.mono (List.subset_cons_self _ _)))

/-- Before a break, a labelled condition is cut into the tokens of its pieces. -/
theorem IsLabelled.spells {condition : Condition} (labelled : condition.IsLabelled) :
    RawsAreWhole condition.pieces → Spells condition.pieces := by
  induction labelled with
  | empty => exact fun _ => alwaysSpells_nil.spells
  | constant value => cases value <;> exact fun _ => spells_code (by decide +kernel)
  | absent column =>
    have opening : AlwaysSpells [.code "redis.call('HEXISTS',key .. ':a:' .. pk,"] :=
      alwaysSpells_code (by decide +kernel)
    have closing : Spells [.code ")==0"] := spells_code (by decide +kernel)
    exact fun _ => (opening.append (alwaysSpells_quoted column)).append_spells closing
  | equal named value => exact spells_equal named value
  | compare named op value => exact spells_compare named op value
  | negation _ ih =>
    intro whole
    have word : AlwaysSpells [.code "not ("] := alwaysSpells_code (by decide +kernel)
    have closing : AlwaysSpells [.code ")"] := alwaysSpells_code (by decide +kernel)
    have inner := ih (whole.mono fun piece inside =>
      List.mem_cons_of_mem _ (List.mem_append_left _ inside))
    exact (word.append (inner.append_always closing fun _ => breaks_cons (by decide))).spells
  | conjunction _ ih => exact spells_junction (by decide +kernel) ih
  | disjunction _ ih => exact spells_junction (by decide +kernel) ih
  | raw expression => exact fun whole => spells_raw (whole _ List.mem_cons_self)

end Condition

namespace ScanProgram

/-! ## Programs -/

private theorem spells_codeLines {lines : List String} (whole : lines.all isWhole = true) :
    ∀ line ∈ codeLines lines, Spells line := by
  intro line member
  obtain ⟨source, among, rfl⟩ := List.mem_map.1 member
  exact spells_code (List.all_eq_true.1 whole source among)

private theorem spells_fieldPieces {before after : String} (column : String)
    (opening : isDelimited (before ++ fieldOpening) = true)
    (closing : isWhole (")" ++ after) = true) : Spells (fieldPieces before column after) :=
  ((alwaysSpells_code opening).append (alwaysSpells_quoted column)).append_spells
    (spells_code closing)

private theorem spells_candidatePieces (order : Option OrderTerm) :
    ∀ line ∈ candidatePieces order, Spells line := by
  cases order with
  | none => exact spells_codeLines (by decide +kernel)
  | some term =>
    obtain ⟨column, direction⟩ := term
    have sorting {before after : String} (opening : isDelimited
          (before ++ "'SORT',key,'BY',key .. ':a:*->' .. ") = true)
        (closing : ∀ direction : Direction,
          isWhole (",'" ++ direction.symbol ++ "'" ++ after) = true) :
        Spells (sortPieces before ⟨column, direction⟩ after) :=
      ((alwaysSpells_code opening).append (alwaysSpells_quoted column)).append_spells
        (spells_code (closing direction))
    intro line member
    simp only [candidatePieces, List.mem_cons, List.not_mem_nil, or_false] at member
    rcases member with rfl | rfl | rfl | rfl
    · exact sorting (by decide +kernel) fun direction => by cases direction <;> decide +kernel
    · exact spells_code (by decide +kernel)
    · exact sorting (by decide +kernel) fun direction => by cases direction <;> decide +kernel
    · exact spells_code (by decide +kernel)

/-- The sign is a symbol of its own unless a longer symbol goes on after it. -/
theorem next?_greater {rest : List Char} (stops : ∀ c ∈ rest.head?, c ∉ ['.', '=']) :
    next? ('>' :: rest) = some (.symbol ">", rest) := by
  have alone : readSymbol? ['>'] = some (.symbol ">", []) := by decide +kernel
  exact readSymbol?_before stops (List.cons_ne_nil _ _) alone

private theorem isNumeral_toString (n : Nat) : isNumeral (toString n) = true := by
  rw [isNumeral]
  exact Option.isSome_iff_exists.2 ⟨_, Numeral.read?_toString n⟩

/-- The position, compared with a number. -/
theorem spells_after (n : Nat) : Spells [.code "i>", .numeral (toString n)] := by
  intro rest tail breaks others
  have stops : ∀ c ∈ ((toString n).toList ++ rest).head?, c ∉ ['.', '='] := by
    intro c front
    rw [Nat.toString_eq_repr, Nat.toList_repr, List.head?_append_of_ne_nil _ Nat.toDigits_ne_nil]
      at front
    have digit := Numeral.isDigit_toDigits n c (List.mem_of_mem_head? front)
    intro sign
    simp only [List.mem_cons, List.not_mem_nil, or_false] at sign
    rcases sign with rfl | rfl <;> cases digit
  have number := tokens?_numeral (isNumeral_toString n) breaks.ends others
  have position (more : List Char) : next? ('i' :: '>' :: more) = some (.name "i", '>' :: more) :=
    rfl
  have whole := tokens?_token (position _) (tokens?_token (next?_greater stops) number)
  have own : Piece.tokens (.code "i>") = [.name "i", .symbol ">"] := by decide +kernel
  have spelled : charsOf [.code "i>", .numeral (toString n)] = 'i' :: '>' :: (toString n).toList := by
    rw [charsOf_cons, charsOf_singleton]
    rfl
  have cut : tokensOf [.code "i>", .numeral (toString n)] =
      .name "i" :: .symbol ">" :: numeralTokens (toString n) := by
    rw [tokensOf, List.flatMap_cons, own, List.flatMap_singleton]
    rfl
  rw [spelled, cut]
  exact whole

/-- The second bound of a window, up to its number. -/
theorem alwaysSpells_bound : AlwaysSpells [.code " and i<="] := by
  have lexes : AlwaysLexesTo " and i<=".toList [.keyword "and", .name "i", .symbol "<="] := by
    intro rest tail others
    have sign (more : List Char) : next? ('<' :: '=' :: more) = some (.symbol "<=", more) := rfl
    have position (more : List Char) :
      next? ('i' :: '<' :: more) = some (.name "i", '<' :: more) := rfl
    have word (more : List Char) : next? ("and".toList ++ ' ' :: more) =
      some (.keyword "and", ' ' :: more) := rfl
    exact tokens?_space (tokens?_token (word _) (tokens?_space (tokens?_token (position _)
      (tokens?_token (sign _) others))))
  exact alwaysSpells_of_lexes lexes

private theorem spells_windowPieces (window : Window) : Spells (windowPieces window) := by
  have first := spells_after window.offset
  unfold windowPieces
  split
  · exact first
  next last _ =>
    have bounded := first.append_always alwaysSpells_bound fun _ => breaks_cons (by decide)
    exact bounded.append_spells (spells_numeral (isNumeral_toString last))

private theorem spells_accumulatePieces (kind : Query.Kind) (order : Option OrderTerm) :
    Spells (accumulatePieces kind order) := by
  have number : isDelimited ("local x=tonumber(" ++ fieldOpening) = true := by decide +kernel
  cases kind with
  | all =>
    have whole : isWhole ("n=n+1 pks[n]=" ++ rowSource) = true := by decide +kernel
    exact spells_code whole
  | one =>
    have first : isWhole ("do return " ++ rowSource ++ " end") = true := by decide +kernel
    have least : isWhole ("if n==0 then n=1 pks=" ++ rowSource ++ " end") = true := by
      decide +kernel
    cases order with
    | none => exact spells_code first
    | some term => exact spells_code least
  | count =>
    have whole : isWhole "n=n+1" = true := by decide +kernel
    exact spells_code whole
  | column name => exact spells_fieldPieces name (by decide +kernel) (by decide +kernel)
  | sum name => exact spells_fieldPieces name (by decide +kernel) (by decide +kernel)
  | average name => exact spells_fieldPieces name number (by decide +kernel)
  | min name => exact spells_fieldPieces name number (by decide +kernel)
  | max name => exact spells_fieldPieces name number (by decide +kernel)

private theorem spells_aliasPieces {entry : String × String} (named : IsName entry.2) :
    Spells (aliasPieces entry) := by
  have word : AlwaysSpells [.code "    local "] := alwaysSpells_code (by decide +kernel)
  have opening : AlwaysSpells [.code ("=" ++ fieldOpening)] := alwaysSpells_code (by decide +kernel)
  have label := alwaysSpells_label named opening fun _ => by
    rw [String.toList_append]
    exact ends_cons (by decide)
  exact ((word.append label).append (alwaysSpells_quoted entry.1)).append_spells
    (spells_code (by decide +kernel))

/-- A line of a test, up to the word after it. -/
theorem spells_test {word : String} {test : List Piece} (delimited : isDelimited word = true)
    (spells : Spells test) : Spells (.code word :: (test ++ [.code " then"])) := by
  have after : Spells [.code " then"] := spells_code (by decide +kernel)
  exact (alwaysSpells_code delimited).append_spells
    (spells.append after fun _ => breaks_cons (by decide))

private theorem spells_matchPieces {program : ScanProgram} (labelled : program.condition.IsLabelled)
    (whole : RawsAreWhole program.condition.pieces) :
    ∀ line ∈ matchPieces program, Spells line := by
  intro line member
  simp only [matchPieces, List.mem_cons, List.not_mem_nil, or_false] at member
  rcases member with rfl | rfl | rfl | rfl | rfl | rfl | rfl
  · exact spells_test (by decide +kernel) (labelled.spells whole)
  · exact spells_code (by decide +kernel)
  · exact spells_test (by decide +kernel) (spells_windowPieces program.window)
  · have blank : AlwaysSpells [.code "            "] := alwaysSpells_code (by decide +kernel)
    exact blank.append_spells (spells_accumulatePieces program.kind program.order)
  · exact spells_code (by decide +kernel)
  · exact spells_code (by decide +kernel)
  · exact spells_code (by decide +kernel)

private theorem all_isWhole_returnLines (kind : Query.Kind) :
    (returnLines kind).all isWhole = true := by
  have rows : ["return pks"].all isWhole = true := by decide +kernel
  have sum : ["return " ++ exactSource "n"].all isWhole = true := by decide +kernel
  have average : ["if n==0 then return false end", "return " ++ exactSource "v/n"].all isWhole =
    true := by decide +kernel
  have extreme : ["if v==nil then return false end", "return " ++ exactSource "v"].all isWhole =
    true := by decide +kernel
  cases kind with
  | all => exact rows
  | one => exact rows
  | count => decide +kernel
  | column name => exact rows
  | sum name => exact sum
  | average name => exact average
  | min name => exact extreme
  | max name => exact extreme

private theorem spells_startPieces : ∀ line ∈ startPieces, Spells line := by
  unfold startPieces
  exact spells_codeLines (by decide +kernel)

private theorem spells_linePieces {program : ScanProgram} (labelled : program.condition.IsLabelled)
    (numbered : program.columns.Numbered) (whole : RawsAreWhole program.condition.pieces) :
    ∀ line ∈ program.linePieces, Spells line := by
  intro line member
  have opening : Spells [.code "local key="] := spells_code (by decide +kernel)
  simp only [linePieces, List.cons_append, List.mem_cons, List.mem_append, or_assoc] at member
  rcases member with rfl | candidate | start | declared | matched | returned
  · exact (opening.append_always (alwaysSpells_quoted _) (breaks_quoted _)).spells
  · exact spells_candidatePieces program.order line candidate
  · exact spells_startPieces line start
  · obtain ⟨entry, registered, rfl⟩ := List.mem_map.1 declared
    exact spells_aliasPieces (numbered.isName registered)
  · exact spells_matchPieces labelled whole line matched
  · exact spells_codeLines (all_isWhole_returnLines program.kind) line returned

/-- Lines that are cut into their tokens are so one after another. -/
theorem alwaysSpells_lines {lines : List (List Piece)} (each : ∀ line ∈ lines, Spells line) :
    AlwaysSpells (lines.flatMap fun line => line ++ [.code "\n"]) := by
  induction lines with
  | nil => exact alwaysSpells_nil
  | cons line rest ih =>
    have ending : AlwaysSpells [.code "\n"] := alwaysSpells_code (by decide +kernel)
    -- The end of the line breaks off whatever token the line ends with.
    have ended := (each line List.mem_cons_self).append_always ending
      fun _ => breaks_cons (by decide)
    rw [List.flatMap_cons]
    exact ended.append (ih fun other member => each other (List.mem_cons_of_mem _ member))

/-! ### What is quoted -/

theorem mem_pieces {program : ScanProgram} {line : List Piece} {piece : Piece}
    (listed : line ∈ program.linePieces) (inside : piece ∈ line) : piece ∈ program.pieces :=
  List.mem_flatMap.2 ⟨line, listed, List.mem_append_left _ inside⟩

theorem test_mem_linePieces (program : ScanProgram) :
    .code "    if " :: (program.condition.pieces ++ [.code " then"]) ∈ program.linePieces := by
  simp [linePieces, matchPieces]

/-- The column that an answer is read from. -/
def kindTexts : Query.Kind → List String
  | .column name | .sum name | .average name | .min name | .max name => [name]
  | .all | .one | .count => []

/-- The texts of a program that are to be quoted: its prefix, its columns, and the texts that its
condition compares with. -/
def texts (program : ScanProgram) : List String :=
  program.space.stem :: (program.order.toList.map (·.column) ++
    program.columns.entries.map (·.1) ++ program.condition.texts ++ kindTexts program.kind)

private theorem quoted_kindTexts {kind : Query.Kind} {text : String}
    (member : text ∈ kindTexts kind)
    (order : Option OrderTerm) : .quoted text ∈ accumulatePieces kind order := by
  cases kind <;> simp_all [kindTexts, accumulatePieces, fieldPieces]

/-- Every text that is to be quoted is. -/
theorem quoted_of_mem_texts {program : ScanProgram} {text : String}
    (member : text ∈ program.texts) : .quoted text ∈ program.pieces := by
  simp only [texts, List.mem_cons, List.mem_append, List.mem_map, Option.mem_toList, or_assoc]
    at member
  rcases member with rfl | ⟨term, ordered, rfl⟩ | ⟨entry, registered, rfl⟩ | compared | answered
  · have first : [.code "local key=", .quoted program.space.stem] ∈ program.linePieces := by
      simp [linePieces]
    exact mem_pieces first (by simp)
  · have sorts : sortPieces "local allpks=redis.pcall(" term ")" ∈ program.linePieces := by
      simp [linePieces, candidatePieces, ordered]
    exact mem_pieces sorts (by simp [sortPieces])
  · have declares : aliasPieces entry ∈ program.linePieces := by
      simp only [linePieces, List.cons_append, List.mem_cons, List.mem_append]
      exact .inr (.inl (.inl (.inr (List.mem_map_of_mem registered))))
    exact mem_pieces declares (by simp [aliasPieces])
  · exact mem_pieces (test_mem_linePieces program)
      (by simp [Condition.quoted_of_mem_texts program.condition compared])
  · have gathers : .code "            " :: accumulatePieces program.kind program.order ∈
        program.linePieces := by
      simp [linePieces, matchPieces]
    exact mem_pieces gathers (List.mem_cons_of_mem _ (quoted_kindTexts answered _))

/-- The source of a program is cut into the tokens of its pieces, as long as its raw expressions
are whole tokens by themselves. -/
theorem tokens?_source {space : KeySpace} {query : Query} {kind : Query.Kind}
    {program : ScanProgram} (built : ofQuery space query kind = .ok program)
    (whole : RawsAreWhole program.pieces) :
    tokens? program.source.toList = some (tokensOf program.pieces) := by
  obtain ⟨labelled, numbered⟩ := ofQuery_labelled built
  -- Only the line of the condition can have raw expressions in it.
  have among : program.condition.pieces ⊆ program.pieces := by
    intro piece inside
    exact mem_pieces (test_mem_linePieces program) (by simp [inside])
  rw [toList_source]
  exact (alwaysSpells_lines (spells_linePieces labelled numbered (whole.mono among))).tokens?

/-- Reading a quoted text takes exactly the quotes and what is in them, whatever follows, and gives
the bytes of the text. So every text that a program holds in quotes is one token with that content,
and in quotes are the prefix, the columns and the texts that a condition compares with. Numerals in
ordering comparisons are put in as they stand, as raw expressions are. -/
theorem quoted_texts :
    (∀ (text : String) (rest : List Char),
      next? ((quote text).toList ++ rest) = some (.string (Text.utf8 text), rest)) ∧
      ∀ (space : KeySpace) (query : Query) (kind : Query.Kind) (program : ScanProgram),
        ofQuery space query kind = .ok program →
          (∀ text ∈ program.texts, .quoted text ∈ program.pieces) ∧
            program.source.toList = charsOf program.pieces ∧
            (RawsAreWhole program.pieces →
              tokens? program.source.toList = some (tokensOf program.pieces)) := by
  refine ⟨next?_quote, fun space query kind program built => ⟨?_, ?_, ?_⟩⟩
  · exact fun text member => quoted_of_mem_texts member
  · exact program.toList_source
  · exact tokens?_source built

/-- A query with apostrophes, backslashes and line ends in its texts. -/
def apostrophes : Query :=
  { filter := some (.disjunction [.hash [("it's", .value (.string "' or '"))], .raw "1==1"])
    order := [⟨"end'\n", .ascending⟩] }

theorem quoted_texts_apostrophes : ∃ program,
    ofQuery ⟨"t'"⟩ apostrophes (.column "a\\'b") = .ok program ∧ RawsAreWhole program.pieces ∧
      tokens? program.source.toList = some (tokensOf program.pieces) := by
  have checked : ∃ program, ofQuery ⟨"t'"⟩ apostrophes (.column "a\\'b") = .ok program ∧
      RawsAreWhole program.pieces := ⟨_, rfl, by decide +kernel⟩
  obtain ⟨program, built, whole⟩ := checked
  exact ⟨program, built, whole, (quoted_texts.2 _ _ _ program built).2.2 whole⟩

/-- A numeral in an ordering comparison is no string token, and a raw expression can leave a quote
open. -/
theorem unquoted_numeral :
    (∃ program tokens,
      ofQuery ⟨"t"⟩ { filter := some (.compare .greater "age" (.string "5")) } .count =
        .ok program ∧
      tokens? program.source.toList = some tokens ∧
      .numeral "5" ∈ tokens ∧ .string (Text.utf8 "5") ∉ tokens) ∧
      ∃ program,
        ofQuery ⟨"t"⟩ { filter := some (.raw "'") } .count = .ok program ∧
        tokens? program.source.toList = none := by
  constructor
  · have checked : ∃ program,
        ofQuery ⟨"t"⟩ { filter := some (.compare .greater "age" (.string "5")) } .count =
          .ok program ∧ RawsAreWhole program.pieces ∧
        .numeral "5" ∈ tokensOf program.pieces ∧
        .string (Text.utf8 "5") ∉ tokensOf program.pieces := ⟨_, rfl, by decide +kernel⟩
    obtain ⟨program, built, whole, bare, unquoted⟩ := checked
    exact ⟨program, _, built, tokens?_source built whole, bare, unquoted⟩
  · refine ⟨_, rfl, ?_⟩
    rw [toList_source]
    decide +kernel

end ScanProgram

end Rowscan
