import Rowscan.Condition.Basic
import Rowscan.Proofs.FilterForms
import Rowscan.Proofs.LuaExpressions
import Rowscan.Proofs.ShortestDigits

/-!
Conditions as Lua expressions. The text of a sound condition is cut into the tokens of the condition
(`IsSound.lexes`), and these are parsed as the tree of the condition (`IsSound.parses`): parentheses
keep junctions apart, names stay names and texts stay inside their quotes. One thing goes wrong. A
numeral is put into comparisons as it stands, and the language has no sign `+` before an operand, so
a condition with such a numeral is no expression at all (`IsSound.parse?_render`).
-/
namespace Rowscan

open Lua

/-! ## The tree of a condition -/

namespace Lua

/-- The tokens of a numeral: its sign is a token of its own. -/
def numeralTokens (text : String) : List Token :=
  match text.toList with
  | '-' :: body => [.symbol "-", .numeral (String.ofList body)]
  | '+' :: body => [.symbol "+", .numeral (String.ofList body)]
  | body => [.numeral (String.ofList body)]

/-- The number that a numeral stands for. -/
def numeralExpression (text : String) : Expression :=
  match text.toList with
  | '-' :: body => .unary .minus (.numeral (String.ofList body))
  | '+' :: body => .numeral (String.ofList body)
  | body => .numeral (String.ofList body)

/-- The tokens of a literal: floats are numerals, and other values are quoted. -/
def literalTokens : Literal → List Token
  | .null => [.keyword "nil"]
  | .float value => numeralTokens value.text
  | literal => [.string (Text.utf8 literal.text)]

/-- The value of a literal. -/
def literalExpression : Literal → Expression
  | .null => .nil
  | .float value => numeralExpression value.text
  | literal => .string (Text.utf8 literal.text)

/-- An ordering comparison as an operator. -/
def comparison : CompareOp → BinaryOp
  | .greater => .greater
  | .greaterOrEqual => .greaterOrEqual
  | .less => .less
  | .lessOrEqual => .lessOrEqual

/-- The key of the row at hand. -/
def rowKeyTokens : List Token :=
  [.name "key", .symbol "..", .string (Text.utf8 ":a:"), .symbol "..", .name "pk"]

/-- The key of the row at hand. -/
def rowKeyExpression : Expression :=
  .binary .concat (.name "key") (.binary .concat (.string (Text.utf8 ":a:")) (.name "pk"))

/-- A call of a function of the server. -/
def serverCall (arguments : List Expression) : Expression :=
  .call (.index (.name "redis") (.string (Text.utf8 "call"))) arguments

/-- Whether the row at hand has a field. -/
def existsExpression (column : String) : Expression :=
  serverCall [.string (Text.utf8 "HEXISTS"), rowKeyExpression, .string (Text.utf8 column)]

end Lua

/-- Whether a literal is a numeral with the sign `+`. -/
def Literal.hasPlus : Literal → Bool
  | .string text => isNumeral text && text.toList.head? == some '+'
  | _ => false

namespace Condition

mutual

/-- The tokens of a condition. -/
def tokens : Condition → List Token
  | .empty => []
  | .constant value => [.keyword (if value then "true" else "false")]
  | .absent column =>
    [.name "redis", .symbol ".", .name "call", .symbol "(", .string (Text.utf8 "HEXISTS"),
      .symbol ","] ++ rowKeyTokens ++
      [.symbol ",", .string (Text.utf8 column), .symbol ")", .symbol "==", .numeral "0"]
  | .equal label value => .name label :: .symbol "==" :: literalTokens value
  | .compare label op value numeric =>
    if numeric then
      [.name "tonumber", .symbol "(", .name label, .symbol ")", .symbol op.symbol] ++
        numeralTokens value.text
    else .name label :: .symbol op.symbol :: literalTokens value
  | .negation condition => .keyword "not" :: .symbol "(" :: (tokens condition ++ [.symbol ")"])
  | .conjunction conditions => [.keyword "and"].intercalate (tokensEach conditions)
  | .disjunction conditions => [.keyword "or"].intercalate (tokensEach conditions)
  | .raw _ => []
termination_by structural condition => condition

/-- The tokens of the operands of a junction, each in parentheses. -/
def tokensEach : List Condition → List (List Token)
  | [] => []
  | condition :: rest => (.symbol "(" :: (tokens condition ++ [.symbol ")"])) :: tokensEach rest
termination_by structural conditions => conditions

end

mutual

/-- The expression that a condition stands for. An empty condition and a raw one have none of their
own. -/
def expression : Condition → Expression
  | .empty => .nil
  | .constant value => .bool value
  | .absent column => .binary .equal (existsExpression column) (.numeral "0")
  | .equal label value => .binary .equal (.name label) (literalExpression value)
  | .compare label op value numeric =>
    if numeric then
      .binary (comparison op) (.call (.name "tonumber") [.name label])
        (numeralExpression value.text)
    else .binary (comparison op) (.name label) (literalExpression value)
  | .negation condition => .unary .not (expression condition)
  | .conjunction conditions => BinaryOp.and.join (expressions conditions)
  | .disjunction conditions => BinaryOp.or.join (expressions conditions)
  | .raw _ => .nil
termination_by structural condition => condition

/-- The expressions of several conditions. -/
def expressions : List Condition → List Expression
  | [] => []
  | condition :: rest => expression condition :: expressions rest
termination_by structural conditions => conditions

end

mutual

/-- Whether a condition compares with a numeral with the sign `+`. -/
def hasPlus : Condition → Bool
  | .compare _ _ value _ => value.hasPlus
  | .negation condition => hasPlus condition
  | .conjunction conditions => anyHasPlus conditions
  | .disjunction conditions => anyHasPlus conditions
  | _ => false
termination_by structural condition => condition

/-- Whether one of several conditions does. -/
def anyHasPlus : List Condition → Bool
  | [] => false
  | condition :: rest => hasPlus condition || anyHasPlus rest
termination_by structural conditions => conditions

end

end Condition

namespace Lua

/-- A word that is not reserved. -/
def IsName (word : String) : Prop := IsWord word ∧ word ∉ keywords

end Lua

/-- The conditions that filters without patterns and without raw parts are compiled to: labels are
names, values are data, comparisons are numeric exactly for numeric values, and junctions have
operands. -/
inductive Condition.IsSound : Condition → Prop
  | constant (value : Bool) : IsSound (.constant value)
  | absent (column : String) : IsSound (.absent column)
  | equal {label : String} {value : Literal} (named : IsName label) (data : value.isData = true) :
      IsSound (.equal label value)
  | compare {label : String} {value : Literal} (named : IsName label) (op : CompareOp)
      (data : value.isData = true) : IsSound (.compare label op value value.isNumeric)
  | negation {condition : Condition} (sound : IsSound condition) : IsSound (.negation condition)
  | conjunction {conditions : List Condition} (operands : conditions ≠ [])
      (each : ∀ condition ∈ conditions, IsSound condition) : IsSound (.conjunction conditions)
  | disjunction {conditions : List Condition} (operands : conditions ≠ [])
      (each : ∀ condition ∈ conditions, IsSound condition) : IsSound (.disjunction conditions)

/-! ## The tokens of a text -/

namespace Lua

/-- What stands after a condition: nothing, or a closing parenthesis. -/
def Closes (text : List Char) : Prop := text = [] ∨ ∃ more, text = ')' :: more

theorem Closes.ends {text : List Char} (closes : Closes text) : Ends text := by
  rcases closes with rfl | ⟨more, rfl⟩
  · exact ends_nil
  · exact ends_cons (by decide)

section Pieces

variable {text : List Char} {tail : List Token}

theorem IsName.wordToken {word : String} (named : IsName word) :
    Lua.wordToken word = .name word := by
  have free : keywords.contains word = false := by simpa using named.2
  rw [Lua.wordToken, free, if_neg Bool.false_ne_true]

theorem tokens?_name {word : String} (named : IsName word) (ends : Ends text)
    (others : tokens? text = some tail) :
    tokens? (word.toList ++ text) = some (.name word :: tail) := by
  have found := next?_word named.1 ends
  rw [named.wordToken] at found
  exact tokens?_token found others

private theorem tokens?_keyword {word : String} (reserved : word ∈ keywords) (ends : Ends text)
    (others : tokens? text = some tail) :
    tokens? (word.toList ++ text) = some (.keyword word :: tail) := by
  have found := next?_word (isWord_of_mem_keywords reserved) ends
  have held : keywords.contains word = true := by simpa using reserved
  rw [wordToken, if_pos held] at found
  exact tokens?_token found others

theorem tokens?_quote (content : String) (others : tokens? text = some tail) :
    tokens? ((quote content).toList ++ text) = some (.string (Text.utf8 content) :: tail) :=
  tokens?_token (next?_quote content text) others

theorem tokens?_numeral {numeral : String} (isNumber : isNumeral numeral = true)
    (ends : Ends text) (others : tokens? text = some tail) :
    tokens? (numeral.toList ++ text) = some (numeralTokens numeral ++ tail) := by
  obtain ⟨parsed, read⟩ := Option.isSome_iff_exists.1 isNumber
  obtain ⟨body, spelled, unsigned, bodyRead⟩ := sign_cases read
  obtain ⟨number, readBody⟩ := Option.isSome_iff_exists.1 bodyRead
  have rest := tokens?_token (next?_numeral ends unsigned readBody) others
  rcases spelled with signed | signed | same
  · have sign : next? ('-' :: (body ++ text)) = some (.symbol "-", body ++ text) := by
      obtain ⟨front, back, rfl, -, starts, -⟩ := parts_of_read? unsigned readBody
      rw [List.append_assoc]
      exact next?_minus (startsNumeral_append starts _)
    rw [numeralTokens, signed]
    exact tokens?_token sign rest
  · have sign : next? ('+' :: (body ++ text)) = some (.symbol "+", body ++ text) := rfl
    rw [numeralTokens, signed]
    exact tokens?_token sign rest
  · rw [numeralTokens, same]
    split
    next => cases unsigned
    next => cases unsigned
    next => exact rest

private theorem tokens?_literal {value : Literal} (data : value.isData = true)
    (closes : Closes text) (others : tokens? text = some tail) :
    tokens? ((ofLiteral value).toList ++ text) = some (literalTokens value ++ tail) := by
  cases value with
  | null => exact tokens?_keyword (by decide) closes.ends others
  | float value => exact tokens?_numeral (Double.isNumeral_text data) closes.ends others
  | raw expression => cases data
  | bool value => exact tokens?_quote _ others
  | int value => exact tokens?_quote _ others
  | string text => exact tokens?_quote _ others

private theorem tokens?_comparison (op : CompareOp) (others : tokens? text = some tail) :
    tokens? (op.symbol.toList ++ ' ' :: text) = some (.symbol op.symbol :: tail) := by
  have found : next? (op.symbol.toList ++ ' ' :: text) = some (.symbol op.symbol, ' ' :: text) := by
    cases op <;> rfl
  exact tokens?_token found (tokens?_space others)

theorem tokens?_open (others : tokens? text = some tail) :
    tokens? ('(' :: text) = some (.symbol "(" :: tail) := by
  have found : next? ('(' :: text) = some (.symbol "(", text) := rfl
  exact tokens?_token found others

theorem tokens?_close (others : tokens? text = some tail) :
    tokens? (')' :: text) = some (.symbol ")" :: tail) := by
  have found : next? (')' :: text) = some (.symbol ")", text) := rfl
  exact tokens?_token found others

theorem tokens?_comma (others : tokens? text = some tail) :
    tokens? (',' :: text) = some (.symbol "," :: tail) := by
  have found : next? (',' :: text) = some (.symbol ",", text) := rfl
  exact tokens?_token found others

theorem tokens?_equal (others : tokens? text = some tail) :
    tokens? ("==".toList ++ text) = some (.symbol "==" :: tail) := by
  have found : next? ("==".toList ++ text) = some (.symbol "==", text) := rfl
  exact tokens?_token found others

/-- The start of a call of a function of the server. -/
theorem tokens?_serverCall (others : tokens? text = some tail) :
    tokens? ("redis".toList ++ '.' :: ("call".toList ++ '(' :: text)) =
      some (.name "redis" :: .symbol "." :: .name "call" :: .symbol "(" :: tail) := by
  have server : next? ("redis".toList ++ '.' :: ("call".toList ++ '(' :: text)) =
    some (.name "redis", '.' :: ("call".toList ++ '(' :: text)) := rfl
  have dot : next? ('.' :: ("call".toList ++ '(' :: text)) =
    some (.symbol ".", "call".toList ++ '(' :: text) := rfl
  have function : next? ("call".toList ++ '(' :: text) = some (.name "call", '(' :: text) := rfl
  exact tokens?_token server (tokens?_token dot (tokens?_token function (tokens?_open others)))

/-- The key of the row at hand, before a comma. -/
theorem tokens?_rowKey (others : tokens? (',' :: text) = some tail) :
    tokens? ("key .. ':a:' .. pk".toList ++ ',' :: text) = some (rowKeyTokens ++ tail) := by
  have pk : next? ("pk".toList ++ ',' :: text) = some (.name "pk", ',' :: text) := rfl
  have second (more : List Char) : next? ("..".toList ++ ' ' :: more) =
    some (.symbol "..", ' ' :: more) := rfl
  have quoted (more : List Char) : next? ("':a:'".toList ++ more) =
    some (.string (Text.utf8 ":a:"), more) := next?_quote ":a:" more
  have key (more : List Char) : next? ("key".toList ++ ' ' :: more) =
    some (.name "key", ' ' :: more) := rfl
  exact tokens?_token (key _) (tokens?_space (tokens?_token (second _) (tokens?_space
    (tokens?_token (quoted _) (tokens?_space (tokens?_token (second _) (tokens?_space
      (tokens?_token pk others))))))))

end Pieces

end Lua

namespace Condition

theorem render_absent (column : String) : (absent column).render =
    "redis.call('HEXISTS',key .. ':a:' .. pk," ++ quote column ++ ")==0" := rfl

theorem render_equal (label : String) (value : Literal) :
    (equal label value).render = label ++ "==" ++ ofLiteral value := rfl

theorem render_compare (label : String) (op : CompareOp) (value : Literal) (numeric : Bool) :
    (compare label op value numeric).render =
      if numeric then "tonumber(" ++ label ++ ") " ++ op.symbol ++ " " ++ value.text
      else label ++ " " ++ op.symbol ++ " " ++ ofLiteral value := rfl

theorem render_negation (condition : Condition) :
    (negation condition).render = "not (" ++ condition.render ++ ")" := rfl

theorem render_conjunction (conditions : List Condition) :
    (conjunction conditions).render = String.intercalate " and " (renderAll conditions) := rfl

theorem render_disjunction (conditions : List Condition) :
    (disjunction conditions).render = String.intercalate " or " (renderAll conditions) := rfl

private theorem renderAll_cons (condition : Condition) (rest : List Condition) :
    renderAll (condition :: rest) = ("(" ++ condition.render ++ ")") :: renderAll rest := rfl

/-- Before what closes a condition, its text is cut into its tokens. -/
def Lexes (condition : Condition) : Prop :=
  ∀ text tail, Closes text → tokens? text = some tail →
    tokens? (condition.render.toList ++ text) = some (condition.tokens ++ tail)

section Texts

variable {condition : Condition} {text : List Char} {tail : List Token}

private theorem lexes_parenthesised (lexes : condition.Lexes) (others : tokens? text = some tail) :
    tokens? ('(' :: (condition.render.toList ++ ')' :: text)) =
      some (.symbol "(" :: (condition.tokens ++ .symbol ")" :: tail)) :=
  tokens?_open (lexes _ _ (.inr ⟨text, rfl⟩) (tokens?_close others))

private theorem lexes_absent (column : String) : (absent column).Lexes := by
  intro text tail closes others
  have test : tokens? ((quote column).toList ++ ')' :: ("==".toList ++ ("0".toList ++ text))) =
      some (.string (Text.utf8 column) :: .symbol ")" :: .symbol "==" :: .numeral "0" :: tail) :=
    tokens?_quote column (tokens?_close (tokens?_equal
      (tokens?_numeral (by decide) closes.ends others)))
  have call := tokens?_serverCall (tokens?_quote "HEXISTS" (tokens?_comma
    (tokens?_rowKey (tokens?_comma test))))
  have opening : "redis.call('HEXISTS',key .. ':a:' .. pk,".toList = "redis".toList ++ '.' ::
      ("call".toList ++ '(' :: ((quote "HEXISTS").toList ++ ',' ::
        ("key .. ':a:' .. pk".toList ++ [',']))) := by
    simp [quote, escapeChar]
  have closing : ")==0".toList = ')' :: ("==".toList ++ "0".toList) := by decide
  rw [render_absent, tokens, String.toList_append, String.toList_append, opening, closing]
  simpa only [List.append_assoc, List.cons_append, List.nil_append] using call

private theorem lexes_constant (value : Bool) : (constant value).Lexes := by
  intro text tail closes others
  cases value with
  | true => exact tokens?_keyword (by decide) closes.ends others
  | false => exact tokens?_keyword (by decide) closes.ends others

private theorem lexes_equal {label : String} {value : Literal} (named : IsName label)
    (data : value.isData = true) : (equal label value).Lexes := by
  intro text tail closes others
  have right := tokens?_equal (tokens?_literal data closes others)
  have ends : Ends ("==".toList ++ ((ofLiteral value).toList ++ text)) := ends_cons (by decide)
  rw [render_equal, String.toList_append, String.toList_append, List.append_assoc,
    List.append_assoc]
  exact tokens?_name named ends right

/-- A numeric literal is a numeral as it stands. -/
theorem isNumeral_text {value : Literal} (numeric : value.isNumeric = true) :
    isNumeral value.text = true := by
  cases value with
  | int value => exact isNumeral_int value
  | float value => exact Double.isNumeral_text numeric
  | string text => exact numeric
  | null => cases numeric
  | bool value => cases numeric
  | raw expression => cases numeric

private theorem lexes_compareNumbers {label : String} {value : Literal} (named : IsName label)
    (op : CompareOp) (numeric : value.isNumeric = true) : (compare label op value true).Lexes := by
  intro text tail closes others
  have right :=
    tokens?_comparison op (tokens?_numeral (isNumeral_text numeric) closes.ends others)
  have left := tokens?_name named (ends_cons (by decide)) (tokens?_close (tokens?_space right))
  have function (more : List Char) : next? ("tonumber".toList ++ '(' :: more) =
    some (.name "tonumber", '(' :: more) := rfl
  have call := tokens?_token (function _) (tokens?_open left)
  have opening : "tonumber(".toList = "tonumber".toList ++ ['('] := by decide
  have closing : ") ".toList = [')', ' '] := by decide
  have blank : " ".toList = [' '] := by decide
  rw [render_compare, tokens, if_pos rfl, if_pos rfl]
  simpa only [String.toList_append, opening, closing, blank, List.append_assoc, List.cons_append,
    List.nil_append] using call

private theorem lexes_compareTexts {label : String} {value : Literal} (named : IsName label)
    (op : CompareOp) (data : value.isData = true) : (compare label op value false).Lexes := by
  intro text tail closes others
  have right := tokens?_comparison op (tokens?_literal data closes others)
  have left := tokens?_name named (ends_cons (by decide)) (tokens?_space right)
  have blank : " ".toList = [' '] := by decide
  rw [render_compare, tokens, if_neg Bool.false_ne_true, if_neg Bool.false_ne_true]
  simpa only [String.toList_append, blank, List.append_assoc, List.cons_append,
    List.nil_append] using left

private theorem lexes_compare {label : String} {value : Literal} (named : IsName label)
    (op : CompareOp)
    (data : value.isData = true) : (compare label op value value.isNumeric).Lexes := by
  cases numeric : value.isNumeric with
  | true => exact lexes_compareNumbers named op numeric
  | false => exact lexes_compareTexts named op data

private theorem lexes_negation (lexes : condition.Lexes) : (negation condition).Lexes := by
  intro text tail _ others
  have inner := tokens?_space (lexes_parenthesised lexes others)
  have word := tokens?_keyword (by decide : "not" ∈ keywords) (ends_cons (by decide)) inner
  have opening : "not (".toList = "not".toList ++ [' ', '('] := by decide
  have closing : ")".toList = [')'] := by decide
  rw [render_negation, tokens]
  simpa only [String.toList_append, opening, closing, List.append_assoc, List.cons_append,
    List.nil_append] using word

/-- The operands of a junction with a word between them. -/
theorem lexes_junction {word : String} (reserved : word ∈ keywords) {conditions : List Condition}
    (operands : conditions ≠ []) (each : ∀ condition ∈ conditions, condition.Lexes)
    (others : tokens? text = some tail) :
    tokens? ((' ' :: (word.toList ++ [' '])).intercalate
        ((renderAll conditions).map String.toList) ++ text) =
      some ([.keyword word].intercalate (tokensEach conditions) ++ tail) := by
  have opening : "(".toList = ['('] := by decide
  have closing : ")".toList = [')'] := by decide
  induction conditions with
  | nil => exact absurd rfl operands
  | cons condition rest ih =>
    have first := each condition List.mem_cons_self
    cases rest with
    | nil =>
      have only := lexes_parenthesised first others
      rw [renderAll_cons, List.map_cons, tokensEach]
      simpa only [renderAll, tokensEach, List.map_nil, List.intercalate_singleton,
        String.toList_append, opening, closing, List.append_assoc, List.cons_append,
        List.nil_append] using only
    | cons second more =>
      have later := ih (List.cons_ne_nil _ _) fun condition member =>
        each condition (List.mem_cons_of_mem _ member)
      have joined := lexes_parenthesised first (tokens?_space (tokens?_keyword reserved
        (ends_cons (by decide)) (tokens?_space later)))
      rw [renderAll_cons, List.map_cons, tokensEach, renderAll_cons, List.map_cons, tokensEach,
        List.intercalate_cons_cons, List.intercalate_cons_cons]
      rw [renderAll_cons, List.map_cons, tokensEach] at joined
      simpa only [String.toList_append, opening, closing, List.append_assoc, List.cons_append,
        List.nil_append] using joined

/-- The text of a sound condition is cut into its tokens. -/
theorem IsSound.lexes {condition : Condition} (sound : condition.IsSound) : condition.Lexes := by
  induction sound with
  | constant value => exact lexes_constant value
  | absent column => exact lexes_absent column
  | equal named data => exact lexes_equal named data
  | compare named op data => exact lexes_compare named op data
  | negation _ ih => exact lexes_negation ih
  | conjunction operands _ ih =>
    intro text tail _ others
    have word : " and ".toList = ' ' :: ("and".toList ++ [' ']) := by decide
    rw [render_conjunction, String.toList_intercalate, word]
    exact lexes_junction (by decide) operands ih others
  | disjunction operands _ ih =>
    intro text tail _ others
    have word : " or ".toList = ' ' :: ("or".toList ++ [' ']) := by decide
    rw [render_disjunction, String.toList_intercalate, word]
    exact lexes_junction (by decide) operands ih others

end Texts

end Condition

/-! ## The tree of the tokens -/

/-- No sign `+` is written before a float. -/
theorem Double.head?_text {x : Double} (finite : x.isFinite = true) :
    x.text.toList.head? ≠ some '+' := by
  cases x with
  | nan => cases finite
  | infinite negative => cases finite
  | finite negative units fits =>
    rw [text, Layout.write, String.toList_ofList]
    cases negative with
    | true => exact fun same => absurd (Option.some.inj same) (by decide)
    | false =>
      -- After another sign the magnitude is still a numeral, so it has no sign of its own.
      obtain ⟨n, read, -⟩ := read?_magnitude fits true
      obtain ⟨body, spelled, unsigned, -⟩ := Lua.sign_cases read
      intro front
      rcases spelled with same | same | same
      · obtain rfl := List.tail_eq_of_cons_eq same
        cases magnitude : Layout.plain.magnitude units with
        | nil =>
          rw [magnitude] at front
          cases front
        | cons c rest =>
          rw [magnitude] at front unsigned
          cases front
          cases unsigned
      · cases same
      · rw [← same] at unsigned
        cases unsigned

theorem Numeral.head?_toString (n : Int) : (toString n).toList.head? ≠ some '+' := by
  obtain ⟨first, rest, digits⟩ :=
    List.exists_cons_of_ne_nil (Nat.toDigits_ne_nil (b := 10) (n := n.natAbs))
  have digit : first.isDigit = true := by
    apply isDigit_toDigits n.natAbs
    simp [digits]
  rw [toList_toString, digits]
  intro front
  cases negative : decide (n < 0) with
  | true =>
    rw [negative] at front
    cases front
  | false =>
    rw [negative] at front
    cases front
    cases digit

namespace Literal

private theorem hasPlus_text {value : Literal} (numeric : value.isNumeric = true) :
    (value.text.toList.head? == some '+') = value.hasPlus := by
  cases value with
  | string written =>
    have numeral : isNumeral written = true := numeric
    rw [hasPlus, numeral, Bool.true_and, text]
  | int value => exact beq_eq_false_iff_ne.2 (Numeral.head?_toString value.toInt)
  | float value => exact beq_eq_false_iff_ne.2 (Double.head?_text numeric)
  | null => cases numeric
  | bool value => cases numeric
  | raw expression => cases numeric

private theorem hasPlus_of_not_numeric {value : Literal} (other : value.isNumeric = false) :
    value.hasPlus = false := by
  cases value with
  | string written =>
    have numeral : isNumeral written = false := other
    rw [hasPlus, numeral, Bool.false_and]
  | _ => rfl

end Literal

namespace Lua

section Operands

variable {rest : List Token}

/-- A token that is an operand of its own is read where an expression stops. -/
theorem expressionAbove?_value {token : Token} {value : Expression} (stops : Stops rest)
    (unsigned : unary? (token :: rest) = none)
    (single : ∀ room, operand? (room + 1) (token :: rest) = some (value, rest)) (room limit : Nat) :
    expressionAbove? (room + 2) limit (token :: rest) = some (value, rest) := by
  rw [expressionAbove?_operand unsigned (single room)]
  exact operatorsAbove?_stop (stops.binaryAbove? limit)

/-- A numeral is an operand with its sign, unless that is `+`. -/
theorem expressionAbove?_numeral (text : String) (stops : Stops rest) (room limit : Nat) :
    expressionAbove? (room + 3) limit (numeralTokens text ++ rest) =
      if text.toList.head? == some '+' then none else some (numeralExpression text, rest) := by
  have single (body : String) (room limit : Nat) :
      expressionAbove? (room + 2) limit (.numeral body :: rest) = some (.numeral body, rest) :=
    expressionAbove?_value stops rfl (fun _ => rfl) room limit
  unfold numeralTokens numeralExpression
  split
  next body spelled =>
    have minus : unary? (.symbol "-" :: .numeral (String.ofList body) :: rest) =
      some (.minus, .numeral (String.ofList body) :: rest) := rfl
    rw [spelled, List.cons_append, List.singleton_append, expressionAbove?, minus]
    dsimp only
    rw [single]
    exact operatorsAbove?_stop (stops.binaryAbove? limit)
  next body spelled =>
    rw [spelled, List.cons_append, expressionAbove?_refused rfl rfl]
    rfl
  next minus plus =>
    have other : (text.toList.head? == some '+') = false := by
      cases spelled : text.toList with
      | nil => rfl
      | cons c more =>
        rw [List.head?_cons, beq_eq_false_iff_ne]
        intro same
        cases same
        exact plus more spelled
    rw [other, if_neg Bool.false_ne_true, List.singleton_append, single]

private theorem expressionAbove?_literal {value : Literal} (data : value.isData = true)
    (stops : Stops rest) (room limit : Nat) :
    expressionAbove? (room + 3) limit (literalTokens value ++ rest) =
      some (literalExpression value, rest) := by
  cases value with
  | null => exact expressionAbove?_value stops rfl (fun _ => rfl) _ _
  | float value =>
    have unsigned : (value.text.toList.head? == some '+') = false :=
      beq_eq_false_iff_ne.2 (Double.head?_text data)
    rw [literalTokens, expressionAbove?_numeral value.text stops, unsigned]
    rfl
  | raw expression => cases data
  | bool value => exact expressionAbove?_value stops rfl (fun _ => rfl) _ _
  | int value => exact expressionAbove?_value stops rfl (fun _ => rfl) _ _
  | string text => exact expressionAbove?_value stops rfl (fun _ => rfl) _ _

/-- A comparison is parsed as its two sides, if the right side is. -/
theorem expressionAbove?_comparison {op : BinaryOp} {tokens after : List Token}
    {left : Expression} {right : Option Expression} {room : Nat} (weak : op.leftPriority = 3)
    (stops : Stops rest) (unsigned : unary? tokens = none)
    (first : operand? (room + 1) tokens = some (left, op.token :: after))
    (next : expressionAbove? room op.rightPriority after = right.map fun right => (right, rest))
    (some : 0 < room) : expressionAbove? (room + 2) 0 tokens =
      right.map fun right => (.binary op left right, rest) := by
  have tight : 0 < op.leftPriority := by
    rw [weak]
    decide
  rw [expressionAbove?_operand unsigned first]
  cases right with
  | none => exact operatorsAbove?_refused tight next
  | some right =>
    obtain ⟨more, rfl⟩ := Nat.exists_eq_add_of_lt some
    rw [operatorsAbove?_binary tight next]
    exact operatorsAbove?_stop (stops.binaryAbove? 0)

end Operands

end Lua

namespace Condition

/-- Where an expression stops, the tokens of a condition are parsed as its expression, unless a
numeral has a sign `+`; then they are not parsed. -/
def Parses (condition : Condition) : Prop :=
  ∀ room rest, 2 * condition.tokens.length + 2 ≤ room → Stops rest →
    expressionAbove? room 0 (condition.tokens ++ rest) =
      if condition.hasPlus then none else some (condition.expression, rest)

section Trees

variable {condition : Condition} {rest : List Token}

private theorem parses_constant (value : Bool) : (constant value).Parses := by
  intro room rest enough stops
  obtain ⟨more, rfl⟩ := Nat.exists_eq_add_of_le' (by omega : 2 ≤ room)
  cases value with
  | true => exact expressionAbove?_value stops rfl (fun _ => rfl) more 0
  | false => exact expressionAbove?_value stops rfl (fun _ => rfl) more 0

private theorem parses_absent (column : String) : (absent column).Parses := by
  intro room rest enough stops
  have long : (absent column).tokens.length = 16 := rfl
  obtain ⟨more, rfl⟩ := Nat.exists_eq_add_of_le' (by omega : 20 ≤ room)
  have call : operand? (more + 19) ((absent column).tokens ++ rest) =
      some (existsExpression column, BinaryOp.equal.token :: .numeral "0" :: rest) := rfl
  have zero : expressionAbove? (more + 18) BinaryOp.equal.rightPriority (.numeral "0" :: rest) =
    (some (.numeral "0")).map fun right => (right, rest) :=
    expressionAbove?_value stops rfl (fun _ => rfl) (more + 16) _
  exact expressionAbove?_comparison rfl stops rfl call zero (Nat.succ_pos _)

private theorem comparison_token (op : CompareOp) : (comparison op).token = .symbol op.symbol := by
  cases op <;> rfl

private theorem comparison_leftPriority (op : CompareOp) : (comparison op).leftPriority = 3 := by
  cases op <;> rfl

private theorem parses_equal {value : Literal} (label : String) (data : value.isData = true) :
    (equal label value).Parses := by
  intro room rest enough stops
  rw [tokens, List.length_cons, List.length_cons] at enough
  obtain ⟨more, rfl⟩ := Nat.exists_eq_add_of_le' (by omega : 5 ≤ room)
  have right : expressionAbove? (more + 3) BinaryOp.equal.rightPriority
      (literalTokens value ++ rest) =
    (some (literalExpression value)).map fun right => (right, rest) :=
    expressionAbove?_literal data stops more _
  have left : operand? (more + 4) ((equal label value).tokens ++ rest) =
    some (.name label, BinaryOp.equal.token :: (literalTokens value ++ rest)) := rfl
  exact expressionAbove?_comparison rfl stops rfl left right (Nat.succ_pos _)

private theorem parses_compareNumbers {value : Literal} (label : String) (op : CompareOp)
    (numeric : value.isNumeric = true) : (compare label op value true).Parses := by
  intro room rest enough stops
  simp only [tokens, if_true, List.length_append, List.length_cons] at enough
  obtain ⟨more, rfl⟩ := Nat.exists_eq_add_of_le' (by omega : 7 ≤ room)
  have right : expressionAbove? (more + 5) (comparison op).rightPriority
      (numeralTokens value.text ++ rest) =
    (if value.hasPlus then none else some (numeralExpression value.text)).map
      fun right => (right, rest) := by
    rw [expressionAbove?_numeral value.text stops, Literal.hasPlus_text numeric]
    cases value.hasPlus <;> rfl
  have left : operand? (more + 6) (.name "tonumber" :: .symbol "(" :: .name label ::
      .symbol ")" :: (comparison op).token :: (numeralTokens value.text ++ rest)) =
    some (.call (.name "tonumber") [.name label],
      (comparison op).token :: (numeralTokens value.text ++ rest)) := by
    cases op <;> rfl
  have whole := expressionAbove?_comparison (comparison_leftPriority op) stops rfl left right
    (Nat.succ_pos _)
  rw [comparison_token] at whole
  simp only [tokens, expression, hasPlus, if_true]
  refine whole.trans ?_
  cases value.hasPlus <;> rfl

private theorem parses_compareTexts {value : Literal} (label : String) (op : CompareOp)
    (data : value.isData = true) (textual : value.isNumeric = false) :
    (compare label op value false).Parses := by
  intro room rest enough stops
  simp only [tokens, Bool.false_eq_true, if_false, List.length_cons] at enough
  obtain ⟨more, rfl⟩ := Nat.exists_eq_add_of_le' (by omega : 5 ≤ room)
  have right : expressionAbove? (more + 3) (comparison op).rightPriority
      (literalTokens value ++ rest) =
    (some (literalExpression value)).map fun right => (right, rest) :=
    expressionAbove?_literal data stops more _
  have left : operand? (more + 4) (.name label :: (comparison op).token ::
      (literalTokens value ++ rest)) =
    some (.name label, (comparison op).token :: (literalTokens value ++ rest)) := by
    cases op <;> rfl
  have whole := expressionAbove?_comparison (comparison_leftPriority op) stops rfl left right
    (Nat.succ_pos _)
  have unsigned := Literal.hasPlus_of_not_numeric textual
  rw [comparison_token] at whole
  simp only [tokens, expression, hasPlus, unsigned, Bool.false_eq_true, if_false]
  exact whole

private theorem parses_compare {value : Literal} (label : String) (op : CompareOp)
    (data : value.isData = true) : (compare label op value value.isNumeric).Parses := by
  cases numeric : value.isNumeric with
  | true => exact parses_compareNumbers label op numeric
  | false => exact parses_compareTexts label op data numeric

/-- A condition in parentheses is an operand, if nothing is applied to it. -/
theorem parses_parenthesised (parses : condition.Parses) {room : Nat}
    (enough : 2 * condition.tokens.length + 2 ≤ room)
    (plain : suffixed? room condition.expression rest = some (condition.expression, rest)) :
    operand? (room + 1) (.symbol "(" :: (condition.tokens ++ .symbol ")" :: rest)) =
      if condition.hasPlus then none else some (condition.expression, rest) := by
  have inner := parses room (.symbol ")" :: rest) enough (.inr ⟨rest, rfl⟩)
  cases plus : condition.hasPlus with
  | true =>
    rw [plus, if_pos rfl] at inner
    exact operand?_unclosed inner
  | false =>
    rw [plus, if_neg Bool.false_ne_true] at inner
    rw [operand?_parenthesised inner, plain]
    rfl

/-- A condition in parentheses is a whole expression where no operator binds it more tightly. -/
theorem parses_operand (parses : condition.Parses) {room limit : Nat}
    (enough : 2 * condition.tokens.length + 2 ≤ room)
    (plain : suffixed? room condition.expression rest = some (condition.expression, rest))
    (loose : binaryAbove? limit rest = none) :
    expressionAbove? (room + 2) limit (.symbol "(" :: (condition.tokens ++ .symbol ")" :: rest)) =
      if condition.hasPlus then none else some (condition.expression, rest) := by
  have operand := parses_parenthesised parses enough plain
  cases plus : condition.hasPlus with
  | true =>
    rw [plus, if_pos rfl] at operand
    exact expressionAbove?_refused rfl operand
  | false =>
    rw [plus, if_neg Bool.false_ne_true] at operand
    rw [expressionAbove?_operand rfl operand]
    exact operatorsAbove?_stop loose

private theorem parses_negation (parses : condition.Parses) : (negation condition).Parses := by
  intro room rest enough stops
  simp only [tokens, List.length_cons, List.length_append, List.length_nil] at enough
  obtain ⟨more, rfl⟩ := Nat.exists_eq_add_of_le' (by omega : 4 ≤ room)
  have word : unary? ((negation condition).tokens ++ rest) =
      some (.not, .symbol "(" :: (condition.tokens ++ .symbol ")" :: rest)) := by
    simp only [tokens, List.cons_append, List.append_assoc, List.nil_append]
    rfl
  have inner : expressionAbove? (more + 3) UnaryOp.priority
      (.symbol "(" :: (condition.tokens ++ .symbol ")" :: rest)) =
    if condition.hasPlus then none else some (condition.expression, rest) :=
    parses_operand parses (by omega) (stops.suffixed? more _) (stops.binaryAbove? _)
  rw [expressionAbove?, word, hasPlus, expression]
  dsimp only
  rw [inner]
  cases condition.hasPlus with
  | true => rfl
  | false => exact operatorsAbove?_stop (stops.binaryAbove? 0)

section Junctions

variable {op : BinaryOp} {conditions : List Condition}

theorem anyHasPlus_cons (condition : Condition) (rest : List Condition) :
    anyHasPlus (condition :: rest) = (condition.hasPlus || anyHasPlus rest) := rfl

private theorem expressions_cons (condition : Condition) (rest : List Condition) :
    expressions (condition :: rest) = condition.expression :: expressions rest := rfl

/-- An operator with a condition in parentheses after it is joined to what is before it. -/
theorem operatorsAbove?_condition (tight : 0 < op.leftPriority) (parses : condition.Parses)
    (left : Expression) {room : Nat}
    (enough : 2 * condition.tokens.length + 2 ≤ room)
    (plain : suffixed? room condition.expression rest = some (condition.expression, rest))
    (loose : binaryAbove? op.rightPriority rest = none) :
    operatorsAbove? (room + 3) 0 left
        (op.token :: .symbol "(" :: (condition.tokens ++ .symbol ")" :: rest)) =
      if condition.hasPlus then none
      else operatorsAbove? (room + 2) 0 (.binary op left condition.expression) rest := by
  have right := parses_operand parses enough plain loose
  cases plus : condition.hasPlus with
  | true =>
    rw [plus, if_pos rfl] at right
    exact operatorsAbove?_refused tight right
  | false =>
    rw [plus, if_neg Bool.false_ne_true] at right
    exact operatorsAbove?_binary tight right

/-- The further operands of a junction are joined to what is before them, from left to right. -/
theorem parses_further (tight : 0 < op.leftPriority) (even : op.rightPriority = op.leftPriority)
    (operands : conditions ≠ []) (each : ∀ condition ∈ conditions, condition.Parses)
    (stops : Stops rest) (left : Expression) {room : Nat}
    (enough : 2 * ([op.token].intercalate (tokensEach conditions)).length + 4 ≤ room) :
    operatorsAbove? room 0 left
        (op.token :: ([op.token].intercalate (tokensEach conditions) ++ rest)) =
      if anyHasPlus conditions then none
      else some ((expressions conditions).foldl (.binary op) left, rest) := by
  induction conditions generalizing left room with
  | nil => exact absurd rfl operands
  | cons condition others ih =>
    have first := each condition List.mem_cons_self
    cases others with
    | nil =>
      simp only [tokensEach, List.intercalate_singleton, List.length_cons, List.length_append,
        List.length_nil] at enough
      obtain ⟨more, rfl⟩ := Nat.exists_eq_add_of_le' (by omega : 4 ≤ room)
      simp only [tokensEach, List.intercalate_singleton, List.cons_append, List.append_assoc,
        List.nil_append, anyHasPlus, Bool.or_false, expressions, List.foldl_cons, List.foldl_nil]
      refine (operatorsAbove?_condition tight first left (by omega) (stops.suffixed? more _)
        (stops.binaryAbove? _)).trans ?_
      rw [operatorsAbove?_stop (stops.binaryAbove? 0)]
    | cons second others =>
      have later := ih (List.cons_ne_nil _ _) fun condition member =>
        each condition (List.mem_cons_of_mem _ member)
      rw [tokensEach, tokensEach, List.intercalate_cons_cons, ← tokensEach] at enough ⊢
      simp only [List.length_cons, List.length_append, List.length_nil] at enough
      obtain ⟨more, rfl⟩ := Nat.exists_eq_add_of_le' (by omega : 4 ≤ room)
      simp only [List.cons_append, List.append_assoc, List.nil_append]
      refine (operatorsAbove?_condition tight first left (by omega)
        (suffixed?_operator more _ op _) (binaryAbove?_loose even.ge)).trans ?_
      rw [later _ (by omega), anyHasPlus_cons condition, expressions_cons condition,
        List.foldl_cons]
      cases condition.hasPlus <;> rfl

private theorem parses_junction (tight : 0 < op.leftPriority)
    (even : op.rightPriority = op.leftPriority)
    (operands : conditions ≠ []) (each : ∀ condition ∈ conditions, condition.Parses)
    (stops : Stops rest) {room : Nat}
    (enough : 2 * ([op.token].intercalate (tokensEach conditions)).length + 2 ≤ room) :
    expressionAbove? room 0 ([op.token].intercalate (tokensEach conditions) ++ rest) =
      if anyHasPlus conditions then none else some (op.join (expressions conditions), rest) := by
  cases conditions with
  | nil => exact absurd rfl operands
  | cons condition others =>
    have first := each condition List.mem_cons_self
    cases others with
    | nil =>
      simp only [tokensEach, List.intercalate_singleton, List.length_cons, List.length_append,
        List.length_nil] at enough
      obtain ⟨more, rfl⟩ := Nat.exists_eq_add_of_le' (by omega : 4 ≤ room)
      simp only [tokensEach, List.intercalate_singleton, List.cons_append, List.append_assoc,
        List.nil_append, anyHasPlus, Bool.or_false, expressions, BinaryOp.join, List.foldl_nil]
      exact parses_operand first (by omega) (stops.suffixed? (more + 1) _) (stops.binaryAbove? 0)
    | cons second others =>
      have further : ∀ condition ∈ second :: others, condition.Parses := fun condition member =>
        each condition (List.mem_cons_of_mem _ member)
      rw [tokensEach, tokensEach, List.intercalate_cons_cons, ← tokensEach] at enough ⊢
      simp only [List.length_cons, List.length_append, List.length_nil] at enough
      obtain ⟨more, rfl⟩ := Nat.exists_eq_add_of_le' (by omega : 4 ≤ room)
      simp only [List.cons_append, List.append_assoc, List.nil_append]
      have operand := parses_parenthesised first (by omega) (suffixed?_operator (more + 1) _ op
        ([op.token].intercalate (tokensEach (second :: others)) ++ rest))
      rw [anyHasPlus_cons condition, expressions_cons condition, BinaryOp.join]
      cases plus : condition.hasPlus with
      | true =>
        rw [plus, if_pos rfl] at operand
        exact expressionAbove?_refused rfl operand
      | false =>
        rw [plus, if_neg Bool.false_ne_true] at operand
        rw [expressionAbove?_operand rfl operand]
        exact parses_further tight even (List.cons_ne_nil _ _) further stops _ (by omega)

end Junctions

/-- The tokens of a sound condition are parsed as its expression. -/
theorem IsSound.parses {condition : Condition} (sound : condition.IsSound) : condition.Parses := by
  induction sound with
  | constant value => exact parses_constant value
  | absent column => exact parses_absent column
  | equal named data => exact parses_equal _ data
  | compare named op data => exact parses_compare _ op data
  | negation _ ih => exact parses_negation ih
  | conjunction operands _ ih =>
    intro room rest enough stops
    have tight : 0 < BinaryOp.and.leftPriority := by decide
    exact parses_junction tight rfl operands ih stops enough
  | disjunction operands _ ih =>
    intro room rest enough stops
    have tight : 0 < BinaryOp.or.leftPriority := by decide
    exact parses_junction tight rfl operands ih stops enough

/-- The text of a sound condition is parsed as its expression, unless it has a sign `+`; then it is
no expression. -/
theorem IsSound.parse?_render {condition : Condition} (sound : condition.IsSound) :
    parse? condition.render = if condition.hasPlus then none else some condition.expression := by
  have cut := sound.lexes [] [] (.inl rfl) (by rw [tokens?])
  have tree := sound.parses _ [] (Nat.le_refl _) (.inl rfl)
  rw [List.append_nil, List.append_nil] at cut
  rw [List.append_nil] at tree
  rw [parse?, cut]
  dsimp only
  rw [tree]
  cases condition.hasPlus <;> rfl

end Trees

end Condition

end Rowscan
