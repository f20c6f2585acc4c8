import Rowscan.Proofs.LuaTokens

/-!
The expressions of Lua, without tables, functions and methods. Operators bind by their priorities:
an operand ends where an operator binds it less tightly than the one before it (`expressionAbove?`).
Parentheses leave no trace in the tree. The lemmas give the steps of the parser, each with the room
that it takes. What is parsed in some room is parsed in more, and calls are nested no deeper than
twice the tokens that are left; so the room that a text is parsed in is no limit
(`parse?_eq_some_iff`).
-/
namespace Rowscan.Lua

/-! ## Trees -/

/-- The operators between two operands. -/
inductive BinaryOp where
  | or | and
  | less | greater | lessOrEqual | greaterOrEqual | notEqual | equal
  | concat | plus | minus | times | divide | modulo | power
  deriving DecidableEq

/-- The operators before an operand. -/
inductive UnaryOp where
  | not | minus | length
  deriving DecidableEq

/-- An expression. -/
inductive Expression where
  | nil
  | bool (value : Bool)
  | numeral (text : String)
  | string (content : List UInt8)
  | name (word : String)
  | index (table key : Expression)
  | call (function : Expression) (arguments : List Expression)
  | unary (op : UnaryOp) (operand : Expression)
  | binary (op : BinaryOp) (left right : Expression)
  deriving Inhabited

namespace BinaryOp

/-- All operators between operands. -/
def all : List BinaryOp :=
  [or, and, less, greater, lessOrEqual, greaterOrEqual, notEqual, equal, concat, plus, minus, times,
    divide, modulo, power]

/-- How an operator is written. -/
def token : BinaryOp → Token
  | or => .keyword "or"
  | and => .keyword "and"
  | less => .symbol "<"
  | greater => .symbol ">"
  | lessOrEqual => .symbol "<="
  | greaterOrEqual => .symbol ">="
  | notEqual => .symbol "~="
  | equal => .symbol "=="
  | concat => .symbol ".."
  | plus => .symbol "+"
  | minus => .symbol "-"
  | times => .symbol "*"
  | divide => .symbol "/"
  | modulo => .symbol "%"
  | power => .symbol "^"

/-- The operator written so. -/
def ofToken? (token : Token) : Option BinaryOp := all.find? (·.token == token)

/-- How tightly an operator binds what is before it. -/
def leftPriority : BinaryOp → Nat
  | or => 1
  | and => 2
  | less | greater | lessOrEqual | greaterOrEqual | notEqual | equal => 3
  | concat => 5
  | plus | minus => 6
  | times | divide | modulo => 7
  | power => 10

/-- How tightly an operator binds what is after it: those that associate to the right bind it less
tightly than what is before. -/
def rightPriority : BinaryOp → Nat
  | concat => 4
  | power => 9
  | op => op.leftPriority

/-- Several operands joined from left to right. -/
def join (op : BinaryOp) : List Expression → Expression
  | [] => .nil
  | first :: others => others.foldl (.binary op) first

end BinaryOp

/-- How tightly the operators before an operand bind it. -/
def UnaryOp.priority : Nat := 8

/-! ## Parsing -/

/-- An operator before an operand, taken off the front. -/
def unary? : List Token → Option (UnaryOp × List Token)
  | .keyword "not" :: rest => some (.not, rest)
  | .symbol "-" :: rest => some (.minus, rest)
  | .symbol "#" :: rest => some (.length, rest)
  | _ => none

/-- An operator between operands that binds more tightly than a limit, taken off the front. -/
def binaryAbove? (limit : Nat) : List Token → Option (BinaryOp × List Token)
  | [] => none
  | token :: rest =>
    match BinaryOp.ofToken? token with
    | some op => if limit < op.leftPriority then some (op, rest) else none
    | none => none

mutual

/-- The expression at the front whose operators all bind more tightly than a limit; `room` bounds
the depth of calls. -/
def expressionAbove? : Nat → Nat → List Token → Option (Expression × List Token)
  | 0, _, _ => none
  | room + 1, limit, tokens =>
    match unary? tokens with
    | some (op, rest) =>
      match expressionAbove? room UnaryOp.priority rest with
      | some (operand, rest) => operatorsAbove? room limit (.unary op operand) rest
      | none => none
    | none =>
      match operand? room tokens with
      | some (operand, rest) => operatorsAbove? room limit operand rest
      | none => none

/-- Takes operators that bind more tightly than a limit, with what is after them. -/
def operatorsAbove? : Nat → Nat → Expression → List Token → Option (Expression × List Token)
  | 0, _, _, _ => none
  | room + 1, limit, left, tokens =>
    match binaryAbove? limit tokens with
    | some (op, rest) =>
      match expressionAbove? room op.rightPriority rest with
      | some (right, rest) => operatorsAbove? room limit (.binary op left right) rest
      | none => none
    | none => some (left, tokens)

/-- An operand: a value, or a name or an expression in parentheses with what is applied to it. -/
def operand? : Nat → List Token → Option (Expression × List Token)
  | 0, _ => none
  | room + 1, tokens =>
    match tokens with
    | .keyword "nil" :: rest => some (.nil, rest)
    | .keyword "true" :: rest => some (.bool true, rest)
    | .keyword "false" :: rest => some (.bool false, rest)
    | .numeral text :: rest => some (.numeral text, rest)
    | .string content :: rest => some (.string content, rest)
    | .name word :: rest => suffixed? room (.name word) rest
    | .symbol "(" :: rest =>
      match expressionAbove? room 0 rest with
      | some (inner, .symbol ")" :: rest) => suffixed? room inner rest
      | _ => none
    | _ => none

/-- Takes fields, indices and calls that are applied to an expression. -/
def suffixed? : Nat → Expression → List Token → Option (Expression × List Token)
  | 0, _, _ => none
  | room + 1, head, tokens =>
    match tokens with
    | .symbol "." :: .name field :: rest =>
      suffixed? room (.index head (.string (Text.utf8 field))) rest
    | .symbol "[" :: rest =>
      match expressionAbove? room 0 rest with
      | some (key, .symbol "]" :: rest) => suffixed? room (.index head key) rest
      | _ => none
    | .symbol "(" :: .symbol ")" :: rest => suffixed? room (.call head []) rest
    | .symbol "(" :: rest =>
      match arguments? room rest with
      | some (arguments, rest) => suffixed? room (.call head arguments) rest
      | none => none
    | .string content :: rest => suffixed? room (.call head [.string content]) rest
    | tokens => some (head, tokens)

/-- The arguments of a call, up to its closing parenthesis. -/
def arguments? : Nat → List Token → Option (List Expression × List Token)
  | 0, _ => none
  | room + 1, tokens =>
    match expressionAbove? room 0 tokens with
    | some (argument, .symbol ")" :: rest) => some ([argument], rest)
    | some (argument, .symbol "," :: rest) =>
      match arguments? room rest with
      | some (others, rest) => some (argument :: others, rest)
      | none => none
    | _ => none

end

/-- The expression that a whole text is, if it is one. -/
def parse? (text : String) : Option Expression :=
  match tokens? text.toList with
  | none => none
  | some tokens =>
    match expressionAbove? (2 * tokens.length + 2) 0 tokens with
    | some (expression, []) => some expression
    | _ => none

/-! ## Steps of the parser -/

section Steps

variable {room limit : Nat} {tokens after rest : List Token} {left right : Expression}
  {op : BinaryOp}

theorem BinaryOp.ofToken?_token (op : BinaryOp) : ofToken? op.token = some op := by
  cases op <;> rfl

/-- An operator between operands that is tight enough is taken. -/
theorem binaryAbove?_tight (tight : limit < op.leftPriority) :
    binaryAbove? limit (op.token :: after) = some (op, after) := by
  rw [binaryAbove?, BinaryOp.ofToken?_token]
  exact if_pos tight

/-- An operator that is not tight enough ends an operand. -/
theorem binaryAbove?_loose (loose : op.leftPriority ≤ limit) :
    binaryAbove? limit (op.token :: after) = none := by
  rw [binaryAbove?, BinaryOp.ofToken?_token]
  exact if_neg (Nat.not_lt.2 loose)

theorem expressionAbove?_operand (unsigned : unary? tokens = none)
    (first : operand? room tokens = some (left, after)) :
    expressionAbove? (room + 1) limit tokens = operatorsAbove? room limit left after := by
  rw [expressionAbove?, unsigned]
  dsimp only
  rw [first]

theorem expressionAbove?_refused (unsigned : unary? tokens = none)
    (first : operand? room tokens = none) : expressionAbove? (room + 1) limit tokens = none := by
  rw [expressionAbove?, unsigned]
  dsimp only
  rw [first]

theorem operatorsAbove?_stop (stops : binaryAbove? limit rest = none) :
    operatorsAbove? (room + 1) limit left rest = some (left, rest) := by
  rw [operatorsAbove?, stops]

theorem operatorsAbove?_binary (tight : limit < op.leftPriority)
    (next : expressionAbove? room op.rightPriority after = some (right, rest)) :
    operatorsAbove? (room + 1) limit left (op.token :: after) =
      operatorsAbove? room limit (.binary op left right) rest := by
  rw [operatorsAbove?, binaryAbove?_tight tight]
  dsimp only
  rw [next]

theorem operatorsAbove?_refused (tight : limit < op.leftPriority)
    (next : expressionAbove? room op.rightPriority after = none) :
    operatorsAbove? (room + 1) limit left (op.token :: after) = none := by
  rw [operatorsAbove?, binaryAbove?_tight tight]
  dsimp only
  rw [next]

/-- Nothing at the front goes on with an expression before it. -/
def Stops (rest : List Token) : Prop := rest = [] ∨ ∃ more, rest = .symbol ")" :: more

theorem Stops.binaryAbove? (stops : Stops rest) (limit : Nat) :
    Lua.binaryAbove? limit rest = none := by
  rcases stops with rfl | ⟨more, rfl⟩ <;> rfl

theorem Stops.suffixed? (stops : Stops rest) (room : Nat) (head : Expression) :
    Lua.suffixed? (room + 1) head rest = some (head, rest) := by
  rcases stops with rfl | ⟨more, rfl⟩ <;> rfl

/-- An operator is not applied to what is before it. -/
theorem suffixed?_operator (room : Nat) (head : Expression) (op : BinaryOp) (after : List Token) :
    suffixed? (room + 1) head (op.token :: after) = some (head, op.token :: after) := by
  cases op <;> rfl

/-- What is in parentheses is an operand. -/
theorem operand?_parenthesised {inner : Expression}
    (found : expressionAbove? room 0 tokens = some (inner, .symbol ")" :: rest)) :
    operand? (room + 1) (.symbol "(" :: tokens) = suffixed? room inner rest := by
  rw [operand?, found]
  rfl

theorem operand?_unclosed (found : expressionAbove? room 0 tokens = none) :
    operand? (room + 1) (.symbol "(" :: tokens) = none := by
  rw [operand?, found]

end Steps

/-! ## Room -/

private theorem length_of_unary? {tokens rest : List Token} {op : UnaryOp}
    (found : unary? tokens = some (op, rest)) : rest.length < tokens.length := by
  unfold unary? at found
  split at found <;> cases found <;> exact Nat.lt_succ_self _

private theorem length_of_binaryAbove? {limit : Nat} {tokens rest : List Token} {op : BinaryOp}
    (found : binaryAbove? limit tokens = some (op, rest)) : rest.length < tokens.length := by
  unfold binaryAbove? at found
  split at found
  · cases found
  · split at found
    · split at found
      · cases found
        exact Nat.lt_succ_self _
      · cases found
    · cases found

mutual

/-- An expression takes some tokens. -/
theorem length_of_expressionAbove? : (room : Nat) → {limit : Nat} → {tokens rest : List Token} →
    {found : Expression} → expressionAbove? room limit tokens = some (found, rest) →
    rest.length < tokens.length
  | 0, _, _, _, _, parsed => by cases parsed
  | room + 1, _, _, _, _, parsed => by
    rw [expressionAbove?] at parsed
    split at parsed
    next op after prefixed =>
      split at parsed
      next operand behind inner =>
        have signed := length_of_unary? prefixed
        have first := length_of_expressionAbove? room inner
        have further := length_of_operatorsAbove? room parsed
        omega
      next => cases parsed
    next =>
      split at parsed
      next operand behind inner =>
        have first := length_of_operand? room inner
        have further := length_of_operatorsAbove? room parsed
        omega
      next => cases parsed

private theorem length_of_operatorsAbove? : (room : Nat) → {limit : Nat} → {left : Expression} →
    {tokens rest : List Token} → {found : Expression} →
    operatorsAbove? room limit left tokens = some (found, rest) → rest.length ≤ tokens.length
  | 0, _, _, _, _, _, parsed => by cases parsed
  | room + 1, _, _, _, _, _, parsed => by
    rw [operatorsAbove?] at parsed
    split at parsed
    next op after tight =>
      split at parsed
      next right behind inner =>
        have joined := length_of_binaryAbove? tight
        have second := length_of_expressionAbove? room inner
        have further := length_of_operatorsAbove? room parsed
        omega
      next => cases parsed
    next =>
      cases parsed
      exact Nat.le_refl _

private theorem length_of_operand? :
    (room : Nat) → {tokens rest : List Token} → {found : Expression} →
    operand? room tokens = some (found, rest) → rest.length < tokens.length
  | 0, _, _, _, parsed => by cases parsed
  | room + 1, _, _, _, parsed => by
    unfold operand? at parsed
    split at parsed
    next =>
      cases parsed
      exact Nat.lt_succ_self _
    next =>
      cases parsed
      exact Nat.lt_succ_self _
    next =>
      cases parsed
      exact Nat.lt_succ_self _
    next =>
      cases parsed
      exact Nat.lt_succ_self _
    next =>
      cases parsed
      exact Nat.lt_succ_self _
    next => exact Nat.lt_succ_of_le (length_of_suffixed? room parsed)
    next =>
      split at parsed
      next inner after closed =>
        have nested := length_of_expressionAbove? room closed
        have further := length_of_suffixed? room parsed
        simp only [List.length_cons] at nested ⊢
        omega
      next => cases parsed
    next => cases parsed

private theorem length_of_suffixed? : (room : Nat) → {head : Expression} →
    {tokens rest : List Token} → {found : Expression} →
    suffixed? room head tokens = some (found, rest) → rest.length ≤ tokens.length
  | 0, _, _, _, _, parsed => by cases parsed
  | room + 1, _, _, _, _, parsed => by
    unfold suffixed? at parsed
    split at parsed
    next =>
      have further := length_of_suffixed? room parsed
      simp only [List.length_cons]
      omega
    next =>
      split at parsed
      next key after closed =>
        have nested := length_of_expressionAbove? room closed
        have further := length_of_suffixed? room parsed
        simp only [List.length_cons] at nested ⊢
        omega
      next => cases parsed
    next =>
      have further := length_of_suffixed? room parsed
      simp only [List.length_cons]
      omega
    next =>
      split at parsed
      next arguments after listed =>
        have nested := length_of_arguments? room listed
        have further := length_of_suffixed? room parsed
        simp only [List.length_cons]
        omega
      next => cases parsed
    next =>
      have further := length_of_suffixed? room parsed
      simp only [List.length_cons]
      omega
    next =>
      cases parsed
      exact Nat.le_refl _

private theorem length_of_arguments? : (room : Nat) → {tokens rest : List Token} →
    {found : List Expression} →
    arguments? room tokens = some (found, rest) → rest.length < tokens.length
  | 0, _, _, _, parsed => by cases parsed
  | room + 1, _, _, _, parsed => by
    rw [arguments?] at parsed
    split at parsed
    next argument after closed =>
      have last := length_of_expressionAbove? room closed
      cases parsed
      exact Nat.lt_of_succ_lt last
    next argument after listed =>
      split at parsed
      next others behind more =>
        have first := length_of_expressionAbove? room listed
        have further := length_of_arguments? room more
        cases parsed
        simp only [List.length_cons] at first
        omega
      next => cases parsed
    next => cases parsed

end

mutual

/-- With room enough for its tokens, what is parsed does not depend on the room. -/
theorem expressionAbove?_room : (room more : Nat) → (limit : Nat) →
    (tokens : List Token) → 2 * tokens.length + 2 ≤ room → 2 * tokens.length + 2 ≤ more →
    expressionAbove? room limit tokens = expressionAbove? more limit tokens
  | 0, _, _, _, enough, _ => by omega
  | _, 0, _, _, _, enough => by omega
  | room + 1, more + 1, limit, tokens, enough, plenty => by
    rw [expressionAbove?, expressionAbove?]
    cases prefixed : unary? tokens with
    | some taken =>
      obtain ⟨op, after⟩ := taken
      have signed := length_of_unary? prefixed
      dsimp only
      rw [expressionAbove?_room room more _ after (by omega) (by omega)]
      cases inner : expressionAbove? more UnaryOp.priority after with
      | none => rfl
      | some found =>
        have first := length_of_expressionAbove? more inner
        exact operatorsAbove?_room room more _ _ found.2 (by omega) (by omega)
    | none =>
      dsimp only
      rw [operand?_room room more tokens (by omega) (by omega)]
      cases inner : operand? more tokens with
      | none => rfl
      | some found =>
        have first := length_of_operand? more inner
        exact operatorsAbove?_room room more _ _ found.2 (by omega) (by omega)

private theorem operatorsAbove?_room : (room more : Nat) → (limit : Nat) →
    (left : Expression) → (tokens : List Token) → 2 * tokens.length + 1 ≤ room →
    2 * tokens.length + 1 ≤ more →
    operatorsAbove? room limit left tokens = operatorsAbove? more limit left tokens
  | 0, _, _, _, _, enough, _ => by omega
  | _, 0, _, _, _, _, enough => by omega
  | room + 1, more + 1, limit, left, tokens, enough, plenty => by
    rw [operatorsAbove?, operatorsAbove?]
    cases joined : binaryAbove? limit tokens with
    | none => rfl
    | some taken =>
      obtain ⟨op, after⟩ := taken
      have tight := length_of_binaryAbove? joined
      dsimp only
      rw [expressionAbove?_room room more _ after (by omega) (by omega)]
      cases inner : expressionAbove? more op.rightPriority after with
      | none => rfl
      | some found =>
        have second := length_of_expressionAbove? more inner
        exact operatorsAbove?_room room more _ _ found.2 (by omega) (by omega)

private theorem operand?_room : (room more : Nat) → (tokens : List Token) →
    2 * tokens.length + 1 ≤ room → 2 * tokens.length + 1 ≤ more →
    operand? room tokens = operand? more tokens
  | 0, _, _, enough, _ => by omega
  | _, 0, _, _, enough => by omega
  | room + 1, more + 1, tokens, enough, plenty => by
    unfold operand?
    split
    next => rfl
    next => rfl
    next => rfl
    next => rfl
    next => rfl
    next after =>
      simp only [List.length_cons] at enough plenty
      exact suffixed?_room room more _ after (by omega) (by omega)
    next after =>
      simp only [List.length_cons] at enough plenty
      rw [expressionAbove?_room room more 0 after (by omega) (by omega)]
      split
      next inner behind closed =>
        have nested := length_of_expressionAbove? more closed
        simp only [List.length_cons] at nested
        exact suffixed?_room room more _ behind (by omega) (by omega)
      next => rfl
    next => rfl

private theorem suffixed?_room : (room more : Nat) → (head : Expression) →
    (tokens : List Token) → 2 * tokens.length + 2 ≤ room → 2 * tokens.length + 2 ≤ more →
    suffixed? room head tokens = suffixed? more head tokens
  | 0, _, _, _, enough, _ => by omega
  | _, 0, _, _, _, enough => by omega
  | room + 1, more + 1, head, tokens, enough, plenty => by
    unfold suffixed?
    split
    next after =>
      simp only [List.length_cons] at enough plenty
      exact suffixed?_room room more _ after (by omega) (by omega)
    next after =>
      simp only [List.length_cons] at enough plenty
      rw [expressionAbove?_room room more 0 after (by omega) (by omega)]
      split
      next key behind closed =>
        have nested := length_of_expressionAbove? more closed
        simp only [List.length_cons] at nested
        exact suffixed?_room room more _ behind (by omega) (by omega)
      next => rfl
    next after =>
      simp only [List.length_cons] at enough plenty
      exact suffixed?_room room more _ after (by omega) (by omega)
    next after _ =>
      simp only [List.length_cons] at enough plenty
      rw [arguments?_room room more after (by omega) (by omega)]
      split
      next arguments behind listed =>
        have nested := length_of_arguments? more listed
        exact suffixed?_room room more _ behind (by omega) (by omega)
      next => rfl
    next after =>
      simp only [List.length_cons] at enough plenty
      exact suffixed?_room room more _ after (by omega) (by omega)
    next => rfl

private theorem arguments?_room : (room more : Nat) → (tokens : List Token) →
    2 * tokens.length + 3 ≤ room → 2 * tokens.length + 3 ≤ more →
    arguments? room tokens = arguments? more tokens
  | 0, _, _, enough, _ => by omega
  | _, 0, _, _, enough => by omega
  | room + 1, more + 1, tokens, enough, plenty => by
    rw [arguments?, arguments?,
      expressionAbove?_room room more 0 tokens (by omega) (by omega)]
    split
    next => rfl
    next argument after listed =>
      have first := length_of_expressionAbove? more listed
      simp only [List.length_cons] at first
      rw [arguments?_room room more after (by omega) (by omega)]
    next => rfl

end

mutual

/-- What is parsed in some room is parsed in more. -/
theorem expressionAbove?_succ : (room : Nat) → {limit : Nat} → {tokens : List Token} →
    {found : Expression × List Token} → expressionAbove? room limit tokens = some found →
    expressionAbove? (room + 1) limit tokens = some found
  | 0, _, _, _, parsed => by cases parsed
  | room + 1, limit, tokens, _, parsed => by
    rw [expressionAbove?] at parsed ⊢
    cases prefixed : unary? tokens with
    | some taken =>
      simp only [prefixed] at parsed ⊢
      cases inner : expressionAbove? room UnaryOp.priority taken.2 with
      | none =>
        rw [inner] at parsed
        cases parsed
      | some operand =>
        rw [inner] at parsed
        rw [expressionAbove?_succ room inner]
        exact operatorsAbove?_succ room parsed
    | none =>
      simp only [prefixed] at parsed ⊢
      cases inner : operand? room tokens with
      | none =>
        rw [inner] at parsed
        cases parsed
      | some operand =>
        rw [inner] at parsed
        rw [operand?_succ room inner]
        exact operatorsAbove?_succ room parsed

private theorem operatorsAbove?_succ : (room : Nat) → {limit : Nat} → {left : Expression} →
    {tokens : List Token} → {found : Expression × List Token} →
    operatorsAbove? room limit left tokens = some found →
    operatorsAbove? (room + 1) limit left tokens = some found
  | 0, _, _, _, _, parsed => by cases parsed
  | room + 1, limit, left, tokens, _, parsed => by
    rw [operatorsAbove?] at parsed ⊢
    cases joined : binaryAbove? limit tokens with
    | none =>
      rw [joined] at parsed
      exact parsed
    | some taken =>
      simp only [joined] at parsed ⊢
      cases inner : expressionAbove? room taken.1.rightPriority taken.2 with
      | none =>
        rw [inner] at parsed
        cases parsed
      | some right =>
        rw [inner] at parsed
        rw [expressionAbove?_succ room inner]
        exact operatorsAbove?_succ room parsed

private theorem operand?_succ : (room : Nat) → {tokens : List Token} →
    {found : Expression × List Token} → operand? room tokens = some found →
    operand? (room + 1) tokens = some found
  | 0, _, _, parsed => by cases parsed
  | room + 1, tokens, _, parsed => by
    unfold operand? at parsed ⊢
    split at parsed
    next => exact parsed
    next => exact parsed
    next => exact parsed
    next => exact parsed
    next => exact parsed
    next => exact suffixed?_succ room parsed
    next after =>
      split at parsed
      next inner behind closed =>
        rw [expressionAbove?_succ room closed]
        exact suffixed?_succ room parsed
      next => cases parsed
    next => cases parsed

private theorem suffixed?_succ : (room : Nat) → {head : Expression} → {tokens : List Token} →
    {found : Expression × List Token} → suffixed? room head tokens = some found →
    suffixed? (room + 1) head tokens = some found
  | 0, _, _, _, parsed => by cases parsed
  | room + 1, head, tokens, _, parsed => by
    unfold suffixed? at parsed ⊢
    split at parsed
    next => exact suffixed?_succ room parsed
    next after =>
      split at parsed
      next key behind closed =>
        rw [expressionAbove?_succ room closed]
        exact suffixed?_succ room parsed
      next => cases parsed
    next => exact suffixed?_succ room parsed
    next after unapplied =>
      split at parsed
      next arguments behind listed =>
        rw [arguments?_succ room listed]
        exact suffixed?_succ room parsed
      next => cases parsed
    next => exact suffixed?_succ room parsed
    next => exact parsed

private theorem arguments?_succ : (room : Nat) → {tokens : List Token} →
    {found : List Expression × List Token} → arguments? room tokens = some found →
    arguments? (room + 1) tokens = some found
  | 0, _, _, parsed => by cases parsed
  | room + 1, tokens, _, parsed => by
    rw [arguments?] at parsed ⊢
    split at parsed
    next argument after closed =>
      rw [expressionAbove?_succ room closed]
      exact parsed
    next argument after listed =>
      rw [expressionAbove?_succ room listed]
      split at parsed
      next others behind more =>
        change (match arguments? (room + 1) after with
          | some (others, rest) => some (argument :: others, rest)
          | none => none) = _
        rw [arguments?_succ room more]
        exact parsed
      next => cases parsed
    next => cases parsed

end

/-- A text is an expression, in some room. -/
def Reads (text : String) (expression : Expression) : Prop :=
  ∃ tokens room, tokens? text.toList = some tokens ∧
    expressionAbove? room 0 tokens = some (expression, [])

/-- The room that a text is parsed in is no limit on its expressions. -/
theorem parse?_eq_some_iff {text : String} {expression : Expression} :
    parse? text = some expression ↔ Reads text expression := by
  unfold parse?
  constructor
  · intro parsed
    split at parsed
    next => cases parsed
    next tokens cut =>
      split at parsed
      next whole =>
        cases parsed
        exact ⟨tokens, _, cut, whole⟩
      next => cases parsed
  · rintro ⟨tokens, room, cut, parsed⟩
    have enough : expressionAbove? (max room (2 * tokens.length + 2)) 0 tokens =
        some (expression, []) :=
      Nat.le_induction parsed (fun _ _ read => expressionAbove?_succ _ read) _ (Nat.le_max_left _ _)
    rw [expressionAbove?_room _ _ 0 tokens (Nat.le_max_right _ _) (Nat.le_refl _)] at enough
    rw [cut]
    dsimp only
    rw [enough]

end Rowscan.Lua
