import Rowscan.Proofs.ConditionLabels
import Rowscan.Proofs.TokenBoundaries

/-!
Scan programs piece by piece. A piece is source of the library's own, a text in quotes, a numeral
or a raw expression, and a program is its pieces one after another (`toList_source`).
-/
namespace Rowscan

open Lua

namespace Lua

/-! ## Pieces -/

/-- A piece of a program. -/
inductive Piece where
  | code (source : String)
  | quoted (text : String)
  | numeral (text : String)
  | raw (expression : String)

namespace Piece

/-- The source of a piece. -/
def source : Piece → String
  | code source => source
  | quoted text => quote text
  | numeral text => text
  | raw expression => expression

/-- The tokens of a piece on its own. A quoted text is one. -/
def tokens : Piece → List Token
  | code source => (tokens? source.toList).getD []
  | quoted text => [.string (Text.utf8 text)]
  | numeral text => numeralTokens text
  | raw expression => (tokens? expression.toList).getD []

end Piece

/-- The source of pieces, one after another. -/
def charsOf (pieces : List Piece) : List Char := pieces.flatMap fun piece => piece.source.toList

/-- The tokens of pieces, one after another. -/
def tokensOf (pieces : List Piece) : List Token := pieces.flatMap Piece.tokens

/-- A literal as an operand. -/
def literalPieces : Literal → List Piece
  | .null => [.code "nil"]
  | .float value => [.code value.text]
  | .raw expression => [.raw expression]
  | literal => [.quoted literal.text]

theorem charsOf_append (first second : List Piece) :
    charsOf (first ++ second) = charsOf first ++ charsOf second := List.flatMap_append

theorem charsOf_cons (piece : Piece) (rest : List Piece) :
    charsOf (piece :: rest) = piece.source.toList ++ charsOf rest := List.flatMap_cons

private theorem charsOf_nil : charsOf [] = [] := rfl

private theorem charsOf_literalPieces (value : Literal) :
    charsOf (literalPieces value) = (ofLiteral value).toList := by
  cases value <;> exact List.append_nil _

private theorem charsOf_intercalate (between : List Piece) (parts : List (List Piece)) :
    charsOf (between.intercalate parts) = (charsOf between).intercalate (parts.map charsOf) := by
  induction parts with
  | nil => rfl
  | cons first rest ih =>
    cases rest with
    | nil => simp only [List.intercalate_singleton, List.map_cons, List.map_nil]
    | cons second more =>
      rw [List.intercalate_cons_cons, charsOf_append, charsOf_append, ih]
      exact List.intercalate_cons_cons.symm

end Lua

/-! ## Conditions -/

namespace Condition

mutual

/-- The pieces of a condition. -/
def pieces : Condition → List Piece
  | .empty => []
  | .constant value => [.code (if value then "true" else "false")]
  | .absent column =>
    [.code "redis.call('HEXISTS',key .. ':a:' .. pk,", .quoted column, .code ")==0"]
  | .equal label value => .code (label ++ "==") :: literalPieces value
  | .compare label op value numeric =>
    if numeric then
      [.code "tonumber(", .code (label ++ (") " ++ op.symbol ++ " ")), .numeral value.text]
    else .code (label ++ (" " ++ op.symbol ++ " ")) :: literalPieces value
  | .negation condition => .code "not (" :: (pieces condition ++ [.code ")"])
  | .conjunction conditions => [.code " and "].intercalate (piecesEach conditions)
  | .disjunction conditions => [.code " or "].intercalate (piecesEach conditions)
  | .raw expression => [.raw expression]
termination_by structural condition => condition

/-- The pieces of the operands of a junction, each in parentheses. -/
def piecesEach : List Condition → List (List Piece)
  | [] => []
  | condition :: rest => (.code "(" :: (pieces condition ++ [.code ")"])) :: piecesEach rest
termination_by structural conditions => conditions

end

mutual

/-- The text of a condition is that of its pieces. -/
theorem charsOf_pieces : (condition : Condition) →
    charsOf condition.pieces = condition.render.toList
  | .empty => rfl
  | .constant value => List.append_nil _
  | .absent column => by
    rw [render_absent, pieces]
    simp only [charsOf_cons, charsOf_nil, Piece.source, String.toList_append, List.append_assoc,
      List.append_nil]
  | .equal label value => by
    rw [render_equal, pieces, charsOf_cons, charsOf_literalPieces]
    simp only [Piece.source, String.toList_append]
  | .compare label op value numeric => by
    rw [render_compare, pieces]
    split
    · simp only [charsOf_cons, charsOf_nil, Piece.source, String.toList_append, List.append_assoc,
        List.append_nil]
    · rw [charsOf_cons, charsOf_literalPieces]
      simp only [Piece.source, String.toList_append, List.append_assoc]
  | .negation condition => by
    rw [render_negation, pieces, charsOf_cons, charsOf_append, charsOf_pieces condition]
    simp only [charsOf_cons, charsOf_nil, Piece.source, String.toList_append, List.append_assoc,
      List.append_nil]
  | .conjunction conditions => by
    rw [render_conjunction, pieces, charsOf_intercalate, charsOf_piecesEach,
      String.toList_intercalate]
    rfl
  | .disjunction conditions => by
    rw [render_disjunction, pieces, charsOf_intercalate, charsOf_piecesEach,
      String.toList_intercalate]
    rfl
  | .raw expression => List.append_nil _

private theorem charsOf_piecesEach : (conditions : List Condition) →
    (piecesEach conditions).map charsOf = (renderAll conditions).map String.toList
  | [] => rfl
  | condition :: rest => by
    rw [piecesEach, renderAll, List.map_cons, List.map_cons, charsOf_piecesEach rest, charsOf_cons,
      charsOf_append, charsOf_pieces condition]
    simp only [charsOf_cons, charsOf_nil, Piece.source, String.toList_append, List.append_assoc,
      List.append_nil]

end

end Condition

/-! ## Programs -/

namespace ScanProgram

/-- Lines without anything quoted. -/
def codeLines (lines : List String) : List (List Piece) := lines.map fun line => [.code line]

/-- The start of the expression for a field of the row at hand. -/
def fieldOpening : String := "redis.call('HGET'," ++ rowKeySource ++ ","

/-- A field of the row at hand, with what stands before and after it. -/
def fieldPieces (before column after : String) : List Piece :=
  [.code (before ++ fieldOpening), .quoted column, .code (")" ++ after)]

/-- A call that sorts the keys, with what stands before and after its operands. -/
def sortPieces (before : String) (term : OrderTerm) (after : String) : List Piece :=
  [.code (before ++ "'SORT',key,'BY',key .. ':a:*->' .. "), .quoted term.column,
    .code (",'" ++ term.direction.symbol ++ "'" ++ after)]

/-- The lines that list the keys to visit. -/
def candidatePieces : Option OrderTerm → List (List Piece)
  | none => codeLines ["local allpks=redis.call('LRANGE',key,0,-1)"]
  | some term =>
    [sortPieces "local allpks=redis.pcall(" term ")",
     [.code "if allpks['err'] then"],
     sortPieces "    allpks=redis.call(" term ",'ALPHA')",
     [.code "end"]]

/-- The test whether the match at hand is in the window. -/
def windowPieces (window : Window) : List Piece :=
  .code "i>" :: .numeral (toString window.offset) ::
    match window.end? with
    | none => []
    | some last => [.code " and i<=", .numeral (toString last)]

/-- The statement that a match in the window runs. -/
def accumulatePieces (kind : Query.Kind) (order : Option OrderTerm) : List Piece :=
  match kind with
  | .all | .one | .count => [.code (accumulateSource kind order)]
  | .column name => fieldPieces "n=n+1 pks[n]=" name ""
  | .sum name => fieldPieces "n=n+(tonumber(" name ") or 0)"
  | .average name => fieldPieces "local x=tonumber(" name ") if x~=nil then n=n+1 v=(v or 0)+x end"
  | .min name =>
    fieldPieces "local x=tonumber(" name ") if x~=nil and (v==nil or x<v) then v=x end"
  | .max name =>
    fieldPieces "local x=tonumber(" name ") if x~=nil and (v==nil or x>v) then v=x end"

/-- The declaration of an aliased field. -/
def aliasPieces (entry : String × String) : List Piece :=
  [.code "    local ", .code (entry.2 ++ ("=" ++ fieldOpening)), .quoted entry.1, .code ")"]

/-- The lines that set up the answer and begin the walk over the keys. -/
def startPieces : List (List Piece) :=
  codeLines ["local pks=\x7b\x7d", "local n=0", "local v=nil", "local i=0",
    "for _,pk in ipairs(allpks) do"]

/-- The lines that test the row at hand and take it into the answer. -/
def matchPieces (program : ScanProgram) : List (List Piece) :=
  [.code "    if " :: (program.condition.pieces ++ [.code " then"]),
   [.code "        i=i+1"],
   .code "        if " :: (windowPieces program.window ++ [.code " then"]),
   .code "            " :: accumulatePieces program.kind program.order,
   [.code "        end"],
   [.code "    end"],
   [.code "end"]]

/-- The pieces of the lines of a program. -/
def linePieces (program : ScanProgram) : List (List Piece) :=
  [.code "local key=", .quoted program.space.stem] :: candidatePieces program.order ++
    startPieces ++ program.columns.entries.map aliasPieces ++ matchPieces program ++
    codeLines (returnLines program.kind)

/-- The pieces of a program. -/
def pieces (program : ScanProgram) : List Piece :=
  program.linePieces.flatMap fun line => line ++ [.code "\n"]

private theorem charsOf_codeLines (lines : List String) :
    (codeLines lines).map charsOf = lines.map String.toList := by
  rw [codeLines, List.map_map]
  exact congrArg (lines.map ·) (funext fun line => List.append_nil _)

private theorem charsOf_fieldPieces (before column after : String) :
    charsOf (fieldPieces before column after) =
      (before ++ fieldSource column ++ after).toList := by
  unfold fieldPieces fieldOpening fieldSource
  simp only [charsOf_cons, charsOf_nil, Piece.source, String.toList_append, List.append_assoc,
    List.append_nil]

private theorem charsOf_candidatePieces (order : Option OrderTerm) :
    (candidatePieces order).map charsOf = (candidateLines order).map String.toList := by
  cases order with
  | none => exact charsOf_codeLines _
  | some term =>
    simp only [candidatePieces, candidateLines, sortPieces, charsOf_cons, charsOf_nil, Piece.source,
      String.toList_append, List.map_cons, List.map_nil, List.append_assoc, List.append_nil]

private theorem charsOf_windowPieces (window : Window) :
    charsOf (windowPieces window) = (windowSource window).toList := by
  rw [windowPieces, windowSource]
  cases window.end? <;>
    simp only [charsOf_cons, charsOf_nil, Piece.source, String.toList_append, String.toList_empty,
      List.append_assoc, List.append_nil]

private theorem charsOf_accumulatePieces (kind : Query.Kind) (order : Option OrderTerm) :
    charsOf (accumulatePieces kind order) = (accumulateSource kind order).toList := by
  unfold accumulatePieces accumulateSource
  cases kind <;>
    simp only [charsOf_fieldPieces, charsOf_cons, charsOf_nil, Piece.source, String.append_empty,
      List.append_nil]

private theorem charsOf_aliasPieces (entry : String × String) : charsOf (aliasPieces entry) =
    ("    local " ++ entry.2 ++ "=" ++ fieldSource entry.1).toList := by
  unfold aliasPieces fieldOpening fieldSource
  simp only [charsOf_cons, charsOf_nil, Piece.source, String.toList_append, List.append_assoc,
    List.append_nil]

private theorem charsOf_linePieces (program : ScanProgram) :
    program.linePieces.map charsOf = program.lines.map String.toList := by
  have aliases : (program.columns.entries.map aliasPieces).map charsOf =
      (aliasLines program.columns).map String.toList := by
    simp only [aliasLines, List.map_map, Function.comp_def, charsOf_aliasPieces]
  simp only [linePieces, startPieces, matchPieces, lines, List.map_append, aliases,
    charsOf_codeLines, charsOf_candidatePieces, List.map_cons, List.map_nil, charsOf_cons, charsOf_nil,
    charsOf_append, Condition.charsOf_pieces, charsOf_windowPieces, charsOf_accumulatePieces,
    Piece.source, String.toList_append, List.append_assoc, List.append_nil, List.cons_append,
    List.nil_append]

/-- The source of a program is that of its pieces. -/
theorem toList_source (program : ScanProgram) :
    program.source.toList = charsOf program.pieces := by
  have ended : ∀ texts : List String, (String.join (texts.map (· ++ "\n"))).toList =
      (texts.map String.toList).flatMap fun line => line ++ ['\n'] := by
    intro texts
    induction texts with
    | nil => rfl
    | cons text rest ih => simp [String.join_cons, ih]
  have gathered : charsOf program.pieces =
      (program.linePieces.map charsOf).flatMap fun line => line ++ ['\n'] := by
    have ended (line : List Piece) : charsOf (line ++ [.code "\n"]) = charsOf line ++ ['\n'] :=
      charsOf_append line _
    rw [pieces, charsOf, List.flatMap_assoc, List.flatMap_map]
    exact congrArg (program.linePieces.flatMap ·) (funext ended)
  rw [source, ended, gathered, charsOf_linePieces]

end ScanProgram

end Rowscan
