import Rowscan.Condition.Compile
import Rowscan.Key
import Rowscan.Query.Basic

/-!
Scan programs: one script that walks the key list of a table, keeps the rows that meet a
condition, and gathers the answer of one kind from those in the window. A program is data;
`source` is its text.
-/
namespace Rowscan

/-- A scan over one table. -/
structure ScanProgram where
  space : KeySpace
  kind : Query.Kind
  condition : Condition
  columns : Aliases
  order : Option OrderTerm
  window : Window
  deriving Inhabited

namespace ScanProgram

/-- The program of a query (`ScriptBuilder::build`). An absent or empty condition holds of every
row. -/
def ofQuery (space : KeySpace) (query : Query) (kind : Query.Kind) :
    Except Failure ScanProgram := do
  let order ← query.singleOrder
  let (condition, columns) ← match query.filter with
    | some filter => filter.compile .empty
    | none => .ok (.empty, .empty)
  return {
    space, kind, columns, order
    condition := if condition.isEmpty then .constant true else condition
    window := query.window }

/-! ## Source text -/

/-- The expression for the hash of the row at hand. -/
def rowKeySource : String := "key .. ':a:' .. pk"

/-- The expression for a field of the row at hand. -/
def fieldSource (column : String) : String :=
  "redis.call('HGET'," ++ rowKeySource ++ "," ++ Lua.quote column ++ ")"

/-- The expression for the whole row at hand. -/
def rowSource : String := "redis.call('HGETALL'," ++ rowKeySource ++ ")"

/-- The lines that list the keys to visit (`write_candidates`). An order sorts as numbers first; if
some value is no number, that fails, and the values are sorted as texts. -/
def candidateLines : Option OrderTerm → List String
  | none => ["local allpks=redis.call('LRANGE',key,0,-1)"]
  | some term =>
    let sort := "'SORT',key,'BY',key .. ':a:*->' .. " ++ Lua.quote term.column ++ ",'" ++
      term.direction.symbol ++ "'"
    ["local allpks=redis.pcall(" ++ sort ++ ")",
     "if allpks['err'] then",
     "    allpks=redis.call(" ++ sort ++ ",'ALPHA')",
     "end"]

/-- The test whether the match at hand is in the window (`write_window`). -/
def windowSource (window : Window) : String :=
  "i>" ++ toString window.offset ++
    match window.end? with
    | none => ""
    | some last => " and i<=" ++ toString last

/-- The statement that a match in the window runs (`accumulate`). -/
def accumulateSource (kind : Query.Kind) (order : Option OrderTerm) : String :=
  match kind with
  | .all => "n=n+1 pks[n]=" ++ rowSource
  | .one =>
    if order.isNone then "do return " ++ rowSource ++ " end"
    else "if n==0 then n=1 pks=" ++ rowSource ++ " end"
  | .count => "n=n+1"
  | .column name => "n=n+1 pks[n]=" ++ fieldSource name
  | .sum name => "n=n+(tonumber(" ++ fieldSource name ++ ") or 0)"
  | .average name =>
    "local x=tonumber(" ++ fieldSource name ++ ") if x~=nil then n=n+1 v=(v or 0)+x end"
  | .min name =>
    "local x=tonumber(" ++ fieldSource name ++ ") if x~=nil and (v==nil or x<v) then v=x end"
  | .max name =>
    "local x=tonumber(" ++ fieldSource name ++ ") if x~=nil and (v==nil or x>v) then v=x end"

/-- A number with enough digits to read back (`exact`). -/
def exactSource (expression : String) : String := "string.format('%.17g'," ++ expression ++ ")"

/-- The lines that return the answer (`write_return`). -/
def returnLines : Query.Kind → List String
  | .all | .one | .column _ => ["return pks"]
  | .count => ["return n"]
  | .sum _ => ["return " ++ exactSource "n"]
  | .average _ => ["if n==0 then return false end", "return " ++ exactSource "v/n"]
  | .min _ | .max _ => ["if v==nil then return false end", "return " ++ exactSource "v"]

/-- The declarations of the aliased fields, one line each. -/
def aliasLines (columns : Aliases) : List String :=
  columns.entries.map fun (column, label) => "    local " ++ label ++ "=" ++ fieldSource column

/-- The lines of a program (`ScanProgram::fmt`). -/
def lines (program : ScanProgram) : List String :=
  ["local key=" ++ Lua.quote program.space.stem] ++
  candidateLines program.order ++
  ["local pks=\x7b\x7d", "local n=0", "local v=nil", "local i=0",
   "for _,pk in ipairs(allpks) do"] ++
  aliasLines program.columns ++
  ["    if " ++ program.condition.render ++ " then",
   "        i=i+1",
   "        if " ++ windowSource program.window ++ " then",
   "            " ++ accumulateSource program.kind program.order,
   "        end",
   "    end",
   "end"] ++
  returnLines program.kind

/-- The text of a program, every line ended (`ScanProgram::source`). -/
def source (program : ScanProgram) : String := String.join (program.lines.map (· ++ "\n"))

end ScanProgram
end Rowscan
