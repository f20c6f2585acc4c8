import Rowscan.Condition.Aliases
import Rowscan.Condition.Basic
import Rowscan.Failure

/-!
Compiling filters to conditions. Every column that a condition reads gets an alias, registered
at its first use from left to right. Only pattern conditions cannot be compiled.
-/
namespace Rowscan

namespace Condition

/-- A comparison of an aliased column (`comparison`). It is numeric exactly if the value is. -/
def ofComparison (label : String) (op : CompareOp) (value : Literal) : Condition :=
  .compare label op value.boolAsInt value.boolAsInt.isNumeric

/-- The column equals the value; equality with null means that the field is absent (`equality`). -/
def ofEquality (column : String) (value : Literal) (aliases : Aliases) : Condition × Aliases :=
  match value with
  | .null => (.absent column, aliases)
  | value =>
    let (label, aliases) := aliases.register column
    (.equal label value.boolAsInt, aliases)

/-- Compiles several parts from left to right. -/
def compileEach {α : Type} (part : α → Aliases → Condition × Aliases) :
    List α → Aliases → List Condition × Aliases
  | [], aliases => ([], aliases)
  | item :: rest, aliases =>
    let (condition, aliases) := part item aliases
    let (conditions, aliases) := compileEach part rest aliases
    (condition :: conditions, aliases)

/-- An item of a set over several columns: every column equals the item's value for it. -/
def ofTuple (columns : List String) (item : SetItem) (aliases : Aliases) :
    Condition × Aliases :=
  let (conditions, aliases) :=
    compileEach (fun column => ofEquality column (item.field column)) columns aliases
  (.conjunction conditions, aliases)

/-- Membership: the columns match one of the items (`compile_in`). Nothing is in an empty set or
under no columns, and everything is outside it. -/
def ofMembership (columns : List String) (items : List SetItem) (negated : Bool)
    (aliases : Aliases) : Condition × Aliases :=
  if items.isEmpty || columns.isEmpty then (.constant negated, aliases)
  else
    let part := match columns with
      | [column] => fun item => ofEquality column (SetItem.single column item)
      | columns => ofTuple columns
    let (alternatives, aliases) := compileEach part items aliases
    (if negated then .negation (.disjunction alternatives) else .disjunction alternatives, aliases)

/-- One entry of a hash condition. -/
def ofHashEntry (entry : String × HashValue) (aliases : Aliases) : Condition × Aliases :=
  match entry.2 with
  | .list items => ofMembership [entry.1] items false aliases
  | .value literal => ofEquality entry.1 literal aliases

/-- A hash condition: its only entry as it is, several joined, and no condition without any
(`compile_hash`). -/
def ofHash (entries : List (String × HashValue)) (aliases : Aliases) : Condition × Aliases :=
  let (conditions, aliases) := compileEach ofHashEntry entries aliases
  (match conditions with
    | [] => .empty
    | [only] => only
    | conditions => .conjunction conditions, aliases)

/-- A range, both ends included. -/
def ofRange (column : String) (low high : Literal) (negated : Bool) (aliases : Aliases) :
    Condition × Aliases :=
  let (label, aliases) := aliases.register column
  let range := .conjunction
    [ofComparison label .greaterOrEqual low, ofComparison label .lessOrEqual high]
  (if negated then .negation range else range, aliases)

/-- The opposite. An empty condition holds of everything, so its opposite holds of nothing. -/
def opposite (condition : Condition) : Condition :=
  if condition.isEmpty then .constant false else .negation condition

/-- A junction of what is left when empty operands are dropped (`junction`). -/
def junction (join : List Condition → Condition) (conditions : List Condition) : Condition :=
  match conditions.filter (!·.isEmpty) with
  | [] => .empty
  | conditions => join conditions

end Condition

namespace Filter

open Condition

/-- Pattern conditions cannot be run by a script. -/
def likeRefused (op : LikeOp) : Failure :=
  .notSupported ("'" ++ op.name ++ "' conditions cannot be evaluated server-side")

mutual

/-- Compiles a filter, and the aliases that are left: also where it is refused, the columns before
the pattern stay registered. -/
def compileKeeping : Filter → Aliases → Except Failure Condition × Aliases
  | .hash entries, aliases =>
    let (condition, aliases) := ofHash entries aliases
    (.ok condition, aliases)
  | .negation filter, aliases =>
    let (outcome, aliases) := compileKeeping filter aliases
    (outcome.map opposite, aliases)
  | .conjunction filters, aliases =>
    let (outcome, aliases) := compileAllKeeping filters aliases
    (outcome.map (junction .conjunction), aliases)
  | .disjunction filters, aliases =>
    let (outcome, aliases) := compileAllKeeping filters aliases
    (outcome.map (junction .disjunction), aliases)
  | .between column low high negated, aliases =>
    let (condition, aliases) := ofRange column low high negated aliases
    (.ok condition, aliases)
  | .membership columns items negated, aliases =>
    let (condition, aliases) := ofMembership columns items negated aliases
    (.ok condition, aliases)
  | .compare op column value, aliases =>
    let (label, aliases) := aliases.register column
    (.ok (ofComparison label op value), aliases)
  | .like op _ _, aliases => (.error (likeRefused op), aliases)
  | .raw condition, aliases => (.ok (.raw condition), aliases)
termination_by structural filter => filter

/-- Compiles filters up to the first that is refused, and the aliases that are left. -/
def compileAllKeeping : List Filter → Aliases → Except Failure (List Condition) × Aliases
  | [], aliases => (.ok [], aliases)
  | filter :: rest, aliases =>
    match compileKeeping filter aliases with
    | (.error failure, aliases) => (.error failure, aliases)
    | (.ok condition, aliases) =>
      let (outcome, aliases) := compileAllKeeping rest aliases
      (outcome.map (condition :: ·), aliases)
termination_by structural filters => filters

end

/-- The condition of a filter, and the aliases with those it needs (`compile`). -/
def compile (filter : Filter) (aliases : Aliases) : Except Failure (Condition × Aliases) :=
  let (outcome, aliases) := compileKeeping filter aliases
  outcome.map fun condition => (condition, aliases)

/-- The conditions of several filters, in order (`compile_all`). -/
def compileAll (filters : List Filter) (aliases : Aliases) :
    Except Failure (List Condition × Aliases) :=
  let (outcome, aliases) := compileAllKeeping filters aliases
  outcome.map fun conditions => (conditions, aliases)

end Filter

namespace Aliases

/-- A call on a registry. -/
inductive Call where
  | register (column : String)
  | compile (filter : Filter)

/-- The registry after a call. -/
def perform (aliases : Aliases) : Call → Aliases
  | .register column => (aliases.register column).2
  | .compile filter => (filter.compileKeeping aliases).2

/-- The registry after several calls, in order. -/
def performAll (aliases : Aliases) (calls : List Call) : Aliases := calls.foldl perform aliases

end Aliases
end Rowscan
