import Rowscan.Failure
import Rowscan.Filter.Basic

/-!
Queries: a filter, an order and a window on the rows that match, and the kinds of answer that
can be asked for.
-/
namespace Rowscan

/-- The direction of an order. -/
inductive Direction where
  | ascending
  | descending
  deriving DecidableEq, Inhabited

/-- How a direction is written (`Direction::as_str`). -/
def Direction.symbol : Direction → String
  | .ascending => "ASC"
  | .descending => "DESC"

/-- Turns an ascending comparison into the direction (`Direction::apply`). -/
def Direction.orient : Direction → Ordering → Ordering
  | .ascending, ordering => ordering
  | .descending, ordering => ordering.swap

/-- An order by one column (`OrderBy`). -/
structure OrderTerm where
  column : String
  direction : Direction
  deriving DecidableEq, Inhabited

/-- The part of the matching rows that is wanted: after the first `offset`, `limit` of them. Rows
are counted from one. -/
structure Window where
  offset : Nat
  limit : Option Nat
  deriving DecidableEq, Inhabited

namespace Window

/-- The last position that can be written: positions have 64 bits. -/
def lastPosition : Nat := UInt64.size - 1

/-- The last position in a bounded window, or the last one that can be written (`Window::end`). -/
def end? (window : Window) : Option Nat :=
  window.limit.map fun limit => min (window.offset + limit) lastPosition

/-- Whether the row at a position is in the window. -/
def contains (window : Window) (position : Nat) : Bool :=
  window.offset < position &&
    match window.limit with
    | none => true
    | some limit => position ≤ window.offset + limit

/-- Whether every row after a position is past the window. -/
def isPast (window : Window) (position : Nat) : Bool :=
  match window.limit with
  | none => false
  | some limit => window.offset + limit ≤ position

/-- Whether a position is in the window, up to its written end (`Window::contains`). -/
def isInside (window : Window) (position : Nat) : Bool :=
  window.offset < position && window.end?.all fun last => position ≤ last

/-- Whether a position has reached the written end of the window (`Window::exhausted`). -/
def isExhausted (window : Window) (position : Nat) : Bool :=
  match window.end? with
  | none => false
  | some last => last ≤ position

/-- The items of a list whose positions are in the window. -/
def slice {α : Type} (window : Window) (items : List α) : List α :=
  ((items.zipIdx 1).filter fun item => window.contains item.2).map (·.1)

end Window

/-- A query on the rows of a table. -/
structure Query where
  filter : Option Filter := none
  order : List OrderTerm := []
  offset : Option Nat := none
  limit : Option Nat := none
  deriving Inhabited

namespace Query

/-- The window of the query (`Query::window`). -/
def window (query : Query) : Window := ⟨query.offset.getD 0, query.limit⟩

/-- The order of the query, which may name one column at most (`single_order`). -/
def singleOrder (query : Query) : Except Failure (Option OrderTerm) :=
  match query.order with
  | [] => .ok none
  | [term] => .ok (some term)
  | _ => .error (.notSupported "ordering by multiple columns is not supported")

/-- The kinds of answer (`QueryKind`). -/
inductive Kind where
  /-- Every matching row. -/
  | all
  /-- The first matching row. -/
  | one
  | count
  /-- A field of every matching row. -/
  | column (name : String)
  | sum (name : String)
  | average (name : String)
  | min (name : String)
  | max (name : String)
  deriving DecidableEq, Inhabited

/-- The name of a kind (`QueryKind::name`). -/
def Kind.name : Kind → String
  | .all => "all"
  | .one => "one"
  | .count => "count"
  | .column _ => "column"
  | .sum _ => "sum"
  | .average _ => "average"
  | .min _ => "min"
  | .max _ => "max"

end Query
end Rowscan
