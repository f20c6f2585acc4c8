import Rowscan.Numeral
import Rowscan.Query.Basic

/-!
Sorting rows by a column the way the server sorts by it. If every value is a number or missing,
rows go by number, a missing value counting as zero, and equal numbers go by the encoded key.
Otherwise they go by the text of the value, missing values first, and equal texts stay in their
order. A descending order turns the whole comparison around.
-/
namespace Rowscan

/-- An item to sort: its value in the column, its encoded key, and what it carries. -/
structure SortEntry (α : Type) where
  value : Option String
  key : String
  item : α

namespace SortEntry

variable {α : Type}

/-- The number that an entry sorts by, unless it holds a text that is none. -/
def score? (entry : SortEntry α) : Option Double :=
  match entry.value with
  | none => some .zero
  | some text => toNumber? text

/-- Whether all entries sort by number. -/
def areNumeric (entries : List (SortEntry α)) : Bool := entries.all (·.score?.isSome)

/-- The place of an entry's number among all numbers. -/
def rank (entry : SortEntry α) : Int := (entry.score?.getD .zero).rank

/-- By number, then by key. -/
def compareNumeric (a b : SortEntry α) : Ordering :=
  (compare a.rank b.rank).then (compare a.key b.key)

/-- By text, missing values first. -/
def compareText (a b : SortEntry α) : Ordering :=
  match a.value, b.value with
  | none, none => .eq
  | none, some _ => .lt
  | some _, none => .gt
  | some x, some y => compare x y

/-- The entries in order (`natural_order`). -/
def sort (direction : Direction) (entries : List (SortEntry α)) : List (SortEntry α) :=
  let comparison := if areNumeric entries then compareNumeric else compareText
  entries.mergeSort fun a b => (direction.orient (comparison a b)).isLE

end SortEntry
end Rowscan
