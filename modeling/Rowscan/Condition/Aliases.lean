/-!
Aliases of columns. The first use of a column registers a local name for it: the letter `c`, the
ASCII letters of the column, and the number of columns registered before. The number keeps
aliases apart and clear of the words of the script language.
-/
namespace Rowscan

/-- Registered columns and their aliases, in the order of registration (`ColumnAliases`). -/
structure Aliases where
  entries : List (String × String)
  deriving DecidableEq, Inhabited

namespace Aliases

/-- No column is registered (`ColumnAliases::new`). -/
def empty : Aliases := ⟨[]⟩

/-- The number of columns (`ColumnAliases::len`). -/
def size (aliases : Aliases) : Nat := aliases.entries.length

/-- Whether no column is registered (`ColumnAliases::is_empty`). -/
def isEmpty (aliases : Aliases) : Bool := aliases.entries.isEmpty

/-- The alias of a registered column (`ColumnAliases::get`). -/
def find? (aliases : Aliases) (column : String) : Option String := aliases.entries.lookup column

/-- Whether a character is an ASCII letter. -/
def isLetter (c : Char) : Bool := c.isAlpha

/-- The alias of a column that is registered as number `index`. -/
def nameFor (column : String) (index : Nat) : String :=
  String.ofList ('c' :: column.toList.filter isLetter ++ Nat.toDigits 10 index)

/-- The alias of a column, which is registered if it is new (`ColumnAliases::alias`). -/
def register (aliases : Aliases) (column : String) : String × Aliases :=
  match aliases.find? column with
  | some name => (name, aliases)
  | none =>
    let name := nameFor column aliases.size
    (name, ⟨aliases.entries ++ [(column, name)]⟩)

/-- The aliases of several columns, in order. -/
def registerAll (aliases : Aliases) : List String → List String × Aliases
  | [] => ([], aliases)
  | column :: rest =>
    let (name, aliases) := aliases.register column
    let (names, aliases) := aliases.registerAll rest
    (name :: names, aliases)

end Aliases
end Rowscan
