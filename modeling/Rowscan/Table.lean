import Rowscan.Key

/-!
Tables: the name that their keys start with, and the fields of their primary key.
-/
namespace Rowscan

/-- A table. -/
structure Table where
  name : String
  primaryKey : List String := ["id"]
  deriving DecidableEq, Inhabited

namespace Table

/-- Whether the primary key has several fields (`has_composite_key`). -/
def hasCompositeKey (table : Table) : Bool := 1 < table.primaryKey.length

/-- The key space of the table (`key_prefix`). -/
def keySpace (table : Table) (clustered : Bool) : KeySpace := .ofTable table.name clustered

/-- Whether the columns are exactly the fields of the primary key, in any order and however often
repeated (`is_primary_key`). -/
def isPrimaryKey (table : Table) (columns : List String) : Bool :=
  !columns.isEmpty && columns.all table.primaryKey.contains && table.primaryKey.all columns.contains

end Table
end Rowscan
