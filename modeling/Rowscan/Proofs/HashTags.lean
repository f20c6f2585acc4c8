import Mathlib.Data.List.Basic
import Rowscan.Table

/-!
Where a cluster keeps the keys of a table. A key is placed by the text in its first pair of braces,
if there is any (`hashTag`). The keys of a table start with its name in braces, so they share a tag
unless the braces close at once. They do so for the empty name, and for every name that starts with
a closing brace (`hashTag_shared_iff`).
-/
namespace Rowscan

/-- What a cluster places a key by: the text between the first opening brace and the first closing
brace behind it, if there is such a text, and otherwise the whole key. -/
def hashTag (key : String) : String :=
  let inner := (key.toList.dropWhile (· ≠ '\x7b')).tail
  let tag := inner.takeWhile (· ≠ '\x7d')
  if '\x7d' ∈ inner ∧ tag ≠ [] then String.ofList tag else key

/-- The characters of a name that braces around it enclose: those before its first closing brace. -/
def enclosed (name : String) : List Char := name.toList.takeWhile (· ≠ '\x7d')

theorem enclosed_ne_nil_iff {name : String} :
    enclosed name ≠ [] ↔ name ≠ "" ∧ name.toList.head? ≠ some '\x7d' := by
  rw [enclosed, ne_eq, ne_eq, ← String.toList_eq_nil_iff]
  cases name.toList with
  | nil => simp
  | cons first rest => by_cases closing : first = '\x7d' <;> simp [closing]

private theorem takeWhile_closed (inside rest : List Char) :
    (inside ++ '\x7d' :: rest).takeWhile (· ≠ '\x7d') = inside.takeWhile (· ≠ '\x7d') := by
  induction inside with
  | nil => simp
  | cons first more ih => rw [List.cons_append, List.takeWhile_cons, List.takeWhile_cons, ih]

/-- A key that starts with a name in braces is placed by what they enclose. -/
theorem hashTag_of_braced {key name : String} {rest : List Char}
    (braced : key.toList = '\x7b' :: (name.toList ++ '\x7d' :: rest)) :
    hashTag key = if enclosed name ≠ [] then String.ofList (enclosed name) else key := by
  have inner : (key.toList.dropWhile (· ≠ '\x7b')).tail = name.toList ++ '\x7d' :: rest := by
    rw [braced]
    simp
  have tag : (name.toList ++ '\x7d' :: rest).takeWhile (· ≠ '\x7d') = enclosed name :=
    takeWhile_closed _ _
  have closed : '\x7d' ∈ name.toList ++ '\x7d' :: rest := by simp
  rw [hashTag, inner, tag]
  by_cases given : enclosed name ≠ []
  · rw [if_pos ⟨closed, given⟩, if_pos given]
  · rw [if_neg fun both => given both.2, if_neg given]

namespace KeySpace

variable (name : String)

/-- Every key of a table on a cluster starts with the table's name in braces. -/
theorem toList_stem_append (suffix : String) : ((ofTable name true).stem ++ suffix).toList =
    '\x7b' :: (name.toList ++ '\x7d' :: suffix.toList) := by
  simp [ofTable]

private theorem hashTag_stem_append (suffix : String) :
    hashTag ((ofTable name true).stem ++ suffix) =
    if enclosed name ≠ [] then String.ofList (enclosed name)
    else (ofTable name true).stem ++ suffix :=
  hashTag_of_braced (toList_stem_append name suffix)

/-- On a cluster, the keys of the rows, counters and list of a table have one tag if and only if
the table's name is neither empty nor starts with a closing brace. -/
theorem hashTag_shared_iff (key field : String) :
    (hashTag ((ofTable name true).rowKey key) = hashTag (ofTable name true).listKey ∧
      hashTag ((ofTable name true).counterKey field) = hashTag (ofTable name true).listKey) ↔
      name ≠ "" ∧ name.toList.head? ≠ some '\x7d' := by
  have row : (ofTable name true).rowKey key = (ofTable name true).stem ++ (":a:" ++ key) :=
    String.append_assoc
  have counter : (ofTable name true).counterKey field =
      (ofTable name true).stem ++ (":s:" ++ field) := String.append_assoc
  have list : (ofTable name true).listKey = (ofTable name true).stem ++ "" :=
    String.append_empty.symm
  rw [row, counter, list, hashTag_stem_append, hashTag_stem_append, hashTag_stem_append,
    ← enclosed_ne_nil_iff]
  by_cases given : enclosed name ≠ []
  · simp [given]
  · -- Each key is its own tag, and the list's is shorter.
    rw [if_neg given, if_neg given, if_neg given, String.append_right_inj]
    apply iff_of_false _ given
    rintro ⟨none, -⟩
    simp at none

/-- A closing brace at the end of a name does no harm, and one at the start does. -/
theorem hashTag_shared_braces :
    (hashTag ((ofTable "x\x7d" true).rowKey "1") = hashTag (ofTable "x\x7d" true).listKey ∧
      hashTag ((ofTable "x\x7d" true).counterKey "id") = hashTag (ofTable "x\x7d" true).listKey) ∧
    ¬ (hashTag ((ofTable "\x7dx" true).rowKey "1") = hashTag (ofTable "\x7dx" true).listKey ∧
      hashTag ((ofTable "\x7dx" true).counterKey "id") = hashTag (ofTable "\x7dx" true).listKey) := by
  constructor
  · exact (hashTag_shared_iff "x\x7d" "1" "id").2 ⟨by decide, by decide⟩
  · intro shared
    exact ((hashTag_shared_iff "\x7dx" "1" "id").1 shared).2 (by decide)

end KeySpace
end Rowscan
