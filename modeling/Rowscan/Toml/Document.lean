import Rowscan.Toml.Scalar

/-!
Reading TOML documents: values that nest, the lines of a document, and the tables that they make
up.
-/
namespace Rowscan.Toml

/-- Arrays, inline tables and the parts of a key nest at most this deep. -/
def nestingLimit : Nat := 79

/-- A key of a limited number of parts: the parts before the last, and the last. -/
def readPath? (chars : List Char) : Option (List String × String × List Char) :=
  match readKey? nestingLimit chars with
  | some (parts, rest) => parts.getLast?.map fun last => (parts.dropLast, last, rest)
  | none => none

/-- Skips spaces, line ends and comments. -/
def skipBlank : Nat → List Char → List Char
  | 0, chars => chars
  | fuel + 1, chars =>
    match skipSpace chars with
    | '#' :: rest =>
      match afterNewline? (rest.dropWhile isPlain) with
      | some rest => skipBlank fuel rest
      | none => '#' :: rest
    | chars =>
      match afterNewline? chars with
      | some rest => skipBlank fuel rest
      | none => chars

/-- Skips spaces, line ends and comments as far as they go. -/
def skipBlanks (chars : List Char) : List Char := skipBlank (chars.length + 1) chars

/-- The items of an array, up to its closing bracket. A comma may follow the last. -/
def readItems? (readValue : List Char → Option (Value × List Char)) :
    Nat → List Value → List Char → Option (List Value × List Char)
  | 0, _, _ => none
  | fuel + 1, before, chars =>
    match skipBlanks chars with
    | ']' :: rest => some (before.reverse, rest)
    | chars =>
      (readValue chars).bind fun (item, rest) =>
        match skipBlanks rest with
        | ',' :: rest => readItems? readValue fuel (item :: before) rest
        | ']' :: rest => some ((item :: before).reverse, rest)
        | _ => none

/-- The entries of an inline table, up to its closing brace. -/
def readInline? (readValue : List Char → Option (Value × List Char)) :
    Nat → Entries → List Char → Option (Entries × List Char)
  | 0, _, _ => none
  | fuel + 1, entries, chars => do
    let (path, key, rest) ← readPath? chars
    let rest ← after? '=' rest
    let (value, rest) ← readValue (skipSpace rest)
    let entries ← entries.define value key path true
    match skipSpace rest with
    | ',' :: rest => readInline? readValue fuel entries rest
    | '\x7d' :: rest => return (entries, rest)
    | _ => none

/-- A word as a value. -/
def readWord? (word : String) (value : Value) (chars : List Char) : Option (Value × List Char) :=
  if word.toList.isPrefixOf chars then some (value, chars.drop word.toList.length) else none

/-- A value that nests at most `depth` deep. -/
def readValue? : Nat → List Char → Option (Value × List Char)
  | depth, chars =>
    match chars with
    | [] => none
    | '"' :: _ => (readString? chars).map fun (text, rest) => (.string text, rest)
    | '\'' :: _ => (readString? chars).map fun (text, rest) => (.string text, rest)
    | '[' :: rest =>
      match depth with
      | 0 => none
      | depth + 1 =>
        (readItems? (readValue? depth) (rest.length + 1) [] rest).map fun (items, rest) =>
          (.array items, rest)
    | '\x7b' :: rest =>
      match depth with
      | 0 => none
      | depth + 1 =>
        match skipSpace rest with
        | '\x7d' :: rest => some (.table [], rest)
        | rest =>
          (readInline? (readValue? depth) (rest.length + 1) [] rest).map fun (entries, rest) =>
            ((Node.table .header entries).finish, rest)
    | 't' :: _ => readWord? "true" (.boolean true) chars
    | 'f' :: _ => readWord? "false" (.boolean false) chars
    | chars =>
      match readDatetime? chars with
      | some value => some value
      | none => readNumber? chars

/-- The text after the rest of a line, which may only be a comment. -/
def afterLine? (chars : List Char) : Option (List Char) :=
  match skipComment (skipSpace chars) with
  | [] => some []
  | rest => afterNewline? rest

/-- A document in the making: its tables, and the path of the one that keys go into. -/
structure Draft where
  root : Entries
  path : List String

/-- Reads a header. -/
def readHeader? (draft : Draft) (chars : List Char) : Option (Draft × List Char) :=
  match chars with
  | '[' :: '[' :: rest => do
    let (path, key, rest) ← readPath? rest
    let rest ← after? ']' rest
    let rest ← after? ']' rest
    let root ← draft.root.modify (Entries.openNextTable key) path
    return (⟨root, path ++ [key]⟩, rest)
  | '[' :: rest => do
    let (path, key, rest) ← readPath? rest
    let rest ← after? ']' rest
    let root ← draft.root.modify (Entries.openTable key) path
    return (⟨root, path ++ [key]⟩, rest)
  | _ => none

/-- Reads a key and its value. -/
def readEntry? (draft : Draft) (chars : List Char) : Option (Draft × List Char) := do
  let (path, key, rest) ← readPath? chars
  let rest ← after? '=' rest
  let (value, rest) ← readValue? nestingLimit (skipSpace rest)
  let root ← draft.root.modify (Entries.define value key path true) draft.path
  return ({ draft with root }, rest)

/-- Reads the lines of a document. -/
def readLinesOf? : Nat → Draft → List Char → Option Entries
  | 0, _, _ => none
  | fuel + 1, draft, chars =>
    match skipBlanks chars with
    | [] => some draft.root
    | '#' :: rest => if (rest.dropWhile isPlain).isEmpty then some draft.root else none
    | '[' :: rest => do
      let (draft, rest) ← readHeader? draft ('[' :: rest)
      readLinesOf? fuel draft (← afterLine? rest)
    | chars => do
      let (draft, rest) ← readEntry? draft chars
      readLinesOf? fuel draft (← afterLine? rest)

/-- The table that a document stands for, if it is well-formed. A mark of the byte order may
come first. -/
def read? (text : String) : Option (List (String × Value)) :=
  let chars := match text.toList with
    | '\ufeff' :: rest => rest
    | chars => chars
  (readLinesOf? (chars.length + 1) ⟨[], []⟩ chars).map finishEntries

end Rowscan.Toml
