import Mathlib.Data.List.Nodup
import Rowscan.Proofs.Numerals
import Rowscan.Proofs.TomlTables

/-!
TOML as settings are written in it, read back. A plain value is a text, a natural number, a flag or
a list of texts; it is read as itself wherever a line ends behind it (`readValue?_write`). A table
is written as its header and one line for each of its fields, and reading them puts the fields into
the table that the header opens, wherever that stands in the document (`LinesRead.header`,
`LinesRead.nextHeader`, `LinesRead.fields`).
-/
namespace Rowscan.Toml

/-! ## Skipping -/

/-- A character that nothing skips: no blank, no part of a line end and no mark of a comment. -/
def isInk (c : Char) : Bool := !isSpace c && c ≠ '\n' && c ≠ '\r' && c ≠ '#'

section Skipping

variable {c : Char} {rest : List Char}

theorem skipSpace_ink (ink : isInk c = true) : skipSpace (c :: rest) = c :: rest := by
  simp only [isInk, Bool.and_eq_true, Bool.not_eq_true'] at ink
  exact List.dropWhile_cons_of_neg (by simp [ink.1.1.1])

private theorem afterNewline?_ink (ink : isInk c = true) : afterNewline? (c :: rest) = none := by
  simp only [isInk, Bool.and_eq_true, Bool.not_eq_true', decide_eq_true_eq] at ink
  unfold afterNewline?
  split <;> simp_all

theorem skipBlanks_of_skipSpace {chars : List Char} (ink : isInk c = true)
    (skipped : skipSpace chars = c :: rest) : skipBlanks chars = c :: rest := by
  have mark : c ≠ '#' := by
    rintro rfl
    cases ink
  rw [skipBlanks, skipBlank, skipped]
  split
  next same => exact absurd (List.cons.inj same).1 mark
  next => rw [afterNewline?_ink ink]

theorem skipBlanks_ink (ink : isInk c = true) : skipBlanks (c :: rest) = c :: rest :=
  skipBlanks_of_skipSpace ink (skipSpace_ink ink)

end Skipping

/-! ## Strings -/

/-- A character inside a string in double quotes. -/
def escapeChar (c : Char) : List Char :=
  if c = '"' ∨ c = '\\' then ['\\', c]
  else if isPlain c then [c]
  else ['\\', 'u', '0', '0', (c.toNat / 16).digitChar, (c.toNat % 16).digitChar]

/-- A text as a string in double quotes. -/
def writeString (text : String) : List Char := '"' :: (text.toList.flatMap escapeChar ++ ['"'])

section Strings

variable {c : Char} {rest : List Char}

private theorem readEscape?_code (control : isPlain c = false) :
    readEscape? ('u' :: '0' :: '0' :: (c.toNat / 16).digitChar :: (c.toNat % 16).digitChar ::
      rest) = some (c, rest) := by
  have small : c.toNat < 128 := by
    simp only [isPlain, Bool.or_eq_false_iff, Bool.and_eq_false_iff, decide_eq_false_iff_not]
      at control
    omega
  have codes : ∀ code < 128,
      hexValue? ['0', '0', (code / 16).digitChar, (code % 16).digitChar] = some code := by decide
  have surrogate : c.toNat < 0xD800 := small.trans (by decide)
  simp [readEscape?, readCodePoint?, codes c.toNat small, surrogate]

private theorem readBasic?_escapeChar (fuel : Nat) (before : List Char) :
    readBasic? (fuel + 1) before (escapeChar c ++ rest) = readBasic? fuel (c :: before) rest := by
  unfold escapeChar
  split
  next special =>
    rcases special with rfl | rfl <;> rfl
  next plain =>
    rw [not_or] at plain
    split
    next shown => simp [readBasic?, plain, shown]
    next hidden =>
      rw [Bool.not_eq_true] at hidden
      rw [List.cons_append, readBasic?]
      simp [readEscape?_code hidden]

private theorem readBasic?_escaped (chars : List Char) {fuel : Nat} (room : chars.length < fuel)
    (before : List Char) :
    readBasic? fuel before (chars.flatMap escapeChar ++ '"' :: rest) =
      some (String.ofList (before.reverse ++ chars), rest) := by
  induction chars generalizing fuel before with
  | nil =>
    obtain ⟨fuel, rfl⟩ := Nat.exists_eq_add_one.2 room
    simp [readBasic?]
  | cons c chars ih =>
    obtain ⟨fuel, rfl⟩ := Nat.exists_eq_add_one.2 (Nat.zero_lt_of_lt room)
    rw [List.flatMap_cons, List.append_assoc, readBasic?_escapeChar,
      ih (Nat.lt_of_succ_lt_succ room)]
    simp

private theorem exists_escapeChar (c : Char) :
    ∃ first others, escapeChar c = first :: others ∧ first ≠ '"' := by
  unfold escapeChar
  split
  next => exact ⟨_, _, rfl, by decide⟩
  next plain =>
    split
    next => exact ⟨_, _, rfl, (not_or.1 plain).1⟩
    next => exact ⟨_, _, rfl, by decide⟩

private theorem length_le_escaped (chars : List Char) :
    chars.length ≤ (chars.flatMap escapeChar).length := by
  induction chars with
  | nil => exact Nat.le_refl 0
  | cons c chars ih =>
    obtain ⟨first, others, escaped, -⟩ := exists_escapeChar c
    simp only [List.flatMap_cons, List.length_append, escaped, List.length_cons]
    omega

private theorem readString?_quote {chars : List Char}
    (single : ∀ more, chars ≠ '"' :: '"' :: more) :
    readString? ('"' :: chars) = readBasic? (chars.length + 1) [] chars := by
  unfold readString?
  split
  next same => exact absurd (List.cons.inj same).2 (single _)
  next same => cases same
  next same =>
    cases same
    rfl
  next same => cases same
  next basic _ => exact absurd rfl (basic chars)

/-- A string is read back where no further quote follows it. -/
theorem readString?_writeString (text : String) (stops : rest.head? ≠ some '"') :
    readString? (writeString text ++ rest) = some (text, rest) := by
  have shorter := length_le_escaped text.toList
  have written : writeString text ++ rest =
      '"' :: (text.toList.flatMap escapeChar ++ '"' :: rest) := by simp [writeString]
  rw [written, readString?_quote, readBasic?_escaped]
  · simp
  · simp only [List.length_append]
    omega
  -- Two more quotes would open a string of several lines.
  · intro more same
    cases spelled : text.toList with
    | nil =>
      rw [spelled] at same
      rw [(List.cons.inj same).2] at stops
      exact stops rfl
    | cons c chars =>
      obtain ⟨first, others, escaped, mark⟩ := exists_escapeChar c
      rw [spelled, List.flatMap_cons, escaped] at same
      exact mark (List.cons.inj same).1

end Strings

/-! ## Numbers -/

section Numbers

variable {n : Nat} {digits rest : List Char}

private theorem head?_toDigits (positive : 0 < n) : (Nat.toDigits 10 n).head? ≠ some '0' := by
  induction n using Nat.strongRecOn with
  | ind n ih =>
    rw [Nat.toDigits_eq_if (by decide)]
    split
    next => simp [Nat.ne_of_gt positive]
    next large =>
      rw [List.head?_append_of_ne_nil _ Nat.toDigits_ne_nil]
      exact ih (n / 10) (by omega) (by omega)

private theorem exists_toDigits (n : Nat) :
    ∃ first others, Nat.toDigits 10 n = first :: others ∧ first.isDigit = true ∧
      ∀ c ∈ others, c.isDigit = true := by
  have each := Numeral.isDigit_toDigits n
  cases digits : Nat.toDigits 10 n with
  | nil => exact absurd digits Nat.toDigits_ne_nil
  | cons first others =>
    rw [digits] at each
    exact ⟨first, others, rfl, List.forall_mem_cons.1 each⟩

private theorem readMoreDigits_digits (each : ∀ c ∈ digits, c.isDigit = true) :
    readMoreDigits Char.isDigit (digits ++ '\n' :: rest) = (digits, '\n' :: rest) := by
  induction digits with
  | nil => rfl
  | cons c digits ih =>
    obtain ⟨digit, others⟩ := List.forall_mem_cons.1 each
    have mark : c ≠ '_' := by
      rintro rfl
      cases digit
    rw [List.cons_append, readMoreDigits]
    · rw [if_pos digit, ih others]
    · exact fun _ _ same => absurd same mark

private theorem readWhole?_toDigits (n : Nat) (rest : List Char) :
    readWhole? (Nat.toDigits 10 n ++ '\n' :: rest) = some (Nat.toDigits 10 n, '\n' :: rest) := by
  rcases Nat.eq_zero_or_pos n with rfl | positive
  · rw [Nat.toDigits_zero]
    rfl
  · have zero := head?_toDigits positive
    obtain ⟨first, others, digits, digit, behind⟩ := exists_toDigits n
    rw [digits] at zero ⊢
    rw [List.cons_append, readWhole?, readDigits?, if_pos digit, readMoreDigits_digits behind]
    rintro _ ⟨⟩
    exact zero rfl

/-- Behind so many digits of a number there is another digit or the end of the line. -/
private theorem after?_readField? (mark : Char) {count least greatest value : Nat}
    {behind : List Char} (digit : mark.isDigit = false) (lineEnd : mark ≠ '\n')
    (each : ∀ c ∈ digits, c.isDigit = true)
    (read : readField? count least greatest (digits ++ '\n' :: rest) = some (value, behind)) :
    after? mark behind = none := by
  unfold readField? at read
  obtain ⟨field, read⟩ := Option.ite_none_right_eq_some.1 read
  obtain ⟨-, same⟩ := Option.ite_none_right_eq_some.1 read
  cases same
  by_cases long : count ≤ digits.length
  · rw [List.drop_append_of_le_length long]
    cases left : digits.drop count with
    | nil => simp [after?, lineEnd.symm]
    | cons c others =>
      have other : c ≠ mark := by
        rintro rfl
        have member : c ∈ digits := List.mem_of_mem_drop (left ▸ List.mem_cons_self)
        simp [each c member] at digit
      simp [after?, other]
  · have inside : '\n' ∈ (digits ++ '\n' :: rest).take count := by
      obtain ⟨more, rfl⟩ : ∃ more, count = digits.length + (more + 1) :=
        ⟨count - digits.length - 1, by omega⟩
      rw [List.take_length_add_append, List.take_succ_cons]
      exact List.mem_append_right _ List.mem_cons_self
    simp only [Bool.and_eq_true, List.all_eq_true] at field
    cases field.2 '\n' inside

private theorem readDatetime?_digits (each : ∀ c ∈ digits, c.isDigit = true) (rest : List Char) :
    readDatetime? (digits ++ '\n' :: rest) = none := by
  have date : afterDate? (digits ++ '\n' :: rest) = none := by
    unfold afterDate?
    cases read : readField? 4 0 9999 (digits ++ '\n' :: rest) with
    | none => rfl
    | some year => simp [after?_readField? '-' (by decide) (by decide) each read]
  have time : afterTime? (digits ++ '\n' :: rest) = none := by
    unfold afterTime?
    cases read : readField? 2 0 23 (digits ++ '\n' :: rest) with
    | none => rfl
    | some hour => simp [after?_readField? ':' (by decide) (by decide) each read]
  rw [readDatetime?, date, time]
  rfl

private theorem readSign_digit {c : Char} (digit : c.isDigit = true) :
    readSign (c :: rest) = ([], c :: rest) := by
  unfold readSign
  split
  next same =>
    cases same
    cases digit
  next same =>
    cases same
    cases digit
  next => rfl

private theorem readDecimal?_toDigits (small : n < UInt64.size / 2) :
    readDecimal? (Nat.toDigits 10 n ++ '\n' :: rest) = some (.integer n, '\n' :: rest) := by
  have unsigned : readSign (Nat.toDigits 10 n ++ '\n' :: rest) =
      ([], Nat.toDigits 10 n ++ '\n' :: rest) := by
    obtain ⟨first, others, digits, digit, -⟩ := exists_toDigits n
    rw [digits]
    exact readSign_digit digit
  have whole : Numeral.readInt? (Nat.toDigits 10 n) = some n := by
    have read := Numeral.readInt?_toString n
    rwa [Numeral.toList_toString] at read
  have tail : readFloatTail? ('\n' :: rest) = none := rfl
  have word : (Int64.ofInt n).toInt = n := by
    rw [show UInt64.size / 2 = 9223372036854775808 from rfl] at small
    exact Int64.toInt_ofInt_of_le (by omega) (by omega)
  rw [readDecimal?, unsigned]
  simp [readWhole?_toDigits, tail, whole, int64OfInt?_eq_some_iff.2 word, word]

/-- A natural number is read back at the end of a line. -/
theorem readNumber?_toDigits (small : n < UInt64.size / 2) (rest : List Char) :
    readNumber? (Nat.toDigits 10 n ++ '\n' :: rest) = some (.integer n, '\n' :: rest) := by
  have unmarked {mark : Char} (digit : mark.isDigit = false) (lineEnd : mark ≠ '\n')
      (others : List Char) : Nat.toDigits 10 n ++ '\n' :: rest ≠ '0' :: mark :: others := by
    obtain ⟨first, behind, digits, -, each⟩ := exists_toDigits n
    rw [digits]
    intro same
    have following := (List.cons.inj same).2
    cases behind with
    | nil => exact lineEnd (List.cons.inj following).1.symm
    | cons second _ =>
      have isMark : second = mark := (List.cons.inj following).1
      simp [isMark ▸ each second List.mem_cons_self] at digit
  unfold readNumber?
  split
  next same => exact absurd same (unmarked (by decide) (by decide) _)
  next same => exact absurd same (unmarked (by decide) (by decide) _)
  next same => exact absurd same (unmarked (by decide) (by decide) _)
  next => rw [readDecimal?_toDigits small]

end Numbers

/-! ## Plain values -/

/-- What follows an item of an array: the other items, and the closing bracket. -/
def writeMore : List String → List Char
  | [] => [']']
  | text :: others => ',' :: ' ' :: (writeString text ++ writeMore others)

/-- The items of an array, and its closing bracket. -/
def writeItems : List String → List Char
  | [] => [']']
  | text :: others => writeString text ++ writeMore others

/-- A value of a kind that settings have. -/
inductive Plain where
  | text (content : String)
  | number (value : Nat)
  | flag (value : Bool)
  | texts (contents : List String)

/-- What a plain value is read as. -/
def Plain.value : Plain → Value
  | .text content => .string content
  | .number value => .integer value
  | .flag value => .boolean value
  | .texts contents => .array (contents.map .string)

/-- How a plain value is written. -/
def Plain.write : Plain → List Char
  | .text content => writeString content
  | .number value => Nat.toDigits 10 value
  | .flag true => ['t', 'r', 'u', 'e']
  | .flag false => ['f', 'a', 'l', 's', 'e']
  | .texts contents => '[' :: writeItems contents

/-- Whether a document can hold a plain value: its integers have 64 bits. -/
def Plain.Fits : Plain → Prop
  | .number value => value < UInt64.size / 2
  | _ => True

section Values

variable {rest : List Char} {depth : Nat}

private theorem readValue?_writeString (text : String) (stops : rest.head? ≠ some '"') :
    readValue? depth (writeString text ++ rest) = some (.string text, rest) := by
  have read := readString?_writeString text stops
  rw [writeString, List.cons_append] at read ⊢
  unfold readValue?
  rw [read]
  rfl

private theorem readItems?_writeString {text : String} {chars after : List Char} {fuel : Nat}
    {before : List Value} (skipped : skipBlanks chars = writeString text ++ after)
    (stops : after.head? ≠ some '"') :
    readItems? (readValue? depth) (fuel + 1) before chars =
      match skipBlanks after with
      | ',' :: rest => readItems? (readValue? depth) fuel (.string text :: before) rest
      | ']' :: rest => some ((.string text :: before).reverse, rest)
      | _ => none := by
  rw [readItems?, skipped]
  split
  next same => cases same
  next =>
    rw [readValue?_writeString text stops]
    rfl

private theorem readItems?_writeMore (others : List String) {text : String} {chars : List Char}
    {fuel : Nat} (room : others.length < fuel) (before : List Value)
    (skipped : skipBlanks chars = writeString text ++ (writeMore others ++ rest)) :
    readItems? (readValue? depth) fuel before chars =
      some (before.reverse ++ (text :: others).map .string, rest) := by
  induction others generalizing text chars fuel before with
  | nil =>
    obtain ⟨fuel, rfl⟩ := Nat.exists_eq_add_one.2 room
    have closing : skipBlanks (']' :: rest) = ']' :: rest := skipBlanks_ink (by decide)
    rw [readItems?_writeString skipped nofun]
    simp [writeMore, closing]
  | cons second others ih =>
    obtain ⟨fuel, rfl⟩ := Nat.exists_eq_add_one.2 (Nat.zero_lt_of_lt room)
    let following := writeString second ++ (writeMore others ++ rest)
    have comma : skipBlanks (',' :: ' ' :: following) = ',' :: ' ' :: following :=
      skipBlanks_ink (by decide)
    have quote : skipBlanks (' ' :: following) = following :=
      skipBlanks_of_skipSpace (by decide) rfl
    have more : writeMore (second :: others) ++ rest = ',' :: ' ' :: following := by
      simp [writeMore, following]
    rw [readItems?_writeString skipped (more ▸ nofun), more, comma]
    simp [ih (Nat.lt_of_succ_lt_succ room) (.string text :: before) quote]

private theorem readItems?_writeItems (texts : List String) {fuel : Nat}
    (room : texts.length < fuel) :
    readItems? (readValue? depth) fuel [] (writeItems texts ++ rest) =
      some (texts.map .string, rest) := by
  cases texts with
  | nil =>
    obtain ⟨fuel, rfl⟩ := Nat.exists_eq_add_one.2 room
    have closing : skipBlanks (']' :: rest) = ']' :: rest := skipBlanks_ink (by decide)
    simp [writeItems, readItems?, closing]
  | cons text others =>
    refine readItems?_writeMore others (Nat.lt_of_succ_lt room) [] ?_
    rw [writeItems, List.append_assoc]
    exact skipBlanks_ink (by decide)

private theorem length_le_writeMore (others : List String) :
    others.length < (writeMore others).length := by
  induction others with
  | nil => exact Nat.zero_lt_one
  | cons text others ih =>
    simp only [writeMore, List.length_cons, List.length_append]
    omega

private theorem length_le_writeItems (texts : List String) :
    texts.length ≤ (writeItems texts).length := by
  cases texts with
  | nil => exact Nat.zero_le _
  | cons text others =>
    have := length_le_writeMore others
    simp only [writeItems, List.length_cons, List.length_append]
    omega

private theorem readValue?_toDigits {n : Nat} (small : n < UInt64.size / 2) :
    readValue? depth (Nat.toDigits 10 n ++ '\n' :: rest) = some (.integer n, '\n' :: rest) := by
  have date := readDatetime?_digits (Numeral.isDigit_toDigits n) rest
  have number := readNumber?_toDigits small rest
  obtain ⟨first, others, digits, digit, -⟩ := exists_toDigits n
  rw [digits] at date number ⊢
  have other {c : Char} (mark : c.isDigit = false) : first ≠ c := by
    rintro rfl
    cases mark.symm.trans digit
  unfold readValue?
  split
  case h_1 same => cases same
  case h_8 => rw [date, number]
  all_goals
    next same => exact absurd (List.cons.inj same).1 (other (by decide))

/-- A plain value is read back at the end of a line. -/
theorem readValue?_write (plain : Plain) (fits : plain.Fits) :
    readValue? (depth + 1) (plain.write ++ '\n' :: rest) = some (plain.value, '\n' :: rest) := by
  cases plain with
  | text content => exact readValue?_writeString content nofun
  | number value => exact readValue?_toDigits fits
  | flag value => cases value <;> rfl
  | texts contents =>
    have room : contents.length < (writeItems contents ++ '\n' :: rest).length + 1 := by
      have short := length_le_writeItems contents
      rw [List.length_append]
      omega
    have array : readValue? (depth + 1) ('[' :: (writeItems contents ++ '\n' :: rest)) =
        (readItems? (readValue? depth) _ [] (writeItems contents ++ '\n' :: rest)).map
          fun read => (.array read.1, read.2) := rfl
    rw [Plain.write, List.cons_append, array, readItems?_writeItems contents room]
    rfl

end Values

/-! ## Keys -/

/-- Whether a name may stand as a key without quotes. -/
def isBareName (name : String) : Bool := !name.toList.isEmpty && name.toList.all isBare

section Keys

variable {name : String} {c : Char} {rest : List Char}

private theorem ne_of_isBare (bare : isBare c = true) (mark : Char) (other : isBare mark = false) :
    c ≠ mark := by
  rintro rfl
  cases other.symm.trans bare

private theorem isInk_of_isBare (bare : isBare c = true) : isInk c = true := by
  have space := ne_of_isBare bare ' ' rfl
  have tab := ne_of_isBare bare '\t' rfl
  have feed := ne_of_isBare bare '\n' rfl
  have carriage := ne_of_isBare bare '\r' rfl
  have comment := ne_of_isBare bare '#' rfl
  simp [isInk, isSpace, space, tab, feed, carriage, comment]

private theorem exists_bare (bare : isBareName name = true) :
    ∃ first others, name.toList = first :: others ∧ isBare first = true := by
  rw [isBareName, Bool.and_eq_true] at bare
  cases spelled : name.toList with
  | nil => simp [spelled] at bare
  | cons first others =>
    rw [spelled] at bare
    exact ⟨first, others, rfl, List.all_eq_true.1 bare.2 first List.mem_cons_self⟩

private theorem readKeyPart?_name (bare : isBareName name = true)
    (apart : ∀ c ∈ rest.head?, isBare c = false) :
    readKeyPart? (name.toList ++ rest) = some (name, rest) := by
  obtain ⟨first, others, spelled, isFirst⟩ := exists_bare bare
  rw [isBareName, Bool.and_eq_true, List.all_eq_true] at bare
  obtain ⟨taken, dropped⟩ := takeWhile_before bare.2 apart
  have written : name.toList ++ rest = first :: (others ++ rest) := by
    rw [spelled, List.cons_append]
  unfold readKeyPart?
  split
  next same => exact absurd (List.cons.inj (written ▸ same)).1 (ne_of_isBare isFirst '"' rfl)
  next same => exact absurd (List.cons.inj (written ▸ same)).1 (ne_of_isBare isFirst '\'' rfl)
  next =>
    have nonempty : name.toList.isEmpty = false := by rw [spelled, List.isEmpty_cons]
    simp [taken, dropped, nonempty]

/-- A name is read as a path of one part. -/
theorem readPath?_name (bare : isBareName name = true)
    (apart : ∀ c ∈ rest.head?, isBare c = false)
    (undotted : ∀ c ∈ (skipSpace rest).head?, c ≠ '.') :
    readPath? (name.toList ++ rest) = some ([], name, skipSpace rest) := by
  obtain ⟨first, others, spelled, isFirst⟩ := exists_bare bare
  have unskipped : skipSpace (name.toList ++ rest) = name.toList ++ rest := by
    rw [spelled, List.cons_append, skipSpace_ink (isInk_of_isBare isFirst)]
  have key : readKey? nestingLimit (name.toList ++ rest) = some ([name], skipSpace rest) := by
    rw [nestingLimit, readKey?, unskipped, readKeyPart?_name bare apart, Option.bind_some]
    dsimp only
    split
    next same => exact absurd rfl (undotted '.' (same ▸ rfl))
    next => rfl
  rw [readPath?, key]
  rfl

end Keys

/-! ## Tables of a document -/

/-- A document in which `within` puts a table at a path. -/
def IsAt (path : List String) (within : Entries → Entries) : Prop :=
  ∀ change inner, (within inner).modify change path = (change inner).map within

section Tables

variable {before : Entries} {key : String}

private theorem put_last (absent : before.lookup key = none) (old new : Node) :
    Entries.put key new (before ++ [(key, old)]) = before ++ [(key, new)] := by
  induction before with
  | nil => simp [Entries.put]
  | cons entry before ih =>
    rw [List.lookup_cons] at absent
    split at absent
    next => cases absent
    next other =>
      have apart : entry.1 ≠ key := fun same => by simp [same] at other
      rw [List.cons_append, Entries.put, if_neg apart, ih absent, List.cons_append]

private theorem lookup_last (absent : before.lookup key = none) (node : Node) :
    (before ++ [(key, node)]).lookup key = some node := by
  rw [List.lookup_append, absent]
  simp

theorem isAt_table (absent : before.lookup key = none) (origin : Origin) :
    IsAt [key] fun inner => before ++ [(key, .table origin inner)] := by
  intro change inner
  rw [Entries.modify, lookup_last absent]
  simp only [Entries.modify, put_last absent]

theorem isAt_tables (absent : before.lookup key = none) (done : List Entries) :
    IsAt [key] fun inner => before ++ [(key, .tables (done ++ [inner]))] := by
  intro change inner
  rw [Entries.modify, lookup_last absent]
  simp [Entries.modify, put_last absent]

end Tables

/-! ## Lines -/

/-- A field of a table on its line. -/
def writeField (name : String) (plain : Plain) : List Char :=
  name.toList ++ ' ' :: '=' :: ' ' :: (plain.write ++ ['\n'])

/-- The header of a table. -/
def writeHeader (key : String) : List Char := '[' :: (key.toList ++ [']', '\n'])

/-- The header of one more table of an array. -/
def writeNextHeader (key : String) : List Char := '[' :: '[' :: (key.toList ++ [']', ']', '\n'])

/-- From a draft on, the lines put these entries together, whatever room there is to read them. -/
def LinesRead (draft : Draft) (chars : List Char) (entries : Entries) : Prop :=
  ∀ fuel, chars.length < fuel → readLinesOf? fuel draft chars = some entries

section Lines

variable {draft changed : Draft} {root inner entries : Entries} {path : List String}
  {within : Entries → Entries} {name key : String} {plain : Plain} {c : Char}
  {chars rest : List Char}

theorem linesRead_nil : LinesRead draft [] draft.root := by
  intro fuel room
  obtain ⟨fuel, rfl⟩ := Nat.exists_eq_add_one.2 room
  rfl

private theorem LinesRead.afterEntry (ink : isInk c = true) (mark : c ≠ '[')
    (read : readEntry? draft (c :: chars) = some (changed, '\n' :: rest))
    (shorter : rest.length ≤ chars.length) (further : LinesRead changed rest entries) :
    LinesRead draft (c :: chars) entries := by
  intro fuel room
  obtain ⟨fuel, rfl⟩ := Nat.exists_eq_add_one.2 (Nat.zero_lt_of_lt room)
  have line : afterLine? ('\n' :: rest) = some rest := rfl
  have rest := further fuel (Nat.lt_of_le_of_lt shorter (Nat.lt_of_succ_lt_succ room))
  rw [readLinesOf?, skipBlanks_ink ink]
  split
  next same => cases same
  next same =>
    rw [(List.cons.inj same).1] at ink
    cases ink
  next same => exact absurd (List.cons.inj same).1 mark
  next => simp [read, line, rest]

private theorem LinesRead.afterHeader
    (read : readHeader? draft ('[' :: chars) = some (changed, '\n' :: rest))
    (shorter : rest.length ≤ chars.length) (further : LinesRead changed rest entries) :
    LinesRead draft ('[' :: chars) entries := by
  intro fuel room
  obtain ⟨fuel, rfl⟩ := Nat.exists_eq_add_one.2 (Nat.zero_lt_of_lt room)
  have line : afterLine? ('\n' :: rest) = some rest := rfl
  have opened : skipBlanks ('[' :: chars) = '[' :: chars := skipBlanks_ink rfl
  have rest := further fuel (Nat.lt_of_le_of_lt shorter (Nat.lt_of_succ_lt_succ room))
  rw [readLinesOf?, opened]
  simp [read, line, rest]

private theorem skipSpace_write (plain : Plain) (rest : List Char) :
    skipSpace (' ' :: (plain.write ++ rest)) = plain.write ++ rest := by
  have spaced : skipSpace (' ' :: (plain.write ++ rest)) = skipSpace (plain.write ++ rest) := rfl
  rw [spaced]
  cases plain with
  | text content => exact skipSpace_ink rfl
  | number value =>
    obtain ⟨first, others, digits, digit, -⟩ := exists_toDigits value
    rw [Plain.write, digits]
    have bare : isBare first = true := by simp [isBare, digit]
    exact skipSpace_ink (isInk_of_isBare bare)
  | flag value => cases value <;> exact skipSpace_ink rfl
  | texts contents => exact skipSpace_ink rfl

private theorem readEntry?_writeField (bare : isBareName name = true) (fits : plain.Fits)
    (located : IsAt path within) (free : inner.lookup name = none) (rest : List Char) :
    readEntry? ⟨within inner, path⟩ (writeField name plain ++ rest) =
      some (⟨within (inner ++ [(name, .value plain.value)]), path⟩, '\n' :: rest) := by
  have written : writeField name plain ++ rest =
      name.toList ++ ' ' :: '=' :: ' ' :: (plain.write ++ '\n' :: rest) := by simp [writeField]
  have key : readPath? (name.toList ++ ' ' :: '=' :: ' ' :: (plain.write ++ '\n' :: rest)) =
      some ([], name, '=' :: ' ' :: (plain.write ++ '\n' :: rest)) :=
    readPath?_name bare (by rintro _ ⟨⟩; rfl) (by rintro _ ⟨⟩; decide)
  have value : readValue? nestingLimit (plain.write ++ '\n' :: rest) =
      some (plain.value, '\n' :: rest) := readValue?_write plain fits
  have defined : (within inner).modify (Entries.define plain.value name [] true) path =
      some (within (inner ++ [(name, .value plain.value)])) := by
    rw [located]
    simp [Entries.define, free]
  rw [written, readEntry?, key]
  simp [after?, skipSpace_write, value, defined]

/-- A field goes into the table that the last header opened. -/
theorem LinesRead.field (bare : isBareName name = true) (fits : plain.Fits)
    (located : IsAt path within) (free : inner.lookup name = none)
    (further : LinesRead ⟨within (inner ++ [(name, .value plain.value)]), path⟩ rest entries) :
    LinesRead ⟨within inner, path⟩ (writeField name plain ++ rest) entries := by
  obtain ⟨first, others, spelled, isFirst⟩ := exists_bare bare
  have read := readEntry?_writeField bare fits located free rest
  have written : writeField name plain ++ rest =
      first :: (others ++ ' ' :: '=' :: ' ' :: (plain.write ++ '\n' :: rest)) := by
    simp [writeField, spelled]
  rw [written] at read ⊢
  have mark := ne_of_isBare isFirst '[' rfl
  refine LinesRead.afterEntry (isInk_of_isBare isFirst) mark read ?_ further
  simp only [List.length_append, List.length_cons]
  omega

private theorem readPath?_bracket (bare : isBareName key = true) (rest : List Char) :
    readPath? (key.toList ++ ']' :: rest) = some ([], key, ']' :: rest) :=
  readPath?_name bare (by rintro _ ⟨⟩; rfl) (by rintro _ ⟨⟩; decide)

/-- Fields that a table may be written with. -/
structure AreFields (fields : List (String × Plain)) : Prop where
  bare : ∀ field ∈ fields, isBareName field.1 = true
  fits : ∀ field ∈ fields, field.2.Fits
  distinct : (fields.map (·.1)).Nodup

/-- The fields of a table, each on its line. -/
def writeFields (fields : List (String × Plain)) : List Char :=
  fields.flatMap fun field => writeField field.1 field.2

/-- The entries that fields are read as. -/
def entriesOf (fields : List (String × Plain)) : Entries :=
  fields.map fun field => (field.1, .value field.2.value)

theorem finishEntries_entriesOf (fields : List (String × Plain)) :
    finishEntries (entriesOf fields) = fields.map fun field => (field.1, field.2.value) := by
  induction fields with
  | nil => rfl
  | cons field fields ih => exact congrArg ((field.1, field.2.value) :: ·) ih

/-- The fields of a table fill it. -/
theorem LinesRead.fields {fields : List (String × Plain)} (written : AreFields fields)
    (located : IsAt path within)
    (further : LinesRead ⟨within (entriesOf fields), path⟩ rest entries) :
    LinesRead ⟨within [], path⟩ (writeFields fields ++ rest) entries := by
  -- The fields that are left go in behind those that are there already.
  suffices lines : ∀ done left, fields = done ++ left →
      LinesRead ⟨within (entriesOf done), path⟩ (writeFields left ++ rest) entries from
    lines [] fields rfl
  intro done left whole
  induction left generalizing done with
  | nil =>
    rw [List.append_nil] at whole
    exact whole ▸ further
  | cons field left ih =>
    have member : field ∈ fields := by simp [whole]
    have free : (entriesOf done).lookup field.1 = none := by
      have apart := written.distinct
      rw [whole, List.map_append, List.map_cons, List.nodup_append_comm, List.cons_append,
        List.nodup_cons] at apart
      rw [lookup_eq_none_iff]
      intro stored
      apply apart.1
      rw [entriesOf, List.map_map] at stored
      exact List.mem_append_right _ stored
    have behind := ih (done ++ [field]) (by simp [whole])
    have next : entriesOf (done ++ [field]) =
        entriesOf done ++ [(field.1, .value field.2.value)] := by simp [entriesOf]
    rw [next] at behind
    rw [writeFields, List.flatMap_cons, List.append_assoc]
    have bare := written.bare field member
    exact LinesRead.field bare (written.fits field member) located free behind

/-- The header of a table opens it. -/
theorem LinesRead.header (bare : isBareName key = true) (opened : root.openTable key = some inner)
    (further : LinesRead ⟨inner, [key]⟩ rest entries) :
    LinesRead ⟨root, path⟩ (writeHeader key ++ rest) entries := by
  have read : readHeader? ⟨root, path⟩ ('[' :: (key.toList ++ ']' :: '\n' :: rest)) =
      some (⟨inner, [key]⟩, '\n' :: rest) := by
    obtain ⟨first, others, spelled, isFirst⟩ := exists_bare bare
    have path := readPath?_bracket bare ('\n' :: rest)
    rw [spelled, List.cons_append] at path ⊢
    unfold readHeader?
    split
    next same =>
      exact absurd (List.cons.inj (List.cons.inj same).2).1 (ne_of_isBare isFirst '[' rfl)
    next same =>
      cases same
      simp [path, after?, Entries.modify, opened]
    next other => exact absurd rfl (other _)
  have written : writeHeader key ++ rest = '[' :: (key.toList ++ ']' :: '\n' :: rest) := by
    simp [writeHeader]
  rw [written]
  refine LinesRead.afterHeader read ?_ further
  simp only [List.length_append, List.length_cons]
  omega

/-- A header in double brackets opens one more table. -/
theorem LinesRead.nextHeader (bare : isBareName key = true)
    (opened : root.openNextTable key = some inner)
    (further : LinesRead ⟨inner, [key]⟩ rest entries) :
    LinesRead ⟨root, path⟩ (writeNextHeader key ++ rest) entries := by
  have read : readHeader? ⟨root, path⟩ ('[' :: '[' :: (key.toList ++ ']' :: ']' :: '\n' :: rest)) =
      some (⟨inner, [key]⟩, '\n' :: rest) := by
    rw [readHeader?, readPath?_bracket bare]
    simp [after?, Entries.modify, opened]
  have written : writeNextHeader key ++ rest =
      '[' :: '[' :: (key.toList ++ ']' :: ']' :: '\n' :: rest) := by simp [writeNextHeader]
  rw [written]
  refine LinesRead.afterHeader read ?_ further
  simp only [List.length_append, List.length_cons]
  omega

/-- Lines that are read from their beginning on are a document. -/
theorem LinesRead.document (lines : LinesRead ⟨[], []⟩ chars entries)
    (unmarked : chars.head? ≠ some '\ufeff') :
    read? (.ofList chars) = some (finishEntries entries) := by
  have whole := lines (chars.length + 1) (Nat.lt_succ_self _)
  rw [read?, String.toList_ofList]
  split
  next => exact absurd rfl unmarked
  next => rw [whole, Option.map_some]

end Lines
end Rowscan.Toml
