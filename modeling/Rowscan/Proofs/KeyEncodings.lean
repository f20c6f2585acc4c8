import Rowscan.Proofs.FieldMaps
import Rowscan.Proofs.KeyTexts

/-!
Encodings of composite keys. The texts of several values become one text, joined by dashes or as
the members of a JSON object, and nothing is lost by that: each part ends where its own
characters tell, so texts that are joined alike have the same parts (`CutBy.intercalate_inj`).
Two composite keys over the same fields therefore encode alike exactly if they agree field by
field (`encodeFields_eq_iff`), and one of several numbers encodes like no other key, whatever digest
were in use (`encode_numbers_eq_iff`).
-/
namespace Rowscan

/-! ## Joined texts -/

/-- Equally many parts that are joined to the same text are the same parts. -/
theorem CutBy.intercalate_inj {mark : Char} {isPart : List Char → Prop} (cut : CutBy mark isPart)
    {texts others : List (List Char)} (parts : ∀ text ∈ texts, isPart text)
    (otherParts : ∀ text ∈ others, isPart text) (lengths : texts.length = others.length)
    (same : [mark].intercalate texts = [mark].intercalate others) : texts = others := by
  induction texts generalizing others with
  | nil => exact (List.eq_nil_of_length_eq_zero lengths.symm).symm
  | cons text rest ih =>
    cases others with
    | nil => cases lengths
    | cons other more =>
      have later : rest.length = more.length := Nat.succ.inj lengths
      cases rest with
      | nil =>
        rw [List.eq_nil_of_length_eq_zero later.symm] at same ⊢
        rw [List.intercalate_singleton, List.intercalate_singleton] at same
        rw [same]
      | cons next texts =>
        obtain ⟨next', others, rfl⟩ := List.exists_cons_of_length_eq_add_one later.symm
        rw [List.intercalate_cons_cons, List.intercalate_cons_cons, List.append_assoc,
          List.append_assoc, List.singleton_append, List.singleton_append] at same
        obtain ⟨heads, tails⟩ := cut _ _ _ _ (parts text List.mem_cons_self)
          (otherParts other List.mem_cons_self) same
        have rest := ih (fun text member => parts text (List.mem_cons_of_mem _ member))
          (fun text member => otherParts text (List.mem_cons_of_mem _ member)) later tails
        rw [heads, rest]

/-! ## Numerals joined by dashes -/

namespace Numeral

variable {chars : List Char} (rest : List Char)

private theorem splitSign_append (given : chars ≠ []) :
    splitSign (chars ++ rest) = ((splitSign chars).1, (splitSign chars).2 ++ rest) := by
  obtain ⟨first, more, rfl⟩ := List.exists_cons_of_ne_nil given
  by_cases minus : first = '-'
  · subst minus
    rfl
  · by_cases plus : first = '+'
    · subst plus
      rfl
    · rw [List.cons_append, splitSign_other minus plus, splitSign_other minus plus]
      rfl

private theorem dropWhile_dash :
    (chars ++ '-' :: rest).dropWhile Char.isDigit = chars.dropWhile Char.isDigit ++ '-' :: rest := by
  rw [List.dropWhile_append]
  split
  next none =>
    rw [List.isEmpty_iff.1 none]
    rfl
  next => rfl

/-- A whole number has no dash behind it. -/
private theorem readInt?_dash (read : (readInt? chars).isSome = true) :
    readInt? (chars ++ '-' :: rest) = none := by
  have given : chars ≠ [] := by
    rintro rfl
    cases read
  have dash : isDigits ((splitSign chars).2 ++ '-' :: rest) = false := by
    simp [isDigits, Char.isDigit]
  simp only [readInt?, splitSign_append _ given, dash]
  rfl

private theorem readExponent?_dash (read : (readExponent? chars).isSome = true) :
    readExponent? (chars ++ '-' :: rest) = none := by
  cases chars with
  | nil => rfl
  | cons mark number =>
    obtain ⟨marked, whole⟩ := isSome_readExponent?_cons.1 read
    rw [List.cons_append, readExponent?, if_pos marked, readInt?_dash rest whole]

private theorem splitFraction_dash :
    (splitFraction (chars ++ '-' :: rest)).2 = (splitFraction chars).2 ++ '-' :: rest := by
  cases chars with
  | nil => rfl
  | cons first more =>
    by_cases point : first = '.'
    · subst point
      exact dropWhile_dash rest
    · simp [splitFraction, point]

/-- A numeral has no dash behind it. -/
theorem read?_dash (read : (read? chars).isSome = true) : read? (chars ++ '-' :: rest) = none := by
  have given : chars ≠ [] := by
    rintro rfl
    cases read
  obtain ⟨-, exponent⟩ := (isSome_read?_of_splits Prod.mk.eta.symm).1 read
  simp only [read?, splitSign_append _ given, dropWhile_dash, splitFraction_dash,
    readExponent?_dash rest exponent]
  split <;> rfl

/-- Numerals are cut by the dashes that join them, although signs are dashes too. -/
theorem cutBy_dash : CutBy '-' fun part => (read? part).isSome = true := by
  refine cutBy_of_ends fun part rest numeral longer => ?_
  rw [read?_dash rest numeral] at longer
  cases longer

end Numeral

/-! ## Members of JSON objects -/

namespace Json

/-- How many characters stand for an escaped one, told from the first two of them. -/
def escapeLength : List Char → Nat
  | '\\' :: 'u' :: _ => 6
  | '\\' :: _ => 2
  | _ => 1

/-- A character is escaped by a mark or by four digits, or it stands for itself. -/
theorem escapeChar_cases (c : Char) :
    (∃ mark, mark ≠ 'u' ∧ escapeChar c = ['\\', mark]) ∨
    (∃ digits : List Char, digits.length = 4 ∧ escapeChar c = '\\' :: 'u' :: digits) ∨
    c ≠ '"' ∧ c ≠ '\\' ∧ escapeChar c = [c] := by
  by_cases marked : c ∈ ['"', '\\', '\x08', '\x0c', '\n', '\r', '\t']
  · left
    simp only [List.mem_cons, List.not_mem_nil, or_false] at marked
    rcases marked with rfl | rfl | rfl | rfl | rfl | rfl | rfl
    all_goals exact ⟨_, by decide, rfl⟩
  · right
    simp only [List.mem_cons, List.not_mem_nil, or_false, not_or] at marked
    obtain ⟨quote, backslash, backspace, feed, newline, carriage, tab⟩ := marked
    rw [escapeChar, if_neg quote, if_neg backslash, if_neg backspace, if_neg feed, if_neg newline,
      if_neg carriage, if_neg tab]
    by_cases control : c.toNat < 0x20
    · rw [if_pos control]
      exact .inl ⟨_, rfl, rfl⟩
    · rw [if_neg control]
      exact .inr ⟨quote, backslash, rfl⟩

private theorem escapeLength_escapeChar (c : Char) (rest : List Char) :
    escapeLength (escapeChar c ++ rest) = (escapeChar c).length := by
  obtain ⟨mark, unlike, escaped⟩ | ⟨digits, four, escaped⟩ | ⟨-, backslash, escaped⟩ :=
    escapeChar_cases c
  · rw [escaped]
    simp [escapeLength, unlike]
  · rw [escaped, List.length_cons, List.length_cons, four]
    rfl
  · rw [escaped]
    simp [escapeLength, backslash]

/-- An escaped character is cut off by its own characters. -/
theorem escapeChar_cut {c d : Char} {left right : List Char}
    (same : escapeChar c ++ left = escapeChar d ++ right) :
    escapeChar c = escapeChar d ∧ left = right := by
  have lengths : (escapeChar c).length = (escapeChar d).length := by
    rw [← escapeLength_escapeChar c left, same, escapeLength_escapeChar]
  exact List.append_inj same lengths

private theorem escapeChar_ne_quote (c : Char) (rest other : List Char) :
    escapeChar c ++ rest ≠ '"' :: other := by
  obtain ⟨mark, -, escaped⟩ | ⟨digits, -, escaped⟩ | ⟨quote, -, escaped⟩ := escapeChar_cases c
  · simp [escaped]
  · simp [escaped]
  · simp [escaped, quote]

/-- What follows a quoted text is told from where its characters end. -/
theorem escaped_cut {first second left right : List Char}
    (same : first.flatMap escapeChar ++ '"' :: left = second.flatMap escapeChar ++ '"' :: right) :
    first.flatMap escapeChar = second.flatMap escapeChar ∧ left = right := by
  induction first generalizing second with
  | nil =>
    cases second with
    | nil => exact ⟨rfl, (List.cons.inj same).2⟩
    | cons d more =>
      rw [List.flatMap_cons, List.append_assoc] at same
      exact absurd same.symm (escapeChar_ne_quote d _ left)
  | cons c rest ih =>
    cases second with
    | nil =>
      rw [List.flatMap_cons, List.append_assoc] at same
      exact absurd same (escapeChar_ne_quote c _ right)
    | cons d more =>
      rw [List.flatMap_cons, List.flatMap_cons, List.append_assoc, List.append_assoc] at same
      obtain ⟨heads, tails⟩ := escapeChar_cut same
      obtain ⟨later, rests⟩ := ih tails
      exact ⟨by rw [List.flatMap_cons, List.flatMap_cons, heads, later], rests⟩

/-- A quoted text is cut off by its own characters. -/
theorem quote_cut {first second : String} {left right : List Char}
    (same : (quote first).toList ++ left = (quote second).toList ++ right) :
    quote first = quote second ∧ left = right := by
  have parts (text : String) (rest : List Char) : (quote text).toList ++ rest =
      '"' :: (text.toList.flatMap escapeChar ++ '"' :: rest) := by
    rw [quote, String.toList_ofList]
    simp
  rw [parts, parts] at same
  obtain ⟨chars, rests⟩ := escaped_cut (List.cons.inj same).2
  exact ⟨by rw [quote, quote, List.cons_append, chars, List.cons_append], rests⟩

/-- Whether a value is neither an array nor an object. -/
def isScalar : Json → Bool
  | .array _ => false
  | .object _ => false
  | _ => true

/-- A scalar is a quoted text, or has neither commas nor quotes. -/
def IsScalarText (part : List Char) : Prop :=
  (∃ text, (quote text).toList = part) ∨ ',' ∉ part ∧ '"' ∉ part

private theorem isScalarText_compact {value : Json} (scalar : value.isScalar = true) :
    IsScalarText value.compact.toList := by
  have numeral {part : List Char} (chars : ∀ c ∈ part, Numeral.isNumeralChar c = true) :
      ',' ∉ part ∧ '"' ∉ part :=
    ⟨fun member => absurd (chars _ member) (by decide),
      fun member => absurd (chars _ member) (by decide)⟩
  cases value with
  | null => exact .inr (by decide)
  | bool value => exact .inr (by cases value <;> decide)
  | integer value =>
    exact .inr (numeral (Numeral.isNumeralChar_of_read? (Numeral.read?_toString value)))
  | float value =>
    refine .inr ?_
    change ',' ∉ (if value.isFinite then Double.Layout.interchange.write value else "null").toList ∧
      '"' ∉ (if value.isFinite then Double.Layout.interchange.write value else "null").toList
    split
    next finite => exact numeral (Double.isNumeralChar_write _ finite)
    next => decide
  | string text => exact .inl ⟨text, rfl⟩
  | array items => cases scalar
  | object members => cases scalar

/-- The scalars of an object are cut by the commas that join them, although texts may have
commas in them. -/
theorem cutBy_comma : CutBy ',' IsScalarText := by
  have plain : CutBy ',' fun part => ',' ∉ part := cutBy_of_notMem fun _ => id
  have mixed {text : String} {part left right : List Char} (unquoted : '"' ∉ part) :
      (quote text).toList ++ left ≠ part ++ ',' :: right := by
    intro same
    rw [quote, String.toList_ofList] at same
    cases part with
    | nil => cases same
    | cons head tail =>
      rw [(List.cons.inj same).1] at unquoted
      exact unquoted List.mem_cons_self
  rintro first second left right (⟨text, rfl⟩ | ⟨free, unquoted⟩) (⟨other, rfl⟩ | ⟨free', unquoted'⟩)
    same
  · obtain ⟨quotes, rests⟩ := quote_cut same
    exact ⟨congrArg String.toList quotes, (List.cons.inj rests).2⟩
  · exact absurd same (mixed unquoted')
  · exact absurd same.symm (mixed unquoted)
  · exact plain first second left right free free' same

/-- A member of an object as text. -/
def memberText (member : String × Json) : String := quote member.1 ++ ":" ++ member.2.compact

private theorem compactMembers_eq (members : List (String × Json)) :
    compactMembers members = members.map memberText := by
  induction members with
  | nil => rfl
  | cons member rest ih =>
    obtain ⟨name, value⟩ := member
    rw [compactMembers, ih]
    rfl

/-- A member is cut by the comma behind it: its name and its value are cut off one by one. -/
theorem cutBy_comma_member : CutBy ',' fun part =>
    ∃ name rest, (quote name).toList ++ ':' :: rest = part ∧ IsScalarText rest := by
  rintro _ _ left right ⟨name, rest, rfl, scalar⟩ ⟨other, rest', rfl, scalar'⟩ same
  rw [List.append_assoc, List.append_assoc] at same
  obtain ⟨names, tails⟩ := quote_cut same
  obtain ⟨values, rests⟩ := cutBy_comma _ _ _ _ scalar scalar' (List.cons.inj tails).2
  exact ⟨by rw [names, values], rests⟩

/-- Objects of equally many scalars with the same text have the same members as texts. -/
theorem memberTexts_of_compact {members others : List (String × Json)}
    (scalars : ∀ member ∈ members, member.2.isScalar = true)
    (otherScalars : ∀ member ∈ others, member.2.isScalar = true)
    (lengths : members.length = others.length)
    (same : (Json.object members).compact = (Json.object others).compact) :
    members.map memberText = others.map memberText := by
  have parts {members : List (String × Json)}
      (scalars : ∀ member ∈ members, member.2.isScalar = true) :
      ∀ part ∈ (members.map memberText).map String.toList,
        ∃ name rest, (quote name).toList ++ ':' :: rest = part ∧ IsScalarText rest := by
    intro part member
    obtain ⟨_, written, rfl⟩ := List.mem_map.1 member
    obtain ⟨⟨name, value⟩, stored, rfl⟩ := List.mem_map.1 written
    refine ⟨name, value.compact.toList, ?_, isScalarText_compact (scalars _ stored)⟩
    rw [memberText, String.toList_append, String.toList_append, List.append_assoc]
    rfl
  rw [compact, compact, compactMembers_eq, compactMembers_eq] at same
  have joined := congrArg String.toList same
  rw [String.toList_append, String.toList_append, String.toList_append, String.toList_append] at joined
  have inner := List.append_cancel_left (List.append_cancel_right joined)
  rw [String.toList_intercalate, String.toList_intercalate] at inner
  have comma : ",".toList = [','] := by decide
  rw [comma] at inner
  have texts := cutBy_comma_member.intercalate_inj (parts scalars) (parts otherScalars)
    (by rw [List.length_map, List.length_map, List.length_map, List.length_map, lengths]) inner
  exact List.map_injective_iff.2 (fun _ _ => String.toList_inj.1) texts

end Json

/-! ## Composite keys -/

namespace KeyValue

/-- What a value is written as in a key that is digested. -/
def canonicalForm (literal : Literal) : String := (canonical literal).compact

/-- What a composite key is digested from. -/
def objectText (fields : FieldMap Literal) : String :=
  (Json.object (fields.entries.map fun entry => (entry.1, canonical entry.2))).compact

private theorem isScalar_canonical (literal : Literal) : (canonical literal).isScalar = true := by
  have ofText (text : String) : (canonicalText text).isScalar = true := by
    unfold canonicalText
    repeat' split
    all_goals rfl
  cases literal with
  | null => rfl
  | bool value => rfl
  | int value => rfl
  | float value =>
    rw [canonical]
    split <;> rfl
  | string text => exact ofText text
  | raw expression => exact ofText expression

variable {first second : FieldMap Literal}

private theorem memberTexts_eq_iff {entries others : List (String × Literal)}
    (names : entries.map (·.1) = others.map (·.1)) :
    (entries.map fun entry => (entry.1, canonical entry.2)).map Json.memberText =
        (others.map fun entry => (entry.1, canonical entry.2)).map Json.memberText ↔
      (entries.map (·.2)).map canonicalForm = (others.map (·.2)).map canonicalForm := by
  induction entries generalizing others with
  | nil =>
    rw [List.map_eq_nil_iff.1 names.symm]
    exact Iff.rfl
  | cons entry rest ih =>
    cases others with
    | nil => cases names
    | cons other more =>
      have name : entry.1 = other.1 := (List.cons.inj names).1
      have heads : Json.memberText (entry.1, canonical entry.2) =
          Json.memberText (other.1, canonical other.2) ↔
          canonicalForm entry.2 = canonicalForm other.2 := by
        rw [name]
        exact String.append_right_inj _
      simp only [List.map_cons, List.cons.injEq]
      exact and_congr heads (ih (List.cons.inj names).2)

/-- The object text of a key tells the canonical text of each field, and nothing else. -/
theorem objectText_eq_iff (names : first.names = second.names) :
    objectText first = objectText second ↔
      first.values.map canonicalForm = second.values.map canonicalForm := by
  have scalars (fields : FieldMap Literal) :
      ∀ member ∈ fields.entries.map fun entry => (entry.1, canonical entry.2),
        member.2.isScalar = true := by
    intro member stored
    obtain ⟨entry, -, rfl⟩ := List.mem_map.1 stored
    exact isScalar_canonical entry.2
  have lengths : first.entries.length = second.entries.length := by
    have sizes := congrArg List.length names
    rwa [FieldMap.names, FieldMap.names, List.length_map, List.length_map] at sizes
  refine Iff.trans ⟨fun same => ?_, fun texts => ?_⟩ (memberTexts_eq_iff names)
  · exact Json.memberTexts_of_compact (scalars first) (scalars second)
      (by rw [List.length_map, List.length_map, lengths]) same
  · rw [objectText, objectText, Json.compact, Json.compact, Json.compactMembers_eq,
      Json.compactMembers_eq, texts]

/-- The joined text of numbers tells the text of each field. -/
theorem texts_of_joined {literals others : List Literal}
    (numeric : literals.all Literal.isNumeric = true)
    (otherNumeric : others.all Literal.isNumeric = true) (lengths : literals.length = others.length)
    (same : String.intercalate "-" (literals.map Literal.text) =
      String.intercalate "-" (others.map Literal.text)) :
    literals.map Literal.text = others.map Literal.text := by
  have parts {literals : List Literal} (numeric : literals.all Literal.isNumeric = true) :
      ∀ part ∈ (literals.map Literal.text).map String.toList,
        (Numeral.read? part).isSome = true := by
    intro part member
    obtain ⟨_, written, rfl⟩ := List.mem_map.1 member
    obtain ⟨literal, given, rfl⟩ := List.mem_map.1 written
    exact Literal.isNumeral_text (List.all_eq_true.1 numeric literal given)
  have chars := congrArg String.toList same
  have dash : "-".toList = ['-'] := by decide
  rw [String.toList_intercalate, String.toList_intercalate, dash] at chars
  have texts := Numeral.cutBy_dash.intercalate_inj (parts numeric) (parts otherNumeric)
    (by rw [List.length_map, List.length_map, List.length_map, List.length_map, lengths]) chars
  exact List.map_injective_iff.2 (fun _ _ => String.toList_inj.1) texts

/-- Two texts or more that are joined are no digest, because there is a dash between them. -/
theorem joined_ne_of_isHexChar {texts : List String} (several : 2 ≤ texts.length) {digits : String}
    (hexadecimal : ∀ c ∈ digits.toList, isHexChar c = true) :
    String.intercalate "-" texts ≠ digits := by
  obtain ⟨first, second, rest, rfl⟩ : ∃ first second rest, texts = first :: second :: rest := by
    rcases texts with _ | ⟨first, _ | ⟨second, rest⟩⟩
    · cases several
    · exact absurd several (by simp)
    · exact ⟨first, second, rest, rfl⟩
  rintro rfl
  have dash : '-' ∈ (String.intercalate "-" (first :: second :: rest)).toList := by
    rw [String.intercalate_cons_cons, String.toList_append, String.toList_append]
    exact List.mem_append_left _ (List.mem_append_right _ (by decide))
  exact absurd (hexadecimal '-' dash) (by decide)

private theorem joined_ne_digest {texts : List String} (several : 2 ≤ texts.length)
    (text : String) :
    String.intercalate "-" texts ≠ digest text :=
  joined_ne_of_isHexChar several (isHexChar_digest text)

theorem encode_composite {fields : FieldMap Literal} (several : 2 ≤ fields.values.length) :
    (KeyValue.composite fields).encode = encodeFields fields := by
  rw [encode]
  split
  next value only =>
    rw [only] at several
    exact absurd several (by simp)
  next => rfl

private theorem encodeFields_eq {fields : FieldMap Literal} (several : 2 ≤ fields.values.length) :
    encodeFields fields = if fields.values.all Literal.isNumeric then
      String.intercalate "-" (fields.values.map Literal.text) else digest (objectText fields) := by
  have given : fields.isEmpty = false := by
    rw [Bool.eq_false_iff]
    intro none
    rw [FieldMap.isEmpty_iff.1 none] at several
    cases several
  rw [encodeFields, given]
  rfl

/-- A composite key of numbers encodes like another one over the same fields exactly if that is one
of numbers with the same texts. -/
theorem encodeFields_eq_iff_of_numeric (names : first.names = second.names)
    (several : 2 ≤ first.values.length) (numeric : first.values.all Literal.isNumeric = true) :
    encodeFields first = encodeFields second ↔ second.values.all Literal.isNumeric = true ∧
      first.values.map Literal.text = second.values.map Literal.text := by
  have lengths : first.values.length = second.values.length := by
    rw [FieldMap.length_values, FieldMap.length_values, names]
  rw [encodeFields_eq several, encodeFields_eq (lengths ▸ several), if_pos numeric]
  cases otherNumeric : second.values.all Literal.isNumeric with
  | true =>
    rw [if_pos rfl]
    exact ⟨fun same => ⟨rfl, texts_of_joined numeric otherNumeric lengths same⟩,
      fun both => by rw [both.2]⟩
  | false =>
    rw [if_neg Bool.false_ne_true]
    have joined : 2 ≤ (first.values.map Literal.text).length := by rwa [List.length_map]
    exact ⟨fun same => absurd same (joined_ne_digest joined _), fun both => nomatch both.1⟩

/-- Composite keys over the same fields encode alike exactly if both are all numbers with the same
texts, or neither is and their values have the same canonical texts. What is assumed is that their
objects do not share a digest by accident. -/
theorem encodeFields_eq_iff (names : first.names = second.names) (several : 2 ≤ first.values.length)
    (apart : digest (objectText first) = digest (objectText second) →
      objectText first = objectText second) :
    encodeFields first = encodeFields second ↔
      first.values.all Literal.isNumeric = second.values.all Literal.isNumeric ∧
        if first.values.all Literal.isNumeric then
          first.values.map Literal.text = second.values.map Literal.text
        else first.values.map canonicalForm = second.values.map canonicalForm := by
  have lengths : first.values.length = second.values.length := by
    rw [FieldMap.length_values, FieldMap.length_values, names]
  have secondSeveral : 2 ≤ second.values.length := lengths ▸ several
  cases numeric : first.values.all Literal.isNumeric with
  | true =>
    rw [if_pos rfl, encodeFields_eq_iff_of_numeric names several numeric,
      eq_comm (a := true)]
  | false =>
    cases otherNumeric : second.values.all Literal.isNumeric with
    | true =>
      rw [eq_comm, encodeFields_eq_iff_of_numeric names.symm secondSeveral otherNumeric, numeric]
      exact ⟨fun both => (nomatch both.1), fun both => nomatch both.1⟩
    | false =>
      rw [encodeFields_eq several, encodeFields_eq secondSeveral, numeric, otherNumeric,
        if_neg Bool.false_ne_true, if_neg Bool.false_ne_true, if_neg Bool.false_ne_true,
        ← objectText_eq_iff names]
      exact ⟨fun same => ⟨rfl, apart same⟩, fun both => by rw [both.2]⟩

/-! ## Keys of numbers

Signs and exponents have dashes of their own; still the text of each number is told from the joined
one, and no digest of whatever kind is one of them, for want of a dash. -/

/-- A key of at least two numbers tells the text of each of them, it differs from the key of any
other values of the same fields, and it is no text of hexadecimal digits. -/
theorem encode_numbers_eq_iff {first second : FieldMap Literal} (several : 2 ≤ first.names.length)
    (names : first.names = second.names)
    (numeric : ∀ value ∈ first.values, value.isNumeric = true) :
    ((composite first).encode = (composite second).encode ↔
      (∀ value ∈ second.values, value.isNumeric = true) ∧
        ∀ name, (first.find? name).map Literal.text = (second.find? name).map Literal.text) ∧
    ∀ digits : String, (∀ c ∈ digits.toList, isHexChar c = true) →
      (composite first).encode ≠ digits := by
  rw [← FieldMap.length_values] at several
  have otherSeveral : 2 ≤ second.values.length := by
    rwa [FieldMap.length_values, ← names, ← FieldMap.length_values]
  have allNumeric : first.values.all Literal.isNumeric = true := List.all_eq_true.2 numeric
  rw [encode_composite several, encode_composite otherSeveral]
  constructor
  · rw [encodeFields_eq_iff_of_numeric names several allNumeric, List.all_eq_true,
      FieldMap.map_values_eq_iff Literal.text names]
  · intro digits hexadecimal
    rw [encodeFields_eq several, if_pos allNumeric]
    exact joined_ne_of_isHexChar (by rwa [List.length_map]) hexadecimal

/-! Offsets with signs and exponents. -/

def offset : FieldMap Literal := .ofList [("x", .int (-3)), ("y", .string "1e-2")]

/-- The same offset, all of it as text. -/
def writtenOffset : FieldMap Literal := .ofList [("y", .string "1e-2"), ("x", .string "-3")]

/-- An offset with a boolean, which is no number although its text is one. -/
def truthOffset : FieldMap Literal := .ofList [("x", .bool true), ("y", .string "1e-2")]

theorem encode_numbers_offsets :
    (∀ value ∈ offset.values, value.isNumeric = true) ∧
    (composite offset).encode = (composite writtenOffset).encode ∧
    (composite offset).encode ≠ (composite truthOffset).encode ∧
    (composite offset).encode ≠ "0123456789abcdef0123456789abcdef" := by
  have several : 2 ≤ offset.names.length := by decide +kernel
  have names : offset.names = writtenOffset.names := by decide +kernel
  have truthNames : offset.names = truthOffset.names := by decide +kernel
  have numeric : ∀ value ∈ offset.values, value.isNumeric = true := by decide +kernel
  refine ⟨numeric, ?_, ?_, ?_⟩
  · apply (encode_numbers_eq_iff several names numeric).1.2
    exact ⟨by decide +kernel,
      (FieldMap.map_values_eq_iff Literal.text names).1 (by decide +kernel)⟩
  · intro same
    have numbers := ((encode_numbers_eq_iff several truthNames numeric).1.1 same).1
    exact absurd (numbers (.bool true) (by decide +kernel)) nofun
  · exact (encode_numbers_eq_iff several names numeric).2 _ (by simp [isHexChar])

end KeyValue

end Rowscan
