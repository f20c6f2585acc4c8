import Rowscan.Proofs.LuaConditions

/-!
Tokens of texts that are put together. A text that ends with its last token, and is followed by
something that cannot go on with it, is cut as it is on its own, and then what follows it is
(`tokens?_append`). After a blank, a parenthesis or a comma anything may follow
(`always_of_isDelimited`).
-/
namespace Rowscan.Lua

variable {chars rest after : List Char} {token : Token} {tokens tail : List Token}

/-- What a text begins with does not go on with any token before it. -/
def Breaks (rest : List Char) : Prop :=
  ∀ c ∈ rest.head?, isNameChar c = false ∧ c ∉ ['.', '=', '-', '[', '+']

theorem tokens?_nil : tokens? [] = some [] := by rw [tokens?]

theorem breaks_cons {c : Char} (other : isNameChar c = false ∧ c ∉ ['.', '=', '-', '[', '+']) :
    Breaks (c :: rest) := by
  intro d front
  cases front
  exact other

theorem Breaks.ends (breaks : Breaks rest) : Ends rest :=
  fun c front => ⟨(breaks c front).1, fun same => (breaks c front).2 (by simp [same])⟩

theorem Breaks.stops (breaks : Breaks rest) : ∀ c ∈ rest.head?, c ∉ ['.', '='] :=
  have among : ['.', '='] ⊆ ['.', '=', '-', '[', '+'] := by decide
  fun c front sign => (breaks c front).2 (among sign)

/-! ## Tokens before a break -/

private theorem spans_before {p : Char → Bool} (stops : ∀ c ∈ rest.head?, p c = false) :
    (chars ++ rest).takeWhile p = chars.takeWhile p ∧
      (chars ++ rest).dropWhile p = chars.dropWhile p ++ rest := by
  induction chars with
  | nil => exact takeWhile_before (fun c member => absurd member List.not_mem_nil) stops
  | cons c more ih =>
    rw [List.cons_append, List.takeWhile_cons, List.takeWhile_cons, List.dropWhile_cons,
      List.dropWhile_cons, ih.1, ih.2]
    cases p c <;> exact ⟨rfl, rfl⟩

/-- What is left of a symbol after its first character is made of points and equality signs. -/
theorem isPrefixOf_before {later : List Char} (signs : ∀ c ∈ later, c ∈ ['.', '='])
    (stops : ∀ c ∈ rest.head?, c ∉ ['.', '=']) :
    later.isPrefixOf (chars ++ rest) = later.isPrefixOf chars := by
  induction later generalizing chars with
  | nil => rfl
  | cons sign more ih =>
    have others := fun c member => signs c (List.mem_cons_of_mem _ member)
    cases chars with
    | cons c cs =>
      rw [List.cons_append, List.isPrefixOf, List.isPrefixOf, ih others]
    | nil =>
      cases rest with
      | nil => rfl
      | cons c cs =>
        have different : (sign == c) = false := by
          rw [beq_eq_false_iff_ne]
          rintro rfl
          exact stops sign rfl (signs sign List.mem_cons_self)
        change (sign == c && more.isPrefixOf cs) = false
        rw [different, Bool.false_and]

/-- The longest symbol stays the longest before what no symbol goes on with. -/
theorem readSymbol?_before (stops : ∀ c ∈ rest.head?, c ∉ ['.', '=']) (some : chars ≠ [])
    (read : readSymbol? chars = .some (token, after)) :
    readSymbol? (chars ++ rest) = .some (token, after ++ rest) := by
  obtain ⟨c, more, rfl⟩ := List.exists_cons_of_ne_nil some
  have all : symbols.all (fun symbol => symbol.toList.tail.all ['.', '='].contains) = true := by
    decide +kernel
  have signs (symbol : String) (member : symbol ∈ symbols) : ∀ c ∈ symbol.toList.tail,
      c ∈ ['.', '='] := fun c among =>
    List.contains_iff_mem.1 (List.all_eq_true.1 (List.all_eq_true.1 all symbol member) c among)
  have alike : ∀ symbol ∈ symbols,
      symbol.toList.isPrefixOf (c :: more ++ rest) = symbol.toList.isPrefixOf (c :: more) := by
    intro symbol member
    have later := signs symbol member
    generalize symbol.toList = spelled at later
    cases spelled with
    | nil => rfl
    | cons first others =>
      rw [List.tail_cons] at later
      rw [List.cons_append, List.isPrefixOf, List.isPrefixOf, isPrefixOf_before later stops]
  have longest : symbols.find? (·.toList.isPrefixOf (c :: more ++ rest)) =
      symbols.find? (·.toList.isPrefixOf (c :: more)) := by
    rw [← List.head?_filter, ← List.head?_filter, List.filter_congr alike]
  obtain ⟨symbol, found, same⟩ := Option.map_eq_some_iff.1 read
  have short : symbol.toList.length ≤ (c :: more).length := by
    have leads := List.find?_some found
    exact (List.isPrefixOf_iff_prefix.1 leads).length_le
  cases same
  rw [readSymbol?, longest, found, Option.map_some, List.drop_append_of_le_length short]

section Breaks

variable (breaks : Breaks rest)
include breaks

private theorem splitPlusMinus_before : splitPlusMinus (chars ++ rest) =
    ((splitPlusMinus chars).1, (splitPlusMinus chars).2 ++ rest) := by
  cases chars with
  | nil =>
    cases rest with
    | nil => rfl
    | cons c more =>
      have other := (breaks c rfl).2
      exact splitPlusMinus_other
        ⟨fun same => other (by simp [same]), fun same => other (by simp [same])⟩ more
  | cons c more =>
    by_cases plus : c = '+'
    · subst plus
      rfl
    by_cases minus : c = '-'
    · subst minus
      rfl
    rw [List.cons_append, splitPlusMinus_other ⟨plus, minus⟩, splitPlusMinus_other ⟨plus, minus⟩]
    rfl

private theorem splitMark_before : splitMark (chars ++ rest) =
    ((splitMark chars).1, (splitMark chars).2 ++ rest) := by
  cases chars with
  | nil =>
    cases rest with
    | nil => rfl
    | cons c more =>
      have other := (breaks c rfl).1
      have unmarked : splitMark (c :: more) = ([], c :: more) := by
        rw [splitMark, if_neg]
        rintro (rfl | rfl) <;> cases other
      exact unmarked
  | cons c more =>
    rw [List.cons_append, splitMark, splitMark]
    split
    · rw [splitPlusMinus_before breaks]
    · rfl

private theorem spanNumeral_before : spanNumeral (chars ++ rest) =
    ((spanNumeral chars).1, (spanNumeral chars).2 ++ rest) := by
  have name : ∀ c ∈ rest.head?, isNameChar c = false := fun c front => (breaks c front).1
  have front : ∀ c ∈ rest.head?, isNumeralFront c = false := fun c front =>
    not_isNumeralFront (breaks.ends c front).1 (breaks.ends c front).2
  rw [spanNumeral, spanNumeral, (spans_before front).1, (spans_before front).2,
    splitMark_before breaks]
  dsimp only
  rw [(spans_before name).1, (spans_before name).2]

private theorem startsNumeral_before (some : chars ≠ []) :
    startsNumeral (chars ++ rest) = startsNumeral chars := by
  cases chars with
  | nil => exact absurd rfl some
  | cons c more =>
    by_cases point : c = '.'
    · subst point
      cases more with
      | cons digit others => rfl
      | nil =>
        cases rest with
        | nil => rfl
        | cons d others =>
          have other := (breaks d rfl).1
          change d.isDigit = false
          rw [Bool.eq_false_iff]
          intro digit
          rw [isNameChar_of_isDigit digit] at other
          cases other
    · have plain (others : List Char) : startsNumeral (c :: others) = c.isDigit := by
        unfold startsNumeral
        split
        next same => exact absurd (List.cons.inj same).1 point
        next same => rw [(List.cons.inj same).1]
        next same => cases same
      rw [List.cons_append, plain, plain]

private theorem startsLong_before (some : chars ≠ []) :
    startsLong (chars ++ rest) = startsLong chars := by
  cases chars with
  | nil => exact absurd rfl some
  | cons c more =>
    cases more with
    | nil =>
      cases rest with
      | nil => rfl
      | cons d others =>
        have other := (breaks d rfl).2
        unfold startsLong
        split <;> simp_all
    | cons d others =>
      unfold startsLong
      split <;> split <;> simp_all

end Breaks

private theorem readString?_before {quote : Char} {state : StringState} {content : List UInt8}
    (read : readString? quote state chars = some (content, after)) (rest : List Char) :
    readString? quote state (chars ++ rest) = some (content, after ++ rest) := by
  induction chars generalizing state content with
  | nil => cases read
  | cons c more ih =>
    rw [List.cons_append, readString?]
    rw [readString?] at read
    split at read
    next => cases read
    next =>
      cases read
      rfl
    next =>
      obtain ⟨⟨others, left⟩, found, same⟩ := Option.map_eq_some_iff.1 read
      cases same
      rw [ih found]
      rfl

/-- What the first token of a text is, and that it ends, is settled before a break. -/
theorem next?_before (breaks : Breaks rest) (found : next? chars = some (token, after)) :
    next? (chars ++ rest) = some (token, after ++ rest) := by
  have nonempty : chars ≠ [] := by
    rintro rfl
    cases found
  have long := startsLong_before breaks nonempty
  have numeral := startsNumeral_before breaks nonempty
  cases chars with
  | nil => exact absurd rfl nonempty
  | cons c more =>
    rw [List.cons_append] at long numeral ⊢
    rw [next?] at found ⊢
    split at found
    next start =>
      have name : (c :: more ++ rest).takeWhile isNameChar = (c :: more).takeWhile isNameChar ∧
          (c :: more ++ rest).dropWhile isNameChar = (c :: more).dropWhile isNameChar ++ rest :=
        spans_before fun d front => (breaks d front).1
      cases found
      rw [if_pos start, ← List.cons_append, name.1, name.2]
    next start =>
      rw [if_neg start, numeral, long]
      split at found
      next starts =>
        have whole : spanNumeral (c :: more ++ rest) =
            ((spanNumeral (c :: more)).1, (spanNumeral (c :: more)).2 ++ rest) :=
          spanNumeral_before breaks
        rw [List.cons_append] at whole
        rw [if_pos starts, readNumeral?, whole]
        rw [readNumeral?] at found
        dsimp only at found ⊢
        split at found
        next number =>
          cases found
          rw [if_pos number]
        next => cases found
      next starts =>
        rw [if_neg starts]
        split at found
        next quoted =>
          obtain ⟨⟨content, left⟩, read, same⟩ := Option.map_eq_some_iff.1 found
          cases same
          rw [if_pos quoted, readString?_before read rest, Option.map_some]
        next quoted =>
          rw [if_neg quoted]
          split at found
          next => cases found
          next short =>
            rw [if_neg short]
            exact readSymbol?_before breaks.stops nonempty found

/-! ## Texts one after another -/

/-- A text before a break is cut as it is on its own, and then what follows it is cut. -/
theorem tokens?_append (breaks : Breaks rest) (others : tokens? rest = some tail)
    (whole : tokens? chars = some tokens) : tokens? (chars ++ rest) = some (tokens ++ tail) := by
  -- Along the cuts of the first text: each of its tokens is followed by more of it or by the break.
  induction chars using tokens?.induct generalizing tokens with
  | case1 =>
    rw [tokens?] at whole
    cases whole
    exact others
  | case2 c more space ih =>
    rw [tokens?, if_pos space] at whole
    rw [List.cons_append, tokens?, if_pos space, ih whole]
  | case3 c more space none =>
    rw [tokens?, if_neg space] at whole
    split at whole
    next => cases whole
    next found =>
      rw [none] at found
      cases found
  | case4 c more space token after found ih =>
    rw [tokens?, if_neg space] at whole
    split at whole
    next => cases whole
    next first left same =>
      rw [found] at same
      cases same
      obtain ⟨later, cut, rfl⟩ := Option.map_eq_some_iff.1 whole
      exact tokens?_token (next?_before breaks found) (ih cut)

/-- Before a break, a text is cut into these tokens first. -/
def LexesTo (chars : List Char) (tokens : List Token) : Prop :=
  ∀ rest tail, Breaks rest → tokens? rest = some tail →
    tokens? (chars ++ rest) = some (tokens ++ tail)

/-- Whatever follows it, a text is cut into these tokens first. -/
def AlwaysLexesTo (chars : List Char) (tokens : List Token) : Prop :=
  ∀ rest tail, tokens? rest = some tail → tokens? (chars ++ rest) = some (tokens ++ tail)

theorem AlwaysLexesTo.lexesTo (always : AlwaysLexesTo chars tokens) : LexesTo chars tokens :=
  fun rest tail _ others => always rest tail others

theorem AlwaysLexesTo.tokens? (always : AlwaysLexesTo chars tokens) :
    Lua.tokens? chars = some tokens := by
  have alone := always [] [] tokens?_nil
  rwa [List.append_nil, List.append_nil] at alone

theorem lexesTo_of_tokens? (whole : tokens? chars = some tokens) : LexesTo chars tokens :=
  fun _ _ breaks others => tokens?_append breaks others whole

section Sequences

variable {before : List Char} {earlier : List Token}

theorem AlwaysLexesTo.append (first : AlwaysLexesTo before earlier)
    (second : AlwaysLexesTo chars tokens) :
    AlwaysLexesTo (before ++ chars) (earlier ++ tokens) := by
  intro rest tail others
  rw [List.append_assoc, List.append_assoc]
  exact first _ _ (second rest tail others)

theorem AlwaysLexesTo.append_lexesTo (first : AlwaysLexesTo before earlier)
    (second : LexesTo chars tokens) : LexesTo (before ++ chars) (earlier ++ tokens) := by
  intro rest tail breaks others
  rw [List.append_assoc, List.append_assoc]
  exact first _ _ (second rest tail breaks others)

theorem LexesTo.append (first : LexesTo before earlier) (second : LexesTo chars tokens)
    (breaks : ∀ rest, Breaks (chars ++ rest)) : LexesTo (before ++ chars) (earlier ++ tokens) := by
  intro rest tail stops others
  rw [List.append_assoc, List.append_assoc]
  exact first _ _ (breaks rest) (second rest tail stops others)

/-- A text that begins with a break ends the tokens before it. -/
theorem LexesTo.append_always (first : LexesTo before earlier)
    (second : AlwaysLexesTo chars tokens) (breaks : ∀ rest, Breaks (chars ++ rest)) :
    AlwaysLexesTo (before ++ chars) (earlier ++ tokens) := by
  intro rest tail others
  rw [List.append_assoc, List.append_assoc]
  exact first _ _ (breaks rest) (second rest tail others)

end Sequences

/-! ### Delimiters -/

/-- Characters that are no part of the token before them, nor of the one after them. -/
def delimiters : List Char := [' ', '\n', '(', ')', ',']

/-- Whether a text ends with a delimiter, and is cut into tokens before it. -/
def isDelimited (text : String) : Bool :=
  text.toList.getLast?.any delimiters.contains && (tokens? text.toList.dropLast).isSome

private theorem breaks_delimiter {c : Char} (delimiter : c ∈ delimiters) : Breaks (c :: rest) := by
  simp only [delimiters, List.mem_cons, List.not_mem_nil, or_false] at delimiter
  rcases delimiter with rfl | rfl | rfl | rfl | rfl <;> exact breaks_cons (by decide)

/-- A delimiter is a blank or a token of its own. -/
theorem always_delimiter {c : Char} (delimiter : c ∈ delimiters) :
    ∃ tokens, AlwaysLexesTo [c] tokens := by
  simp only [delimiters, List.mem_cons, List.not_mem_nil, or_false] at delimiter
  rcases delimiter with rfl | rfl | rfl | rfl | rfl
  · exact ⟨[], fun rest tail others => tokens?_space others⟩
  · refine ⟨[], fun rest tail others => ?_⟩
    rw [List.singleton_append, List.nil_append, tokens?, if_pos (by decide), others]
  · exact ⟨[.symbol "("], fun rest tail others => tokens?_open others⟩
  · exact ⟨[.symbol ")"], fun rest tail others => tokens?_close others⟩
  · exact ⟨[.symbol ","], fun rest tail others => tokens?_comma others⟩

/-- A text that ends with a delimiter is cut as it is on its own, whatever follows it. -/
theorem always_of_isDelimited {text : String} (delimited : isDelimited text = true) :
    ∃ tokens, AlwaysLexesTo text.toList tokens := by
  rw [isDelimited, Bool.and_eq_true, Option.any_eq_true] at delimited
  obtain ⟨⟨c, last, delimiter⟩, whole⟩ := delimited
  rw [List.contains_iff_mem] at delimiter
  obtain ⟨before, spelled⟩ := List.getLast?_eq_some_iff.1 last
  rw [spelled, List.dropLast_concat] at whole
  obtain ⟨earlier, cut⟩ := Option.isSome_iff_exists.1 whole
  obtain ⟨own, always⟩ := always_delimiter delimiter
  rw [spelled]
  exact ⟨earlier ++ own, (lexesTo_of_tokens? cut).append_always always
    fun rest => breaks_delimiter delimiter⟩

end Rowscan.Lua
