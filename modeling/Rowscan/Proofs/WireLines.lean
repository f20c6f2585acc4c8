import Rowscan.Proofs.Numerals
import Rowscan.Wire.Decoder

/-!
Lines, numbers and payloads: the pieces that replies are written in. A line is read up to its
first line end, so a text is read back from its line exactly if no line ends inside it
(`readLine_eq_done_iff`). Numbers and doubles are written in visible characters, and hold no line
end whatever their spelling (`noLineEnd_of_counts`, `noLineEnd_of_double`). A payload is as long as
the line before it says. Two bytes are passed over after it, and it makes no difference which
(`readPayload_of_frame`, `frame_of_readPayload`).
-/
namespace Rowscan

/-! ## Texts as bytes -/

namespace Text

private theorem utf8_of_ofUtf8? {bytes : List UInt8} {text : String}
    (read : ofUtf8? bytes = some text) :
    utf8 text = bytes := by
  rw [ofUtf8?, String.fromUTF8?] at read
  split at read
  · cases read
    rfl
  · cases read

theorem utf8_inj {text other : String} (same : utf8 text = utf8 other) : text = other := by
  have read := ofUtf8?_utf8 text
  rw [same, ofUtf8?_utf8] at read
  exact (Option.some.inj read).symm

theorem utf8_eq_flatMap (text : String) :
    utf8 text = text.toList.flatMap String.utf8EncodeChar := by
  rw [utf8, ← String.utf8Encode_toList, List.utf8Encode, List.data_toByteArray, List.toList_toArray]

/-- An ASCII character that is no control character. -/
def IsVisible (c : Char) : Prop := 32 ≤ c.toNat ∧ c.toNat < 127

instance (c : Char) : Decidable (IsVisible c) := inferInstanceAs (Decidable (_ ∧ _))

private theorem carriageReturn_notMem_utf8 {text : String}
    (visible : ∀ c ∈ text.toList, IsVisible c) :
    13 ∉ utf8 text := by
  rw [utf8_eq_flatMap, List.mem_flatMap]
  rintro ⟨c, member, among⟩
  obtain ⟨low, high⟩ := visible c member
  have single : String.utf8EncodeChar c = [UInt8.ofNat c.toNat] :=
    if_pos (Nat.le_of_lt_succ (Nat.lt_succ_of_lt high))
  rw [single, List.mem_singleton] at among
  have code : 13 = c.toNat % 256 := congrArg UInt8.toNat among
  omega

private theorem isVisible_of_toLower {c : Char} (lower : IsVisible c.toLower) : IsVisible c := by
  unfold Char.toLower at lower
  split at lower
  next upper =>
    have low : 65 ≤ c.toNat := upper.1
    have high : c.toNat ≤ 90 := upper.2
    constructor <;> omega
  next => exact lower

private theorem isVisible_of_isNumeralChar {c : Char} (numeral : Numeral.isNumeralChar c = true) :
    IsVisible c := by
  have range := Numeral.isNumeralChar_range numeral
  constructor <;> omega

/-- The doubles that are no numerals, in lower case and without a sign. -/
def doubleWords : List String := ["inf", "infinity", "nan"]

private theorem isVisible_of_mem_doubleWords :
    ∀ word ∈ doubleWords, ∀ c ∈ word.toList, IsVisible c := by
  simp [doubleWords, IsVisible]

/-- A double is written as a numeral, or else as a word in letters of any case. -/
theorem numeral_or_word_of_double {text : String} {value : Double}
    (read : Double.ofText? text = some value) :
    (∃ numeral, Numeral.read? text.toList = some numeral) ∨
      ∃ word ∈ doubleWords, (Numeral.splitSign text.toList).2.map Char.toLower = word.toList := by
  unfold Double.ofText? at read
  split at read
  next numeral digits => exact .inl ⟨numeral, digits⟩
  next =>
    right
    dsimp only at read
    split at read
    next infinite =>
      rcases infinite with same | same <;> exact ⟨_, by simp [doubleWords], same⟩
    next =>
      split at read
      next same => exact ⟨_, by simp [doubleWords], same⟩
      next => cases read

private theorem isVisible_of_double {text : String} {value : Double}
    (read : Double.ofText? text = some value) : ∀ c ∈ text.toList, IsVisible c := by
  rcases numeral_or_word_of_double read with ⟨numeral, digits⟩ | ⟨word, among, same⟩
  · intro c member
    exact isVisible_of_isNumeralChar (Numeral.isNumeralChar_of_read? digits c member)
  · refine Numeral.forall_of_splitSign (by decide) (by decide) ?_
    intro c member
    apply isVisible_of_toLower
    apply isVisible_of_mem_doubleWords word among
    rw [← same]
    exact List.mem_map_of_mem member

end Text

namespace Wire

variable {byte : UInt8} {bytes line rest : List UInt8} {text : String} {n : Int}

/-! ## Lines -/

/-- No line ends inside these bytes. -/
def NoLineEnd (bytes : List UInt8) : Prop := ¬ crlf <:+: bytes

instance (bytes : List UInt8) : Decidable (NoLineEnd bytes) := inferInstanceAs (Decidable (¬ _))

/-- A text as a line. -/
def lineOf (text : String) : List UInt8 := Text.utf8 text ++ crlf

theorem noLineEnd_of_notMem (none : 13 ∉ line) : NoLineEnd line := by
  rintro ⟨front, back, rfl⟩
  simp [crlf] at none

theorem noLineEnd_cons_iff :
    NoLineEnd (byte :: line) ↔ ¬(byte = 13 ∧ line.head? = some 10) ∧ NoLineEnd line := by
  have front : crlf <+: byte :: line ↔ byte = 13 ∧ line.head? = some 10 := by
    cases line <;> simp [crlf, eq_comm]
  rw [NoLineEnd, List.infix_cons_iff, not_or, front, NoLineEnd]

private theorem splitLine_cons (inside : ¬(byte = 13 ∧ bytes.head? = some 10)) :
    splitLine (byte :: bytes) =
      (splitLine bytes).map fun (line, after) => (byte :: line, after) := by
  rw [splitLine]
  rintro after rfl rfl
  exact inside ⟨rfl, rfl⟩

/-- The first line end is the one after the line, even if the line ends in a carriage return. -/
theorem splitLine_of_noLineEnd (whole : NoLineEnd line) (rest : List UInt8) :
    splitLine (line ++ crlf ++ rest) = some (line, rest) := by
  induction line with
  | nil => rfl
  | cons byte line ih =>
    obtain ⟨inside, later⟩ := noLineEnd_cons_iff.1 whole
    have goesOn : ¬(byte = 13 ∧ (line ++ crlf ++ rest).head? = some 10) := by
      cases line with
      | nil => simp [crlf]
      | cons next line => exact inside
    rw [List.cons_append, List.cons_append, splitLine_cons goesOn, ih later]
    rfl

theorem of_splitLine (found : splitLine bytes = some (line, rest)) :
    bytes = line ++ crlf ++ rest ∧ NoLineEnd line := by
  induction bytes generalizing line with
  | nil => cases found
  | cons byte bytes ih =>
    by_cases ends : byte = 13 ∧ bytes.head? = some 10
    · obtain ⟨rfl, next⟩ := ends
      obtain ⟨after, rfl⟩ := List.head?_eq_some_iff.1 next
      cases found
      exact ⟨rfl, noLineEnd_of_notMem List.not_mem_nil⟩
    · rw [splitLine_cons ends] at found
      obtain ⟨⟨tail, after⟩, later, same⟩ := Option.map_eq_some_iff.1 found
      cases same
      obtain ⟨rfl, whole⟩ := ih later
      refine ⟨rfl, noLineEnd_cons_iff.2 ⟨?_, whole⟩⟩
      rintro ⟨rfl, next⟩
      obtain ⟨after, rfl⟩ := List.head?_eq_some_iff.1 next
      exact ends ⟨rfl, rfl⟩

/-! ## Readings that came to a value -/

namespace Reading

variable {α β : Type}

theorem andThen_eq_done {reading : Reading α} {next : α → List UInt8 → Reading β} {value : β} :
    reading.andThen next = .done value rest ↔
      ∃ first after, reading = .done first after ∧ next first after = .done value rest := by
  cases reading <;> simp [Reading.andThen, and_assoc]

theorem map_eq_done {reading : Reading α} {change : α → β} {value : β} :
    reading.map change = .done value rest ↔
      ∃ first, reading = .done first rest ∧ change first = value := by
  rw [Reading.map, andThen_eq_done]
  constructor
  · rintro ⟨first, after, read, changed⟩
    cases changed
    exact ⟨first, read, rfl⟩
  · rintro ⟨first, read, rfl⟩
    exact ⟨first, rest, read, rfl⟩

end Reading

theorem readLine_eq_done_iff :
    readLine bytes = .done text rest ↔
      bytes = lineOf text ++ rest ∧ NoLineEnd (Text.utf8 text) := by
  constructor
  · intro read
    unfold readLine at read
    split at read
    · cases read
    next line after found =>
      split at read
      next text valid =>
        cases read
        rw [lineOf, Text.utf8_of_ofUtf8? valid]
        exact of_splitLine found
      · cases read
  · rintro ⟨rfl, whole⟩
    simp only [readLine, lineOf, splitLine_of_noLineEnd whole, Text.ofUtf8?_utf8]

/-! ## Numbers -/

/-- A text is the text of a number, in any of the ways to write it. -/
def Counts (text : String) (n : Int) : Prop := (int64OfText? text).map Int64.toInt = some n

instance (text : String) (n : Int) : Decidable (Counts text n) :=
  inferInstanceAs (Decidable (_ = _))

theorem counts_int64 (value : Int64) : Counts (toString value.toInt) value.toInt := by
  rw [Counts, int64OfText?_toString]
  rfl

theorem counts_natCast {n : Nat} (short : n < 2 ^ 63) : Counts (toString n) n := by
  have value : (Int64.ofInt n).toInt = n := Int64.toInt_ofInt_of_le (by omega) (by omega)
  have counts := counts_int64 (Int64.ofInt n)
  rwa [value] at counts

theorem noLineEnd_of_counts (counts : Counts text n) : NoLineEnd (Text.utf8 text) := by
  obtain ⟨value, read, -⟩ := Option.map_eq_some_iff.1 counts
  obtain ⟨number, digits, -⟩ := Option.bind_eq_some_iff.1 read
  apply noLineEnd_of_notMem
  apply Text.carriageReturn_notMem_utf8
  intro c member
  exact Text.isVisible_of_isNumeralChar (Numeral.isNumeralChar_readInt? digits c member)

theorem noLineEnd_of_double {value : Double} (read : Double.ofText? text = some value) :
    NoLineEnd (Text.utf8 text) := by
  apply noLineEnd_of_notMem
  exact Text.carriageReturn_notMem_utf8 (Text.isVisible_of_double read)

theorem readInt_eq_done_iff {what : String} :
    readInt what bytes = .done n rest ↔ ∃ text, Counts text n ∧ bytes = lineOf text ++ rest := by
  constructor
  · intro read
    obtain ⟨text, after, line, counted⟩ := Reading.andThen_eq_done.1 read
    split at counted
    next value counts =>
      cases counted
      refine ⟨text, ?_, (readLine_eq_done_iff.1 line).1⟩
      rw [Counts, counts]
      rfl
    · cases counted
  · rintro ⟨text, counts, rfl⟩
    obtain ⟨value, read, rfl⟩ := Option.map_eq_some_iff.1 counts
    refine Reading.andThen_eq_done.2 ⟨text, rest, readLine_eq_done_iff.2 ⟨rfl, ?_⟩, ?_⟩
    · exact noLineEnd_of_counts counts
    · rw [read]

/-! ## Payloads -/

/-- A payload on the wire: its length as a line, its bytes, and bytes that end it. A negative
length stands for no payload. -/
inductive PayloadFrame (ends : List UInt8 → Prop) : Option (List UInt8) → List UInt8 → Prop
  | present {length : String} {data ending : List UInt8} (counts : Counts length data.length)
      (ended : ends ending) : PayloadFrame ends (some data) (lineOf length ++ data ++ ending)
  | absent {length : String} {n : Int} (counts : Counts length n) (negative : n < 0) :
      PayloadFrame ends none (lineOf length)

/-- Any two bytes. -/
def TwoBytes (ending : List UInt8) : Prop := ending.length = 2

section Payloads

variable {payload : Option (List UInt8)}

theorem readPayload_of_frame {ends : List UInt8 → Prop}
    (two : ∀ ending, ends ending → TwoBytes ending) {frame : List UInt8}
    (framed : PayloadFrame ends payload frame) (rest : List UInt8) :
    readPayload (frame ++ rest) = .done payload rest := by
  apply Reading.andThen_eq_done.2
  cases framed with
  | @present length data ending counts ended =>
    have size : ending.length = 2 := two ending ended
    have skip : data.length + 2 = (data ++ ending).length := by rw [List.length_append, size]
    have enough : ¬ (data ++ ending ++ rest).length < data.length + 2 := by
      rw [List.length_append, skip]
      omega
    refine ⟨data.length, data ++ ending ++ rest, readInt_eq_done_iff.2 ⟨length, counts, ?_⟩, ?_⟩
    · simp only [List.append_assoc]
    · rw [if_neg (by omega), Int.toNat_natCast, if_neg enough, skip, List.drop_left,
        List.append_assoc, List.take_left]
  | @absent length n counts negative =>
    exact ⟨n, rest, readInt_eq_done_iff.2 ⟨length, counts, rfl⟩, if_pos negative⟩

theorem frame_of_readPayload (read : readPayload bytes = .done payload rest) :
    ∃ frame, PayloadFrame TwoBytes payload frame ∧ bytes = frame ++ rest := by
  obtain ⟨n, after, counted, taken⟩ := Reading.andThen_eq_done.1 read
  obtain ⟨length, counts, rfl⟩ := readInt_eq_done_iff.1 counted
  split at taken
  next negative =>
    cases taken
    exact ⟨lineOf length, .absent counts negative, rfl⟩
  next natural =>
    split at taken
    · cases taken
    next enough =>
      cases taken
      have size : (after.take n.toNat).length = n.toNat := List.length_take_of_le (by omega)
      have count : ((after.take n.toNat).length : Int) = n := by omega
      have ending : TwoBytes ((after.drop n.toNat).take 2) := by
        rw [TwoBytes, List.length_take, List.length_drop]
        omega
      refine ⟨_, .present (count ▸ counts) ending, ?_⟩
      rw [List.append_assoc, List.append_assoc, ← List.drop_drop, List.take_append_drop,
        List.take_append_drop]

end Payloads

end Wire
end Rowscan
