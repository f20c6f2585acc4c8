import Rowscan.Proofs.WireLines

/-!
Replies are settled by their own bytes. A reading that has come to a value or to a fault comes to
the same when more bytes follow, and leaves those behind (`Reading.Extends`). Each part of the
decoder is read in this way, and so are whole replies (`decode_extends`). Hence no proper beginning
of a reply is taken for a reply or for malformed (`decode_beginning`).
-/
namespace Rowscan.Wire

variable {α β : Type} {more : List UInt8}

/-! ## Readings and more bytes -/

/-- What a reading may become when more bytes follow. A value and a fault stay, and the new bytes
stand after those that the value left. -/
inductive Reading.Extends (more : List UInt8) : Reading α → Reading α → Prop where
  | done (value : α) (rest : List UInt8) :
      Extends more (.done value rest) (.done value (rest ++ more))
  | malformed (fault : String) : Extends more (.malformed fault) (.malformed fault)
  | incomplete (later : Reading α) : Extends more .incomplete later

/-- Where `read` settles on something, `later` does with more bytes. -/
def Settles (more : List UInt8) (read later : List UInt8 → Reading α) : Prop :=
  ∀ bytes, (read bytes).Extends more (later (bytes ++ more))

namespace Reading.Extends

variable {reading later : Reading α}

/-- Reading on settles if both parts do. -/
theorem andThen {next nextLater : α → List UInt8 → Reading β}
    (extended : reading.Extends more later)
    (goesOn : ∀ value, Settles more (next value) (nextLater value)) :
    (reading.andThen next).Extends more (later.andThen nextLater) := by
  cases extended with
  | done value rest => exact goesOn value rest
  | malformed fault => exact .malformed fault
  | incomplete later => exact .incomplete _

theorem map (extended : reading.Extends more later) (change : α → β) :
    (reading.map change).Extends more (later.map change) :=
  extended.andThen fun value rest => .done (change value) rest

theorem eq_done {value : α} {rest : List UInt8} (extended : reading.Extends more later)
    (read : reading = .done value rest) : later = .done value (rest ++ more) := by
  subst read
  cases extended
  rfl

theorem eq_malformed {fault : String} (extended : reading.Extends more later)
    (read : reading = .malformed fault) : later = .malformed fault := by
  subst read
  cases extended
  rfl

end Reading.Extends

/-! ## Lines and payloads -/

/-- The first line end stays the first. -/
theorem splitLine_append {bytes line rest : List UInt8}
    (found : splitLine bytes = some (line, rest)) (more : List UInt8) :
    splitLine (bytes ++ more) = some (line, rest ++ more) := by
  obtain ⟨rfl, whole⟩ := of_splitLine found
  rw [List.append_assoc, splitLine_of_noLineEnd whole]

private theorem settles_readLine (more : List UInt8) : Settles more readLine readLine := by
  intro bytes
  unfold readLine
  cases found : splitLine bytes with
  | none => exact .incomplete _
  | some parts =>
    obtain ⟨line, rest⟩ := parts
    rw [splitLine_append found more]
    dsimp only
    cases Text.ofUtf8? line with
    | none => exact .malformed _
    | some text => exact .done text rest

private theorem settles_readInt (more : List UInt8) (what : String) :
    Settles more (readInt what) (readInt what) := by
  intro bytes
  refine (settles_readLine more bytes).andThen fun line rest => ?_
  cases int64OfText? line with
  | none => exact .malformed _
  | some value => exact .done _ rest

/-- A payload that has come whole stays the same. -/
theorem settles_readPayload (more : List UInt8) : Settles more readPayload readPayload := by
  intro bytes
  refine (settles_readInt more _ bytes).andThen fun length rest => ?_
  by_cases negative : length < 0
  · rw [if_pos negative, if_pos negative]
    exact .done none rest
  · rw [if_neg negative, if_neg negative]
    by_cases short : rest.length < length.toNat + 2
    · rw [if_pos short]
      exact .incomplete _
    · have whole : ¬(rest ++ more).length < length.toNat + 2 := by
        rw [List.length_append]
        omega
      rw [if_neg short, if_neg whole, List.take_append_of_le_length (by omega),
        List.drop_append_of_le_length (by omega)]
      exact .done _ _

private theorem settles_readBool (more : List UInt8) : Settles more readBool readBool := by
  intro bytes
  refine (settles_readLine more bytes).andThen fun line rest => ?_
  split
  · exact .done _ rest
  · split
    · exact .done _ rest
    · exact .malformed _

private theorem settles_readDouble (more : List UInt8) : Settles more readDouble readDouble := by
  intro bytes
  refine (settles_readLine more bytes).andThen fun line rest => ?_
  cases Double.ofText? line with
  | none => exact .malformed _
  | some value => exact .done _ rest

/-! ## Replies -/

section Nested

variable {read later : List UInt8 → Reading α}

private theorem settles_readMany (settles : Settles more read later) (count : Nat) :
    Settles more (readMany read count) (readMany later count) := by
  induction count with
  | zero =>
    intro bytes
    exact .done [] bytes
  | succ count ih =>
    intro bytes
    exact (settles bytes).andThen fun value rest => (ih rest).map (value :: ·)

private theorem settles_readPair (settles : Settles more read later) :
    Settles more (readPair read) (readPair later) := by
  intro bytes
  exact (settles bytes).andThen fun first rest => (settles rest).map (first, ·)

end Nested

/-- A reply settles if the replies inside it do. -/
theorem settles_readBody {read later : List UInt8 → Reading Reply}
    (settles : Settles more read later) (kind : UInt8) :
    Settles more (readBody read kind) (readBody later kind) := by
  intro bytes
  unfold readBody
  have line := settles_readLine more bytes
  have payload := settles_readPayload more bytes
  have sequence : ((readInt "array length" bytes).andThen fun count rest =>
        if count < 0 then .done Reply.null rest
        else (readMany read count.toNat rest).map Reply.array).Extends more
      ((readInt "array length" (bytes ++ more)).andThen fun count rest =>
        if count < 0 then .done Reply.null rest
        else (readMany later count.toNat rest).map Reply.array) := by
    refine (settles_readInt more _ bytes).andThen fun count rest => ?_
    split
    · exact .done _ rest
    · exact (settles_readMany settles count.toNat rest).map _
  have pairs (count : Int) := settles_readMany (settles_readPair settles) count.toNat
  -- The type byte is the same on both sides; one case for each, in the order of the decoder.
  generalize Char.ofNat kind.toNat = mark
  split
  · exact line.map _
  · exact line.map _
  · exact (settles_readInt more _ bytes).map _
  · exact payload.map _
  · exact payload.map _
  · exact payload.map _
  · exact line.map _
  · exact sequence
  · exact sequence
  · exact sequence
  · exact line.map _
  · exact settles_readBool more bytes
  · exact settles_readDouble more bytes
  · exact (settles_readInt more _ bytes).andThen fun count rest => (pairs count rest).map _
  · exact (settles_readInt more _ bytes).andThen fun count rest =>
      (pairs count rest).andThen fun _ => settles
  · exact .malformed _

/-- More bytes leave room for deeper replies, and settle no reply otherwise. -/
theorem settles_readReply (more : List UInt8) {depth deeper : Nat} (room : depth ≤ deeper) :
    Settles more (readReply depth) (readReply deeper) := by
  induction depth generalizing deeper with
  | zero =>
    intro bytes
    exact .incomplete _
  | succ depth ih =>
    obtain ⟨deeper, rfl⟩ := Nat.exists_eq_add_of_lt room
    intro bytes
    cases bytes with
    | nil => exact .incomplete _
    | cons kind bytes => exact settles_readBody (ih (by omega)) kind bytes

/-- A reply is settled by its own bytes, whatever follows them. -/
theorem decode_extends (bytes more : List UInt8) :
    (decode bytes).Extends more (decode (bytes ++ more)) := by
  have room : bytes.length ≤ (bytes ++ more).length := by
    rw [List.length_append]
    omega
  exact settles_readReply more room bytes

/-- A proper beginning of a reply is neither a reply nor malformed. -/
theorem decode_beginning {beginning rest : List UInt8} {reply : Reply}
    (whole : decode (beginning ++ rest) = .done reply []) (proper : rest ≠ []) :
    decode beginning = .incomplete := by
  have extended := decode_extends beginning rest
  rw [whole] at extended
  cases read : decode beginning with
  | done value left =>
    have same := extended.eq_done read
    simp [proper] at same
  | malformed fault => cases extended.eq_malformed read
  | incomplete => rfl

end Rowscan.Wire
