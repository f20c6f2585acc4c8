import Rowscan.Proofs.Framing

/-!
The language of replies. `Frame` says which bytes are one reply, by the types of replies and not by
the steps of the decoder: every line ends in CR LF, every payload has the length that was announced,
and sizes agree at every level of nesting. Frames are decoded as their replies whatever follows them
(`decode_of_frame`), and nothing else is decoded (`frame_of_decode`), but the decoder does not look
at the two bytes after a payload (`decode_eq_done_iff_frame`). Since a frame needs nothing after it,
the bytes that a reply took settle it (`decode_settled`).
-/
namespace Rowscan.Wire

variable {ends : List UInt8 → Prop} {bytes rest : List UInt8} {reply : Reply} {mark : Char}

/-! ## The grammar -/

/-- What a line says, by its type byte. -/
inductive LineSays : Char → String → Reply → Prop
  | status (text : String) : LineSays '+' text (.status text)
  | error (text : String) : LineSays '-' text (.error text)
  | integer {text : String} {n : Int} (counts : Counts text n) : LineSays ':' text (.integer n)
  | bigNumber (text : String) : LineSays '(' text (.ofText text)
  | null (text : String) : LineSays '_' text .null
  | yes : LineSays '#' "t" (.boolean true)
  | no : LineSays '#' "f" (.boolean false)
  | double {text : String} {value : Double} (read : Double.ofText? text = some value) :
      LineSays ',' text (.double value)

/-- What a payload says, by its type byte. Verbatim text comes after four bytes for its format. -/
inductive PayloadSays : Char → Option (List UInt8) → Reply → Prop
  | bulk (data : List UInt8) : PayloadSays '$' (some data) (.bulk data)
  | null : PayloadSays '$' none .null
  | error (payload : Option (List UInt8)) :
      PayloadSays '!' payload (.error (Text.repairUtf8 (payload.getD [])))
  | verbatim (payload : Option (List UInt8)) :
      PayloadSays '=' payload (.bulk ((payload.getD []).drop 4))

/-- The type bytes of arrays, sets and pushes. -/
def sequenceMarks : List Char := ['*', '~', '>']

/-- The two sides of each pair, one after the other. -/
def inTurn (pairs : List (Reply × Reply)) : List Reply :=
  pairs.flatMap fun (name, value) => [name, value]

mutual

/-- The bytes of one reply. Every line ends in CR LF, and `ends` says what ends a payload. -/
inductive Frame (ends : List UInt8 → Prop) : Reply → List UInt8 → Prop
  | line {mark : Char} {text : String} {reply : Reply} (meaning : LineSays mark text reply)
      (whole : NoLineEnd (Text.utf8 text)) : Frame ends reply (mark.toUInt8 :: lineOf text)
  | payload {mark : Char} {payload : Option (List UInt8)} {reply : Reply} {bytes : List UInt8}
      (meaning : PayloadSays mark payload reply) (framed : PayloadFrame ends payload bytes) :
      Frame ends reply (mark.toUInt8 :: bytes)
  | array {mark : Char} {count : String} {items : List Reply} {bytes : List UInt8}
      (marked : mark ∈ sequenceMarks) (counts : Counts count items.length)
      (framed : Frames ends items bytes) :
      Frame ends (.array items) (mark.toUInt8 :: (lineOf count ++ bytes))
  | noArray {mark : Char} {count : String} {n : Int} (marked : mark ∈ sequenceMarks)
      (counts : Counts count n) (negative : n < 0) :
      Frame ends .null (mark.toUInt8 :: lineOf count)
  | map {count : String} {n : Int} {pairs : List (Reply × Reply)} {bytes : List UInt8}
      (counts : Counts count n) (size : n.toNat = pairs.length)
      (framed : Frames ends (inTurn pairs) bytes) :
      Frame ends (.map pairs) ('%'.toUInt8 :: (lineOf count ++ bytes))
  /-- Attributes come before a reply and are no part of it. -/
  | attributed {count : String} {n : Int} {attributes : List (Reply × Reply)} {reply : Reply}
      {before bytes : List UInt8} (counts : Counts count n) (size : n.toNat = attributes.length)
      (skipped : Frames ends (inTurn attributes) before) (framed : Frame ends reply bytes) :
      Frame ends reply ('|'.toUInt8 :: (lineOf count ++ (before ++ bytes)))

/-- The bytes of several replies, one after another. -/
inductive Frames (ends : List UInt8 → Prop) : List Reply → List UInt8 → Prop
  | nil : Frames ends [] []
  | cons {reply : Reply} {replies : List Reply} {bytes rest : List UInt8}
      (first : Frame ends reply bytes) (more : Frames ends replies rest) :
      Frames ends (reply :: replies) (bytes ++ rest)

end

theorem Frame.exists_cons (framed : Frame ends reply bytes) :
    ∃ kind tail, bytes = kind :: tail := by
  cases framed <;> exact ⟨_, _, rfl⟩

/-! ## Readers of several values -/

section Many

variable {α : Type} {read : List UInt8 → Reading α}

theorem readMany_cons_iff {value : α} {values : List α} {count : Nat} :
    readMany read (count + 1) bytes = .done (value :: values) rest ↔
      ∃ after, read bytes = .done value after ∧ readMany read count after = .done values rest := by
  rw [readMany, Reading.andThen_eq_done]
  constructor
  · rintro ⟨first, after, taken, mapped⟩
    obtain ⟨later, more, same⟩ := Reading.map_eq_done.1 mapped
    cases same
    exact ⟨after, taken, more⟩
  · rintro ⟨after, taken, more⟩
    exact ⟨value, after, taken, Reading.map_eq_done.2 ⟨values, more, rfl⟩⟩

private theorem length_of_readMany {values : List α} {count : Nat}
    (taken : readMany read count bytes = .done values rest) : values.length = count := by
  induction count generalizing bytes values with
  | zero =>
    cases taken
    rfl
  | succ count ih =>
    obtain ⟨first, after, -, mapped⟩ := Reading.andThen_eq_done.1 taken
    obtain ⟨values, more, rfl⟩ := Reading.map_eq_done.1 mapped
    rw [List.length_cons, ih more]

theorem readPair_eq_done_iff {name value : α} :
    readPair read bytes = .done (name, value) rest ↔
      ∃ after, read bytes = .done name after ∧ read after = .done value rest := by
  rw [readPair, Reading.andThen_eq_done]
  constructor
  · rintro ⟨first, after, taken, mapped⟩
    obtain ⟨second, more, same⟩ := Reading.map_eq_done.1 mapped
    cases same
    exact ⟨after, taken, more⟩
  · rintro ⟨after, taken, more⟩
    exact ⟨name, after, taken, Reading.map_eq_done.2 ⟨value, more, rfl⟩⟩

end Many

/-- Pairs are read as their sides in turn are. -/
theorem readMany_readPair_iff {read : List UInt8 → Reading Reply} {pairs : List (Reply × Reply)} :
    readMany (readPair read) pairs.length bytes = .done pairs rest ↔
      readMany read (inTurn pairs).length bytes = .done (inTurn pairs) rest := by
  induction pairs generalizing bytes with
  | nil => simp [inTurn, readMany]
  | cons pair pairs ih =>
    obtain ⟨name, value⟩ := pair
    have sides : inTurn ((name, value) :: pairs) = name :: value :: inTurn pairs := rfl
    simp only [sides, List.length_cons, readMany_cons_iff, ih, readPair_eq_done_iff]
    constructor
    · rintro ⟨after, ⟨between, first, second⟩, more⟩
      exact ⟨between, first, after, second, more⟩
    · rintro ⟨between, first, after, second, more⟩
      exact ⟨after, ⟨between, first, second⟩, more⟩

/-! ## Every frame is read -/

section Bodies

variable {read : List UInt8 → Reading Reply}

private theorem readBody_line {text : String} (meaning : LineSays mark text reply)
    (whole : NoLineEnd (Text.utf8 text)) (rest : List UInt8) :
    readBody read mark.toUInt8 (lineOf text ++ rest) = .done reply rest := by
  have line : readLine (lineOf text ++ rest) = .done text rest :=
    readLine_eq_done_iff.2 ⟨rfl, whole⟩
  cases meaning with
  | status => exact Reading.map_eq_done.2 ⟨text, line, rfl⟩
  | error => exact Reading.map_eq_done.2 ⟨text, line, rfl⟩
  | @integer _ n counts =>
    exact Reading.map_eq_done.2 ⟨n, readInt_eq_done_iff.2 ⟨text, counts, rfl⟩, rfl⟩
  | bigNumber => exact Reading.map_eq_done.2 ⟨text, line, rfl⟩
  | null => exact Reading.map_eq_done.2 ⟨text, line, rfl⟩
  | yes =>
    change readBool _ = _
    rw [readBool, line]
    rfl
  | no =>
    change readBool _ = _
    rw [readBool, line]
    rfl
  | double read =>
    change readDouble _ = _
    rw [readDouble, line, Reading.andThen, read]

private theorem readBody_payload (two : ∀ ending, ends ending → TwoBytes ending)
    {payload : Option (List UInt8)} (meaning : PayloadSays mark payload reply)
    (framed : PayloadFrame ends payload bytes) (rest : List UInt8) :
    readBody read mark.toUInt8 (bytes ++ rest) = .done reply rest := by
  have taken := readPayload_of_frame two framed rest
  cases meaning <;> exact Reading.map_eq_done.2 ⟨_, taken, rfl⟩

private theorem readBody_sequence (marked : mark ∈ sequenceMarks) (bytes : List UInt8) :
    readBody read mark.toUInt8 bytes =
      (readInt "array length" bytes).andThen fun count rest =>
        if count < 0 then .done .null rest else (readMany read count.toNat rest).map .array := by
  simp only [sequenceMarks, List.mem_cons, List.not_mem_nil, or_false] at marked
  rcases marked with rfl | rfl | rfl <;> rfl

private theorem readBody_array {count : String} {items : List Reply} (marked : mark ∈ sequenceMarks)
    (counts : Counts count items.length)
    (inner : readMany read items.length bytes = .done items rest) :
    readBody read mark.toUInt8 (lineOf count ++ bytes) = .done (.array items) rest := by
  have natural : ¬ (items.length : Int) < 0 := by omega
  rw [readBody_sequence marked, readInt_eq_done_iff.2 ⟨count, counts, rfl⟩, Reading.andThen,
    if_neg natural, Int.toNat_natCast, inner]
  rfl

private theorem readBody_noArray {count : String} {n : Int} (marked : mark ∈ sequenceMarks)
    (counts : Counts count n) (negative : n < 0) (rest : List UInt8) :
    readBody read mark.toUInt8 (lineOf count ++ rest) = .done .null rest := by
  rw [readBody_sequence marked, readInt_eq_done_iff.2 ⟨count, counts, rfl⟩, Reading.andThen,
    if_pos negative]

section Pairs

variable {count : String} {n : Int} {pairs : List (Reply × Reply)}

private theorem readBody_map (counts : Counts count n) (size : n.toNat = pairs.length)
    (inner : readMany read (inTurn pairs).length bytes = .done (inTurn pairs) rest) :
    readBody read '%'.toUInt8 (lineOf count ++ bytes) = .done (.map pairs) rest := by
  change (readInt _ _).andThen _ = _
  rw [readInt_eq_done_iff.2 ⟨count, counts, rfl⟩, Reading.andThen, size,
    readMany_readPair_iff.2 inner]
  rfl

private theorem readBody_attributed (counts : Counts count n) (size : n.toNat = pairs.length)
    (skipped : readMany read (inTurn pairs).length bytes = .done (inTurn pairs) rest) :
    readBody read '|'.toUInt8 (lineOf count ++ bytes) = read rest := by
  change (readInt _ _).andThen _ = _
  rw [readInt_eq_done_iff.2 ⟨count, counts, rfl⟩, Reading.andThen, size,
    readMany_readPair_iff.2 skipped]
  rfl

end Pairs

end Bodies

mutual

/-- A frame is read as its reply, given room for as many levels as it has bytes. -/
theorem Frame.read (two : ∀ ending, ends ending → TwoBytes ending) {reply : Reply}
    {bytes : List UInt8} (framed : Frame ends reply bytes) {depth : Nat}
    (room : bytes.length ≤ depth) (rest : List UInt8) :
    readReply depth (bytes ++ rest) = .done reply rest := by
  obtain ⟨kind, tail, same⟩ := framed.exists_cons
  obtain ⟨depth, rfl⟩ : ∃ below, depth = below + 1 :=
    Nat.exists_eq_add_one.2 (Nat.lt_of_lt_of_le (same ▸ Nat.zero_lt_succ _) room)
  -- What is inside a frame is shorter than the frame by its type byte at least.
  match framed with
  | .line meaning whole => exact readBody_line meaning whole rest
  | .payload meaning framed => exact readBody_payload two meaning framed rest
  | .noArray marked counts negative => exact readBody_noArray marked counts negative rest
  | .array marked counts framed =>
    simp only [List.length_cons, List.length_append] at room
    rw [List.cons_append, List.append_assoc]
    exact readBody_array marked counts (framed.read two (by omega) rest)
  | .map counts size framed =>
    simp only [List.length_cons, List.length_append] at room
    rw [List.cons_append, List.append_assoc]
    exact readBody_map counts size (framed.read two (by omega) rest)
  | .attributed counts size skipped framed =>
    simp only [List.length_cons, List.length_append] at room
    rw [List.cons_append, List.append_assoc, List.append_assoc]
    exact (readBody_attributed counts size (skipped.read two (by omega) _)).trans
      (framed.read two (by omega) rest)

/-- So are several frames, one after another. -/
theorem Frames.read (two : ∀ ending, ends ending → TwoBytes ending) {replies : List Reply}
    {bytes : List UInt8} (framed : Frames ends replies bytes) {depth : Nat}
    (room : bytes.length ≤ depth) (rest : List UInt8) :
    readMany (readReply depth) replies.length (bytes ++ rest) = .done replies rest := by
  match framed with
  | .nil => rfl
  | .cons first more =>
    rw [List.length_append] at room
    rw [List.append_assoc]
    exact readMany_cons_iff.2
      ⟨_, first.read two (by omega) _, more.read two (by omega) rest⟩

end

/-- Whatever follows a frame, it is decoded as its reply and the rest is left. -/
theorem decode_of_frame (two : ∀ ending, ends ending → TwoBytes ending)
    (framed : Frame ends reply bytes) (rest : List UInt8) :
    decode (bytes ++ rest) = .done reply rest := by
  apply framed.read two
  rw [List.length_append]
  omega

/-! ## Nothing else is read -/

/-- The bytes begin with a frame of the reply, whatever ends the payloads, and the rest follows. -/
def HasFrame (bytes : List UInt8) (reply : Reply) (rest : List UInt8) : Prop :=
  ∃ frame, Frame TwoBytes reply frame ∧ bytes = frame ++ rest

/-- Only frames are read. -/
def TakesFrames (read : List UInt8 → Reading Reply) : Prop :=
  ∀ bytes reply rest, read bytes = .done reply rest → HasFrame bytes reply rest

private theorem kind_eq {kind : UInt8} (same : Char.ofNat kind.toNat = mark) :
    kind = mark.toUInt8 := by
  subst same
  have valid : kind.toNat.isValidChar := by
    have small := kind.toNat_lt
    left
    omega
  have char : Char.ofNat kind.toNat = Char.ofNatAux kind.toNat valid := dif_pos valid
  have code : (Char.ofNat kind.toNat).val.toNat = kind.toNat := by rw [char]; rfl
  apply UInt8.toNat_inj.1
  rw [Char.toUInt8, UInt32.toNat_toUInt8, code]
  exact (Nat.mod_eq_of_lt kind.toNat_lt).symm

section Taken

variable {read : List UInt8 → Reading Reply} {kind : UInt8}

private theorem frames_of_readMany (takes : TakesFrames read) {count : Nat} {replies : List Reply}
    (taken : readMany read count bytes = .done replies rest) :
    ∃ frames, Frames TwoBytes replies frames ∧ bytes = frames ++ rest := by
  induction count generalizing bytes replies with
  | zero =>
    cases taken
    exact ⟨[], .nil, rfl⟩
  | succ count ih =>
    obtain ⟨reply, replies, rfl⟩ := List.exists_cons_of_length_eq_add_one (length_of_readMany taken)
    obtain ⟨after, first, more⟩ := readMany_cons_iff.1 taken
    obtain ⟨frame, framed, rfl⟩ := takes _ _ _ first
    obtain ⟨frames, others, rfl⟩ := ih more
    exact ⟨frame ++ frames, .cons framed others, (List.append_assoc ..).symm⟩

private theorem frames_of_readPairs (takes : TakesFrames read) {count : Nat}
    {pairs : List (Reply × Reply)}
    (taken : readMany (readPair read) count bytes = .done pairs rest) :
    ∃ frames, Frames TwoBytes (inTurn pairs) frames ∧ bytes = frames ++ rest := by
  rw [← length_of_readMany taken] at taken
  exact frames_of_readMany takes (readMany_readPair_iff.1 taken)

private theorem hasFrame_line (same : Char.ofNat kind.toNat = mark) {text : String}
    (taken : readLine bytes = .done text rest) (meaning : LineSays mark text reply) :
    HasFrame (kind :: bytes) reply rest := by
  obtain rfl := kind_eq same
  obtain ⟨rfl, whole⟩ := readLine_eq_done_iff.1 taken
  exact ⟨_, .line meaning whole, rfl⟩

private theorem hasFrame_text (same : Char.ofNat kind.toNat = mark) {change : String → Reply}
    (taken : (readLine bytes).map change = .done reply rest)
    (meaning : ∀ text, LineSays mark text (change text)) : HasFrame (kind :: bytes) reply rest := by
  obtain ⟨text, line, rfl⟩ := Reading.map_eq_done.1 taken
  exact hasFrame_line same line (meaning text)

private theorem hasFrame_integer (same : Char.ofNat kind.toNat = ':')
    (taken : (readInt "integer" bytes).map .integer = .done reply rest) :
    HasFrame (kind :: bytes) reply rest := by
  obtain ⟨n, counted, rfl⟩ := Reading.map_eq_done.1 taken
  obtain ⟨text, counts, rfl⟩ := readInt_eq_done_iff.1 counted
  obtain rfl := kind_eq same
  exact ⟨_, .line (.integer counts) (noLineEnd_of_counts counts), rfl⟩

private theorem hasFrame_boolean (same : Char.ofNat kind.toNat = '#')
    (taken : readBool bytes = .done reply rest) : HasFrame (kind :: bytes) reply rest := by
  obtain ⟨text, after, line, said⟩ := Reading.andThen_eq_done.1 taken
  split at said
  next yes =>
    cases said
    exact hasFrame_line same (yes ▸ line) .yes
  next =>
    split at said
    next no =>
      cases said
      exact hasFrame_line same (no ▸ line) .no
    next => cases said

private theorem hasFrame_double (same : Char.ofNat kind.toNat = ',')
    (taken : readDouble bytes = .done reply rest) : HasFrame (kind :: bytes) reply rest := by
  obtain ⟨text, after, line, said⟩ := Reading.andThen_eq_done.1 taken
  split at said
  next value read =>
    cases said
    exact hasFrame_line same line (.double read)
  next => cases said

private theorem hasFrame_payload (same : Char.ofNat kind.toNat = mark)
    {change : Option (List UInt8) → Reply}
    (taken : (readPayload bytes).map change = .done reply rest)
    (meaning : ∀ payload, PayloadSays mark payload (change payload)) :
    HasFrame (kind :: bytes) reply rest := by
  obtain ⟨payload, read, rfl⟩ := Reading.map_eq_done.1 taken
  obtain ⟨frame, framed, rfl⟩ := frame_of_readPayload read
  obtain rfl := kind_eq same
  exact ⟨_, .payload (meaning payload) framed, rfl⟩

private theorem hasFrame_sequence (takes : TakesFrames read) (same : Char.ofNat kind.toNat = mark)
    (marked : mark ∈ sequenceMarks) (taken : readBody read mark.toUInt8 bytes = .done reply rest) :
    HasFrame (kind :: bytes) reply rest := by
  obtain rfl := kind_eq same
  rw [readBody_sequence marked] at taken
  obtain ⟨n, after, counted, goesOn⟩ := Reading.andThen_eq_done.1 taken
  obtain ⟨count, counts, rfl⟩ := readInt_eq_done_iff.1 counted
  split at goesOn
  next negative =>
    cases goesOn
    exact ⟨_, .noArray marked counts negative, rfl⟩
  next natural =>
    obtain ⟨items, read, rfl⟩ := Reading.map_eq_done.1 goesOn
    have size : (items.length : Int) = n := by
      rw [length_of_readMany read]
      omega
    obtain ⟨frames, framed, rfl⟩ := frames_of_readMany takes read
    refine ⟨_, .array marked (size ▸ counts) framed, ?_⟩
    rw [List.cons_append, List.append_assoc]

private theorem hasFrame_map (takes : TakesFrames read) (same : Char.ofNat kind.toNat = '%')
    (taken : readBody read '%'.toUInt8 bytes = .done reply rest) :
    HasFrame (kind :: bytes) reply rest := by
  obtain rfl := kind_eq same
  obtain ⟨n, after, counted, goesOn⟩ := Reading.andThen_eq_done.1 taken
  obtain ⟨count, counts, rfl⟩ := readInt_eq_done_iff.1 counted
  obtain ⟨pairs, read, rfl⟩ := Reading.map_eq_done.1 goesOn
  obtain ⟨frames, framed, rfl⟩ := frames_of_readPairs takes read
  refine ⟨_, .map counts (length_of_readMany read).symm framed, ?_⟩
  rw [List.cons_append, List.append_assoc]

private theorem hasFrame_attributed (takes : TakesFrames read) (same : Char.ofNat kind.toNat = '|')
    (taken : readBody read '|'.toUInt8 bytes = .done reply rest) :
    HasFrame (kind :: bytes) reply rest := by
  obtain rfl := kind_eq same
  obtain ⟨n, after, counted, goesOn⟩ := Reading.andThen_eq_done.1 taken
  obtain ⟨count, counts, rfl⟩ := readInt_eq_done_iff.1 counted
  obtain ⟨attributes, later, read, last⟩ := Reading.andThen_eq_done.1 goesOn
  obtain ⟨before, skipped, rfl⟩ := frames_of_readPairs takes read
  obtain ⟨frame, framed, rfl⟩ := takes _ _ _ last
  refine ⟨_, .attributed counts (length_of_readMany read).symm skipped framed, ?_⟩
  rw [List.cons_append, List.append_assoc, List.append_assoc]

/-- A body is read only as what follows the type byte of a frame. -/
theorem hasFrame_of_readBody (takes : TakesFrames read)
    (taken : readBody read kind bytes = .done reply rest) :
    HasFrame (kind :: bytes) reply rest := by
  unfold readBody at taken
  -- One case for each type byte, in the order of the decoder.
  split at taken
  next same => exact hasFrame_text same taken .status
  next same => exact hasFrame_text same taken .error
  next same => exact hasFrame_integer same taken
  next same =>
    refine hasFrame_payload same taken ?_
    intro payload
    cases payload with
    | none => exact .null
    | some data => exact .bulk data
  next same => exact hasFrame_payload same taken .error
  next same => exact hasFrame_payload same taken .verbatim
  next same => exact hasFrame_text same taken .bigNumber
  next same => exact hasFrame_sequence takes same (by decide) taken
  next same => exact hasFrame_sequence takes same (by decide) taken
  next same => exact hasFrame_sequence takes same (by decide) taken
  next same => exact hasFrame_text same taken .null
  next same => exact hasFrame_boolean same taken
  next same => exact hasFrame_double same taken
  next same => exact hasFrame_map takes same taken
  next same => exact hasFrame_attributed takes same taken
  next => cases taken

end Taken

private theorem takesFrames_readReply (depth : Nat) : TakesFrames (readReply depth) := by
  induction depth with
  | zero =>
    intro bytes reply rest taken
    cases taken
  | succ depth ih =>
    intro bytes reply rest taken
    cases bytes with
    | nil => cases taken
    | cons kind bytes => exact hasFrame_of_readBody ih taken

theorem frame_of_decode (read : decode bytes = .done reply rest) : HasFrame bytes reply rest :=
  takesFrames_readReply _ _ _ _ read

/-! ## Payloads that end in CR LF -/

private theorem crlf_suffix_lineOf (kind : UInt8) (text : String) : crlf <:+ kind :: lineOf text :=
  (List.suffix_append _ crlf).trans (List.suffix_cons ..)

private theorem crlf_suffix_header {kind : UInt8} {count : String}
    (inside : bytes = [] ∨ crlf <:+ bytes) :
    crlf <:+ kind :: (lineOf count ++ bytes) := by
  rcases inside with rfl | last
  · rw [List.append_nil]
    exact crlf_suffix_lineOf kind count
  · exact last.trans ((List.suffix_append ..).trans (List.suffix_cons ..))

mutual

/-- A reply whose payloads end in CR LF ends in CR LF itself. -/
theorem Frame.crlf_suffix {reply : Reply} {bytes : List UInt8}
    (framed : Frame (· = crlf) reply bytes) : crlf <:+ bytes := by
  match framed with
  | .line meaning whole => exact crlf_suffix_lineOf ..
  | .payload meaning (.present counts ended) =>
    cases ended
    exact (List.suffix_append ..).trans (List.suffix_cons ..)
  | .payload meaning (.absent counts negative) => exact crlf_suffix_lineOf ..
  | .noArray marked counts negative => exact crlf_suffix_lineOf ..
  | .array marked counts framed => exact crlf_suffix_header framed.crlf_suffix
  | .map counts size framed => exact crlf_suffix_header framed.crlf_suffix
  | .attributed counts size skipped framed =>
    apply crlf_suffix_header
    exact .inr (framed.crlf_suffix.trans (List.suffix_append ..))

/-- So do several such replies, if there is one at all. -/
theorem Frames.crlf_suffix {replies : List Reply} {bytes : List UInt8}
    (framed : Frames (· = crlf) replies bytes) : bytes = [] ∨ crlf <:+ bytes := by
  match framed with
  | .nil => exact .inl rfl
  | .cons first more =>
    rcases more.crlf_suffix with rfl | last
    · rw [List.append_nil]
      exact .inr first.crlf_suffix
    · exact .inr (last.trans (List.suffix_append ..))

end

/-! ## What is decoded -/

/-- A reply is decoded exactly from a frame in which any two bytes end a payload. -/
theorem decode_eq_done_iff_frame (bytes : List UInt8) (reply : Reply) (rest : List UInt8) :
    decode bytes = .done reply rest ↔
      ∃ frame, Frame TwoBytes reply frame ∧ bytes = frame ++ rest := by
  constructor
  · exact frame_of_decode
  · rintro ⟨frame, framed, rfl⟩
    exact decode_of_frame (fun _ two => two) framed rest

/-- A payload of five bytes, with two bytes after it that are not CR LF. -/
def unclosed : List UInt8 := [36, 53, 13, 10, 104, 101, 108, 108, 111, 88, 88]

theorem decode_unclosed :
    decode unclosed = .done (.ofText "hello") [] ∧
      ¬∃ frame, Frame (· = crlf) (.ofText "hello") frame ∧ unclosed = frame ++ [] := by
  constructor
  · have counts : Counts "5" ([104, 101, 108, 108, 111] : List UInt8).length := by decide
    have ended : TwoBytes [88, 88] := rfl
    exact (decode_eq_done_iff_frame _ _ _).2
      ⟨unclosed, .payload (.bulk [104, 101, 108, 108, 111]) (.present counts ended), rfl⟩
  · rintro ⟨frame, framed, same⟩
    have closed := framed.crlf_suffix
    rw [List.append_nil] at same
    rw [← same] at closed
    revert closed
    decide

/-! ## What settles a reply -/

/-- A reply needs no bytes but its own. -/
theorem settled_of_decode (read : decode bytes = .done reply rest) :
    ∃ frame, frame ≠ [] ∧ bytes = frame ++ rest ∧
      ∀ more, decode (frame ++ more) = .done reply more := by
  obtain ⟨frame, framed, rfl⟩ := frame_of_decode read
  obtain ⟨kind, tail, same⟩ := framed.exists_cons
  refine ⟨frame, ?_, rfl, decode_of_frame (fun _ two => two) framed⟩
  rw [same]
  exact List.cons_ne_nil _ _

private theorem decode_front_of_incomplete {front back : List UInt8}
    (waits : decode (front ++ back) = .incomplete) : decode front = .incomplete := by
  have extended := decode_extends front back
  cases read : decode front with
  | done reply rest =>
    rw [extended.eq_done read] at waits
    cases waits
  | malformed fault =>
    rw [extended.eq_malformed read] at waits
    cases waits
  | incomplete => rfl

/-- The fate of a reply is settled by its own bytes. It takes one byte at least, every proper
beginning of it is incomplete, and whatever bytes follow are left. Malformed bytes stay malformed,
with the same fault, and the only other outcome is that bytes are still to come. -/
theorem decode_settled (bytes : List UInt8) :
    match decode bytes with
    | .done reply rest =>
      ∃ taken, 1 ≤ taken ∧ taken ≤ bytes.length ∧ rest = bytes.drop taken ∧
        (∀ shorter < taken, decode (bytes.take shorter) = .incomplete) ∧
        ∀ more, decode (bytes.take taken ++ more) = .done reply more
    | .malformed fault => ∀ more, decode (bytes ++ more) = .malformed fault
    | .incomplete => ∀ shorter, decode (bytes.take shorter) = .incomplete := by
  cases read : decode bytes with
  | done reply rest =>
    obtain ⟨frame, some, rfl, settled⟩ := settled_of_decode read
    refine ⟨frame.length, List.length_pos_iff.2 some, ?_, List.drop_left.symm, ?_, ?_⟩
    · rw [List.length_append]
      omega
    · intro shorter less
      have whole := settled []
      rw [List.append_nil, ← List.take_append_drop shorter frame] at whole
      rw [List.take_append_of_le_length (Nat.le_of_lt less)]
      apply decode_beginning whole
      simpa using less
    · rw [List.take_left]
      exact settled
  | malformed fault =>
    intro more
    exact (decode_extends bytes more).eq_malformed read
  | incomplete =>
    intro shorter
    rw [← List.take_append_drop shorter bytes] at read
    exact decode_front_of_incomplete read

end Rowscan.Wire
