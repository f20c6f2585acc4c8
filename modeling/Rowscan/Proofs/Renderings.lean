import Rowscan.Proofs.ReplyFrames

/-!
Replies as peers write them. `Rendering` lists the ways to write a reply, in both generations of the
wire format: null, errors and sequences have several, and attributes may come before any reply, at
any depth. Each is a frame (`Rendering.frame`), so it is read back as the reply that it was written
for, whatever follows (`decode_rendering`).
-/
namespace Rowscan.Wire

/-- A payload after its length, with a line end after it. -/
def payloadOf (data : List UInt8) : List UInt8 := lineOf (toString data.length) ++ data ++ crlf

mutual

/-- The ways to write a reply. Sizes are written in decimal digits and are 64-bit numbers. -/
inductive Rendering : Reply → List UInt8 → Prop
  | null : Rendering .null ('_'.toUInt8 :: lineOf "")
  | nullBulk : Rendering .null ('$'.toUInt8 :: lineOf "-1")
  | nullArray : Rendering .null ('*'.toUInt8 :: lineOf "-1")
  | status {text : String} (whole : NoLineEnd (Text.utf8 text)) :
      Rendering (.status text) ('+'.toUInt8 :: lineOf text)
  | error {text : String} (whole : NoLineEnd (Text.utf8 text)) :
      Rendering (.error text) ('-'.toUInt8 :: lineOf text)
  | blobError {text : String} (short : (Text.utf8 text).length < 2 ^ 63) :
      Rendering (.error text) ('!'.toUInt8 :: payloadOf (Text.utf8 text))
  | bulk {data : List UInt8} (short : data.length < 2 ^ 63) :
      Rendering (.bulk data) ('$'.toUInt8 :: payloadOf data)
  /-- Verbatim text, with three bytes and a colon for its format. -/
  | verbatim {format data : List UInt8} (four : format.length = 4)
      (short : (format ++ data).length < 2 ^ 63) :
      Rendering (.bulk data) ('='.toUInt8 :: payloadOf (format ++ data))
  | bigNumber {text : String} (whole : NoLineEnd (Text.utf8 text)) :
      Rendering (.ofText text) ('('.toUInt8 :: lineOf text)
  | integer (value : Int64) :
      Rendering (.integer value.toInt) (':'.toUInt8 :: lineOf (toString value.toInt))
  | boolean (value : Bool) :
      Rendering (.boolean value) ('#'.toUInt8 :: lineOf (if value then "t" else "f"))
  /-- A double, as any text that is read as this double. -/
  | double {text : String} {value : Double} (read : Double.ofText? text = some value) :
      Rendering (.double value) (','.toUInt8 :: lineOf text)
  | array {mark : Char} {items : List Reply} {bytes : List UInt8} (marked : mark ∈ sequenceMarks)
      (short : items.length < 2 ^ 63) (rendered : Renderings items bytes) :
      Rendering (.array items) (mark.toUInt8 :: (lineOf (toString items.length) ++ bytes))
  | map {pairs : List (Reply × Reply)} {bytes : List UInt8} (short : pairs.length < 2 ^ 63)
      (rendered : Renderings (inTurn pairs) bytes) :
      Rendering (.map pairs) ('%'.toUInt8 :: (lineOf (toString pairs.length) ++ bytes))
  | attributed {attributes : List (Reply × Reply)} {reply : Reply} {before bytes : List UInt8}
      (short : attributes.length < 2 ^ 63) (skipped : Renderings (inTurn attributes) before)
      (rendered : Rendering reply bytes) :
      Rendering reply ('|'.toUInt8 :: (lineOf (toString attributes.length) ++ (before ++ bytes)))

/-- The ways to write several replies, one after another. -/
inductive Renderings : List Reply → List UInt8 → Prop
  | nil : Renderings [] []
  | cons {reply : Reply} {replies : List Reply} {bytes rest : List UInt8}
      (first : Rendering reply bytes) (more : Renderings replies rest) :
      Renderings (reply :: replies) (bytes ++ rest)

end

theorem twoBytes_of_eq_crlf : ∀ ending, ending = crlf → TwoBytes ending := by
  rintro ending rfl
  rfl

private theorem payloadFrame_payloadOf {data : List UInt8} (short : data.length < 2 ^ 63) :
    PayloadFrame (· = crlf) (some data) (payloadOf data) :=
  .present (counts_natCast short) rfl

mutual

/-- A rendering is a frame, and its payloads end in CR LF. -/
theorem Rendering.frame {reply : Reply} {bytes : List UInt8} (rendered : Rendering reply bytes) :
    Frame (· = crlf) reply bytes := by
  match rendered with
  | .null => exact .line (.null "") (noLineEnd_of_notMem List.not_mem_nil)
  | .nullBulk => exact .payload .null (.absent (n := -1) (by decide) (by decide))
  | .nullArray => exact .noArray (n := -1) (by decide) (by decide) (by decide)
  | .status whole => exact .line (.status _) whole
  | .error whole => exact .line (.error _) whole
  | @Rendering.blobError text short =>
    have said : PayloadSays '!' (some (Text.utf8 text)) (.error text) := by
      simpa [Text.repairUtf8_utf8] using PayloadSays.error (some (Text.utf8 text))
    exact .payload said (payloadFrame_payloadOf short)
  | .bulk short => exact .payload (.bulk _) (payloadFrame_payloadOf short)
  | @Rendering.verbatim format data four short =>
    have said : PayloadSays '=' (some (format ++ data)) (.bulk data) := by
      simpa [← four] using PayloadSays.verbatim (some (format ++ data))
    exact .payload said (payloadFrame_payloadOf short)
  | .bigNumber whole => exact .line (.bigNumber _) whole
  | .integer value =>
    have counts := counts_int64 value
    exact .line (.integer counts) (noLineEnd_of_counts counts)
  | .boolean true => exact .line .yes (noLineEnd_of_notMem (by decide))
  | .boolean false => exact .line .no (noLineEnd_of_notMem (by decide))
  | .double read => exact .line (.double read) (noLineEnd_of_double read)
  | .array marked short rendered => exact .array marked (counts_natCast short) rendered.frames
  | .map short rendered => exact .map (counts_natCast short) (Int.toNat_natCast _) rendered.frames
  | .attributed short skipped rendered =>
    exact .attributed (counts_natCast short) (Int.toNat_natCast _) skipped.frames rendered.frame

theorem Renderings.frames {replies : List Reply} {bytes : List UInt8}
    (rendered : Renderings replies bytes) : Frames (· = crlf) replies bytes := by
  match rendered with
  | .nil => exact .nil
  | .cons first more => exact .cons first.frame more.frames

end

/-- Every rendering of a reply is decoded as that reply, and the bytes after it are left. -/
theorem decode_rendering {reply : Reply} {bytes : List UInt8} (rendered : Rendering reply bytes)
    (rest : List UInt8) : decode (bytes ++ rest) = .done reply rest :=
  decode_of_frame twoBytes_of_eq_crlf rendered.frame rest

/-- A push after an attribute. It holds a status that ends in a carriage return, a payload that
looks like the start of a reply, and a map. -/
def annotated : List UInt8 :=
  Text.utf8 "|1\r\n+ttl\r\n:60\r\n>3\r\n+OK\r\r\n$4\r\n\r\n$5\r\n%1\r\n,-inf\r\n_\r\n"

theorem decode_rendering_annotated :
    decode (annotated ++ [43]) =
      .done
        (.array [.status "OK\r", .bulk [13, 10, 36, 53],
          .map [(.double (.infinite true), .null)]])
        [43] := by
  have name : Rendering (.status "ttl") _ := .status (by decide)
  have seconds : Rendering (.integer 60) _ := .integer 60
  have skipped : Renderings (inTurn [(.status "ttl", .integer 60)]) _ :=
    .cons name (.cons seconds .nil)
  have status : Rendering (.status "OK\r") _ := .status (by decide)
  have payload : Rendering (.bulk [13, 10, 36, 53]) _ := .bulk (by decide)
  have least : Rendering (.double (.infinite true)) (','.toUInt8 :: lineOf "-inf") := .double rfl
  have sides : Renderings (inTurn [(.double (.infinite true), .null)]) _ :=
    .cons least (.cons .null .nil)
  have items := Renderings.cons status (.cons payload (.cons (.map (by decide) sides) .nil))
  have push : Rendering _ ('>'.toUInt8 :: _) := .array (by decide) (by decide) items
  have rendered : Rendering _ annotated := .attributed (by decide) skipped push
  exact decode_rendering rendered [43]

end Rowscan.Wire
