/-!
Text as bytes. `utf8` writes text, `ofUtf8?` reads bytes that are valid UTF-8, and `repairUtf8`
reads any bytes, putting a replacement character where a piece cannot be read. Main statement:
reading what was written gives the text back (`ofUtf8?_utf8`, `repairUtf8_utf8`).
-/
namespace Rowscan.Text

/-- The UTF-8 bytes of a text. -/
def utf8 (text : String) : List UInt8 := text.toByteArray.data.toList

/-- The text with these UTF-8 bytes, if they are valid. -/
def ofUtf8? (bytes : List UInt8) : Option String := String.fromUTF8? ⟨bytes.toArray⟩

theorem ofUtf8?_utf8 (text : String) : ofUtf8? (utf8 text) = some text := by
  simp [ofUtf8?, utf8, String.fromUTF8?, String.fromUTF8, text.isValidUTF8]

/-- The character that stands for a piece of bytes that cannot be read. -/
def replacement : Char := Char.ofNat 0xFFFD

/-- A character whose first bytes have been read: its bits so far, how many bytes it still
needs, and the bounds of the next one. -/
structure PartialChar where
  bits : Nat
  owed : Nat
  low : UInt8
  high : UInt8

/-- What a byte at the start of a character gives: characters to write, and a character begun. -/
def startChar (byte : UInt8) : List Char × Option PartialChar :=
  let code := byte.toNat
  if code < 0x80 then ([Char.ofNat code], none)
  else if 0xC2 ≤ code ∧ code ≤ 0xDF then ([], some ⟨code % 0x20, 1, 0x80, 0xBF⟩)
  else if code = 0xE0 then ([], some ⟨0, 2, 0xA0, 0xBF⟩)
  else if code = 0xED then ([], some ⟨0xD, 2, 0x80, 0x9F⟩)
  else if 0xE1 ≤ code ∧ code ≤ 0xEF then ([], some ⟨code % 0x10, 2, 0x80, 0xBF⟩)
  else if code = 0xF0 then ([], some ⟨0, 3, 0x90, 0xBF⟩)
  else if 0xF1 ≤ code ∧ code ≤ 0xF3 then ([], some ⟨code % 8, 3, 0x80, 0xBF⟩)
  else if code = 0xF4 then ([], some ⟨4, 3, 0x80, 0x8F⟩)
  else ([replacement], none)

/-- One byte more. A byte out of bounds ends the character begun, which becomes one
replacement, and is read again as a start. -/
def continueChar : Option PartialChar → UInt8 → List Char × Option PartialChar
  | none, byte => startChar byte
  | some begun, byte =>
    if begun.low ≤ byte ∧ byte ≤ begun.high then
      let bits := begun.bits * 0x40 + byte.toNat % 0x40
      if begun.owed ≤ 1 then ([Char.ofNat bits], none)
      else ([], some ⟨bits, begun.owed - 1, 0x80, 0xBF⟩)
    else
      let (written, next) := startChar byte
      (replacement :: written, next)

/-- The characters of bytes that need not be valid: the longest piece that could begin a
character, or else one byte, becomes one replacement. -/
def mendedChars : Option PartialChar → List UInt8 → List Char
  | none, [] => []
  | some _, [] => [replacement]
  | begun, byte :: rest =>
    let (written, next) := continueChar begun byte
    written ++ mendedChars next rest

/-- The text of any bytes: valid bytes read as they are, others with replacements. -/
def repairUtf8 (bytes : List UInt8) : String :=
  (ofUtf8? bytes).getD (String.ofList (mendedChars none bytes))

theorem repairUtf8_utf8 (text : String) : repairUtf8 (utf8 text) = text := by
  simp [repairUtf8, ofUtf8?_utf8]

end Rowscan.Text
