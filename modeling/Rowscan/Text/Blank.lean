import Rowscan.Text.CodePoint

/-!
Blank characters and trimming. Blank means the White_Space property of the character
database, so a no-break space and a line separator are blank too.
-/
namespace Rowscan.Text

/-- The code points with the White_Space property. -/
def whiteSpace : CodePoints :=
  [(0x9, 0xD), (0x20, 0x20), (0x85, 0x85), (0xA0, 0xA0), (0x1680, 0x1680), (0x2000, 0x200A),
   (0x2028, 0x2029), (0x202F, 0x202F), (0x205F, 0x205F), (0x3000, 0x3000)]

/-- Whether a character is blank. -/
def isBlank (c : Char) : Bool := whiteSpace.has c

/-- The characters without the blanks at either end. -/
def trimBlank (chars : List Char) : List Char :=
  ((chars.dropWhile isBlank).reverse.dropWhile isBlank).reverse

end Rowscan.Text
