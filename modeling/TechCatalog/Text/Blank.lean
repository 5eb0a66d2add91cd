/-!
# Blank characters and trimming

Two classes of blank characters are in use. `isSpace` is the White_Space property of Unicode, which
numerals are trimmed by. `isBlank` adds the four information separators U+001C to U+001F, and is
the class that decides whether a text is blank and what `strip` removes. Zero-width characters
(U+200B, U+180E, U+FEFF) belong to neither.
-/

namespace TechCatalog.Text

/-- White space in the sense of the Unicode property of that name. -/
def isSpace (c : Char) : Bool :=
  let n := c.toNat
  (9 ≤ n && n ≤ 13) || n == 0x20 || n == 0x85 || n == 0xA0 || n == 0x1680 ||
    (0x2000 ≤ n && n ≤ 0x200A) || n == 0x2028 || n == 0x2029 || n == 0x202F || n == 0x205F ||
    n == 0x3000

/-- White space or an information separator. -/
def isBlank (c : Char) : Bool :=
  isSpace c || (0x1C ≤ c.toNat && c.toNat ≤ 0x1F)

/-- Removes the characters of a class from both ends. -/
def trim (p : Char → Bool) (s : List Char) : List Char :=
  ((s.dropWhile p).reverse.dropWhile p).reverse

/-- Removes blank characters from both ends of a text. -/
def strip (s : String) : String :=
  String.ofList (trim isBlank s.toList)

/-- A text is blank when it holds blank characters only; the empty text is blank. -/
def allBlank (s : String) : Bool :=
  s.toList.all isBlank

/-- Removes white space from both ends of a text. -/
def stripSpace (s : String) : String :=
  String.ofList (trim isSpace s.toList)

end TechCatalog.Text
