import BatchFormat.Text.Point

/-!
# Blank characters

White space of every script. Text made only of blanks holds nothing to format, and blanks around
an extension or a diagnostic are dropped.
-/
namespace BatchFormat.Text

/-- White space, including the information separators and the line and paragraph separators. -/
def blankRanges : Ranges :=
  [(0x9, 0xd), (0x1c, 0x20), (0x85, 0x85), (0xa0, 0xa0), (0x1680, 0x1680), (0x2000, 0x200a),
    (0x2028, 0x2029), (0x202f, 0x202f), (0x205f, 0x205f), (0x3000, 0x3000)]

def isBlankChar (c : Char) : Bool := blankRanges.contains c.toNat

/-- Whether a text has no character outside white space; the empty text has none. -/
def isBlank (s : String) : Bool := s.toList.all isBlankChar

/-- Drops the characters at the end that satisfy `p`. -/
def dropRightWhile (p : Char → Bool) (cs : List Char) : List Char :=
  (cs.reverse.dropWhile p).reverse

/-- The text without the blanks at its two ends. -/
def trim (s : String) : String :=
  String.ofList (dropRightWhile isBlankChar (s.toList.dropWhile isBlankChar))

end BatchFormat.Text
