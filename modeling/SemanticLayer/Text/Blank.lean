import SemanticLayer.Text.CodePoint

/-!
# Blanks and trimming

A *blank* is a white-space character of any script, the separators 28 to 31 included. Trimming
takes blanks off both ends of a text and leaves the inside alone.
-/

namespace SemanticLayer.Text

/-- Code points of the blanks. -/
def blankRanges : List (Nat × Nat) := [
  (9, 13), (28, 32), (133, 133), (160, 160), (5760, 5760),
  (8192, 8202), (8232, 8233), (8239, 8239), (8287, 8287), (12288, 12288)]

/-- White space of any script. -/
def isBlank (c : Char) : Bool := inRanges blankRanges c.toNat

/-- The text without the blanks at its end. -/
def trimRight (cs : List Char) : List Char := (cs.reverse.dropWhile isBlank).reverse

/-- The text without the blanks at its ends. -/
def trim (cs : List Char) : List Char := trimRight (cs.dropWhile isBlank)

/-- `trim` on strings. -/
def strip (s : String) : String := String.ofList (trim s.toList)

/-- `trimRight` on strings. -/
def stripRight (s : String) : String := String.ofList (trimRight s.toList)

/-- The string without the blanks at its beginning. -/
def stripLeft (s : String) : String := String.ofList (s.toList.dropWhile isBlank)

end SemanticLayer.Text
