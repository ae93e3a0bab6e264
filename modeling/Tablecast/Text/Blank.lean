import Tablecast.Text.CodeRange

/-!
# Blanks

White space is the Unicode property `White_Space`: 25 characters, of which six are ASCII. Texts
are lists of characters here; `String` versions stand where a module needs one.
-/

namespace Tablecast.Text

def blankRanges : CodeRanges := [
  (0x9, 0xD), (0x20, 0x20), (0x85, 0x85), (0xA0, 0xA0), (0x1680, 0x1680), (0x2000, 0x200A),
  (0x2028, 0x2029), (0x202F, 0x202F), (0x205F, 0x205F), (0x3000, 0x3000)]

def isBlank (c : Char) : Bool := blankRanges.contains c.toNat

def trimStart (s : List Char) : List Char := s.dropWhile isBlank

def trimEnd (s : List Char) : List Char := (s.reverse.dropWhile isBlank).reverse

def trim (s : List Char) : List Char := trimEnd (trimStart s)

/-- The pieces between the characters that satisfy `p`: one more than there are such
characters. -/
def pieces (p : Char → Bool) : List Char → List (List Char)
  | [] => [[]]
  | c :: rest => if p c then [] :: pieces p rest else (pieces p rest).modifyHead (c :: ·)

/-- The runs of characters between blanks. -/
def words (s : List Char) : List (List Char) := (pieces isBlank s).filter (!·.isEmpty)

/-- Nothing but blanks. -/
def isVacant (s : String) : Bool := s.toList.all isBlank

end Tablecast.Text
