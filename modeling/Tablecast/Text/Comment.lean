import Tablecast.Text.Blank

/-!
# Comments

A comment becomes one line of output for each of its own lines, each behind the same mark.
-/

namespace Tablecast.Text

/-- One line of a comment behind its mark; a blank line leaves the mark alone. -/
def commentLine (mark line : List Char) : List Char :=
  trimEnd (mark ++ ' ' :: trimEnd line)

/-- The lines of a comment behind `mark`: none for an absent or blank comment. Blanks around the
comment and at the ends of its lines go, so a carriage return before a line feed goes too. -/
def commentLines (comment : Option String) (mark : String) : List String :=
  match comment with
  | none => []
  | some text =>
    match trim text.toList with
    | [] => []
    | trimmed => (pieces (· == '\n') trimmed).map fun line => .ofList (commentLine mark.toList line)

end Tablecast.Text
