import Tablecast.Text.Blank

/-!
# Paths

A path names a place by the components between its slashes. Empty components and single points
mean nothing, except that a single point at the start of a relative path is kept; two points stay.
-/

namespace Tablecast.Path

/-- The start of a path that is never dropped, and the rest: the root, or a point that stands for
the working directory. -/
def splitHead : List Char → List Char × List Char
  | '/' :: body => (['/'], body)
  | ['.'] => (['.'], [])
  | '.' :: '/' :: body => (['.'], '/' :: body)
  | body => ([], body)

/-- The components of a path. Two paths are the same if theirs are. -/
def components (path : String) : List String :=
  let (head, body) := splitHead path.toList
  let names := (Text.pieces (· == '/') body).filter fun n => !(n == [] || n == ['.'])
  (if head.isEmpty then [] else [.ofList head]) ++ names.map .ofList

/-- Drops slashes and single points from the end of a body, whose last character comes first. -/
def dropTrail : List Char → List Char
  | '/' :: rest => dropTrail rest
  | ['.'] => []
  | '.' :: '/' :: rest => dropTrail rest
  | body => body

/-- The last component of a body and what stands before it, both with the last character first. -/
def splitName (body : List Char) : List Char × List Char :=
  let trimmed := dropTrail body.reverse
  (trimmed.takeWhile (· ≠ '/'), dropTrail (trimmed.dropWhile (· ≠ '/')))

/-- The last component, if it is the name of a file. -/
def fileName? (path : String) : Option String :=
  match (splitName (splitHead path.toList).2).1.reverse with
  | [] => none
  | ['.', '.'] => none
  | name => some (.ofList name)

/-- The path without its last component; none for the root and the empty path. -/
def parent? (path : String) : Option String :=
  let (head, body) := splitHead path.toList
  match splitName body with
  | ([], _) => if head = ['.'] then some "" else none
  | (_, before) => some (.ofList (head ++ before.reverse))

/-- The file beside the one that the path names, with the same name and an extension added. -/
def sibling? (path extension : String) : Option String :=
  match fileName? path, parent? path with
  | some name, some parent =>
    let stem := if parent = "" || parent.endsWith "/" then parent else parent ++ "/"
    some (stem ++ name ++ "." ++ extension)
  | _, _ => none

end Tablecast.Path
