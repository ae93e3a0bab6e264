import Tablecast.Keyed
import Tablecast.Storage.Path

/-!
# File trees

Files and directories by the names that lead to them from the root, and a working directory where
relative paths start. An operation fails only for a reason that the tree or the path shows: a file
or directory in the way, a directory that is not there, a name or path that is too long. There are
no links, neither symbolic nor hard ones: no location leads to another, and no file has two.
-/

namespace Tablecast.Storage

/-- The names that lead from the root to a file or directory. -/
abbrev Location := List String

inductive Node where
  | directory
  | file (content : ByteArray)

structure FileTree where
  /-- Every file and directory but the root, in depth first order. -/
  entries : List (Location × Node)
  workingDirectory : Location

/-- Bytes of the longest name. -/
def longestName : Nat := 255

/-- Bytes of the longest path. -/
def longestPath : Nat := 4095

def fits (name : String) : Bool := decide (name.utf8ByteSize ≤ longestName)

def isUsable (path : String) : Bool :=
  decide (path.utf8ByteSize ≤ longestPath) && !path.toList.contains '\x00'

/-- The names between the slashes of a path. -/
def pathNames (path : String) : List String :=
  ((Text.pieces (· == '/') path.toList).filter (· ≠ [])).map .ofList

namespace FileTree

def find? (t : FileTree) (l : Location) : Option Node :=
  if l = [] then some .directory else t.entries.lookup l

def isDirectory (t : FileTree) (l : Location) : Bool :=
  match t.find? l with
  | some .directory => true
  | _ => false

def put (t : FileTree) (l : Location) (n : Node) : FileTree :=
  { t with entries := Keyed.insert l n t.entries }

def erase (t : FileTree) (l : Location) : FileTree :=
  { t with entries := Keyed.erase l t.entries }

/-- One step from a directory to one inside it, to itself or to the one around it. -/
def enter? (t : FileTree) (l : Location) (name : String) : Option Location :=
  if name = "." then some l
  else if name = ".." then some l.dropLast
  else if t.isDirectory (l ++ [name]) then some (l ++ [name])
  else none

/-- The directory at which a path starts. -/
def start (t : FileTree) (path : String) : Location :=
  if path.startsWith "/" then [] else t.workingDirectory

/-- A place in a directory that is there. -/
structure Place where
  location : Location
  /-- The path can only mean a directory, because it ends in a slash or in points. -/
  directoryOnly : Bool
  deriving DecidableEq

/-- Where a path leads. Its last name need not be taken. -/
def place? (t : FileTree) (path : String) : Option Place :=
  if !isUsable path then none
  else
    match (pathNames path).reverse with
    | [] => if path = "" then none else some ⟨[], true⟩
    | last :: before =>
      match before.reverse.foldlM t.enter? (t.start path) with
      | none => none
      | some directory =>
        if last = "." then some ⟨directory, true⟩
        else if last = ".." then some ⟨directory.dropLast, true⟩
        else if fits last then some ⟨directory ++ [last], path.endsWith "/"⟩
        else none

/-- Where a path leads as the path of a file. -/
def filePlace? (t : FileTree) (path : String) : Option Location :=
  match t.place? path with
  | some ⟨l, false⟩ => some l
  | _ => none

def content? (t : FileTree) (path : String) : Option ByteArray :=
  match t.filePlace? path with
  | none => none
  | some l =>
    match t.find? l with
    | some (.file content) => some content
    | _ => none

/-- The text of a file, if its bytes are one. -/
def text? (t : FileTree) (path : String) : Option String :=
  (t.content? path).bind String.fromUTF8?

def isFile (t : FileTree) (path : String) : Bool := (t.content? path).isSome

/-- Writes a file, new or in place of another. -/
def write? (t : FileTree) (path : String) (content : ByteArray) : Option FileTree :=
  match t.filePlace? path with
  | none => none
  | some l => if t.isDirectory l then none else some (t.put l (.file content))

/-- Moves a file, also onto another file. -/
def rename? (t : FileTree) (source target : String) : Option FileTree :=
  match t.filePlace? source, t.filePlace? target with
  | some l, some k =>
    match t.find? l with
    | some (.file content) =>
      if t.isDirectory k then none
      else if l = k then some t
      else some ((t.erase l).put k (.file content))
    | _ => none
  | _, _ => none

def remove? (t : FileTree) (path : String) : Option FileTree :=
  match t.filePlace? path with
  | none => none
  | some l =>
    match t.find? l with
    | some (.file _) => some (t.erase l)
    | _ => none

/-- Enters the directories of a path one after the other and makes those that are not there. Those
made before a failure stay. -/
def makeAlong (t : FileTree) (l : Location) : List String → FileTree × Bool
  | [] => (t, true)
  | name :: rest =>
    match t.enter? l name with
    | some next => t.makeAlong next rest
    | none =>
      if fits name && (t.find? (l ++ [name])).isNone then
        (t.put (l ++ [name]) .directory).makeAlong (l ++ [name]) rest
      else (t, false)

/-- Makes a directory and all those that lead to it. -/
def makeDirectories (t : FileTree) (path : String) : FileTree × Bool :=
  if isUsable path then t.makeAlong (t.start path) (pathNames path) else (t, false)

/-- What lies below the working directory, depth first in the order of names. -/
def listing (t : FileTree) : List (Location × Node) :=
  t.entries.filterMap fun e =>
    if t.workingDirectory.isPrefixOf e.1 ∧ t.workingDirectory ≠ e.1 then
      some (e.1.drop t.workingDirectory.length, e.2)
    else none

end FileTree

end Tablecast.Storage
