import Tablecast.Json.Number
import Tablecast.Json.Skip

/-!
# Structures in a JSON text

Readers for strings, truth values, lists and structures. A structure is written as an object, whose
members stand in any order among unknown ones, or as a list of its members in their own order. The
first fault from the left is the one reported.
-/

namespace Tablecast.Json

/-- Names the value at the front, which is not of the kind expected. -/
def identify : List Char → Except Fault Found
  | [] => .error .endInValue
  | 'n' :: s => do let _ ← readWord ['u', 'l', 'l'] s; pure .null
  | 't' :: s => do let _ ← readWord ['r', 'u', 'e'] s; pure (.boolean true)
  | 'f' :: s => do let _ ← readWord ['a', 'l', 's', 'e'] s; pure (.boolean false)
  | '"' :: s => do pure (.string (.ofList (← readText .plain [] s).1))
  | '[' :: _ => .ok .sequence
  | '{' :: _ => .ok .map
  | '-' :: s => do pure (← readNumber true s).1
  | c :: s =>
    if c.isDigit then do pure (← readNumber false (c :: s)).1 else .error .expectedValue

/-- The fault of a value that is not of the kind expected, or that is not well formed. -/
def mismatch (expected : String) (s : List Char) : Fault :=
  match identify s with
  | .ok found => .invalidType found expected
  | .error fault => fault

def readString (s : List Char) : Except Fault (String × List Char) :=
  match skipBlanks s with
  | '"' :: rest => do
    let (text, rest) ← readText .plain [] rest
    pure (.ofList text, rest)
  | s => .error (mismatch "a string" s)

/-- A string or `null`. -/
def readOptional (s : List Char) : Except Fault (Option String × List Char) :=
  match skipBlanks s with
  | 'n' :: rest => do pure (none, ← readWord ['u', 'l', 'l'] rest)
  | s => do
    let (text, rest) ← readString s
    pure (some text, rest)

def readBoolean (s : List Char) : Except Fault (Bool × List Char) :=
  match skipBlanks s with
  | 't' :: rest => do pure (true, ← readWord ['r', 'u', 'e'] rest)
  | 'f' :: rest => do pure (false, ← readWord ['a', 'l', 's', 'e'] rest)
  | s => .error (mismatch "a boolean" s)

/-- Steps to the next element of a list, and says whether there is one. -/
def nextElement (first : Bool) (s : List Char) : Except Fault (Bool × List Char) :=
  match skipBlanks s with
  | [] => .error .endInList
  | ']' :: rest => .ok (false, rest)
  | c :: rest =>
    if first then .ok (true, c :: rest)
    else if c ≠ ',' then .error .expectedListComma
    else
      match skipBlanks rest with
      | [] => .error .endInValue
      | ']' :: _ => .error .trailingComma
      | element => .ok (true, element)

/-- Reads elements up to the end of a list. Every element takes at least one of the `n` characters
that are left, so with none left the text has ended. -/
def readElements {α : Type} (item : List Char → Except Fault (α × List Char)) :
    Nat → Bool → List α → List Char → Except Fault (List α × List Char)
  | 0, _, _, _ => .error .endInList
  | n + 1, first, acc, s => do
    match ← nextElement first s with
    | (false, rest) => .ok (acc.reverse, rest)
    | (true, s) =>
      let (x, s) ← item s
      readElements item n false (x :: acc) s

def readList {α : Type} (item : List Char → Except Fault (α × List Char)) (s : List Char) :
    Except Fault (List α × List Char) :=
  match skipBlanks s with
  | '[' :: rest => readElements item rest.length true [] rest
  | s => .error (mismatch "a sequence" s)

/-- What a member that is left out means. -/
inductive Absence where
  | refused
  /-- Null in an object; a list may not end before it. -/
  | null
  | initial
  deriving DecidableEq

/-- A member of a structure of type `α`. Reading it changes the structure. -/
structure Member (α : Type) where
  name : String
  absence : Absence
  read : α → List Char → Except Fault (α × List Char)

/-- A member that is read by itself and then put into the structure. -/
def Member.of {α β : Type} (name : String) (absence : Absence)
    (reader : List Char → Except Fault (β × List Char)) (put : α → β → α) : Member α where
  name
  absence
  read x s := do
    let (v, rest) ← reader s
    pure (put x v, rest)

/-- A kind of structure: how it is called, its value before any member is read, and its members in
order. -/
structure Shape (α : Type) where
  title : String
  initial : α
  members : List (Member α)

namespace Shape

variable {α : Type}

/-- Steps behind the opening quote of the next key, and says whether there is one. -/
def nextKey (first : Bool) (s : List Char) : Except Fault (Bool × List Char) :=
  match skipBlanks s with
  | [] => .error .endInObject
  | '}' :: rest => .ok (false, rest)
  | c :: rest =>
    if first then
      if c = '"' then .ok (true, rest) else .error .keyNotString
    else if c ≠ ',' then .error .expectedObjectComma
    else
      match skipBlanks rest with
      | [] => .error .endInValue
      | '"' :: key => .ok (true, key)
      | '}' :: _ => .error .trailingComma
      | _ => .error .keyNotString

def readColon (s : List Char) : Except Fault (List Char) :=
  match skipBlanks s with
  | [] => .error .endInObject
  | ':' :: rest => .ok rest
  | _ => .error .expectedColon

def member? (shape : Shape α) (key : List Char) : Option (Member α) :=
  shape.members.find? fun m => m.name.toList = key

/-- The first member that must be there and is not. -/
def missing? (shape : Shape α) (seen : List String) : Option (Member α) :=
  shape.members.find? fun m => m.absence = .refused && !seen.contains m.name

/-- Reads the members of an object up to its end; `seen` holds the names of the known ones read so
far. -/
def readMembers (shape : Shape α) :
    Nat → Bool → List String → α → List Char → Except Fault (α × List Char)
  | 0, _, _, _, _ => .error .endInObject
  | n + 1, first, seen, x, s => do
    match ← nextKey first s with
    | (false, rest) =>
      match shape.missing? seen with
      | some m => .error (.missingField m.name)
      | none => .ok (x, rest)
    | (true, s) =>
      let (key, s) ← readText .plain [] s
      match shape.member? key with
      | none => shape.readMembers n false seen x (← skipValue (← readColon s))
      | some m =>
        if seen.contains m.name then .error (.duplicateField m.name)
        else
          let (x, s) ← m.read x (← readColon s)
          shape.readMembers n false (m.name :: seen) x s

/-- The end of a list that holds every member. -/
def closeList (s : List Char) : Except Fault (List Char) :=
  match skipBlanks s with
  | [] => .error .endInList
  | ']' :: rest => .ok rest
  | ',' :: rest =>
    match skipBlanks rest with
    | ']' :: _ => .error .trailingComma
    | _ => .error .trailingCharacters
  | _ => .error .trailingCharacters

/-- Reads the members from `index` on by their position. -/
def readPositions (shape : Shape α) :
    List (Member α) → Nat → α → List Char → Except Fault (α × List Char)
  | [], _, x, s => do pure (x, ← closeList s)
  | m :: rest, index, x, s => do
    match ← nextElement (index == 0) s with
    | (true, s) =>
      let (x, s) ← m.read x s
      shape.readPositions rest (index + 1) x s
    | (false, s) =>
      match (m :: rest).findIdx? fun m => m.absence ≠ .initial with
      | some i => .error (.invalidLength (index + i) shape.title shape.members.length)
      | none => .ok (x, s)

def read (shape : Shape α) (s : List Char) : Except Fault (α × List Char) :=
  match skipBlanks s with
  | '{' :: rest => shape.readMembers rest.length true [] shape.initial rest
  | '[' :: rest => shape.readPositions shape.members 0 shape.initial rest
  | s => .error (mismatch shape.title s)

/-- Reads a text that holds one structure and nothing else but blanks. -/
def readAll (shape : Shape α) (s : List Char) : Except Fault α := do
  let (x, rest) ← shape.read s
  if (skipBlanks rest).isEmpty then pure x else .error .trailingCharacters

end Shape

end Tablecast.Json
