import Tablecast.Toml.Item
import Tablecast.Toml.Scalar

/-!
# Reading TOML

A document has one statement a line. Arrays may run over several lines, with comments between
their items, and may end in a comma; tables written as values stand on one line.
-/

namespace Tablecast.Toml

/-- Skips blanks, line ends and comments, and stops at whatever else comes. -/
def skipLines (inComment : Bool) : List Char → List Char
  | '\r' :: '\n' :: s => skipLines false s
  | c :: s =>
    if c = '\n' then skipLines false s
    else if inComment then (if isPlain c then skipLines true s else c :: s)
    else if c = '#' then skipLines true s
    else if isBlank c then skipLines false s
    else c :: s
  | [] => []

/-- The end of a statement: blanks, a comment, and a line end or the end of the text. -/
def endLine (s : List Char) : Option (List Char) :=
  let rest := match skipBlanks s with
    | '#' :: comment => comment.dropWhile isPlain
    | s => s
  if rest.isEmpty then some [] else newline? rest

/-- Keys deeper than this are refused. -/
def deepestKey : Nat := 79

/-- Values nested deeper than this are refused. -/
def deepestValue : Nat := 79

/-- Reads keys with points between them, blanks around each. Every key takes a character. -/
def readKeys : Nat → List Char → Option (List String × List Char)
  | 0, _ => none
  | n + 1, s => do
    let (key, s) ← readKey (skipBlanks s)
    match skipBlanks s with
    | '.' :: s =>
      let (keys, rest) ← readKeys n s
      some (.ofList key :: keys, rest)
    | rest => some ([.ofList key], rest)

def readKeyPath (s : List Char) : Option (KeyPath × List Char) := do
  let (keys, rest) ← readKeys deepestKey s
  let last ← keys.getLast?
  some (⟨keys.dropLast, last⟩, rest)

mutual

/-- Reads a value. Each step inside takes a character or leads to one that does, which the first
number bounds; the second bounds how deep values may nest. -/
def readValue : Nat → Nat → List Char → Option (Item × List Char)
  | 0, _, _ => none
  | n + 1, depth, s =>
    match s with
    | '"' :: _ | '\'' :: _ => (readString s).map fun (text, rest) => (.text (.ofList text), rest)
    | '[' :: inner =>
      match depth with
      | 0 => none
      | d + 1 => readItems n d [] inner
    | '{' :: inner =>
      match depth with
      | 0 => none
      | d + 1 =>
        match skipBlanks inner with
        | '}' :: rest => some (.inlineTable [], rest)
        | s => readPairs n d [] s
    | s => (skipScalar s).map fun rest => (.scalar, rest)

/-- Reads the items of an array from behind the bracket or a comma. -/
def readItems : Nat → Nat → List Item → List Char → Option (Item × List Char)
  | 0, _, _, _ => none
  | n + 1, depth, acc, s =>
    match skipLines false s with
    | ']' :: rest => some (.array acc.reverse, rest)
    | s => do
      let (item, s) ← readValue n depth s
      match skipLines false s with
      | ',' :: s => readItems n depth (item :: acc) s
      | ']' :: rest => some (.array (item :: acc).reverse, rest)
      | _ => none

/-- Reads the members of a table written as a value. -/
def readPairs : Nat → Nat → Members → List Char → Option (Item × List Char)
  | 0, _, _, _ => none
  | n + 1, depth, members, s => do
    let (path, s) ← readKeyPath s
    let s ← expect '=' s
    let (item, s) ← readValue n depth (skipBlanks s)
    let members ← assign path.before path.last item members
    match skipBlanks s with
    | ',' :: s => readPairs n depth members s
    | '}' :: rest => some (.inlineTable members, rest)
    | _ => none

end

/-- Reads one statement that does not start with a blank. -/
def readStatement (s : List Char) : Option (Statement × List Char) :=
  match s with
  | '[' :: '[' :: inner => do
    let (path, s) ← readKeyPath inner
    let s ← expect ']' (← expect ']' s)
    some (.element path, ← endLine s)
  | '[' :: inner => do
    let (path, s) ← readKeyPath inner
    let s ← expect ']' s
    some (.header path, ← endLine s)
  | s => do
    let (path, s) ← readKeyPath s
    let s ← expect '=' s
    let (item, s) ← readValue (2 * s.length + 1) deepestValue (skipBlanks s)
    some (.assignment path item, ← endLine s)

/-- Reads statements up to the end of the text. Every line takes a character of those left. -/
def readStatements : Nat → List Statement → List Char → Option (List Statement)
  | 0, acc, s => if s.isEmpty then some acc.reverse else none
  | n + 1, acc, s =>
    match skipBlanks s with
    | [] => some acc.reverse
    | c :: rest =>
      if c = '#' || c = '\n' || c = '\r' then do readStatements n acc (← endLine (c :: rest))
      else do
        let (statement, s) ← readStatement (c :: rest)
        readStatements n (statement :: acc) s

/-- A mark of the byte order at the start means nothing. -/
def dropMark : List Char → List Char
  | '\uFEFF' :: s => s
  | s => s

/-- The top level of a document, if the text is one. -/
def read? (text : String) : Option Members := do
  let s := dropMark text.toList
  membersOf? (← readStatements s.length [] s)

end Tablecast.Toml
