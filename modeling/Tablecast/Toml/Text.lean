import Tablecast.Text.Hex

/-!
# Strings and keys of TOML

Four kinds of strings: basic ones with escapes and literal ones without, each on one line or on
several. Control characters other than the tab never stand in a text as they are.
-/

namespace Tablecast.Toml

export Text (hexDigit?)

def isBlank (c : Char) : Bool := c = ' ' || c = '\t'

def skipBlanks (s : List Char) : List Char := s.dropWhile isBlank

/-- A character that may stand in a string or comment as it is. -/
def isPlain (c : Char) : Bool := c = '\t' || (0x20 ≤ c.toNat && c.toNat ≠ 0x7F)

/-- Takes a line feed, with or without a carriage return. -/
def newline? : List Char → Option (List Char)
  | '\n' :: rest => some rest
  | '\r' :: '\n' :: rest => some rest
  | _ => none

def simpleEscape? (c : Char) : Option Char :=
  if c = 'b' then some '\x08'
  else if c = 't' then some '\t'
  else if c = 'n' then some '\n'
  else if c = 'f' then some '\x0c'
  else if c = 'r' then some '\r'
  else if c = '"' ∨ c = '\\' then some c
  else none

/-- The digits of a character number: four behind `u` and eight behind `U`. -/
def numberLength? (c : Char) : Option Nat :=
  if c = 'u' then some 4 else if c = 'U' then some 8 else none

/-- The character with a number; surrogates and numbers beyond the last character have none. -/
def charOf? (n : Nat) : Option Char := if n.isValidChar then some (Char.ofNat n) else none

/-- Where a reader stands inside a basic string. -/
inductive BasicState where
  | plain
  | escape
  /-- In the digits of a character number: those to come, and their value so far. -/
  | number (left value : Nat)

/-- What a character behind a backslash begins: a character, or a number with so many digits. -/
def escapeStart? (c : Char) : Option (Char ⊕ Nat) :=
  match simpleEscape? c, numberLength? c with
  | some x, _ => some (.inl x)
  | none, some n => some (.inr n)
  | none, none => none

/-- One more digit of a character number: the next number, or the character if it was the last. -/
def numberStep? (left value : Nat) (c : Char) : Option (Char ⊕ Nat) := do
  let value := 16 * value + (← hexDigit? c)
  if left ≤ 1 then some (.inl (← charOf? value)) else some (.inr value)

/-- Reads the rest of a basic string on one line. `acc` holds the characters so far, the last one
first. -/
def readBasic : BasicState → List Char → List Char → Option (List Char × List Char)
  | _, _, [] => none
  | .plain, acc, c :: s =>
    if c = '"' then some (acc.reverse, s)
    else if c = '\\' then readBasic .escape acc s
    else if isPlain c then readBasic .plain (c :: acc) s
    else none
  | .escape, acc, c :: s =>
    match escapeStart? c with
    | some (.inl x) => readBasic .plain (x :: acc) s
    | some (.inr n) => readBasic (.number n 0) acc s
    | none => none
  | .number left value, acc, c :: s =>
    match numberStep? left value c with
    | some (.inl x) => readBasic .plain (x :: acc) s
    | some (.inr value) => readBasic (.number (left - 1) value) acc s
    | none => none

/-- Where a reader stands inside a basic string on several lines. -/
inductive LinesState where
  /-- White space and line ends are dropped until something else comes. -/
  | plain (dropping : Bool)
  | escape
  /-- Between a backslash and the end of its line, where only blanks may stand. -/
  | lineEnd
  | number (left value : Nat)

/-- Reads the rest of a basic string on several lines. Up to two quotes may stand right before the
three that end it. -/
def readBasicLines : LinesState → List Char → List Char → Option (List Char × List Char)
  | .plain _, acc, '"' :: '"' :: '"' :: '"' :: '"' :: s => some (('"' :: '"' :: acc).reverse, s)
  | .plain _, acc, '"' :: '"' :: '"' :: '"' :: s => some (('"' :: acc).reverse, s)
  | .plain _, acc, '"' :: '"' :: '"' :: s => some (acc.reverse, s)
  | .plain dropping, acc, '\r' :: '\n' :: s =>
    readBasicLines (.plain dropping) (if dropping then acc else '\n' :: acc) s
  | .plain dropping, acc, c :: s =>
    if c = '\n' then readBasicLines (.plain dropping) (if dropping then acc else c :: acc) s
    else if isBlank c && dropping then readBasicLines (.plain true) acc s
    else if c = '\\' then readBasicLines .escape acc s
    else if isPlain c then readBasicLines (.plain false) (c :: acc) s
    else none
  | .escape, acc, '\r' :: '\n' :: s => readBasicLines (.plain true) acc s
  | .escape, acc, c :: s =>
    if c = '\n' then readBasicLines (.plain true) acc s
    else if isBlank c then readBasicLines .lineEnd acc s
    else
      match escapeStart? c with
      | some (.inl x) => readBasicLines (.plain false) (x :: acc) s
      | some (.inr n) => readBasicLines (.number n 0) acc s
      | none => none
  | .lineEnd, acc, '\r' :: '\n' :: s => readBasicLines (.plain true) acc s
  | .lineEnd, acc, c :: s =>
    if c = '\n' then readBasicLines (.plain true) acc s
    else if isBlank c then readBasicLines .lineEnd acc s
    else none
  | .number left value, acc, c :: s =>
    match numberStep? left value c with
    | some (.inl x) => readBasicLines (.plain false) (x :: acc) s
    | some (.inr value) => readBasicLines (.number (left - 1) value) acc s
    | none => none
  | _, _, [] => none

/-- Reads the rest of a literal string on one line. -/
def readLiteral : List Char → List Char → Option (List Char × List Char)
  | _, [] => none
  | acc, c :: s =>
    if c = '\'' then some (acc.reverse, s)
    else if isPlain c then readLiteral (c :: acc) s
    else none

/-- Reads the rest of a literal string on several lines. -/
def readLiteralLines : List Char → List Char → Option (List Char × List Char)
  | acc, '\'' :: '\'' :: '\'' :: '\'' :: '\'' :: s => some (('\'' :: '\'' :: acc).reverse, s)
  | acc, '\'' :: '\'' :: '\'' :: '\'' :: s => some (('\'' :: acc).reverse, s)
  | acc, '\'' :: '\'' :: '\'' :: s => some (acc.reverse, s)
  | acc, '\r' :: '\n' :: s => readLiteralLines ('\n' :: acc) s
  | acc, c :: s => if c = '\n' || isPlain c then readLiteralLines (c :: acc) s else none
  | _, [] => none

/-- A line end right behind the opening quotes does not belong to the string. -/
def dropNewline (s : List Char) : List Char := (newline? s).getD s

/-- Reads a string of any kind. -/
def readString : List Char → Option (List Char × List Char)
  | '"' :: '"' :: '"' :: s => readBasicLines (.plain false) [] (dropNewline s)
  | '"' :: s => readBasic .plain [] s
  | '\'' :: '\'' :: '\'' :: s => readLiteralLines [] (dropNewline s)
  | '\'' :: s => readLiteral [] s
  | _ => none

def isBareKey (c : Char) : Bool := c.isAlphanum || c = '_' || c = '-'

/-- Reads one key: a string on one line, or letters, digits, underscores and hyphens. -/
def readKey : List Char → Option (List Char × List Char)
  | '"' :: s => readBasic .plain [] s
  | '\'' :: s => readLiteral [] s
  | s =>
    match s.takeWhile isBareKey with
    | [] => none
    | key => some (key, s.dropWhile isBareKey)

end Tablecast.Toml
