/-!
# JSON texts from values

A value without numbers, and its two written forms: compact, and pretty with one element or member
a line.
-/

namespace Tablecast.Json

inductive Tree where
  | null
  | boolean (b : Bool)
  | string (s : String)
  | list (items : List Tree)
  | object (members : List (String × Tree))

def hexPair (n : Nat) : List Char := [Nat.digitChar (n / 16), Nat.digitChar (n % 16)]

/-- Quotes, backslashes and control characters may not stand in a string as they are. -/
def escapeChar (c : Char) : List Char :=
  if c = '"' then ['\\', '"']
  else if c = '\\' then ['\\', '\\']
  else if c = '\x08' then ['\\', 'b']
  else if c = '\t' then ['\\', 't']
  else if c = '\n' then ['\\', 'n']
  else if c = '\x0c' then ['\\', 'f']
  else if c = '\r' then ['\\', 'r']
  else if c.toNat < 0x20 then ['\\', 'u', '0', '0'] ++ hexPair c.toNat
  else [c]

def stringText (s : String) : List Char := '"' :: s.toList.flatMap escapeChar ++ ['"']

namespace Tree

mutual

def compact : Tree → List Char
  | .null => "null".toList
  | .boolean b => (if b then "true" else "false").toList
  | .string s => stringText s
  | .list items => '[' :: compactItems items ++ [']']
  | .object members => '{' :: compactMembers members ++ ['}']

def compactItems : List Tree → List Char
  | [] => []
  | [t] => t.compact
  | t :: rest => t.compact ++ ',' :: compactItems rest

def compactMembers : List (String × Tree) → List Char
  | [] => []
  | [(k, t)] => stringText k ++ ':' :: t.compact
  | (k, t) :: rest => stringText k ++ ':' :: t.compact ++ ',' :: compactMembers rest

end

/-- A new line at a depth, two spaces for each level. -/
def newline (depth : Nat) : List Char := '\n' :: List.replicate (2 * depth) ' '

mutual

/-- The pretty form of a value that stands at a depth. -/
def pretty (depth : Nat) : Tree → List Char
  | .null => "null".toList
  | .boolean b => (if b then "true" else "false").toList
  | .string s => stringText s
  | .list [] => ['[', ']']
  | .list (t :: rest) =>
    '[' :: newline (depth + 1) ++ t.pretty (depth + 1) ++ prettyItems (depth + 1) rest ++
      newline depth ++ [']']
  | .object [] => ['{', '}']
  | .object ((k, t) :: rest) =>
    '{' :: newline (depth + 1) ++ stringText k ++ ':' :: ' ' :: t.pretty (depth + 1) ++
      prettyMembers (depth + 1) rest ++ newline depth ++ ['}']

/-- The elements behind the first. -/
def prettyItems (depth : Nat) : List Tree → List Char
  | [] => []
  | t :: rest => ',' :: newline depth ++ t.pretty depth ++ prettyItems depth rest

/-- The members behind the first. -/
def prettyMembers (depth : Nat) : List (String × Tree) → List Char
  | [] => []
  | (k, t) :: rest =>
    ',' :: newline depth ++ stringText k ++ ':' :: ' ' :: t.pretty depth ++
      prettyMembers depth rest

end

end Tree

end Tablecast.Json
