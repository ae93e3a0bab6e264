import Tablecast.Json.Fault
import Tablecast.Text.Hex

/-!
# Words and strings of a JSON text

A reader takes what it reads from the front of a list of characters and returns the rest.
-/

namespace Tablecast.Json

export Text (hexDigit?)

def isBlank (c : Char) : Bool := c = ' ' || c = '\t' || c = '\n' || c = '\r'

def skipBlanks (s : List Char) : List Char := s.dropWhile isBlank

/-- The remaining letters of `null`, `true` or `false`. -/
def readWord : List Char → List Char → Except Fault (List Char)
  | [], s => .ok s
  | _ :: _, [] => .error .endInValue
  | e :: word, c :: s => if c = e then readWord word s else .error .expectedIdent

/-- What stands for a character behind a backslash. -/
def simpleEscape? (c : Char) : Option Char :=
  if c = '"' ∨ c = '\\' ∨ c = '/' then some c
  else if c = 'b' then some '\x08'
  else if c = 'f' then some '\x0c'
  else if c = 'n' then some '\n'
  else if c = 'r' then some '\r'
  else if c = 't' then some '\t'
  else none

/-- Four digits must follow `\u`. With `missing` of them still to come and something else in
front, the text is cut off if it has not even that many bytes. -/
def digitFault (missing : Nat) (s : List Char) : Fault :=
  if (String.ofList (s.take missing)).utf8ByteSize < missing then .endInString else .invalidEscape

/-- Where a reader stands inside a string. -/
inductive TextState where
  | plain
  /-- Behind a backslash. -/
  | escape
  /-- In the digits of a code unit: those to come after the next one, and their value so far. -/
  | codeUnit (left value : Nat)
  /-- Behind a leading surrogate, which a trailing one must follow as an escape of its own. -/
  | lead (high : Nat)
  | leadEscape (high : Nat)
  | trail (high left value : Nat)

/-- The character that two surrogates stand for. -/
def joinSurrogates (high low : Nat) : Char :=
  Char.ofNat (0x10000 + (high - 0xD800) * 0x400 + (low - 0xDC00))

/-- Reads the rest of a string, its opening quote already taken. `acc` holds the characters so
far, the last one first. -/
def readText : TextState → List Char → List Char → Except Fault (List Char × List Char)
  | _, _, [] => .error .endInString
  | .plain, acc, c :: s =>
    if c = '"' then .ok (acc.reverse, s)
    else if c = '\\' then readText .escape acc s
    else if c.toNat < 0x20 then .error .controlCharacter
    else readText .plain (c :: acc) s
  | .escape, acc, c :: s =>
    match simpleEscape? c with
    | some x => readText .plain (x :: acc) s
    | none => if c = 'u' then readText (.codeUnit 3 0) acc s else .error .invalidEscape
  | .codeUnit left value, acc, c :: s =>
    match hexDigit? c, left with
    | none, _ => .error (digitFault (left + 1) (c :: s))
    | some d, n + 1 => readText (.codeUnit n (16 * value + d)) acc s
    | some d, 0 =>
      let unit := 16 * value + d
      if 0xDC00 ≤ unit ∧ unit ≤ 0xDFFF then .error .loneSurrogate
      else if 0xD800 ≤ unit ∧ unit ≤ 0xDBFF then readText (.lead unit) acc s
      else readText .plain (Char.ofNat unit :: acc) s
  | .lead high, acc, c :: s =>
    if c = '\\' then readText (.leadEscape high) acc s else .error .unfinishedSurrogate
  | .leadEscape high, acc, c :: s =>
    if c = 'u' then readText (.trail high 3 0) acc s else .error .unfinishedSurrogate
  | .trail high left value, acc, c :: s =>
    match hexDigit? c, left with
    | none, _ => .error (digitFault (left + 1) (c :: s))
    | some d, n + 1 => readText (.trail high n (16 * value + d)) acc s
    | some d, 0 =>
      let unit := 16 * value + d
      if 0xDC00 ≤ unit ∧ unit ≤ 0xDFFF then readText .plain (joinSurrogates high unit :: acc) s
      else .error .loneSurrogate

/-- The text may not end inside a string. -/
theorem readText_end (state : TextState) (acc : List Char) :
    readText state acc [] = .error .endInString := by
  cases state <;> rw [readText]

end Tablecast.Json
