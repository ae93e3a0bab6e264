import Tablecast.Json.Text

/-!
# Values that nobody reads

The value of an unknown member is passed over. It must be well formed, but nothing in it is
interpreted: numbers may have any size, escapes may name half a surrogate pair, and lists and
objects may nest to any depth. The scanner takes one character at a time and keeps the brackets
that are open.
-/

namespace Tablecast.Json

inductive Bracket where
  | list
  | object
  deriving DecidableEq

/-- Where a scanner stands inside a number. -/
inductive NumberState where
  /-- Behind the minus sign. -/
  | sign
  | zero
  | digits
  /-- Behind the point. -/
  | point
  | places
  /-- Behind the letter of the exponent. -/
  | letter
  | exponentSign
  | exponent

/-- Where a scanner stands inside a string. -/
inductive StringState where
  | plain
  | escape
  /-- In the digits of a code unit; the number of those to come after the next one. -/
  | codeUnit (left : Nat)

/-- What the scanner expects next. The last bracket opened comes first. -/
inductive Scan where
  | value (opened : List Bracket)
  /-- Behind `[`, where the list may end at once. -/
  | firstElement (outer : List Bracket)
  /-- Behind `{`, where the object may end at once. -/
  | firstKey (outer : List Bracket)
  /-- Behind a comma of an object. -/
  | key (outer : List Bracket)
  | keyText (state : StringState) (outer : List Bracket)
  | colon (outer : List Bracket)
  | text (state : StringState) (opened : List Bracket)
  | number (state : NumberState) (opened : List Bracket)
  | word (letters : List Char) (opened : List Bracket)
  /-- Behind a value inside brackets. -/
  | comma (bracket : Bracket) (outer : List Bracket)

/-- What taking one character leads to. -/
inductive Advance where
  | go (next : Scan)
  /-- The value ends with this character. -/
  | finished
  /-- The value ended before this character. -/
  | finishedBefore
  | fault (f : Fault)

/-- Behind a complete value, its last character taken. -/
def Advance.valueEnd : List Bracket → Advance
  | [] => .finished
  | b :: outer => .go (.comma b outer)

/-- The start of a value. -/
def startValue (opened : List Bracket) (c : Char) : Advance :=
  if isBlank c then .go (.value opened)
  else if c = 'n' then .go (.word ['u', 'l', 'l'] opened)
  else if c = 't' then .go (.word ['r', 'u', 'e'] opened)
  else if c = 'f' then .go (.word ['a', 'l', 's', 'e'] opened)
  else if c = '-' then .go (.number .sign opened)
  else if c = '0' then .go (.number .zero opened)
  else if c.isDigit then .go (.number .digits opened)
  else if c = '"' then .go (.text .plain opened)
  else if c = '[' then .go (.firstElement opened)
  else if c = '{' then .go (.firstKey opened)
  else .fault .expectedValue

/-- Behind a complete value: a comma, or the bracket that closes the last one opened. -/
def afterValue (bracket : Bracket) (outer : List Bracket) (c : Char) : Advance :=
  if isBlank c then .go (.comma bracket outer)
  else
    match bracket with
    | .list =>
      if c = ',' then .go (.value (.list :: outer))
      else if c = ']' then .valueEnd outer
      else .fault .expectedListComma
    | .object =>
      if c = ',' then .go (.key outer)
      else if c = '}' then .valueEnd outer
      else .fault .expectedObjectComma

/-- The character behind a number, which is not part of it. -/
def afterNumber : List Bracket → Char → Advance
  | [], _ => .finishedBefore
  | b :: outer, c => afterValue b outer c

/-- The state after one more character of a number: another state, the end of the number before
the character, or a fault. -/
def NumberState.step (state : NumberState) (opened : List Bracket) (c : Char) : Advance :=
  let more (next : NumberState) : Advance := .go (.number next opened)
  let isLetter := c = 'e' ∨ c = 'E'
  match state with
  | .sign =>
    if c = '0' then more .zero else if c.isDigit then more .digits else .fault .invalidNumber
  | .zero =>
    if c.isDigit then .fault .invalidNumber
    else if c = '.' then more .point
    else if isLetter then more .letter
    else afterNumber opened c
  | .digits =>
    if c.isDigit then more .digits
    else if c = '.' then more .point
    else if isLetter then more .letter
    else afterNumber opened c
  | .point => if c.isDigit then more .places else .fault .invalidNumber
  | .places =>
    if c.isDigit then more .places
    else if isLetter then more .letter
    else afterNumber opened c
  | .letter =>
    if c = '+' ∨ c = '-' then more .exponentSign
    else if c.isDigit then more .exponent
    else .fault .invalidNumber
  | .exponentSign => if c.isDigit then more .exponent else .fault .invalidNumber
  | .exponent => if c.isDigit then more .exponent else afterNumber opened c

/-- What a character does inside a string; `rest` is the text behind it. -/
inductive StringStep where
  | inside (state : StringState)
  | closed
  | fault (f : Fault)

def StringState.step (state : StringState) (c : Char) (rest : List Char) : StringStep :=
  match state with
  | .plain =>
    if c = '"' then .closed
    else if c = '\\' then .inside .escape
    else if c.toNat < 0x20 then .fault .controlCharacter
    else .inside .plain
  | .escape =>
    if (simpleEscape? c).isSome then .inside .plain
    else if c = 'u' then .inside (.codeUnit 3)
    else .fault .invalidEscape
  | .codeUnit left =>
    if (hexDigit? c).isNone then .fault (digitFault (left + 1) (c :: rest))
    else
      match left with
      | 0 => .inside .plain
      | n + 1 => .inside (.codeUnit n)

def Scan.step (scan : Scan) (c : Char) (rest : List Char) : Advance :=
  match scan with
  | .value opened => startValue opened c
  | .firstElement outer =>
    if isBlank c then .go (.firstElement outer)
    else if c = ']' then .valueEnd outer
    else startValue (.list :: outer) c
  | .firstKey outer =>
    if isBlank c then .go (.firstKey outer)
    else if c = '}' then .valueEnd outer
    else if c = '"' then .go (.keyText .plain outer)
    else .fault .keyNotString
  | .key outer =>
    if isBlank c then .go (.key outer)
    else if c = '"' then .go (.keyText .plain outer)
    else .fault .keyNotString
  | .keyText state outer =>
    match state.step c rest with
    | .inside next => .go (.keyText next outer)
    | .closed => .go (.colon outer)
    | .fault f => .fault f
  | .colon outer =>
    if isBlank c then .go (.colon outer)
    else if c = ':' then .go (.value (.object :: outer))
    else .fault .expectedColon
  | .text state opened =>
    match state.step c rest with
    | .inside next => .go (.text next opened)
    | .closed => .valueEnd opened
    | .fault f => .fault f
  | .number state opened => state.step opened c
  | .word letters opened =>
    match letters with
    | [] => .fault .expectedIdent
    | [e] => if c = e then .valueEnd opened else .fault .expectedIdent
    | e :: more => if c = e then .go (.word more opened) else .fault .expectedIdent
  | .comma bracket outer => afterValue bracket outer c

/-- What it means that the text ends in a number: a fault, or the end of the number. -/
def NumberState.atEnd (state : NumberState) (opened : List Bracket) : Except Fault (List Char) :=
  match state, opened with
  | .sign, _ | .point, _ | .letter, _ | .exponentSign, _ => .error .invalidNumber
  | _, [] => .ok []
  | _, .list :: _ => .error .endInList
  | _, .object :: _ => .error .endInObject

/-- What it means that the text ends here. -/
def Scan.atEnd : Scan → Except Fault (List Char)
  | .value _ | .word _ _ => .error .endInValue
  | .firstElement _ | .comma .list _ => .error .endInList
  | .firstKey _ | .key _ | .colon _ | .comma .object _ => .error .endInObject
  | .keyText _ _ | .text _ _ => .error .endInString
  | .number state opened => state.atEnd opened

/-- Passes over the rest of a value and returns what follows it. -/
def Scan.run (scan : Scan) : List Char → Except Fault (List Char)
  | [] => scan.atEnd
  | c :: rest =>
    match scan.step c rest with
    | .go next => next.run rest
    | .finished => .ok rest
    | .finishedBefore => .ok (c :: rest)
    | .fault f => .error f

/-- Passes over one value. -/
def skipValue (s : List Char) : Except Fault (List Char) := (Scan.value []).run s

end Tablecast.Json
