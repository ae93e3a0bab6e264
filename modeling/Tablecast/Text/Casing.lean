import Tablecast.Text.Alphanumeric
import Tablecast.Text.Blank
import Tablecast.Text.CaseMapping
import Tablecast.Text.LetterCase

/-!
# Snake case

A name falls into words at every character that is neither letter nor number, and inside such a
piece at its humps: after a small letter before a capital, and before the last capital of a run
of capitals that a small letter follows. Characters without case belong to the word around them.
-/

namespace Tablecast.Text

/-- The case of the last cased letter of the word so far. -/
inductive HumpMode where
  | start
  | lower
  | upper
  deriving DecidableEq

def HumpMode.after (mode : HumpMode) (c : Char) : HumpMode :=
  if isLowercase c then .lower else if isUppercase c then .upper else mode

/-- Cuts a piece at its humps; `word` holds what the current word has so far, the last character
first. -/
def splitHumps (mode : HumpMode) (word : List Char) : List Char → List (List Char)
  | [] => []
  | [c] => [(c :: word).reverse]
  | c :: next :: rest =>
    if mode.after c = .lower ∧ isUppercase next then
      (c :: word).reverse :: splitHumps .start [] (next :: rest)
    else if mode = .upper ∧ isUppercase c ∧ isLowercase next then
      word.reverse :: splitHumps .start [c] (next :: rest)
    else
      splitHumps (mode.after c) (c :: word) (next :: rest)

def casedWords (s : List Char) : List (List Char) :=
  (pieces (!isAlphanumeric ·) s).flatMap (splitHumps .start [])

/-- A capital sigma at the end of a word lowers to the final sigma. -/
def lowerWord : List Char → List Char
  | [] => []
  | [c] => if c = 'Σ' then ['ς'] else lowerChar c
  | c :: rest => lowerChar c ++ lowerWord rest

def upperWord (word : List Char) : List Char := word.flatMap upperChar

def snakeCase (s : String) : String :=
  .ofList (['_'].intercalate ((casedWords s.toList).map lowerWord))

def upperSnakeCase (s : String) : String :=
  .ofList (['_'].intercalate ((casedWords s.toList).map upperWord))

end Tablecast.Text
