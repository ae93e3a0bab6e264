/-!
# Hexadecimal digits

The formats that write a character by its number share the reader of its digits.
-/

namespace Tablecast.Text

/-- The value of a digit, in small letters or in capitals. -/
def hexDigit? (c : Char) : Option Nat :=
  if '0' ≤ c ∧ c ≤ '9' then some (c.toNat - 48)
  else if 'a' ≤ c ∧ c ≤ 'f' then some (c.toNat - 87)
  else if 'A' ≤ c ∧ c ≤ 'F' then some (c.toNat - 55)
  else none

/-- A digit that is written is read back. -/
theorem hexDigit?_digitChar : ∀ d < 16, hexDigit? d.digitChar = some d := by decide

end Tablecast.Text
