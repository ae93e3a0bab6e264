import Tablecast.Text.Casing

/-!
# Names of generated items

The names that validation keeps apart and that every artifact uses.
-/

namespace Tablecast.Naming

/-- The static that lists every table. -/
def registry : String := "TABLES"

/-- A field, in the record and in the message. -/
def field (fieldName : String) : String := Text.snakeCase fieldName

/-- The constant of a handle. -/
def constant (handleName : String) : String := Text.upperSnakeCase handleName

/-- The message that carries a record type. -/
def message (typeName : String) : String := typeName ++ "Proto"

end Tablecast.Naming
