import Tablecast.Codec.Value
import Tablecast.Keyed

/-!
# Records and messages

A record holds its values and related records by field name, a message its fields and nested
messages by number. Both are kept in the order of their keys.
-/

namespace Tablecast

structure Record where
  typeName : String
  values : List (String × Value)
  related : List (String × Record)

namespace Record

def empty (typeName : String) : Record := ⟨typeName, [], []⟩

/-- The value of a field; one that was never set is null. -/
def value (r : Record) (fieldName : String) : Value := (r.values.lookup fieldName).getD .null

def withValue (r : Record) (fieldName : String) (v : Value) : Record :=
  { r with values := Keyed.insert fieldName v r.values }

def withRelated (r : Record) (fieldName : String) (other : Record) : Record :=
  { r with related := Keyed.insert fieldName other r.related }

end Record

structure Message where
  name : String
  fields : List (Nat × WireValue)
  messages : List (Nat × Message)

namespace Message

def empty (name : String) : Message := ⟨name, [], []⟩

def withField (m : Message) (tag : Nat) (v : WireValue) : Message :=
  { m with fields := Keyed.insert tag v m.fields }

def withMessage (m : Message) (tag : Nat) (other : Message) : Message :=
  { m with messages := Keyed.insert tag other m.messages }

def withoutField (m : Message) (tag : Nat) : Message :=
  { m with fields := Keyed.erase tag m.fields }

def withoutMessage (m : Message) (tag : Nat) : Message :=
  { m with messages := Keyed.erase tag m.messages }

end Message

end Tablecast
