/-!
# TOML documents

A document is a list of statements: headers that open a table, and assignments into the table that
is open. Put together they make a tree of items. A table is defined once: by one header, or piece
by piece through dotted keys, but not by both. A table that is only named on the way to another one
can still get a header of its own.
-/

namespace Tablecast.Toml

/-- How a table came to be. -/
inductive Origin where
  /-- By its own header. -/
  | header
  /-- On the way to a table with a header. -/
  | path
  /-- By a dotted key. -/
  | dotted
  deriving DecidableEq

inductive Item where
  | text (s : String)
  /-- A truth value, number or moment, of which nothing more is needed. -/
  | scalar
  | array (items : List Item)
  /-- A table written as a value, which nothing can be added to. -/
  | inlineTable (members : List (String × Item))
  | table (origin : Origin) (members : List (String × Item))
  /-- A list of tables, each with a header, the last one first. -/
  | tables (elements : List (List (String × Item)))

abbrev Members := List (String × Item)

/-- Puts an item in place of the one under its key. -/
def replace (key : String) (item : Item) (members : Members) : Members :=
  members.map fun e => if e.1 = key then (key, item) else e

/-- Changes the table at the end of a path. Tables that are missing are made, with the given origin;
a dotted key does not lead through a table with a header. -/
def descend (made : Origin) (change : Origin → Members → Option Members) :
    List String → Origin → Members → Option Members
  | [], origin, members => change origin members
  | key :: path, _, members =>
    match members.lookup key with
    | none => do
      let inner ← descend made change path made []
      some (members ++ [(key, .table made inner)])
    | some (.table origin inner) =>
      if made = .dotted ∧ origin = .header then none
      else do
        let inner ← descend made change path origin inner
        some (replace key (.table origin inner) members)
    | some (.tables (last :: earlier)) => do
      let last ← descend made change path .header last
      some (replace key (.tables (last :: earlier)) members)
    | some _ => none

/-- Adds an item under a new key. -/
def add (key : String) (item : Item) (members : Members) : Option Members :=
  if (members.lookup key).isSome then none else some (members ++ [(key, item)])

/-- Assigns to a dotted key. The table that gets the item must be made by dotted keys, unless it is
the one where the key starts. -/
def assign (path : List String) (key : String) (item : Item) (members : Members) :
    Option Members :=
  descend .dotted
    (fun origin inner => if path ≠ [] ∧ origin ≠ .dotted then none else add key item inner)
    path .header members

/-- Opens the table with a header. -/
def openTable (key : String) (members : Members) : Option Members :=
  match members.lookup key with
  | none => some (members ++ [(key, .table .header [])])
  | some (.table .path inner) => some (replace key (.table .header inner) members)
  | some _ => none

/-- Opens one more table of a list. -/
def openElement (key : String) (members : Members) : Option Members :=
  match members.lookup key with
  | none => some (members ++ [(key, .tables [[]])])
  | some (.tables elements) => some (replace key (.tables ([] :: elements)) members)
  | some _ => none

/-- Keys that lead from a table to an item. -/
structure KeyPath where
  before : List String
  last : String

inductive Statement where
  | header (path : KeyPath)
  | element (path : KeyPath)
  | assignment (path : KeyPath) (item : Item)

/-- The document so far, and the path of the table that is open. -/
structure State where
  root : Members
  opened : List String

def State.step (s : State) : Statement → Option State
  | .header p => do
    let root ← descend .path (fun _ => openTable p.last) p.before .header s.root
    some ⟨root, p.before ++ [p.last]⟩
  | .element p => do
    let root ← descend .path (fun _ => openElement p.last) p.before .header s.root
    some ⟨root, p.before ++ [p.last]⟩
  | .assignment p item => do
    let root ← descend .path (fun _ => assign p.before p.last item) s.opened .header s.root
    some { s with root }

/-- The tree that the statements make; none if they contradict each other. -/
def membersOf? (statements : List Statement) : Option Members :=
  (statements.foldlM State.step ⟨[], []⟩).map State.root

end Tablecast.Toml
