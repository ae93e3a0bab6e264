import Tablecast.Json.Tree
import Tablecast.Proofs.Json.Members

/-!
# Printed values

A value is printed as a layout of a node. Its texts are spelled with the escapes that the printer
writes, and only blanks tell the compact form from the pretty one, so what reads the node reads
both.

* `Tree.node`: the node that a value is printed as,
* `spells_escaped`: an escaped text spells the text,
* `Tree.written_compact`, `Tree.written_pretty`: the two forms are layouts of the node,
* `Shape.reads_object`: a structure is read from an object that has its members in order.
-/

namespace Tablecast.Json

variable {α β : Type}

/-! ## Escaped texts -/

def escaped (s : String) : List Char := s.toList.flatMap escapeChar

theorem stringText_eq (s : String) : stringText s = quoted (escaped s) := rfl

/-- A control character has a number of two digits. -/
theorem codeUnit_hexPair {n : Nat} (control : n < 0x20) : CodeUnit ('0' :: '0' :: hexPair n) n := by
  have zero : hexDigit? '0' = some 0 := by decide
  have high := Text.hexDigit?_digitChar (n / 16) (by omega)
  have low := Text.hexDigit?_digitChar (n % 16) (by omega)
  have unit : CodeUnit ('0' :: '0' :: hexPair n)
      (16 * (16 * (16 * 0 + 0) + n / 16) + n % 16) := .digits zero zero high low
  have value : 16 * (16 * (16 * 0 + 0) + n / 16) + n % 16 = n := by omega
  rwa [value] at unit

theorem spells_escapeChar (c : Char) {s text : List Char} (h : Spells s text) :
    Spells (escapeChar c ++ s) (c :: text) := by
  unfold escapeChar
  split_ifs with quote slash back tab feed page carriage control
  · subst quote; exact .escape rfl h
  · subst slash; exact .escape rfl h
  · subst back; exact .escape rfl h
  · subst tab; exact .escape rfl h
  · subst feed; exact .escape rfl h
  · subst page; exact .escape rfl h
  · subst carriage; exact .escape rfl h
  · have unit := Spells.codeUnit (codeUnit_hexPair control) (by omega) h
    rwa [Char.ofNat_toNat] at unit
  · exact .plain quote slash control h

theorem spells_escaped (s : String) : Spells (escaped s) s.toList := by
  unfold escaped
  induction s.toList with
  | nil => exact .nil
  | cons c text ih => exact spells_escapeChar c ih

/-! ## Nodes -/

namespace Tree

mutual

/-- What a text says that holds this value. -/
def node : Tree → Node
  | .null => .null
  | .boolean b => .boolean b
  | .string s => .string (escaped s)
  | .list items => .list (nodes items)
  | .object members => .object (memberNodes members)

def nodes : List Tree → List Node
  | [] => []
  | t :: rest => t.node :: nodes rest

def memberNodes : List (String × Tree) → List (List Char × Node)
  | [] => []
  | (key, t) :: rest => (escaped key, t.node) :: memberNodes rest

end

theorem nodes_eq_map (items : List Tree) : nodes items = items.map node := by
  induction items with
  | nil => rfl
  | cons t rest ih => rw [nodes, ih, List.map_cons]

/-! ## The compact form -/

mutual

theorem written_compact : (t : Tree) → t.node.Written t.compact
  | .null => .null
  | .boolean b => .boolean b
  | .string s => .string (spells_escaped s).body
  | .list [] => .list (.close blanks_nil)
  | .list (t :: rest) => .list (writtenItems_compact (t :: rest) (List.cons_ne_nil _ _)
      (.first blanks_nil))
  | .object [] => .object (.close blanks_nil)
  | .object (m :: rest) => .object (writtenMembers_compact (m :: rest) (List.cons_ne_nil _ _)
      (.first blanks_nil))

-- Every element but the last has the comma behind it, so the lead of the next one is handed on.
theorem writtenItems_compact : (items : List Tree) → items ≠ [] →
    ∀ {first : Bool} {lead : List Char}, Lead first lead →
      Node.WrittenItems first (nodes items) (lead ++ (compactItems items ++ [']']))
  | [], nonempty, _, _, _ => absurd rfl nonempty
  | [t], _, _, _, lead => .item lead (written_compact t) (.close blanks_nil)
  | t :: u :: rest, _, _, _, lead => by
    have tail := writtenItems_compact (u :: rest) (List.cons_ne_nil _ _)
      (.next blanks_nil blanks_nil)
    simp only [compactItems, List.append_assoc, List.cons_append]
    exact .item lead (written_compact t) tail

theorem writtenMembers_compact : (members : List (String × Tree)) → members ≠ [] →
    ∀ {first : Bool} {lead : List Char}, Lead first lead →
      Node.WrittenMembers first (memberNodes members) (lead ++ (compactMembers members ++ ['}']))
  | [], nonempty, _, _, _ => absurd rfl nonempty
  | [(key, t)], _, _, _, lead => by
    have tail : Node.WrittenMembers false [] (['}']) := .close blanks_nil
    simp only [compactMembers, List.append_assoc, List.cons_append]
    exact .member lead (spells_escaped key).body blanks_nil blanks_nil (written_compact t) tail
  | (key, t) :: m :: rest, _, _, _, lead => by
    have tail := writtenMembers_compact (m :: rest) (List.cons_ne_nil _ _)
      (.next blanks_nil blanks_nil)
    simp only [compactMembers, List.append_assoc, List.cons_append]
    exact .member lead (spells_escaped key).body blanks_nil blanks_nil (written_compact t) tail

end

theorem writable (t : Tree) : t.node.Writable := ⟨_, t.written_compact⟩

/-! ## The pretty form -/

theorem blanks_newline (depth : Nat) : Blanks (newline depth) := by
  rw [Blanks, newline, List.forall_mem_cons]
  refine ⟨by decide, fun c h => ?_⟩
  rw [List.eq_of_mem_replicate h]
  decide

mutual

theorem written_pretty (depth : Nat) : (t : Tree) → t.node.Written (t.pretty depth)
  | .null => .null
  | .boolean b => .boolean b
  | .string s => .string (spells_escaped s).body
  | .list [] => .list (.close blanks_nil)
  | .list (t :: rest) => by
    have tail := writtenItems_pretty (depth + 1) rest (blanks_newline depth)
    have items := Node.WrittenItems.item (.first (blanks_newline (depth + 1)))
      (written_pretty (depth + 1) t) tail
    simpa only [node, nodes, pretty, List.append_assoc, List.cons_append] using
      Node.Written.list items
  | .object [] => .object (.close blanks_nil)
  | .object ((key, t) :: rest) => by
    have tail := writtenMembers_pretty (depth + 1) rest (blanks_newline depth)
    have members := Node.WrittenMembers.member (.first (blanks_newline (depth + 1)))
      (spells_escaped key).body blanks_nil blanks_space (written_pretty (depth + 1) t) tail
    simpa only [node, memberNodes, pretty, stringText_eq, List.append_assoc, List.cons_append,
      List.nil_append] using Node.Written.object members

theorem writtenItems_pretty (depth : Nat) : (items : List Tree) →
    ∀ {blanks : List Char}, Blanks blanks →
      Node.WrittenItems false (nodes items) (prettyItems depth items ++ (blanks ++ [']']))
  | [], _, blanks => .close blanks
  | t :: rest, _, blanks => by
    have tail := writtenItems_pretty depth rest blanks
    have items := Node.WrittenItems.item (.next blanks_nil (blanks_newline depth))
      (written_pretty depth t) tail
    simpa only [nodes, prettyItems, List.append_assoc, List.cons_append, List.nil_append] using
      items

theorem writtenMembers_pretty (depth : Nat) : (members : List (String × Tree)) →
    ∀ {blanks : List Char}, Blanks blanks →
      Node.WrittenMembers false (memberNodes members)
        (prettyMembers depth members ++ (blanks ++ ['}']))
  | [], _, blanks => .close blanks
  | (key, t) :: rest, _, blanks => by
    have tail := writtenMembers_pretty depth rest blanks
    have members := Node.WrittenMembers.member (.next blanks_nil (blanks_newline depth))
      (spells_escaped key).body blanks_nil blanks_space (written_pretty depth t) tail
    simpa only [memberNodes, prettyMembers, stringText_eq, List.append_assoc, List.cons_append,
      List.nil_append] using members

end

end Tree

/-! ## Reading what is printed -/

theorem reads_text (s : String) : Reads readString (Tree.string s).node s := by
  have read := reads_string (spells_escaped s)
  rwa [String.ofList_toList] at read

theorem reads_someText (s : String) : Reads readOptional (Tree.string s).node (some s) := by
  have read := reads_some (spells_escaped s)
  rwa [String.ofList_toList] at read

/-- A list is read from the values of its elements. -/
theorem reads_items {reader : List Char → Except Fault (α × List Char)} {tree : α → Tree}
    (reads : ∀ x, Reads reader (tree x).node x) (xs : List α) :
    Reads (readList reader) (Tree.list (xs.map tree)).node xs := by
  rw [Tree.node, Tree.nodes_eq_map, List.map_map]
  apply reads_list
  rw [List.forall₂_map_left_iff, List.forall₂_same]
  exact fun x _ => reads x

namespace Shape

variable {shape : Shape α}

theorem Positions.nil {x : α} : Positions [] x [] x := .close (List.forall_mem_nil _)

/-- A member that is read by itself and then put into the structure. -/
theorem Positions.of {reader : List Char → Except Fault (β × List Char)} {t : Tree} {v : β}
    {name : String} {absence : Absence} {put : α → β → α} {x y : α} {ms : List (Member α)}
    {rest : List Node} (reads : Reads reader t.node v) (others : Positions ms (put x v) rest y) :
    Positions (.of name absence reader put :: ms) x (t.node :: rest) y :=
  .put t.writable (Member.puts_of_reads reads) others

/-- A member is found by its name, which no earlier one has. -/
theorem member?_name (distinct : (shape.members.map Member.name).Nodup)
    {earlier later : List (Member α)} {m : Member α}
    (split : shape.members = earlier ++ m :: later) :
    shape.member? m.name.toList = some m ∧ m.name ∉ (earlier.map Member.name).reverse := by
  have different : ∀ e ∈ earlier, e.name ≠ m.name := by
    intro e he same
    rw [split, List.map_append, List.map_cons, List.nodup_append] at distinct
    exact distinct.2.2 _ (List.mem_map_of_mem he) _ List.mem_cons_self same
  constructor
  · rw [member?, List.find?_eq_some_iff_append]
    refine ⟨by simp, earlier, later, split, fun e he => ?_⟩
    simp [String.toList_inj, different e he]
  · intro seen
    obtain ⟨e, he, same⟩ := List.mem_map.mp (List.mem_reverse.mp seen)
    exact different e he same

/-- Members that stand in order behind their names make of a structure what their values make of it
as a list. -/
theorem Positions.assigns (distinct : (shape.members.map Member.name).Nodup)
    {earlier ms : List (Member α)} (split : shape.members = earlier ++ ms)
    {trees : List (String × Tree)} (names : trees.map Prod.fst = ms.map Member.name) {x y : α}
    (h : Positions ms x (trees.map fun m => m.2.node) y) :
    shape.Assigns (earlier.map Member.name).reverse x (Tree.memberNodes trees) y := by
  -- The names seen are those of the earlier members; each step moves one member over to them.
  induction trees generalizing earlier ms x with
  | nil =>
    obtain rfl := List.map_eq_nil_iff.mp names.symm
    cases h
    have complete : shape.missing? (earlier.map Member.name).reverse = none := by
      rw [missing?, List.find?_eq_none, split, List.append_nil]
      intro m hm
      simp [List.mem_map_of_mem hm]
    exact .close complete
  | cons tree trees ih =>
    obtain ⟨key, t⟩ := tree
    cases ms with
    | nil => cases names
    | cons m ms =>
      obtain ⟨rfl, namesBehind⟩ := List.cons.inj names
      obtain ⟨found, fresh⟩ := member?_name distinct split
      cases h with
      | put writable puts others =>
        have split' : shape.members = (earlier ++ [m]) ++ ms := by simp [split]
        have rest := ih split' namesBehind others
        rw [List.map_append, List.reverse_append] at rest
        exact .put (spells_escaped m.name) found fresh writable puts rest

/-- A structure is read from an object that has its members in order. -/
theorem reads_object (distinct : (shape.members.map Member.name).Nodup)
    {trees : List (String × Tree)} (names : trees.map Prod.fst = shape.members.map Member.name)
    {y : α} (h : Positions shape.members shape.initial (trees.map fun m => m.2.node) y) :
    Reads shape.read (Tree.object trees).node y := by
  have split : shape.members = [] ++ shape.members := rfl
  exact Makes.reads (.object (h.assigns distinct split names))

end Shape

end Tablecast.Json
