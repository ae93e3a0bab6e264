import Tablecast.Proofs.Json.Accepted

/-!
# What readers of structures accept

A structure is written as an object or as a list. Its members are read one after the other, and
each changes the structure in a way that depends on its node alone; unknown members change nothing.

* `Shape.Assigns`: the members of an object turn one structure into another,
* `Shape.Positions`: the elements of a list do,
* `Shape.makes_of_ok`, `Shape.Makes.reads`: a structure is accepted if and only if it is made so.
-/

namespace Tablecast.Json

variable {α β : Type}

namespace Member

/-- Reading the member from any layout of the node changes every structure by this function. -/
def Puts (m : Member α) (n : Node) (f : α → α) : Prop := ∀ x, Reads (m.read x) n (f x)

/-- What is accepted for the member is a layout of a node that changes every structure in one
way. -/
def Settled (m : Member α) : Prop :=
  ∀ ⦃s rest : List Char⦄ ⦃x y : α⦄, m.read x s = .ok (y, rest) →
    ∃ blanks n text f, Blanks blanks ∧ Node.Written n text ∧ s = blanks ++ (text ++ rest) ∧
      m.Puts n f ∧ y = f x

section

variable {name : String} {absence : Absence} {reader : List Char → Except Fault (β × List Char)}
  {put : α → β → α}

theorem puts_of_reads {n : Node} {v : β} (h : Reads reader n v) :
    (Member.of name absence reader put).Puts n (put · v) := by
  intro x blanks text before written rest
  exact bind_eq_ok.mpr ⟨_, h before written rest, rfl⟩

theorem read_of_eq_ok {x y : α} {s rest : List Char} :
    (Member.of name absence reader put).read x s = .ok (y, rest) ↔
      ∃ v, reader s = .ok (v, rest) ∧ y = put x v := by
  constructor
  · intro h
    obtain ⟨⟨v, rest⟩, read, done⟩ := bind_eq_ok.mp h
    obtain ⟨rfl, rfl⟩ := Prod.mk.inj (pure_eq_ok.mp done)
    exact ⟨v, read, rfl⟩
  · rintro ⟨v, read, rfl⟩
    exact bind_eq_ok.mpr ⟨_, read, rfl⟩

theorem settled_of (h : Json.Settled reader) : (Member.of name absence reader put).Settled := by
  intro s rest x y accepted
  obtain ⟨v, read, rfl⟩ := read_of_eq_ok.mp accepted
  obtain ⟨blanks, n, text, areBlanks, written, rfl, reads⟩ := h read
  exact ⟨blanks, n, text, (put · v), areBlanks, written, rfl, puts_of_reads reads, rfl⟩

/-- What the member puts into a structure is what its reader takes from the node, whatever the
structure. -/
theorem Puts.eq_put {n : Node} {f : α → α}
    (puts : (Member.of name absence reader put).Puts n f) {text : List Char}
    (written : n.Written text) (x : α) :
    ∃ v, reader ([] ++ (text ++ [])) = .ok (v, []) ∧ f = (put · v) := by
  have each (y : α) := read_of_eq_ok.mp (puts y blanks_nil written [])
  obtain ⟨v, read, -⟩ := each x
  refine ⟨v, read, funext fun y => ?_⟩
  obtain ⟨v', read', same⟩ := each y
  rw [read] at read'
  rw [same, (Prod.mk.inj (Except.ok.inj read')).1]

end

end Member

namespace Shape

variable (shape : Shape α)

/-- Read one after the other, the members of an object turn `x` into `y`; the known members in
`seen` come before them. -/
inductive Assigns : List String → α → List (List Char × Node) → α → Prop
  | close {seen : List String} {x : α} : shape.missing? seen = none → Assigns seen x [] x
  | skip {seen : List String} {x y : α} {body key : List Char} {n : Node}
      {rest : List (List Char × Node)} : Spells body key → shape.member? key = none →
      Assigns seen x rest y → Assigns seen x ((body, n) :: rest) y
  | put {seen : List String} {x y : α} {body key : List Char} {m : Member α} {n : Node}
      {f : α → α} {rest : List (List Char × Node)} : Spells body key →
      shape.member? key = some m → m.name ∉ seen → n.Writable → m.Puts n f →
      Assigns (m.name :: seen) (f x) rest y → Assigns seen x ((body, n) :: rest) y

/-- The elements of a list, read as these members, turn `x` into `y`. Only members that may be left
out of a list have no element. -/
inductive Positions : List (Member α) → α → List Node → α → Prop
  | close {ms : List (Member α)} {x : α} : (∀ m ∈ ms, m.absence = .initial) → Positions ms x [] x
  | put {m : Member α} {ms : List (Member α)} {x y : α} {n : Node} {f : α → α}
      {rest : List Node} : n.Writable → m.Puts n f → Positions ms (f x) rest y →
      Positions (m :: ms) x (n :: rest) y

/-- The node makes this structure. -/
inductive Makes : Node → α → Prop
  | object {members : List (List Char × Node)} {y : α} :
      shape.Assigns [] shape.initial members y → Makes (.object members) y
  | list {items : List Node} {y : α} :
      Positions shape.members shape.initial items y → Makes (.list items) y

variable {shape}

/-! ## Objects -/

section Step

variable {k : Nat} {first : Bool} {seen : List String} {x : α} {s behindQuote behindKey value rest :
  List Char} {key : List Char}

/-- An unknown member is passed over. -/
theorem readMembers_unknown (found : nextKey first s = .ok (true, behindQuote))
    (read : readText .plain [] behindQuote = .ok (key, behindKey))
    (colon : readColon behindKey = .ok value) (unknown : shape.member? key = none)
    (skipped : skipValue value = .ok rest) :
    shape.readMembers (k + 1) first seen x s = shape.readMembers k false seen x rest := by
  rw [readMembers, found]
  simp [bind, Except.bind, read, colon, unknown, skipped]

/-- A known member that is not there yet is read. -/
theorem readMembers_known {m : Member α} {y : α} (found : nextKey first s = .ok (true, behindQuote))
    (read : readText .plain [] behindQuote = .ok (key, behindKey))
    (colon : readColon behindKey = .ok value) (known : shape.member? key = some m)
    (fresh : m.name ∉ seen) (taken : m.read x value = .ok (y, rest)) :
    shape.readMembers (k + 1) first seen x s =
      shape.readMembers k false (m.name :: seen) y rest := by
  rw [readMembers, found]
  simp [bind, Except.bind, read, colon, known, fresh, taken]

end Step

/-- Members that turn one structure into another are read so from every layout. -/
theorem Assigns.readMembers {seen : List String} {x y : α} {members : List (List Char × Node)}
    (h : shape.Assigns seen x members y) {k : Nat} (enough : members.length < k) {first : Bool}
    {text : List Char} (written : Node.WrittenMembers first members text) (rest : List Char) :
    shape.readMembers k first seen x (text ++ rest) = .ok (y, rest) := by
  induction h generalizing k first text with
  | close nothing =>
    obtain ⟨j, rfl⟩ := Nat.exists_eq_succ_of_ne_zero (Nat.ne_zero_of_lt enough)
    rw [Shape.readMembers, written.start_nil rest]
    simp [bind, Except.bind, nothing]
  | skip spells unknown _ ih =>
    obtain ⟨j, rfl⟩ := Nat.exists_eq_succ_of_ne_zero (Nat.ne_zero_of_lt enough)
    obtain ⟨before, after, value, tail, -, blanks, blanks', value', more, found⟩ :=
      written.start_cons rest
    have skipped := skipValue_written blanks' value' (more.endsNumber rest)
    rw [readMembers_unknown found (readText_spelled spells _ _) (readColon_written blanks _)
      unknown skipped]
    exact ih (Nat.lt_of_succ_lt_succ enough) more
  | put spells known fresh _ puts _ ih =>
    obtain ⟨j, rfl⟩ := Nat.exists_eq_succ_of_ne_zero (Nat.ne_zero_of_lt enough)
    obtain ⟨before, after, value, tail, -, blanks, blanks', value', more, found⟩ :=
      written.start_cons rest
    rw [readMembers_known found (readText_spelled spells _ _) (readColon_written blanks _)
      known fresh (puts _ blanks' value' (tail ++ rest))]
    exact ih (Nat.lt_of_succ_lt_succ enough) more

theorem mem_of_member? {key : List Char} {m : Member α} (h : shape.member? key = some m) :
    m ∈ shape.members ∧ m.name.toList = key := by
  have found := List.find?_some h
  exact ⟨List.mem_of_find?_eq_some h, by simpa using found⟩

/-- Accepted members turn one structure into another. -/
theorem assigns_of_readMembers (settled : ∀ m ∈ shape.members, m.Settled) {k : Nat}
    {first : Bool} {seen : List String} {x y : α} {s rest : List Char}
    (h : shape.readMembers k first seen x s = .ok (y, rest)) :
    ∃ members text, Node.WrittenMembers first members text ∧ s = text ++ rest ∧
      shape.Assigns seen x members y := by
  induction k generalizing first seen x s with
  | zero => cases h
  | succ k ih =>
    obtain ⟨⟨found, s'⟩, next, run⟩ := bind_eq_ok.mp h
    have front := nextKey_ok next
    cases found with
    | false =>
      obtain ⟨blanks, areBlanks, rfl⟩ := front
      cases missing : shape.missing? seen with
      | some m => simp [missing] at run
      | none =>
        simp only [missing] at run
        obtain ⟨rfl, rfl⟩ := Prod.mk.inj (Except.ok.inj run)
        exact ⟨[], _, .close areBlanks, by simp, .close missing⟩
    | true =>
      obtain ⟨lead, leads, rfl⟩ := front
      obtain ⟨⟨key, behindKey⟩, read, others⟩ := bind_eq_ok.mp run
      obtain ⟨body, _, spells, rfl, rfl⟩ := spelled_of_readText read
      cases found : shape.member? key with
      | none =>
        simp only [found] at others
        obtain ⟨value, colon, passed⟩ := bind_eq_ok.mp others
        obtain ⟨behind, skipped, last⟩ := bind_eq_ok.mp passed
        obtain ⟨before, blanks, rfl⟩ := readColon_ok colon
        obtain ⟨after, n, text, blanks', written, rfl⟩ := skipValue_ok skipped
        obtain ⟨members, tail, more, rfl, assigns⟩ := ih last
        exact ⟨_, _, .member leads spells.body blanks blanks' written more, by simp [quoted],
          .skip spells found assigns⟩
      | some m =>
        simp only [found] at others
        split_ifs at others with twice
        obtain ⟨value, colon, taking⟩ := bind_eq_ok.mp others
        obtain ⟨⟨x', behind⟩, taken, last⟩ := bind_eq_ok.mp taking
        obtain ⟨before, blanks, rfl⟩ := readColon_ok colon
        obtain ⟨after, n, text, f, blanks', written, rfl, puts, rfl⟩ :=
          settled m (mem_of_member? found).1 taken
        obtain ⟨members, tail, more, rfl, assigns⟩ := ih last
        have fresh : m.name ∉ seen := by simpa using twice
        exact ⟨_, _, .member leads spells.body blanks blanks' written more, by simp [quoted],
          .put spells found fresh ⟨_, written⟩ puts assigns⟩

/-! ## Lists -/

theorem Positions.readPositions {ms : List (Member α)} {x y : α} {items : List Node}
    (h : Positions ms x items y) (index : Nat) {text : List Char}
    (written : Node.WrittenItems (index == 0) items text) (rest : List Char) :
    shape.readPositions ms index x (text ++ rest) = .ok (y, rest) := by
  induction h generalizing index text with
  | @close ms x optional =>
    cases written with
    | close blanks =>
      rw [List.append_assoc, List.singleton_append]
      cases ms with
      | nil => exact bind_eq_ok.mpr ⟨rest, closeList_written blanks rest, rfl⟩
      | cons m ms =>
        have none : (m :: ms).findIdx? (fun m => m.absence ≠ .initial) = none := by
          rw [List.findIdx?_eq_none_iff]
          intro m' hm
          simp [optional m' hm]
        rw [Shape.readPositions, nextElement_close blanks]
        simp only [bind, Except.bind]
        rw [none]
  | @put m ms x y n f items _ puts _ ih =>
    obtain ⟨value, tail, value', more, found⟩ := written.start_cons rest
    have read := puts x blanks_nil value' (tail ++ rest)
    have others := ih (index + 1) more
    rw [Shape.readPositions, found]
    simp only [List.nil_append] at read
    simp only [bind, Except.bind, read, others]

theorem positions_of_readPositions {ms : List (Member α)} (settled : ∀ m ∈ ms, m.Settled)
    {index : Nat} {x y : α} {s rest : List Char}
    (h : shape.readPositions ms index x s = .ok (y, rest)) :
    ∃ items text, Node.WrittenItems (index == 0) items text ∧ s = text ++ rest ∧
      Positions ms x items y := by
  induction ms generalizing index x s with
  | nil =>
    obtain ⟨rest, close, done⟩ := bind_eq_ok.mp h
    obtain ⟨rfl, rfl⟩ := Prod.mk.inj (pure_eq_ok.mp done)
    obtain ⟨blanks, areBlanks, rfl⟩ := closeList_ok close
    exact ⟨[], _, .close areBlanks, by simp, .close nofun⟩
  | cons m ms ih =>
    obtain ⟨first, others⟩ := List.forall_mem_cons.mp settled
    obtain ⟨⟨found, s'⟩, next, run⟩ := bind_eq_ok.mp h
    have front := nextElement_ok next
    cases found with
    | false =>
      obtain ⟨blanks, areBlanks, rfl⟩ := front
      cases needed : (m :: ms).findIdx? (fun m => m.absence ≠ .initial) with
      | some i => simp only [needed] at run; cases run
      | none =>
        simp only [needed] at run
        obtain ⟨rfl, rfl⟩ := Prod.mk.inj (Except.ok.inj run)
        have optional := List.findIdx?_eq_none_iff.mp needed
        exact ⟨[], _, .close areBlanks, by simp, .close fun m hm => by simpa using optional m hm⟩
    | true =>
      obtain ⟨lead, leads, rfl⟩ := front
      obtain ⟨⟨x', behind⟩, taken, last⟩ := bind_eq_ok.mp run
      obtain ⟨blanks, n, text, f, areBlanks, written, rfl, puts, rfl⟩ := first taken
      obtain ⟨items, tail, more, rfl, positions⟩ := ih others last
      exact ⟨_, _, .item (leads.append areBlanks) written more, by simp,
        .put ⟨_, written⟩ puts positions⟩

/-! ## Structures -/

theorem Makes.reads {n : Node} {y : α} (h : shape.Makes n y) : Reads shape.read n y := by
  intro blanks text before written rest
  cases h with
  | object assigns =>
    cases written with
    | object more =>
      have brace : isBlank '{' = false := by decide
      have enough := more.length_lt
      rw [read, skipBlanks_append before, List.cons_append, skipBlanks_cons brace]
      exact assigns.readMembers (by simp; omega) more rest
  | list positions =>
    cases written with
    | list more =>
      have bracket : isBlank '[' = false := by decide
      rw [read, skipBlanks_append before, List.cons_append, skipBlanks_cons bracket]
      exact positions.readPositions 0 more rest

/-- An accepted structure is a layout of a node that makes it. -/
theorem makes_of_ok (settled : ∀ m ∈ shape.members, m.Settled) {s rest : List Char} {y : α}
    (h : shape.read s = .ok (y, rest)) :
    ∃ blanks n text, Blanks blanks ∧ Node.Written n text ∧ s = blanks ++ (text ++ rest) ∧
      shape.Makes n y := by
  obtain ⟨blanks, areBlanks, split⟩ := skipBlanks_split s
  rw [read] at h
  split at h
  next tail token =>
    obtain ⟨members, text, written, rfl, assigns⟩ := assigns_of_readMembers settled h
    rw [token] at split
    exact ⟨blanks, _, _, areBlanks, .object written, split, .object assigns⟩
  next tail token =>
    obtain ⟨items, text, written, rfl, positions⟩ := positions_of_readPositions settled h
    rw [token] at split
    exact ⟨blanks, _, _, areBlanks, .list written, split, .list positions⟩
  next => cases h

theorem makes_of_reads (settled : ∀ m ∈ shape.members, m.Settled) {n : Node} {y : α}
    (writable : n.Writable) (reads : Reads shape.read n y) : shape.Makes n y := by
  obtain ⟨text, written⟩ := writable
  have accepted := reads blanks_nil written []
  obtain ⟨blanks, n', text', areBlanks, written', split, makes⟩ := makes_of_ok settled accepted
  rw [written.layout.unique ⟨blanks, text', [], areBlanks, written', blanks_nil, split⟩]
  exact makes

theorem settled_read (settled : ∀ m ∈ shape.members, m.Settled) : Settled shape.read := by
  intro s rest y h
  obtain ⟨blanks, n, text, areBlanks, written, rfl, makes⟩ := makes_of_ok settled h
  exact ⟨blanks, n, text, areBlanks, written, rfl, makes.reads⟩

end Shape

end Tablecast.Json
