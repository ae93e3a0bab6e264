import Mathlib.Data.List.Nodup
import Mathlib.Data.List.Pairwise
import Tablecast.Proofs.Json.Members

/-!
# Members in another order and among others

In an object that is read as a structure, the order of the members means nothing, and neither do
members of other names, whatever their values are. An edit of that kind may be made in any
structure within a value; where structures stand in it is the form of the value.

* `Shape.Assigns.perm`, `Shape.Assigns.append_unknown`: one object,
* `Edited`: one object somewhere in a value of this form,
* `Respects`: a reader to which such an edit makes no difference,
* `Shape.Respects.read`: the reader of a structure, from those of its members.
-/

namespace Tablecast.Json

variable {α β : Type}

theorem Spells.unique {body text text' : List Char} (h : Spells body text)
    (h' : Spells body text') : text = text' := by
  have read := readText_spelled h [] []
  rw [readText_spelled h' [] []] at read
  simpa using (Prod.mk.inj (Except.ok.inj read)).1.symm

namespace Node

theorem Writable.item {items : List Node} (h : Writable (.list items)) :
    ∀ n ∈ items, n.Writable := by
  obtain ⟨text, written⟩ := h
  cases written with
  | list more => exact more.writable

theorem Writable.member {members : List (List Char × Node)} (h : Writable (.object members)) :
    ∀ m ∈ members, m.2.Writable := by
  obtain ⟨text, written⟩ := h
  cases written with
  | object more => exact more.writable

end Node

/-! ## One object -/

/-- It makes no difference which of the two members is read first. -/
def Member.Commutes (m m' : Member α) : Prop :=
  ∀ ⦃n n' : Node⦄ ⦃f f' : α → α⦄, n.Writable → n'.Writable → m.Puts n f → m'.Puts n' f' →
    ∀ x, f (f' x) = f' (f x)

instance : Std.Symm (@Member.Commutes α) where
  symm _ _ h _ _ _ _ writable writable' puts puts' x := (h writable' writable puts' puts x).symm

namespace Shape

variable {shape : Shape α}

/-- Of the members seen so far, only the names count. -/
theorem Assigns.seen_congr {seen seen' : List String} (same : ∀ name, name ∈ seen ↔ name ∈ seen')
    {x y : α} {members : List (List Char × Node)} (h : shape.Assigns seen x members y) :
    shape.Assigns seen' x members y := by
  induction h generalizing seen' with
  | close complete =>
    refine .close ?_
    rw [← complete, missing?, missing?]
    congr 1
    funext m
    simp [same]
  | skip spells unknown _ ih => exact .skip spells unknown (ih same)
  | put spells known fresh writable puts _ ih =>
    refine .put spells known (fun h => fresh ((same _).mpr h)) writable puts (ih fun name => ?_)
    simp [same]

theorem Assigns.swap (commutes : shape.members.Pairwise Member.Commutes) {seen : List String}
    {x y : α} {a b : List Char × Node} {rest : List (List Char × Node)}
    (h : shape.Assigns seen x (a :: b :: rest) y) : shape.Assigns seen x (b :: a :: rest) y := by
  cases h with
  | skip spells unknown h =>
    cases h with
    | skip spells' unknown' h => exact .skip spells' unknown' (.skip spells unknown h)
    | put spells' known fresh writable puts h =>
      exact .put spells' known fresh writable puts (.skip spells unknown h)
  | @put _ _ _ _ _ m _ f _ spells known fresh writable puts h =>
    cases h with
    | skip spells' unknown h =>
      exact .skip spells' unknown (.put spells known fresh writable puts h)
    | @put _ _ _ _ _ m' _ f' _ spells' known' fresh' writable' puts' h =>
      obtain ⟨apart, fresh'⟩ := not_or.mp (List.mem_cons.not.mp fresh')
      have different : m ≠ m' := fun same => apart (by rw [same])
      have commute := commutes.forall (mem_of_member? known).1
        (mem_of_member? known').1 different
      refine .put spells' known' fresh' writable' puts' (.put spells known ?_ writable puts ?_)
      · exact fun h => (List.mem_cons.mp h).elim (fun same => apart same.symm) fresh
      · rw [commute writable writable' puts puts' x]
        exact h.seen_congr fun name => by simp only [List.mem_cons]; tauto

/-- The order of the members makes no difference. -/
theorem Assigns.perm (commutes : shape.members.Pairwise Member.Commutes)
    {members members' : List (List Char × Node)} (order : members.Perm members')
    {seen : List String} {x y : α} (h : shape.Assigns seen x members y) :
    shape.Assigns seen x members' y := by
  induction order generalizing seen x with
  | nil => exact h
  | cons a _ ih =>
    cases h with
    | skip spells unknown h => exact .skip spells unknown (ih h)
    | put spells known fresh writable puts h => exact .put spells known fresh writable puts (ih h)
  | swap a b rest => exact h.swap commutes
  | trans _ _ ih ih' => exact ih' (ih h)

/-- Members of other names make no difference. -/
theorem Assigns.append_unknown {extra : List (List Char × Node)}
    (unknown : ∀ e ∈ extra, ∃ key, Spells e.1 key ∧ shape.member? key = none)
    {seen : List String} {x y : α} {members : List (List Char × Node)}
    (h : shape.Assigns seen x members y) : shape.Assigns seen x (members ++ extra) y := by
  induction h with
  | close complete =>
    rw [List.nil_append]
    induction extra with
    | nil => exact .close complete
    | cons e extra ih =>
      obtain ⟨⟨key, spells, none⟩, others⟩ := List.forall_mem_cons.mp unknown
      exact .skip spells none (ih others)
  | skip spells none _ ih => exact .skip spells none ih
  | put spells known fresh writable puts _ ih => exact .put spells known fresh writable puts ih

/-- Another value of a member makes no difference if what it puts into the structure is the
same. -/
theorem Assigns.replace {before after : List (List Char × Node)} {body : List Char} {n n' : Node}
    (writable' : n'.Writable)
    (same : ∀ m ∈ shape.members, Spells body m.name.toList → ∀ f, n.Writable → m.Puts n f →
      m.Puts n' f)
    {seen : List String} {x y : α} (h : shape.Assigns seen x (before ++ (body, n) :: after) y) :
    shape.Assigns seen x (before ++ (body, n') :: after) y := by
  induction before generalizing seen x with
  | nil =>
    cases h with
    | skip spells unknown h => exact .skip spells unknown h
    | put spells known fresh writable puts h =>
      obtain ⟨mem, rfl⟩ := mem_of_member? known
      exact .put spells known fresh writable' (same _ mem spells _ writable puts) h
  | cons e before ih =>
    cases h with
    | skip spells unknown h => exact .skip spells unknown (ih h)
    | put spells known fresh writable puts h => exact .put spells known fresh writable puts (ih h)

end Shape

/-! ## An object within a value -/

/-- Where structures stand in a value: nowhere in a text or a flag, in the elements of a list, or
in the value itself, whose fields may hold more of them. -/
inductive Form where
  | plain
  | list (element : Form)
  | record (fields : List (String × Form))

/-- The key spells a text that is the name of none of these fields. -/
def Foreign (fields : List (String × Form)) (body : List Char) : Prop :=
  ∃ key, Spells body key ∧ ∀ field ∈ fields, field.1.toList ≠ key

/-- In one object that is read as a structure, the members have been put into another order among
any number of others of foreign names. -/
inductive Edited : Form → Node → Node → Prop
  /-- The object is the value itself. -/
  | members {fields : List (String × Form)} {members members' extra : List (List Char × Node)} :
      (∀ e ∈ extra, Foreign fields e.1) → (members ++ extra).Perm members' →
      Edited (.record fields) (.object members) (.object members')
  /-- It stands in the value of a field, which is a member here. -/
  | member {fields : List (String × Form)} {name : String} {form : Form} {body : List Char}
      {before after : List (List Char × Node)} {n n' : Node} : (name, form) ∈ fields →
      Spells body name.toList → Edited form n n' →
      Edited (.record fields) (.object (before ++ (body, n) :: after))
        (.object (before ++ (body, n') :: after))
  /-- It stands in the value of a field, which has its position in a list here. -/
  | position {fields : List (String × Form)} {name : String} {form : Form}
      {before after : List Node} {n n' : Node} : fields[before.length]? = some (name, form) →
      Edited form n n' →
      Edited (.record fields) (.list (before ++ n :: after)) (.list (before ++ n' :: after))
  | element {form : Form} {before after : List Node} {n n' : Node} : Edited form n n' →
      Edited (.list form) (.list (before ++ n :: after)) (.list (before ++ n' :: after))

/-- The reader accepts layouts only, and no edit of a structure changes what it makes of one. -/
structure Respects (form : Form) (reader : List Char → Except Fault (β × List Char)) : Prop where
  settled : Settled reader
  keeps : ∀ ⦃n n' : Node⦄ ⦃v : β⦄, Edited form n n' → n.Writable → n'.Writable →
    Reads reader n v → Reads reader n' v

theorem Settled.respects {reader : List Char → Except Fault (β × List Char)} (h : Settled reader) :
    Respects .plain reader :=
  ⟨h, nofun⟩

theorem forall₂_replace {γ : Type} {R : γ → β → Prop} {before after : List γ} {a a' : γ}
    {l : List β} (h : List.Forall₂ R (before ++ a :: after) l) (replace : ∀ b, R a b → R a' b) :
    List.Forall₂ R (before ++ a' :: after) l := by
  induction before generalizing l with
  | nil =>
    cases h with
    | cons head tail => exact .cons (replace _ head) tail
  | cons c before ih =>
    cases h with
    | cons head tail => exact .cons head (ih tail)

theorem respects_list {form : Form} {item : List Char → Except Fault (β × List Char)}
    (h : Respects form item) : Respects (.list form) (readList item) := by
  refine ⟨settled_list h.settled, fun n n' xs edited writable writable' reads => ?_⟩
  cases edited with
  | @element _ before after n n' edited =>
    have here := writable.item n (by simp)
    have here' := writable'.item n' (by simp)
    obtain ⟨text, written⟩ := writable
    have accepted := reads blanks_nil written []
    obtain ⟨blanks, items, text', areBlanks, written', split, elements⟩ :=
      list_of_ok h.settled accepted
    obtain rfl := Node.list.inj
      (written.layout.unique ⟨blanks, text', [], areBlanks, written', blanks_nil, split⟩)
    exact reads_list (forall₂_replace elements fun x => h.keeps edited here here')

namespace Member

/-- What is read for the member has this form. -/
structure Respects (m : Member α) (form : Form) : Prop where
  settled : m.Settled
  keeps : ∀ ⦃n n' : Node⦄ ⦃f : α → α⦄, Edited form n n' → n.Writable → n'.Writable →
    m.Puts n f → m.Puts n' f

/-- The member is this field of a structure. -/
def Fits (m : Member α) (field : String × Form) : Prop :=
  m.name = field.1 ∧ m.Respects field.2

section

variable {name name' : String} {absence absence' : Absence} {γ : Type}
  {reader : List Char → Except Fault (β × List Char)} {put : α → β → α}
  {reader' : List Char → Except Fault (γ × List Char)} {put' : α → γ → α}

theorem respects_of {form : Form} (h : Json.Respects form reader) :
    (Member.of name absence reader put).Respects form where
  settled := settled_of h.settled
  keeps n n' f edited writable writable' puts x := by
    obtain ⟨text, written⟩ := writable
    obtain ⟨v, accepted, rfl⟩ := puts.eq_put written x
    have reads := h.settled.reads written accepted
    exact puts_of_reads (h.keeps edited ⟨text, written⟩ writable' reads) x

theorem fits_of {form : Form} (h : Json.Respects form reader) :
    (Member.of name absence reader put).Fits (name, form) :=
  ⟨rfl, respects_of h⟩

/-- Members that are put into different places of the structure. -/
theorem commutes_of (apart : ∀ x v v', put (put' x v') v = put' (put x v) v') :
    (Member.of name absence reader put).Commutes (Member.of name' absence' reader' put') := by
  rintro n n' f f' ⟨text, written⟩ ⟨text', written'⟩ puts puts' x
  obtain ⟨v, -, rfl⟩ := puts.eq_put written x
  obtain ⟨v', -, rfl⟩ := puts'.eq_put written' x
  exact apart x v v'

end

end Member

namespace Shape

variable {shape : Shape α} {fields : List (String × Form)}

/-- The members of the structure are these fields, no two of which get in each other's way. -/
structure Respects (shape : Shape α) (fields : List (String × Form)) : Prop where
  members : List.Forall₂ Member.Fits shape.members fields
  distinct : (fields.map Prod.fst).Nodup
  commutes : shape.members.Pairwise Member.Commutes

theorem Respects.settled (h : shape.Respects fields) : ∀ m ∈ shape.members, m.Settled := by
  intro m mem
  obtain ⟨field, -, -, respects⟩ := exists_of_mem_forall₂ h.members mem
  exact respects.settled

theorem Respects.unknown (h : shape.Respects fields) {body : List Char}
    (foreign : Foreign fields body) : ∃ key, Spells body key ∧ shape.member? key = none := by
  obtain ⟨key, spells, apart⟩ := foreign
  refine ⟨key, spells, List.find?_eq_none.mpr fun m mem same => ?_⟩
  obtain ⟨field, mem', name, -⟩ := exists_of_mem_forall₂ h.members mem
  exact apart field mem' (by simpa [name] using same)

theorem Respects.member (h : shape.Respects fields) {m : Member α} (mem : m ∈ shape.members)
    {form : Form} (field : (m.name, form) ∈ fields) : m.Respects form := by
  obtain ⟨field', mem', name, respects⟩ := exists_of_mem_forall₂ h.members mem
  have same := List.inj_on_of_nodup_map h.distinct field mem' name
  rw [← same] at respects
  exact respects

theorem Positions.replace {name : String} {form : Form} {before after : List Node} {n n' : Node}
    (edited : Edited form n n') (writable' : n'.Writable) {ms : List (Member α)}
    (h : List.Forall₂ Member.Fits ms fields)
    (field : fields[before.length]? = some (name, form)) {x y : α}
    (positions : Positions ms x (before ++ n :: after) y) :
    Positions ms x (before ++ n' :: after) y := by
  induction before generalizing ms fields x with
  | nil =>
    cases positions with
    | put writable puts positions =>
      cases h with
      | cons head _ =>
        obtain rfl := Option.some.inj field
        exact .put writable' (head.2.keeps edited writable writable' puts) positions
  | cons e before ih =>
    cases positions with
    | put writable puts positions =>
      cases h with
      | cons _ tail => exact .put writable puts (ih tail field positions)

/-- A structure whose members respect its fields makes of an edited value what it made of it
before. -/
theorem Makes.edited (h : shape.Respects fields) {n n' : Node} {y : α}
    (edited : Edited (.record fields) n n') (writable' : n'.Writable)
    (makes : shape.Makes n y) : shape.Makes n' y := by
  cases edited with
  | members foreign order =>
    cases makes with
    | object assigns =>
      have more := assigns.append_unknown fun e he => h.unknown (foreign e he)
      exact .object (more.perm h.commutes order)
  | @member _ name form body before after n n' field spells edited =>
    have here' := writable'.member (body, n') (by simp)
    cases makes with
    | object assigns =>
      refine .object (assigns.replace here' fun m mem spells' f here puts => ?_)
      rw [← String.toList_inj.mp (spells'.unique spells)] at field
      exact (h.member mem field).keeps edited here here' puts
  | @position _ name form before after n n' field edited =>
    have here' := writable'.item n' (by simp)
    cases makes with
    | list positions => exact .list (positions.replace edited here' h.members field)

theorem Respects.read (h : shape.Respects fields) :
    Json.Respects (.record fields) shape.read where
  settled := settled_read h.settled
  keeps _ _ _ edited writable writable' reads :=
    (Makes.edited h edited writable' (makes_of_reads h.settled writable reads)).reads

end Shape

end Tablecast.Json
