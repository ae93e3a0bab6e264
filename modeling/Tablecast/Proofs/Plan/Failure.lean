import Tablecast.Proofs.Plan.Structure

/-!
# Why a document has no plan

Resolving checks the document first. Once it is consistent, its foreign keys start at columns that
are there, so nothing is left to fail but the types of the columns: the first one in the order of
declaration that is of no known family is the error.

* `failure?_mapM`: a traversal fails as its first element that fails;
* `Table.exists_relationships`: a table's foreign keys resolve once its columns have;
* `Document.failure?_resolve`, `Document.resolve_outcome`: what becomes of a document.
-/

namespace Tablecast

/-! ## Failures -/

section Failure

variable {ε α β : Type}

/-- What a computation failed with. -/
def failure? : Except ε α → Option ε
  | .error e => some e
  | .ok _ => none

@[simp] theorem failure?_error (e : ε) : failure? (.error e : Except ε α) = some e := rfl

@[simp] theorem failure?_ok (a : α) : failure? (.ok a : Except ε α) = none := rfl

theorem failure?_eq_some {x : Except ε α} {e : ε} : failure? x = some e ↔ x = .error e := by
  cases x <;> simp

theorem failure?_eq_none {x : Except ε α} : failure? x = none ↔ ∃ a, x = .ok a := by
  cases x <;> simp

/-- What is done with a result in the end does not fail. -/
@[simp] theorem failure?_bind_pure {x : Except ε α} {f : α → β} :
    failure? (x >>= fun a => pure (f a)) = failure? x := by
  cases x <;> rfl

theorem failure?_mapM {f : α → Except ε β} {l : List α} :
    failure? (l.mapM f) = l.findSome? fun a => failure? (f a) := by
  induction l with
  | nil => rfl
  | cons a l ih =>
    rw [List.mapM_cons, List.findSome?_cons, ← ih]
    cases f a with
    | error e => rfl
    | ok b => exact failure?_bind_pure

theorem findSome?_flatMap {γ : Type} {f : α → List β} {g : β → Option γ} {l : List α} :
    (l.flatMap f).findSome? g = l.findSome? fun a => (f a).findSome? g := by
  rw [← List.head?_filterMap, List.filterMap_flatMap, List.head?_flatMap]
  simp only [List.head?_filterMap]

theorem findSome?_congr {f g : α → Option β} {l : List α} (same : ∀ a ∈ l, f a = g a) :
    l.findSome? f = l.findSome? g := by
  rw [← List.head?_filterMap, ← List.head?_filterMap, List.filterMap_congr same]

end Failure

/-! ## Columns -/

/-- The family that the column's declaration belongs to, if it is known. -/
def Column.family? (c : Column) : Option Semantic := Declaration.semantic? c.databaseType c.name

theorem Column.failure?_resolve_eq_none {c : Column} :
    failure? c.resolve = none ↔ c.family?.isSome := by
  cases known : Declaration.semantic? c.databaseType c.name <;>
    simp [Column.resolve, Column.family?, known]

theorem Column.failure?_resolve_eq_some {c : Column} {e : DocumentError} :
    failure? c.resolve = some e ↔
      c.family? = none ∧ e = .unknownType c.databaseType c.name := by
  cases known : Declaration.semantic? c.databaseType c.name <;>
    simp [Column.resolve, Column.family?, known, eq_comm]

theorem failure?_planColumns (tag : Nat) (cs : List Column) :
    failure? (planColumns tag cs) = cs.findSome? fun c => failure? c.resolve := by
  induction cs generalizing tag with
  | nil => rfl
  | cons c cs ih =>
    rw [planColumns, List.findSome?_cons, ← ih (tag + 1)]
    cases c.resolve with
    | error e => rfl
    | ok type => exact failure?_bind_pure

/-! ## Tables -/

/-- A foreign key that starts at a resolved column is resolved. -/
theorem ForeignKey.exists_resolve {table : String} {columns : List ColumnPlan} {k : ForeignKey}
    (known : k.fromColumn ∈ columns.map ColumnPlan.storageName) :
    ∃ r, k.resolve table (columns.map fun c => (c.storageName, c.type)) = .ok r := by
  cases found : (columns.map fun c => (c.storageName, c.type)).reverse.lookup k.fromColumn with
  | some type => exact ⟨_, ForeignKey.resolve_eq_ok.mpr ⟨type, found, rfl⟩⟩
  | none =>
    obtain ⟨c, hc, same⟩ := List.mem_map.mp known
    have entry : (c.storageName, c.type) ∈
        (columns.map fun c => (c.storageName, c.type)).reverse :=
      List.mem_reverse.mpr (List.mem_map_of_mem hc)
    have apart := List.lookup_eq_none_iff.mp found _ entry
    rw [same] at apart
    simp at apart

/-- **No foreign key dangles** once the columns of its table are resolved. -/
theorem Table.exists_relationships {t : Table}
    (known : ∀ k ∈ t.foreignKeys, k.fromColumn ∈ t.columns.map Column.name) {tag : Nat}
    {columns : List ColumnPlan} (planned : planColumns tag t.columns = .ok columns) :
    ∃ fields, t.relationships (columns.map fun c => (c.storageName, c.type)) = .ok fields := by
  have names : columns.map ColumnPlan.storageName = t.columns.map Column.name :=
    map_eq_map_of_forall₂ ColumnPlan.storageName Column.name
      (fun _ _ => ColumnPlan.Mirrors.storageName) (planColumns_ok planned).1
  apply exists_mapM_eq_ok.mpr
  intro k hk
  exact ForeignKey.exists_resolve (names ▸ known k hk)

theorem PlacedTable.failure?_resolve {p : PlacedTable}
    (known : ∀ k ∈ p.table.foreignKeys, k.fromColumn ∈ p.table.columns.map Column.name) :
    failure? p.resolve = p.table.columns.findSome? fun c => failure? c.resolve := by
  rw [← failure?_planColumns 1, PlacedTable.resolve]
  cases planned : planColumns 1 p.table.columns with
  | error e => rfl
  | ok columns =>
    obtain ⟨fields, resolved⟩ := Table.exists_relationships known planned
    simp only [bind, Except.bind, resolved]
    rfl

/-! ## Documents -/

/-- Every column of the document in the order of declaration. -/
def Document.columns (d : Document) : List Column := d.placed.flatMap fun p => p.table.columns

theorem Document.failure?_resolve {d : Document} (valid : d.validate = .ok ()) :
    failure? d.resolve = d.columns.findSome? fun c => failure? c.resolve := by
  have consistent := Document.validate_eq_ok.mp valid
  have tables : failure? d.resolve = failure? (d.placed.mapM PlacedTable.resolve) := by
    rw [Document.resolve, valid]
    exact failure?_bind_pure
  rw [tables, failure?_mapM, Document.columns, findSome?_flatMap]
  apply findSome?_congr
  intro p hp
  exact PlacedTable.failure?_resolve (consistent.tables p hp).fromColumn_mem

/-- **What becomes of a document.** One that is inconsistent fails as its validation does. One that
is consistent has a plan exactly if every column is of a known family; otherwise the first column
that is not, in the order of declaration, is named with its type as it was declared. No foreign key
of a consistent document fails to find its column. -/
theorem Document.resolve_outcome (d : Document) :
    (∀ e, d.validate = .error e → d.resolve = .error e) ∧
      (d.validate = .ok () →
        ((∃ p, d.resolve = .ok p) ↔ ∀ c ∈ d.columns, c.family?.isSome) ∧
        (∀ e, d.resolve = .error e ↔ ∃ before c after, d.columns = before ++ c :: after ∧
          (∀ b ∈ before, b.family?.isSome) ∧ c.family? = none ∧
          e = .unknownType c.databaseType c.name) ∧
        ∀ p ∈ d.placed, ∀ columns, planColumns 1 p.table.columns = .ok columns →
          ∃ fields,
            p.table.relationships (columns.map fun c => (c.storageName, c.type)) = .ok fields) := by
  constructor
  · intro e invalid
    rw [Document.resolve, invalid]
    rfl
  · intro valid
    have consistent := Document.validate_eq_ok.mp valid
    have failure := Document.failure?_resolve valid
    refine ⟨?_, ?_, ?_⟩
    · rw [← failure?_eq_none, failure, List.findSome?_eq_none_iff]
      simp only [Column.failure?_resolve_eq_none]
    · intro e
      rw [← failure?_eq_some, failure, List.findSome?_eq_some_iff]
      simp only [Column.failure?_resolve_eq_none, Column.failure?_resolve_eq_some]
      constructor
      · rintro ⟨before, c, after, split, ⟨unknown, rfl⟩, known⟩
        exact ⟨before, c, after, split, known, unknown, rfl⟩
      · rintro ⟨before, c, after, split, known, unknown, rfl⟩
        exact ⟨before, c, after, split, ⟨unknown, rfl⟩, known⟩
    · intro p hp columns planned
      exact Table.exists_relationships (consistent.tables p hp).fromColumn_mem planned

/-- Customers have a mood, which is of no known family, and their pets have one too. -/
def moodDocument : Document where
  databases := [⟨"ORCL", [⟨"SH", [
    ⟨"CUSTOMERS", "Customer", "Customers", none,
      [⟨"PET", "PetId", "NUMBER", true, none, none⟩,
        ⟨"MOOD", "Mood", "ENUM (glad,  sad)", false, none, none⟩],
      [⟨"PET", "Pet", "Pet"⟩]⟩,
    ⟨"PETS", "Pet", "Pets", none, [⟨"MOOD", "Mood", "XMLTYPE", true, none, none⟩], []⟩]⟩]⟩]

/-- The customers alone, whose pets are then not declared. -/
def petlessDocument : Document where
  databases := [⟨"ORCL", [⟨"SH", moodDocument.placed.take 1 |>.map PlacedTable.table⟩]⟩]

theorem moodDocument_fails :
    moodDocument.validate = .ok () ∧
      moodDocument.resolve = .error (.unknownType "ENUM (glad,  sad)" "MOOD") ∧
      petlessDocument.resolve =
        .error (.inconsistent (.undeclaredTarget "Pet" "ORCL.SH.CUSTOMERS.Pet")) := by
  have valid : moodDocument.validate = .ok () := rfl
  have invalid : petlessDocument.validate =
    .error (.inconsistent (.undeclaredTarget "Pet" "ORCL.SH.CUSTOMERS.Pet")) := rfl
  obtain ⟨-, outcome⟩ := Document.resolve_outcome moodDocument
  obtain ⟨-, fails, -⟩ := outcome valid
  refine ⟨valid, (fails _).mpr ?_, (Document.resolve_outcome petlessDocument).1 _ invalid⟩
  exact ⟨[⟨"PET", "PetId", "NUMBER", true, none, none⟩],
    ⟨"MOOD", "Mood", "ENUM (glad,  sad)", false, none, none⟩,
    [⟨"MOOD", "Mood", "XMLTYPE", true, none, none⟩], rfl, by decide, by decide, rfl⟩

end Tablecast
