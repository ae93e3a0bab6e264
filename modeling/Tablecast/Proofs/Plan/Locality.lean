import Mathlib.Data.List.Perm.Basic
import Tablecast.Artifact.Render
import Tablecast.Proofs.Plan.Boxing

/-!
# Tables are planned apart

The plan of a table depends on the table itself and on where its relationships lead. A document
that is accepted holds everything that its own tables lead to, so what else a larger document
declares, and in which order, leaves their plans as they are.

* `Plan.boxTable_of_subset`: a closed part of a plan boxes its tables as the whole plan does;
* `Document.exists_resolve_of_perm`: acceptance does not depend on the order of the tables;
* `Document.resolve_local`: both, for documents.
-/

namespace Tablecast

/-! ## Chains inside a part -/

namespace Plan

variable {p q : Plan} (part : p.tables ⊆ q.tables)
  (unique : (q.tables.map TablePlan.typeName).Nodup)
  (closed : ∀ t ∈ p.tables, ∀ r ∈ t.relationships,
    r.field.targetType ∈ p.tables.map TablePlan.typeName)

include part

theorem refers_of_subset {source target : String} (h : p.Refers source target) :
    q.Refers source target := by
  obtain ⟨t, ht, owner, leads⟩ := h
  exact ⟨t, part ht, owner, leads⟩

include unique closed

/-- A relationship of the whole that starts in the part is one of the part and stays in it. -/
theorem refers_inside {source target : String} (inside : source ∈ p.tables.map TablePlan.typeName)
    (h : q.Refers source target) :
    p.Refers source target ∧ target ∈ p.tables.map TablePlan.typeName := by
  obtain ⟨t, ht, rfl⟩ := List.mem_map.mp inside
  obtain ⟨u, hu, owner, r, hr, rfl⟩ := h
  have same : u = t := List.inj_on_of_nodup_map unique hu (part ht) owner
  subst same
  exact ⟨⟨u, ht, rfl, r, hr, rfl⟩, closed u ht r hr⟩

theorem chain_inside {source target : String} (inside : source ∈ p.tables.map TablePlan.typeName)
    (h : Relation.ReflTransGen q.Refers source target) :
    Relation.ReflTransGen p.Refers source target ∧
      target ∈ p.tables.map TablePlan.typeName := by
  induction h with
  | refl => exact ⟨.refl, inside⟩
  | tail _ leads ih =>
    obtain ⟨step, stays⟩ := refers_inside part unique closed ih.2 leads
    exact ⟨ih.1.tail step, stays⟩

theorem reaches_of_subset (unique' : (p.tables.map TablePlan.typeName).Nodup)
    {source : String} (inside : source ∈ p.tables.map TablePlan.typeName) (target : String) :
    p.reaches source target = q.reaches source target := by
  rw [Bool.eq_iff_iff, reaches_iff unique', reaches_iff unique]
  constructor
  · intro chain
    exact Relation.ReflTransGen.mono (fun _ _ => refers_of_subset part) _ _ chain
  · intro chain
    exact (chain_inside part unique closed inside chain).1

/-- Every relationship of a table in the part starts a search that never leaves it. -/
theorem boxTable_of_subset (unique' : (p.tables.map TablePlan.typeName).Nodup) {t : TablePlan}
    (ht : t ∈ p.tables) : p.boxTable t = q.boxTable t := by
  have boxes : ∀ r ∈ t.relationships,
      p.reaches r.field.targetType t.typeName = q.reaches r.field.targetType t.typeName :=
    fun r hr => reaches_of_subset part unique closed unique' (closed t ht r hr) _
  have same : t.relationships.map (fun r : RelationshipPlan =>
      { r with boxed := p.reaches r.field.targetType t.typeName }) =
      t.relationships.map fun r =>
        { r with boxed := q.reaches r.field.targetType t.typeName } := by
    apply List.map_congr_left
    intro r hr
    rw [boxes r hr]
  rw [boxTable, boxTable, same]

end Plan

/-! ## The order of tables -/

/-- The same tables in another order. -/
structure Schema.Reordered (s s' : Schema) : Prop where
  name : s.name = s'.name
  tables : s.tables.Perm s'.tables

/-- The same schemas in another order, each with its tables in another order. -/
structure Database.Reordered (d d' : Database) : Prop where
  name : d.name = d'.name
  schemas : ∃ schemas, List.Forall₂ Schema.Reordered d.schemas schemas ∧ schemas.Perm d'.schemas

/-- The same databases in another order, each with its schemas and their tables in another
order. -/
def Document.Reordered (d d' : Document) : Prop :=
  ∃ databases, List.Forall₂ Database.Reordered d.databases databases ∧
    databases.Perm d'.databases

theorem perm_flatMap_of_forall₂ {α β : Type} {R : α → α → Prop} {f : α → List β}
    (parts : ∀ a b, R a b → (f a).Perm (f b)) {l l' m : List α} (h : List.Forall₂ R l l')
    (order : l'.Perm m) : (l.flatMap f).Perm (m.flatMap f) := by
  have each : (l.flatMap f).Perm (l'.flatMap f) := by
    clear order
    induction h with
    | nil => exact .refl _
    | cons first _ ih =>
      rw [List.flatMap_cons, List.flatMap_cons]
      exact (parts _ _ first).append ih
  exact each.trans (order.flatMap fun _ _ => .refl _)

theorem Schema.Reordered.placed {s s' : Schema} (h : s.Reordered s') (database : String) :
    (s.placed database).Perm (s'.placed database) := by
  rw [Schema.placed, Schema.placed, h.name]
  exact h.tables.map _

theorem Database.Reordered.placed {d d' : Database} (h : d.Reordered d') :
    d.placed.Perm d'.placed := by
  obtain ⟨schemas, parts, order⟩ := h.schemas
  rw [Database.placed, Database.placed, h.name]
  exact perm_flatMap_of_forall₂ (fun _ _ same => same.placed d'.name) parts order

theorem Document.Reordered.placed {d d' : Document} (h : d.Reordered d') :
    d.placed.Perm d'.placed := by
  obtain ⟨databases, parts, order⟩ := h
  exact perm_flatMap_of_forall₂ (fun _ _ same => same.placed) parts order

theorem Document.Consistent.of_perm {d e : Document} (h : d.Consistent)
    (order : d.placed.Perm e.placed) : e.Consistent where
  tables := fun x hx => h.tables x (order.mem_iff.mpr hx)
  types_nodup := (order.map _).nodup_iff.mp h.types_nodup
  constants_nodup := (order.map _).nodup_iff.mp h.constants_nodup
  constant_ne_registry := fun x hx => h.constant_ne_registry x (order.mem_iff.mpr hx)
  target_mem := fun x hx k hk =>
    (order.map _).mem_iff.mp (h.target_mem x (order.mem_iff.mpr hx) k hk)

/-- A document is accepted if it is consistent and every table can be planned by itself. -/
theorem Document.exists_resolve_iff {d : Document} :
    (∃ p, d.resolve = .ok p) ↔ d.Consistent ∧ ∀ x ∈ d.placed, ∃ t, x.resolve = .ok t := by
  rw [← exists_mapM_eq_ok]
  simp only [Document.resolve_eq_ok, Document.validate_eq_ok]
  constructor
  · rintro ⟨_, consistent, tables, done, -⟩
    exact ⟨consistent, tables, done⟩
  · rintro ⟨consistent, tables, done⟩
    exact ⟨_, consistent, tables, done, rfl⟩

theorem Document.exists_resolve_of_perm {d e : Document} (order : d.placed.Perm e.placed)
    (h : ∃ p, d.resolve = .ok p) : ∃ q, e.resolve = .ok q := by
  obtain ⟨consistent, tables⟩ := Document.exists_resolve_iff.mp h
  exact Document.exists_resolve_iff.mpr
    ⟨consistent.of_perm order, fun x hx => tables x (order.mem_iff.mpr hx)⟩

/-! ## Tables of two documents -/

/-- A table's plan is the table resolved by itself and then boxed in the plan of the whole. -/
theorem Document.mem_zip_plan {d : Document} {tables : List TablePlan}
    (h : d.placed.mapM PlacedTable.resolve = .ok tables) {x : PlacedTable} {t : TablePlan} :
    (x, t) ∈ d.placed.zip (Plan.mk tables).boxCycles.tables ↔
      x ∈ d.placed ∧ ∃ u, x.resolve = .ok u ∧ t = (Plan.mk tables).boxTable u := by
  simp only [Plan.boxCycles, List.zip_map_right, List.mem_map, Prod.exists, Prod.map_apply, id_eq,
    Prod.mk.injEq, mem_zip_mapM h]
  constructor
  · rintro ⟨x, u, ⟨hx, resolved⟩, rfl, rfl⟩
    exact ⟨hx, u, resolved, rfl⟩
  · rintro ⟨hx, u, resolved, rfl⟩
    exact ⟨x, u, ⟨hx, resolved⟩, rfl, rfl⟩

/-- What a part is compared by: its types differ, and its relationships stay in it. -/
theorem Plan.closed_of_boxCycles {p : Plan} (h : p.boxCycles.WellFormed) :
    (p.tables.map TablePlan.typeName).Nodup ∧
      ∀ t ∈ p.tables, ∀ r ∈ t.relationships,
        r.field.targetType ∈ p.tables.map TablePlan.typeName := by
  have types : p.boxCycles.tables.map TablePlan.typeName = p.tables.map TablePlan.typeName := by
    simp [boxCycles, Function.comp_def]
  refine ⟨types ▸ h.types_nodup, fun t ht r hr => ?_⟩
  have boxed := h.target_mem (p.boxTable t) (List.mem_map_of_mem ht)
    { r with boxed := p.reaches r.field.targetType t.typeName } (List.mem_map_of_mem hr)
  rwa [types] at boxed

/-- The lines of a table stand together in both artifacts of its plan. -/
theorem Plan.lines_infix {p : Plan} {t : TablePlan} (ht : t ∈ p.tables) (s : Settings) :
    t.modelLines <:+: p.modelLines s ∧ t.messageLines <:+: p.wireSchemaLines s := by
  have own (f : TablePlan → List String) : f t <:+: p.tables.flatMap f :=
    List.infix_of_mem_flatten (List.mem_map_of_mem ht)
  have model : t.modelLines <:+: p.tables.flatMap fun t => "" :: t.modelLines :=
    (List.suffix_cons _ _).isInfix.trans (own fun t => "" :: t.modelLines)
  have message : t.messageLines <:+:
      p.tables.flatMap fun t => [""] ++ t.messageLines ++ [""] ++ t.selectLines := by
    have inner : t.messageLines <:+: [""] ++ t.messageLines ++ [""] ++ t.selectLines :=
      ⟨[""], [""] ++ t.selectLines, by simp only [List.append_assoc]⟩
    exact inner.trans (own fun t => [""] ++ t.messageLines ++ [""] ++ t.selectLines)
  exact ⟨model.trans (List.suffix_append _ _).isInfix,
    message.trans (List.suffix_append _ _).isInfix⟩

/-- **Tables are planned apart.** If every table of an accepted document also stands in another
one, in whatever order and among whatever other tables, then each of them has one plan, the same
in both; so the model and the wire schema of both hold the same lines for it. And an accepted
document stays accepted if its databases, their schemas or their tables change places. -/
theorem Document.resolve_local {d : Document} {p : Plan} (h : d.resolve = .ok p) :
    (∀ {e : Document} {q : Plan}, e.resolve = .ok q → d.placed ⊆ e.placed →
      ∀ x ∈ d.placed, ∃ t,
        (∀ u, (x, u) ∈ d.placed.zip p.tables ↔ u = t) ∧
        (∀ u, (x, u) ∈ e.placed.zip q.tables ↔ u = t) ∧
        ∀ s, t.modelLines <:+: p.modelLines s ∧ t.modelLines <:+: q.modelLines s ∧
          t.messageLines <:+: p.wireSchemaLines s ∧ t.messageLines <:+: q.wireSchemaLines s) ∧
    ∀ {e : Document}, d.Reordered e → ∃ q, e.resolve = .ok q := by
  refine ⟨?_, fun reordered => Document.exists_resolve_of_perm reordered.placed ⟨p, h⟩⟩
  intro e q h' contained x hx
  have wellFormed := Document.wellFormed_of_resolve h
  have wellFormed' := Document.wellFormed_of_resolve h'
  obtain ⟨-, tables, done, rfl⟩ := Document.resolve_eq_ok.mp h
  obtain ⟨-, tables', done', rfl⟩ := Document.resolve_eq_ok.mp h'
  obtain ⟨unique, closed⟩ := Plan.closed_of_boxCycles wellFormed
  obtain ⟨unique', -⟩ := Plan.closed_of_boxCycles wellFormed'
  -- A table resolves by itself, so the tables of the part are tables of the whole.
  have part : tables ⊆ tables' := by
    intro t ht
    obtain ⟨y, hy, resolved⟩ := exists_of_mem_mapM done ht
    exact (List.of_mem_zip ((mem_zip_mapM done').mpr ⟨contained hy, resolved⟩)).2
  obtain ⟨t, resolved⟩ := exists_mapM_eq_ok.mp ⟨_, done⟩ x hx
  have ht : t ∈ tables := (List.of_mem_zip ((mem_zip_mapM done).mpr ⟨hx, resolved⟩)).2
  have same : (Plan.mk tables).boxTable t = (Plan.mk tables').boxTable t :=
    Plan.boxTable_of_subset (q := .mk tables') part unique' closed unique ht
  refine ⟨(Plan.mk tables).boxTable t, fun u => ?_, fun u => ?_, fun s => ?_⟩
  · simp only [Document.mem_zip_plan done, hx, resolved, Except.ok.injEq, exists_eq_left', true_and]
  · simp only [Document.mem_zip_plan done', contained hx, resolved, Except.ok.injEq,
      exists_eq_left', true_and, same]
  · obtain ⟨model, message⟩ := Plan.lines_infix (p := (Plan.mk tables).boxCycles)
      (List.mem_map_of_mem ht) s
    obtain ⟨model', message'⟩ := Plan.lines_infix (p := (Plan.mk tables').boxCycles)
      (List.mem_map_of_mem (part ht)) s
    rw [← same] at model' message'
    exact ⟨model, model', message, message'⟩

/-- Some tables on a map. -/
def mapDocument (tables : List Table) : Document := ⟨[⟨"GEO", [⟨"MAP", tables⟩]⟩]⟩

/-- The countries and regions of the world, which lead to nothing else. -/
def mapTables : List Table := (worldDocument.placed.drop 1).map PlacedTable.table

theorem mapDocument_plans :
    ∃ p q, (mapDocument mapTables.reverse).resolve = .ok p ∧ worldDocument.resolve = .ok q ∧
      (∀ x ∈ (mapDocument mapTables.reverse).placed, ∃ t,
        (x, t) ∈ (mapDocument mapTables.reverse).placed.zip p.tables ∧
        (x, t) ∈ worldDocument.placed.zip q.tables) ∧
      ∃ r, (mapDocument mapTables).resolve = .ok r := by
  have accepted : (mapDocument mapTables.reverse).resolve.toOption.isSome := by decide +kernel
  obtain ⟨p, resolved⟩ := Option.isSome_iff_exists.mp accepted
  rw [toOption_eq_some] at resolved
  obtain ⟨q, resolved', -⟩ := worldDocument_resolves
  have contained : (mapDocument mapTables.reverse).placed ⊆ worldDocument.placed := by
    simp only [List.subset_def]
    decide +kernel
  have schema : Schema.Reordered ⟨"MAP", mapTables.reverse⟩ ⟨"MAP", mapTables⟩ :=
    ⟨rfl, List.reverse_perm _⟩
  have database : Database.Reordered ⟨"GEO", [⟨"MAP", mapTables.reverse⟩]⟩
      ⟨"GEO", [⟨"MAP", mapTables⟩]⟩ := ⟨rfl, _, .cons schema .nil, .refl _⟩
  obtain ⟨plans, reordered⟩ := Document.resolve_local resolved
  refine ⟨p, q, resolved, resolved', fun x hx => ?_, reordered ⟨_, .cons database .nil, .refl _⟩⟩
  obtain ⟨t, here, there, -⟩ := plans resolved' contained x hx
  exact ⟨t, (here t).mpr rfl, (there t).mpr rfl⟩

end Tablecast
