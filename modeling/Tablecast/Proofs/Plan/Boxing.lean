import Mathlib.Data.List.Flatten
import Mathlib.Logic.Relation
import Tablecast.Proofs.Plan.Structure

/-!
# Boxing is membership in a cycle

The search of `Plan.Cycle` finds exactly the types that a chain of relationships leads to: what it
visits is reached by a chain, and when its frontier is empty nothing visited leads out of what is
visited. Every type that enters the frontier comes from a relationship of a type visited once, so
the fuel lasts until then.

* `reaches_iff`: the search decides `Relation.ReflTransGen p.Refers`;
* `Document.boxed_iff_on_cycle`: a relationship of a resolved document is boxed exactly if its
  target leads back to its owner, and the unboxed relationships form no cycle.
-/

namespace Tablecast.Plan

/-- A relationship leads from one type to the other. -/
def Refers (p : Plan) (source target : String) : Prop :=
  ∃ t ∈ p.tables, t.typeName = source ∧ ∃ r ∈ t.relationships, r.field.targetType = target

/-- A relationship that is not boxed leads from one type to the other. -/
def RefersUnboxed (p : Plan) (source target : String) : Prop :=
  ∃ t ∈ p.tables, t.typeName = source ∧
    ∃ r ∈ t.relationships, r.field.targetType = target ∧ r.boxed = false

theorem RefersUnboxed.refers {p : Plan} {source target : String}
    (h : p.RefersUnboxed source target) : p.Refers source target := by
  obtain ⟨t, ht, owner, r, hr, leads, -⟩ := h
  exact ⟨t, ht, owner, r, hr, leads⟩

theorem mem_targets_iff {p : Plan} (unique : (p.tables.map TablePlan.typeName).Nodup)
    {source target : String} : target ∈ p.targets source ↔ p.Refers source target := by
  unfold targets
  split
  · next absent =>
    refine ⟨fun h => absurd h List.not_mem_nil, fun ⟨t, ht, owner, _⟩ => ?_⟩
    simpa [owner] using List.find?_eq_none.mp absent t ht
  · next t found =>
    have ht := List.mem_of_find?_eq_some found
    have owner : t.typeName = source := by simpa using List.find?_some found
    constructor
    · intro h
      obtain ⟨r, hr, leads⟩ := List.mem_map.mp h
      exact ⟨t, ht, owner, r, hr, leads⟩
    · rintro ⟨t', ht', owner', r, hr, leads⟩
      have same : t' = t := List.inj_on_of_nodup_map unique ht' ht (owner'.trans owner.symm)
      exact List.mem_map.mpr ⟨r, same ▸ hr, leads⟩

/-! ## The search -/

/-- What is visited was visited before or is reached from the frontier. -/
theorem visit_sound (p : Plan) (fuel : Nat) (visited frontier : List String) {x : String}
    (h : x ∈ p.visit fuel visited frontier) :
    x ∈ visited ∨ ∃ s ∈ frontier, Relation.ReflTransGen (fun a b => b ∈ p.targets a) s x := by
  induction fuel generalizing visited frontier with
  | zero => exact .inl h
  | succ fuel ih =>
    cases frontier with
    | nil => exact .inl h
    | cons t frontier =>
      simp only [visit] at h
      split at h
      · obtain known | ⟨s, hs, chain⟩ := ih visited frontier h
        · exact .inl known
        · exact .inr ⟨s, List.mem_cons_of_mem _ hs, chain⟩
      · obtain known | ⟨s, hs, chain⟩ := ih _ _ h
        · obtain rfl | known := List.mem_cons.mp known
          · exact .inr ⟨x, List.mem_cons_self, .refl⟩
          · exact .inl known
        · obtain step | hs := List.mem_append.mp hs
          · exact .inr ⟨t, List.mem_cons_self, .head step chain⟩
          · exact .inr ⟨s, List.mem_cons_of_mem _ hs, chain⟩

/-- The relationships of the tables that are not visited. -/
def unvisited (tables : List TablePlan) (visited : List String) : Nat :=
  ((tables.filter fun t => t.typeName ∉ visited).flatMap TablePlan.relationships).length

theorem unvisited_cons_le (tables : List TablePlan) (visited : List String) (t : String) :
    unvisited tables (t :: visited) ≤ unvisited tables visited := by
  unfold unvisited
  refine (List.Sublist.flatMap ?_ _).length_le
  apply List.monotone_filter_right
  simp

/-- A visit takes the relationships of the visited type out of those still to come. -/
theorem targets_add_unvisited_le (tables : List TablePlan) (visited : List String) {t : String}
    (fresh : t ∉ visited) :
    ((Plan.mk tables).targets t).length + unvisited tables (t :: visited) ≤
      unvisited tables visited := by
  induction tables with
  | nil => simp [targets, table?, unvisited]
  | cons u tables ih =>
    by_cases owner : u.typeName = t
    · have less := unvisited_cons_le tables visited t
      subst owner
      simp only [unvisited] at less ⊢
      simp [targets, table?, fresh]
      simpa using less
    · have same : (Plan.mk (u :: tables)).targets t = (Plan.mk tables).targets t := by
        simp [targets, table?, owner]
      rw [same]
      by_cases known : u.typeName ∈ visited
      · simpa [unvisited, owner, known] using ih
      · simp [unvisited, owner, known] at ih ⊢
        omega

/-- Once the fuel covers what is still to come, nothing visited leads out of what is visited. -/
theorem visit_closed (p : Plan) (fuel : Nat) (visited frontier : List String)
    (explored : ∀ v ∈ visited, ∀ w ∈ p.targets v, w ∈ visited ∨ w ∈ frontier)
    (enough : frontier.length + unvisited p.tables visited ≤ fuel) :
    (∀ v ∈ visited ++ frontier, v ∈ p.visit fuel visited frontier) ∧
      ∀ v ∈ p.visit fuel visited frontier, ∀ w ∈ p.targets v,
        w ∈ p.visit fuel visited frontier := by
  induction fuel generalizing visited frontier with
  | zero =>
    have done : frontier = [] := List.eq_nil_of_length_eq_zero (by omega)
    subst done
    exact ⟨by simp [visit], fun v hv w hw => (explored v hv w hw).resolve_right List.not_mem_nil⟩
  | succ fuel ih =>
    cases frontier with
    | nil =>
      refine ⟨by simp [visit], fun v hv w hw => ?_⟩
      exact (explored v hv w hw).resolve_right List.not_mem_nil
    | cons t frontier =>
      simp only [List.length_cons] at enough
      simp only [visit]
      split
      · next known =>
        rw [List.contains_iff_mem] at known
        -- a type already visited only leaves the frontier
        obtain ⟨covers, closed⟩ := ih visited frontier
          (fun v hv w hw => by
            obtain hw | hw := explored v hv w hw
            · exact .inl hw
            · obtain rfl | hw := List.mem_cons.mp hw
              · exact .inl known
              · exact .inr hw)
          (by omega)
        refine ⟨fun v hv => covers v ?_, closed⟩
        simp only [List.mem_append, List.mem_cons] at hv ⊢
        obtain hv | rfl | hv := hv
        · exact .inl hv
        · exact .inl known
        · exact .inr hv
      · next fresh =>
        rw [List.contains_iff_mem] at fresh
        have less : (p.targets t).length + unvisited p.tables (t :: visited) ≤
            unvisited p.tables visited := targets_add_unvisited_le p.tables visited fresh
        obtain ⟨covers, closed⟩ := ih (t :: visited) (p.targets t ++ frontier)
          (fun v hv w hw => by
            obtain rfl | hv := List.mem_cons.mp hv
            · exact .inr (List.mem_append_left _ hw)
            · obtain hw | hw := explored v hv w hw
              · exact .inl (List.mem_cons_of_mem _ hw)
              · obtain rfl | hw := List.mem_cons.mp hw
                · exact .inl List.mem_cons_self
                · exact .inr (List.mem_append_right _ hw))
          (by rw [List.length_append]; omega)
        refine ⟨fun v hv => covers v ?_, closed⟩
        simp only [List.mem_append, List.mem_cons] at hv ⊢
        obtain hv | rfl | hv := hv
        · exact .inl (.inr hv)
        · exact .inl (.inl rfl)
        · exact .inr (.inr hv)

theorem reaches_iff {p : Plan} (unique : (p.tables.map TablePlan.typeName).Nodup)
    {source target : String} :
    p.reaches source target = true ↔ Relation.ReflTransGen p.Refers source target := by
  have step : (fun a b => b ∈ p.targets a) = p.Refers := by
    funext a b
    exact propext (mem_targets_iff unique)
  rw [reaches, List.contains_iff_mem, reachable]
  constructor
  · intro h
    obtain h | ⟨s, hs, chain⟩ := visit_sound p _ _ _ h
    · exact absurd h List.not_mem_nil
    · rw [List.mem_singleton.mp hs, step] at chain
      exact chain
  · intro chain
    obtain ⟨covers, closed⟩ := visit_closed p (p.relationshipCount + 1) [] [source] (by simp)
      (by simp [unvisited, relationshipCount, Nat.add_comm])
    induction chain with
    | refl => exact covers source (by simp)
    | tail _ leads ih => exact closed _ ih _ ((mem_targets_iff unique).mpr leads)

/-! ## Boxed relationships -/

theorem boxCycles_refers (p : Plan) : p.boxCycles.Refers = p.Refers := by
  funext source target
  simp [Refers, boxCycles, boxTable]

theorem boxCycles_boxed_iff {p : Plan} (unique : (p.tables.map TablePlan.typeName).Nodup)
    {t : TablePlan} (ht : t ∈ p.boxCycles.tables) {r : RelationshipPlan}
    (hr : r ∈ t.relationships) :
    r.boxed = true ↔ Relation.ReflTransGen p.boxCycles.Refers r.field.targetType t.typeName := by
  obtain ⟨s, -, rfl⟩ := List.mem_map.mp ht
  obtain ⟨r, -, rfl⟩ := List.mem_map.mp hr
  rw [boxCycles_refers]
  exact reaches_iff unique

/-- A cycle of unboxed relationships would begin with one whose target leads back to its owner. -/
theorem unboxed_acyclic {p : Plan}
    (boxed : ∀ t ∈ p.tables, ∀ r ∈ t.relationships,
      Relation.ReflTransGen p.Refers r.field.targetType t.typeName → r.boxed = true)
    (typeName : String) : ¬ Relation.TransGen p.RefersUnboxed typeName typeName := by
  intro cycle
  obtain ⟨next, ⟨t, ht, owner, r, hr, leads, unboxed⟩, back⟩ :=
    Relation.TransGen.head'_iff.mp cycle
  have chain : Relation.ReflTransGen p.Refers r.field.targetType t.typeName := by
    rw [leads, owner]
    exact Relation.ReflTransGen.mono (fun _ _ => RefersUnboxed.refers) _ _ back
  rw [boxed t ht r hr chain] at unboxed
  cases unboxed

end Tablecast.Plan

namespace Tablecast

/-- **Exactly the relationships on cycles are boxed.** A relationship of a resolved document is
boxed if and only if some chain of relationships, possibly empty, leads from its target back to its
owner. So no message contains itself unboxed, and every boxed relationship closes a cycle. -/
theorem Document.boxed_iff_on_cycle {d : Document} {p : Plan} (h : d.resolve = .ok p) :
    (∀ t ∈ p.tables, ∀ r ∈ t.relationships,
      (r.boxed = true ↔ Relation.ReflTransGen p.Refers r.field.targetType t.typeName)) ∧
    (∀ typeName, ¬ Relation.TransGen p.RefersUnboxed typeName typeName) ∧
    (∀ t ∈ p.tables, ∀ r ∈ t.relationships, r.boxed = true →
      p.Refers t.typeName r.field.targetType ∧
        Relation.ReflTransGen p.Refers r.field.targetType t.typeName) := by
  have unique := (Document.wellFormed_of_resolve h).types_nodup
  obtain ⟨-, tables, -, rfl⟩ := Document.resolve_eq_ok.mp h
  replace unique : (tables.map TablePlan.typeName).Nodup := by
    simpa [Plan.boxCycles, Function.comp_def] using unique
  have exact_boxes : ∀ t ∈ (Plan.mk tables).boxCycles.tables, ∀ r ∈ t.relationships, _ :=
    fun t ht r hr => Plan.boxCycles_boxed_iff unique ht hr
  refine ⟨exact_boxes, Plan.unboxed_acyclic fun t ht r hr => (exact_boxes t ht r hr).mpr, ?_⟩
  intro t ht r hr boxed
  exact ⟨⟨t, ht, rfl, r, hr, rfl⟩, (exact_boxes t ht r hr).mp boxed⟩

theorem Plan.mem_references {p : Plan} {owner target : String} {boxed : Bool} :
    (owner, target, boxed) ∈ p.references ↔ ∃ t ∈ p.tables, ∃ r ∈ t.relationships,
      t.typeName = owner ∧ r.field.targetType = target ∧ r.boxed = boxed := by
  simp [Plan.references]

theorem worldDocument_boxes : ∃ p, worldDocument.resolve = .ok p ∧
    Relation.ReflTransGen p.Refers "Region" "Country" ∧
    ¬ Relation.ReflTransGen p.Refers "Country" "Customer" := by
  obtain ⟨p, resolved, references⟩ := worldDocument_resolves
  obtain ⟨boxed_iff, -, -⟩ := Document.boxed_iff_on_cycle resolved
  have capital : ("Country", "Region", true) ∈ p.references := by simp [references]
  have home : ("Customer", "Country", false) ∈ p.references := by simp [references]
  obtain ⟨t, ht, r, hr, owner, target, boxed⟩ := Plan.mem_references.mp capital
  obtain ⟨u, hu, s, hs, owner', target', unboxed⟩ := Plan.mem_references.mp home
  refine ⟨p, resolved, ?_, fun chain => ?_⟩
  · simpa [owner, target] using (boxed_iff t ht r hr).mp boxed
  · have boxed' := (boxed_iff u hu s hs).mpr (by simpa [owner', target'] using chain)
    rw [unboxed] at boxed'
    cases boxed'

end Tablecast
