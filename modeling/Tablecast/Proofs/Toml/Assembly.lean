import Tablecast.Proofs.Toml.Lines

/-!
# Assignments under separate keys

An assignment reads and changes what stands under one key at the top of a document, however deep
its path leads. Assignments therefore do not see what others do under other keys: those under some
of the keys make there what they make on their own, wherever the others stand between them.

* `actsOn_assign`: one assignment acts under one key;
* `assignAll_apart`: all of them, told apart by their keys;
* `assignAll_fresh`: assignments to different keys of their own.
-/

namespace Tablecast.Toml

/-! ## One entry at a time -/

/-- Puts an item under a key, in place of the one that is there. -/
def put (key : String) (item : Item) (members : Members) : Members :=
  if (members.lookup key).isSome then replace key item members else members ++ [(key, item)]

/-- The change reads and makes what stands under one key, and nothing else. -/
def ActsOn (key : String) (change : Members → Option Members) : Prop :=
  ∃ entry : Option Item → Option Item,
    ∀ members, change members = (entry (members.lookup key)).map (put key · members)

theorem put_of_none {key : String} {members : Members} (h : members.lookup key = none)
    (item : Item) : put key item members = members ++ [(key, item)] := by
  simp [put, h]

theorem put_of_some {key : String} {members : Members} {old : Item}
    (h : members.lookup key = some old) (item : Item) :
    put key item members = replace key item members := by
  simp [put, h]

theorem actsOn_add (key : String) (item : Item) : ActsOn key (add key item) := by
  refine ⟨fun old => if old.isSome then none else some item, fun members => ?_⟩
  cases found : members.lookup key with
  | none => simp [add, found, put_of_none found]
  | some old => simp [add, found]

/-- What descending makes of the item under the first key. -/
def descendInto (made : Origin) (change : Origin → Members → Option Members) (path : List String) :
    Option Item → Option Item
  | none => (descend made change path made []).map (.table made)
  | some (.table origin inner) =>
    if made = .dotted ∧ origin = .header then none
    else (descend made change path origin inner).map (.table origin)
  | some (.tables (last :: earlier)) =>
    (descend made change path .header last).map fun last => .tables (last :: earlier)
  | some _ => none

/-- Descending from a key acts on what stands under it. -/
theorem actsOn_descend (made : Origin) (change : Origin → Members → Option Members) (key : String)
    (path : List String) (origin : Origin) :
    ActsOn key (descend made change (key :: path) origin) := by
  refine ⟨descendInto made change path, fun members => ?_⟩
  rw [descend]
  split
  case h_1 found =>
    rw [found]
    cases inner : descend made change path made [] <;>
      simp [descendInto, inner, put_of_none found]
  case h_2 origin inner found =>
    rw [found]
    by_cases barred : made = .dotted ∧ origin = .header
    · simp [descendInto, barred]
    · rw [if_neg barred]
      cases deeper : descend made change path origin inner <;>
        simp [descendInto, barred, deeper, put_of_some found]
  case h_3 last earlier found =>
    rw [found]
    cases deeper : descend made change path .header last <;>
      simp [descendInto, deeper, put_of_some found]
  case h_4 other noTable noTables found =>
    rw [found]
    cases other with
    | table origin inner => exact absurd rfl (noTable origin inner)
    | tables elements =>
      cases elements with
      | nil => rfl
      | cons last earlier => exact absurd rfl (noTables last earlier)
    | _ => rfl

/-- The key at the top of a document where a path begins. -/
def KeyPath.first (p : KeyPath) : String := p.before.headD p.last

/-- What one assignment does to the members of a document. -/
def assignTo (members : Members) (a : KeyPath × Item) : Option Members :=
  assign a.1.before a.1.last a.2 members

/-- **An assignment acts under the key where its path begins.** -/
theorem actsOn_assign (a : KeyPath × Item) : ActsOn a.1.first (assignTo · a) := by
  obtain ⟨⟨before, last⟩, item⟩ := a
  cases before with
  | nil => exact actsOn_add last item
  | cons key path => exact actsOn_descend _ _ key path .header

/-! ## Some of the entries -/

section
variable {keep : String → Bool}

/-- The members under the keys to keep. -/
def keeping (keep : String → Bool) (members : Members) : Members := members.filter fun e => keep e.1

theorem lookup_keeping {key : String} (kept : keep key = true) (members : Members) :
    (keeping keep members).lookup key = members.lookup key := by
  induction members with
  | nil => rfl
  | cons e members ih =>
    obtain ⟨k, item⟩ := e
    unfold keeping at ih ⊢
    by_cases same : key = k
    · subst same
      simp [kept]
    · have other : (key == k) = false := beq_false_of_ne same
      rw [List.lookup_cons, other, ← ih, List.filter_cons]
      split
      · rw [List.lookup_cons, other]
      · rfl

theorem keeping_replace (key : String) (item : Item) (members : Members) :
    keeping keep (replace key item members) = replace key item (keeping keep members) := by
  unfold keeping replace
  rw [List.filter_map]
  congr 2
  funext e
  by_cases same : e.1 = key <;> simp [same]

theorem replace_of_absent {key : String} {members : Members} (absent : ∀ e ∈ members, e.1 ≠ key)
    (item : Item) : replace key item members = members :=
  (List.map_congr_left fun e member => if_neg (absent e member)).trans (List.map_id members)

theorem keeping_put_kept {key : String} (kept : keep key = true) (item : Item)
    (members : Members) :
    keeping keep (put key item members) = put key item (keeping keep members) := by
  unfold put
  rw [lookup_keeping kept]
  split
  · exact keeping_replace key item members
  · simp [keeping, kept]

theorem keeping_put_dropped {key : String} (dropped : keep key = false) (item : Item)
    (members : Members) : keeping keep (put key item members) = keeping keep members := by
  unfold put
  split
  · rw [keeping_replace]
    refine replace_of_absent (fun e member same => ?_) item
    have kept : keep e.1 = true := (List.mem_filter.mp member).2
    rw [same, dropped] at kept
    cases kept
  · simp [keeping, dropped]

variable {key : String} {change : Members → Option Members} {members : Members}

/-- A change under a key to keep does not see the other entries. -/
theorem ActsOn.keeping_kept (acts : ActsOn key change) (kept : keep key = true) :
    (change members).map (keeping keep) = change (keeping keep members) := by
  obtain ⟨entry, same⟩ := acts
  rw [same, same, lookup_keeping kept, Option.map_map]
  exact Option.map_congr fun item _ => keeping_put_kept kept item members

/-- A change under another key leaves them as they are. -/
theorem ActsOn.keeping_dropped (acts : ActsOn key change) (dropped : keep key = false)
    {changed : Members} (h : change members = some changed) :
    keeping keep changed = keeping keep members := by
  obtain ⟨entry, same⟩ := acts
  rw [same] at h
  obtain ⟨item, -, rfl⟩ := Option.map_eq_some_iff.mp h
  exact keeping_put_dropped dropped item members

end

/-! ## Runs of assignments -/

/-- Assigns one item after the other. -/
def assignAll (assigned : List (KeyPath × Item)) (members : Members) : Option Members :=
  assigned.foldlM assignTo members

theorem membersOf?_statementsOf (assigned : List (KeyPath × Item)) :
    membersOf? (statementsOf assigned) = assignAll assigned [] := by
  have run : ∀ members, (statementsOf assigned).foldlM State.step ⟨members, []⟩ =
      (assignAll assigned members).map fun root => ⟨root, []⟩ := by
    induction assigned with
    | nil => exact fun _ => rfl
    | cons a assigned ih =>
      intro members
      rw [statementsOf, List.map_cons, List.foldlM_cons, assignAll, List.foldlM_cons]
      change (State.step _ _).bind _ = Option.map _ ((assignTo members a).bind _)
      have step : State.step ⟨members, []⟩ (.assignment a.1 a.2) =
          (assignTo members a).map fun root => ⟨root, []⟩ := by
        rw [State.step, descend, Option.map_eq_bind]
        rfl
      rw [step]
      cases first : assignTo members a with
      | none => rfl
      | some changed => exact ih changed
  rw [membersOf?, run, Option.map_map]
  exact congrFun Option.map_id _

/-- **Assignments do not meet those under other keys.** If those under the keys to keep fit
together, and so do the rest, then all of them do, in whatever order they stand. -/
theorem assignAll_apart (keep : String → Bool) (assigned : List (KeyPath × Item))
    (members : Members) {kept rest : Members}
    (hkept : assignAll (assigned.filter fun a => keep a.1.first) (keeping keep members) = some kept)
    (hrest : assignAll (assigned.filter fun a => !keep a.1.first)
      (keeping (fun key => !keep key) members) = some rest) :
    ∃ all, assignAll assigned members = some all ∧ keeping keep all = kept := by
  induction assigned generalizing members with
  | nil => exact ⟨members, rfl, Option.some.inj hkept⟩
  | cons a assigned ih =>
    rw [List.filter_cons] at hkept hrest
    cases side : keep a.1.first with
    | true =>
      rw [if_pos side] at hkept
      rw [if_neg (by simp [side])] at hrest
      obtain ⟨_, first, later⟩ := Option.bind_eq_some_iff.mp hkept
      rw [← (actsOn_assign a).keeping_kept side] at first
      obtain ⟨changed, made, rfl⟩ := Option.map_eq_some_iff.mp first
      rw [← (actsOn_assign a).keeping_dropped (by simp [side]) made] at hrest
      obtain ⟨all, run, same⟩ := ih changed later hrest
      exact ⟨all, Option.bind_eq_some_iff.mpr ⟨changed, made, run⟩, same⟩
    | false =>
      rw [if_neg (by simp [side])] at hkept
      rw [if_pos (by simp [side])] at hrest
      obtain ⟨_, first, later⟩ := Option.bind_eq_some_iff.mp hrest
      rw [← (actsOn_assign a).keeping_kept (by simp [side])] at first
      obtain ⟨changed, made, rfl⟩ := Option.map_eq_some_iff.mp first
      rw [← (actsOn_assign a).keeping_dropped side made] at hkept
      obtain ⟨all, run, same⟩ := ih changed hkept later
      exact ⟨all, Option.bind_eq_some_iff.mpr ⟨changed, made, run⟩, same⟩

/-- Assignments to different new keys put the items behind each other. -/
theorem assignAll_fresh {entries members : Members}
    (fresh : ((members ++ entries).map Prod.fst).Nodup) :
    assignAll (entries.map fun e => (⟨[], e.1⟩, e.2)) members = some (members ++ entries) := by
  induction entries generalizing members with
  | nil => rw [List.append_nil]; rfl
  | cons e entries ih =>
    have absent : members.lookup e.1 = none := by
      rw [List.lookup_eq_none_iff]
      intro e' member
      rw [List.map_append, List.map_cons] at fresh
      have apart := (List.nodup_append.mp fresh).2.2 _ (List.mem_map_of_mem member) _
        List.mem_cons_self
      simpa using apart.symm
    have step : assignTo members (⟨[], e.1⟩, e.2) = some (members ++ [e]) := by
      simp [assignTo, assign, descend, add, absent]
    have later := @ih (members ++ [e]) (by simpa using fresh)
    rw [List.append_assoc, List.singleton_append] at later
    exact Option.bind_eq_some_iff.mpr ⟨_, step, later⟩

end Tablecast.Toml
