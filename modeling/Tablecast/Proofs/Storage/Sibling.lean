import Mathlib.Data.List.TakeWhile
import Tablecast.Proofs.Storage.Footprint
import Tablecast.Proofs.Text.Blank

/-!
# The files beside a file

The path of a sibling is put together from a path's text. It leads where the path leads, but for
the last name, which has the extension added.

* `walk_splitName`: a path leads through the directory in front of its last name;
* `slotOf_fileName`: where a path and its siblings lead.
-/

namespace Tablecast.Storage

open FileTree (follow)

/-! ## Walks -/

/-- Where the names between the slashes of a text lead from a location. -/
def walk (l : Location) (body : List Char) : Location :=
  ((Text.pieces (· == '/') body).filter (· ≠ [])).foldl (fun k name => follow k (.ofList name)) l

theorem destination_eq_walk (t : FileTree) (path : String) :
    t.destination path = walk (t.start path) path.toList := by
  simp only [FileTree.destination, pathNames, walk, List.foldl_map]

@[simp] theorem walk_nil (l : Location) : walk l [] = l := rfl

@[simp] theorem walk_point (l : Location) : walk l ['.'] = l := rfl

theorem walk_append (l : Location) (a b : List Char) :
    walk l (a ++ '/' :: b) = walk (walk l a) b := by
  have cut : Text.pieces (· == '/') (a ++ '/' :: b) =
      Text.pieces (· == '/') a ++ Text.pieces (· == '/') b := Text.pieces_append_cons rfl
  rw [walk, cut, List.filter_append, List.foldl_append]
  rfl

@[simp] theorem walk_slash_left (l : Location) (b : List Char) : walk l ('/' :: b) = walk l b :=
  walk_append l [] b

@[simp] theorem walk_slash_right (l : Location) (a : List Char) : walk l (a ++ ['/']) = walk l a :=
  walk_append l a []

/-- A name that a file may have. -/
structure IsName (name : String) : Prop where
  nonempty : name ≠ ""
  notPoint : name ≠ "."
  notPoints : name ≠ ".."
  single : '/' ∉ name.toList

theorem walk_name {name : String} (h : IsName name) (l : Location) :
    walk l name.toList = l ++ [name] := by
  have whole : ∀ c ∈ name.toList, (c == '/') = false := by
    intro c m
    rw [beq_eq_false_iff_ne]
    rintro rfl
    exact h.single m
  have step : walk l name.toList = follow l name := by
    simp [walk, Text.pieces_eq_singleton whole, h.nonempty]
  rw [step, follow, if_neg h.notPoint, if_neg h.notPoints]

theorem IsName.extend {name extension : String} (h : IsName name)
    (single : '/' ∉ extension.toList) (nonempty : extension ≠ "") :
    IsName (name ++ "." ++ extension) := by
  have long : 3 ≤ (name ++ "." ++ extension).toList.length := by
    have := List.length_pos_of_ne_nil (mt String.toList_eq_nil_iff.mp h.nonempty)
    have := List.length_pos_of_ne_nil (mt String.toList_eq_nil_iff.mp nonempty)
    simp only [String.toList_append, List.length_append]
    have : ".".toList.length = 1 := rfl
    omega
  refine ⟨?_, ?_, ?_, ?_⟩
  · intro same
    rw [same] at long
    exact absurd long (by decide)
  · intro same
    rw [same] at long
    exact absurd long (by decide)
  · intro same
    rw [same] at long
    exact absurd long (by decide)
  · simp [h.single, single]

/-! ## The last name of a path -/

section Names

open Tablecast.Path

theorem walk_dropTrail (l : Location) (r : List Char) :
    walk l (dropTrail r).reverse = walk l r.reverse := by
  fun_induction dropTrail r with
  | case1 rest ih => rw [ih, List.reverse_cons, walk_slash_right]
  | case2 => rfl
  | case3 rest ih =>
    have cut : ('.' :: '/' :: rest).reverse = rest.reverse ++ '/' :: ['.'] := by simp
    rw [ih, cut, walk_append, walk_point]
  | case4 => rfl

theorem dropTrail_suffix (r : List Char) : dropTrail r <:+ r := by
  fun_induction dropTrail r with
  | case1 rest ih => exact ih.trans (List.suffix_cons _ _)
  | case2 => exact List.nil_suffix
  | case3 rest ih => exact ih.trans ((List.suffix_cons _ _).trans (List.suffix_cons _ _))
  | case4 => exact List.suffix_rfl

/-- A name goes on to the next slash or to the end. -/
theorem dropWhile_slash (r : List Char) :
    r.dropWhile (· ≠ '/') = [] ∨ ∃ rest, r.dropWhile (· ≠ '/') = '/' :: rest := by
  induction r with
  | nil => exact .inl rfl
  | cons c r ih =>
    by_cases slash : c = '/'
    · exact .inr ⟨r, by rw [slash]; rfl⟩
    · rw [List.dropWhile_cons_of_pos (by simpa using slash)]
      exact ih

theorem takeWhile_slash {r name behind : List Char} (h : r.takeWhile (· ≠ '/') = name)
    (h' : r.dropWhile (· ≠ '/') = behind) : r = name ++ behind := by
  rw [← h, ← h', List.takeWhile_append_dropWhile]

/-- The last name is not a single point. -/
theorem splitName_ne_point (body : List Char) : (splitName body).1 ≠ ['.'] := by
  unfold splitName
  generalize body.reverse = r
  fun_induction dropTrail r with
  | case1 rest ih => exact ih
  | case2 => simp
  | case3 rest ih => exact ih
  | case4 r _ notPoint notTrail =>
    intro point
    rcases dropWhile_slash r with behind | ⟨rest, behind⟩
    · exact notPoint (takeWhile_slash point behind)
    · exact notTrail rest (takeWhile_slash point behind)

theorem slash_not_mem_splitName (body : List Char) : '/' ∉ (splitName body).1 := by
  intro h
  have := List.mem_takeWhile_imp h
  simp at this

/-- The part of a body in front of its last name is a prefix of it. -/
theorem splitName_prefix (body : List Char) : (splitName body).2.reverse <+: body := by
  rw [← List.reverse_suffix, List.reverse_reverse]
  exact (dropTrail_suffix _).trans ((List.dropWhile_suffix _).trans (dropTrail_suffix _))

theorem walk_lastName (l : Location) (r : List Char) :
    walk l r.reverse =
      walk (walk l (r.dropWhile (· ≠ '/')).reverse) (r.takeWhile (· ≠ '/')).reverse := by
  rcases dropWhile_slash r with behind | ⟨rest, behind⟩
  · have whole := takeWhile_slash rfl behind
    rw [List.append_nil] at whole
    rw [behind, ← whole, List.reverse_nil, walk_nil]
  · have cut : r.reverse = rest.reverse ++ '/' :: (r.takeWhile (· ≠ '/')).reverse := by
      have := congrArg List.reverse (takeWhile_slash rfl behind)
      simpa using this
    rw [cut, walk_append, behind, List.reverse_cons, walk_slash_right]

/-- A body leads through what stands in front of its last name. -/
theorem walk_splitName (l : Location) (body : List Char) :
    walk l body = walk (walk l (splitName body).2.reverse) (splitName body).1.reverse := by
  have trimmed := walk_dropTrail l body.reverse
  rw [List.reverse_reverse] at trimmed
  rw [← trimmed, walk_lastName, splitName, walk_dropTrail]

/-- What is kept at the start of a path leads nowhere. -/
theorem walk_splitHead (cs : List Char) {x : List Char} (part : x <+: (splitHead cs).2)
    (l : Location) : walk l ((splitHead cs).1 ++ x) = walk l x := by
  unfold splitHead at part ⊢
  split at part
  · exact walk_slash_left l x
  · rw [List.prefix_nil.mp part]
    rfl
  · rcases List.prefix_cons_iff.mp part with rfl | ⟨rest, rfl, -⟩
    · rfl
    · exact (walk_append l ['.'] rest).trans (walk_slash_left l rest).symm
  · rfl

theorem splitHead_append (cs : List Char) : (splitHead cs).1 ++ (splitHead cs).2 = cs := by
  unfold splitHead
  split <;> rfl

/-- The start of a path decides whether it starts at the root. -/
theorem absolute_iff (cs : List Char) {x : List Char} (part : x <+: (splitHead cs).2) :
    ['/'] <+: (splitHead cs).1 ++ x ↔ ['/'] <+: cs := by
  unfold splitHead at part ⊢
  split at part
  · simp
  · simp
  · simp
  · next relative _ _ =>
    have start : ¬ ['/'] <+: cs := by
      rintro ⟨rest, rfl⟩
      exact relative rest rfl
    exact iff_of_false (fun h => start (h.trans part)) start

theorem fileName?_eq_some {path name : String} (h : fileName? path = some name) :
    (splitName (splitHead path.toList).2).1.reverse = name.toList ∧ IsName name := by
  unfold fileName? at h
  split at h
  · cases h
  · cases h
  · next empty dots =>
    cases h
    rw [String.toList_ofList]
    refine ⟨rfl, fun same => empty ?_, fun same => ?_, fun same => dots ?_, ?_⟩
    · simpa using congrArg String.toList same
    · refine splitName_ne_point (splitHead path.toList).2 ?_
      simpa using congrArg (List.reverse ∘ String.toList) same
    · simpa using congrArg String.toList same
    · simpa using slash_not_mem_splitName (splitHead path.toList).2

theorem parent?_of_fileName? {path name : String} (h : fileName? path = some name) :
    parent? path = some (.ofList ((splitHead path.toList).1 ++
      (splitName (splitHead path.toList).2).2.reverse)) := by
  obtain ⟨last, name⟩ := fileName?_eq_some h
  have named : (splitName (splitHead path.toList).2).1 ≠ [] := by
    intro none
    rw [none, List.reverse_nil] at last
    exact name.nonempty (String.toList_eq_nil_iff.mp last.symm)
  unfold parent?
  dsimp only
  split
  · next split => rw [split] at named; exact absurd rfl named
  · next split => rw [split]

/-- The part of a sibling's path that stands for the directory. -/
def stem (parent : String) : String :=
  if parent = "" || parent.endsWith "/" then parent else parent ++ "/"

theorem endsWith_slash {s : String} : s.endsWith "/" = true ↔ ['/'] <:+ s.toList := by
  rw [String.endsWith_eq_endsWith_toSlice, String.Slice.endsWith_string_iff, String.copy_toSlice]
  rfl

/-- A name that is put behind a directory's path leads on from the directory. -/
theorem walk_behind (l : Location) (parent : String) (name : List Char) :
    walk l ((stem parent).toList ++ name) = walk (walk l parent.toList) name := by
  unfold stem
  split
  next whole =>
    rw [Bool.or_eq_true, decide_eq_true_eq, endsWith_slash] at whole
    rcases whole with rfl | ⟨front, split⟩
    · rfl
    · rw [← split, List.append_assoc, walk_slash_right]
      exact walk_append l front name
  next => simpa using walk_append l parent.toList name

/-- It does not change where the path starts. -/
theorem absolute_behind {parent : String} {name : List Char} (relative : ¬ ['/'] <+: name) :
    ['/'] <+: (stem parent).toList ++ name ↔ ['/'] <+: parent.toList := by
  unfold stem
  by_cases empty : parent = ""
  · subst empty
    exact iff_of_false relative (by simp)
  · obtain ⟨c, rest, text⟩ := List.exists_cons_of_ne_nil (mt String.toList_eq_nil_iff.mp empty)
    split
    · simp [text]
    · simp [text]

theorem sibling?_eq {path name parent : String} (named : fileName? path = some name)
    (inside : parent? path = some parent) (extension : String) :
    sibling? path extension = some (stem parent ++ name ++ "." ++ extension) := by
  rw [sibling?, named, inside]
  rfl

theorem fileName?_of_sibling? {path extension sibling : String}
    (h : sibling? path extension = some sibling) : ∃ name, fileName? path = some name := by
  unfold sibling? at h
  split at h
  · next named _ => exact ⟨_, named⟩
  · cases h

end Names

/-! ## Slots -/

/-- A place for a file and its siblings: a directory and the file's name. -/
structure Slot where
  directory : Location
  name : String

namespace Slot

def output (s : Slot) : Location := s.directory ++ [s.name]

def beside (s : Slot) (extension : String) : Location :=
  s.directory ++ [s.name ++ "." ++ extension]

theorem output_inj {s s' : Slot} : s.output = s'.output ↔ s = s' := by
  cases s; cases s'
  simp [output]

theorem beside_inj {s s' : Slot} {e : String} : s.beside e = s'.beside e ↔ s = s' := by
  cases s; cases s'
  simp [beside]

/-- A name beside a file is longer than the file's. -/
theorem length_of_beside {s s' : Slot} {e : String} (h : s.output = s'.beside e) :
    s'.name.length < s.name.length := by
  have names : s.name = s'.name ++ "." ++ e := (List.append_singleton_inj.mp h).2
  rw [names, String.length_append, String.length_append]
  have : ".".length = 1 := rfl
  omega

theorem output_ne_beside (s : Slot) (e : String) : s.output ≠ s.beside e :=
  fun same => Nat.lt_irrefl _ (length_of_beside same)

/-- A file does not lie beside one that lies beside it. -/
theorem output_ne_beside_of_beside {s s' : Slot} {e : String} (h : s.output = s'.beside e)
    (e' : String) : s'.output ≠ s.beside e' :=
  fun same => Nat.lt_asymm (length_of_beside h) (length_of_beside same)

theorem tmp_ne_bak (s s' : Slot) : s.beside "tmp" ≠ s'.beside "bak" := by
  intro same
  have ends := congrArg (fun l : Location => (l.getLast?.getD "").toList.getLast?) same
  simp [beside] at ends

end Slot

/-- A path leads to a slot, and its siblings to the places beside it. -/
structure SlotOf (t : FileTree) (path : String) (s : Slot) : Prop where
  output : t.destination path = s.output
  beside : ∀ extension, extension ≠ "" → '/' ∉ extension.toList →
    t.beside path extension = [s.beside extension]

theorem start_congr (t : FileTree) {path path' : String}
    (same : ['/'] <+: path.toList ↔ ['/'] <+: path'.toList) : t.start path = t.start path' := by
  have roots (p : String) : p.startsWith "/" = true ↔ ['/'] <+: p.toList :=
    String.startsWith_string_iff
  unfold FileTree.start
  simp only [roots, same]

/-- A path leads where its body does, as what is kept at its start leads nowhere. -/
theorem destination_eq_walk_body (t : FileTree) (path : String) :
    t.destination path = walk (t.start path) (Path.splitHead path.toList).2 :=
  calc t.destination path
      = walk (t.start path) path.toList := destination_eq_walk t path
    _ = walk (t.start path) (Path.splitHead path.toList).2 := by
      conv => lhs; rw [← splitHead_append path.toList]
      exact walk_splitHead path.toList List.prefix_rfl _

/-- A path with the name of a file leads to a slot of that name in the directory of the path. -/
theorem slotOf_fileName (t : FileTree) {path name : String}
    (named : Path.fileName? path = some name) :
    SlotOf t path
      ⟨walk (t.start path) (Path.splitName (Path.splitHead path.toList).2).2.reverse, name⟩ := by
  obtain ⟨last, isName⟩ := fileName?_eq_some named
  have part := splitName_prefix (Path.splitHead path.toList).2
  have directory (l : Location) := walk_splitHead path.toList part l
  refine ⟨?_, ?_⟩
  · rw [destination_eq_walk_body, walk_splitName, last, walk_name isName]
    rfl
  · intro extension extended single
    have sibling := sibling?_eq named (parent?_of_fileName? named) extension
    generalize parent : String.ofList ((Path.splitHead path.toList).1 ++
      (Path.splitName (Path.splitHead path.toList).2).2.reverse) = parentPath at sibling
    have text : (stem parentPath ++ name ++ "." ++ extension).toList =
        (stem parentPath).toList ++ (name ++ "." ++ extension).toList := by
      simp
    have extendedName := isName.extend single extended
    have relative : ¬ ['/'] <+: (name ++ "." ++ extension).toList :=
      fun start => extendedName.single (start.subset List.mem_cons_self)
    have start : t.start (stem parentPath ++ name ++ "." ++ extension) = t.start path := by
      apply start_congr
      rw [text, absolute_behind relative, ← parent, String.toList_ofList]
      exact absolute_iff path.toList part
    rw [beside_eq sibling, destination_eq_walk, start, text, walk_behind, ← parent,
      String.toList_ofList, directory, walk_name extendedName]
    rfl

theorem exists_slot (t : FileTree) {path name : String} (named : Path.fileName? path = some name) :
    ∃ s, SlotOf t path s := ⟨_, slotOf_fileName t named⟩

theorem SlotOf.of_start {t t' : FileTree} {path : String} {s : Slot} (h : SlotOf t path s)
    (start : t'.workingDirectory = t.workingDirectory) : SlotOf t' path s := by
  have same : t'.destination = t.destination := funext (destination_eq start)
  refine ⟨(congrFun same path).trans h.output, fun e extended single => ?_⟩
  rw [← h.beside e extended single, FileTree.beside, FileTree.beside, same]

end Tablecast.Storage
