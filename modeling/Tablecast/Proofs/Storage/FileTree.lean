import Tablecast.Proofs.Keyed
import Tablecast.Storage.FileTree

/-!
# What an operation leaves alone

An operation on a file tree concerns the files at one or two locations. Directories are made and
never taken away, so a path that leads somewhere leads there from then on.

* `FileTree.Within`: nothing but the files in an area has changed;
* `FileTree.Within.leads`: where a path leads does not change;
* `FileTree.write?_eq_some`, `FileTree.rename?_eq_some`, `FileTree.remove?_eq_some`,
  `FileTree.within_makeDirectories`: what each operation does, and where.
-/

namespace Tablecast.Storage.FileTree

/-- The content of the file at a location. -/
def file? (t : FileTree) (l : Location) : Option ByteArray :=
  match t.find? l with
  | some (.file content) => some content
  | _ => none

/-- Nothing has changed but files in the area, and directories that were made. -/
structure Within (area : List Location) (t t' : FileTree) : Prop where
  workingDirectory : t'.workingDirectory = t.workingDirectory
  directory : ∀ l, t.isDirectory l = true → t'.isDirectory l = true
  file : ∀ l ∉ area, t'.file? l = t.file? l

namespace Within

theorem refl (area : List Location) (t : FileTree) : Within area t t :=
  ⟨rfl, fun _ h => h, fun _ _ => rfl⟩

theorem trans {area : List Location} {t t' t'' : FileTree} (h : Within area t t')
    (h' : Within area t' t'') : Within area t t'' :=
  ⟨h'.workingDirectory.trans h.workingDirectory, fun l hl => h'.directory l (h.directory l hl),
    fun l hl => (h'.file l hl).trans (h.file l hl)⟩

theorem mono {area area' : List Location} {t t' : FileTree} (h : Within area t t')
    (sub : area ⊆ area') : Within area' t t' :=
  ⟨h.workingDirectory, h.directory, fun l hl => h.file l fun inside => hl (sub inside)⟩

end Within

/-! ## One location -/

theorem file?_eq_some {t : FileTree} {l : Location} {content : ByteArray} :
    t.file? l = some content ↔ t.find? l = some (.file content) := by
  unfold file?
  cases t.find? l with
  | none => simp
  | some n => cases n <;> simp

theorem isDirectory_of_file? {t : FileTree} {l : Location} {content : ByteArray}
    (h : t.file? l = some content) : t.isDirectory l = false := by
  rw [isDirectory, file?_eq_some.mp h]

theorem ne_nil_of_isDirectory {t : FileTree} {l : Location} (h : t.isDirectory l = false) :
    l ≠ [] := by
  rintro rfl
  simp [isDirectory, find?] at h

theorem find?_put {t : FileTree} {l : Location} (inside : l ≠ []) (n : Node) (k : Location) :
    (t.put l n).find? k = if k = l then some n else t.find? k := by
  simp only [find?, put, Keyed.lookup_insert]
  by_cases same : k = l
  · subst same
    rw [if_neg inside, if_pos rfl, if_pos rfl]
  · rw [if_neg same, if_neg same]

theorem find?_erase {t : FileTree} {l : Location} (inside : l ≠ []) (k : Location) :
    (t.erase l).find? k = if k = l then none else t.find? k := by
  simp only [find?, erase, Keyed.lookup_erase]
  by_cases same : k = l
  · subst same
    rw [if_neg inside, if_pos rfl, if_pos rfl]
  · rw [if_neg same, if_neg same]

/-- A change at a location where no directory is takes no directory away. -/
theorem within_of_find? {t t' : FileTree} {l : Location}
    (start : t'.workingDirectory = t.workingDirectory) (free : t.isDirectory l = false)
    (other : ∀ k ≠ l, t'.find? k = t.find? k) : Within [l] t t' := by
  refine ⟨start, fun k hk => ?_, fun k hk => ?_⟩
  · have different : k ≠ l := by
      rintro rfl
      rw [hk] at free
      cases free
    rwa [isDirectory, other k different]
  · rw [file?, other k (List.ne_of_not_mem_cons hk), file?]

theorem within_put {t : FileTree} {l : Location} (free : t.isDirectory l = false)
    (content : ByteArray) : Within [l] t (t.put l (.file content)) :=
  within_of_find? rfl free fun k different => by
    rw [find?_put (ne_nil_of_isDirectory free), if_neg different]

theorem file?_put {t : FileTree} {l : Location} (free : t.isDirectory l = false)
    (content : ByteArray) : (t.put l (.file content)).file? l = some content := by
  rw [file?, find?_put (ne_nil_of_isDirectory free), if_pos rfl]

theorem within_erase {t : FileTree} {l : Location} (free : t.isDirectory l = false) :
    Within [l] t (t.erase l) :=
  within_of_find? rfl free fun k different => by
    rw [find?_erase (ne_nil_of_isDirectory free), if_neg different]

theorem file?_erase {t : FileTree} {l : Location} (free : t.isDirectory l = false) :
    (t.erase l).file? l = none := by
  rw [file?, find?_erase (ne_nil_of_isDirectory free), if_pos rfl]

/-- A file that is moved leaves its place empty, and nothing but its new place changes besides. -/
theorem within_move {t : FileTree} {l k : Location} (apart : l ≠ k) {content : ByteArray}
    (there : t.file? l = some content) (free : t.isDirectory k = false) :
    Within [l, k] t ((t.erase l).put k (.file content)) ∧
      ((t.erase l).put k (.file content)).find? l = none ∧
      ((t.erase l).put k (.file content)).file? k = some content := by
  have leaving := isDirectory_of_file? there
  have erased := find?_erase (t := t) (ne_nil_of_isDirectory leaving)
  have free' : (t.erase l).isDirectory k = false := by
    rw [isDirectory, erased, if_neg apart.symm]
    exact free
  refine ⟨((within_erase leaving).mono (by simp)).trans ((within_put free' content).mono (by simp)),
    ?_, file?_put free' content⟩
  rw [find?_put (ne_nil_of_isDirectory free'), if_neg apart, erased, if_pos rfl]

theorem file?_of_find?_eq_none {t : FileTree} {l : Location} (h : t.find? l = none) :
    t.file? l = none := by
  rw [file?, h]

theorem isDirectory_of_find?_eq_none {t : FileTree} {l : Location} (h : t.find? l = none) :
    t.isDirectory l = false := by
  rw [isDirectory, h]

/-! ## Where paths lead -/

/-- One name further, whether anything is there or not. -/
def follow (l : Location) (name : String) : Location :=
  if name = "." then l else if name = ".." then l.dropLast else l ++ [name]

/-- Where a path leads once its directories are there. -/
def destination (t : FileTree) (path : String) : Location :=
  (pathNames path).foldl follow (t.start path)

/-- The directories of a path are there, and it may be the path of a file. -/
def Leads (t : FileTree) (path : String) : Prop := t.filePlace? path = some (t.destination path)

theorem enter?_eq_some {t : FileTree} {l k : Location} {name : String} :
    t.enter? l name = some k ↔
      k = follow l name ∧ (name = "." ∨ name = ".." ∨ t.isDirectory k = true) := by
  unfold enter? follow
  by_cases dot : name = "."
  · rw [if_pos dot, if_pos dot, Option.some.injEq, eq_comm]
    exact ⟨fun same => ⟨same, .inl dot⟩, And.left⟩
  · rw [if_neg dot, if_neg dot]
    by_cases dots : name = ".."
    · rw [if_pos dots, if_pos dots, Option.some.injEq, eq_comm]
      exact ⟨fun same => ⟨same, .inr (.inl dots)⟩, And.left⟩
    · rw [if_neg dots, if_neg dots]
      by_cases there : t.isDirectory (l ++ [name]) = true
      · rw [if_pos there, Option.some.injEq, eq_comm]
        exact ⟨fun same => ⟨same, .inr (.inr (same ▸ there))⟩, And.left⟩
      · rw [if_neg there]
        refine ⟨nofun, ?_⟩
        rintro ⟨rfl, rest⟩
        exact absurd (rest.resolve_left dot |>.resolve_left dots) there

theorem foldlM_enter?_follow {t : FileTree} {names : List String} {l k : Location}
    (h : names.foldlM t.enter? l = some k) : k = names.foldl follow l := by
  induction names generalizing l with
  | nil => exact (Option.some.inj h).symm
  | cons name names ih =>
    rw [List.foldlM_cons, Option.bind_eq_bind, Option.bind_eq_some_iff] at h
    obtain ⟨next, entered, rest⟩ := h
    rw [List.foldl_cons, ← (enter?_eq_some.mp entered).1]
    exact ih rest

theorem Within.enter? {area : List Location} {t t' : FileTree} (h : Within area t t')
    {l k : Location} {name : String} (entered : t.enter? l name = some k) :
    t'.enter? l name = some k := by
  obtain ⟨same, there⟩ := enter?_eq_some.mp entered
  exact enter?_eq_some.mpr ⟨same, there.imp_right (Or.imp_right (h.directory k))⟩

theorem Within.foldlM_enter? {area : List Location} {t t' : FileTree} (h : Within area t t')
    {names : List String} {l k : Location} (entered : names.foldlM t.enter? l = some k) :
    names.foldlM t'.enter? l = some k := by
  induction names generalizing l with
  | nil => exact entered
  | cons name names ih =>
    rw [List.foldlM_cons, Option.bind_eq_bind, Option.bind_eq_some_iff] at entered ⊢
    obtain ⟨next, first, rest⟩ := entered
    exact ⟨next, h.enter? first, ih rest⟩

/-- A file's path goes through directories that are there to a last name that is not points. -/
theorem filePlace?_eq_some {t : FileTree} {path : String} {l : Location} :
    t.filePlace? path = some l ↔
      isUsable path = true ∧ ∃ before last directory,
        pathNames path = before ++ [last] ∧
        before.foldlM t.enter? (t.start path) = some directory ∧
        last ≠ "." ∧ last ≠ ".." ∧ fits last = true ∧ path.endsWith "/" = false ∧
        l = directory ++ [last] := by
  constructor
  · intro h
    unfold filePlace? place? at h
    cases usable : isUsable path with
    | false => simp [usable] at h
    | true =>
      cases names : (pathNames path).reverse with
      | nil =>
        simp only [usable, names, Bool.not_true, Bool.false_eq_true, if_false] at h
        split at h
        · next found =>
          split at found
          · cases found
          · cases found
        · cases h
      | cons last before =>
        cases entered : before.reverse.foldlM t.enter? (t.start path) with
        | none => simp [usable, names, entered] at h
        | some directory =>
          have split : pathNames path = before.reverse ++ [last] := by
            rw [← List.reverse_cons, ← names, List.reverse_reverse]
          by_cases dot : last = "."
          · simp [usable, names, entered, dot] at h
          · by_cases dots : last = ".."
            · simp [usable, names, entered, dots] at h
            · cases short : fits last <;> cases slash : path.endsWith "/" <;>
                simp [usable, names, entered, dot, dots, short, slash] at h
              exact ⟨rfl, _, last, directory, split, entered, dot, dots, short, rfl, h.symm⟩
  · rintro ⟨usable, before, last, directory, names, entered, dot, dots, short, slash, rfl⟩
    unfold filePlace? place?
    simp [usable, names, entered, dot, dots, short, slash]

theorem leads_of_filePlace? {t : FileTree} {path : String} {l : Location}
    (h : t.filePlace? path = some l) : t.Leads path ∧ t.destination path = l := by
  obtain ⟨-, before, last, directory, names, entered, notDot, notDots, -, -, rfl⟩ :=
    filePlace?_eq_some.mp h
  have same : t.destination path = directory ++ [last] := by
    rw [destination, names, List.foldl_append, ← foldlM_enter?_follow entered, List.foldl_cons,
      List.foldl_nil, follow, if_neg notDot, if_neg notDots]
  exact ⟨by rw [Leads, same, h], same⟩

theorem Within.destination {area : List Location} {t t' : FileTree} (h : Within area t t')
    (path : String) : t'.destination path = t.destination path := by
  simp only [FileTree.destination, start, h.workingDirectory]

theorem Within.leads {area : List Location} {t t' : FileTree} (h : Within area t t')
    {path : String} (leads : t.Leads path) : t'.Leads path := by
  unfold Leads at leads ⊢
  rw [h.destination]
  obtain ⟨usable, before, last, directory, names, entered, rest⟩ := filePlace?_eq_some.mp leads
  refine filePlace?_eq_some.mpr ⟨usable, before, last, directory, names, ?_, rest⟩
  rw [start, h.workingDirectory]
  exact h.foldlM_enter? entered

/-! ## Operations -/

theorem content?_eq_some {t : FileTree} {path : String} {content : ByteArray} :
    t.content? path = some content ↔
      t.Leads path ∧ t.file? (t.destination path) = some content := by
  unfold content?
  cases place : t.filePlace? path with
  | none => simp [Leads, place]
  | some l =>
    obtain ⟨leads, rfl⟩ := leads_of_filePlace? place
    simp only [leads, true_and]
    rfl

theorem write?_eq_some {t t' : FileTree} {path : String} {content : ByteArray} :
    t.write? path content = some t' ↔
      t.Leads path ∧ t.isDirectory (t.destination path) = false ∧
        t' = t.put (t.destination path) (.file content) := by
  unfold write?
  cases place : t.filePlace? path with
  | none => simp [Leads, place]
  | some l =>
    obtain ⟨leads, rfl⟩ := leads_of_filePlace? place
    cases free : t.isDirectory (t.destination path) <;> simp [leads, free, eq_comm]

theorem rename?_eq_some {t t' : FileTree} {source target : String}
    (apart : t.destination source ≠ t.destination target) :
    t.rename? source target = some t' ↔
      t.Leads source ∧ t.Leads target ∧ t.isDirectory (t.destination target) = false ∧
        ∃ content, t.file? (t.destination source) = some content ∧
          t' = (t.erase (t.destination source)).put (t.destination target) (.file content) := by
  simp only [file?_eq_some]
  unfold rename?
  cases start : t.filePlace? source with
  | none => simp [Leads, start]
  | some l =>
    cases finish : t.filePlace? target with
    | none => simp [Leads, finish]
    | some k =>
      obtain ⟨leads, rfl⟩ := leads_of_filePlace? start
      obtain ⟨leads', rfl⟩ := leads_of_filePlace? finish
      dsimp only
      cases found : t.find? (t.destination source) with
      | none => simp
      | some n =>
        cases n with
        | directory => simp
        | file content =>
          cases free : t.isDirectory (t.destination target) <;>
            simp [leads, leads', apart, eq_comm]

theorem remove?_eq_some {t t' : FileTree} {path : String} :
    t.remove? path = some t' ↔
      t.Leads path ∧ (∃ content, t.file? (t.destination path) = some content) ∧
        t' = t.erase (t.destination path) := by
  simp only [file?_eq_some]
  unfold remove?
  cases place : t.filePlace? path with
  | none => simp [Leads, place]
  | some l =>
    obtain ⟨leads, rfl⟩ := leads_of_filePlace? place
    dsimp only
    cases found : t.find? (t.destination path) with
    | none => simp
    | some n => cases n <;> simp [leads, eq_comm]

theorem within_putDirectory {t : FileTree} {l : Location} (free : t.find? l = none) :
    Within [] t (t.put l .directory) := by
  have found := find?_put (t := t) (ne_nil_of_isDirectory (isDirectory_of_find?_eq_none free))
    .directory
  refine ⟨rfl, fun k hk => ?_, fun k _ => ?_⟩
  · rw [isDirectory, found]
    by_cases same : k = l
    · rw [if_pos same]
    · rwa [if_neg same]
  · rw [file?, found]
    by_cases same : k = l
    · rw [if_pos same, same, file?, free]
    · rw [if_neg same, file?]

theorem within_makeAlong (t : FileTree) (l : Location) (names : List String) :
    Within [] t (t.makeAlong l names).1 := by
  induction names generalizing t l with
  | nil => exact .refl [] t
  | cons name names ih =>
    unfold makeAlong
    split
    · exact ih t _
    · split
      · next room =>
        rw [Bool.and_eq_true, Option.isNone_iff_eq_none] at room
        exact (within_putDirectory room.2).trans (ih _ _)
      · exact .refl [] t

theorem within_makeDirectories (t : FileTree) (path : String) :
    Within [] t (t.makeDirectories path).1 := by
  unfold makeDirectories
  split
  · exact within_makeAlong t _ _
  · exact .refl [] t

end Tablecast.Storage.FileTree
