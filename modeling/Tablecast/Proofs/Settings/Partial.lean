import Tablecast.Proofs.Toml.Assembly
import Tablecast.Proofs.Toml.Spelling
import Tablecast.Settings.Reader

/-!
# Partial settings

A file may assign any of the seven settings, in any order: it overrides these, and the others keep
what they have at first. What else it assigns has no influence, as long as it is TOML.

* `Settings.override_item`, `Settings.override_unknown`: what one entry does;
* `Settings.foldlM_override`: a run over entries that are known, each once;
* `Settings.read?_assembled`: the whole file.
-/

namespace Tablecast

open Toml

/-- The settings that a file can give. -/
inductive SettingKey where
  | modelOutput
  | wireOutput
  | protoPackage
  | serviceName
  | protoModule
  | supportModule
  | sharedImports
  deriving DecidableEq

namespace SettingKey

def name : SettingKey → String
  | modelOutput => "model_output"
  | wireOutput => "wire_output"
  | protoPackage => "proto_package"
  | serviceName => "service_name"
  | protoModule => "proto_module"
  | supportModule => "support_module"
  | sharedImports => "shared_imports"

def all : List SettingKey :=
  [modelOutput, wireOutput, protoPackage, serviceName, protoModule, supportModule, sharedImports]

/-- The setting with a name. -/
def ofName? (name : String) : Option SettingKey := all.find? fun key => key.name = name

theorem ofName?_name (key : SettingKey) : ofName? key.name = some key := by
  cases key <;> decide

theorem name_injective : Function.Injective name := by
  intro a b same
  have found := ofName?_name a
  rw [same, ofName?_name] at found
  exact (Option.some.inj found).symm

theorem isBareKey_name (key : SettingKey) : ∀ c ∈ key.name.toList, isBareKey c = true := by
  have all : key.name.toList.all isBareKey = true := by cases key <;> decide
  exact List.all_eq_true.mp all

theorem name_ne_nil (key : SettingKey) : key.name.toList ≠ [] := by
  cases key <;> decide

/-- The item that gives a setting the value it has in `c`. -/
def item (c : Settings) : SettingKey → Item
  | modelOutput => .text c.modelOutput
  | wireOutput => .text c.wireOutput
  | protoPackage => .text c.protoPackage
  | serviceName => .text c.serviceName
  | protoModule => .text c.protoModule
  | supportModule => .text c.supportModule
  | sharedImports => .array (c.sharedImports.map .text)

end SettingKey

theorem Toml.Item.texts?_array (ss : List String) :
    (Item.array (ss.map .text)).texts? = some ss := by
  rw [Item.texts?]
  induction ss with
  | nil => rfl
  | cons s ss ih =>
    rw [List.map_cons, List.mapM_cons, ih]
    rfl

namespace Settings

/-! ## Entries -/

/-- These settings, with what `c` has under some of the keys. -/
def patched (s c : Settings) (keys : List SettingKey) : Settings where
  modelOutput := if .modelOutput ∈ keys then c.modelOutput else s.modelOutput
  wireOutput := if .wireOutput ∈ keys then c.wireOutput else s.wireOutput
  protoPackage := if .protoPackage ∈ keys then c.protoPackage else s.protoPackage
  serviceName := if .serviceName ∈ keys then c.serviceName else s.serviceName
  protoModule := if .protoModule ∈ keys then c.protoModule else s.protoModule
  supportModule := if .supportModule ∈ keys then c.supportModule else s.supportModule
  sharedImports := if .sharedImports ∈ keys then c.sharedImports else s.sharedImports

theorem patched_nil (s c : Settings) : s.patched c [] = s := by
  simp [patched]

theorem patched_cons (s c : Settings) (key : SettingKey) (keys : List SettingKey) :
    (s.patched c [key]).patched c keys = s.patched c (key :: keys) := by
  have field {α : Type} (k : SettingKey) (new old : α) :
      (if k ∈ keys then new else if k ∈ [key] then new else old) =
        if k ∈ key :: keys then new else old := by
    by_cases later : k ∈ keys
    · rw [if_pos later, if_pos (List.mem_cons_of_mem key later)]
    · simp [later]
  simp only [patched, field]

/-- The item of a setting overrides it alone. -/
theorem override_item (s c : Settings) (key : SettingKey) :
    s.override key.name (key.item c) = some (s.patched c [key]) := by
  cases key <;>
    simp [SettingKey.name, SettingKey.item, override, patched, Item.text?, Item.texts?_array]

theorem override_unknown {key : String} (unknown : SettingKey.ofName? key = none) (s : Settings)
    (item : Item) : s.override key item = some s := by
  unfold override
  split
  case h_8 => rfl
  all_goals exact absurd unknown (by decide)

/-- The key is the name of a setting. -/
def isSetting (key : String) : Bool := (SettingKey.ofName? key).isSome

theorem isSetting_name (key : SettingKey) : isSetting key.name = true := by
  rw [isSetting, SettingKey.ofName?_name]
  rfl

/-- Entries under unknown keys may be left out. -/
theorem foldlM_override_keeping (s : Settings) (members : Members) :
    members.foldlM (fun s e => s.override e.1 e.2) s =
      (keeping isSetting members).foldlM (fun s e => s.override e.1 e.2) s := by
  induction members generalizing s with
  | nil => rfl
  | cons e members ih =>
    rw [List.foldlM_cons, keeping, List.filter_cons]
    cases known : isSetting e.1 with
    | true =>
      rw [if_pos rfl, List.foldlM_cons]
      exact bind_congr ih
    | false =>
      have unknown : SettingKey.ofName? e.1 = none := by simpa [isSetting] using known
      rw [if_neg (by decide), override_unknown unknown]
      exact ih s

/-- The entries of settings, each with its value in `c`. -/
def entries (c : Settings) (keys : List SettingKey) : Members :=
  keys.map fun key => (key.name, key.item c)

theorem foldlM_override_entries (s c : Settings) (keys : List SettingKey) :
    (c.entries keys).foldlM (fun s e => s.override e.1 e.2) s = some (s.patched c keys) := by
  induction keys generalizing s with
  | nil => exact congrArg some (patched_nil s c).symm
  | cons key keys ih =>
    rw [entries, List.map_cons, List.foldlM_cons, override_item]
    exact (ih (s.patched c [key])).trans (congrArg some (patched_cons s c key keys))

/-! ## Lines -/

/-- The line is an assignment that begins with a key that is not known. -/
def IsForeign (line : List Char) : Prop :=
  ∃ path item, IsAssignment line path item ∧ isSetting path.first = false

/-- Whether what was read is all of an assignment to an unknown key. -/
def readForeign : Option (Statement × List Char) → Bool
  | some (.assignment path _, []) => !isSetting path.first
  | _ => false

theorem readForeign_iff (line : List Char) :
    readForeign (readStatement (skipBlanks line)) = true ↔ IsForeign line := by
  unfold IsForeign IsAssignment
  generalize readStatement (skipBlanks line) = read
  constructor
  · intro h
    obtain _ | ⟨_ | _ | ⟨path, item⟩, _ | ⟨c, rest⟩⟩ := read
    case some.assignment.nil => exact ⟨path, item, rfl, by simpa [readForeign] using h⟩
    all_goals cases h
  · rintro ⟨path, item, rfl, unknown⟩
    simp [readForeign, unknown]

instance (line : List Char) : Decidable (IsForeign line) :=
  decidable_of_iff _ (readForeign_iff line)

/-- The lines of a text that gives some settings their values in `c`. Between them stand other
assignments, which begin with keys that are not known. -/
inductive Assembled (c : Settings) : List SettingKey → List (List Char) → List (List Char) → Prop
  | nil : Assembled c [] [] []
  | setting (key : SettingKey) {keys : List SettingKey} {others lines : List (List Char)}
      {line : List Char} (spelled : SpellsLine key.name (key.item c) line)
      (later : Assembled c keys others lines) : Assembled c (key :: keys) others (line :: lines)
  | other {keys : List SettingKey} {others lines : List (List Char)} {line : List Char}
      (foreign : IsForeign line) (later : Assembled c keys others lines) :
      Assembled c keys (line :: others) (line :: lines)

variable {c : Settings} {keys : List SettingKey} {others lines : List (List Char)}

/-- Every choice of settings has lines. -/
theorem exists_assembled (c : Settings) (keys : List SettingKey) :
    ∃ lines, Assembled c keys [] lines := by
  induction keys with
  | nil => exact ⟨[], .nil⟩
  | cons key keys ih =>
    obtain ⟨lines, assembled⟩ := ih
    obtain ⟨value, spelled⟩ : ∃ value, SpellsItem (key.item c) value := by
      cases key with
      | sharedImports => exact exists_spellsItem_array c.sharedImports
      | _ => exact exists_spellsItem_text _
    have none : IsGap [] := nofun
    exact ⟨_, .setting key (.assignment none none none spelled none) assembled⟩

/-- What the lines assign falls into the settings and what the other lines assign. -/
theorem Assembled.assigned (h : Assembled c keys others lines) :
    ∃ assigned, Assign lines assigned ∧
      assigned.filter (fun a => isSetting a.1.first) =
        (c.entries keys).map (fun e => (⟨[], e.1⟩, e.2)) ∧
      Assign others (assigned.filter fun a => !isSetting a.1.first) := by
  induction h with
  | nil => exact ⟨[], .nil, rfl, .nil⟩
  | @setting key keys others lines line spelled _ ih =>
    obtain ⟨assigned, each, settings, rest⟩ := ih
    have first := isAssignment_spelled key.isBareKey_name key.name_ne_nil spelled
    have known : isSetting (KeyPath.first ⟨[], key.name⟩) = true := isSetting_name key
    refine ⟨(⟨[], key.name⟩, key.item c) :: assigned, .cons first each, ?_, ?_⟩
    · rw [List.filter_cons, if_pos known, settings]
      rfl
    · rw [List.filter_cons, if_neg (by simp [known])]
      exact rest
  | @other keys others lines line foreign _ ih =>
    obtain ⟨assigned, each, settings, rest⟩ := ih
    obtain ⟨path, item, assigns, unknown⟩ := foreign
    refine ⟨(path, item) :: assigned, .cons assigns each, ?_, ?_⟩
    · rw [List.filter_cons, if_neg (by simp [unknown])]
      exact settings
    · rw [List.filter_cons, if_pos (by simp [unknown])]
      exact .cons assigns rest

theorem nodup_entries (c : Settings) (once : keys.Nodup) :
    ((c.entries keys).map Prod.fst).Nodup := by
  rw [entries, List.map_map]
  exact List.Pairwise.map _ (fun _ _ apart same => apart (SettingKey.name_injective same)) once

/-- **A file overrides exactly the settings that it assigns.** They have the values of `c`, in
whatever order the lines stand, and the others their initial ones. Assignments to other keys make
no difference if they are TOML on their own. -/
theorem read?_assembled {text alone : String} (assembled : Assembled c keys others lines)
    (once : keys.Nodup) (own : TextOf others alone) (valid : (Toml.read? alone).isSome)
    (whole : TextOf lines text) : read? text = some (initial.patched c keys) := by
  obtain ⟨assigned, each, settings, rest⟩ := assembled.assigned
  obtain ⟨otherMembers, fits⟩ := Option.isSome_iff_exists.mp valid
  rw [read?_textOf rest own, membersOf?_statementsOf] at fits
  have fresh : assignAll (assigned.filter fun a => isSetting a.1.first) [] =
      some (c.entries keys) := by
    rw [settings]
    exact assignAll_fresh (nodup_entries c once)
  obtain ⟨members, made, same⟩ := assignAll_apart isSetting assigned [] fresh fits
  have document : Toml.read? text = some members := by
    rw [read?_textOf each whole, membersOf?_statementsOf, made]
  rw [read?, document]
  change members.foldlM _ _ = _
  rw [foldlM_override_keeping, same, foldlM_override_entries]

/-- A path with an accent, a quote and a tab, and imports with a backslash. -/
def relocated : Settings :=
  { initial with modelOutput := "gén/\"m\t.rs", sharedImports := ["a.proto", "b\\c"] }

def importsLine : List Char := "shared_imports = [ \"a.proto\" ,\t\"b\\\\c\", ]".toList

def pathLine : List Char := "\tmodel_output=\"g\\u00e9n/\\\"m\\t.rs\"  ".toList

/-- What else the file assigns. -/
def retriesLine : List Char := "retries = 0x1F".toList

def limitsLine : List Char :=
  "'limits'.low = [[1, 2], \x7b at = 2024-02-29T10:00:00Z \x7d]  # both".toList

theorem importsLine_spells :
    SpellsLine SettingKey.sharedImports.name (SettingKey.sharedImports.item relocated)
      importsLine := by
  have slash : SpellsText "b\\c".toList ("b".toList ++ ("\\\\".toList ++ "c".toList)) :=
    .append (spellsText_plain (s := "b".toList) (by decide))
      (.cons (.escape (by decide)) (spellsText_plain (by decide)))
  have imports : SpellsItems ["a.proto", "b\\c"]
      (" ".toList ++ ("\"a.proto\"".toList ++ (" ".toList ++ ',' :: ("\t".toList ++
        ("\"b\\\\c\"".toList ++ ([] ++ ',' :: (" ".toList ++ [']']))))))) :=
    .next (by decide) (.quoted (spellsText_plain (s := "a.proto".toList) (by decide))) (by decide)
      (.next (by decide) (.quoted slash) (by decide) (.close (by decide)))
  have noBlanks : IsGap [] := by decide
  have blank : IsGap [' '] := by decide
  exact .assignment noBlanks blank blank (.array imports) noBlanks

theorem pathLine_spells :
    SpellsLine SettingKey.modelOutput.name (SettingKey.modelOutput.item relocated) pathLine := by
  have accent : SpellsChar 'é' "\\u00e9".toList :=
    .number (show ('u', 4) ∈ numberMarks by decide) rfl (List.all_eq_true.mp (by decide))
      (by decide)
  have path : SpellsText "gén/\"m\t.rs".toList
      ("g".toList ++ ("\\u00e9".toList ++ ("n/".toList ++ ("\\\"".toList ++ ("m".toList ++
        ("\\t".toList ++ ".rs".toList)))))) :=
    .append (spellsText_plain (s := "g".toList) (by decide))
      (.cons accent
        (.append (spellsText_plain (s := "n/".toList) (by decide))
          (.cons (.escape (by decide))
            (.append (spellsText_plain (s := "m".toList) (by decide))
              (.cons (.escape (by decide)) (spellsText_plain (by decide)))))))
  have noBlanks : IsGap [] := by decide
  have tab : IsGap ['\t'] := by decide
  have blanks : IsGap [' ', ' '] := by decide
  exact .assignment tab noBlanks noBlanks (.text (.quoted path)) blanks

/-- Two settings between lines of other kinds. -/
theorem relocated_read :
    read? (.ofList (['\n'].intercalate [retriesLine, importsLine, limitsLine, pathLine])) =
      some (initial.patched relocated [.sharedImports, .modelOutput]) :=
  read?_assembled (.other (by decide +kernel) (.setting _ importsLine_spells
    (.other (by decide +kernel) (.setting _ pathLine_spells .nil))))
    (by decide) .plain (by decide +kernel) .plain

end Settings

end Tablecast
