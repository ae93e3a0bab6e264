import Mathlib.Data.List.DropRight
import Mathlib.Data.List.Forall2
import Tablecast.Proofs.Toml.Continuation

/-!
# Texts of assignments

A text whose lines are assignments is read line by line: what each of them assigns is what it
assigns as a text of its own. A line feed may stand behind the last one.
-/

namespace Tablecast.Toml

/-! ## The end of a statement -/

/-- What stands behind blanks and a comment. -/
def behindComment (s : List Char) : List Char :=
  match skipBlanks s with
  | '#' :: comment => comment.dropWhile isPlain
  | s => s

theorem endLine_eq (s : List Char) :
    endLine s = if (behindComment s).isEmpty then some [] else newline? (behindComment s) := rfl

theorem behindComment_feed (s t : List Char) :
    behindComment (s ++ '\n' :: t) = behindComment s ++ '\n' :: t := by
  unfold behindComment
  rw [skipBlanks_feed]
  generalize skipBlanks s = u
  rcases u with _ | ⟨c, u⟩
  · rfl
  · by_cases hash : c = '#'
    · subst hash
      exact dropWhile_feed (by decide) u t
    · simp [hash]

theorem newline?_append {s r : List Char} (h : newline? s = some r) (u : List Char) :
    newline? (s ++ u) = some (r ++ u) := by
  revert h
  fun_cases newline? s with
  | case1 rest =>
    intro h
    cases h
    rfl
  | case2 rest =>
    intro h
    cases h
    rfl
  | case3 =>
    intro h
    cases h

/-- A statement that ends with the text also ends with its line. -/
theorem endLine_feed {s r : List Char} (h : endLine s = some r) (t : List Char) :
    endLine (s ++ '\n' :: t) = some (r ++ '\n' :: t) ∨
      r = [] ∧ endLine (s ++ '\n' :: t) = some t := by
  rw [endLine_eq] at h ⊢
  rw [behindComment_feed]
  generalize behindComment s = u at h ⊢
  cases u with
  | nil =>
    cases h
    exact .inr ⟨rfl, rfl⟩
  | cons c u => exact .inl (newline?_append h _)

/-! ## Assignments -/

/-- The line holds one assignment, perhaps behind blanks, and nothing more. -/
def IsAssignment (line : List Char) (path : KeyPath) (item : Item) : Prop :=
  readStatement (skipBlanks line) = some (.assignment path item, [])

/-- What a key begins with. -/
def startsKey (c : Char) : Bool := c = '"' || c = '\'' || isBareKey c

theorem exists_of_readKeyPath {s : List Char} {p : KeyPath × List Char}
    (h : readKeyPath s = some p) : ∃ c u, skipBlanks s = c :: u ∧ startsKey c = true := by
  obtain ⟨q, keys, -⟩ := Option.bind_eq_some_iff.mp h
  obtain ⟨k, key, -⟩ := Option.bind_eq_some_iff.mp keys
  generalize skipBlanks s = u at key ⊢
  revert key
  fun_cases readKey u with
  | case1 rest => exact fun _ => ⟨'"', rest, rfl, by decide⟩
  | case2 rest => exact fun _ => ⟨'\'', rest, rfl, by decide⟩
  | case3 =>
    intro key
    cases key
  | case4 u _ _ bare =>
    intro _
    rcases u with _ | ⟨c, u⟩
    · exact absurd rfl bare
    · have isBare : isBareKey c = true := Decidable.byContradiction fun notBare =>
        bare (List.takeWhile_cons_of_neg notBare)
      exact ⟨c, u, rfl, by simp [startsKey, isBare]⟩

/-- How an assignment is read. -/
theorem readStatement_assignment_iff {s r : List Char} {path : KeyPath} {item : Item} :
    readStatement s = some (.assignment path item, r) ↔
      ∃ s₁ s₂ s₃, readKeyPath s = some (path, s₁) ∧ expect '=' s₁ = some s₂ ∧
        readValue (2 * s₂.length + 1) deepestValue (skipBlanks s₂) = some (item, s₃) ∧
        endLine s₃ = some r := by
  have keys (noBracket : ∀ u, s ≠ '[' :: u) : readStatement s = (readKeyPath s).bind fun p =>
      (expect '=' p.2).bind fun s₂ =>
        (readValue (2 * s₂.length + 1) deepestValue (skipBlanks s₂)).bind fun q =>
          (endLine q.2).bind fun r => some (.assignment p.1 q.1, r) := by
    rw [readStatement]
    · rfl
    · rintro u rfl
      exact noBracket _ rfl
    · rintro u rfl
      exact noBracket _ rfl
  by_cases bracket : ∃ u, s = '[' :: u
  · obtain ⟨u, rfl⟩ := bracket
    refine iff_of_false ?_ ?_
    · rw [readStatement.eq_def]
      intro h
      split at h
      · simp [Option.bind_eq_some_iff] at h
      · simp [Option.bind_eq_some_iff] at h
      · next noBracket => exact noBracket _ rfl
    · rintro ⟨_, _, _, keys, -⟩
      obtain ⟨c, rest, same, starts⟩ := exists_of_readKeyPath keys
      cases same
      exact absurd starts (by decide)
  · rw [keys fun u same => bracket ⟨u, same⟩]
    simp only [Option.bind_eq_some_iff, Option.some_inj, Prod.mk.injEq, Statement.assignment.injEq]
    constructor
    · rintro ⟨⟨_, s₁⟩, keys, s₂, equals, ⟨_, s₃⟩, value, r, ends, ⟨rfl, rfl⟩, rfl⟩
      exact ⟨s₁, s₂, s₃, keys, equals, value, ends⟩
    · rintro ⟨s₁, s₂, s₃, keys, equals, value, ends⟩
      exact ⟨_, keys, s₂, equals, _, value, r, ends, ⟨rfl, rfl⟩, rfl⟩

namespace IsAssignment

variable {line : List Char} {path : KeyPath} {item : Item}

theorem starts (h : IsAssignment line path item) :
    ∃ c u, skipBlanks line = c :: u ∧ startsKey c = true := by
  obtain ⟨s₁, s₂, s₃, keys, -⟩ := readStatement_assignment_iff.mp h
  obtain ⟨c, u, same, start⟩ := exists_of_readKeyPath keys
  have once : skipBlanks (skipBlanks line) = skipBlanks line :=
    List.dropWhile_idempotent _ _
  exact ⟨c, u, once ▸ same, start⟩

/-- Before another line an assignment is read the same, with the line feed or without it. -/
theorem feed (h : IsAssignment line path item) (t : List Char) :
    readStatement (skipBlanks (line ++ '\n' :: t)) = some (.assignment path item, '\n' :: t) ∨
      readStatement (skipBlanks (line ++ '\n' :: t)) = some (.assignment path item, t) := by
  obtain ⟨s₁, s₂, s₃, keys, equals, value, ends⟩ := readStatement_assignment_iff.mp h
  have keys' := persists_readKeyPath keys t
  have equals' := lineBoundSkip_expect (c := '=') (by decide) s₁ t
  rw [equals] at equals'
  have fuel : 2 * s₂.length + 1 ≤ 2 * (s₂ ++ '\n' :: t).length + 1 := by
    rw [List.length_append]
    omega
  have value' := (persists_read fuel).1 deepestValue value t
  rw [← skipBlanks_feed] at value'
  rw [skipBlanks_feed]
  rcases endLine_feed ends t with kept | ⟨-, dropped⟩
  · exact .inl (readStatement_assignment_iff.mpr ⟨_, _, _, keys', equals', value', kept⟩)
  · exact .inr (readStatement_assignment_iff.mpr ⟨_, _, _, keys', equals', value', dropped⟩)

end IsAssignment

/-! ## Texts -/

/-- The statements are what the text is read as. -/
def ReadAs (text : List Char) (statements : List Statement) : Prop :=
  ∀ ⦃fuel⦄, text.length ≤ fuel → ∀ acc,
    readStatements fuel acc text = some (acc.reverse ++ statements)

theorem readAs_nil : ReadAs [] [] := by
  intro fuel _ acc
  cases fuel <;> simp [readStatements, skipBlanks]

/-- An empty line says nothing. -/
theorem readAs_feed {text : List Char} {statements : List Statement}
    (h : ReadAs text statements) : ReadAs ('\n' :: text) statements := by
  intro fuel enough acc
  rw [List.length_cons] at enough
  obtain ⟨fuel, rfl⟩ := Nat.exists_eq_add_of_le' (Nat.le_of_add_left_le enough)
  exact h (by omega) acc

/-- A statement takes a step. -/
theorem readStatements_succ {text rest u : List Char} {statement : Statement} {c : Char}
    (start : skipBlanks text = c :: u) (starts : startsKey c = true)
    (read : readStatement (skipBlanks text) = some (statement, rest)) (fuel : Nat)
    (acc : List Statement) :
    readStatements (fuel + 1) acc text = readStatements fuel (statement :: acc) rest := by
  have other : (c = '#' || c = '\n' || c = '\r') = false := by
    rw [Bool.eq_false_iff]
    intro special
    simp only [Bool.or_eq_true, decide_eq_true_eq] at special
    obtain (rfl | rfl) | rfl := special <;> exact absurd starts (by decide)
  rw [start] at read
  rw [readStatements, start]
  dsimp only
  rw [other, read]
  rfl

theorem readAs_cons {line text : List Char} {path : KeyPath} {item : Item}
    {statements : List Statement} (h : IsAssignment line path item)
    (later : ReadAs text statements) :
    ReadAs (line ++ '\n' :: text) (.assignment path item :: statements) := by
  obtain ⟨c, u, start, starts⟩ := h.starts
  have start' : skipBlanks (line ++ '\n' :: text) = c :: (u ++ '\n' :: text) := by
    rw [skipBlanks_feed, start]
    rfl
  have filled : 0 < line.length := by
    rw [List.length_pos_iff]
    rintro rfl
    cases start
  intro fuel enough acc
  rw [List.length_append, List.length_cons] at enough
  obtain ⟨fuel, rfl⟩ := Nat.exists_eq_add_of_le' (show 1 ≤ fuel by omega)
  -- With the line feed left behind, the next step passes over an empty line.
  rcases h.feed text with read | read
  · rw [readStatements_succ start' starts read, readAs_feed later (by rw [List.length_cons]; omega)]
    simp
  · rw [readStatements_succ start' starts read, later (by omega)]
    simp

theorem readAs_last {line : List Char} {path : KeyPath} {item : Item}
    (h : IsAssignment line path item) : ReadAs line [.assignment path item] := by
  obtain ⟨c, u, start, starts⟩ := h.starts
  intro fuel enough acc
  have filled : 0 < line.length := by
    rw [List.length_pos_iff]
    rintro rfl
    cases start
  obtain ⟨fuel, rfl⟩ := Nat.exists_eq_add_of_le' (show 1 ≤ fuel by omega)
  rw [readStatements_succ start starts h, readAs_nil (Nat.zero_le fuel)]
  simp

/-- The texts of some lines: with line feeds between them and perhaps one at the end. -/
inductive TextOf (lines : List (List Char)) : String → Prop
  | plain : TextOf lines (.ofList (['\n'].intercalate lines))
  | closed : TextOf lines (.ofList (['\n'].intercalate lines ++ ['\n']))

/-- The lines assign these items, each line one. -/
def Assign (lines : List (List Char)) (assigned : List (KeyPath × Item)) : Prop :=
  List.Forall₂ (fun line a => IsAssignment line a.1 a.2) lines assigned

def statementsOf (assigned : List (KeyPath × Item)) : List Statement :=
  assigned.map fun a => .assignment a.1 a.2

theorem readAs_intercalate {lines : List (List Char)} {assigned : List (KeyPath × Item)}
    (each : Assign lines assigned) {tail : List Char} (ends : tail = [] ∨ tail = ['\n']) :
    ReadAs (['\n'].intercalate lines ++ tail) (statementsOf assigned) := by
  induction each with
  | nil =>
    rcases ends with rfl | rfl
    · exact readAs_nil
    · exact readAs_feed readAs_nil
  | @cons line a lines assigned first more ih =>
    cases more with
    | nil =>
      rw [List.intercalate_singleton]
      rcases ends with rfl | rfl
      · rw [List.append_nil]
        exact readAs_last first
      · exact readAs_cons first readAs_nil
    | cons _ _ =>
      rw [List.intercalate_cons_cons, List.append_assoc, List.append_assoc, List.singleton_append]
      exact readAs_cons first ih

/-- An assignment does not begin with a mark of the byte order. -/
theorem dropMark_intercalate {lines : List (List Char)} {assigned : List (KeyPath × Item)}
    (each : Assign lines assigned) {tail : List Char} (ends : tail = [] ∨ tail = ['\n']) :
    dropMark (['\n'].intercalate lines ++ tail) = ['\n'].intercalate lines ++ tail := by
  have noMark {c : Char} (h : c ≠ '\uFEFF') (s : List Char) : dropMark (c :: s) = c :: s := by
    rw [dropMark]
    exact fun u same => absurd (List.cons.inj same).1 h
  cases each with
  | nil => rcases ends with rfl | rfl <;> rfl
  | @cons line a lines assigned first more =>
    obtain ⟨c, u, start, starts⟩ := first.starts
    obtain ⟨d, line, rfl⟩ : ∃ d line', line = d :: line' := by
      cases line with
      | nil => cases start
      | cons d line => exact ⟨d, line, rfl⟩
    have plain : d ≠ '\uFEFF' := by
      rintro rfl
      cases start
      exact absurd starts (by decide)
    cases lines with
    | nil => exact noMark plain _
    | cons _ _ => exact noMark plain _

/-- **A text of assignments is read line by line.** -/
theorem read?_textOf {lines : List (List Char)} {assigned : List (KeyPath × Item)} {text : String}
    (each : Assign lines assigned) (whole : TextOf lines text) :
    read? text = membersOf? (statementsOf assigned) := by
  obtain ⟨tail, ends, rfl⟩ : ∃ tail, (tail = [] ∨ tail = ['\n']) ∧
      text = .ofList (['\n'].intercalate lines ++ tail) := by
    cases whole with
    | plain => exact ⟨[], .inl rfl, by rw [List.append_nil]⟩
    | closed => exact ⟨['\n'], .inr rfl, rfl⟩
  rw [read?, String.toList_ofList, dropMark_intercalate each ends]
  change (readStatements _ _ _).bind _ = _
  rw [readAs_intercalate each ends (Nat.le_refl _)]
  rfl

end Tablecast.Toml
