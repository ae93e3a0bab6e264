import Mathlib.Data.Nat.Digits.Defs
import Tablecast.Proofs.Text.Line
import Tablecast.Toml.Text

/-!
# String literals

How the language of the model reads a string literal: the text between two quotes, with an escape
for what cannot stand there as it is and for any character by its number. Quoted text is such a
literal, whatever the text is, and it ends where it was closed, whatever stands behind it.

* `literal?_quote`: quoted text is read back, and what stands behind it is left,
* `literals?_append`: code with whole literals only is read piece by piece,
* `LinesHold.literals?_textOfLines`: the literals of some lines of code.
-/

namespace Tablecast.Text

open Artifact
open Toml (charOf?)

/-! ## Reading a literal -/

/-- Where a reader stands inside a literal. -/
inductive LiteralState where
  /-- Behind a backslash that ends a line, blanks are skipped. -/
  | plain (skipping : Bool)
  | escape
  /-- In the two digits of an ASCII code: those to come and their value so far. -/
  | code (left value : Nat)
  /-- Where a brace opens the number of a character. -/
  | brace
  /-- In the digits of that number: how many there are and their value so far. -/
  | number (count value : Nat)

/-- What the next character does inside a literal. -/
inductive LiteralStep where
  | refused
  | closed
  | into (state : LiteralState)
  /-- A character of the text is complete. -/
  | char (c : Char)

/-- What a single character stands for behind a backslash. -/
def literalEscape? (c : Char) : Option Char :=
  if c = 'n' then some '\n'
  else if c = 'r' then some '\r'
  else if c = 't' then some '\t'
  else if c = '0' then some '\x00'
  else if c = '\\' ∨ c = '"' ∨ c = '\'' then some c
  else none

/-- A number has one to six digits, with underscores behind the first; an ASCII code has two. A
carriage return never stands in a literal as it is. -/
def LiteralState.step : LiteralState → Char → LiteralStep
  | .plain skipping, c =>
    if skipping ∧ (c = ' ' ∨ c = '\t' ∨ c = '\n' ∨ c = '\r') then .into (.plain true)
    else if c = '"' then .closed
    else if c = '\\' then .into .escape
    else if c = '\r' then .refused
    else .char c
  | .escape, c =>
    if c = '\n' then .into (.plain true)
    else if c = 'x' then .into (.code 2 0)
    else if c = 'u' then .into .brace
    else (literalEscape? c).elim .refused .char
  | .code left value, c =>
    match hexDigit? c with
    | none => .refused
    | some d =>
      if 1 < left then .into (.code (left - 1) (16 * value + d))
      else if 16 * value + d < 0x80 then .char (Char.ofNat (16 * value + d))
      else .refused
  | .brace, c => if c = '{' then .into (.number 0 0) else .refused
  | .number count value, c =>
    if c = '}' then if count = 0 then .refused else (charOf? value).elim .refused .char
    else if c = '_' then if count = 0 then .refused else .into (.number count value)
    else
      match hexDigit? c with
      | none => .refused
      | some d => if count < 6 then .into (.number (count + 1) (16 * value + d)) else .refused

/-- Reads the rest of a literal. `text` holds its characters so far, the last one first. -/
def readLiteral : LiteralState → List Char → List Char → Option (List Char × List Char)
  | _, _, [] => none
  | state, text, c :: s =>
    match state.step c with
    | .refused => none
    | .closed => some (text.reverse, s)
    | .into next => readLiteral next text s
    | .char x => readLiteral (.plain false) (x :: text) s

/-- The literal that a text begins with, and what stands behind it. -/
def literal? : List Char → Option (String × List Char)
  | '"' :: s => (readLiteral (.plain false) [] s).map fun (text, rest) => (.ofList text, rest)
  | _ => none

/-- The literals of a piece of code. `inside` is where the reader stands in a literal, if it does.
It passes over everything else, so the code must hold neither comments nor single characters in
apostrophes, where a quotation mark opens nothing. Lifetimes do no harm. -/
def scanLiterals : Option (LiteralState × List Char) → List Char → Option (List String)
  | none, [] => some []
  | some _, [] => none
  | none, c :: s =>
    if c = '"' then scanLiterals (some (.plain false, [])) s else scanLiterals none s
  | some (state, text), c :: s =>
    match state.step c with
    | .refused => none
    | .closed => (scanLiterals none s).map (.ofList text.reverse :: ·)
    | .into next => scanLiterals (some (next, text)) s
    | .char x => scanLiterals (some (.plain false, x :: text)) s

/-- The literals of a piece of code, if every one of them is whole. -/
def literals? (code : String) : Option (List String) := scanLiterals none code.toList

/-- The text has no mark that opens a literal, a single character or a comment. -/
def IsUnmarked (s : String) : Prop := '"' ∉ s.toList ∧ '\'' ∉ s.toList ∧ '/' ∉ s.toList

instance (s : String) : Decidable (IsUnmarked s) := inferInstanceAs (Decidable (_ ∧ _))

/-! ## Quoted text is a literal -/

theorem step_digit : ∀ d < 16, ∀ count < 6, ∀ value,
    (LiteralState.number count value).step d.digitChar =
      .into (.number (count + 1) (16 * value + d)) := by
  intro d small count room value
  have other : ∀ d < 16, d.digitChar ≠ '}' ∧ d.digitChar ≠ '_' := by decide
  obtain ⟨brace, underscore⟩ := other d small
  simp only [LiteralState.step, if_neg brace, if_neg underscore, hexDigit?_digitChar d small,
    if_pos room]

/-- The digits of a number are read from its front, so its last digit comes on top of what the
others make. -/
theorem readLiteral_digits (n : Nat) (text s : List Char)
    (short : (Nat.toDigits 16 n).length ≤ 6) :
    readLiteral (.number 0 0) text (Nat.toDigits 16 n ++ s) =
      readLiteral (.number (Nat.toDigits 16 n).length n) text s := by
  induction n using Nat.strongRecOn generalizing s with
  | ind n ih =>
    rw [Nat.toDigits_eq_if (by decide)] at short ⊢
    split at short
    · next small =>
      rw [if_pos small, List.singleton_append, readLiteral, step_digit n small 0 (by decide)]
      simp
    · next large =>
      rw [List.length_append, List.length_singleton] at short
      have before := ih (n / 16) (by omega) ((n % 16).digitChar :: s) (by omega)
      have last := step_digit (n % 16) (by omega) (Nat.toDigits 16 (n / 16)).length (by omega)
        (n / 16)
      have value : 16 * (n / 16) + n % 16 = n := by omega
      rw [if_neg large, List.append_assoc, List.singleton_append, before, readLiteral, last, value,
        List.length_append, List.length_singleton]

theorem readLiteral_numberEscape (c : Char) (text s : List Char) :
    readLiteral (.plain false) text (numberEscape c ++ s) =
      readLiteral (.plain false) (c :: text) s := by
  have valid : c.toNat.isValidChar := c.valid
  have bound : c.toNat < 16 ^ 6 := by
    unfold Nat.isValidChar at valid
    omega
  have short : (Nat.toDigits 16 c.toNat).length ≤ 6 := Nat.toDigits_length 16 _ 6 (by decide) bound
  have some_digit : (Nat.toDigits 16 c.toNat).length ≠ 0 := by
    rw [Ne, List.length_eq_zero_iff]
    exact Nat.toDigits_ne_nil
  have opening : readLiteral (.plain false) text (numberEscape c ++ s) =
      readLiteral (.number 0 0) text (Nat.toDigits 16 c.toNat ++ '}' :: s) := by
    rw [numberEscape, List.append_assoc, List.append_assoc]
    rfl
  have number : charOf? c.toNat = some c := by
    rw [charOf?, if_pos valid, Char.ofNat_toNat]
  rw [opening, readLiteral_digits _ _ _ short, readLiteral, LiteralState.step, if_pos rfl,
    if_neg some_digit, number]
  rfl

theorem readLiteral_escape (c : Char) (text s : List Char) :
    readLiteral (.plain false) text (escape c ++ s) = readLiteral (.plain false) (c :: text) s := by
  unfold escape
  split_ifs with zero tab feed carriage quoted slash graphic
  · subst zero; rfl
  · subst tab; rfl
  · subst feed; rfl
  · subst carriage; rfl
  · subst quoted; rfl
  · subst slash; rfl
  · rw [List.singleton_append, readLiteral, LiteralState.step, if_neg (by simp), if_neg quoted,
      if_neg slash, if_neg carriage]
  · exact readLiteral_numberEscape c text s

theorem readLiteral_escaped (cs text s : List Char) :
    readLiteral (.plain false) text (cs.flatMap escape ++ '"' :: s) =
      some (text.reverse ++ cs, s) := by
  induction cs generalizing text with
  | nil =>
    rw [List.append_nil]
    rfl
  | cons c cs ih =>
    rw [List.flatMap_cons, List.append_assoc, readLiteral_escape, ih, List.reverse_cons,
      List.append_assoc, List.singleton_append]

/-- **Quoted text reads back**, and the literal ends where it was closed. -/
theorem literal?_quote (s : String) (rest : List Char) :
    literal? ((quote s).toList ++ rest) = some (s, rest) := by
  have opened : (quote s).toList ++ rest = '"' :: (s.toList.flatMap escape ++ '"' :: rest) := by
    rw [quote, String.toList_ofList]
    simp
  rw [opened, literal?, readLiteral_escaped]
  simp

/-! ## The literals of code -/

/-- Inside a literal the reader finishes it and goes on outside. -/
theorem scanLiterals_inside (state : LiteralState) (text s : List Char) :
    scanLiterals (some (state, text)) s = (readLiteral state text s).bind fun (read, rest) =>
      (scanLiterals none rest).map (.ofList read :: ·) := by
  induction s generalizing state text with
  | nil => rfl
  | cons c s ih =>
    rw [scanLiterals, readLiteral]
    cases state.step c with
    | refused => rfl
    | closed => rfl
    | into next => exact ih next text
    | char x => exact ih (.plain false) (x :: text)

theorem scanLiterals_append {inside : Option (LiteralState × List Char)} {s : List Char}
    {texts : List String} (whole : scanLiterals inside s = some texts) (rest : List Char) :
    scanLiterals inside (s ++ rest) = (scanLiterals none rest).map (texts ++ ·) := by
  induction s generalizing inside texts with
  | nil =>
    cases inside with
    | none =>
      cases whole
      simp
    | some _ => cases whole
  | cons c s ih =>
    cases inside with
    | none =>
      rw [List.cons_append, scanLiterals]
      rw [scanLiterals] at whole
      by_cases opens : c = '"'
      · rw [if_pos opens] at whole ⊢
        exact ih whole
      · rw [if_neg opens] at whole ⊢
        exact ih whole
    | some now =>
      obtain ⟨state, text⟩ := now
      rw [List.cons_append, scanLiterals]
      rw [scanLiterals] at whole
      cases step : state.step c with
      | refused =>
        rw [step] at whole
        cases whole
      | closed =>
        rw [step] at whole
        obtain ⟨more, later, rfl⟩ := Option.map_eq_some_iff.mp whole
        simp only [ih later, Option.map_map, Function.comp_def, List.cons_append]
      | into next =>
        rw [step] at whole
        exact ih whole
      | char x =>
        rw [step] at whole
        exact ih whole

/-- Code with whole literals only does not touch the literals behind it. -/
theorem literals?_append {code : String} {texts : List String}
    (whole : literals? code = some texts) (rest : String) :
    literals? (code ++ rest) = (literals? rest).map (texts ++ ·) := by
  rw [literals?, String.toList_append]
  exact scanLiterals_append whole rest.toList

theorem literals?_of_notMem {code : String} (silent : '"' ∉ code.toList) :
    literals? code = some [] := by
  rw [literals?]
  generalize code.toList = s at silent
  induction s with
  | nil => rfl
  | cons c s ih =>
    obtain ⟨first, rest⟩ := not_or.mp (mt List.mem_cons.mpr silent)
    rw [scanLiterals, if_neg (Ne.symm first)]
    exact ih rest

theorem literals?_quote (s : String) : literals? (quote s) = some [s] := by
  have opened : (quote s).toList = '"' :: (s.toList.flatMap escape ++ ['"']) := by
    rw [quote, String.toList_ofList]
    rfl
  rw [literals?, opened, scanLiterals, if_pos rfl, scanLiterals_inside, readLiteral_escaped]
  simp [scanLiterals]

/-! ## The literals of lines -/

/-- The literals of some lines of code, each of which is whole on its line. -/
inductive LinesHold : List String → List String → Prop
  | nil : LinesHold [] []
  | cons {line : String} {ls texts more : List String} (first : literals? line = some texts)
      (rest : LinesHold ls more) : LinesHold (line :: ls) (texts ++ more)

namespace LinesHold

theorem singleton {line : String} {texts : List String} (h : literals? line = some texts) :
    LinesHold [line] texts := by
  have single := LinesHold.cons h .nil
  rwa [List.append_nil] at single

theorem silent {line : String} (h : '"' ∉ line.toList) : LinesHold [line] [] :=
  singleton (literals?_of_notMem h)

theorem append {ls ls' texts texts' : List String} (h : LinesHold ls texts)
    (h' : LinesHold ls' texts') : LinesHold (ls ++ ls') (texts ++ texts') := by
  induction h with
  | nil => exact h'
  | cons first rest ih =>
    rw [List.append_assoc]
    exact .cons first ih

theorem map {α : Type} {f : α → String} {g : α → List String} (l : List α)
    (each : ∀ a ∈ l, literals? (f a) = some (g a)) : LinesHold (l.map f) (l.flatMap g) := by
  induction l with
  | nil => exact .nil
  | cons a l ih =>
    obtain ⟨first, rest⟩ := List.forall_mem_cons.mp each
    exact .cons first (ih rest)

theorem indent {ls texts : List String} (h : LinesHold ls texts) :
    LinesHold (Artifact.indent ls) texts := by
  have clear : literals? margin = some [] := by decide
  induction h with
  | nil => exact .nil
  | @cons line ls texts more first rest ih =>
    refine .cons ?_ ih
    by_cases empty : line = ""
    · subst empty
      exact first
    · dsimp only
      rw [if_neg empty, literals?_append clear, first]
      rfl

theorem block {head : String} {body texts : List String} (opening : '"' ∉ head.toList)
    (h : LinesHold body texts) : LinesHold (Artifact.block head body) texts := by
  have brace : '"' ∉ " \x7b".toList := by decide
  have opens : LinesHold [head ++ " \x7b"] [] := by
    apply silent
    rw [String.toList_append, List.mem_append]
    exact not_or.mpr ⟨opening, brace⟩
  have closes : LinesHold ["\x7d"] [] := silent (by decide)
  have whole := (opens.append h.indent).append closes
  rwa [List.nil_append, List.append_nil] at whole

/-- **The literals of a text** are those of its lines, in order. -/
theorem literals?_textOfLines {ls texts : List String} (h : LinesHold ls texts) :
    literals? (textOfLines ls) = some texts := by
  have joined : scanLiterals none (ls.flatMap fun line => line.toList ++ ['\n']) = some texts := by
    induction h with
    | nil => rfl
    | @cons line ls texts more first rest ih =>
      have ended : scanLiterals none (line.toList ++ ['\n']) = some texts := by
        rw [scanLiterals_append first, scanLiterals, if_neg (by decide)]
        simp [scanLiterals]
      rw [List.flatMap_cons, scanLiterals_append ended, ih]
      rfl
  cases h with
  | nil => decide
  | cons first rest => rw [literals?, toList_textOfLines, joined]

end LinesHold

end Tablecast.Text
