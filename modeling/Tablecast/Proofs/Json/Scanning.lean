import Tablecast.Proofs.Json.Spelling
import Tablecast.Proofs.Json.Tokens

/-!
# Passing over a value

The scanner that passes over the value of an unknown member takes exactly one value, whatever its
depth, its numbers and its escapes: it accepts each layout of a node and stops behind it, and it
accepts nothing else. A number has no last character of its own, so there the text behind it must
not go on with it.

* `run_value`: a layout is passed over, with any brackets open around it,
* `value_of_run`: what is passed over is a layout,
* `skipValue_written`, `skipValue_ok`: the same for the whole scanner.
-/

namespace Tablecast.Json

open Node

/-! ## Runs -/

/-- Goes on behind a complete value, with these brackets open. -/
def resume : List Bracket → List Char → Except Fault (List Char)
  | [], s => .ok s
  | b :: outer, s => (Scan.comma b outer).run s

/-- Goes on as a character has led to; `s` is the text behind the character. -/
def Advance.run (c : Char) (s : List Char) : Advance → Except Fault (List Char)
  | .go next => next.run s
  | .finished => .ok s
  | .finishedBefore => .ok (c :: s)
  | .fault f => .error f

theorem Scan.run_cons (scan : Scan) (c : Char) (s : List Char) :
    scan.run (c :: s) = (scan.step c s).run c s := by
  rw [Scan.run]
  cases scan.step c s <;> rfl

theorem run_valueEnd (opened : List Bracket) (c : Char) (s : List Char) :
    (Advance.valueEnd opened).run c s = resume opened s := by
  cases opened <;> rfl

theorem run_afterNumber (opened : List Bracket) (c : Char) (s : List Char) :
    (afterNumber opened c).run c s = resume opened (c :: s) := by
  cases opened with
  | nil => rfl
  | cons b outer => rw [resume, Scan.run_cons]; rfl

/-- Between two tokens, where blanks may stand. -/
def Scan.Between : Scan → Prop
  | .value _ | .firstElement _ | .firstKey _ | .key _ | .colon _ | .comma _ _ => True
  | .keyText _ _ | .text _ _ | .number _ _ | .word _ _ => False

theorem run_blanks {scan : Scan} (between : scan.Between) {blanks : List Char}
    (h : Blanks blanks) (s : List Char) : scan.run (blanks ++ s) = scan.run s := by
  induction blanks with
  | nil => rfl
  | cons c blanks ih =>
    obtain ⟨blank, h⟩ := List.forall_mem_cons.mp h
    have stays : scan.step c (blanks ++ s) = .go scan := by
      cases scan <;> first | exact between.elim | simp [Scan.step, startValue, afterValue, blank]
    rw [List.cons_append, Scan.run_cons, stays]
    exact ih h

/-! ## Words and strings -/

theorem run_word {letters : List Char} (some : letters ≠ []) (opened : List Bracket)
    (s : List Char) : (Scan.word letters opened).run (letters ++ s) = resume opened s := by
  induction letters with
  | nil => exact absurd rfl some
  | cons e more ih =>
    rw [List.cons_append, Scan.run_cons]
    cases more with
    | nil => simp [Scan.step, run_valueEnd]
    | cons f more => simpa [Scan.step, Advance.run] using ih (List.cons_ne_nil _ _)

theorem word_of_run {letters : List Char} {opened : List Bracket} {s rest : List Char}
    (h : (Scan.word letters opened).run s = .ok rest) :
    ∃ more, s = letters ++ more ∧ resume opened more = .ok rest := by
  induction letters generalizing s with
  | nil => cases s <;> simp [Scan.run, Scan.atEnd, Scan.step] at h
  | cons e more ih =>
    cases s with
    | nil => simp [Scan.run, Scan.atEnd] at h
    | cons c s =>
      rw [Scan.run_cons] at h
      cases more with
      | nil =>
        simp only [Scan.step] at h
        split_ifs at h with same
        · rw [run_valueEnd] at h
          exact ⟨s, by rw [same]; rfl, h⟩
        · simp [Advance.run] at h
      | cons f more =>
        simp only [Scan.step] at h
        split_ifs at h with same
        · obtain ⟨more, rfl, resumed⟩ := ih h
          exact ⟨more, by rw [same]; rfl, resumed⟩
        · simp [Advance.run] at h

/-- Scanners of strings, which differ in what comes behind the closing quote. -/
structure ScansString (scan : StringState → Scan) (behind : Advance) : Prop where
  atEnd : ∀ state, (scan state).atEnd = .error .endInString
  step : ∀ state c s, (scan state).step c s =
    match state.step c s with
    | .inside next => .go (scan next)
    | .closed => behind
    | .fault f => .fault f

theorem scansString_key (outer : List Bracket) :
    ScansString (.keyText · outer) (.go (.colon outer)) :=
  ⟨fun _ => rfl, fun _ _ _ => rfl⟩

theorem scansString_text (opened : List Bracket) :
    ScansString (.text · opened) (.valueEnd opened) :=
  ⟨fun _ => rfl, fun _ _ _ => rfl⟩

namespace ScansString

variable {scan : StringState → Scan} {behind : Advance} (scans : ScansString scan behind)

include scans

theorem takesCodeUnit :
    TakesCodeUnit (fun left _ => (scan (.codeUnit left)).run) fun _ => (scan .plain).run where
  atEnd _ _ := by rw [Scan.run, scans.atEnd]
  other _ _ _ _ none := by
    simp [Scan.run_cons, scans.step, StringState.step, none, Advance.run]
  digit _ _ _ _ _ digit := by
    simp [Scan.run_cons, scans.step, StringState.step, digit, Advance.run]
  last _ _ _ _ digit := by
    simp [Scan.run_cons, scans.step, StringState.step, digit, Advance.run]

theorem run_plain {c : Char} (quote : c ≠ '"') (slash : c ≠ '\\') (control : ¬ c.toNat < 0x20)
    (s : List Char) : (scan .plain).run (c :: s) = (scan .plain).run s := by
  simp [Scan.run_cons, scans.step, StringState.step, quote, slash, control, Advance.run]

theorem run_slash (s : List Char) :
    (scan .plain).run ('\\' :: s) = (scan .escape).run s := by
  simp [Scan.run_cons, scans.step, StringState.step, Advance.run]

theorem run_quote (s : List Char) : (scan .plain).run ('"' :: s) = behind.run '"' s := by
  simp [Scan.run_cons, scans.step, StringState.step]

theorem run_escape {c x : Char} (simple : simpleEscape? c = some x) (s : List Char) :
    (scan .escape).run (c :: s) = (scan .plain).run s := by
  simp [Scan.run_cons, scans.step, StringState.step, simple, Advance.run]

theorem run_unit (s : List Char) :
    (scan .escape).run ('u' :: s) = (scan (.codeUnit 3)).run s := by
  have letter : simpleEscape? 'u' = none := by decide
  simp [Scan.run_cons, scans.step, StringState.step, letter, Advance.run]

theorem run_body {body : List Char} (h : StringBody body) (s : List Char) :
    (scan .plain).run (body ++ '"' :: s) = behind.run '"' s := by
  induction h with
  | nil => exact scans.run_quote s
  | plain quote slash control _ ih => rw [List.cons_append, scans.run_plain quote slash control, ih]
  | escape simple _ ih =>
    rw [List.cons_append, List.cons_append, scans.run_slash, scans.run_escape simple, ih]
  | codeUnit unit _ ih =>
    have digits := scans.takesCodeUnit.written unit
    simp only [List.cons_append, List.append_assoc]
    rw [scans.run_slash, scans.run_unit, digits, ih]

theorem body_of_run {s rest : List Char} (h : (scan .plain).run s = .ok rest) :
    ∃ body more, StringBody body ∧ s = body ++ '"' :: more ∧ behind.run '"' more = .ok rest := by
  induction n : s.length using Nat.strongRecOn generalizing s with
  | ind n ih =>
    subst n
    cases s with
    | nil => simp [Scan.run, scans.atEnd] at h
    | cons c s =>
      by_cases quote : c = '"'
      · subst quote
        rw [scans.run_quote] at h
        exact ⟨[], s, .nil, rfl, h⟩
      by_cases slash : c = '\\'
      · subst slash
        rw [scans.run_slash] at h
        cases s with
        | nil => simp [Scan.run, scans.atEnd] at h
        | cons c s =>
          cases simple : simpleEscape? c with
          | some x =>
            rw [scans.run_escape simple] at h
            have shorter : s.length < ('\\' :: c :: s).length :=
              Nat.lt_succ_of_lt (Nat.lt_succ_self _)
            obtain ⟨body, more, wellFormed, rfl, resumed⟩ := ih _ shorter h rfl
            exact ⟨_, more, .escape simple wellFormed, rfl, resumed⟩
          | none =>
            by_cases letter : c = 'u'
            · subst letter
              rw [scans.run_unit] at h
              obtain ⟨digits, n, s, unit, rfl, behindUnit⟩ := scans.takesCodeUnit.of_ok h
              obtain ⟨body, more, wellFormed, rfl, resumed⟩ :=
                ih _ (by simp only [List.length_cons, List.length_append]; omega) behindUnit rfl
              exact ⟨_, more, .codeUnit unit wellFormed, by simp, resumed⟩
            · simp [Scan.run_cons, scans.step, StringState.step, simple, letter, Advance.run] at h
      by_cases control : c.toNat < 0x20
      · simp [Scan.run_cons, scans.step, StringState.step, quote, slash, control, Advance.run] at h
      · rw [scans.run_plain quote slash control] at h
        obtain ⟨body, more, wellFormed, rfl, resumed⟩ := ih _ (Nat.lt_succ_self _) h rfl
        exact ⟨_, more, .plain quote slash control wellFormed, rfl, resumed⟩

end ScansString

/-! ## Numbers -/

/-- A text that does not go on with a number. -/
def EndsNumber (s : List Char) : Prop :=
  ∀ c ∈ s.head?, c.isDigit = false ∧ c ≠ '.' ∧ c ≠ 'e' ∧ c ≠ 'E'

theorem endsNumber_blank {c : Char} (blank : isBlank c = true) (s : List Char) :
    EndsNumber (c :: s) := by
  simp only [isBlank, Bool.or_eq_true, decide_eq_true_eq] at blank
  rintro c ⟨⟩
  obtain ((rfl | rfl) | rfl) | rfl := blank <;> decide

theorem endsNumber_of_blanks {blanks : List Char} (h : Blanks blanks) : EndsNumber blanks := by
  cases blanks with
  | nil => nofun
  | cons b blanks => exact endsNumber_blank (h b List.mem_cons_self) blanks

theorem endsNumber_blanks {blanks : List Char} (h : Blanks blanks) {c : Char}
    (ends : EndsNumber [c]) (s : List Char) : EndsNumber (blanks ++ c :: s) := by
  cases blanks with
  | nil => exact ends
  | cons b blanks => exact endsNumber_blank (h b List.mem_cons_self) _

theorem endsNumber_lead {lead : List Char} (h : Lead false lead) (s : List Char) :
    EndsNumber (lead ++ s) := by
  cases h with
  | next before after =>
    rw [List.append_assoc]
    exact endsNumber_blanks before (by rintro c ⟨⟩; decide) _

/-- The number may end here. -/
def NumberState.Complete : NumberState → Prop
  | .zero | .digits | .places | .exponent => True
  | .sign | .point | .letter | .exponentSign => False

/-- Any number of digits may stand here. -/
def NumberState.Repeats : NumberState → Prop
  | .digits | .places | .exponent => True
  | .sign | .zero | .point | .letter | .exponentSign => False

section Number

variable (state : NumberState) {opened : List Bracket} {s rest : List Char}

theorem run_number_end (complete : state.Complete) (ends : EndsNumber s) :
    (Scan.number state opened).run s = resume opened s := by
  cases s with
  | nil =>
    cases state <;> first | exact complete.elim | (cases opened with
      | nil => rfl
      | cons b outer => cases b <;> rfl)
  | cons c s =>
    obtain ⟨digit, point, letter⟩ := ends c rfl
    have step : state.step opened c = afterNumber opened c := by
      cases state <;>
        first | exact complete.elim | simp [NumberState.step, digit, point, letter]
    rw [Scan.run_cons, Scan.step, step, run_afterNumber]

theorem run_number_digits (repeats : state.Repeats) {digits : List Char} (h : Digits digits) :
    (Scan.number state opened).run (digits ++ s) = (Scan.number state opened).run s := by
  induction digits with
  | nil => rfl
  | cons c digits ih =>
    obtain ⟨digit, h⟩ := List.forall_mem_cons.mp h
    have step : state.step opened c = .go (.number state opened) := by
      cases state <;> first | exact repeats.elim | simp [NumberState.step, digit]
    rw [List.cons_append, Scan.run_cons, Scan.step, step]
    exact ih h

/-- The digits at the front of a text. -/
theorem digits_split (s : List Char) :
    ∃ digits more, Digits digits ∧ s = digits ++ more ∧ ∀ c ∈ more.head?, c.isDigit = false := by
  refine ⟨s.takeWhile Char.isDigit, s.dropWhile Char.isDigit,
    List.all_eq_true.mp List.all_takeWhile, List.takeWhile_append_dropWhile.symm, fun c hc => ?_⟩
  have first := List.head?_dropWhile_not Char.isDigit s
  rw [Option.mem_def] at hc
  rw [hc] at first
  exact first

/-! ### Accepting numbers -/

theorem run_exponent_end {digits : List Char} (h : Digits digits) (ends : EndsNumber s) :
    (Scan.number .exponent opened).run (digits ++ s) = resume opened s := by
  rw [run_number_digits .exponent trivial h, run_number_end .exponent trivial ends]

/-- A number that may end here may as well go on with an exponent. -/
theorem run_exponent (complete : state.Complete) (other : state ≠ .exponent)
    {exponent : List Char} (h : Exponent exponent) (ends : EndsNumber s) :
    (Scan.number state opened).run (exponent ++ s) = resume opened s := by
  have letters {letter : Char} (isLetter : letter = 'e' ∨ letter = 'E') (s : List Char) :
      (Scan.number state opened).run (letter :: s) = (Scan.number .letter opened).run s := by
    obtain rfl | rfl := isLetter <;> cases state <;>
      first | exact complete.elim | exact absurd rfl other | rfl
  cases h with
  | none => exact run_number_end state complete ends
  | @unsigned letter c more isLetter digit h =>
    have sign : ¬ (c = '+' ∨ c = '-') := by rintro (rfl | rfl) <;> simp at digit
    rw [List.cons_append, List.cons_append, letters isLetter, Scan.run_cons]
    simp only [Scan.step, NumberState.step, digit, if_neg sign, if_true]
    exact run_exponent_end h ends
  | @signed letter sign c more isLetter isSign digit h =>
    rw [List.cons_append, List.cons_append, List.cons_append, letters isLetter, Scan.run_cons]
    simp only [Scan.step, NumberState.step, if_pos isSign, Advance.run]
    rw [Scan.run_cons]
    simp only [Scan.step, NumberState.step, digit, if_true]
    exact run_exponent_end h ends

theorem run_places {digits exponent : List Char} (h : Digits digits) (h' : Exponent exponent)
    (ends : EndsNumber s) :
    (Scan.number .places opened).run (digits ++ (exponent ++ s)) = resume opened s := by
  rw [run_number_digits .places trivial h]
  exact run_exponent .places trivial nofun h' ends

/-- What follows the digits before the point. -/
theorem run_fraction (whole : state = .zero ∨ state = .digits) {fraction exponent : List Char}
    (h : Fraction fraction) (h' : Exponent exponent) (ends : EndsNumber s) :
    (Scan.number state opened).run (fraction ++ (exponent ++ s)) = resume opened s := by
  cases h with
  | none =>
    obtain rfl | rfl := whole
    · exact run_exponent .zero trivial nofun h' ends
    · exact run_exponent .digits trivial nofun h' ends
  | @places c more digit h =>
    have point : (Scan.number state opened).run ('.' :: c :: (more ++ (exponent ++ s))) =
        (Scan.number .point opened).run (c :: (more ++ (exponent ++ s))) := by
      obtain rfl | rfl := whole <;> rfl
    rw [List.cons_append, List.cons_append, point, Scan.run_cons]
    simp only [Scan.step, NumberState.step, digit, if_true]
    exact run_places h h' ends

end Number

theorem startValue_digit {c : Char} (digit : c.isDigit = true) (zero : c ≠ '0')
    (opened : List Bracket) : startValue opened c = .go (.number .digits opened) := by
  have apart {x : Char} (other : x.isDigit = false) : c ≠ x := by
    rintro rfl
    rw [digit] at other
    cases other
  have blank : isBlank c = false := by
    simp [isBlank, apart (x := ' ') (by decide), apart (x := '\t') (by decide),
      apart (x := '\n') (by decide), apart (x := '\r') (by decide)]
  simp [startValue, digit, zero, blank, apart (x := 'n') (by decide), apart (x := 't') (by decide),
    apart (x := 'f') (by decide), apart (x := '-') (by decide)]

section Number

variable {opened : List Bracket} {s rest : List Char}

/-- The digits before the point start a value, or follow its sign. -/
theorem run_whole {scan : Scan} (start : scan = .value opened ∨ scan = .number .sign opened)
    {whole fraction exponent : List Char} (h : Whole whole) (h' : Fraction fraction)
    (h'' : Exponent exponent) (ends : EndsNumber s) :
    scan.run (whole ++ (fraction ++ (exponent ++ s))) = resume opened s := by
  cases h with
  | zero =>
    have step : scan.run (['0'] ++ (fraction ++ (exponent ++ s))) =
        (Scan.number .zero opened).run (fraction ++ (exponent ++ s)) := by
      obtain rfl | rfl := start <;> rfl
    rw [step]
    exact run_fraction .zero (.inl rfl) h' h'' ends
  | @digits c more digit zero h =>
    have step : scan.step c (more ++ (fraction ++ (exponent ++ s))) =
        .go (.number .digits opened) := by
      obtain rfl | rfl := start
      · exact startValue_digit digit zero opened
      · simp [Scan.step, NumberState.step, zero, digit]
    rw [List.cons_append, Scan.run_cons, step, Advance.run, run_number_digits .digits trivial h]
    exact run_fraction .digits (.inr rfl) h' h'' ends

/-- A number is passed over if the text behind it does not go on with it. -/
theorem run_value_number {text : List Char} (h : NumberText text) (ends : EndsNumber s) :
    (Scan.value opened).run (text ++ s) = resume opened s := by
  cases h with
  | positive whole fraction exponent =>
    rw [List.append_assoc, List.append_assoc]
    exact run_whole (.inl rfl) whole fraction exponent ends
  | @negative whole fraction exponent h h' h'' =>
    have step : (Scan.value opened).run ('-' :: (whole ++ (fraction ++ exponent)) ++ s) =
        (Scan.number .sign opened).run (whole ++ (fraction ++ exponent) ++ s) := rfl
    rw [step, List.append_assoc, List.append_assoc]
    exact run_whole (.inr rfl) h h' h'' ends

/-! ### Accepted numbers -/

theorem digits_of_run (state : NumberState) (repeats : state.Repeats)
    (h : (Scan.number state opened).run s = .ok rest) :
    ∃ digits more, Digits digits ∧ s = digits ++ more ∧ (∀ c ∈ more.head?, c.isDigit = false) ∧
      (Scan.number state opened).run more = .ok rest := by
  obtain ⟨digits, more, areDigits, rfl, stops⟩ := digits_split s
  rw [run_number_digits state repeats areDigits] at h
  exact ⟨digits, more, areDigits, rfl, stops, h⟩

/-- Where a number may end and the text does not go on with it, it ends. -/
theorem ends_of_run (state : NumberState) (complete : state.Complete)
    (stops : ∀ c ∈ s.head?, state.step opened c = afterNumber opened c)
    (h : (Scan.number state opened).run s = .ok rest) : resume opened s = .ok rest := by
  cases s with
  | nil =>
    have ends : EndsNumber [] := nofun
    rwa [run_number_end state complete ends] at h
  | cons c s => rwa [Scan.run_cons, Scan.step, stops c rfl, run_afterNumber] at h

theorem exponentDigits_of_run (h : (Scan.number .exponent opened).run s = .ok rest) :
    ∃ digits more, Digits digits ∧ s = digits ++ more ∧ resume opened more = .ok rest := by
  obtain ⟨digits, more, areDigits, rfl, stops, h⟩ := digits_of_run .exponent trivial h
  have ended := ends_of_run .exponent trivial
    (fun c hc => by simp [NumberState.step, stops c hc]) h
  exact ⟨digits, more, areDigits, rfl, ended⟩

theorem exponent_of_letter {letter : Char} (isLetter : letter = 'e' ∨ letter = 'E')
    (h : (Scan.number .letter opened).run s = .ok rest) :
    ∃ exponent more, Exponent exponent ∧ letter :: s = exponent ++ more ∧
      resume opened more = .ok rest := by
  cases s with
  | nil => cases h
  | cons c s =>
    simp only [Scan.run_cons, Scan.step, NumberState.step] at h
    split_ifs at h with sign digit
    · cases s with
      | nil => cases h
      | cons d s =>
        simp only [Advance.run, Scan.run_cons, Scan.step, NumberState.step] at h
        split_ifs at h with digit
        · obtain ⟨digits, more, areDigits, rfl, ended⟩ := exponentDigits_of_run h
          exact ⟨_, more, .signed isLetter sign digit areDigits, rfl, ended⟩
    · obtain ⟨digits, more, areDigits, rfl, ended⟩ := exponentDigits_of_run h
      exact ⟨_, more, .unsigned isLetter digit areDigits, rfl, ended⟩
    · cases h

/-- Where an exponent may stand, the number has one or ends. -/
theorem exponent_of_run (state : NumberState) (complete : state.Complete)
    (other : state ≠ .exponent)
    (stops : ∀ c ∈ s.head?, c.isDigit = false ∧ (state = .places ∨ c ≠ '.'))
    (h : (Scan.number state opened).run s = .ok rest) :
    ∃ exponent more, Exponent exponent ∧ s = exponent ++ more ∧ resume opened more = .ok rest := by
  by_cases letters : ∃ letter more, s = letter :: more ∧ (letter = 'e' ∨ letter = 'E')
  · obtain ⟨letter, more, rfl, isLetter⟩ := letters
    have step : state.step opened letter = .go (.number .letter opened) := by
      obtain rfl | rfl := isLetter <;> cases state <;>
        first | exact complete.elim | exact absurd rfl other | rfl
    rw [Scan.run_cons, Scan.step, step] at h
    exact exponent_of_letter isLetter h
  · refine ⟨[], s, .none, rfl, ends_of_run state complete (fun c hc => ?_) h⟩
    obtain ⟨more, rfl⟩ := List.head?_eq_some_iff.mp hc
    obtain ⟨digit, point⟩ := stops c rfl
    have letter : ¬ (c = 'e' ∨ c = 'E') := fun isLetter => letters ⟨c, more, rfl, isLetter⟩
    cases state <;>
      first | exact complete.elim | exact absurd rfl other | simp_all [NumberState.step]

theorem fraction_of_run (state : NumberState) (whole : state = .zero ∨ state = .digits)
    (stops : ∀ c ∈ s.head?, c.isDigit = false)
    (h : (Scan.number state opened).run s = .ok rest) :
    ∃ fraction exponent more, Fraction fraction ∧ Exponent exponent ∧
      s = fraction ++ (exponent ++ more) ∧ resume opened more = .ok rest := by
  have complete : state.Complete := by obtain rfl | rfl := whole <;> trivial
  have other : state ≠ .exponent := by obtain rfl | rfl := whole <;> nofun
  by_cases point : ∃ more, s = '.' :: more
  · obtain ⟨s, rfl⟩ := point
    have step : state.step opened '.' = .go (.number .point opened) := by
      obtain rfl | rfl := whole <;> rfl
    rw [Scan.run_cons, Scan.step, step] at h
    cases s with
    | nil => cases h
    | cons c s =>
      simp only [Advance.run, Scan.run_cons, Scan.step, NumberState.step] at h
      split_ifs at h with digit
      · obtain ⟨digits, s, areDigits, rfl, stops, h⟩ := digits_of_run .places trivial h
        obtain ⟨exponent, more, isExponent, rfl, ended⟩ :=
          exponent_of_run .places trivial nofun (fun c hc => ⟨stops c hc, .inl rfl⟩) h
        exact ⟨_, exponent, more, .places digit areDigits, isExponent, by simp, ended⟩
  · have noPoint : ∀ c ∈ s.head?, c ≠ '.' := by
      rintro c hc rfl
      exact point (List.head?_eq_some_iff.mp hc)
    obtain ⟨exponent, more, isExponent, rfl, ended⟩ :=
      exponent_of_run state complete other (fun c hc => ⟨stops c hc, .inr (noPoint c hc)⟩) h
    exact ⟨[], exponent, more, .none, isExponent, rfl, ended⟩

/-- A leading zero is followed by no other digit. -/
theorem fraction_of_zero (h : (Scan.number .zero opened).run s = .ok rest) :
    ∃ fraction exponent more, Fraction fraction ∧ Exponent exponent ∧
      s = fraction ++ (exponent ++ more) ∧ resume opened more = .ok rest := by
  refine fraction_of_run .zero (.inl rfl) (fun c hc => ?_) h
  obtain ⟨more, rfl⟩ := List.head?_eq_some_iff.mp hc
  rw [Bool.eq_false_iff]
  intro digit
  simp [Scan.run_cons, Scan.step, NumberState.step, digit, Advance.run] at h

/-- What has been scanned from the digits before the point on. -/
def ScannedWhole (opened : List Bracket) (s rest : List Char) : Prop :=
  ∃ whole fraction exponent more, Whole whole ∧ Fraction fraction ∧ Exponent exponent ∧
    s = whole ++ (fraction ++ (exponent ++ more)) ∧ resume opened more = .ok rest

theorem whole_of_zero (h : (Scan.number .zero opened).run s = .ok rest) :
    ScannedWhole opened ('0' :: s) rest := by
  obtain ⟨fraction, exponent, more, isFraction, isExponent, rfl, ended⟩ := fraction_of_zero h
  exact ⟨['0'], fraction, exponent, more, .zero, isFraction, isExponent, rfl, ended⟩

theorem whole_of_digits {c : Char} (digit : c.isDigit = true) (zero : c ≠ '0')
    (h : (Scan.number .digits opened).run s = .ok rest) :
    ScannedWhole opened (c :: s) rest := by
  obtain ⟨digits, s, areDigits, rfl, stops, h⟩ := digits_of_run .digits trivial h
  obtain ⟨fraction, exponent, more, isFraction, isExponent, rfl, ended⟩ :=
    fraction_of_run .digits (.inr rfl) stops h
  exact ⟨_, fraction, exponent, more, .digits digit zero areDigits, isFraction, isExponent, by simp,
    ended⟩

theorem whole_of_sign (h : (Scan.number .sign opened).run s = .ok rest) :
    ScannedWhole opened s rest := by
  cases s with
  | nil => cases h
  | cons c s =>
    simp only [Scan.run_cons, Scan.step, NumberState.step] at h
    split_ifs at h with zero digit
    · rw [zero]
      exact whole_of_zero h
    · exact whole_of_digits digit zero h
    · cases h

end Number

/-! ## Elements and members -/

/-- In front of the next element of a list. -/
def itemsScan (outer : List Bracket) : Bool → Scan
  | true => .firstElement outer
  | false => .comma .list outer

/-- In front of the next member of an object. -/
def membersScan (outer : List Bracket) : Bool → Scan
  | true => .firstKey outer
  | false => .comma .object outer

section

variable {outer : List Bracket} {first : Bool}

theorem between_items : (itemsScan outer first).Between := by
  cases first <;> trivial

theorem between_members : (membersScan outer first).Between := by
  cases first <;> trivial

theorem run_items_close {blanks : List Char} (h : Blanks blanks) (s : List Char) :
    (itemsScan outer first).run (blanks ++ ']' :: s) = resume outer s := by
  rw [run_blanks between_items h, Scan.run_cons]
  cases first <;> exact run_valueEnd _ _ _

theorem run_items_lead {lead : List Char} (h : Lead first lead) {c : Char}
    (solid : isBlank c = false) (bracket : c ≠ ']') (s : List Char) :
    (itemsScan outer first).run (lead ++ c :: s) = (Scan.value (.list :: outer)).run (c :: s) := by
  cases h with
  | first before =>
    rw [run_blanks between_items before, Scan.run_cons, Scan.run_cons]
    simp [itemsScan, Scan.step, solid, bracket]
  | next before after =>
    have between : (Scan.value (.list :: outer)).Between := trivial
    rw [List.append_assoc, run_blanks between_items before, List.cons_append, Scan.run_cons]
    exact run_blanks between after _

theorem run_members_close {blanks : List Char} (h : Blanks blanks) (s : List Char) :
    (membersScan outer first).run (blanks ++ '}' :: s) = resume outer s := by
  rw [run_blanks between_members h, Scan.run_cons]
  cases first <;> exact run_valueEnd _ _ _

theorem run_members_lead {lead : List Char} (h : Lead first lead) (s : List Char) :
    (membersScan outer first).run (lead ++ '"' :: s) = (Scan.keyText .plain outer).run s := by
  cases h with
  | first before =>
    rw [run_blanks between_members before, Scan.run_cons]
    rfl
  | next before after =>
    have between : (Scan.key outer).Between := trivial
    rw [List.append_assoc, run_blanks between_members before, List.cons_append, Scan.run_cons]
    exact (run_blanks between after _).trans (Scan.run_cons _ _ _)

/-- Behind the opening quote of a key, up to the value. -/
theorem run_key {body before after : List Char} (wellFormed : StringBody body)
    (h : Blanks before) (h' : Blanks after) (s : List Char) :
    (Scan.keyText .plain outer).run (body ++ '"' :: (before ++ ':' :: (after ++ s))) =
      (Scan.value (.object :: outer)).run s := by
  have colon : (Scan.colon outer).Between := trivial
  have value : (Scan.value (.object :: outer)).Between := trivial
  rw [(scansString_key outer).run_body wellFormed, Advance.run, run_blanks colon h, Scan.run_cons]
  exact run_blanks value h' s

end

/-! ## Values -/

namespace Node

theorem WrittenItems.endsNumber {items : List Node} {text : List Char}
    (h : WrittenItems false items text) (s : List Char) : EndsNumber (text ++ s) := by
  cases h with
  | close blanks =>
    rw [List.append_assoc]
    exact endsNumber_blanks blanks (by rintro c ⟨⟩; decide) s
  | item lead value more =>
    rw [List.append_assoc]
    exact endsNumber_lead lead _

theorem WrittenMembers.endsNumber {members : List (List Char × Node)} {text : List Char}
    (h : WrittenMembers false members text) (s : List Char) : EndsNumber (text ++ s) := by
  cases h with
  | close blanks =>
    rw [List.append_assoc]
    exact endsNumber_blanks blanks (by rintro c ⟨⟩; decide) s
  | member lead body before after value more =>
    rw [List.append_assoc]
    exact endsNumber_lead lead _

mutual

theorem run_value : (n : Node) → ∀ {text s : List Char}, n.Written text → EndsNumber s →
    ∀ opened : List Bracket, (Scan.value opened).run (text ++ s) = resume opened s
  | .null, _, s, .null, _, opened => run_word (List.cons_ne_nil 'u' ['l', 'l']) opened s
  | .boolean true, _, s, .boolean true, _, opened =>
    run_word (List.cons_ne_nil 'r' ['u', 'e']) opened s
  | .boolean false, _, s, .boolean false, _, opened =>
    run_word (List.cons_ne_nil 'a' ['l', 's', 'e']) opened s
  | .number _, _, _, .number isNumber, ends, _ => run_value_number isNumber ends
  | .string body, _, s, .string wellFormed, _, opened => by
    have start : (Scan.value opened).run (quoted body ++ s) =
        (Scan.text .plain opened).run (body ++ '"' :: s) := by
      rw [quoted, List.cons_append, List.append_assoc]
      rfl
    rw [start, (scansString_text opened).run_body wellFormed, run_valueEnd]
  | .list items, _, s, .list written, _, opened => run_items items written opened s
  | .object members, _, s, .object written, _, opened => run_members members written opened s

theorem run_items : (items : List Node) → ∀ {first : Bool} {text : List Char},
    WrittenItems first items text → ∀ (outer : List Bracket) (s : List Char),
      (itemsScan outer first).run (text ++ s) = resume outer s
  | [], _, _, .close blanks, outer, s => by
    rw [List.append_assoc]
    exact run_items_close blanks s
  | n :: rest, _, _, .item lead value more, outer, s => by
    obtain ⟨c, cs, rfl, begins⟩ := value.begins
    obtain ⟨solid, bracket⟩ := begins.solid
    have passed := run_value n value (more.endsNumber s) (.list :: outer)
    rw [List.append_assoc, List.append_assoc, List.cons_append, run_items_lead lead solid bracket]
    exact passed.trans (run_items rest more outer s)

theorem run_members : (members : List (List Char × Node)) → ∀ {first : Bool} {text : List Char},
    WrittenMembers first members text → ∀ (outer : List Bracket) (s : List Char),
      (membersScan outer first).run (text ++ s) = resume outer s
  | [], _, _, .close blanks, outer, s => by
    rw [List.append_assoc]
    exact run_members_close blanks s
  | (_, n) :: rest, _, _, .member lead wellFormed before after value more, outer, s => by
    have passed := run_value n value (more.endsNumber s) (.object :: outer)
    simp only [quoted, List.append_assoc, List.cons_append, List.nil_append]
    rw [run_members_lead lead, run_key wellFormed before after, passed]
    exact run_members rest more outer s

end

end Node

/-! ## What is passed over -/

/-- The text goes on behind a value and closes these brackets, up to `rest`. -/
def Closes : List Bracket → List Char → List Char → Prop
  | [], s, rest => s = rest
  | .list :: outer, s, rest => ∃ items text more, Node.WrittenItems false items text ∧
      s = text ++ more ∧ Closes outer more rest
  | .object :: outer, s, rest => ∃ members text more, Node.WrittenMembers false members text ∧
      s = text ++ more ∧ Closes outer more rest

/-- The text goes on with a value and closes these brackets, up to `rest`. -/
def Holds (opened : List Bracket) (s rest : List Char) : Prop :=
  ∃ blanks n text more, Blanks blanks ∧ Node.Written n text ∧ s = blanks ++ (text ++ more) ∧
    Closes opened more rest

theorem length_lt_append_cons (before more : List Char) (c : Char) :
    more.length < (before ++ c :: more).length := by
  rw [List.length_append, List.length_cons]
  omega

/-- What a scanner accepts of this text up to `rest` is written there. -/
structure Passed (rest s : List Char) : Prop where
  value : ∀ opened, (Scan.value opened).run s = .ok rest → Holds opened s rest
  behind : ∀ opened, resume opened s = .ok rest → Closes opened s rest

theorem Lead.append {first : Bool} {lead blanks : List Char} (h : Lead first lead)
    (h' : Blanks blanks) : Lead first (lead ++ blanks) := by
  cases h with
  | first before => exact .first (List.forall_mem_append.mpr ⟨before, h'⟩)
  | next before after =>
    rw [List.append_assoc, List.cons_append]
    exact .next before (List.forall_mem_append.mpr ⟨after, h'⟩)

section

variable {s rest : List Char} {outer opened : List Bracket}

/-- Between two tokens, an accepted text goes on with a token. -/
theorem token_of_run (scan : Scan) (between : scan.Between) (h : scan.run s = .ok rest) :
    ∃ blanks c more, Blanks blanks ∧ s = blanks ++ c :: more ∧ isBlank c = false ∧
      (scan.step c more).run c more = .ok rest := by
  obtain ⟨blanks, areBlanks, split⟩ := skipBlanks_split s
  rw [split, run_blanks between areBlanks] at h
  cases token : skipBlanks s with
  | nil =>
    rw [token] at h
    cases scan with
    | comma b => cases b <;> cases h
    | keyText | text | number | word => exact between.elim
    | _ => cases h
  | cons c more =>
    rw [token, Scan.run_cons] at h
    rw [token] at split
    exact ⟨blanks, c, more, areBlanks, split, solid_of_skipBlanks token, h⟩

theorem items_of_holds {first : Bool} {lead : List Char} (h : Lead first lead)
    (holds : Holds (.list :: outer) s rest) :
    ∃ items text more, Node.WrittenItems first items text ∧ lead ++ s = text ++ more ∧
      Closes outer more rest := by
  obtain ⟨blanks, n, text, _, areBlanks, written, rfl, items, text', more, others, rfl, closes⟩ :=
    holds
  exact ⟨n :: items, _, more, .item (h.append areBlanks) written others, by simp, closes⟩

theorem items_of_firstElement (ih : ∀ t, t.length ≤ s.length → Passed rest t)
    (h : (Scan.firstElement outer).run s = .ok rest) :
    ∃ items text more, Node.WrittenItems true items text ∧ s = text ++ more ∧
      Closes outer more rest := by
  obtain ⟨blanks, c, more, areBlanks, rfl, solid, step⟩ :=
    token_of_run (.firstElement outer) trivial h
  simp only [Scan.step, solid, Bool.false_eq_true, if_false] at step
  split_ifs at step with bracket
  · rw [run_valueEnd] at step
    have shorter := Nat.le_of_lt (length_lt_append_cons blanks more c)
    have closes := (ih more shorter).behind outer step
    exact ⟨[], _, more, .close areBlanks, by simp [bracket], closes⟩
  · have start : (Scan.value (.list :: outer)).run (c :: more) = .ok rest := by
      rw [Scan.run_cons]
      exact step
    have reaches : (c :: more).length ≤ (blanks ++ c :: more).length := by
      rw [List.length_append]
      exact Nat.le_add_left _ _
    exact items_of_holds (.first areBlanks) ((ih (c :: more) reaches).value _ start)

theorem closes_list (ih : ∀ t, t.length < s.length → Passed rest t)
    (h : (Scan.comma .list outer).run s = .ok rest) : Closes (.list :: outer) s rest := by
  obtain ⟨blanks, c, more, areBlanks, rfl, solid, step⟩ :=
    token_of_run (.comma .list outer) trivial h
  simp only [Scan.step, afterValue, solid, Bool.false_eq_true, if_false] at step
  split_ifs at step with comma bracket
  · have holds := (ih more (length_lt_append_cons _ _ _)).value _ step
    have lead : Lead false (blanks ++ [',']) := .next areBlanks blanks_nil
    obtain ⟨items, text, more', written, split, closes⟩ := items_of_holds lead holds
    exact ⟨items, text, more', written, by rw [← split]; simp [comma], closes⟩
  · rw [run_valueEnd] at step
    have closes := (ih more (length_lt_append_cons _ _ _)).behind outer step
    exact ⟨[], _, more, .close areBlanks, by simp [bracket], closes⟩
  · cases step

/-- A member, its value and the others, from behind the opening quote of its key. -/
theorem members_of_key (ih : ∀ t, t.length < s.length → Passed rest t)
    (h : (Scan.keyText .plain outer).run s = .ok rest) {first : Bool} {lead : List Char}
    (leads : Lead first lead) :
    ∃ members text more, Node.WrittenMembers first members text ∧ lead ++ '"' :: s = text ++ more ∧
      Closes outer more rest := by
  obtain ⟨body, more, wellFormed, rfl, behind⟩ := (scansString_key outer).body_of_run h
  obtain ⟨before, c, more, areBlanks, rfl, solid, step⟩ :=
    token_of_run (.colon outer) trivial behind
  simp only [Scan.step, solid, Bool.false_eq_true, if_false] at step
  split_ifs at step with colon
  · have shorter := Nat.lt_trans (length_lt_append_cons before more c)
      (length_lt_append_cons body (before ++ c :: more) '"')
    obtain ⟨after, n, text, _, areBlanks', written, rfl, members, text', more, others, rfl,
      closes⟩ := (ih more shorter).value _ step
    exact ⟨(body, n) :: members, _, more,
      .member leads wellFormed areBlanks areBlanks' written others, by simp [quoted, colon],
      closes⟩
  · cases step

theorem members_of_firstKey (ih : ∀ t, t.length < s.length → Passed rest t)
    (h : (Scan.firstKey outer).run s = .ok rest) :
    ∃ members text more, Node.WrittenMembers true members text ∧ s = text ++ more ∧
      Closes outer more rest := by
  obtain ⟨blanks, c, more, areBlanks, rfl, solid, step⟩ :=
    token_of_run (.firstKey outer) trivial h
  simp only [Scan.step, solid, Bool.false_eq_true, if_false] at step
  split_ifs at step with brace quote
  · rw [run_valueEnd] at step
    have closes := (ih more (length_lt_append_cons _ _ _)).behind outer step
    exact ⟨[], _, more, .close areBlanks, by simp [brace], closes⟩
  · rw [quote]
    have ih' : ∀ t, t.length < more.length → Passed rest t :=
      fun t shorter => ih t (Nat.lt_trans shorter (length_lt_append_cons _ _ _))
    exact members_of_key ih' step (.first areBlanks)
  · cases step

theorem closes_object (ih : ∀ t, t.length < s.length → Passed rest t)
    (h : (Scan.comma .object outer).run s = .ok rest) : Closes (.object :: outer) s rest := by
  obtain ⟨blanks, c, more, areBlanks, rfl, solid, step⟩ :=
    token_of_run (.comma .object outer) trivial h
  simp only [Scan.step, afterValue, solid, Bool.false_eq_true, if_false] at step
  split_ifs at step with comma brace
  · obtain ⟨blanks', d, more, areBlanks', rfl, solid', step'⟩ :=
      token_of_run (.key outer) trivial step
    simp only [Scan.step, solid', Bool.false_eq_true, if_false] at step'
    split_ifs at step' with quote
    · have lead : Lead false (blanks ++ ',' :: blanks') := .next areBlanks areBlanks'
      have ih' : ∀ t, t.length < more.length → Passed rest t := fun t shorter => ih t <|
        Nat.lt_trans (Nat.lt_trans shorter (length_lt_append_cons _ _ _))
          (length_lt_append_cons _ _ _)
      obtain ⟨members, text, more', written, split, closes⟩ :=
        members_of_key ih' step' lead
      exact ⟨members, text, more', written, by rw [← split]; simp [comma, quote], closes⟩
    · cases step'
  · rw [run_valueEnd] at step
    have closes := (ih more (length_lt_append_cons _ _ _)).behind outer step
    exact ⟨[], _, more, .close areBlanks, by simp [brace], closes⟩
  · cases step

/-- A value with something behind it that is passed over too. -/
theorem holds_of_written (ih : ∀ t, t.length < s.length → Passed rest t) {n : Node}
    {text more : List Char} (written : n.Written text) (split : s = text ++ more)
    (h : resume opened more = .ok rest) : Holds opened s rest := by
  obtain ⟨c, cs, rfl, -⟩ := written.begins
  have shorter : more.length < s.length := by
    simp only [split, List.length_append, List.length_cons]
    omega
  have closes := (ih more shorter).behind opened h
  exact ⟨[], n, _, more, blanks_nil, written, split, closes⟩

theorem holds_of_token (ih : ∀ t, t.length < s.length → Passed rest t) {c : Char}
    {more : List Char} (token : s = c :: more) (solid : isBlank c = false)
    (step : (startValue opened c).run c more = .ok rest) : Holds opened s rest := by
  by_cases n : c = 'n'
  · subst n
    obtain ⟨behind, rfl, resumed⟩ := word_of_run step
    exact holds_of_written ih .null token resumed
  by_cases t : c = 't'
  · subst t
    obtain ⟨behind, rfl, resumed⟩ := word_of_run step
    exact holds_of_written ih (.boolean true) token resumed
  by_cases f : c = 'f'
  · subst f
    obtain ⟨behind, rfl, resumed⟩ := word_of_run step
    exact holds_of_written ih (.boolean false) token resumed
  by_cases minus : c = '-'
  · subst minus
    obtain ⟨whole, fraction, exponent, behind, h, h', h'', rfl, resumed⟩ := whole_of_sign step
    exact holds_of_written ih (.number (.negative h h' h'')) (by simp [token]) resumed
  by_cases zero : c = '0'
  · subst zero
    obtain ⟨whole, fraction, exponent, behind, h, h', h'', split, resumed⟩ := whole_of_zero step
    exact holds_of_written ih (.number (.positive h h' h'')) (by simp [token, split]) resumed
  by_cases digit : c.isDigit = true
  · rw [startValue_digit digit zero] at step
    obtain ⟨whole, fraction, exponent, behind, h, h', h'', split, resumed⟩ :=
      whole_of_digits digit zero step
    exact holds_of_written ih (.number (.positive h h' h'')) (by simp [token, split]) resumed
  by_cases quote : c = '"'
  · subst quote
    obtain ⟨body, behind, wellFormed, rfl, resumed⟩ := (scansString_text opened).body_of_run step
    rw [run_valueEnd] at resumed
    exact holds_of_written ih (.string wellFormed) (by simp [token, quoted]) resumed
  by_cases bracket : c = '['
  · subst bracket token
    obtain ⟨items, text, behind, written, rfl, closes⟩ :=
      items_of_firstElement (fun t shorter => ih t (Nat.lt_succ_of_le shorter)) step
    exact ⟨[], .list items, _, behind, blanks_nil, .list written, rfl, closes⟩
  by_cases brace : c = '{'
  · subst brace token
    obtain ⟨members, text, behind, written, rfl, closes⟩ :=
      members_of_firstKey (fun t shorter => ih t (Nat.lt_succ_of_lt shorter)) step
    exact ⟨[], .object members, _, behind, blanks_nil, .object written, rfl, closes⟩
  have fault : startValue opened c = .fault .expectedValue := by
    simp [startValue, solid, n, t, f, minus, zero, digit, quote, bracket, brace]
  rw [fault] at step
  cases step

theorem holds_of_value (ih : ∀ t, t.length < s.length → Passed rest t)
    (h : (Scan.value opened).run s = .ok rest) : Holds opened s rest := by
  obtain ⟨blanks, c, more, areBlanks, rfl, solid, step⟩ := token_of_run (.value opened) trivial h
  have ih' : ∀ t, t.length < (c :: more).length → Passed rest t := by
    intro t shorter
    refine ih t (Nat.lt_of_lt_of_le shorter ?_)
    rw [List.length_append]
    exact Nat.le_add_left _ _
  obtain ⟨blanks', n, text, behind, areBlanks', written, split, closes⟩ :=
    holds_of_token ih' rfl solid step
  exact ⟨blanks ++ blanks', n, text, behind, List.forall_mem_append.mpr ⟨areBlanks, areBlanks'⟩,
    written, by rw [split, List.append_assoc], closes⟩

/-- Nothing but layouts is passed over. -/
theorem passed (rest s : List Char) : Passed rest s := by
  induction n : s.length using Nat.strongRecOn generalizing s with
  | ind n ih =>
    subst n
    have shorter : ∀ t, t.length < s.length → Passed rest t := fun t h => ih _ h t rfl
    refine ⟨fun opened h => holds_of_value shorter h, fun opened h => ?_⟩
    match opened with
    | [] => exact Except.ok.inj h
    | .list :: outer => exact closes_list shorter h
    | .object :: outer => exact closes_object shorter h

end

/-! ## The whole scanner -/

/-- A layout is passed over, blanks in front of it included. -/
theorem skipValue_written {n : Node} {blanks text s : List Char} (h : Blanks blanks)
    (written : n.Written text) (ends : EndsNumber s) :
    skipValue (blanks ++ (text ++ s)) = .ok s := by
  have between : (Scan.value []).Between := trivial
  rw [skipValue, run_blanks between h, n.run_value written ends]
  rfl

/-- What is passed over is a layout. -/
theorem skipValue_ok {s rest : List Char} (h : skipValue s = .ok rest) :
    ∃ blanks n text, Blanks blanks ∧ Node.Written n text ∧ s = blanks ++ (text ++ rest) := by
  obtain ⟨blanks, n, text, more, areBlanks, written, rfl, rfl⟩ := (passed rest s).value [] h
  exact ⟨blanks, n, text, areBlanks, written, rfl⟩

end Tablecast.Json
