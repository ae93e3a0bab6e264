import Mathlib.Tactic.SplitIfs
import Tablecast.Toml.Reader

/-!
# Where lines end

No scalar and no key goes past a line feed, and their readers take one for the end of the text. So
what stands on a line is read the same whatever the lines behind it hold.

* `LineBound.bind`, `LineBoundSkip.bind`: readers one behind the other;
* `lineBoundSkip_skipScalar`: scalars of every kind.
-/

namespace Tablecast.Toml

variable {α β : Type}

/-- The reader takes a line feed for the end of the text. -/
def LineBound (f : List Char → Option (α × List Char)) : Prop :=
  ∀ s t, f (s ++ '\n' :: t) = (f s).map fun p => (p.1, p.2 ++ '\n' :: t)

/-- The same of a reader that returns nothing but what follows. -/
def LineBoundSkip (f : List Char → Option (List Char)) : Prop :=
  ∀ s t, f (s ++ '\n' :: t) = (f s).map (· ++ '\n' :: t)

theorem LineBound.bind {f : List Char → Option (α × List Char)}
    {g : α → List Char → Option (β × List Char)} (hf : LineBound f) (hg : ∀ a, LineBound (g a)) :
    LineBound fun s => (f s).bind fun p => g p.1 p.2 := by
  intro s t
  dsimp only
  rw [hf]
  cases f s with
  | none => rfl
  | some p => exact hg p.1 p.2 t

theorem LineBound.bindSkip {f : List Char → Option (α × List Char)}
    {g : α → List Char → Option (List Char)} (hf : LineBound f) (hg : ∀ a, LineBoundSkip (g a)) :
    LineBoundSkip fun s => (f s).bind fun p => g p.1 p.2 := by
  intro s t
  dsimp only
  rw [hf]
  cases f s with
  | none => rfl
  | some p => exact hg p.1 p.2 t

theorem LineBoundSkip.bindSkip {f g : List Char → Option (List Char)} (hf : LineBoundSkip f)
    (hg : LineBoundSkip g) : LineBoundSkip fun s => (f s).bind g := by
  intro s t
  dsimp only
  rw [hf]
  cases f s with
  | none => rfl
  | some r => exact hg r t

theorem LineBoundSkip.orElse {f g : List Char → Option (List Char)} (hf : LineBoundSkip f)
    (hg : LineBoundSkip g) : LineBoundSkip fun s => f s <|> g s := by
  intro s t
  dsimp only
  rw [hf, hg]
  cases f s <;> rfl

theorem lineBoundSkip_some : LineBoundSkip some := fun _ _ => rfl

theorem dropWhile_feed {p : Char → Bool} (stops : p '\n' = false) (s t : List Char) :
    (s ++ '\n' :: t).dropWhile p = s.dropWhile p ++ '\n' :: t := by
  rw [List.dropWhile_append]
  split
  · next all =>
    rw [List.isEmpty_iff.mp all, List.dropWhile_cons_of_neg (by simp [stops])]
    rfl
  · rfl

theorem takeWhile_feed {p : Char → Bool} (stops : p '\n' = false) (s t : List Char) :
    (s ++ '\n' :: t).takeWhile p = s.takeWhile p := by
  rw [List.takeWhile_append]
  split
  · next all =>
    rw [List.takeWhile_cons_of_neg (by simp [stops]), List.append_nil,
      (List.takeWhile_prefix p).eq_of_length all]
  · rfl

theorem skipBlanks_feed (s t : List Char) :
    skipBlanks (s ++ '\n' :: t) = skipBlanks s ++ '\n' :: t :=
  dropWhile_feed (by decide) s t

/-! ## Parts -/

theorem lineBound_readFixed (n : Nat) : LineBound (readFixed n) := by
  intro s t
  unfold readFixed
  dsimp only
  by_cases long : n ≤ s.length
  · rw [List.take_append_of_le_length long, List.drop_append_of_le_length long]
    split <;> rfl
  · have short : ¬ ((s ++ '\n' :: t).take n).all Char.isDigit = true := by
      have feed : '\n' ∈ (s ++ '\n' :: t).take n := by
        rw [List.take_append, List.take_cons (by omega)]
        simp
      intro digits
      exact absurd (List.all_eq_true.mp digits _ feed) (by decide)
    have none : ¬ (s.take n).length = n := by
      rw [List.length_take]
      omega
    rw [if_neg (fun h => short h.2), if_neg (fun h => none h.1)]
    rfl

theorem lineBoundSkip_expect {c : Char} (other : c ≠ '\n') : LineBoundSkip (expect c) := by
  intro s t
  cases s with
  | nil => simp [expect, other.symm]
  | cons d s =>
    rw [List.cons_append, expect, expect]
    split <;> rfl

theorem lineBound_readPart (low high : Nat) : LineBound (readPart low high) := by
  refine (lineBound_readFixed 2).bind
    (g := fun n rest => if low ≤ n ∧ n ≤ high then some (n, rest) else none) fun n s t => ?_
  dsimp only
  split <;> rfl

theorem lineBoundSkip_skipWord {word : String} (single : '\n' ∉ word.toList) :
    LineBoundSkip (skipWord word) := by
  intro s t
  unfold skipWord
  have same : word.toList.isPrefixOf (s ++ '\n' :: t) = word.toList.isPrefixOf s := by
    rw [Bool.eq_iff_iff, List.isPrefixOf_iff_prefix, List.isPrefixOf_iff_prefix]
    refine ⟨fun begins => ?_, fun begins => begins.trans (List.prefix_append s _)⟩
    have nested := List.prefix_or_prefix_of_prefix begins (List.prefix_append s _)
    rcases nested with inside | ⟨more, whole⟩
    · exact inside
    · rw [← whole, List.prefix_append_right_inj] at begins
      cases more with
      | nil => simp [← whole]
      | cons c more =>
        obtain ⟨rfl, -⟩ := List.cons_prefix_cons.mp begins
        exact absurd (whole ▸ by simp) single
  rw [same]
  split
  · next begins =>
    have long : word.length ≤ s.length := by
      rw [← String.length_toList]
      exact (List.isPrefixOf_iff_prefix.mp begins).length_le
    rw [List.drop_append_of_le_length long]
    rfl
  · rfl

theorem lineBoundSkip_ite {p : Prop} [Decidable p] {f g : List Char → Option (List Char)}
    (hf : LineBoundSkip f) (hg : LineBoundSkip g) :
    LineBoundSkip fun s => if p then f s else g s := by
  intro s t
  dsimp only
  split
  · exact hf s t
  · exact hg s t

/-! ## Moments -/

theorem lineBoundSkip_skipDate : LineBoundSkip skipDate := by
  have dash : LineBoundSkip (expect '-') := lineBoundSkip_expect (by decide)
  exact (lineBound_readFixed 4).bindSkip fun year =>
    dash.bindSkip ((lineBound_readPart 1 12).bindSkip fun month =>
      dash.bindSkip ((lineBound_readPart 1 (Calendar.daysInMonth year month)).bindSkip fun _ =>
        lineBoundSkip_some))

/-- What follows the seconds and their fraction. -/
def skipPlaces (s : List Char) : Option (List Char) :=
  match s with
  | '.' :: c :: rest => some (if c.isDigit then rest.dropWhile Char.isDigit else s)
  | _ => some s

theorem lineBoundSkip_skipPlaces : LineBoundSkip skipPlaces := by
  intro s t
  rcases s with _ | ⟨c, _ | ⟨d, s⟩⟩
  · simp [skipPlaces]
  · by_cases point : c = '.'
    · subst point
      simp [skipPlaces]
    · simp [skipPlaces, point]
  · by_cases point : c = '.'
    · subst point
      cases digit : d.isDigit <;> simp [skipPlaces, digit, dropWhile_feed]
    · simp [skipPlaces, point]

theorem lineBoundSkip_skipTime : LineBoundSkip skipTime := by
  have colon : LineBoundSkip (expect ':') := lineBoundSkip_expect (by decide)
  exact (lineBound_readPart 0 23).bindSkip fun _ =>
    colon.bindSkip ((lineBound_readPart 0 59).bindSkip fun _ =>
      colon.bindSkip ((lineBound_readPart 0 60).bindSkip fun _ => lineBoundSkip_skipPlaces))

theorem lineBoundSkip_skipOffset : LineBoundSkip skipOffset := by
  have offset : LineBoundSkip fun s => (readPart 0 23 s).bind fun p =>
      (expect ':' p.2).bind fun s => (readPart 0 59 s).bind fun q => some q.2 :=
    (lineBound_readPart 0 23).bindSkip fun _ =>
      (lineBoundSkip_expect (by decide)).bindSkip
        ((lineBound_readPart 0 59).bindSkip fun _ => lineBoundSkip_some)
  intro s t
  rcases s with _ | ⟨c, s⟩
  · rfl
  · by_cases zulu : c = 'Z' ∨ c = 'z'
    · rcases zulu with rfl | rfl <;> rfl
    · by_cases sign : c = '+' ∨ c = '-'
      · rcases sign with rfl | rfl <;> exact offset s t
      · obtain ⟨noZ, noz⟩ := not_or.mp zulu
        obtain ⟨noPlus, noMinus⟩ := not_or.mp sign
        simp [skipOffset, noZ, noz, noPlus, noMinus]

/-- What follows the time behind a date, or the date if there is none. -/
def behindDate (rest s : List Char) : Option (List Char) :=
  match skipTime s with
  | some rest => skipOffset rest
  | none => some rest

theorem behindDate_feed (rest s t : List Char) :
    behindDate (rest ++ '\n' :: t) (s ++ '\n' :: t) =
      (behindDate rest s).map (· ++ '\n' :: t) := by
  unfold behindDate
  rw [lineBoundSkip_skipTime]
  cases skipTime s with
  | none => rfl
  | some rest => exact lineBoundSkip_skipOffset rest t

theorem lineBoundSkip_skipMoment : LineBoundSkip skipMoment := by
  intro s t
  unfold skipMoment
  rw [lineBoundSkip_skipDate]
  cases skipDate s with
  | none => exact lineBoundSkip_skipTime s t
  | some rest =>
    rcases rest with _ | ⟨c, s⟩
    · rfl
    · by_cases separator : c = 'T' ∨ c = 't' ∨ c = ' '
      · rcases separator with rfl | rfl | rfl <;> exact behindDate_feed _ s t
      · simp only [not_or] at separator
        simp [separator]

/-! ## Numbers -/

theorem takeDigits_cons {isDigit : Char → Bool} {c : Char} (other : c ≠ '_') (s : List Char) :
    takeDigits isDigit (c :: s) =
      if isDigit c then (c :: (takeDigits isDigit s).1, (takeDigits isDigit s).2)
      else ([], c :: s) := by
  rw [takeDigits.eq_2 isDigit c s fun _ _ same => absurd same other]

theorem takeDigits_feed {isDigit : Char → Bool} (stops : isDigit '\n' = false)
    (between : isDigit '_' = false) (s t : List Char) :
    takeDigits isDigit (s ++ '\n' :: t) =
      ((takeDigits isDigit s).1, (takeDigits isDigit s).2 ++ '\n' :: t) := by
  fun_induction takeDigits isDigit s with
  | case1 c s digit digits rest read ih =>
    rw [List.cons_append, List.cons_append, takeDigits, if_pos digit, ih, read]
  | case2 c s other => rw [List.cons_append, List.cons_append, takeDigits, if_neg other]
  | case3 c s _ digit digits rest read ih =>
    have notBetween : c ≠ '_' := by
      rintro rfl
      rw [between] at digit
      cases digit
    rw [List.cons_append, takeDigits_cons notBetween, if_pos digit, ih, read]
  | case4 c s lone other =>
    by_cases underscore : c = '_'
    · cases s with
      | nil => simp [underscore, takeDigits, stops]
      | cons d s => exact (lone d s underscore rfl).elim
    · rw [List.cons_append, takeDigits_cons underscore, if_neg other]
  | case5 => simp [takeDigits, stops]

theorem lineBound_readDigits {isDigit : Char → Bool} (stops : isDigit '\n' = false)
    (between : isDigit '_' = false) : LineBound (readDigits isDigit) := by
  intro s t
  cases s with
  | nil => simp [readDigits, stops]
  | cons c s =>
    have digits := takeDigits_feed stops between (c :: s) t
    rw [List.cons_append] at digits ⊢
    rw [readDigits, readDigits, digits]
    split <;> rfl

theorem lineBound_isDigit : LineBound (readDigits Char.isDigit) :=
  lineBound_readDigits (by decide) (by decide)

theorem lineBoundSkip_skipRadix (radix : Nat) : LineBoundSkip (skipRadix radix) :=
  (@lineBound_readDigits (isDigitOf radix) rfl rfl).bindSkip
    (g := fun digits rest => if valueIn radix digits < 0x8000000000000000 then some rest else none)
    fun _ => lineBoundSkip_ite lineBoundSkip_some fun _ _ => rfl

theorem lineBound_readWhole : LineBound readWhole := by
  intro s t
  rcases s with _ | ⟨c, s⟩
  · rfl
  · by_cases zero : c = '0'
    · subst zero
      rfl
    · simpa [readWhole, zero] using lineBound_isDigit (c :: s) t

theorem readSign_feed (s t : List Char) :
    readSign (s ++ '\n' :: t) = ((readSign s).1, (readSign s).2 ++ '\n' :: t) := by
  rcases s with _ | ⟨c, s⟩
  · rfl
  · by_cases sign : c = '+' ∨ c = '-'
    · rcases sign with rfl | rfl <;> rfl
    · obtain ⟨noPlus, noMinus⟩ := not_or.mp sign
      simp [readSign, noPlus, noMinus]

theorem lineBound_readExponent : LineBound readExponent := by
  intro s t
  unfold readExponent
  rw [readSign_feed]
  exact (lineBound_isDigit).bind
    (g := fun digits rest => some (if (readSign s).1 then -(valueIn 10 digits : Int)
      else valueIn 10 digits, rest)) (fun _ _ _ => rfl) (readSign s).2 t

/-- The digits behind a point, if there is one. -/
def readPlaces : List Char → Option (List Char × List Char)
  | '.' :: s => readDigits Char.isDigit s
  | s => some ([], s)

/-- The power of ten, if there is one. -/
def readPower : List Char → Option (Int × List Char)
  | 'e' :: s | 'E' :: s => readExponent s
  | s => some (0, s)

theorem skipFraction_eq (negative : Bool) (whole s : List Char) :
    skipFraction negative whole s = (readPlaces s).bind fun p => (readPower p.2).bind fun e =>
      if !negative && overflows (whole ++ p.1) (e.1 - p.1.length) then none else some e.2 := by
  have power (places s : List Char) : (readPower s).bind (fun e =>
      if !negative && overflows (whole ++ places) (e.1 - places.length) then none
      else some e.2) = match s with
        | 'e' :: s | 'E' :: s => (readExponent s).bind fun e =>
          if !negative && overflows (whole ++ places) (e.1 - places.length) then none
          else some e.2
        | s => if !negative && overflows (whole ++ places) (0 - places.length) then none
          else some s := by
    unfold readPower
    split <;> rfl
  simp only [power]
  unfold skipFraction
  split
  · rfl
  · next other =>
    rw [readPlaces.eq_2 _ other]
    rfl

theorem lineBoundSkip_skipFraction (negative : Bool) (whole : List Char) :
    LineBoundSkip (skipFraction negative whole) := by
  have places : LineBound readPlaces := by
    intro s t
    rcases s with _ | ⟨c, s⟩
    · rfl
    · by_cases point : c = '.'
      · subst point
        exact lineBound_isDigit s t
      · simp [readPlaces, point]
  have power : LineBound readPower := by
    intro s t
    rcases s with _ | ⟨c, s⟩
    · rfl
    · by_cases mark : c = 'e' ∨ c = 'E'
      · rcases mark with rfl | rfl <;> exact lineBound_readExponent s t
      · obtain ⟨small, capital⟩ := not_or.mp mark
        simp [readPower, small, capital]
  intro s t
  rw [skipFraction_eq, skipFraction_eq]
  exact places.bindSkip (fun places => power.bindSkip
    (g := fun exponent rest =>
      if !negative && overflows (whole ++ places) (exponent - places.length) then none
      else some rest)
    fun exponent => lineBoundSkip_ite (fun _ _ => rfl) lineBoundSkip_some) s t

/-- What follows the number that begins with these digits. -/
def behindWhole (negative : Bool) (whole rest : List Char) : Option (List Char) :=
  match rest with
  | '.' :: _ | 'e' :: _ | 'E' :: _ => skipFraction negative whole rest
  | _ => if isWord negative (valueIn 10 whole) then some rest else none

theorem lineBoundSkip_behindWhole (negative : Bool) (whole : List Char) :
    LineBoundSkip (behindWhole negative whole) := by
  have integer : LineBoundSkip fun rest =>
      if isWord negative (valueIn 10 whole) then some rest else none :=
    lineBoundSkip_ite lineBoundSkip_some fun _ _ => rfl
  intro s t
  rcases s with _ | ⟨c, s⟩
  · exact integer [] t
  · by_cases mark : c = '.' ∨ c = 'e' ∨ c = 'E'
    · have fraction := lineBoundSkip_skipFraction negative whole (c :: s) t
      rcases mark with rfl | rfl | rfl <;> exact fraction
    · simp only [not_or] at mark
      simp [behindWhole, mark]

theorem lineBoundSkip_skipDecimal : LineBoundSkip skipDecimal := by
  intro s t
  unfold skipDecimal
  rw [readSign_feed]
  exact lineBound_readWhole.bindSkip (fun whole => lineBoundSkip_behindWhole (readSign s).1 whole)
    (readSign s).2 t

theorem lineBoundSkip_skipNumber : LineBoundSkip skipNumber := by
  intro s t
  rcases s with _ | ⟨c, _ | ⟨d, s⟩⟩
  · exact lineBoundSkip_skipDecimal [] t
  · simpa [skipNumber] using lineBoundSkip_skipDecimal [c] t
  · by_cases radix : c = '0' ∧ (d = 'x' ∨ d = 'o' ∨ d = 'b')
    · obtain ⟨rfl, rfl | rfl | rfl⟩ := radix <;> exact lineBoundSkip_skipRadix _ s t
    · have decimal (u : List Char) : skipNumber (c :: d :: u) = skipDecimal (c :: d :: u) := by
        rw [skipNumber]
        all_goals grind
      rw [List.cons_append, List.cons_append, decimal, decimal]
      exact lineBoundSkip_skipDecimal (c :: d :: s) t

theorem lineBoundSkip_skipSpecial : LineBoundSkip skipSpecial := by
  have words : LineBoundSkip fun s => skipWord "inf" s <|> skipWord "nan" s :=
    (lineBoundSkip_skipWord (by decide)).orElse (lineBoundSkip_skipWord (by decide))
  intro s t
  unfold skipSpecial
  rw [readSign_feed]
  exact words (readSign s).2 t

/-- **A scalar ends where its line does.** -/
theorem lineBoundSkip_skipScalar : LineBoundSkip skipScalar :=
  (lineBoundSkip_skipWord (by decide)).orElse ((lineBoundSkip_skipWord (by decide)).orElse
    (lineBoundSkip_skipMoment.orElse
      (lineBoundSkip_skipNumber.orElse lineBoundSkip_skipSpecial)))

end Tablecast.Toml
