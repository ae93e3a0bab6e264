import Tablecast.Proofs.Toml.LineEnd

/-!
# What follows a value

A string, a key or a value that can be read is read the same, and up to the same place, if another
line follows the text. More fuel changes nothing either.

* `persists_readString`: strings, also those on several lines,
* `persists_readKeyPath`: keys,
* `persists_read`: values, with arrays and tables inside them.
-/

namespace Tablecast.Toml

variable {α : Type}

/-- What one reader reads the other reads too, and up to the same place, if another line follows. -/
def Persists (f g : List Char → Option (α × List Char)) : Prop :=
  ∀ ⦃s a r⦄, f s = some (a, r) → ∀ t, g (s ++ '\n' :: t) = some (a, r ++ '\n' :: t)

/-! ## Strings -/

theorem readBasic_append {state : BasicState} {acc s a r : List Char}
    (h : readBasic state acc s = some (a, r)) (u : List Char) :
    readBasic state acc (s ++ u) = some (a, r ++ u) := by
  induction s generalizing state acc with
  | nil => simp [readBasic] at h
  | cons c s ih =>
    rw [List.cons_append]
    cases state with
    | plain =>
      rw [readBasic] at h ⊢
      split_ifs at h ⊢ with quote slash plain
      · simp_all
      · exact ih h
      · exact ih h
    | escape | number =>
      rw [readBasic] at h ⊢
      split at h
      · exact ih h
      · exact ih h
      · cases h

theorem readLiteral_append {acc s a r : List Char} (h : readLiteral acc s = some (a, r))
    (u : List Char) : readLiteral acc (s ++ u) = some (a, r ++ u) := by
  induction s generalizing acc with
  | nil => simp [readLiteral] at h
  | cons c s ih =>
    rw [List.cons_append]
    rw [readLiteral] at h ⊢
    split_ifs at h ⊢ with quote plain
    · simp_all
    · exact ih h

theorem eq_of_feed {c : Char} {s t u : List Char} (h : s ++ '\n' :: t = c :: u) :
    s = [] ∧ c = '\n' ∨ ∃ s', s = c :: s' ∧ s' ++ '\n' :: t = u := by
  cases s with
  | nil => exact .inl ⟨rfl, (List.cons.inj h).1.symm⟩
  | cons d s =>
    obtain ⟨rfl, later⟩ := List.cons.inj h
    exact .inr ⟨s, rfl, later⟩

theorem ne_cons_feed {q : Char} (other : q ≠ '\n') {s : List Char} (h : ∀ u, s ≠ q :: u)
    (t u : List Char) : s ++ '\n' :: t ≠ q :: u := by
  intro same
  obtain ⟨-, feed⟩ | ⟨s', rfl, -⟩ := eq_of_feed same
  · exact other feed
  · exact h s' rfl

theorem ne_cons_cons_feed {q : Char} (other : q ≠ '\n') {s : List Char}
    (h : ∀ u, s ≠ q :: q :: u) (t u : List Char) : s ++ '\n' :: t ≠ q :: q :: u := by
  intro same
  obtain ⟨-, feed⟩ | ⟨s', rfl, later⟩ := eq_of_feed same
  · exact other feed
  · exact ne_cons_feed other (fun u same => h u (same ▸ rfl)) t u later

/-- What a reader of several lines does with a character that closes nothing and ends no line. -/
theorem readBasicLines_plain {c : Char} {s : List Char}
    (noClose : c = '"' → ∀ u, s ≠ '"' :: '"' :: u) (noReturn : c = '\r' → ∀ u, s ≠ '\n' :: u)
    (dropping : Bool) (acc : List Char) :
    readBasicLines (.plain dropping) acc (c :: s) =
      if c = '\n' then readBasicLines (.plain dropping) (if dropping then acc else c :: acc) s
      else if isBlank c && dropping then readBasicLines (.plain true) acc s
      else if c = '\\' then readBasicLines .escape acc s
      else if isPlain c then readBasicLines (.plain false) (c :: acc) s
      else none := by
  rw [readBasicLines]
  · rintro u rfl rfl
    exact noClose rfl _ rfl
  · rintro u rfl rfl
    exact noClose rfl _ rfl
  · rintro u rfl rfl
    exact noClose rfl _ rfl
  · rintro u rfl rfl
    exact noReturn rfl _ rfl

theorem ne_return {p : Char → Bool} {c : Char} (h : p c = true) (other : p '\r' = false) :
    c ≠ '\r' := by
  rintro rfl
  rw [other] at h
  cases h

theorem readBasicLines_feed {state : LinesState} {acc s a r : List Char}
    (h : readBasicLines state acc s = some (a, r)) (t : List Char) :
    readBasicLines state acc (s ++ '\n' :: t) = some (a, r ++ '\n' :: t) := by
  have noReturn {c : Char} {s : List Char} (plain : c ≠ '\r') :
      c = '\r' → ∀ u, s ++ '\n' :: t ≠ '\n' :: u :=
    fun same => absurd same plain
  have noClose' {c : Char} {s : List Char} (noClose : ∀ u, c = '"' → s = '"' :: '"' :: u → False) :
      c = '"' → ∀ u, s ++ '\n' :: t ≠ '"' :: '"' :: u :=
    fun quote => ne_cons_cons_feed (by decide) (fun u => noClose u quote) t
  fun_induction readBasicLines state acc s with
  | case1 =>
    cases h
    rfl
  | case2 dropping acc s noFifth =>
    cases h
    rw [List.cons_append, List.cons_append, List.cons_append, List.cons_append, readBasicLines]
    exact ne_cons_feed (by decide) noFifth t
  | case3 dropping acc s noFifth noFourth =>
    cases h
    rw [List.cons_append, List.cons_append, List.cons_append, readBasicLines]
    · exact ne_cons_cons_feed (by decide) noFifth t
    · exact ne_cons_feed (by decide) noFourth t
  | case4 dropping acc s ih =>
    rw [List.cons_append, List.cons_append, readBasicLines]
    exact ih h
  | case5 dropping acc s _ _ noClose _ ih =>
    rw [List.cons_append, readBasicLines_plain (noClose' noClose) (noReturn (by decide)),
      if_pos rfl]
    exact ih h
  | case6 dropping acc c s _ _ noClose _ noFeed dropped ih =>
    have blank := (Bool.and_eq_true_iff.mp dropped).1
    rw [List.cons_append, readBasicLines_plain (noClose' noClose)
      (noReturn (ne_return blank (by decide))), if_neg noFeed, if_pos dropped]
    exact ih h
  | case7 dropping acc s _ _ noClose _ noFeed kept ih =>
    rw [List.cons_append, readBasicLines_plain (noClose' noClose) (noReturn (by decide)),
      if_neg noFeed, if_neg kept, if_pos rfl]
    exact ih h
  | case8 dropping acc c s _ _ noClose _ noFeed kept noSlash plain ih =>
    rw [List.cons_append, readBasicLines_plain (noClose' noClose)
      (noReturn (ne_return plain (by decide))), if_neg noFeed, if_neg kept, if_neg noSlash,
      if_pos plain]
    exact ih h
  | case10 acc s ih =>
    rw [List.cons_append, List.cons_append, readBasicLines]
    exact ih h
  | case11 acc s _ ih =>
    rw [List.cons_append, readBasicLines, if_pos rfl]
    · exact ih h
    · exact fun u same => absurd same (by decide)
  | case12 acc c s _ noFeed blank ih =>
    rw [List.cons_append, readBasicLines, if_neg noFeed, if_pos blank]
    · exact ih h
    · exact fun u same => absurd same (ne_return blank (by decide))
  | case13 acc c s _ noFeed solid x start ih =>
    rw [List.cons_append, readBasicLines, if_neg noFeed, if_neg solid, start]
    · exact ih h
    · rintro u rfl
      cases start
  | case14 acc c s _ noFeed solid n start ih =>
    rw [List.cons_append, readBasicLines, if_neg noFeed, if_neg solid, start]
    · exact ih h
    · rintro u rfl
      cases start
  | case16 acc s ih =>
    rw [List.cons_append, List.cons_append, readBasicLines]
    exact ih h
  | case17 acc s _ ih =>
    rw [List.cons_append, readBasicLines, if_pos rfl]
    · exact ih h
    · exact fun u same => absurd same (by decide)
  | case18 acc c s _ noFeed blank ih =>
    rw [List.cons_append, readBasicLines, if_neg noFeed, if_pos blank]
    · exact ih h
    · exact fun u same => absurd same (ne_return blank (by decide))
  | case20 left value acc c s x step ih =>
    rw [List.cons_append, readBasicLines, step]
    exact ih h
  | case21 left value acc c s x step ih =>
    rw [List.cons_append, readBasicLines, step]
    exact ih h
  | _ => cases h

theorem readLiteralLines_plain {acc : List Char} {c : Char} {s : List Char}
    (noClose : c = '\'' → ∀ u, s ≠ '\'' :: '\'' :: u) (noReturn : c = '\r' → ∀ u, s ≠ '\n' :: u) :
    readLiteralLines acc (c :: s) =
      if c = '\n' || isPlain c then readLiteralLines (c :: acc) s else none := by
  rw [readLiteralLines]
  · rintro u rfl rfl
    exact noClose rfl _ rfl
  · rintro u rfl rfl
    exact noClose rfl _ rfl
  · rintro u rfl rfl
    exact noClose rfl _ rfl
  · rintro u rfl rfl
    exact noReturn rfl _ rfl

theorem readLiteralLines_feed {acc s a r : List Char} (h : readLiteralLines acc s = some (a, r))
    (t : List Char) : readLiteralLines acc (s ++ '\n' :: t) = some (a, r ++ '\n' :: t) := by
  fun_induction readLiteralLines acc s with
  | case1 =>
    cases h
    rfl
  | case2 acc s noFifth =>
    cases h
    rw [List.cons_append, List.cons_append, List.cons_append, List.cons_append, readLiteralLines]
    exact ne_cons_feed (by decide) noFifth t
  | case3 acc s noFifth noFourth =>
    cases h
    rw [List.cons_append, List.cons_append, List.cons_append, readLiteralLines]
    · exact ne_cons_cons_feed (by decide) noFifth t
    · exact ne_cons_feed (by decide) noFourth t
  | case4 acc s ih =>
    rw [List.cons_append, List.cons_append, readLiteralLines]
    exact ih h
  | case5 acc c s noFifth noFourth noClose noReturn stands ih =>
    have kept := @readLiteralLines_plain acc c (s ++ '\n' :: t)
      (fun quote => ne_cons_cons_feed (by decide) (fun u => noClose u quote) t)
      fun carriage => absurd stands (by rw [carriage]; decide)
    rw [List.cons_append, kept, if_pos stands]
    exact ih h
  | _ => cases h

/-- A line end at the start is dropped, and the carriage return of none is not read. -/
theorem dropNewline_feed {s : List Char} (filled : s ≠ []) (noReturn : s ≠ ['\r']) (t : List Char) :
    dropNewline (s ++ '\n' :: t) = dropNewline s ++ '\n' :: t := by
  unfold dropNewline
  fun_cases newline? s with
  | case1 rest => rfl
  | case2 rest => rfl
  | case3 _ noFeed noPair =>
    obtain ⟨c, s, rfl⟩ := List.exists_cons_of_ne_nil filled
    have notFeed : c ≠ '\n' := by
      rintro rfl
      exact noFeed s rfl
    have none : newline? (c :: s ++ '\n' :: t) = none := by
      rw [List.cons_append, newline?]
      · exact fun u same => absurd (List.cons.inj same).1 notFeed
      · intro u same
        obtain ⟨rfl, later⟩ := List.cons.inj same
        obtain ⟨rfl, -⟩ | ⟨s', rfl, -⟩ := eq_of_feed later
        · exact noReturn rfl
        · exact noPair s' rfl
    rw [none]
    rfl

theorem persists_readString : Persists readString readString := by
  intro s a r
  fun_cases readString s with
  | case1 s =>
    intro h t
    have filled : s ≠ [] := by
      rintro rfl
      cases h
    have noReturn : s ≠ ['\r'] := by
      rintro rfl
      cases h
    rw [List.cons_append, List.cons_append, List.cons_append, readString,
      dropNewline_feed filled noReturn]
    exact readBasicLines_feed h t
  | case2 s noThree =>
    intro h t
    rw [List.cons_append, readString]
    · exact readBasic_append h _
    · exact ne_cons_cons_feed (by decide) noThree t
  | case3 s =>
    intro h t
    have filled : s ≠ [] := by
      rintro rfl
      cases h
    have noReturn : s ≠ ['\r'] := by
      rintro rfl
      cases h
    rw [List.cons_append, List.cons_append, List.cons_append, readString,
      dropNewline_feed filled noReturn]
    exact readLiteralLines_feed h t
  | case4 s noThree =>
    intro h t
    rw [List.cons_append, readString]
    · exact readLiteral_append h _
    · exact ne_cons_cons_feed (by decide) noThree t
  | case5 => exact nofun

/-! ## Keys -/

theorem persists_readKey : Persists readKey readKey := by
  intro s a r
  fun_cases readKey s with
  | case1 s => exact fun h t => readBasic_append h _
  | case2 s => exact fun h t => readLiteral_append h _
  | case3 => exact nofun
  | case4 s noQuote noApostrophe key =>
    intro h t
    cases h
    rw [readKey]
    · rw [takeWhile_feed (by decide), dropWhile_feed (by decide)]
      split
      · next empty => exact absurd empty key
      · rfl
    · exact ne_cons_feed (by decide) noQuote t
    · exact ne_cons_feed (by decide) noApostrophe t

theorem persists_readKeys (n : Nat) : Persists (readKeys n) (readKeys n) := by
  induction n with
  | zero => exact nofun
  | succ n ih =>
    intro s a r h t
    obtain ⟨⟨key, s₁⟩, first, h⟩ := Option.bind_eq_some_iff.mp h
    have first' := persists_readKey first t
    rw [← skipBlanks_feed] at first'
    rw [readKeys, first']
    dsimp only [Option.bind_eq_bind, Option.bind_some] at h ⊢
    rw [skipBlanks_feed]
    generalize skipBlanks s₁ = u at h ⊢
    rcases u with _ | ⟨c, u⟩
    · cases h
      rfl
    · by_cases point : c = '.'
      · subst point
        obtain ⟨⟨keys, rest⟩, later, h⟩ := Option.bind_eq_some_iff.mp h
        cases h
        change (readKeys n (u ++ '\n' :: t)).bind _ = _
        rw [ih later t]
        rfl
      · split at h
        · next same => exact absurd (List.cons.inj same).1 point
        · cases h
          rw [List.cons_append]
          split
          · next same => exact absurd (List.cons.inj same).1 point
          · rfl

theorem persists_readKeyPath : Persists readKeyPath readKeyPath := by
  intro s a r h t
  obtain ⟨⟨keys, rest⟩, read, h⟩ := Option.bind_eq_some_iff.mp h
  rw [readKeyPath, persists_readKeys deepestKey read t]
  obtain ⟨last, found, h⟩ := Option.bind_eq_some_iff.mp h
  cases h
  dsimp only [Option.bind_eq_bind, Option.bind_some]
  rw [found]
  rfl

/-! ## Values -/

theorem skipLines_cons {c : Char} (noReturn : c ≠ '\r') (inComment : Bool) (s : List Char) :
    skipLines inComment (c :: s) =
      if c = '\n' then skipLines false s
      else if inComment then (if isPlain c then skipLines true s else c :: s)
      else if c = '#' then skipLines true s
      else if isBlank c then skipLines false s
      else c :: s := by
  rw [skipLines]
  exact fun u same => absurd same noReturn

/-- What is found behind blanks and comments is found there, whatever follows. -/
theorem skipLines_append {inComment : Bool} {s r : List Char} {c : Char}
    (h : skipLines inComment s = c :: r) (noReturn : c ≠ '\r') (u : List Char) :
    skipLines inComment (s ++ u) = c :: (r ++ u) := by
  fun_induction skipLines inComment s with
  | case1 inComment s ih =>
    rw [List.cons_append, List.cons_append, skipLines]
    exact ih h
  | case2 inComment s _ ih =>
    rw [List.cons_append, skipLines_cons (by decide), if_pos rfl]
    exact ih h
  | case3 d s _ noFeed plain ih =>
    rw [List.cons_append, skipLines_cons (ne_return plain (by decide)), if_neg noFeed, if_pos rfl,
      if_pos plain]
    exact ih h
  | case4 d s _ noFeed strange =>
    cases h
    rw [List.cons_append, skipLines_cons noReturn, if_neg noFeed, if_pos rfl, if_neg strange]
  | case5 inComment s outside _ noFeed ih =>
    rw [List.cons_append, skipLines_cons (by decide), if_neg noFeed, if_neg outside, if_pos rfl]
    exact ih h
  | case6 inComment d s _ noFeed outside noHash blank ih =>
    rw [List.cons_append, skipLines_cons (ne_return blank (by decide)), if_neg noFeed,
      if_neg outside, if_neg noHash, if_pos blank]
    exact ih h
  | case7 inComment d s _ noFeed outside noHash solid =>
    cases h
    rw [List.cons_append, skipLines_cons noReturn, if_neg noFeed, if_neg outside, if_neg noHash,
      if_neg solid]
  | case8 => cases h

theorem skipScalar_nil : skipScalar [] = none := by decide

theorem readFixed_return (n : Nat) (s : List Char) : readFixed (n + 1) ('\r' :: s) = none := by
  simp [readFixed]

theorem skipScalar_return (s : List Char) : skipScalar ('\r' :: s) = none := by
  have date : skipDate ('\r' :: s) = none := by
    rw [skipDate, readFixed_return 3]
    rfl
  have time : skipTime ('\r' :: s) = none := by
    rw [skipTime, readPart, readFixed_return 1]
    rfl
  have moment : skipMoment ('\r' :: s) = none := by
    rw [skipMoment, date, time]
  rw [skipScalar, moment]
  rfl

section Step

variable {n m : Nat} (values : ∀ depth, Persists (readValue n depth) (readValue m depth))
  (items : ∀ depth acc, Persists (readItems n depth acc) (readItems m depth acc))
  (pairs : ∀ depth members, Persists (readPairs n depth members) (readPairs m depth members))

/-- Nothing is read off a text that is empty or begins with a carriage return. -/
theorem exists_of_readValue {depth : Nat} {s : List Char} {p : Item × List Char}
    (h : readValue n depth s = some p) : ∃ c s', s = c :: s' ∧ c ≠ '\r' := by
  cases n with
  | zero => cases h
  | succ n =>
    rcases s with _ | ⟨c, s⟩
    · rw [readValue, skipScalar_nil] at h
      · cases h
      all_goals exact nofun
    · refine ⟨c, s, rfl, ?_⟩
      rintro rfl
      rw [readValue, skipScalar_return] at h
      · cases h
      all_goals exact fun u same => absurd (List.cons.inj same).1 (by decide)

/-- What is read behind the brace of a table and the blanks there. -/
def readBrace (n depth : Nat) (s : List Char) : Option (Item × List Char) :=
  match s with
  | '}' :: rest => some (.inlineTable [], rest)
  | s => readPairs n depth [] s

include pairs in
theorem persists_readBrace (depth : Nat) : Persists (readBrace n depth) (readBrace m depth) := by
  intro s a r h t
  rcases s with _ | ⟨c, s⟩
  · exact pairs depth [] h t
  · by_cases close : c = '}'
    · subst close
      cases h
      rfl
    · have others (k : Nat) (u : List Char) :
          readBrace k depth (c :: u) = readPairs k depth [] (c :: u) := by
        rw [readBrace]
        exact fun rest same => close (List.cons.inj same).1
      rw [others] at h
      rw [List.cons_append, others]
      exact pairs depth [] h t

include items pairs in
theorem persists_readValue_succ (depth : Nat) :
    Persists (readValue (n + 1) depth) (readValue (m + 1) depth) := by
  intro s a r h t
  rw [readValue.eq_def] at h
  dsimp only at h
  have text {s : List Char} (h : (readString s).map (fun p => (Item.text (.ofList p.1), p.2)) =
      some (a, r)) : (readString (s ++ '\n' :: t)).map (fun p => (Item.text (.ofList p.1), p.2)) =
      some (a, r ++ '\n' :: t) := by
    obtain ⟨⟨text, rest⟩, read, same⟩ := Option.map_eq_some_iff.mp h
    cases same
    rw [persists_readString read t]
    rfl
  split at h
  · rw [List.cons_append, readValue]
    exact text h
  · rw [List.cons_append, readValue]
    exact text h
  · rw [List.cons_append, readValue.eq_def]
    cases depth with
    | zero => cases h
    | succ depth => exact items depth [] h t
  · next inner =>
    rw [List.cons_append, readValue.eq_def]
    cases depth with
    | zero => cases h
    | succ depth =>
      change readBrace m depth (skipBlanks (inner ++ '\n' :: t)) = _
      rw [skipBlanks_feed]
      exact persists_readBrace pairs depth h t
  · next noQuote noApostrophe noBracket noBrace =>
    obtain ⟨rest, read, same⟩ := Option.map_eq_some_iff.mp h
    cases same
    rw [readValue]
    · rw [lineBoundSkip_skipScalar, read]
      rfl
    · exact ne_cons_feed (by decide) noQuote t
    · exact ne_cons_feed (by decide) noApostrophe t
    · exact ne_cons_feed (by decide) noBracket t
    · exact ne_cons_feed (by decide) noBrace t

include values items in
theorem persists_readItems_succ (depth : Nat) (acc : List Item) :
    Persists (readItems (n + 1) depth acc) (readItems (m + 1) depth acc) := by
  intro s a r h t
  rw [readItems.eq_def] at h ⊢
  dsimp only at h ⊢
  generalize start : skipLines false s = u at h
  rcases u with _ | ⟨c, u⟩
  · obtain ⟨p, read, -⟩ := Option.bind_eq_some_iff.mp h
    obtain ⟨_, _, same, -⟩ := exists_of_readValue read
    cases same
  · by_cases close : c = ']'
    · subst close
      cases h
      rw [skipLines_append start (by decide)]
      rfl
    · split at h
      · next same => exact absurd (List.cons.inj same).1 close
      · obtain ⟨⟨item, s₁⟩, read, h⟩ := Option.bind_eq_some_iff.mp h
        obtain ⟨d, u', same, noReturn⟩ := exists_of_readValue read
        cases same
        rw [skipLines_append start noReturn]
        split
        · next same => exact absurd (List.cons.inj same).1 close
        · have item' := values depth read t
          rw [List.cons_append] at item'
          rw [item']
          dsimp only [Option.bind_eq_bind, Option.bind_some] at h ⊢
          generalize next : skipLines false s₁ = v at h
          split at h
          · rw [skipLines_append next (by decide)]
            exact items depth _ h t
          · cases h
            rw [skipLines_append next (by decide)]
            rfl
          · cases h

include values pairs in
theorem persists_readPairs_succ (depth : Nat) (members : Members) :
    Persists (readPairs (n + 1) depth members) (readPairs (m + 1) depth members) := by
  intro s a r h t
  rw [readPairs] at h ⊢
  obtain ⟨⟨path, s₁⟩, key, h⟩ := Option.bind_eq_some_iff.mp h
  obtain ⟨s₂, equals, h⟩ := Option.bind_eq_some_iff.mp h
  obtain ⟨⟨item, s₃⟩, read, h⟩ := Option.bind_eq_some_iff.mp h
  obtain ⟨members', assigned, h⟩ := Option.bind_eq_some_iff.mp h
  have equals' := lineBoundSkip_expect (c := '=') (by decide) s₁ t
  have item' := values depth read t
  rw [← skipBlanks_feed] at item'
  rw [persists_readKeyPath key t]
  dsimp only [Option.bind_eq_bind, Option.bind_some] at h ⊢
  rw [equals', equals]
  dsimp only [Option.map_some, Option.bind_some]
  rw [item']
  dsimp only [Option.bind_some]
  rw [assigned]
  dsimp only [Option.bind_some]
  rw [skipBlanks_feed]
  generalize skipBlanks s₃ = v at h ⊢
  split at h
  · exact pairs depth _ h t
  · cases h
    rfl
  · cases h

end Step

/-- **A value is read the same if another line follows,** with as much fuel or more. -/
theorem persists_read {n m : Nat} (more : n ≤ m) :
    (∀ depth, Persists (readValue n depth) (readValue m depth)) ∧
      (∀ depth acc, Persists (readItems n depth acc) (readItems m depth acc)) ∧
      ∀ depth members, Persists (readPairs n depth members) (readPairs m depth members) := by
  induction n generalizing m with
  | zero => exact ⟨fun _ => nofun, fun _ _ => nofun, fun _ _ => nofun⟩
  | succ n ih =>
    obtain ⟨m, rfl⟩ := Nat.exists_eq_add_of_lt more
    obtain ⟨values, items, pairs⟩ := ih (m := n + m) (by omega)
    exact ⟨persists_readValue_succ items pairs, persists_readItems_succ values items,
      persists_readPairs_succ values pairs⟩

end Tablecast.Toml
