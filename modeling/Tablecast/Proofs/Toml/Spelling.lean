import Tablecast.Proofs.Text.Blank
import Tablecast.Proofs.Toml.Lines

/-!
# Spelled strings and arrays

A basic string is read as the text that it spells, in whatever way: a character as itself, behind a
backslash, or by its number. An array of basic strings is read as the list of what they spell,
however long it is.

* `readString_spelled`, `exists_basicString`: every text has a spelling, and is read from each;
* `readItems_spelled`, `readValue_spelled`: arrays of strings, and values of both kinds;
* `isAssignment_spelled`: lines that assign either to a key.
-/

namespace Tablecast.Toml

open Text (hexDigit?_digitChar takeWhile_append_mark dropWhile_append_mark)

/-! ## Characters -/

/-- The letters behind a backslash, and the characters that they stand for. -/
def escapes : List (Char × Char) :=
  [('b', '\x08'), ('t', '\t'), ('n', '\n'), ('f', '\x0c'), ('r', '\r'), ('"', '"'), ('\\', '\\')]

/-- The marks of character numbers, and how many digits stand behind them. -/
def numberMarks : List (Char × Nat) := [('u', 4), ('U', 8)]

/-- What spells a character between the quotes of a basic string. -/
inductive SpellsChar : Char → List Char → Prop
  | plain {c : Char} (stands : isPlain c = true) (noQuote : c ≠ '"') (noSlash : c ≠ '\\') :
      SpellsChar c [c]
  | escape {letter c : Char} (known : (letter, c) ∈ escapes) : SpellsChar c ['\\', letter]
  | number {mark c : Char} {count : Nat} {digits : List Char} (known : (mark, count) ∈ numberMarks)
      (length : digits.length = count) (hex : ∀ d ∈ digits, (hexDigit? d).isSome)
      (value : valueIn 16 digits = c.toNat) : SpellsChar c ('\\' :: mark :: digits)

/-- What spells a text between the quotes of a basic string. -/
inductive SpellsText : List Char → List Char → Prop
  | nil : SpellsText [] []
  | cons {c : Char} {spelled s body : List Char} (first : SpellsChar c spelled)
      (later : SpellsText s body) : SpellsText (c :: s) (spelled ++ body)

/-- A basic string on one line, with its quotes. -/
inductive BasicString (s : String) : List Char → Prop
  | quoted {body : List Char} (spells : SpellsText s.toList body) :
      BasicString s ('"' :: (body ++ ['"']))

theorem SpellsText.append {s t body rest : List Char} (h : SpellsText s body)
    (later : SpellsText t rest) : SpellsText (s ++ t) (body ++ rest) := by
  induction h with
  | nil => exact later
  | cons first _ ih =>
    rw [List.append_assoc]
    exact .cons first ih

/-- Characters without a meaning of their own spell themselves. -/
theorem spellsText_plain {s : List Char}
    (plain : s.all fun c => isPlain c && c ≠ '"' && c ≠ '\\') : SpellsText s s := by
  induction s with
  | nil => exact .nil
  | cons c s ih =>
    simp only [List.all_cons, Bool.and_eq_true, decide_eq_true_eq] at plain
    obtain ⟨⟨⟨stands, noQuote⟩, noSlash⟩, later⟩ := plain
    exact .cons (.plain stands noQuote noSlash) (ih (by simpa using later))

theorem escapeStart?_of_mem : ∀ e ∈ escapes, escapeStart? e.1 = some (.inl e.2) := by decide

theorem escapeStart?_of_mark : ∀ m ∈ numberMarks, escapeStart? m.1 = some (.inr m.2) := by decide

/-- The digits of a number, up to the last one. -/
theorem readBasic_number {digits : List Char} (hex : ∀ d ∈ digits, (hexDigit? d).isSome)
    (filled : digits ≠ []) {c : Char} {value : Nat}
    (total : digits.foldl (fun n d => 16 * n + (hexDigit? d).getD 0) value = c.toNat)
    (acc rest : List Char) :
    readBasic (.number digits.length value) acc (digits ++ rest) =
      readBasic .plain (c :: acc) rest := by
  induction digits generalizing value with
  | nil => exact absurd rfl filled
  | cons d digits ih =>
    obtain ⟨first, others⟩ := List.forall_mem_cons.mp hex
    obtain ⟨n, digit⟩ := Option.isSome_iff_exists.mp first
    rw [List.foldl_cons, digit, Option.getD_some] at total
    rw [List.cons_append, readBasic]
    cases digits with
    | nil =>
      have valid : charOf? (16 * value + n) = some c := by
        rw [List.foldl_nil] at total
        have isChar : c.toNat.isValidChar := c.valid
        rw [total, charOf?, if_pos isChar, Char.ofNat_toNat]
      have step : numberStep? [d].length value d = some (.inl c) := by
        simp [numberStep?, digit, valid]
      rw [step]
      rfl
    | cons e digits =>
      have step : numberStep? (d :: e :: digits).length value d = some (.inr (16 * value + n)) := by
        simp [numberStep?, digit]
      rw [step]
      exact ih others (List.cons_ne_nil _ _) total

theorem readBasic_spellsChar {c : Char} {spelled : List Char} (h : SpellsChar c spelled)
    (acc rest : List Char) :
    readBasic .plain acc (spelled ++ rest) = readBasic .plain (c :: acc) rest := by
  cases h with
  | plain stands noQuote noSlash =>
    rw [List.singleton_append, readBasic, if_neg noQuote, if_neg noSlash, if_pos stands]
  | @escape letter _ known =>
    have start := escapeStart?_of_mem _ known
    dsimp only at start
    rw [List.cons_append, List.singleton_append, readBasic, if_neg (by decide), if_pos rfl,
      readBasic, start]
  | @number mark _ count digits known length hex value =>
    have start := escapeStart?_of_mark _ known
    have filled : digits ≠ [] := by
      rintro rfl
      have counts : ∀ m ∈ numberMarks, m.2 ≠ 0 := by decide
      exact counts _ known length.symm
    dsimp only at start
    rw [List.cons_append, List.cons_append, readBasic, if_neg (by decide), if_pos rfl, readBasic,
      start, ← length]
    exact readBasic_number hex filled value acc rest

theorem readBasic_spellsText {s body : List Char} (h : SpellsText s body) (acc rest : List Char) :
    readBasic .plain acc (body ++ '"' :: rest) = some (acc.reverse ++ s, rest) := by
  induction h generalizing acc with
  | nil => simp [readBasic]
  | cons first _ ih =>
    rw [List.append_assoc, readBasic_spellsChar first, ih]
    simp

/-- What spells a text does not begin with a quote. -/
theorem SpellsText.ne_quote {s body : List Char} (h : SpellsText s body) (u : List Char) :
    body ≠ '"' :: u := by
  intro same
  cases h with
  | nil => cases same
  | cons first later =>
    cases first with
    | plain _ noQuote _ => exact noQuote (List.cons.inj same).1
    | escape _ => cases same
    | number _ _ _ _ => cases same

/-- **A basic string is read as the text that it spells,** unless more quotes follow. -/
theorem readString_spelled {s : String} {text : List Char} (h : BasicString s text)
    {rest : List Char} (noQuote : ∀ u, rest ≠ '"' :: u) :
    readString (text ++ rest) = some (s.toList, rest) := by
  cases h with
  | @quoted body spells =>
    have three : ∀ u, body ++ '"' :: rest ≠ '"' :: '"' :: u := by
      intro u same
      cases body with
      | nil => exact noQuote u (List.cons.inj same).2
      | cons c body => exact spells.ne_quote body (by rw [(List.cons.inj same).1])
    have whole : '"' :: (body ++ ['"']) ++ rest = '"' :: (body ++ '"' :: rest) := by simp
    rw [whole, readString]
    · exact readBasic_spellsText spells [] rest
    · exact three

/-! ## Every text has a spelling -/

/-- The last `count` digits of a number in base sixteen. -/
def hexDigits : Nat → Nat → List Char
  | 0, _ => []
  | count + 1, n => hexDigits count (n / 16) ++ [(n % 16).digitChar]

theorem length_hexDigits (count n : Nat) : (hexDigits count n).length = count := by
  induction count generalizing n with
  | zero => rfl
  | succ count ih => simp [hexDigits, ih]

theorem isSome_of_mem_hexDigits {count n : Nat} :
    ∀ d ∈ hexDigits count n, (hexDigit? d).isSome := by
  induction count generalizing n with
  | zero => exact nofun
  | succ count ih =>
    rw [hexDigits, List.forall_mem_append, List.forall_mem_singleton,
      hexDigit?_digitChar _ (Nat.mod_lt _ (by decide))]
    exact ⟨ih, rfl⟩

theorem valueIn_hexDigits (count n : Nat) :
    valueIn 16 (hexDigits count n) = n % Nat.pow 16 count := by
  change _ = n % 16 ^ count
  induction count generalizing n with
  | zero => simp [hexDigits, valueIn, Nat.mod_one]
  | succ count ih =>
    have before := ih (n / 16)
    unfold valueIn at before ⊢
    rw [hexDigits, List.foldl_append, before, List.foldl_cons, List.foldl_nil,
      hexDigit?_digitChar _ (Nat.mod_lt _ (by decide)), Option.getD_some, Nat.pow_succ',
      Nat.mod_mul]
    omega

/-- The number of a character, in eight digits. -/
theorem spellsChar_number (c : Char) : SpellsChar c ('\\' :: 'U' :: hexDigits 8 c.toNat) := by
  refine .number (show ('U', 8) ∈ numberMarks by decide) (length_hexDigits 8 _)
    isSome_of_mem_hexDigits ?_
  have large : Nat.pow 16 8 = 0x100000000 := rfl
  have valid : c.toNat.isValidChar := c.valid
  unfold Nat.isValidChar at valid
  rw [valueIn_hexDigits, large, Nat.mod_eq_of_lt]
  omega

theorem exists_basicString (s : String) : ∃ text, BasicString s text := by
  have body : ∀ t : List Char, ∃ body, SpellsText t body := by
    intro t
    induction t with
    | nil => exact ⟨[], .nil⟩
    | cons c t ih =>
      obtain ⟨body, spells⟩ := ih
      exact ⟨_, .cons (spellsChar_number c) spells⟩
  obtain ⟨text, spells⟩ := body s.toList
  exact ⟨_, .quoted spells⟩

/-! ## Arrays -/

/-- Nothing but spaces and tabs. -/
def IsGap (b : List Char) : Prop := ∀ c ∈ b, isBlank c = true

instance (b : List Char) : Decidable (IsGap b) :=
  decidable_of_iff (b.all isBlank = true) List.all_eq_true

/-- An array of basic strings behind its bracket, or behind one of its commas. A comma may stand
behind the last string. -/
inductive SpellsItems : List String → List Char → Prop
  | close {gap : List Char} (before : IsGap gap) : SpellsItems [] (gap ++ [']'])
  | last {s : String} {gap text gap' : List Char} (before : IsGap gap) (string : BasicString s text)
      (behind : IsGap gap') : SpellsItems [s] (gap ++ (text ++ (gap' ++ [']'])))
  | next {s : String} {ss : List String} {gap text gap' more : List Char} (before : IsGap gap)
      (string : BasicString s text) (behind : IsGap gap') (later : SpellsItems ss more) :
      SpellsItems (s :: ss) (gap ++ (text ++ (gap' ++ ',' :: more)))

/-- What spells an item: a basic string, or an array of them. -/
inductive SpellsItem : Item → List Char → Prop
  | text {s : String} {text : List Char} (string : BasicString s text) : SpellsItem (.text s) text
  | array {ss : List String} {text : List Char} (items : SpellsItems ss text) :
      SpellsItem (.array (ss.map .text)) ('[' :: text)

theorem exists_spellsItem_text (s : String) : ∃ text, SpellsItem (.text s) text := by
  obtain ⟨text, string⟩ := exists_basicString s
  exact ⟨text, .text string⟩

theorem exists_spellsItem_array (ss : List String) :
    ∃ text, SpellsItem (.array (ss.map .text)) text := by
  have none : IsGap [] := nofun
  have items : ∃ text, SpellsItems ss text := by
    induction ss with
    | nil => exact ⟨_, .close none⟩
    | cons s ss ih =>
      obtain ⟨text, string⟩ := exists_basicString s
      obtain ⟨more, later⟩ := ih
      exact ⟨_, .next none string none later⟩
  obtain ⟨text, spells⟩ := items
  exact ⟨_, .array spells⟩

theorem IsGap.ne_quote {gap : List Char} (h : IsGap gap) {s : List Char}
    (other : ∀ u, s ≠ '"' :: u) (u : List Char) : gap ++ s ≠ '"' :: u := by
  cases gap with
  | nil => exact other u
  | cons d gap =>
    intro same
    have blank := h d List.mem_cons_self
    rw [(List.cons.inj same).1] at blank
    exact absurd blank (by decide)

theorem skipLines_gap {gap : List Char} (h : IsGap gap) (s : List Char) :
    skipLines false (gap ++ s) = skipLines false s := by
  induction gap with
  | nil => rfl
  | cons c gap ih =>
    obtain ⟨blank, more⟩ := List.forall_mem_cons.mp h
    have noFeed : c ≠ '\n' := by
      rintro rfl
      exact absurd blank (by decide)
    have noHash : c ≠ '#' := by
      rintro rfl
      exact absurd blank (by decide)
    rw [List.cons_append, skipLines_cons (ne_return blank (by decide)), if_neg noFeed,
      if_neg (by decide), if_neg noHash, if_pos blank, ih more]

theorem readValue_text {s : String} {text : List Char} (h : BasicString s text) (fuel depth : Nat)
    {rest : List Char} (noQuote : ∀ u, rest ≠ '"' :: u) :
    readValue (fuel + 1) depth (text ++ rest) = some (.text s, rest) := by
  have read := readString_spelled h noQuote
  cases h with
  | quoted spells =>
    rw [List.cons_append] at read ⊢
    rw [readValue, read, Option.map_some]
    dsimp only
    rw [String.ofList_toList]

/-- Behind blanks, a string is the next item. -/
theorem readItems_string {s : String} {gap text : List Char} (before : IsGap gap)
    (h : BasicString s text) (fuel depth : Nat) (acc : List Item) {rest : List Char}
    (noQuote : ∀ u, rest ≠ '"' :: u) :
    readItems (fuel + 2) depth acc (gap ++ (text ++ rest)) =
      match skipLines false rest with
      | ',' :: s' => readItems (fuel + 1) depth (.text s :: acc) s'
      | ']' :: rest => some (.array (.text s :: acc).reverse, rest)
      | _ => none := by
  have value := readValue_text h fuel depth noQuote
  rw [readItems, skipLines_gap before]
  cases h with
  | @quoted body spells =>
    have start (u : List Char) : skipLines false ('"' :: u) = '"' :: u := by
      rw [skipLines_cons (by decide)]
      rfl
    rw [List.cons_append] at value ⊢
    rw [start]
    change (readValue _ _ _).bind _ = _
    rw [value]
    rfl

/-- **An array of strings is read as the list of what they spell.** -/
theorem readItems_spelled {ss : List String} {text : List Char} (h : SpellsItems ss text)
    {fuel : Nat} (enough : ss.length + 2 ≤ fuel) (depth : Nat) (acc : List Item)
    (rest : List Char) :
    readItems fuel depth acc (text ++ rest) =
      some (.array (acc.reverse ++ ss.map .text), rest) := by
  obtain ⟨fuel, rfl⟩ := Nat.exists_eq_add_of_le' (Nat.le_of_add_left_le enough)
  have mark {c : Char} (solid : c = ']' ∨ c = ',') (u : List Char) :
      skipLines false (c :: u) = c :: u := by
    rcases solid with rfl | rfl <;> rw [skipLines_cons (by decide)] <;> rfl
  induction h generalizing fuel acc with
  | close before =>
    rw [List.append_assoc, readItems, skipLines_gap before, List.singleton_append, mark (.inl rfl)]
    simp
  | @last s gap text gap' before string behind =>
    have whole : gap ++ (text ++ (gap' ++ [']'])) ++ rest =
        gap ++ (text ++ (gap' ++ ']' :: rest)) := by simp
    have noQuote : ∀ u, ']' :: rest ≠ '"' :: u :=
      fun u same => absurd (List.cons.inj same).1 (by decide)
    rw [whole, readItems_string before string fuel depth acc (behind.ne_quote noQuote),
      skipLines_gap behind, mark (.inl rfl)]
    simp
  | @next s ss gap text gap' more before string behind later ih =>
    have whole : gap ++ (text ++ (gap' ++ ',' :: more)) ++ rest =
        gap ++ (text ++ (gap' ++ ',' :: (more ++ rest))) := by simp
    have noQuote : ∀ u, ',' :: (more ++ rest) ≠ '"' :: u :=
      fun u same => absurd (List.cons.inj same).1 (by decide)
    rw [whole, readItems_string before string fuel depth acc (behind.ne_quote noQuote),
      skipLines_gap behind, mark (.inr rfl)]
    rw [List.length_cons] at enough
    obtain ⟨fuel, rfl⟩ := Nat.exists_eq_add_of_le' (show 1 ≤ fuel by omega)
    change readItems (fuel + 2) depth (.text s :: acc) (more ++ rest) = _
    rw [ih (.text s :: acc) fuel (by omega)]
    simp

theorem SpellsItems.length_lt {ss : List String} {text : List Char} (h : SpellsItems ss text) :
    ss.length < text.length := by
  induction h with
  | close => simp
  | last _ string =>
    cases string
    simp
    omega
  | next _ _ _ _ ih =>
    simp
    omega

/-- **A value is read as what it spells.** -/
theorem readValue_spelled {item : Item} {text : List Char} (h : SpellsItem item text) {fuel : Nat}
    (enough : text.length + 2 ≤ fuel) (depth : Nat) {rest : List Char}
    (noQuote : ∀ u, rest ≠ '"' :: u) :
    readValue fuel (depth + 1) (text ++ rest) = some (item, rest) := by
  obtain ⟨fuel, rfl⟩ := Nat.exists_eq_add_of_le' (show 1 ≤ fuel by omega)
  cases h with
  | text string => exact readValue_text string fuel _ noQuote
  | @array ss text items =>
    have short := items.length_lt
    rw [List.length_cons] at enough
    exact readItems_spelled items (by omega) depth [] rest

/-! ## Lines -/

/-- The line assigns a spelled item to a bare key, with blanks wherever they may stand. -/
inductive SpellsLine (key : String) (item : Item) : List Char → Prop
  | assignment {start before behind gap value : List Char} (h₁ : IsGap start) (h₂ : IsGap before)
      (h₃ : IsGap behind) (spelled : SpellsItem item value) (h₄ : IsGap gap) :
      SpellsLine key item
        (start ++ (key.toList ++ (before ++ '=' :: (behind ++ (value ++ gap)))))

theorem skipBlanks_gap {gap : List Char} (h : IsGap gap) (s : List Char) :
    skipBlanks (gap ++ s) = skipBlanks s := List.dropWhile_append_of_pos h

theorem skipBlanks_cons {c : Char} (solid : isBlank c = false) (s : List Char) :
    skipBlanks (c :: s) = c :: s :=
  List.dropWhile_cons_of_neg (by simp [solid])

theorem SpellsItem.starts {item : Item} {text : List Char} (h : SpellsItem item text) :
    ∃ c tail, text = c :: tail ∧ isBlank c = false := by
  cases h with
  | text string =>
    cases string
    exact ⟨'"', _, rfl, by decide⟩
  | array _ => exact ⟨'[', _, rfl, by decide⟩

theorem isBareKey_of_isBlank {c : Char} (h : isBlank c = true) : isBareKey c = false := by
  simp only [isBlank, Bool.or_eq_true, decide_eq_true_eq] at h
  rcases h with rfl | rfl <;> decide

theorem isBlank_of_isBareKey {c : Char} (h : isBareKey c = true) : isBlank c = false := by
  rw [Bool.eq_false_iff]
  intro blank
  rw [isBareKey_of_isBlank blank] at h
  cases h

/-- A bare key ends where a character stands that cannot be in one. -/
theorem readKey_bare {key : List Char} (bare : ∀ c ∈ key, isBareKey c = true) (filled : key ≠ [])
    {c : Char} (ends : isBareKey c = false) (rest : List Char) :
    readKey (key ++ c :: rest) = some (key, c :: rest) := by
  obtain ⟨d, k, rfl⟩ := List.exists_cons_of_ne_nil filled
  have isBare := bare d List.mem_cons_self
  have taken : (d :: k ++ c :: rest).takeWhile isBareKey = d :: k :=
    takeWhile_append_mark bare ends rest
  have dropped : (d :: k ++ c :: rest).dropWhile isBareKey = c :: rest :=
    dropWhile_append_mark bare ends rest
  have noQuote {q : Char} (other : isBareKey q = false) (u : List Char) :
      d :: k ++ c :: rest ≠ q :: u := by
    intro same
    rw [(List.cons.inj same).1, other] at isBare
    cases isBare
  rw [readKey, taken, dropped]
  · exact noQuote (by decide)
  · exact noQuote (by decide)

/-- A bare key is read up to the blanks behind it. -/
theorem readKeyPath_bare {key : String} (bare : ∀ c ∈ key.toList, isBareKey c = true)
    (filled : key.toList ≠ []) {before : List Char} (gap : IsGap before) (rest : List Char) :
    readKeyPath (key.toList ++ (before ++ '=' :: rest)) = some (⟨[], key⟩, '=' :: rest) := by
  have name : readKey (key.toList ++ (before ++ '=' :: rest)) =
      some (key.toList, before ++ '=' :: rest) := by
    cases before with
    | nil => exact readKey_bare bare filled (by decide) rest
    | cons c before =>
      exact readKey_bare bare filled (isBareKey_of_isBlank (gap c List.mem_cons_self)) _
  have start : skipBlanks (key.toList ++ (before ++ '=' :: rest)) =
      key.toList ++ (before ++ '=' :: rest) := by
    obtain ⟨c, k, same⟩ := List.exists_cons_of_ne_nil filled
    have solid := isBlank_of_isBareKey (bare c (same ▸ List.mem_cons_self))
    rw [same, List.cons_append, skipBlanks_cons solid]
  have mark : skipBlanks (before ++ '=' :: rest) = '=' :: rest := by
    rw [skipBlanks_gap gap, skipBlanks_cons (by decide)]
  have keys : readKeys deepestKey (key.toList ++ (before ++ '=' :: rest)) =
      some ([key], '=' :: rest) := by
    rw [deepestKey, readKeys, start, name]
    dsimp only [Option.bind_eq_bind, Option.bind_some]
    rw [mark, String.ofList_toList]
    rfl
  rw [readKeyPath, keys]
  rfl

/-- **A spelled line assigns the item to the key.** -/
theorem isAssignment_spelled {key : String} {item : Item} {line : List Char}
    (bare : ∀ c ∈ key.toList, isBareKey c = true) (filled : key.toList ≠ [])
    (h : SpellsLine key item line) : IsAssignment line ⟨[], key⟩ item := by
  obtain ⟨h₁, h₂, h₃, spelled, h₄⟩ := h
  rename_i start before behind gap value
  obtain ⟨c, k, name⟩ := List.exists_cons_of_ne_nil filled
  have solid := isBlank_of_isBareKey (bare c (name ▸ List.mem_cons_self))
  obtain ⟨d, tail, same, solid'⟩ := spelled.starts
  have begins :
      skipBlanks (start ++ (key.toList ++ (before ++ '=' :: (behind ++ (value ++ gap))))) =
        key.toList ++ (before ++ '=' :: (behind ++ (value ++ gap))) := by
    rw [skipBlanks_gap h₁, name, List.cons_append, skipBlanks_cons solid]
  have found : skipBlanks (behind ++ (value ++ gap)) = value ++ gap := by
    rw [skipBlanks_gap h₃, same, List.cons_append, skipBlanks_cons solid']
  have long : 1 ≤ value.length := by
    rw [same, List.length_cons]
    omega
  have read : readValue (2 * (behind ++ (value ++ gap)).length + 1) deepestValue (value ++ gap) =
      some (item, gap) := by
    refine readValue_spelled spelled ?_ 78 fun u same => ?_
    · rw [List.length_append, List.length_append]
      omega
    · exact h₄.ne_quote (s := []) nofun u (by rw [List.append_nil]; exact same)
  have ends : endLine gap = some [] := by
    have nothing : skipBlanks gap = [] := List.dropWhile_eq_nil_iff.mpr h₄
    rw [endLine_eq, behindComment, nothing]
    rfl
  unfold IsAssignment
  rw [begins, readStatement_assignment_iff]
  exact ⟨_, _, _, readKeyPath_bare bare filled h₂ _, rfl, by rw [found]; exact read, ends⟩

end Tablecast.Toml
