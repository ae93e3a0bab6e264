import Tablecast.Json.Text

/-!
# The grammar of JSON texts

What a JSON text says is a tree of nodes, with every string, key and number as it is spelled. A
text is a layout of a tree if the grammar allows it to be written so; only the blanks between the
tokens are free.

* `Spells`: the text a string stands for, which a string with half a surrogate pair does not have,
* `NumberText`: the numbers, of any size,
* `Node.Written`: the layouts of a node, without the blanks around it,
* `Node.Layout`: the texts that hold a node and nothing else.
-/

namespace Tablecast.Json

/-! ## Blanks -/

def Blanks (s : List Char) : Prop := ∀ c ∈ s, isBlank c = true

/-- What stands before an element or member: blanks, with a comma among them behind the first. -/
inductive Lead : Bool → List Char → Prop
  | first {blanks : List Char} : Blanks blanks → Lead true blanks
  | next {before after : List Char} : Blanks before → Blanks after →
      Lead false (before ++ ',' :: after)

theorem blanks_nil : Blanks [] := List.forall_mem_nil _

theorem blanks_space : Blanks [' '] := List.forall_mem_singleton.mpr (by decide)

/-! ## Strings -/

/-- Four hexadecimal digits and the code unit they stand for. -/
inductive CodeUnit : List Char → Nat → Prop
  | digits {a b c d : Char} {i j k l : Nat} : hexDigit? a = some i → hexDigit? b = some j →
      hexDigit? c = some k → hexDigit? d = some l →
      CodeUnit [a, b, c, d] (16 * (16 * (16 * i + j) + k) + l)

/-- What may stand between the quotes of a string. -/
inductive StringBody : List Char → Prop
  | nil : StringBody []
  | plain {c : Char} {s : List Char} : c ≠ '"' → c ≠ '\\' → ¬ c.toNat < 0x20 → StringBody s →
      StringBody (c :: s)
  | escape {c x : Char} {s : List Char} : simpleEscape? c = some x → StringBody s →
      StringBody ('\\' :: c :: s)
  | codeUnit {digits s : List Char} {n : Nat} : CodeUnit digits n → StringBody s →
      StringBody ('\\' :: 'u' :: (digits ++ s))

/-- What stands between the quotes spells this text. A code unit beyond U+FFFF takes two escapes,
one for each half of its surrogate pair; neither half spells anything alone. -/
inductive Spells : List Char → List Char → Prop
  | nil : Spells [] []
  | plain {c : Char} {s text : List Char} : c ≠ '"' → c ≠ '\\' → ¬ c.toNat < 0x20 →
      Spells s text → Spells (c :: s) (c :: text)
  | escape {c x : Char} {s text : List Char} : simpleEscape? c = some x → Spells s text →
      Spells ('\\' :: c :: s) (x :: text)
  | codeUnit {digits s text : List Char} {n : Nat} : CodeUnit digits n →
      ¬ (0xD800 ≤ n ∧ n ≤ 0xDFFF) → Spells s text →
      Spells ('\\' :: 'u' :: (digits ++ s)) (Char.ofNat n :: text)
  | pair {leading trailing s text : List Char} {high low : Nat} : CodeUnit leading high →
      CodeUnit trailing low → 0xD800 ≤ high ∧ high ≤ 0xDBFF → 0xDC00 ≤ low ∧ low ≤ 0xDFFF →
      Spells s text →
      Spells ('\\' :: 'u' :: (leading ++ '\\' :: 'u' :: (trailing ++ s)))
        (joinSurrogates high low :: text)

theorem Spells.body {s text : List Char} (h : Spells s text) : StringBody s := by
  induction h with
  | nil => exact .nil
  | plain quote slash control _ ih => exact .plain quote slash control ih
  | escape simple _ ih => exact .escape simple ih
  | codeUnit unit _ _ ih => exact .codeUnit unit ih
  | pair leading trailing _ _ _ ih => exact .codeUnit leading (.codeUnit trailing ih)

/-- A text in which nothing has to be escaped spells itself. -/
theorem spells_self {s : List Char}
    (h : s.all (fun c => c ≠ '"' ∧ c ≠ '\\' ∧ ¬ c.toNat < 0x20) = true) : Spells s s := by
  induction s with
  | nil => exact .nil
  | cons c s ih =>
    rw [List.all_cons, Bool.and_eq_true, decide_eq_true_eq] at h
    obtain ⟨⟨quote, slash, control⟩, others⟩ := h
    exact .plain quote slash control (ih others)

/-! ## Numbers -/

def Digits (s : List Char) : Prop := ∀ c ∈ s, c.isDigit = true

/-- The digits before the point. No other digit follows a leading zero. -/
inductive Whole : List Char → Prop
  | zero : Whole ['0']
  | digits {c : Char} {more : List Char} : c.isDigit = true → c ≠ '0' → Digits more →
      Whole (c :: more)

inductive Fraction : List Char → Prop
  | none : Fraction []
  | places {c : Char} {more : List Char} : c.isDigit = true → Digits more →
      Fraction ('.' :: c :: more)

inductive Exponent : List Char → Prop
  | none : Exponent []
  | unsigned {letter c : Char} {more : List Char} : letter = 'e' ∨ letter = 'E' →
      c.isDigit = true → Digits more → Exponent (letter :: c :: more)
  | signed {letter sign c : Char} {more : List Char} : letter = 'e' ∨ letter = 'E' →
      sign = '+' ∨ sign = '-' → c.isDigit = true → Digits more →
      Exponent (letter :: sign :: c :: more)

inductive NumberText : List Char → Prop
  | positive {whole fraction exponent : List Char} : Whole whole → Fraction fraction →
      Exponent exponent → NumberText (whole ++ (fraction ++ exponent))
  | negative {whole fraction exponent : List Char} : Whole whole → Fraction fraction →
      Exponent exponent → NumberText ('-' :: (whole ++ (fraction ++ exponent)))

/-! ## Values -/

/-- A value of a JSON text. Keys and strings stand without their quotes. -/
inductive Node where
  | null
  | boolean (b : Bool)
  | number (text : List Char)
  | string (body : List Char)
  | list (items : List Node)
  | object (members : List (List Char × Node))

def quoted (body : List Char) : List Char := '"' :: (body ++ ['"'])

namespace Node

mutual

/-- The text is a layout of the node, with no blanks around it. -/
inductive Written : Node → List Char → Prop
  | null : Written .null "null".toList
  | boolean (b : Bool) : Written (.boolean b) (if b then "true" else "false").toList
  | number {text : List Char} : NumberText text → Written (.number text) text
  | string {body : List Char} : StringBody body → Written (.string body) (quoted body)
  | list {items : List Node} {tail : List Char} : WrittenItems true items tail →
      Written (.list items) ('[' :: tail)
  | object {members : List (List Char × Node)} {tail : List Char} :
      WrittenMembers true members tail → Written (.object members) ('{' :: tail)

/-- The text goes on with these elements and ends the list. The first one needs no comma. -/
inductive WrittenItems : Bool → List Node → List Char → Prop
  | close {first : Bool} {blanks : List Char} : Blanks blanks →
      WrittenItems first [] (blanks ++ [']'])
  | item {first : Bool} {lead text tail : List Char} {n : Node} {rest : List Node} :
      Lead first lead → Written n text → WrittenItems false rest tail →
      WrittenItems first (n :: rest) (lead ++ (text ++ tail))

/-- The text goes on with these members and ends the object. -/
inductive WrittenMembers : Bool → List (List Char × Node) → List Char → Prop
  | close {first : Bool} {blanks : List Char} : Blanks blanks →
      WrittenMembers first [] (blanks ++ ['}'])
  | member {first : Bool} {lead body before after text tail : List Char} {n : Node}
      {rest : List (List Char × Node)} :
      Lead first lead → StringBody body → Blanks before → Blanks after → Written n text →
      WrittenMembers false rest tail →
      WrittenMembers first ((body, n) :: rest)
        (lead ++ (quoted body ++ (before ++ ':' :: (after ++ (text ++ tail)))))

end

/-- Some text is a layout of the node. -/
def Writable (n : Node) : Prop := ∃ text, n.Written text

/-- The text holds the node and nothing else but blanks around it. -/
def Layout (n : Node) (s : List Char) : Prop :=
  ∃ before text after, Blanks before ∧ n.Written text ∧ Blanks after ∧
    s = before ++ (text ++ after)

/-- How a layout of the node begins. -/
def Begins : Node → Char → Prop
  | .null, c => c = 'n'
  | .boolean b, c => c = if b then 't' else 'f'
  | .number _, c => c = '-' ∨ c.isDigit = true
  | .string _, c => c = '"'
  | .list _, c => c = '['
  | .object _, c => c = '{'

end Node

theorem Whole.begins {s : List Char} (h : Whole s) :
    ∃ c more, s = c :: more ∧ c.isDigit = true := by
  cases h with
  | zero => exact ⟨_, _, rfl, by decide⟩
  | digits digit => exact ⟨_, _, rfl, digit⟩

theorem NumberText.begins {s : List Char} (h : NumberText s) :
    ∃ c more, s = c :: more ∧ (c = '-' ∨ c.isDigit = true) := by
  cases h with
  | positive whole =>
    obtain ⟨c, more, rfl, digit⟩ := whole.begins
    exact ⟨c, _, rfl, .inr digit⟩
  | negative => exact ⟨_, _, rfl, .inl rfl⟩

namespace Node

theorem Written.begins {n : Node} {text : List Char} (h : n.Written text) :
    ∃ c more, text = c :: more ∧ n.Begins c := by
  cases h with
  | null => exact ⟨_, _, rfl, rfl⟩
  | boolean b => cases b <;> exact ⟨_, _, rfl, rfl⟩
  | number number => exact number.begins
  | string _ => exact ⟨_, _, rfl, rfl⟩
  | list _ => exact ⟨_, _, rfl, rfl⟩
  | object _ => exact ⟨_, _, rfl, rfl⟩

/-- A value begins with a character that is no blank and ends no list. -/
theorem Begins.solid {n : Node} {c : Char} (h : n.Begins c) : isBlank c = false ∧ c ≠ ']' := by
  have digits (digit : c.isDigit = true) : isBlank c = false ∧ c ≠ ']' := by
    constructor
    · rw [Bool.eq_false_iff]
      intro blank
      simp only [isBlank, Bool.or_eq_true, decide_eq_true_eq] at blank
      obtain ((rfl | rfl) | rfl) | rfl := blank <;> simp_all
    · rintro rfl
      simp at digit
  cases n with
  | number => exact h.elim (by rintro rfl; decide) digits
  | boolean b => subst h; cases b <;> decide
  | _ => subst h; decide

/-- Every element takes up a character, and so does the bracket that ends the list. -/
theorem WrittenItems.length_lt {first : Bool} {items : List Node} {text : List Char}
    (h : WrittenItems first items text) : items.length < text.length := by
  induction items generalizing first text with
  | nil =>
    cases h with
    | close => simp
  | cons n rest ih =>
    cases h with
    | item lead value more =>
      obtain ⟨c, cs, rfl, -⟩ := value.begins
      have shorter := ih more
      simp only [List.length_cons, List.length_append]
      omega

theorem WrittenMembers.length_lt {first : Bool} {members : List (List Char × Node)}
    {text : List Char} (h : WrittenMembers first members text) : members.length < text.length := by
  induction members generalizing first text with
  | nil =>
    cases h with
    | close => simp
  | cons m rest ih =>
    cases h with
    | member lead body before after value more =>
      have shorter := ih more
      simp only [List.length_cons, List.length_append]
      omega

/-! ## Writable nodes -/

theorem WrittenItems.writable {first : Bool} {items : List Node} {text : List Char}
    (h : WrittenItems first items text) : ∀ n ∈ items, n.Writable := by
  induction items generalizing first text with
  | nil => exact List.forall_mem_nil _
  | cons n rest ih =>
    cases h with
    | item lead value more => exact List.forall_mem_cons.mpr ⟨⟨_, value⟩, ih more⟩

theorem WrittenMembers.writable {first : Bool} {members : List (List Char × Node)}
    {text : List Char} (h : WrittenMembers first members text) :
    ∀ m ∈ members, m.2.Writable := by
  induction members generalizing first text with
  | nil => exact List.forall_mem_nil _
  | cons m rest ih =>
    cases h with
    | member lead body before after value more =>
      exact List.forall_mem_cons.mpr ⟨⟨_, value⟩, ih more⟩

end Node

end Tablecast.Json
