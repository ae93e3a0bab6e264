import Mathlib.Data.List.Find
import Mathlib.Data.List.Forall2
import Tablecast.Plan.Resolve
import Tablecast.Proofs.Declaration.Number
import Tablecast.Proofs.Text.Lowering

/-!
# Spellings of a declaration

Declarations whose words differ in nothing but the case of ASCII letters declare the same values.
They have one normal form, in which ASCII letters alone are lowered, and nothing that Unicode would
lower besides them makes a difference: no name of a family has a `k` or ends in an `i`, and numerals
hold no letters.

* `family?_lowered`: the family of a declaration lowered by Unicode;
* `numericSemantic_similar`: what is read of its arguments;
* `classify_lowered`: both at once;
* `resolve_respelled`: a column is resolved alike in all spellings of its type.
-/

namespace Tablecast.Declaration

open Text

/-- The words of the declarations are the same up to the case of ASCII letters. -/
def SameWords (d d' : String) : Prop :=
  List.Forall₂ (List.Forall₂ fun x y => x.toLower = y.toLower) (words d.toList) (words d'.toList)

instance (d d' : String) : Decidable (SameWords d d') :=
  inferInstanceAs (Decidable (List.Forall₂ _ _ _))

/-- The family of values of a normal declaration. -/
def classify (normal : List Char) (column : String) : Option Semantic :=
  match family? normal with
  | none => none
  | some (.other s) => some s
  | some .numeric => some (if isIdentifier column then .int else numericSemantic normal)

theorem semantic?_eq_classify (d column : String) :
    semantic? d column = classify (normalize d.toList) column := rfl

/-! ## Names of families -/

/-- The name has only characters that come from nothing but ASCII letters. -/
structure IsPlainName (name : List Char) : Prop where
  ascii : ∀ c ∈ name, c.toNat < 0x80 ∧ c ≠ 'k'
  ends : name.getLast? ≠ some 'i'

theorem IsPlainName.tail {c : Char} {rest : List Char} (h : IsPlainName (c :: rest)) :
    IsPlainName rest where
  ascii := (List.forall_mem_cons.mp h.ascii).2
  ends := by
    cases rest with
    | nil => exact nofun
    | cons d rest => simpa using h.ends

/-- A plain name does not begin with what a character beyond ASCII becomes. -/
theorem IsPlainName.not_isPrefixOf {c d : Char} {rest low t : List Char}
    (h : IsPlainName (d :: rest)) (wide : WideLowered c low) :
    (d :: rest).isPrefixOf (low ++ t) = false := by
  obtain ⟨ascii, noKay⟩ := h.ascii d List.mem_cons_self
  rw [Bool.eq_false_iff, ne_eq, List.isPrefixOf_iff_prefix]
  intro begins
  rcases wide.shape with ⟨x, beyond, rfl⟩ | rfl | rfl
  · obtain ⟨rfl, -⟩ := List.cons_prefix_cons.mp begins
    omega
  · exact noKay (List.cons_prefix_cons.mp begins).1
  · obtain ⟨rfl, more⟩ := List.cons_prefix_cons.mp begins
    cases rest with
    | nil => exact h.ends rfl
    | cons e rest =>
      obtain ⟨rfl, -⟩ := List.cons_prefix_cons.mp more
      exact absurd (h.ascii '\u0307' (by simp)).1 (by decide)

theorem toLower_wide {c : Char} (wide : 0x80 ≤ c.toNat) : c.toLower = c :=
  toLower_eq_self (.inr (by omega))

theorem isPrefixOf_lowered {name s t : List Char} (h : Lowered s t) (plain : IsPlainName name) :
    name.isPrefixOf t = name.isPrefixOf (s.map Char.toLower) := by
  induction h generalizing name with
  | nil => rfl
  | @cons c low s t first later ih =>
    cases name with
    | nil => rfl
    | cons d rest =>
      by_cases ascii : c.toNat < 0x80
      · rw [first.ascii ascii, List.map_cons, List.singleton_append, List.isPrefixOf_cons_cons,
          List.isPrefixOf_cons_cons, ih plain.tail]
      · have wide := first.wide (Nat.le_of_not_lt ascii)
        have other : d ≠ c := by
          rintro rfl
          exact ascii (plain.ascii d List.mem_cons_self).1
        rw [plain.not_isPrefixOf wide, List.map_cons, toLower_wide (Nat.le_of_not_lt ascii),
          List.isPrefixOf_cons_cons, beq_false_of_ne other, Bool.false_and]

theorem isPlainName_of_mem : ∀ f ∈ families, IsPlainName f.1.toList := by
  have ascii : ∀ f ∈ families, f.1.toList.all (fun c => c.toNat < 0x80 && c ≠ 'k') := by decide
  have ends : ∀ f ∈ families, f.1.toList.getLast? ≠ some 'i' := by decide
  exact fun f hf => ⟨by simpa using ascii f hf, ends f hf⟩

/-- **The family is the same** if a declaration is lowered by Unicode. -/
theorem family?_lowered {s t : List Char} (h : Lowered s t) :
    family? t = family? (s.map Char.toLower) := by
  have same : families.find? (fun f => f.1.toList.isPrefixOf t) =
      families.find? fun f => f.1.toList.isPrefixOf (s.map Char.toLower) :=
    List.find?_congr fun f hf => isPrefixOf_lowered h (isPlainName_of_mem f hf)
  rw [family?, family?, same]

/-! ## Arguments -/

/-- The character is no blank and no part of an argument list or of a numeral. -/
def isInert (c : Char) : Bool :=
  !isBlank c && !(['(', ')', ',', '+', '-'].contains c) && !c.isDigit

/-- The texts are the same but for inert characters, each of which stands for one or more. -/
inductive Similar : List Char → List Char → Prop
  | nil : Similar [] []
  | cons {c : Char} {low s t : List Char}
      (first : low = [c] ∨ isInert c = true ∧ low ≠ [] ∧ ∀ x ∈ low, isInert x = true)
      (later : Similar s t) : Similar (c :: s) (low ++ t)

theorem ne_of_isInert {c d : Char} (inert : isInert c = true) (active : isInert d = false) :
    c ≠ d := by
  rintro rfl
  rw [inert] at active
  cases active

theorem isInert_wide {c : Char} (wide : 0x80 ≤ c.toNat) (solid : isBlank c = false) :
    isInert c = true := by
  have marks : ['(', ')', ',', '+', '-'].contains c = false := by
    rw [Bool.eq_false_iff, ne_eq, List.contains_iff_mem]
    intro mark
    have table : ['(', ')', ',', '+', '-'].all (·.toNat < 0x80) := by decide
    have ascii := List.all_eq_true.mp table c mark
    rw [decide_eq_true_eq] at ascii
    omega
  have digit : c.isDigit = false := by
    rw [Bool.eq_false_iff]
    intro digit
    simp only [Char.isDigit, Bool.and_eq_true, decide_eq_true_eq] at digit
    have high : c.toNat ≤ 57 := UInt32.le_iff_toNat_le.mp digit.2
    omega
  rw [isInert, solid, marks, digit]
  rfl

theorem similar_lowered {s t : List Char} (h : Lowered s t) : Similar (s.map Char.toLower) t := by
  induction h with
  | nil => exact .nil
  | @cons c low s t first later ih =>
    refine .cons ?_ ih
    by_cases ascii : c.toNat < 0x80
    · exact .inl (first.ascii ascii)
    have beyond := Nat.le_of_not_lt ascii
    have wide := first.wide beyond
    rw [toLower_wide beyond]
    cases blank : isBlank c with
    | true => exact .inl (wide.kept blank)
    | false =>
      refine .inr ⟨isInert_wide beyond blank, ?_⟩
      rcases wide.shape with ⟨x, high, rfl⟩ | rfl | rfl
      · simpa using isInert_wide high (wide.solid blank x List.mem_cons_self)
      · exact ⟨by decide, List.forall_mem_singleton.mpr (by decide)⟩
      · exact ⟨by decide,
          List.forall_mem_cons.mpr ⟨by decide, List.forall_mem_singleton.mpr (by decide)⟩⟩

/-- What holds no separator goes in front of the first piece. -/
theorem pieces_append_of_neg {p : Char → Bool} {s t : List Char} (keeps : ∀ c ∈ s, p c = false) :
    pieces p (s ++ t) = (pieces p t).modifyHead (s ++ ·) := by
  induction s with
  | nil =>
    obtain ⟨first, others, cut⟩ := List.exists_cons_of_ne_nil (pieces_ne_nil p t)
    simp [cut]
  | cons c s ih =>
    obtain ⟨head, tail⟩ := List.forall_mem_cons.mp keeps
    obtain ⟨first, others, cut⟩ := List.exists_cons_of_ne_nil (pieces_ne_nil p t)
    rw [List.cons_append, pieces, head, ih tail, cut]
    rfl

namespace Similar

variable {s t s' t' : List Char} {p : Char → Bool}

theorem append (h : Similar s t) (h' : Similar s' t') : Similar (s ++ s') (t ++ t') := by
  induction h with
  | nil => exact h'
  | cons first _ ih =>
    rw [List.append_assoc]
    exact .cons first ih

theorem reverse (h : Similar s t) : Similar s.reverse t.reverse := by
  induction h with
  | nil => exact .nil
  | @cons c low s t first _ ih =>
    rw [List.reverse_cons, List.reverse_append]
    refine ih.append ?_
    have single : Similar [c] (low.reverse ++ []) := by
      refine .cons ?_ .nil
      rcases first with rfl | ⟨inert, filled, inerts⟩
      · exact .inl rfl
      · exact .inr ⟨inert, by simpa using filled, by simpa using inerts⟩
    rwa [List.append_nil] at single

/-- Inert characters are dropped together or not at all. -/
theorem dropWhile (h : Similar s t) {v : Bool} (flat : ∀ c, isInert c = true → p c = v) :
    Similar (s.dropWhile p) (t.dropWhile p) := by
  induction h with
  | nil => exact .nil
  | @cons c low s t first later ih =>
    rcases first with rfl | ⟨inert, filled, inerts⟩
    · rw [List.singleton_append, List.dropWhile_cons, List.dropWhile_cons]
      split
      · exact ih
      · exact .cons (.inl rfl) later
    · cases v with
      | true =>
        rw [List.dropWhile_cons_of_pos (flat c inert),
          List.dropWhile_append_of_pos fun x hx => flat x (inerts x hx)]
        exact ih
      | false =>
        obtain ⟨d, low, rfl⟩ := List.exists_cons_of_ne_nil filled
        have stays := flat d (inerts d List.mem_cons_self)
        rw [List.dropWhile_cons_of_neg (by simp [flat c inert]), List.cons_append,
          List.dropWhile_cons_of_neg (by simp [stays])]
        exact .cons (.inr ⟨inert, filled, inerts⟩) later

theorem takeWhile (h : Similar s t) (flat : ∀ c, isInert c = true → p c = true) :
    Similar (s.takeWhile p) (t.takeWhile p) := by
  induction h with
  | nil => exact .nil
  | @cons c low s t first later ih =>
    rcases first with rfl | ⟨inert, filled, inerts⟩
    · rw [List.singleton_append, List.takeWhile_cons, List.takeWhile_cons]
      split
      · exact .cons (.inl rfl) ih
      · exact .nil
    · rw [List.takeWhile_cons_of_pos (flat c inert),
        List.takeWhile_append_of_pos fun x hx => flat x (inerts x hx)]
      exact .cons (.inr ⟨inert, filled, inerts⟩) ih

theorem trim (h : Similar s t) : Similar (trim s) (trim t) := by
  have solid : ∀ c, isInert c = true → isBlank c = false := by simp +contextual [isInert]
  exact ((h.dropWhile solid).reverse.dropWhile solid).reverse

theorem mem_iff (h : Similar s t) {c : Char} (active : isInert c = false) : c ∈ s ↔ c ∈ t := by
  induction h with
  | nil => rfl
  | @cons d low s t first _ ih =>
    rw [List.mem_cons, List.mem_append, ih]
    rcases first with rfl | ⟨inert, -, inerts⟩
    · rw [List.mem_singleton]
    · have other : c ≠ d := (ne_of_isInert inert active).symm
      have others : c ∉ low := fun mem => ne_of_isInert (inerts c mem) active rfl
      simp [other, others]

theorem pieces (h : Similar s t) (flat : ∀ c, isInert c = true → p c = false) :
    List.Forall₂ Similar (pieces p s) (pieces p t) := by
  induction h with
  | nil => exact .cons .nil .nil
  | @cons c low s t first _ ih =>
    cases cuts : p c with
    | true =>
      rcases first with rfl | ⟨inert, -⟩
      · rw [List.singleton_append, Text.pieces, Text.pieces, cuts]
        exact .cons .nil ih
      · rw [flat c inert] at cuts
        cases cuts
    | false =>
      have keeps : ∀ x ∈ low, p x = false := by
        rcases first with rfl | ⟨-, -, inerts⟩
        · simpa using cuts
        · exact fun x hx => flat x (inerts x hx)
      have step : Text.pieces p (c :: s) = (Text.pieces p s).modifyHead ([c] ++ ·) :=
        pieces_append_of_neg (s := [c]) (by simpa using cuts)
      rw [step, pieces_append_of_neg keeps]
      obtain ⟨a, as, head⟩ := List.exists_cons_of_ne_nil (pieces_ne_nil p s)
      obtain ⟨b, bs, head'⟩ := List.exists_cons_of_ne_nil (pieces_ne_nil p t)
      rw [head, head', List.forall₂_cons] at ih
      rw [head, head']
      exact .cons (.cons first ih.1) ih.2

/-- A text is taken over as it is, or something inert is left in both. -/
theorem eq_or_inert (h : Similar s t) :
    s = t ∨ (∃ c ∈ s, isInert c = true) ∧ ∃ c ∈ t, isInert c = true := by
  induction h with
  | nil => exact .inl rfl
  | @cons c low s t first _ ih =>
    rcases first with rfl | ⟨inert, filled, inerts⟩
    · rcases ih with rfl | ⟨⟨x, hx, ix⟩, y, hy, iy⟩
      · exact .inl rfl
      · exact .inr ⟨⟨x, List.mem_cons_of_mem _ hx, ix⟩, y, List.mem_cons_of_mem _ hy, iy⟩
    · obtain ⟨d, low, rfl⟩ := List.exists_cons_of_ne_nil filled
      have left := inerts d List.mem_cons_self
      exact .inr ⟨⟨c, List.mem_cons_self, inert⟩, d, List.mem_cons_self, left⟩

end Similar

variable {s t : List Char}

theorem digits?_of_inert {c : Char} (mem : c ∈ s) (inert : isInert c = true) :
    digits? s = none := by
  have noDigit : c.isDigit = false := by
    revert inert
    simp +contextual [isInert]
  have some : s.all Char.isDigit = false := List.all_eq_false.mpr ⟨c, mem, by simp [noDigit]⟩
  rw [digits?, some]
  simp

theorem precision?_of_inert {c : Char} (mem : c ∈ s) (inert : isInert c = true) :
    precision? s = none := by
  unfold precision?
  split
  · next rest =>
    rcases List.mem_cons.mp mem with rfl | behind
    · exact absurd inert (by decide)
    · rw [digits?_of_inert behind inert, Option.filter_none]
  · rw [digits?_of_inert mem inert, Option.filter_none]

theorem scale?_of_inert {c : Char} (mem : c ∈ s) (inert : isInert c = true) : scale? s = none := by
  unfold scale?
  split
  · rcases List.mem_cons.mp mem with rfl | behind
    · exact absurd inert (by decide)
    · rw [digits?_of_inert behind inert]
      rfl
  · rcases List.mem_cons.mp mem with rfl | behind
    · exact absurd inert (by decide)
    · rw [digits?_of_inert behind inert]
      rfl
  · rw [digits?_of_inert mem inert]
    rfl

theorem Similar.numeral (h : Similar s t) : precision? s = precision? t ∧ scale? s = scale? t := by
  rcases h.eq_or_inert with rfl | ⟨⟨c, mem, inert⟩, d, mem', inert'⟩
  · exact ⟨rfl, rfl⟩
  · rw [precision?_of_inert mem inert, precision?_of_inert mem' inert', scale?_of_inert mem inert,
      scale?_of_inert mem' inert']
    exact ⟨rfl, rfl⟩

theorem Similar.argumentList? (h : Similar s t) :
    Option.Rel Similar (argumentList? s) (argumentList? t) := by
  have opened : Similar (s.dropWhile (· ≠ '(')) (t.dropWhile (· ≠ '(')) :=
    h.dropWhile (v := true) fun c inert => decide_eq_true (ne_of_isInert inert (by decide))
  have stops := List.head?_dropWhile_not (· ≠ '(') s
  unfold Declaration.argumentList?
  generalize s.dropWhile (· ≠ '(') = a at opened stops
  generalize t.dropWhile (· ≠ '(') = b at opened
  cases opened with
  | nil => exact .none
  | @cons c low inner inner' first later =>
    have paren : c = '(' := by simpa using stops
    subst paren
    rcases first with rfl | ⟨inert, -⟩
    · have closes := later.mem_iff (c := ')') (by decide)
      dsimp only [List.singleton_append]
      by_cases closed : ')' ∈ inner
      · rw [if_pos closed, if_pos (closes.mp closed)]
        exact .some (later.takeWhile fun c inert =>
          decide_eq_true (ne_of_isInert inert (by decide)))
      · rw [if_neg closed, if_neg (mt closes.mpr closed)]
        exact .none
    · exact absurd inert (by decide)

theorem Similar.arguments? (h : Similar s t) : arguments? s = arguments? t := by
  have list := h.argumentList?
  unfold Declaration.arguments?
  generalize Declaration.argumentList? s = a at list ⊢
  generalize Declaration.argumentList? t = b at list ⊢
  cases list with
  | none => rfl
  | @some inner inner' similar =>
    have parts := similar.pieces (p := (· == ',')) fun c inert =>
      beq_false_of_ne (ne_of_isInert inert (by decide))
    have trimmed : List.Forall₂ Similar ((Text.pieces (· == ',') inner).map Text.trim)
        ((Text.pieces (· == ',') inner').map Text.trim) := by
      rw [List.forall₂_map_left_iff, List.forall₂_map_right_iff]
      exact parts.imp fun _ _ part => part.trim
    rw [Option.map_some, Option.map_some]
    congr 1
    generalize (Text.pieces (· == ',') inner).map Text.trim = ps at trimmed ⊢
    generalize (Text.pieces (· == ',') inner').map Text.trim = qs at trimmed ⊢
    rcases trimmed with _ | ⟨first, _ | ⟨second, _ | ⟨_, _⟩⟩⟩
    · rfl
    · simp only [first.numeral.1]
    · simp only [first.numeral.1, second.numeral.2]
    · simp only [first.numeral.1]

/-- **The arguments count for the same** if a declaration is lowered by Unicode. -/
theorem numericSemantic_similar (h : Similar s t) : numericSemantic s = numericSemantic t := by
  rw [numericSemantic, numericSemantic, h.arguments?]

theorem classify_lowered (h : Lowered s t) (column : String) :
    classify t column = classify (s.map Char.toLower) column := by
  rw [classify, classify, family?_lowered h, numericSemantic_similar (similar_lowered h)]

/-! ## Columns -/

theorem map_intercalate {α β : Type} (f : α → β) (separator : List α) (ls : List (List α)) :
    (separator.intercalate ls).map f = (separator.map f).intercalate (ls.map (·.map f)) := by
  induction ls with
  | nil => rfl
  | cons first rest ih =>
    cases rest with
    | nil => simp
    | cons next rest =>
      rw [List.intercalate_cons_cons, List.map_append, List.map_append, ih]
      simp only [List.map_cons, List.intercalate_cons_cons]

theorem normalize_eq {d d' : String} (same : SameWords d d') :
    normalize d.toList = normalize d'.toList := by
  have lowered : (words d.toList).map (·.map Char.toLower) =
      (words d'.toList).map (·.map Char.toLower) := by
    rw [← List.forall₂_eq_eq_eq, List.forall₂_map_left_iff, List.forall₂_map_right_iff]
    refine same.imp fun w w' letters => ?_
    rwa [← List.forall₂_eq_eq_eq, List.forall₂_map_left_iff, List.forall₂_map_right_iff]
  rw [normalize, normalize, map_intercalate, map_intercalate, lowered]

/-- **A column is resolved alike in all spellings of its type.** Words that are the same up to the
case of ASCII letters lead to one family, or to none, and then each spelling is reported as it is.
It is the family that is found if the declaration is lowered by Unicode. -/
theorem resolve_respelled {d d' : String} (same : SameWords d d') (c : Column) :
    ((∃ semantic,
        Column.resolve { c with databaseType := d } = .ok ⟨semantic, c.nullable⟩ ∧
        Column.resolve { c with databaseType := d' } = .ok ⟨semantic, c.nullable⟩) ∨
      Column.resolve { c with databaseType := d } = .error (.unknownType d c.name) ∧
        Column.resolve { c with databaseType := d' } = .error (.unknownType d' c.name)) ∧
    ∀ low, Lowered (squeeze d.toList) low ∨ Lowered (squeeze d'.toList) low →
      classify low c.name = semantic? d c.name := by
  have respelled : semantic? d' c.name = semantic? d c.name := by
    rw [semantic?_eq_classify, semantic?_eq_classify, normalize_eq same]
  constructor
  · simp only [Column.resolve, respelled]
    cases semantic? d c.name with
    | none => exact .inr ⟨rfl, rfl⟩
    | some semantic => exact .inl ⟨semantic, rfl, rfl⟩
  · rintro low (lowered | lowered)
    · exact classify_lowered lowered c.name
    · rw [← respelled]
      exact classify_lowered lowered c.name

/-- An amount whose declaration has a Kelvin sign for a scale and blanks of several kinds. -/
def amount : Column where
  name := "AMOUNT"
  fieldName := "Amount"
  databaseType := "\tNumber ( 9 ,\u00A0\u212A )"
  nullable := false
  defaultValue := none
  comment := none

theorem amount_respelled :
    SameWords amount.databaseType "nUMBER\u3000( 9 , \u212A ) " ∧
      amount.resolve = .ok ⟨.int, false⟩ ∧
      Column.resolve { amount with databaseType := "nUMBER\u3000( 9 , \u212A ) " } =
        .ok ⟨.int, false⟩ ∧
      classify "number ( 9 , k )".toList amount.name = some .int := by
  have same : SameWords amount.databaseType "nUMBER\u3000( 9 , \u212A ) " := by decide +kernel
  have known : amount.resolve = .ok ⟨.int, false⟩ := by decide +kernel
  have lowered : (squeeze amount.databaseType.toList).flatMap lowerChar =
      "number ( 9 , k )".toList := by
    decide +kernel
  obtain ⟨alike, unicode⟩ := resolve_respelled same amount
  refine ⟨same, known, ?_, ?_⟩
  · rcases alike with ⟨semantic, first, second⟩ | ⟨failed, -⟩
    · rw [second, ← first]
      exact known
    · exact absurd (known.symm.trans failed) nofun
  · rw [← lowered, unicode _ (.inl (lowered_flatMap _))]
    decide +kernel

end Tablecast.Declaration
