import Tablecast.Proofs.Json.Scanning

/-!
# A text has one tree

A text is a layout of at most one node: where a value ends is settled by the scanner, and the
character it begins with tells its kind.

* `Node.Written.cut`: two values at the front of one text end at the same place,
* `Node.Written.unique`, `Node.Layout.unique`: they are the same value.
-/

namespace Tablecast.Json

namespace Node

/-- Two values at the front of one text end at the same place. -/
theorem Written.cut {n n' : Node} {before before' text text' s s' : List Char}
    (h : n.Written text) (h' : n'.Written text') (blanks : Blanks before)
    (blanks' : Blanks before') (ends : EndsNumber s) (ends' : EndsNumber s')
    (same : before ++ (text ++ s) = before' ++ (text' ++ s')) : text = text' ∧ s = s' := by
  have passed := skipValue_written blanks h ends
  have passed' := skipValue_written blanks' h' ends'
  rw [same, passed'] at passed
  have rest : s' = s := Except.ok.inj passed
  subst rest
  obtain ⟨c, cs, rfl, begins⟩ := h.begins
  obtain ⟨c', cs', rfl, begins'⟩ := h'.begins
  have front := congrArg skipBlanks same
  rw [skipBlanks_append blanks, skipBlanks_append blanks', List.cons_append, List.cons_append,
    skipBlanks_cons begins.solid.1, skipBlanks_cons begins'.solid.1] at front
  exact ⟨List.append_cancel_right front, rfl⟩

/-! ## The first character tells the kind -/

section Begins

variable {n : Node}

theorem eq_null (h : n.Begins 'n') : n = .null := by
  cases n with
  | boolean b => cases b <;> simp [Begins] at h
  | _ => simp_all [Begins]

theorem eq_boolean {b : Bool} (h : n.Begins (if b then 't' else 'f')) : n = .boolean b := by
  cases n with
  | boolean b' => cases b <;> cases b' <;> simp [Begins] at h <;> rfl
  | _ => cases b <;> simp [Begins] at h

theorem eq_number {c : Char} (number : c = '-' ∨ c.isDigit = true) (h : n.Begins c) :
    ∃ text, n = .number text := by
  have other {d : Char} (sign : d ≠ '-') (digit : d.isDigit = false) : c ≠ d := by
    rintro rfl
    simp_all
  cases n with
  | number text => exact ⟨text, rfl⟩
  | boolean b => cases b <;> exact absurd h (other (by decide) (by decide))
  | _ => exact absurd h (other (by decide) (by decide))

theorem eq_string (h : n.Begins '"') : ∃ body, n = .string body := by
  cases n with
  | boolean b => cases b <;> simp [Begins] at h
  | _ => simp_all [Begins]

theorem eq_list (h : n.Begins '[') : ∃ items, n = .list items := by
  cases n with
  | boolean b => cases b <;> simp [Begins] at h
  | _ => simp_all [Begins]

theorem eq_object (h : n.Begins '{') : ∃ members, n = .object members := by
  cases n with
  | boolean b => cases b <;> simp [Begins] at h
  | _ => simp_all [Begins]

end Begins

theorem Written.begins_of_cons {n : Node} {c : Char} {more : List Char}
    (h : n.Written (c :: more)) : n.Begins c := by
  obtain ⟨c', more', same, begins⟩ := h.begins
  obtain ⟨rfl, -⟩ := List.cons.inj same
  exact begins

/-! ## Trees of one text -/

section Start

variable {first : Bool} {text : List Char}

theorem WrittenItems.start_nil (h : WrittenItems first [] text) (s : List Char) :
    nextElement first (text ++ s) = .ok (false, s) := by
  cases h with
  | close blanks =>
    rw [List.append_assoc]
    exact nextElement_close blanks first s

theorem WrittenItems.start_cons {n : Node} {rest : List Node}
    (h : WrittenItems first (n :: rest) text) (s : List Char) :
    ∃ value tail, n.Written value ∧ WrittenItems false rest tail ∧
      nextElement first (text ++ s) = .ok (true, value ++ (tail ++ s)) := by
  cases h with
  | @item _ lead value tail _ _ leads written more =>
    obtain ⟨c, cs, rfl, begins⟩ := written.begins
    obtain ⟨solid, bracket⟩ := begins.solid
    rw [List.append_assoc, List.append_assoc]
    exact ⟨_, tail, written, more, nextElement_lead leads solid bracket _⟩

theorem WrittenMembers.start_nil (h : WrittenMembers first [] text) (s : List Char) :
    Shape.nextKey first (text ++ s) = .ok (false, s) := by
  cases h with
  | close blanks =>
    rw [List.append_assoc]
    exact Shape.nextKey_close blanks first s

theorem WrittenMembers.start_cons {body : List Char} {n : Node} {rest : List (List Char × Node)}
    (h : WrittenMembers first ((body, n) :: rest) text) (s : List Char) :
    ∃ before after value tail, StringBody body ∧ Blanks before ∧ Blanks after ∧
      n.Written value ∧ WrittenMembers false rest tail ∧
      Shape.nextKey first (text ++ s) =
        .ok (true, body ++ '"' :: (before ++ ':' :: (after ++ (value ++ (tail ++ s))))) := by
  cases h with
  | @member _ lead _ before after value tail _ _ leads wellFormed blanks blanks' written more =>
    have key := Shape.nextKey_lead leads
      (body ++ '"' :: (before ++ ':' :: (after ++ (value ++ (tail ++ s)))))
    refine ⟨before, after, value, tail, wellFormed, blanks, blanks', written, more, ?_⟩
    rw [← key]
    simp [quoted]

end Start

mutual

theorem Written.unique : (n : Node) → ∀ {n' : Node} {text : List Char}, n.Written text →
    n'.Written text → n = n'
  | .null, _, _, .null, h' => (eq_null h'.begins_of_cons).symm
  | .boolean b, _, _, .boolean _, h' => by
    obtain ⟨c, more, same, begins⟩ := h'.begins
    have first : c = if b then 't' else 'f' := by cases b <;> exact (List.cons.inj same).1.symm
    rw [first] at begins
    exact (eq_boolean begins).symm
  | .number _, _, _, .number isNumber, h' => by
    obtain ⟨c, more, rfl, first⟩ := isNumber.begins
    obtain ⟨text, rfl⟩ := eq_number first h'.begins_of_cons
    cases h'
    rfl
  | .string _, _, _, .string _, h' => by
    obtain ⟨body, rfl⟩ := eq_string h'.begins_of_cons
    generalize same : quoted _ = text at h'
    cases h'
    have bodies := List.append_cancel_right (List.cons.inj same).2
    rw [bodies]
  | .list items, _, _, .list written, h' => by
    obtain ⟨items', rfl⟩ := eq_list h'.begins_of_cons
    cases h' with
    | list written' => rw [WrittenItems.unique items written written' [] [] rfl]
  | .object members, _, _, .object written, h' => by
    obtain ⟨members', rfl⟩ := eq_object h'.begins_of_cons
    cases h' with
    | object written' => rw [WrittenMembers.unique members written written' [] [] rfl]

theorem WrittenItems.unique : (items : List Node) → ∀ {first : Bool} {items' : List Node}
    {text text' : List Char}, WrittenItems first items text → WrittenItems first items' text' →
    ∀ s s' : List Char, text ++ s = text' ++ s' → items = items'
  | [], _, [], _, _, _, _, _, _, _ => rfl
  | [], _, _ :: _, _, _, h, h', s, s', same => by
    have found := h.start_nil s
    obtain ⟨_, _, -, -, found'⟩ := h'.start_cons s'
    rw [same, found'] at found
    cases found
  | _ :: _, _, [], _, _, h, h', s, s', same => by
    have found' := h'.start_nil s'
    obtain ⟨_, _, -, -, found⟩ := h.start_cons s
    rw [same, found'] at found
    cases found
  | n :: rest, _, n' :: rest', _, _, h, h', s, s', same => by
    obtain ⟨value, tail, written, more, found⟩ := h.start_cons s
    obtain ⟨value', tail', written', more', found'⟩ := h'.start_cons s'
    rw [same, found'] at found
    have front := (Prod.mk.inj (Except.ok.inj found)).2
    obtain ⟨rfl, behind⟩ := written'.cut written blanks_nil blanks_nil (more'.endsNumber s')
      (more.endsNumber s) front
    rw [Written.unique n written written', WrittenItems.unique rest more more' s s' behind.symm]

theorem WrittenMembers.unique : (members : List (List Char × Node)) → ∀ {first : Bool}
    {members' : List (List Char × Node)} {text text' : List Char},
    WrittenMembers first members text → WrittenMembers first members' text' →
    ∀ s s' : List Char, text ++ s = text' ++ s' → members = members'
  | [], _, [], _, _, _, _, _, _, _ => rfl
  | [], _, (_, _) :: _, _, _, h, h', s, s', same => by
    have found := h.start_nil s
    obtain ⟨_, _, _, _, -, -, -, -, -, found'⟩ := h'.start_cons s'
    rw [same, found'] at found
    cases found
  | (_, _) :: _, _, [], _, _, h, h', s, s', same => by
    have found' := h'.start_nil s'
    obtain ⟨_, _, _, _, -, -, -, -, -, found⟩ := h.start_cons s
    rw [same, found'] at found
    cases found
  | (body, n) :: rest, _, (body', n') :: rest', _, _, h, h', s, s', same => by
    obtain ⟨before, after, value, tail, wellFormed, blanks, blanks₂, written, more, found⟩ :=
      h.start_cons s
    obtain ⟨before', after', value', tail', wellFormed', blanks', blanks₂', written', more',
      found'⟩ := h'.start_cons s'
    rw [same, found'] at found
    have key := (Prod.mk.inj (Except.ok.inj found)).2
    obtain ⟨rfl, colon⟩ := wellFormed'.ends_once wellFormed key
    have front := congrArg Shape.readColon colon
    rw [Shape.readColon_written blanks, Shape.readColon_written blanks'] at front
    obtain ⟨rfl, behind⟩ := written'.cut written blanks₂' blanks₂ (more'.endsNumber s')
      (more.endsNumber s) (Except.ok.inj front)
    rw [Written.unique n written written', WrittenMembers.unique rest more more' s s' behind.symm]

end

theorem Written.layout {n : Node} {text : List Char} (h : n.Written text) :
    n.Layout ([] ++ (text ++ [])) :=
  ⟨[], text, [], blanks_nil, h, blanks_nil, rfl⟩

theorem Layout.writable {n : Node} {s : List Char} (h : n.Layout s) : n.Writable := by
  obtain ⟨-, text, -, -, written, -⟩ := h
  exact ⟨text, written⟩

theorem Layout.unique {n n' : Node} {s : List Char} (h : n.Layout s) (h' : n'.Layout s) :
    n = n' := by
  obtain ⟨before, text, after, blanks, written, behind, rfl⟩ := h
  obtain ⟨before', text', after', blanks', written', behind', same⟩ := h'
  obtain ⟨rfl, -⟩ := written.cut written' blanks blanks' (endsNumber_of_blanks behind)
    (endsNumber_of_blanks behind') same
  exact written.unique n written'

end Node

end Tablecast.Json
