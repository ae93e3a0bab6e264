import Mathlib.Data.List.Forall2
import Tablecast.Proofs.Json.Unambiguous
import Tablecast.Proofs.Success

/-!
# What readers accept

A reader accepts layouts of nodes and nothing else, and what it makes of a layout depends on the
node alone: not on the blanks, nor on the text behind it. This is shown here for strings, flags and
lists.

* `Reads`: the reader takes this value from every layout of the node,
* `Settled`: an accepted text is a layout of a node that is read so,
* `list_of_ok`, `reads_list`: a list is accepted if and only if its elements are.
-/

namespace Tablecast.Json

open Node

variable {α β : Type}

/-- The reader takes the value from every layout of the node. -/
def Reads (reader : List Char → Except Fault (β × List Char)) (n : Node) (v : β) : Prop :=
  ∀ ⦃blanks text : List Char⦄, Blanks blanks → Node.Written n text →
    ∀ rest, reader (blanks ++ (text ++ rest)) = .ok (v, rest)

/-- What the reader accepts is a layout of a node, and it takes the same value from every other
layout of the node. -/
def Settled (reader : List Char → Except Fault (β × List Char)) : Prop :=
  ∀ ⦃s rest : List Char⦄ ⦃v : β⦄, reader s = .ok (v, rest) →
    ∃ blanks n text, Blanks blanks ∧ Node.Written n text ∧ s = blanks ++ (text ++ rest) ∧
      Reads reader n v

theorem Settled.reads {reader : List Char → Except Fault (β × List Char)} (h : Settled reader)
    {n : Node} {text : List Char} {v : β} (written : n.Written text)
    (accepted : reader ([] ++ (text ++ [])) = .ok (v, [])) : Reads reader n v := by
  obtain ⟨blanks, n', text', areBlanks, written', split, reads⟩ := h accepted
  rw [written.layout.unique ⟨blanks, text', [], areBlanks, written', blanks_nil, split⟩]
  exact reads

/-! ## Strings and flags -/

theorem readWord_eq_ok {word s rest : List Char} :
    readWord word s = .ok rest ↔ s = word ++ rest := by
  induction word generalizing s with
  | nil => simp [readWord]
  | cons e word ih =>
    cases s with
    | nil => simp [readWord]
    | cons c s =>
      rw [readWord]
      split_ifs with same
      · simp [ih, same]
      · simp [same]

section Texts

variable {body text : List Char}

theorem readString_spelled (h : Spells body text) (rest : List Char) :
    readString (quoted body ++ rest) = .ok (.ofList text, rest) := by
  have read := readText_spelled h [] rest
  have quote : isBlank '"' = false := by decide
  rw [quoted, List.cons_append, List.append_assoc, readString, skipBlanks_cons quote]
  simp only [List.singleton_append, read]
  rfl

theorem reads_string (h : Spells body text) :
    Reads readString (.string body) (.ofList text) := by
  rintro blanks text before ⟨⟩ rest
  have front : readString (blanks ++ (quoted body ++ rest)) = readString (quoted body ++ rest) := by
    rw [readString, readString, skipBlanks_append before]
  rw [front, readString_spelled h]

theorem reads_null : Reads readOptional .null none := by
  rintro blanks text before ⟨⟩ rest
  rw [readOptional, skipBlanks_append before]
  rfl

theorem reads_some (h : Spells body text) :
    Reads readOptional (.string body) (some (.ofList text)) := by
  rintro blanks text before ⟨⟩ rest
  have read := readString_spelled h rest
  have quote : isBlank '"' = false := by decide
  rw [quoted, List.cons_append] at read ⊢
  rw [readOptional, skipBlanks_append before, skipBlanks_cons quote]
  exact bind_eq_ok.mpr ⟨_, read, rfl⟩

theorem reads_boolean (b : Bool) : Reads readBoolean (.boolean b) b := by
  rintro blanks text before ⟨⟩ rest
  rw [readBoolean, skipBlanks_append before]
  cases b <;> rfl

end Texts

/-- An accepted string is the spelling of the text it is read as. -/
theorem string_of_ok {s rest : List Char} {v : String} (h : readString s = .ok (v, rest)) :
    ∃ blanks body text, Blanks blanks ∧ Spells body text ∧ s = blanks ++ (quoted body ++ rest) ∧
      v = .ofList text := by
  obtain ⟨blanks, areBlanks, split⟩ := skipBlanks_split s
  rw [readString] at h
  split at h
  next tail token =>
    obtain ⟨⟨text, rest⟩, read, done⟩ := bind_eq_ok.mp h
    obtain ⟨rfl, rfl⟩ := Prod.mk.inj (pure_eq_ok.mp done)
    obtain ⟨body, spelled, spells, rfl, same⟩ := spelled_of_readText read
    rw [List.reverse_nil, List.nil_append] at same
    rw [token] at split
    rw [same]
    exact ⟨blanks, body, spelled, areBlanks, spells, by simp [split, quoted], rfl⟩
  next => cases h

theorem settled_string : Settled readString := by
  intro s rest v h
  obtain ⟨blanks, body, text, areBlanks, spells, rfl, rfl⟩ := string_of_ok h
  exact ⟨blanks, .string body, _, areBlanks, .string spells.body, rfl, reads_string spells⟩

theorem settled_optional : Settled readOptional := by
  intro s rest v h
  obtain ⟨blanks, areBlanks, split⟩ := skipBlanks_split s
  rw [readOptional] at h
  split at h
  next tail token =>
    obtain ⟨_, word, done⟩ := bind_eq_ok.mp h
    obtain ⟨rfl, rfl⟩ := Prod.mk.inj (pure_eq_ok.mp done)
    rw [token, readWord_eq_ok.mp word] at split
    exact ⟨blanks, .null, _, areBlanks, .null, split, reads_null⟩
  next =>
    obtain ⟨⟨v, rest⟩, read, done⟩ := bind_eq_ok.mp h
    obtain ⟨rfl, rfl⟩ := Prod.mk.inj (pure_eq_ok.mp done)
    obtain ⟨blanks', body, text, areBlanks', spells, split', rfl⟩ := string_of_ok read
    rw [split', ← List.append_assoc] at split
    exact ⟨_, .string body, _, List.forall_mem_append.mpr ⟨areBlanks, areBlanks'⟩,
      .string spells.body, split, reads_some spells⟩

theorem settled_boolean : Settled readBoolean := by
  intro s rest v h
  obtain ⟨blanks, areBlanks, split⟩ := skipBlanks_split s
  rw [readBoolean] at h
  split at h
  next tail token =>
    obtain ⟨_, word, done⟩ := bind_eq_ok.mp h
    obtain ⟨rfl, rfl⟩ := Prod.mk.inj (pure_eq_ok.mp done)
    rw [token, readWord_eq_ok.mp word] at split
    exact ⟨blanks, .boolean true, _, areBlanks, .boolean true, split, reads_boolean true⟩
  next tail token =>
    obtain ⟨_, word, done⟩ := bind_eq_ok.mp h
    obtain ⟨rfl, rfl⟩ := Prod.mk.inj (pure_eq_ok.mp done)
    rw [token, readWord_eq_ok.mp word] at split
    exact ⟨blanks, .boolean false, _, areBlanks, .boolean false, split, reads_boolean false⟩
  next => cases h

/-! ## Lists -/

/-- Elements are read up to the end of their list if more characters are left than elements. -/
theorem readElements_reads {item : List Char → Except Fault (α × List Char)} {items : List Node}
    {xs : List α} (reads : List.Forall₂ (Reads item) items xs) {k : Nat}
    (enough : items.length < k) {first : Bool} {text : List Char}
    (written : Node.WrittenItems first items text) (acc : List α) (rest : List Char) :
    readElements item k first acc (text ++ rest) = .ok (acc.reverse ++ xs, rest) := by
  obtain ⟨m, rfl⟩ := Nat.exists_eq_succ_of_ne_zero (Nat.ne_zero_of_lt enough)
  induction reads generalizing m first text acc with
  | nil =>
    rw [readElements, written.start_nil rest, List.append_nil]
    rfl
  | @cons n x items xs head tail ih =>
    obtain ⟨value, text', written, more, found⟩ := written.start_cons rest
    have read := head blanks_nil written (text' ++ rest)
    have enough := Nat.lt_of_succ_lt_succ enough
    obtain ⟨k, rfl⟩ := Nat.exists_eq_succ_of_ne_zero (Nat.ne_zero_of_lt enough)
    have others := ih more (x :: acc) k enough
    rw [List.nil_append] at read
    rw [readElements, found]
    simp only [bind, Except.bind, read, others, List.reverse_cons, List.append_assoc,
      List.singleton_append]

theorem reads_list {item : List Char → Except Fault (α × List Char)} {items : List Node}
    {xs : List α} (reads : List.Forall₂ (Reads item) items xs) :
    Reads (readList item) (.list items) xs := by
  intro blanks text before written rest
  cases written with
  | list more =>
    have bracket : isBlank '[' = false := by decide
    have enough := more.length_lt
    rw [readList, skipBlanks_append before, List.cons_append, skipBlanks_cons bracket]
    exact readElements_reads reads (by simp; omega) more [] rest

theorem items_of_readElements {item : List Char → Except Fault (α × List Char)}
    (settled : Settled item) {k : Nat} {first : Bool} {acc ys : List α} {s rest : List Char}
    (h : readElements item k first acc s = .ok (ys, rest)) :
    ∃ items xs text, Node.WrittenItems first items text ∧ s = text ++ rest ∧
      ys = acc.reverse ++ xs ∧ List.Forall₂ (Reads item) items xs := by
  induction k generalizing first acc s with
  | zero => cases h
  | succ k ih =>
    obtain ⟨⟨found, s'⟩, next, run⟩ := bind_eq_ok.mp h
    have front := nextElement_ok next
    cases found with
    | false =>
      obtain ⟨blanks, areBlanks, rfl⟩ := front
      obtain ⟨rfl, rfl⟩ := Prod.mk.inj (Except.ok.inj run)
      exact ⟨[], [], _, .close areBlanks, by simp, by simp, .nil⟩
    | true =>
      obtain ⟨lead, leads, rfl⟩ := front
      obtain ⟨⟨x, tail⟩, read, more⟩ := bind_eq_ok.mp run
      obtain ⟨blanks, n, text, areBlanks, written, rfl, reads⟩ := settled read
      obtain ⟨items, xs, text', written', rfl, rfl, others⟩ := ih more
      exact ⟨n :: items, x :: xs, _, .item (leads.append areBlanks) written written', by simp,
        by simp, .cons reads others⟩

/-- An accepted list is a list of accepted elements. -/
theorem list_of_ok {item : List Char → Except Fault (α × List Char)} (settled : Settled item)
    {s rest : List Char} {xs : List α} (h : readList item s = .ok (xs, rest)) :
    ∃ blanks items text, Blanks blanks ∧ Node.Written (.list items) text ∧
      s = blanks ++ (text ++ rest) ∧ List.Forall₂ (Reads item) items xs := by
  obtain ⟨blanks, areBlanks, split⟩ := skipBlanks_split s
  rw [readList] at h
  split at h
  next tail token =>
    obtain ⟨items, xs, text, written, rfl, rfl, reads⟩ := items_of_readElements settled h
    rw [token] at split
    exact ⟨blanks, items, _, areBlanks, .list written, split, reads⟩
  next => cases h

theorem settled_list {item : List Char → Except Fault (α × List Char)} (settled : Settled item) :
    Settled (readList item) := by
  intro s rest xs h
  obtain ⟨blanks, items, text, areBlanks, written, rfl, reads⟩ := list_of_ok settled h
  exact ⟨blanks, .list items, text, areBlanks, written, rfl, reads_list reads⟩

end Tablecast.Json
