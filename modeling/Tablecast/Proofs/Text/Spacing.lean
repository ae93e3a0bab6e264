import Tablecast.Proofs.Text.Blank

/-!
# Spaced tokens

A text of tokens with any blanks before, between and behind them. Putting single spaces between its
words changes the blanks only: what stood together still does, and the tokens are the same.

* `Spaced.split`: a text of tokens falls into two at each token;
* `words_append_cons`: a blank cuts the words of a text in two;
* `Spaced.squeeze`: tokens outlast the change of blanks;
* `Spaced.trim`: trimming leaves a lone token.
-/

namespace Tablecast.Text

/-- No blanks, and something. -/
structure IsToken (t : List Char) : Prop where
  nonempty : t ≠ []
  solid : ∀ c ∈ t, isBlank c = false

/-- Nothing but blanks. -/
def IsGap (b : List Char) : Prop := ∀ c ∈ b, isBlank c = true

/-- The tokens in order, with any blanks before, between and behind them. -/
inductive Spaced : List (List Char) → List Char → Prop
  | nil {b : List Char} (gap : IsGap b) : Spaced [] b
  | cons {b t rest : List Char} {ts : List (List Char)} (gap : IsGap b) (later : Spaced ts rest) :
      Spaced (t :: ts) (b ++ t ++ rest)

theorem IsToken.append {s t : List Char} (hs : IsToken s) (ht : IsToken t) : IsToken (s ++ t) where
  nonempty := List.append_ne_nil_of_left_ne_nil hs.nonempty t
  solid := List.forall_mem_append.mpr ⟨hs.solid, ht.solid⟩

theorem isToken_singleton {c : Char} (solid : isBlank c = false) : IsToken [c] where
  nonempty := List.cons_ne_nil c []
  solid := List.forall_mem_singleton.mpr solid

theorem isGap_nil : IsGap [] := nofun

theorem isGap_singleton {c : Char} (blank : isBlank c = true) : IsGap [c] :=
  List.forall_mem_singleton.mpr blank

/-- A token stands between a text of what is before it and a text of what is behind it. -/
theorem Spaced.split {ts us : List (List Char)} {u s : List Char} (h : Spaced (ts ++ u :: us) s) :
    ∃ before behind, s = before ++ u ++ behind ∧ Spaced ts before ∧ Spaced us behind := by
  induction ts generalizing s with
  | nil =>
    cases h with
    | cons gap later => exact ⟨_, _, rfl, .nil gap, later⟩
  | cons t ts ih =>
    cases h with
    | @cons b _ _ _ gap later =>
      obtain ⟨before, behind, rfl, spaced, rest⟩ := ih later
      exact ⟨b ++ t ++ before, behind, by simp only [List.append_assoc], .cons gap spaced, rest⟩

/-- What is in a text is blank or in one of its tokens. -/
theorem Spaced.notMem {ts : List (List Char)} {s : List Char} {c : Char} (h : Spaced ts s)
    (solid : isBlank c = false) (absent : ∀ t ∈ ts, c ∉ t) : c ∉ s := by
  have noBlank {b : List Char} (gap : IsGap b) : c ∉ b := by
    intro inside
    rw [gap c inside] at solid
    cases solid
  induction h with
  | nil gap => exact noBlank gap
  | @cons b t rest ts gap _ ih =>
    obtain ⟨first, others⟩ := List.forall_mem_cons.mp absent
    intro inside
    rcases List.mem_append.mp inside with inside | inside
    · exact (List.mem_append.mp inside).elim (noBlank gap) first
    · exact ih others inside

/-! ## Words -/

/-- A blank cuts the words of a text in two. -/
theorem words_append_cons {s rest : List Char} {c : Char} (blank : isBlank c = true) :
    words (s ++ c :: rest) = words s ++ words rest := by
  rw [words, pieces_append_cons blank, List.filter_append]
  rfl

theorem words_gap_append {b : List Char} (gap : IsGap b) (s : List Char) :
    words (b ++ s) = words s := by
  induction b with
  | nil => rfl
  | cons c b ih =>
    obtain ⟨blank, gap⟩ := List.forall_mem_cons.mp gap
    calc words (c :: b ++ s)
        = words [] ++ words (b ++ s) := words_append_cons (s := []) blank
      _ = words (b ++ s) := List.nil_append _
      _ = words s := ih gap

theorem words_gap {b : List Char} (gap : IsGap b) : words b = [] := by
  rw [← List.append_nil b, words_gap_append gap]
  rfl

/-! ## Single spaces -/

/-- The words with single spaces between them. -/
def squeeze (s : List Char) : List Char := [' '].intercalate (words s)

theorem squeeze_cons_word {s t : List Char} {ts : List (List Char)} (cut : words s = t :: ts)
    (more : ts ≠ []) : squeeze s = t ++ ' ' :: [' '].intercalate ts := by
  obtain ⟨u, us, rfl⟩ := List.exists_cons_of_ne_nil more
  rw [squeeze, cut, List.intercalate_cons_cons, List.append_assoc, List.singleton_append]

/-- Behind a token, tokens stay tokens. -/
theorem Spaced.squeeze_behind {ts : List (List Char)} {s x : List Char} (h : Spaced ts s)
    (tokens : ∀ t ∈ ts, IsToken t) (token : IsToken x) :
    ∃ rest, squeeze (x ++ s) = x ++ rest ∧ Spaced ts rest := by
  induction h generalizing x with
  | @nil b gap =>
    refine ⟨[], ?_, .nil isGap_nil⟩
    have word : words (x ++ b) = [x] := by
      cases b with
      | nil => rw [List.append_nil, words_eq_singleton token.solid token.nonempty]
      | cons c b =>
        obtain ⟨blank, gap⟩ := List.forall_mem_cons.mp gap
        rw [words_append_cons blank, words_gap gap, List.append_nil,
          words_eq_singleton token.solid token.nonempty]
    rw [squeeze, word, List.intercalate_singleton, List.append_nil]
  | @cons b t rest ts gap _ ih =>
    obtain ⟨first, others⟩ := List.forall_mem_cons.mp tokens
    cases b with
    | nil =>
      -- Without a blank between them the two tokens are one word, so one token to what follows.
      obtain ⟨rest', joined, spaced⟩ := ih others (token.append first)
      refine ⟨[] ++ t ++ rest', ?_, .cons isGap_nil spaced⟩
      simp only [List.nil_append, List.append_assoc] at joined ⊢
      exact joined
    | cons c b =>
      obtain ⟨blank, gap⟩ := List.forall_mem_cons.mp gap
      obtain ⟨rest', later, spaced⟩ := ih others first
      have cut : words (x ++ (c :: b ++ t ++ rest)) = x :: words (t ++ rest) := by
        rw [List.cons_append, List.cons_append, words_append_cons blank,
          words_eq_singleton token.solid token.nonempty, List.append_assoc, words_gap_append gap]
        rfl
      have more : words (t ++ rest) ≠ [] := by
        intro none
        rw [squeeze, none] at later
        exact first.nonempty (List.append_eq_nil_iff.mp later.symm).1
      refine ⟨[' '] ++ t ++ rest', ?_, .cons (isGap_singleton rfl) spaced⟩
      rw [squeeze_cons_word cut more]
      change x ++ ' ' :: squeeze (t ++ rest) = _
      rw [later, List.append_assoc, List.singleton_append]

/-- **Tokens outlast the change of blanks,** and the first one is then at the front. -/
theorem Spaced.squeeze {t : List Char} {ts : List (List Char)} {s : List Char}
    (h : Spaced (t :: ts) s) (tokens : ∀ u ∈ t :: ts, IsToken u) :
    ∃ rest, Text.squeeze s = t ++ rest ∧ Spaced ts rest := by
  obtain ⟨first, others⟩ := List.forall_mem_cons.mp tokens
  cases h with
  | @cons b _ rest _ gap later =>
    obtain ⟨rest', behind, spaced⟩ := later.squeeze_behind others first
    refine ⟨rest', ?_, spaced⟩
    rw [List.append_assoc, Text.squeeze, words_gap_append gap]
    exact behind

/-! ## Trimming -/

theorem trimEnd_gap {b : List Char} (gap : IsGap b) : trimEnd b = [] := by
  rw [trimEnd, List.reverse_eq_nil_iff, List.dropWhile_eq_nil_iff]
  intro c hc
  exact gap c (List.mem_reverse.mp hc)

theorem IsToken.trimStart_append {t : List Char} (token : IsToken t) (rest : List Char) :
    trimStart (t ++ rest) = t ++ rest := by
  obtain ⟨c, t, rfl⟩ := List.exists_cons_of_ne_nil token.nonempty
  have solid := token.solid c List.mem_cons_self
  rw [List.cons_append, trimStart, List.dropWhile_cons_of_neg (by rw [solid]; decide)]

theorem IsToken.trimEnd_eq {t : List Char} (token : IsToken t) : trimEnd t = t := by
  have kept : trim t = t := trim_eq_self token.solid
  have start := token.trimStart_append []
  rw [List.append_nil] at start
  rwa [trim, start] at kept

/-- **Trimming leaves a lone token.** -/
theorem Spaced.trim {t s : List Char} (h : Spaced [t] s) (token : IsToken t) :
    Text.trim s = t := by
  cases h with
  | @cons b _ rest _ gap later =>
    cases later with
    | nil behind =>
      have start : trimStart (b ++ (t ++ rest)) = trimStart (t ++ rest) :=
        List.dropWhile_append_of_pos gap
      rw [List.append_assoc, Text.trim, start, token.trimStart_append,
        trimEnd_append token.trimEnd_eq, trimEnd_gap behind, List.append_nil]

end Tablecast.Text
