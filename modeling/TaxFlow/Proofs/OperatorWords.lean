import TaxFlow.Proofs.Grouping
import TaxFlow.Proofs.LastPiece
import TaxFlow.Proofs.WholeText

/-!
# The words of boolean operators

In chart notation boolean operators are signs, and they are respelled as words. The texts on both
sides of a sign are respelled by themselves, and what is read behind the left one depends on its
last piece and on the blanks between it and the word.
-/
namespace TaxFlow.Formula

/-- A boolean operator is written as this character twice. -/
def BoolOp.mark : BoolOp → Char
  | .and => '&'
  | .or => '|'

/-- The word a boolean operator is respelled as. -/
def BoolOp.word : BoolOp → List Char
  | .and => ['a', 'n', 'd']
  | .or => ['o', 'r']

section Words

variable {op : BoolOp} {depth : Nat} {fresh : Bool} {gap cs : List Char} {ts : List Token}

theorem BoolOp.isWordChar_of_mem : ∀ c ∈ op.word, isWordChar c = true :=
  List.all_eq_true.1 (by cases op <;> decide)

theorem BoolOp.head_word :
    ∃ c w, op.word = c :: w ∧ c.isDigit = false ∧ isOperatorStart c = true ∧ isGap c = false := by
  cases op
  · exact ⟨_, _, rfl, by decide⟩
  · exact ⟨_, _, rfl, by decide⟩

/-- No word that holds an operator stands for marks in front of a string. -/
theorem BoolOp.ofWord_eq_none {w : List Char} (h : op.word ⊆ w) : TextMarks.ofWord w = none := by
  cases op
  · exact Formula.ofWord_eq_none (c := 'a') (h (by simp [BoolOp.word])) (by decide)
  · exact Formula.ofWord_eq_none (c := 'o') (h (by simp [BoolOp.word])) (by decide)

theorem BoolOp.wordToken_word : wordToken op.word = some op.token := by cases op <;> decide

theorem dropWhile_operator :
    (gap ++ (op.word ++ cs)).dropWhile isGap = gap.dropWhile isGap ++ (op.word ++ cs) := by
  obtain ⟨k, w, hop, -, -, hk⟩ := op.head_word
  rw [List.dropWhile_append]
  split
  next hempty => simp [List.isEmpty_iff.1 hempty, hop, hk]
  next => rfl

theorem lexStep_gap {c : Char} {s : LexStep} (hc : isGap c = true)
    (h : lexStep depth fresh (c :: cs) = some s) :
    ⟨none, cs.dropWhile isGap, depth, fresh⟩ = s := by
  simp only [lexStep, hc, if_true, gapStep, List.span_eq_takeWhile_dropWhile,
    List.dropWhile_cons] at h
  exact Option.some.inj (Option.ite_none_left_eq_some.1 h).2

/-- Gaps within a line are passed over. -/
theorem tokensFrom_dropWhile :
    tokensFrom depth false (cs.dropWhile isGap) = tokensFrom depth false cs := by
  cases cs with
  | nil => rfl
  | cons c cs =>
    by_cases hc : isGap c = true
    · have hstep : lexStep depth false (c :: cs) =
          some ⟨none, (c :: cs).dropWhile isGap, depth, false⟩ := by
        simp [lexStep, hc, gapStep, List.span_eq_takeWhile_dropWhile]
      have hlength : (cs.dropWhile isGap).length ≤ cs.length := (List.dropWhile_suffix _).length_le
      rw [tokensFrom_of_lexStep hstep (by simp [hc]; omega)]
      simp
    · simp [hc]

theorem tokensFrom_gaps (hgap : ∀ c ∈ gap, isGap c = true) :
    tokensFrom depth false (gap ++ cs) = tokensFrom depth false cs := by
  rw [← tokensFrom_dropWhile, List.dropWhile_append_of_pos hgap, tokensFrom_dropWhile]

theorem tokensFrom_blank : tokensFrom depth false (' ' :: cs) = tokensFrom depth false cs := by
  rw [← List.singleton_append, tokensFrom_gaps (List.forall_mem_singleton.2 rfl)]

/-- Whether a text does not go on with the word in front of it. Behind a word, a blank that is no
gap is no better. -/
def Detached (cs : List Char) : Prop := ∀ c ∈ cs.head?, isWordChar c = true → Text.isBlank c = true

/-- A word that holds an operator. -/
theorem lexStep_operator {w rest : List Char} (hword : ∀ c ∈ w, isWordChar c = true)
    (hdigit : ∀ c ∈ w.head?, c.isDigit = false) (hop : op.word ⊆ w)
    (hrest : ∀ c ∈ rest.head?, isWordChar c = false) :
    lexStep depth fresh (w ++ rest) = (wordToken w).map fun t => ⟨some t, rest, depth, false⟩ := by
  cases w with
  | nil =>
    obtain ⟨k, v, hk, -⟩ := op.head_word
    simp [hk] at hop
  | cons c w =>
    rw [List.cons_append, Lexes.lexStep_word (hword c List.mem_cons_self) (hdigit c rfl),
      ← List.cons_append, wordStep_plain hword hrest (.inr (BoolOp.ofWord_eq_none hop))]

/-- An operator in front of a text that does not go on with it. -/
theorem tokensFrom_operator (h : Detached cs) :
    tokensFrom depth fresh (op.word ++ cs) = (tokensFrom depth false cs).map (op.token :: ·) := by
  obtain ⟨k, w, hop, hdigit, -⟩ := op.head_word
  have hne : op.word ≠ [] := by simp [hop]
  have hdigit : ∀ c ∈ op.word.head?, c.isDigit = false := by simpa [hop] using hdigit
  have hread : (∀ c ∈ cs.head?, isWordChar c = false) →
      lexStep depth fresh (op.word ++ cs) = some ⟨some op.token, cs, depth, false⟩ := by
    intro hends
    rw [lexStep_operator op.isWordChar_of_mem hdigit (List.Subset.refl _) hends, op.wordToken_word]
    rfl
  cases cs with
  | nil => exact Lexes.of_step (some op.token) hne (hread (by simp))
  | cons c cs =>
    by_cases hc : isWordChar c = true
    · have hblank := h c rfl hc
      have hnone : lexStep depth false (c :: cs) = none :=
        lexStep_of_blank (w := []) (by simp) (by simp) hblank hc
      rw [tokensFrom_eq_none (lexStep_of_blank op.isWordChar_of_mem hdigit hblank hc) (by simp),
        tokensFrom_eq_none hnone (by simp), Option.map_none]
    · exact Lexes.of_step (some op.token) hne (hread (by simpa using hc))

theorem symbolStep_of_blank {c : Char} (hblank : Text.isBlank c = true) :
    symbolStep depth (c :: cs) = none := by
  have hne : ∀ p ∈ symbols, p.1 ≠ [] := by decide
  have hfind : symbols.find? (fun p => p.1.isPrefixOf (c :: cs)) = none := by
    rw [List.find?_eq_none]
    rintro ⟨spelling, x⟩ hp hbegins
    obtain ⟨k, spelling', rfl⟩ := List.exists_cons_of_ne_nil (hne _ hp)
    obtain ⟨rfl, -⟩ := List.cons_prefix_cons.1 (List.isPrefixOf_iff_prefix.1 hbegins)
    have hstart := not_isOperatorStart_of_mem_symbols _ hp k List.mem_cons_self
    simp [isOperatorStart, hblank] at hstart
  simp [symbolStep, hfind]

/-- Blanks other than gaps and line feeds are in error. -/
theorem lexStep_blank {c : Char} (hblank : Text.isBlank c = true) (hgap : isGap c = false)
    (hline : c ≠ '\n') :
    lexStep depth fresh (c :: cs) = none := by
  by_cases hword : isWordChar c = true
  · exact lexStep_of_blank (w := []) (by simp) (by simp) hblank hword
  · have hne : ∀ k, Text.isBlank k = false → c ≠ k := by
      rintro k hk rfl
      simp [hblank] at hk
    simp [lexStep, hgap, hline, hword, hne '#' (by decide), hne '\\' (by decide),
      hne '"' (by decide), hne '\'' (by decide), hne '.' (by decide),
      isDigit_of_isOperatorStart (c := c) (by simp [isOperatorStart, hblank]),
      symbolStep_of_blank hblank]

/-- Behind blanks at the start of a line only the operator can be the first token. -/
theorem head?_tokens_of_blanks (hgap : ∀ c ∈ gap, Text.isBlank c = true) (hcs : Detached cs)
    (h : tokensFrom 0 true (gap ++ (op.word ++ cs)) = some ts) : ts.head? = some op.token := by
  induction hn : gap.length using Nat.strongRecOn generalizing gap with
  | ind n ih =>
    cases gap with
    | nil =>
      rw [List.nil_append, tokensFrom_operator hcs, Option.map_eq_some_iff] at h
      obtain ⟨us, -, rfl⟩ := h
      rfl
    | cons c gap =>
      have hrest : ∀ c ∈ gap, Text.isBlank c = true := fun k hk =>
        hgap k (List.mem_cons_of_mem c hk)
      by_cases hc : isGap c = true
      · have hlength : (gap.dropWhile isGap).length ≤ gap.length :=
          (List.dropWhile_suffix _).length_le
        cases hstep : lexStep 0 true (c :: gap ++ (op.word ++ cs)) with
        | none =>
          rw [tokensFrom_eq_none hstep (by simp)] at h
          cases h
        | some s =>
          cases lexStep_gap hc hstep
          rw [tokensFrom_of_lexStep hstep (by simp [dropWhile_operator]; omega)] at h
          have h : tokensFrom 0 true ((gap ++ (op.word ++ cs)).dropWhile isGap) =
              some ts := by simpa using h
          rw [dropWhile_operator] at h
          refine ih (gap.dropWhile isGap).length ?_ (fun k hk =>
            hrest k ((List.dropWhile_suffix _).subset hk)) h rfl
          rw [← hn, List.length_cons]
          omega
      by_cases hline : c = '\n'
      · subst hline
        have hstep : lexStep 0 true ('\n' :: gap ++ (op.word ++ cs)) =
            some ⟨none, gap ++ (op.word ++ cs), 0, true⟩ := by
          simp [lexStep, isGap]
        rw [tokensFrom_of_lexStep hstep (by simp)] at h
        exact ih gap.length (by simp [← hn]) hrest (by simpa using h) rfl
      · rw [List.cons_append,
          tokensFrom_eq_none (lexStep_blank (hgap c List.mem_cons_self) (by simpa using hc) hline)
          (by simp)] at h
        cases h

/-- Behind blanks that are no gap a new line begins with the operator. -/
theorem tokens_of_blanks (hgap : ∀ c ∈ gap, Text.isBlank c = true)
    (hnot : ∃ c ∈ gap, isGap c = false)
    (hcs : Detached cs) (h : tokensFrom 0 false (gap ++ (op.word ++ cs)) = some ts) :
    ∃ us, ts = .lineEnd :: us ∧ us.head? = some op.token := by
  rw [← List.takeWhile_append_dropWhile (p := isGap) (l := gap), List.append_assoc,
    tokensFrom_gaps fun _ => List.mem_takeWhile_imp] at h
  cases hdrop : gap.dropWhile isGap with
  | nil =>
    obtain ⟨c, hc, hnone⟩ := hnot
    cases hdrop ▸ mem_dropWhile hc hnone
  | cons c rest =>
    have hnext : isGap c = false := of_mem_head?_dropWhile c (by rw [hdrop]; rfl)
    have hblank : ∀ k ∈ c :: rest, Text.isBlank k = true := fun k hk =>
      hgap k ((List.dropWhile_suffix isGap).subset (hdrop ▸ hk))
    rw [hdrop] at h
    by_cases hline : c = '\n'
    · subst hline
      have hstep : lexStep 0 false ('\n' :: rest ++ (op.word ++ cs)) =
          some ⟨some .lineEnd, rest ++ (op.word ++ cs), 0, true⟩ := by simp [lexStep, isGap]
      rw [tokensFrom_of_lexStep hstep (by simp), Option.map_eq_some_iff] at h
      obtain ⟨us, hus, rfl⟩ := h
      exact ⟨us, rfl,
        head?_tokens_of_blanks (fun k hk => hblank k (List.mem_cons_of_mem _ hk)) hcs hus⟩
    · rw [List.cons_append,
        tokensFrom_eq_none (lexStep_blank (hblank c List.mem_cons_self) hnext hline) (by simp)] at h
      cases h

theorem BoolOp.role_token : op.token.role = .connective := by cases op <;> rfl

/-- A line cannot begin with a boolean operator. -/
theorem statements_of_leading_operator {n : Nat} {us : List Token}
    (hline : ts = [] ∨ ts.getLast? = some .lineEnd)
    (hus : us.head? = some op.token) : statements n (ts ++ us) = none := by
  obtain ⟨us, rfl⟩ := List.head?_eq_some_iff.1 hus
  rw [Option.eq_none_iff_forall_ne_some]
  intro ss hss
  obtain ⟨c, hwalk, -⟩ := statements_walk hss (c := ⟨0, .start, [], 0, false⟩) rfl rfl
  rw [Cursor.walk_append, Option.bind_eq_some_iff] at hwalk
  obtain ⟨d, hd, hwalk⟩ := hwalk
  have hplace : d.place = .start := by
    rcases hline with rfl | hlast
    · cases hd
      rfl
    · obtain ⟨ts, rfl⟩ := List.getLast?_eq_some_iff.1 hlast
      rw [Cursor.walk_append, Option.bind_eq_some_iff] at hd
      obtain ⟨k, -, hd⟩ := hd
      cases hd
      rfl
  simp [Cursor.walk, Cursor.step, op.role_token, hplace] at hwalk

/-- Where an operator stands in an expression, no name can stand in its place. -/
theorem statements_of_name_for_operator {m n : Nat} {us vs : List Token} {e : Expr} {id : String}
    (h : statements n (ts ++ op.token :: us) = some [.expression e]) :
    statements m (ts ++ .name id :: vs) = none := by
  obtain ⟨c, hwalk, -, himporting⟩ := walk_of_expression h
  rw [Cursor.walk_append, Option.bind_eq_some_iff] at hwalk
  obtain ⟨d, hd, hrest⟩ := hwalk
  have hplace : d.place = .ended := by
    rw [Cursor.walk_cons, Option.bind_eq_some_iff] at hrest
    obtain ⟨d', hstep, -⟩ := hrest
    simp only [Cursor.step, op.role_token, Option.ite_none_right_eq_some] at hstep
    exact hstep.1
  have hnot : d.importing = false := by
    rw [← Bool.not_eq_true]
    intro himport
    simp [walk_importing hrest himport] at himporting
  rw [Option.eq_none_iff_forall_ne_some]
  intro ss hss
  obtain ⟨c', hwalk', -⟩ := statements_walk hss (c := ⟨0, .start, [], 0, false⟩) rfl rfl
  rw [Cursor.walk_append, hd, Option.bind_some] at hwalk'
  simp [Cursor.walk, Cursor.step, Token.role, hplace, hnot] at hwalk'

end Words

/-- Whether the word of an operator directly behind the last token of a text is taken for a part of
it. -/
def joins (op : BoolOp) (t : Token) (q : List Char) : Bool :=
  match t with
  | .name _ | .keyword _ => true
  | .number _ =>
    match op with
    | .and => isHexadecimal q
    | .or => q == ['0']
  | _ => false

/-- Whether a text is in error, whatever its tokens are. -/
def Unreadable (cs : List Char) : Prop :=
  ∀ ts, tokensFrom 0 true cs = some ts → ∀ n, statements n ts = none

section Behind

variable {op : BoolOp} {f : Bool} {as gap cs q note : List Char} {t : Token} {before : List Token}

theorem head_isOperatorStart : ∀ c ∈ (op.word ++ cs).head?, isOperatorStart c = true := by
  obtain ⟨k, w, hop, -, hstart, -⟩ := op.head_word
  simpa [hop] using hstart

theorem pieceStops_operator (h : joins op t q = false) : PieceStops q (some t) (op.word ++ cs) := by
  cases t with
  | name | keyword => cases h
  | text | symbol | lineEnd => trivial
  | number k =>
    refine ⟨⟨numberEnds_of_isOperatorStart head_isOperatorStart, fun _ hhex c hc => ?_,
      fun hzero c hc => ?_⟩, ?_⟩
    · cases op with
      | and => cases hhex.symm.trans h
      | or => cases hc; decide
    · cases op with
      | and => cases hc; decide
      | or => simp [joins, hzero] at h
    · cases op <;> simp [BoolOp.word, endsNumber]

theorem pieceStops_of_blank {c : Char} (hblank : Text.isBlank c = true)
    (hword : isWordChar c = false) :
    PieceStops q (some t) (c :: cs) := by
  cases t with
  | name | keyword => simpa [PieceStops] using hword
  | text | symbol | lineEnd => trivial
  | number k => exact ⟨numberStops_of_blank (by simpa using hblank), by simp [endsNumber, hword]⟩

/-- An operator behind gaps, or directly behind a token that it does not join. -/
theorem Ending.gaps (h : Ending 0 true as before q f ⟨some t, [], 0, false⟩)
    (hgap : ∀ c ∈ gap, isGap c = true)
    (hjoins : gap = [] → joins op t q = false) :
    tokensFrom 0 true (as ++ (gap ++ (op.word ++ cs))) =
      (tokensFrom 0 false (op.word ++ cs)).map (before ++ [t] ++ ·) := by
  cases gap with
  | nil => exact h.stops head_isOperatorStart (pieceStops_operator (hjoins rfl))
  | cons c gap =>
    have hc := hgap c List.mem_cons_self
    have hblank := isBlank_of_isGap hc
    have hword : isWordChar c = false := by
      simp only [isGap, Bool.or_eq_true, beq_iff_eq] at hc
      rcases hc with (rfl | rfl) | rfl <;> decide
    rw [List.cons_append,
      h.stops (isOperatorStart_of_blank (by simpa using hblank)) (pieceStops_of_blank hblank hword),
      ← List.cons_append, tokensFrom_gaps hgap]

/-- An operator behind blanks that do not only separate tokens. -/
theorem Ending.unreadable (h : Ending 0 true as before q f ⟨some t, [], 0, false⟩)
    (hgap : ∀ c ∈ gap, Text.isBlank c = true) (hnot : ∃ c ∈ gap, isGap c = false)
    (hcs : Detached cs) :
    Unreadable (as ++ (gap ++ (op.word ++ cs))) := by
  intro ts hts n
  cases gap with
  | nil => simp at hnot
  | cons c gap =>
    have hblank := hgap c List.mem_cons_self
    have hmore : ∀ k ∈ (c :: gap ++ (op.word ++ cs)).head?, Text.isBlank k = true := by
      simpa using hblank
    by_cases hstops : PieceStops q (some t) (c :: gap ++ (op.word ++ cs))
    · rw [h.stops (isOperatorStart_of_blank hmore) hstops, Option.map_eq_some_iff] at hts
      obtain ⟨us, hus, rfl⟩ := hts
      obtain ⟨vs, rfl, hvs⟩ := tokens_of_blanks hgap hnot hcs hus
      rw [List.append_cons]
      exact statements_of_leading_operator (.inr (by simp)) hvs
    · have hword : isWordChar c = true := by
        by_contra hword
        exact hstops (pieceStops_of_blank hblank (by simpa using hword))
      rw [h.blocked rfl hblank hword hstops] at hts
      cases hts

theorem BoolOp.line_not_mem : '\n' ∉ op.word := by cases op <;> decide

/-- An operator within a comment. -/
theorem Ending.within_note (h : Ending 0 true as before ('#' :: note) f ⟨none, [], 0, f⟩)
    (hnote : '\n' ∉ note)
    (hline : '\n' ∉ gap) : tokensFrom 0 true (as ++ (gap ++ (op.word ++ cs))) =
      (tokensFrom 0 f (cs.dropWhile (· != '\n'))).map (before ++ ·) := by
  rw [h.note hnote, dropWhile_append_of_line hline, dropWhile_append_of_line op.line_not_mem]

/-- An operator on a line behind a comment. -/
theorem Ending.behind_note (h : Ending 0 true as before ('#' :: note) f ⟨none, [], 0, f⟩)
    (hnote : '\n' ∉ note)
    (hgap : ∀ c ∈ gap, Text.isBlank c = true) (hline : '\n' ∈ gap) (hcs : Detached cs) :
    Unreadable (as ++ (gap ++ (op.word ++ cs))) := by
  intro ts hts n
  have hmem : '\n' ∈ gap.dropWhile (· != '\n') := mem_dropWhile hline rfl
  have hblank : ∀ c ∈ gap.dropWhile (· != '\n'), Text.isBlank c = true := fun c hc =>
    hgap c ((List.dropWhile_suffix _).subset hc)
  rw [h.note hnote, dropWhile_append_of_mem hline rfl, Option.map_eq_some_iff] at hts
  obtain ⟨us, hus, rfl⟩ := hts
  cases f with
  | true =>
    exact statements_of_leading_operator ((h.line rfl).imp_left And.right)
      (head?_tokens_of_blanks hblank hcs hus)
  | false =>
    obtain ⟨vs, rfl, hvs⟩ := tokens_of_blanks hblank ⟨'\n', hmem, by decide⟩ hcs hus
    rw [List.append_cons]
    exact statements_of_leading_operator (.inr (by simp)) hvs

end Behind

end TaxFlow.Formula
