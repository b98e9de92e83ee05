import TaxFlow.Proofs.OperatorWords

/-!
# The texts around a boolean operator

The texts on both sides of a sign are respelled by themselves, and so the word of an operator stands
between two texts that do not depend on it.
-/
namespace TaxFlow.Formula

section Texts

variable {op : BoolOp} {a b cs r : List Char}

/-- Both sides of a border are respelled by themselves, unless a sign could begin in front of it. -/
theorem replaceAll_sign {s : Char} {skip : Nat} (hskip : skip ≤ a.length)
    (h : (replaceAll [s, s] r skip a).getLast? ≠ some s) :
    replaceAll [s, s] r skip (a ++ b) = replaceAll [s, s] r skip a ++ replaceAll [s, s] r 0 b := by
  have hlast : ∀ {x y : List Char}, (x ++ y).getLast? ≠ some s → y.getLast? ≠ some s := by
    intro x y h hy
    exact h (by simp [hy])
  induction a generalizing skip with
  | nil =>
    obtain rfl : skip = 0 := by simpa using hskip
    rfl
  | cons c a ih =>
    cases skip with
    | succ skip => exact ih (by simpa using hskip) h
    | zero =>
      rw [List.cons_append, replaceAll]
      rw [replaceAll] at h ⊢
      by_cases hbegins : [s, s].isPrefixOf (c :: a) = true
      · have hlength := (List.isPrefixOf_iff_prefix.1 hbegins).length_le
        have hbegins' : [s, s].isPrefixOf (c :: (a ++ b)) = true := isPrefixOf_append hbegins
        rw [if_pos hbegins] at h ⊢
        rw [if_pos hbegins', ih (by simpa using hlength) (hlast h), List.append_assoc]
      · have hbegins' : ¬ [s, s].isPrefixOf (c :: (a ++ b)) = true := by
          cases a with
          | nil =>
            have hc : s ≠ c := by
              rintro rfl
              simp [replaceAll] at h
            simp [hc]
          | cons d a => simpa using hbegins
        rw [if_neg hbegins] at h ⊢
        rw [if_neg hbegins', ih (Nat.zero_le _) (hlast (x := [c]) h), List.cons_append]

/-- The replacement of other characters does not touch the end of a text. -/
theorem getLast?_replaceAll {s c : Char} (hc : c ≠ s) (h : a.getLast? = some c) :
    (replaceAll [s, s] r 0 a).getLast? = some c := by
  obtain ⟨a, rfl⟩ := List.getLast?_eq_some_iff.1 h
  have hapart : Apart [s, s] a ([c] ++ []) :=
    .right_of_forall_not_mem (by simp) (by simpa using hc.symm)
  rw [← List.append_nil (a ++ [c]), List.append_assoc, replaceAll_append r hapart 0 (Nat.zero_le _),
    List.append_nil, replaceAll_eq_self (w := [c]) r ⟨s, by simp, by simpa using hc.symm⟩,
    List.getLast?_concat]

/-- Characters that are not in the pattern keep the texts around them apart. -/
theorem replaceAll_disjoint {pattern w : List Char} (hpattern : pattern ≠ []) (hw : w ≠ [])
    (hnone : ∀ c ∈ pattern, c ∉ w) :
    replaceAll pattern r 0 (a ++ (w ++ b)) =
      replaceAll pattern r 0 a ++ (w ++ replaceAll pattern r 0 b) := by
  obtain ⟨c, hc⟩ := List.exists_mem_of_ne_nil pattern hpattern
  exact replaceAll_around r (.right_of_forall_not_mem hw hnone) (.left_of_forall_not_mem hnone) ⟨c,
    hc, hnone c hc⟩

theorem replaceAll_disjoint_end {pattern w : List Char} (hpattern : pattern ≠ []) (hw : w ≠ [])
    (hnone : ∀ c ∈ pattern, c ∉ w) :
    replaceAll pattern r 0 (a ++ w) = replaceAll pattern r 0 a ++ w := by
  simpa [replaceAll] using replaceAll_disjoint (b := []) hpattern hw hnone

theorem BoolOp.not_mem_of_mem_decimalPhrase {w : List Char} (hw : ∀ c ∈ w, c = op.mark) :
    ∀ c ∈ decimalPhrase, c ∉ w := by
  have hmark : op.mark ∉ decimalPhrase := by cases op <;> decide
  exact fun c hc hmem => hmark (hw c hmem ▸ hc)

/-- Both sides of an operator are respelled by themselves. -/
theorem respelled_operator (h : (respelled a).getLast? ≠ some op.mark) :
    respelled (a ++ op.mark :: op.mark :: b) = respelled a ++ (op.word ++ respelled b) := by
  have hsign : ∀ (s : Char) (x y : List Char), x ++ s :: s :: y = x ++ ([s, s] ++ y) :=
    fun _ _ _ => rfl
  have hpair : ∀ (s : Char) (r y : List Char), replaceAll [s, s] r 0 ([s, s] ++ y) =
      r ++ replaceAll [s, s] r 0 y := by
    intro s r y
    simp [replaceAll]
  have hphrase : ∀ c ∈ decimalPhrase, c ∉ [op.mark, op.mark] :=
    op.not_mem_of_mem_decimalPhrase (by simp)
  simp only [respelled_eq] at h ⊢
  rw [hsign, replaceAll_disjoint (by decide) (by simp) hphrase]
  cases op with
  | and =>
    dsimp only [BoolOp.mark, BoolOp.word] at h ⊢
    rw [replaceAll_sign (Nat.zero_le _) fun hlast => h (getLast?_replaceAll (by decide) hlast),
      hpair, replaceAll_disjoint (by simp) (by simp) (by simp)]
  | or =>
    dsimp only [BoolOp.mark, BoolOp.word] at h ⊢
    rw [replaceAll_disjoint (by simp) (by simp) (by simp), replaceAll_sign (Nat.zero_le _) h, hpair]

/-- Half an operator stays as it is. -/
theorem respelled_half (h : (respelled a).getLast? ≠ some op.mark) :
    respelled (a ++ [op.mark]) = respelled a ++ [op.mark] := by
  have hphrase : ∀ c ∈ decimalPhrase, c ∉ [op.mark] := op.not_mem_of_mem_decimalPhrase (by simp)
  have hhalf : ∀ (s : Char) (r : List Char), replaceAll [s, s] r 0 [s] = [s] := by
    intro s r
    simp [replaceAll]
  simp only [respelled_eq] at h ⊢
  rw [replaceAll_disjoint_end (by decide) (by simp) hphrase]
  cases op with
  | and =>
    dsimp only [BoolOp.mark, BoolOp.word] at h ⊢
    rw [replaceAll_sign (Nat.zero_le _) fun hlast => h (getLast?_replaceAll (by decide) hlast),
      hhalf, replaceAll_disjoint_end (by simp) (by simp) (by simp)]
  | or =>
    dsimp only [BoolOp.mark, BoolOp.word] at h ⊢
    rw [replaceAll_disjoint_end (by simp) (by simp) (by simp), replaceAll_sign (Nat.zero_le _) h,
      hhalf]

theorem replaceAll_ne_nil {pattern : List Char} (hr : r ≠ []) (hcs : cs ≠ []) :
    replaceAll pattern r 0 cs ≠ [] := by
  cases cs with
  | nil => exact absurd rfl hcs
  | cons c cs =>
    rw [replaceAll]
    split
    · simp [hr]
    · simp

/-- A character at the end that no replacement holds was there before. -/
theorem getLast?_of_replaceAll {pattern : List Char} {c : Char} {skip : Nat}
    (hr : r ≠ []) (hc : c ∉ r)
    (h : (replaceAll pattern r skip cs).getLast? = some c) : cs.getLast? = some c := by
  induction cs generalizing skip with
  | nil => simp [replaceAll] at h
  | cons d cs ih =>
    cases skip with
    | succ skip =>
      rw [replaceAll] at h
      simp [List.getLast?_cons, ih h]
    | zero =>
      rw [replaceAll] at h
      split at h
      · rw [List.getLast?_append, Option.or_eq_some_iff] at h
        rcases h with h | ⟨-, h⟩
        · simp [List.getLast?_cons, ih h]
        · exact absurd (List.mem_of_getLast? h) hc
      · cases hlast : (replaceAll pattern r 0 cs).getLast? with
        | none =>
          have hnil : cs = [] := by
            by_contra hcs
            exact replaceAll_ne_nil hr hcs (List.getLast?_eq_none_iff.1 hlast)
          subst hnil
          simpa [replaceAll] using h
        | some k =>
          rw [List.getLast?_cons, hlast] at h
          cases h
          simp [List.getLast?_cons, ih hlast]

/-- Before the last half of an operator there is none. -/
theorem exists_half (h : (respelled a).getLast? = some op.mark) :
    ∃ front, a = front ++ [op.mark] ∧ (respelled front).getLast? ≠ some op.mark := by
  induction hn : a.length using Nat.strongRecOn generalizing a with
  | ind n ih =>
    have hlast : a.getLast? = some op.mark := by
      rw [respelled_eq] at h
      refine getLast?_of_replaceAll ?_ ?_
        (getLast?_of_replaceAll ?_ ?_ (getLast?_of_replaceAll ?_ ?_ h))
      all_goals cases op <;> decide
    obtain ⟨front, rfl⟩ := List.getLast?_eq_some_iff.1 hlast
    refine ⟨front, rfl, fun hfront => ?_⟩
    obtain ⟨front, rfl, hbefore⟩ := ih front.length (by simp [← hn]) hfront rfl
    have hoperator : respelled (front ++ [op.mark] ++ [op.mark]) = respelled front ++ op.word := by
      have hnil : respelled [] = [] := rfl
      rw [List.append_assoc, List.singleton_append, respelled_operator hbefore, hnil,
        List.append_nil]
    rw [hoperator] at h
    cases op <;> simp [BoolOp.mark, BoolOp.word] at h

theorem replaceAll_blank_cons {pattern : List Char} (hne : pattern ≠ [])
    (h : pattern.head? ≠ some ' ') :
    replaceAll pattern r 0 (' ' :: b) = ' ' :: replaceAll pattern r 0 b := by
  refine replaceAll_cons_of_not_prefix r fun hbegins => ?_
  cases pattern with
  | nil => exact hne rfl
  | cons c pattern => exact h (by rw [(List.cons_prefix_cons.1 hbegins).1]; rfl)

theorem replaceAll_blank_concat {pattern : List Char} (hne : pattern ≠ [])
    (h : pattern.getLast? ≠ some ' ')
    (hhead : pattern.head? ≠ some ' ') :
    replaceAll pattern r 0 (a ++ [' ']) = replaceAll pattern r 0 a ++ [' '] := by
  have hapart : Apart pattern a [' '] := by
    rintro x y rfl - hy - hbegins
    cases y with
    | nil => exact hy rfl
    | cons c y =>
      obtain ⟨rfl, hnil⟩ := List.cons_prefix_cons.1 hbegins
      rw [List.prefix_nil.1 hnil] at h
      exact h (by simp)
  rw [replaceAll_append r hapart 0 (Nat.zero_le _), replaceAll_blank_cons hne hhead]
  rfl

theorem respelled_cons : respelled (' ' :: b) = ' ' :: respelled b := by
  simp only [respelled_eq]
  rw [replaceAll_blank_cons (by decide) (by decide), replaceAll_blank_cons (by simp) (by simp),
    replaceAll_blank_cons (by simp) (by simp)]

theorem respelled_concat : respelled (a ++ [' ']) = respelled a ++ [' '] := by
  simp only [respelled_eq]
  rw [replaceAll_blank_concat (by decide) (by decide) (by decide),
    replaceAll_blank_concat (by simp) (by simp) (by simp),
    replaceAll_blank_concat (by simp) (by simp) (by simp)]

/-- The blanks at the end of a text. -/
def endBlanks (cs : List Char) : List Char := (cs.reverse.takeWhile Text.isBlank).reverse

theorem isBlank_of_mem_endBlanks : ∀ c ∈ endBlanks cs, Text.isBlank c = true := fun _ hc =>
  List.mem_takeWhile_imp (List.mem_reverse.1 hc)

theorem dropWhile_eq_trimmed_append (h : Text.trimmed cs ≠ []) :
    cs.dropWhile Text.isBlank = Text.trimmed cs ++ endBlanks cs := by
  have hsplit :=
    List.takeWhile_append_dropWhile (p := Text.isBlank) (l := (cs.dropWhile Text.isBlank).reverse)
  have hsame : (cs.dropWhile Text.isBlank).reverse.takeWhile Text.isBlank =
      cs.reverse.takeWhile Text.isBlank := by
    conv_rhs => rw [← List.takeWhile_append_dropWhile (p := Text.isBlank) (l := cs),
      List.reverse_append]
    rw [List.takeWhile_append, if_neg]
    intro hlength
    refine h ?_
    have hall := congrArg List.length hsplit
    rw [List.length_append, hlength] at hall
    have hnil : (cs.dropWhile Text.isBlank).reverse.dropWhile Text.isBlank = [] :=
      List.eq_nil_of_length_eq_zero (by omega)
    rw [Text.trimmed, hnil, List.reverse_nil]
  rw [Text.trimmed, endBlanks, ← hsame, ← List.reverse_append, hsplit, List.reverse_reverse]

theorem isBlank_of_getLast?_trimmed : ∀ c ∈ (Text.trimmed cs).getLast?, Text.isBlank c = false := by
  intro c hc
  rw [Text.trimmed, List.getLast?_reverse] at hc
  exact of_mem_head?_dropWhile c hc

theorem withLineFeeds_cons {c : Char} (hc : c ≠ '\r') :
    Text.withLineFeeds (c :: cs) = c :: Text.withLineFeeds cs := by
  rw [Text.withLineFeeds, if_neg hc]
  exact fun _ hreturn => absurd hreturn hc

/-- No carriage return in front of the border is joined with a line feed behind it. -/
theorem withLineFeeds_append_of_getLast? (h : ∀ c ∈ a.getLast?, Text.isBlank c = false) :
    Text.withLineFeeds (a ++ b) = Text.withLineFeeds a ++ Text.withLineFeeds b := by
  rcases List.eq_nil_or_concat a with rfl | ⟨a, c, rfl⟩
  · rfl
  · have hc := h c (by simp)
    have hne : ∀ k, Text.isBlank k = true → c ≠ k := by
      rintro k hk rfl
      simp [hc] at hk
    have hreturn := hne '\r' (by decide)
    rw [List.concat_eq_append, List.append_assoc, List.singleton_append,
      withLineFeeds_append (hne '\n' (by decide)), withLineFeeds_append (hne '\n' (by decide)),
      withLineFeeds_cons hreturn, withLineFeeds_cons hreturn,
      List.append_assoc]
    rfl

theorem mem_of_mem_withLineFeeds {c : Char} (h : c ∈ Text.withLineFeeds cs) :
    c ∈ cs ∨ c = '\n' := by
  fun_induction Text.withLineFeeds cs with
  | case1 => cases h
  | case2 cs ih => grind
  | case3 d cs hfeed ih => grind

/-- What stands in front of an operator, up to the last character that is no blank. -/
def leftText (cs : List Char) : List Char := Text.withLineFeeds (prepared cs)

/-- The blanks between that and the operator. -/
def leftBlanks (cs : List Char) : List Char := Text.withLineFeeds (endBlanks (respelled cs))

/-- A text without the blanks at its end. -/
def withoutEndBlanks (cs : List Char) : List Char := (cs.reverse.dropWhile Text.isBlank).reverse

/-- What stands behind an operator. -/
def rightText (cs : List Char) : List Char := Text.withLineFeeds (withoutEndBlanks (respelled cs))

theorem prepared_eq_trimmed : prepared cs = Text.trimmed (respelled cs) := rfl

theorem BoolOp.word_ne_nil : op.word ≠ [] := by cases op <;> simp [BoolOp.word]

theorem BoolOp.isBlank_of_mem : ∀ c ∈ op.word, Text.isBlank c = false := by
  have hall : op.word.all (fun c => !Text.isBlank c) = true := by cases op <;> decide
  simpa using hall

/-- An operator between two other texts. -/
theorem prepared_operator (h : (respelled a).getLast? ≠ some op.mark) :
    prepared (a ++ op.mark :: op.mark :: b) =
      (respelled a).dropWhile Text.isBlank ++ (op.word ++ withoutEndBlanks (respelled b)) := by
  rw [prepared_eq_trimmed, respelled_operator h, trimmed_around op.word_ne_nil op.isBlank_of_mem]
  rfl

theorem withLineFeeds_prepared_operator (ha : prepared a ≠ [])
    (h : (respelled a).getLast? ≠ some op.mark) :
    Text.withLineFeeds (prepared (a ++ op.mark :: op.mark :: b)) =
      leftText a ++ (leftBlanks a ++ (op.word ++ rightText b)) := by
  rw [prepared_eq_trimmed] at ha
  rw [prepared_operator h, withLineFeeds_around op.word_ne_nil op.isWordChar_of_mem,
    dropWhile_eq_trimmed_append ha, withLineFeeds_append_of_getLast? isBlank_of_getLast?_trimmed,
    List.append_assoc]
  rfl

/-- Half an operator at the end of the text in front of an operator. -/
theorem leftText_half (h : (respelled a).getLast? ≠ some op.mark) : leftText (a ++ [op.mark]) =
    Text.withLineFeeds ((respelled a).dropWhile Text.isBlank) ++ [op.mark] := by
  have hblank : Text.isBlank op.mark = false := by cases op <;> decide
  have htrimmed : Text.trimmed (respelled a ++ ([op.mark] ++ [])) =
      (respelled a).dropWhile Text.isBlank ++ ([op.mark] ++ []) :=
        trimmed_around (by simp) (by simpa using hblank)
  rw [List.append_nil] at htrimmed
  have hfeed : op.mark ≠ '\n' := by cases op <;> decide
  have hreturn : op.mark ≠ '\r' := by cases op <;> decide
  rw [leftText, prepared_eq_trimmed, respelled_half h, htrimmed, withLineFeeds_append hfeed,
    withLineFeeds_cons hreturn]
  rfl

/-- The other half of an operator that begins with it belongs to the text behind the operator. -/
theorem withLineFeeds_prepared_half (h : (respelled a).getLast? ≠ some op.mark) :
    Text.withLineFeeds (prepared (a ++ [op.mark] ++ op.mark :: op.mark :: b)) =
      Text.withLineFeeds ((respelled a).dropWhile Text.isBlank) ++
        (op.word ++ rightText (op.mark :: b)) := by
  rw [List.append_assoc, List.singleton_append, prepared_operator h,
    withLineFeeds_around op.word_ne_nil op.isWordChar_of_mem]
  rfl

theorem exists_not_blank (h : Text.trimmed cs ≠ []) : ∃ c ∈ cs, Text.isBlank c = false := by
  obtain ⟨front, c, hconcat⟩ := (List.eq_nil_or_concat _).resolve_left h
  have hlast : (Text.trimmed cs).getLast? = some c := by simp [hconcat]
  refine ⟨c, ?_, isBlank_of_getLast?_trimmed c hlast⟩
  have hmem : c ∈ Text.trimmed cs := by simp [hconcat]
  rw [Text.trimmed, List.mem_reverse] at hmem
  exact (List.dropWhile_suffix _).subset
    (List.mem_reverse.1 ((List.dropWhile_suffix _).subset hmem))

theorem trimmed_concat_blank (h : Text.trimmed cs ≠ []) :
    Text.trimmed (cs ++ [' ']) = Text.trimmed cs := by
  obtain ⟨c, hc, hblank⟩ := exists_not_blank h
  rw [Text.trimmed, dropWhile_append_of_mem hc hblank, List.reverse_append]
  rfl

theorem endBlanks_concat_blank : endBlanks (cs ++ [' ']) = endBlanks cs ++ [' '] := by
  rw [endBlanks, List.reverse_append, List.reverse_singleton, List.singleton_append,
    List.takeWhile_cons_of_pos (by decide), List.reverse_cons]
  rfl

/-- With blanks around the operator, they only come in addition. -/
theorem leftText_concat_blank (ha : prepared a ≠ []) : leftText (a ++ [' ']) = leftText a := by
  rw [prepared_eq_trimmed] at ha
  rw [leftText, prepared_eq_trimmed, respelled_concat, trimmed_concat_blank ha]
  rfl

theorem leftBlanks_concat_blank : leftBlanks (a ++ [' ']) = leftBlanks a ++ [' '] := by
  rw [leftBlanks, respelled_concat, endBlanks_concat_blank, withLineFeeds_append (by decide)]
  rfl

theorem withoutEndBlanks_cons_blank (hb : prepared b ≠ []) :
    withoutEndBlanks (respelled (' ' :: b)) = ' ' :: withoutEndBlanks (respelled b) := by
  obtain ⟨c, hc, hblank⟩ : ∃ c ∈ respelled b, Text.isBlank c = false := exists_not_blank hb
  rw [withoutEndBlanks, respelled_cons, List.reverse_cons,
    dropWhile_append_of_mem (List.mem_reverse.2 hc) hblank, List.reverse_append]
  rfl

theorem rightText_cons_blank (hb : prepared b ≠ []) :
    rightText (' ' :: b) = ' ' :: rightText b := by
  rw [rightText, withoutEndBlanks_cons_blank hb]
  rfl

/-- Whether a text begins with a character that goes on with a word in front of it. -/
def goesOn (cs : List Char) : Bool := cs.head?.any fun c => isWordChar c && !Text.isBlank c

theorem detached_iff_goesOn : Detached cs ↔ goesOn cs = false := by
  cases cs <;> simp [Detached, goesOn]

theorem goesOn_withLineFeeds : goesOn (Text.withLineFeeds cs) = goesOn cs := by
  have hnone : ∀ xs ys : List Char, goesOn ('\n' :: xs) = goesOn ('\r' :: ys) := fun _ _ => rfl
  unfold Text.withLineFeeds
  split
  next => rfl
  next => exact hnone _ _
  next c cs hfeed =>
    split
    next hc => exact hc ▸ hnone _ _
    next => rfl

theorem goesOn_withoutEndBlanks (h : ∃ c ∈ cs, Text.isBlank c = false) :
    goesOn (withoutEndBlanks cs) = goesOn cs := by
  have hsplit : withoutEndBlanks cs ++ endBlanks cs = cs := by
    rw [withoutEndBlanks, endBlanks, ← List.reverse_append, List.takeWhile_append_dropWhile,
      List.reverse_reverse]
  have hne : withoutEndBlanks cs ≠ [] := by
    intro hnil
    obtain ⟨c, hc, hblank⟩ := h
    rw [← hsplit, hnil, List.nil_append] at hc
    rw [isBlank_of_mem_endBlanks c hc] at hblank
    cases hblank
  obtain ⟨c, front, hfront⟩ := List.exists_cons_of_ne_nil hne
  conv_rhs => rw [← hsplit]
  rw [hfront]
  rfl

theorem detached_rightText (hb : prepared b ≠ []) :
    Detached (rightText b) ↔ goesOn (respelled b) = false := by
  have hnot : ∃ c ∈ respelled b, Text.isBlank c = false := exists_not_blank hb
  rw [detached_iff_goesOn, rightText, goesOn_withLineFeeds, goesOn_withoutEndBlanks hnot]

end Texts

section Lines

variable {op : BoolOp} {b cs pattern r : List Char} {p : Char → Bool}

def isWithinLine (c : Char) : Bool := c != '\n' && c != '\r'

theorem eq_append_of_isPrefixOf {c : Char} (hne : pattern ≠ [])
    (h : pattern.isPrefixOf (c :: cs) = true) :
    c :: cs = pattern ++ cs.drop (pattern.length - 1) := by
  obtain ⟨rest, hrest⟩ := List.isPrefixOf_iff_prefix.1 h
  cases pattern with
  | nil => exact absurd rfl hne
  | cons d pattern =>
    obtain ⟨rfl, rfl⟩ := List.cons.inj hrest
    simp

/-- A replacement within a line leaves the other lines as they are. -/
theorem dropWhile_replaceAll {skip : Nat} (hne : pattern ≠ [])
    (hpattern : ∀ c ∈ pattern, p c = true) (hr : ∀ c ∈ r, p c = true) :
    (replaceAll pattern r skip cs).dropWhile p =
      replaceAll pattern r 0 ((cs.drop skip).dropWhile p) := by
  induction cs generalizing skip with
  | nil => simp [replaceAll]
  | cons c cs ih =>
    cases skip with
    | succ skip => exact ih
    | zero =>
      rw [List.drop_zero, replaceAll]
      split
      next hbegins =>
        rw [List.dropWhile_append_of_pos hr, ih, eq_append_of_isPrefixOf hne hbegins,
          List.dropWhile_append_of_pos hpattern]
      next hbegins =>
        cases hc : p c with
        | true =>
          rw [List.dropWhile_cons_of_pos hc, List.dropWhile_cons_of_pos hc, ih, List.drop_zero]
        | false =>
          rw [List.dropWhile_cons_of_neg (by simp [hc]), List.dropWhile_cons_of_neg (by simp [hc]),
            replaceAll, if_neg hbegins]

theorem mem_replaceAll {c : Char} {skip : Nat} (hne : pattern ≠ []) (hpattern : c ∉ pattern)
    (hr : c ∉ r) :
    c ∈ replaceAll pattern r skip cs ↔ c ∈ cs.drop skip := by
  induction cs generalizing skip with
  | nil => simp [replaceAll]
  | cons d cs ih =>
    cases skip with
    | succ skip => exact ih
    | zero =>
      rw [List.drop_zero, replaceAll]
      split
      next hbegins =>
        rw [eq_append_of_isPrefixOf hne hbegins, List.mem_append, List.mem_append,
          ih]; simp [hpattern, hr]
      next => rw [List.mem_cons, List.mem_cons, ih, List.drop_zero]

theorem mem_trimmed_iff {c : Char} (hc : Text.isBlank c = false) :
    c ∈ Text.trimmed cs ↔ c ∈ cs := by
  have hdrop : ∀ xs : List Char, c ∈ xs.dropWhile Text.isBlank ↔ c ∈ xs := fun xs =>
    ⟨fun h => (List.dropWhile_suffix _).subset h, fun h => mem_dropWhile h hc⟩
  rw [Text.trimmed, List.mem_reverse, hdrop, List.mem_reverse, hdrop]

/-- No null character is added or taken away. -/
theorem null_mem_prepared : '\x00' ∈ prepared cs ↔ '\x00' ∈ cs := by
  rw [prepared_eq_trimmed, mem_trimmed_iff (by decide), respelled_eq,
    mem_replaceAll (by simp) (by decide) (by decide), List.drop_zero,
    mem_replaceAll (by simp) (by decide) (by decide), List.drop_zero,
    mem_replaceAll (by decide) (by decide) (by decide), List.drop_zero]

theorem dropWhile_respelled :
    (respelled cs).dropWhile isWithinLine = respelled (cs.dropWhile isWithinLine) := by
  have hall : ∀ {w : List Char}, w.all isWithinLine = true → ∀ c ∈ w, isWithinLine c = true :=
    List.all_eq_true.1
  simp only [respelled_eq]
  rw [dropWhile_replaceAll (by simp) (hall (by decide)) (hall (by decide)), List.drop_zero,
    dropWhile_replaceAll (by simp) (hall (by decide)) (hall (by decide)), List.drop_zero,
    dropWhile_replaceAll (by decide) (hall (by decide)) (hall (by decide)), List.drop_zero]

theorem withoutEndBlanks_cons (c : Char) (cs : List Char) :
    withoutEndBlanks (c :: cs) = [] ∧ withoutEndBlanks cs = [] ∨
    withoutEndBlanks (c :: cs) = c :: withoutEndBlanks cs := by
  simp only [withoutEndBlanks, List.reverse_cons, List.dropWhile_append, List.isEmpty_iff]
  split
  next hnil =>
    cases hc : Text.isBlank c with
    | true => simp [hnil, hc]
    | false => simp [hnil, hc]
  next => simp

theorem dropWhile_withoutEndBlanks :
    (withoutEndBlanks cs).dropWhile p = withoutEndBlanks (cs.dropWhile p) := by
  induction cs with
  | nil => rfl
  | cons c cs ih =>
    cases hc : p c with
    | true =>
      rw [List.dropWhile_cons_of_pos hc, ← ih]
      rcases withoutEndBlanks_cons c cs with ⟨hnil, hnil'⟩ | hcons
      · rw [hnil, hnil']
      · rw [hcons, List.dropWhile_cons_of_pos hc]
    | false =>
      rw [List.dropWhile_cons_of_neg (by simp [hc])]
      rcases withoutEndBlanks_cons c cs with ⟨hnil, -⟩ | hcons
      · rw [hnil]
        rfl
      · rw [hcons, List.dropWhile_cons_of_neg (by simp [hc])]

theorem dropWhile_withLineFeeds :
    (Text.withLineFeeds cs).dropWhile (· != '\n') =
      Text.withLineFeeds (cs.dropWhile isWithinLine) := by
  induction cs with
  | nil => rfl
  | cons c cs ih =>
    cases hc : isWithinLine c with
    | true =>
      obtain ⟨hfeed, hreturn⟩ : c ≠ '\n' ∧ c ≠ '\r' := by simpa [isWithinLine] using hc
      rw [withLineFeeds_cons hreturn, List.dropWhile_cons_of_pos (by simpa using hfeed),
        List.dropWhile_cons_of_pos hc, ih]
    | false =>
      obtain ⟨rest, hrest⟩ : ∃ rest, Text.withLineFeeds (c :: cs) = '\n' :: rest := by
        by_cases hreturn : c = '\r'
        · unfold Text.withLineFeeds
          split
          next heq => cases heq
          next => exact ⟨_, rfl⟩
          next heq =>
            cases heq
            exact ⟨_, by rw [if_pos hreturn]⟩
        · obtain rfl : c = '\n' := by simpa [isWithinLine, hreturn] using hc
          exact ⟨_, withLineFeeds_cons hreturn⟩
      rw [List.dropWhile_cons_of_neg (by simp [hc]), hrest, List.dropWhile_cons_of_neg (by simp)]

/-- The lines behind the first one do not depend on what stands in it. -/
theorem dropWhile_rightText :
    (rightText b).dropWhile (· != '\n') = rightText (b.dropWhile isWithinLine) := by
  rw [rightText, dropWhile_withLineFeeds, dropWhile_withoutEndBlanks, dropWhile_respelled]
  rfl

end Lines

end TaxFlow.Formula
