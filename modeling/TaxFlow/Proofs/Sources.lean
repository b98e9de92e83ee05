import TaxFlow.Formula.Basic
import TaxFlow.Proofs.Lexing

/-!
# A word in a source

Before a formula is read, size marks are dropped from its text, some words are respelled, and the
blanks at its ends and the carriage returns go. All of this happens on either side of a whole word
by itself, unless a respelled phrase reaches into the word.
-/
namespace TaxFlow.Formula

section Sizes

variable {a b cs : List Char}

/-- Size marks are dropped on both sides of a border by themselves, if it does not divide a digit
from a mark. -/
theorem removeSizeLiteralsFrom_append (afterDigit : Bool)
    (h : (∀ c ∈ b.head?, isSizeMark c = false) ∨
      (a = [] → afterDigit = false) ∧ ∀ c ∈ a.getLast?, c.isDigit = false) :
    removeSizeLiteralsFrom afterDigit (a ++ b) =
      removeSizeLiteralsFrom afterDigit a ++ removeSizeLiteralsFrom false b := by
  induction a generalizing afterDigit with
  | nil =>
    rcases h with h | h
    · cases b with
      | nil => rfl
      | cons c cs => simp [removeSizeLiteralsFrom, h c rfl]
    · simp [h.1 rfl, removeSizeLiteralsFrom]
  | cons c a ih =>
    have hlast : (∀ c ∈ b.head?, isSizeMark c = false) ∨
        (a = [] → c.isDigit = false) ∧ ∀ c ∈ a.getLast?, c.isDigit = false := by
      refine h.imp_right fun h => ⟨?_, ?_⟩
      · rintro rfl
        exact h.2 c rfl
      · intro d hd
        refine h.2 d ?_
        rw [List.getLast?_cons]
        simp [Option.mem_def.1 hd]
    rw [List.cons_append, removeSizeLiteralsFrom, removeSizeLiteralsFrom]
    split
    · exact ih false (hlast.imp_right fun h => ⟨fun _ => rfl, h.2⟩)
    · rw [ih c.isDigit hlast, List.cons_append]

/-- Only marks are dropped. -/
theorem removeSizeLiteralsFrom_sublist (afterDigit : Bool) :
    (removeSizeLiteralsFrom afterDigit cs).Sublist cs := by
  induction cs generalizing afterDigit with
  | nil => exact List.Sublist.slnil
  | cons c cs ih =>
    rw [removeSizeLiteralsFrom]
    split
    · exact (ih false).cons c
    · exact (ih c.isDigit).cons_cons c

/-- Digits stay, and without them nothing is dropped. -/
theorem removeSizeLiteralsFrom_eq_self
    (h : ∀ c ∈ removeSizeLiteralsFrom false cs, c.isDigit = false) :
    removeSizeLiteralsFrom false cs = cs := by
  induction cs with
  | nil => rfl
  | cons c cs ih =>
    simp only [removeSizeLiteralsFrom, Bool.false_and, Bool.false_eq_true, if_false, List.mem_cons,
      forall_eq_or_imp]
      at h ⊢
    obtain ⟨hc, h⟩ := h
    rw [hc] at h ⊢
    rw [ih h]

/-- Nothing is dropped just if no digit has a size mark directly behind it. -/
theorem removeSizeLiteralsFrom_eq_self_iff (afterDigit : Bool) :
    removeSizeLiteralsFrom afterDigit cs = cs ↔
      (afterDigit = true → ∀ c ∈ cs.head?, isSizeMark c = false) ∧
      cs.IsChain fun a b => a.isDigit = true → isSizeMark b = false := by
  induction cs generalizing afterDigit with
  | nil => simp [removeSizeLiteralsFrom]
  | cons c cs ih =>
    rw [removeSizeLiteralsFrom]
    split
    next hdropped =>
      have hlength :=
        List.Sublist.length_le
          (removeSizeLiteralsFrom_sublist false : (removeSizeLiteralsFrom false cs).Sublist cs)
      rw [Bool.and_eq_true] at hdropped
      constructor
      · intro h
        have hlonger := congrArg List.length h
        simp at hlonger
        omega
      · intro h
        simp [h.1 hdropped.1 c rfl] at hdropped
    next hkept =>
      rw [List.cons.injEq, ih c.isDigit]
      simp only [Bool.and_eq_true, not_and, Bool.not_eq_true] at hkept
      cases cs with
      | nil => simpa using hkept
      | cons d cs =>
        simp only [true_and, List.head?_cons, Option.mem_some_iff, forall_eq',
          List.isChain_cons_cons]
        exact ⟨fun h => ⟨hkept, h⟩, fun h => h.2⟩

theorem prefix_of_prefix_removeSizeLiteralsFrom {p : List Char} (hp : ∀ c ∈ p, c.isDigit = false)
    (h : p <+: removeSizeLiteralsFrom false cs) : p <+: cs := by
  induction p generalizing cs with
  | nil => exact List.nil_prefix
  | cons d p ih =>
    cases cs with
    | nil => exact absurd h (by simp [removeSizeLiteralsFrom])
    | cons c cs =>
      simp only [removeSizeLiteralsFrom, Bool.false_and, Bool.false_eq_true, if_false,
        List.cons_prefix_cons] at h ⊢
      obtain ⟨rfl, h⟩ := h
      rw [hp d List.mem_cons_self] at h
      exact ⟨rfl, ih (fun c hc => hp c (List.mem_cons_of_mem d hc)) h⟩

theorem suffix_of_suffix_removeSizeLiteralsFrom {p : List Char} (hp : ∀ c ∈ p, c.isDigit = false)
    (afterDigit : Bool) (h : p <:+ removeSizeLiteralsFrom afterDigit cs) : p <:+ cs := by
  induction cs generalizing afterDigit with
  | nil => exact h
  | cons c cs ih =>
    rw [removeSizeLiteralsFrom] at h
    split at h
    · exact (ih false h).trans (List.suffix_cons c cs)
    · rcases List.suffix_cons_iff.1 h with rfl | h
      · have hc := hp c List.mem_cons_self
        rw [hc] at hp ⊢
        have hsame := removeSizeLiteralsFrom_eq_self fun d hd => hp d (List.mem_cons_of_mem c hd)
        exact ⟨[], by rw [List.nil_append, hsame]⟩
      · exact (ih _ h).trans (List.suffix_cons c cs)

end Sizes

section Respelling

/-- Whether no occurrence of the pattern reaches over the border between two texts. -/
def Apart (pattern a b : List Char) : Prop :=
  ∀ x y, pattern = x ++ y → x ≠ [] → y ≠ [] → x <:+ a → ¬ y <+: b

variable {pattern a b w : List Char}

theorem apart_iff : Apart pattern a b ↔
    ∀ k < pattern.length, 0 < k → pattern.take k <:+ a → ¬ pattern.drop k <+: b := by
  constructor
  · intro h k hk hpos
    refine h _ _ (List.take_append_drop k pattern).symm ?_ ?_
    · exact List.ne_nil_of_length_pos (by simp; omega)
    · exact List.ne_nil_of_length_pos (by simp; omega)
  · rintro h x y rfl hx hy
    have hxpos := List.length_pos_iff.2 hx
    have hypos := List.length_pos_iff.2 hy
    simpa using h x.length (by simp; omega) hxpos

instance : Decidable (Apart pattern a b) := decidable_of_iff _ apart_iff.symm

theorem Apart.tail {c : Char} (h : Apart pattern (c :: a) b) : Apart pattern a b :=
  fun x y hxy hx hy hsuffix => h x y hxy hx hy (hsuffix.trans (List.suffix_cons c a))

theorem Apart.left_of_forall_not_mem (h : ∀ c ∈ pattern, c ∉ w) : Apart pattern w b := by
  intro x y hxy hx _ hsuffix
  obtain ⟨c, hc⟩ := List.exists_mem_of_ne_nil x hx
  exact absurd (hsuffix.subset hc) (h c (by simp [hxy, hc]))

theorem Apart.right_of_forall_not_mem (hw : w ≠ []) (h : ∀ c ∈ pattern, c ∉ w) :
    Apart pattern a (w ++ b) := by
  intro x y hxy _ hy _ hbegins
  cases y with
  | nil => exact hy rfl
  | cons c y =>
    cases w with
    | nil => exact hw rfl
    | cons d w =>
      obtain ⟨rfl, -⟩ := List.cons_prefix_cons.1 hbegins
      exact h c (by simp [hxy]) List.mem_cons_self

/-- Both sides of a border are respelled by themselves. -/
theorem replaceAll_append (replacement : List Char) (h : Apart pattern a b) (skip : Nat)
    (hskip : skip ≤ a.length) :
    replaceAll pattern replacement skip (a ++ b) =
      replaceAll pattern replacement skip a ++ replaceAll pattern replacement 0 b := by
  induction a generalizing skip with
  | nil =>
    obtain rfl : skip = 0 := by simpa using hskip
    simp [replaceAll]
  | cons c a ih =>
    cases skip with
    | succ skip => exact ih h.tail skip (by simpa using hskip)
    | zero =>
      have hsame : pattern.isPrefixOf (c :: (a ++ b)) = pattern.isPrefixOf (c :: a) := by
        rw [Bool.eq_iff_iff, List.isPrefixOf_iff_prefix, List.isPrefixOf_iff_prefix,
          ← List.cons_append]
        refine ⟨fun hbegins => ?_, fun hbegins => hbegins.trans (List.prefix_append _ _)⟩
        obtain ⟨rest, hrest⟩ := hbegins
        rcases List.append_eq_append_iff.1 hrest with ⟨more, hmore, -⟩ | ⟨y, hy, hb⟩
        · exact ⟨more, hmore.symm⟩
        · by_cases hne : y = []
          · simp [hy, hne]
          · exact absurd ⟨rest, hb.symm⟩ (h (c :: a) y hy (by simp) hne List.suffix_rfl)
      rw [List.cons_append, replaceAll, replaceAll, hsame]
      split
      next hbegins =>
        have hlength := (List.isPrefixOf_iff_prefix.1 hbegins).length_le
        rw [ih h.tail _ (by simp at hlength; omega), List.append_assoc]
      next => rw [ih h.tail 0 (Nat.zero_le _), List.cons_append]

/-- A text that lacks a character of the pattern stays as it is. -/
theorem replaceAll_eq_self (replacement : List Char) (h : ∃ c ∈ pattern, c ∉ w) :
    replaceAll pattern replacement 0 w = w := by
  obtain ⟨c, hc, hw⟩ := h
  induction w with
  | nil => rfl
  | cons d w ih =>
    have hnot : pattern.isPrefixOf (d :: w) = false := by
      rw [← Bool.not_eq_true, List.isPrefixOf_iff_prefix]
      exact fun hbegins => hw (hbegins.subset hc)
    rw [replaceAll, hnot, ih fun h => hw (List.mem_cons_of_mem d h)]
    rfl

theorem replaceAll_cons_of_not_prefix {c : Char} {cs : List Char} (replacement : List Char)
    (h : ¬ pattern <+: c :: cs) :
    replaceAll pattern replacement 0 (c :: cs) = c :: replaceAll pattern replacement 0 cs := by
  rw [replaceAll, if_neg]
  rwa [List.isPrefixOf_iff_prefix]

/-- A character at the beginning that no replacement begins with was there before. -/
theorem prefix_of_prefix_replaceAll {c d : Char} {cs replacement : List Char} (hd : d ≠ c)
    (h : [c] <+: replaceAll pattern (d :: replacement) 0 cs) : [c] <+: cs := by
  cases cs with
  | nil => exact h
  | cons k cs =>
    rw [replaceAll] at h
    split at h
    · exact absurd (List.cons_prefix_cons.1 h).1.symm hd
    · exact List.cons_prefix_cons.2 ⟨(List.cons_prefix_cons.1 h).1, List.nil_prefix⟩

/-- A word between two texts stays as it is. -/
theorem replaceAll_around (replacement : List Char) (hleft : Apart pattern a (w ++ b))
    (hright : Apart pattern w b)
    (hw : ∃ c ∈ pattern, c ∉ w) : replaceAll pattern replacement 0 (a ++ (w ++ b)) =
      replaceAll pattern replacement 0 a ++ (w ++ replaceAll pattern replacement 0 b) := by
  rw [replaceAll_append replacement hleft 0 (Nat.zero_le _),
    replaceAll_append replacement hright 0 (Nat.zero_le _), replaceAll_eq_self replacement hw]

/-- A border that keeps a pattern without digits apart also does so without the size marks. -/
theorem Apart.removeSizeLiterals (hdigits : ∀ c ∈ pattern, c.isDigit = false)
    (h : Apart pattern a b) :
    Apart pattern (removeSizeLiteralsFrom false a) (removeSizeLiteralsFrom false b) := by
  intro x y hxy hx hy hsuffix hbegins
  refine h x y hxy hx hy (suffix_of_suffix_removeSizeLiteralsFrom ?_ false hsuffix)
    (prefix_of_prefix_removeSizeLiteralsFrom ?_ hbegins)
  · exact fun c hc => hdigits c (by simp [hxy, hc])
  · exact fun c hc => hdigits c (by simp [hxy, hc])

/-- A text in which everything has been respelled. -/
def respelled (cs : List Char) : List Char :=
  respellings.foldl (fun cs (a, b) => replaceAll a.toList b.toList 0 cs) cs

/-- The only phrase with letters that is respelled. -/
def decimalPhrase : List Char := "new BigDecimal".toList

theorem respelled_eq (cs : List Char) :
    respelled cs = replaceAll ['|', '|'] ['o', 'r'] 0 (replaceAll ['&', '&'] ['a', 'n', 'd'] 0
      (replaceAll decimalPhrase ('B' :: "igDecimalConstructor".toList) 0 cs)) :=
  rfl

/-- A word stays as it is if no phrase reaches into it. -/
theorem respelled_around (hleft : Apart decimalPhrase a (w ++ b)) (hright : Apart decimalPhrase w b)
    (hne : w ≠ [])
    (hw : ∀ c ∈ w, isWordChar c = true) :
    respelled (a ++ (w ++ b)) = respelled a ++ (w ++ respelled b) := by
  have hnot : ∀ c, isWordChar c = false → c ∉ w := by
    intro c hc hmem
    simp [hw c hmem] at hc
  have hdisjoint : ∀ pattern replacement x y : List Char, pattern ≠ [] →
      (∀ c ∈ pattern, isWordChar c = false) → replaceAll pattern replacement 0 (x ++ (w ++ y)) =
        replaceAll pattern replacement 0 x ++ (w ++ replaceAll pattern replacement 0 y) := by
    intro pattern replacement x y hp hpattern
    obtain ⟨c, hc⟩ := List.exists_mem_of_ne_nil pattern hp
    have hnone : ∀ c ∈ pattern, c ∉ w := fun c hc => hnot c (hpattern c hc)
    exact replaceAll_around replacement (.right_of_forall_not_mem hne hnone)
      (.left_of_forall_not_mem hnone)
      ⟨c, hc, hnone c hc⟩
  have hblank : ∃ c ∈ decimalPhrase, c ∉ w := ⟨' ', by decide, hnot ' ' (by decide)⟩
  simp only [respelled_eq]
  rw [replaceAll_around _ hleft hright hblank,
    hdisjoint ['&', '&'] _ _ _ (by decide) (by simp [isWordChar]),
    hdisjoint ['|', '|'] _ _ _ (by decide) (by simp [isWordChar])]

end Respelling

section Ends

variable {a b w : List Char}

/-- No character of an identifier is blank. -/
theorem isBlank_of_isNamePart {c : Char} (h : Text.isNamePart c = true) :
    Text.isBlank c = false := by
  have htable :
      ∀ n ∈ [0x85, 0xA0, 0x1680, 0x2028, 0x2029, 0x202F, 0x205F, 0x3000] ++
        (List.range 11).map (0x2000 + ·),
      (Text.inRanges Text.identifierStarts n || Text.inRanges Text.identifierParts n) = false := by
    simp only [Text.inRanges, ← Array.any_toList]
    decide +kernel
  rw [← Bool.not_eq_true]
  intro hblank
  unfold Text.isNamePart at h
  split at h
  next hascii =>
    simp only [Text.isAscii, Text.isAsciiNameStart, decide_eq_true_eq, Bool.or_eq_true,
      isAlpha_iff, isDigit_iff, beq_iff_eq] at hascii h
    simp only [Text.isBlank, Bool.or_eq_true, Bool.and_eq_true, decide_eq_true_eq,
      beq_iff_eq] at hblank
    rcases h with (h | rfl) | h
    · omega
    · revert hblank
      decide
    · omega
  next hascii =>
    rw [htable c.toNat] at h
    · cases h
    · simp only [Text.isAscii, decide_eq_true_eq, Nat.not_lt] at hascii
      simp only [Text.isBlank, Bool.or_eq_true, Bool.and_eq_true, decide_eq_true_eq,
        beq_iff_eq] at hblank
      simp only [List.mem_append, List.mem_cons, List.not_mem_nil, or_false, List.mem_map,
        List.mem_range]
      by_cases hmid : 0x2000 ≤ c.toNat ∧ c.toNat ≤ 0x200A
      · exact .inr ⟨c.toNat - 0x2000, by omega, by omega⟩
      · omega

/-- A word keeps the blanks away from each other. -/
theorem trimmed_around (hne : w ≠ []) (hw : ∀ c ∈ w, Text.isBlank c = false) :
    Text.trimmed (a ++ (w ++ b)) =
      a.dropWhile Text.isBlank ++ (w ++ (b.reverse.dropWhile Text.isBlank).reverse) := by
  have hdrop : ∀ x y v : List Char, v ≠ [] → (∀ c ∈ v, Text.isBlank c = false) →
      (x ++ (v ++ y)).dropWhile Text.isBlank = x.dropWhile Text.isBlank ++ (v ++ y) := by
    intro x y v hne hv
    cases v with
    | nil => exact absurd rfl hne
    | cons c v =>
      rw [List.dropWhile_append]
      split
      next hempty => simp_all
      next => rfl
  rw [Text.trimmed, hdrop a b w hne hw, List.reverse_append, List.reverse_append, List.append_assoc,
    hdrop b.reverse (a.dropWhile Text.isBlank).reverse w.reverse (by simpa using hne)
      (by simpa using hw)]
  simp

theorem withLineFeeds_append {c : Char} (hc : c ≠ '\n') :
    Text.withLineFeeds (a ++ c :: b) = Text.withLineFeeds a ++ Text.withLineFeeds (c :: b) := by
  fun_induction Text.withLineFeeds a with
  | case1 => rfl
  | case2 a ih => simp [Text.withLineFeeds, ih]
  | case3 d a hfeed ih =>
    rw [List.cons_append, Text.withLineFeeds, ih, List.cons_append]
    intro cs hd hcs
    cases a with
    | nil => exact hc (List.cons.inj hcs).1
    | cons k a => exact hfeed a hd (by rw [(List.cons.inj hcs).1])

/-- A word keeps carriage returns and line feeds away from each other. -/
theorem withLineFeeds_around (hne : w ≠ []) (hw : ∀ c ∈ w, isWordChar c = true) :
    Text.withLineFeeds (a ++ (w ++ b)) = Text.withLineFeeds a ++ (w ++ Text.withLineFeeds b) := by
  have hinside : ∀ v : List Char, (∀ c ∈ v, isWordChar c = true) →
      Text.withLineFeeds (v ++ b) = v ++ Text.withLineFeeds b := by
    intro v
    induction v with
    | nil => exact fun _ => rfl
    | cons c v ih =>
      intro hv
      have hc : c ≠ '\r' := by
        rintro rfl
        exact absurd (hv '\r' List.mem_cons_self) (by decide)
      rw [List.cons_append, Text.withLineFeeds, if_neg hc, ih fun d hd =>
        hv d (List.mem_cons_of_mem c hd), List.cons_append]
      exact fun _ h => absurd h hc
  cases w with
  | nil => exact absurd rfl hne
  | cons c w =>
    have hc : c ≠ '\n' := by
      rintro rfl
      exact absurd (hw '\n' List.mem_cons_self) (by decide)
    rw [List.cons_append, withLineFeeds_append hc, ← List.cons_append, hinside (c :: w) hw]

end Ends

/-- What the text in front of a word is turned into. -/
def lead (cs : List Char) : List Char :=
  (respelled (removeSizeLiteralsFrom false cs)).dropWhile Text.isBlank

/-- What the text behind a word is turned into. -/
def trail (cs : List Char) : List Char :=
  ((respelled (removeSizeLiteralsFrom false cs)).reverse.dropWhile Text.isBlank).reverse

/-- The first character behind a word stays, unless it belongs to an operator that is respelled. -/
theorem head?_respelled {cs : List Char} (h : ∀ c ∈ cs.head?, isWordChar c = false)
    (hand : ¬ ['&', '&'] <+: cs)
    (hor : ¬ ['|', '|'] <+: cs) :
    (respelled (removeSizeLiteralsFrom false cs)).head? = cs.head? := by
  cases cs with
  | nil => rfl
  | cons c cs =>
    have hword := h c rfl
    have hdigit : c.isDigit = false := by simp_all [isWordChar, Char.isAlphanum]
    have hphrase : ¬ decimalPhrase <+: c :: removeSizeLiteralsFrom false cs := by
      intro hbegins
      obtain rfl : 'n' = c := (List.cons_prefix_cons.1 hbegins).1
      exact absurd hword (by decide)
    have hstart : ∀ k : Char, k.isDigit = false → k ≠ 'B' →
        [k] <+: replaceAll decimalPhrase ('B' :: "igDecimalConstructor".toList) 0
          (removeSizeLiteralsFrom false cs) →
        [k] <+: cs := fun k hk hne hbegins =>
      prefix_of_prefix_removeSizeLiteralsFrom (by simpa using hk)
        (prefix_of_prefix_replaceAll hne.symm hbegins)
    rw [removeSizeLiteralsFrom, Bool.false_and, if_neg Bool.false_ne_true, hdigit, respelled_eq,
      replaceAll_cons_of_not_prefix _ hphrase, replaceAll_cons_of_not_prefix,
      replaceAll_cons_of_not_prefix,
      List.head?_cons, List.head?_cons]
    · intro hbegins
      obtain ⟨rfl, hsecond⟩ := List.cons_prefix_cons.1 hbegins
      have hbefore := prefix_of_prefix_replaceAll (by decide) hsecond
      exact hor (List.cons_prefix_cons.2 ⟨rfl, hstart '|' (by decide) (by decide) hbefore⟩)
    · intro hbegins
      obtain ⟨rfl, hsecond⟩ := List.cons_prefix_cons.1 hbegins
      exact hand (List.cons_prefix_cons.2 ⟨rfl, hstart '&' (by decide) (by decide) hsecond⟩)

/-- What ends a word in a source ends it where it is read. -/
theorem endsWord_trail {cs : List Char} (h : Lexes.EndsWord cs) (hand : ¬ ['&', '&'] <+: cs)
    (hor : ¬ ['|', '|'] <+: cs) : Lexes.EndsWord (Text.withLineFeeds (trail cs)) := by
  have hfirst : ∀ c ∈ (trail cs).head?, c ∈ cs.head? := by
    have hbegins : trail cs <+: respelled (removeSizeLiteralsFrom false cs) := by
      rw [trail, ← List.reverse_suffix, List.reverse_reverse]
      exact List.dropWhile_suffix _
    rw [← head?_respelled (fun c hc => (h c hc).1) hand hor]
    obtain ⟨rest, hrest⟩ := hbegins
    intro c hc
    rw [← hrest, List.head?_append, Option.mem_def.1 hc]
    rfl
  unfold Text.withLineFeeds
  split
  next => simp [Lexes.EndsWord]
  next => simp [Lexes.EndsWord, isWordChar]
  next c rest _ heq =>
    have hc := h c (hfirst c (by rw [heq]; rfl))
    by_cases hreturn : c = '\r'
    · simp [Lexes.EndsWord, isWordChar, hreturn]
    · simpa [Lexes.EndsWord, hreturn] using hc

/-- Whether an identifier between two texts is a whole word into which no respelled phrase
reaches. -/
structure Stands (before id after : List Char) : Prop where
  name : Text.isName id = true
  left : ∀ c ∈ before.getLast?, isWordChar c = false
  right : Lexes.EndsWord after
  leftApart : Apart decimalPhrase before (id ++ after)
  rightApart : Apart decimalPhrase id after

namespace Stands

variable {before id after : List Char}

/-- An identifier remains one without its size marks. -/
theorem isName_removeSizeLiterals (h : Text.isName id = true) :
    Text.isName (removeSizeLiteralsFrom false id) = true := by
  cases id with
  | nil => exact h
  | cons c cs =>
    simp only [Text.isName, Bool.and_eq_true, List.all_eq_true] at h
    simp only [removeSizeLiteralsFrom, Bool.false_and, Bool.false_eq_true, if_false, Text.isName,
      Bool.and_eq_true, List.all_eq_true]
    exact ⟨h.1, fun d hd => h.2 d ((removeSizeLiteralsFrom_sublist c.isDigit).subset hd)⟩

theorem isNamePart_of_isName (h : Text.isName id = true) : ∀ c ∈ id, Text.isNamePart c = true := by
  cases id with
  | nil => simp
  | cons c cs =>
    simp only [Text.isName, Bool.and_eq_true, List.all_eq_true] at h
    have hstart : Text.isNamePart c = true := by
      have hc := h.1
      unfold Text.isNameStart at hc
      unfold Text.isNamePart
      split at hc <;> simp_all
    simpa using ⟨hstart, h.2⟩

/-- Without its size marks, a word that is no keyword does not become one. -/
theorem lookup_removeSizeLiterals (h : keywords.lookup (String.ofList id) = none) :
    keywords.lookup (String.ofList (removeSizeLiteralsFrom false id)) = none := by
  have hdigits : (keywords.all fun p => p.1.toList.all fun c => !c.isDigit) = true := by decide
  simp only [List.all_eq_true, Bool.not_eq_true'] at hdigits
  rw [List.lookup_eq_none_iff]
  intro p hp
  rw [bne_iff_ne]
  intro hword
  have hlist := congrArg String.toList hword
  rw [String.toList_ofList] at hlist
  have hsame : removeSizeLiteralsFrom false id = id := removeSizeLiteralsFrom_eq_self fun c hc =>
    hdigits p hp c (hlist ▸ hc)
  rw [hsame] at hword
  have hne := List.lookup_eq_none_iff.1 h p hp
  rw [hword] at hne
  simp at hne

theorem isNamePart (h : Stands before id after) :
    ∀ c ∈ removeSizeLiteralsFrom false id, Text.isNamePart c = true :=
  isNamePart_of_isName (isName_removeSizeLiterals h.name)

theorem isWordChar (h : Stands before id after) :
    ∀ c ∈ removeSizeLiteralsFrom false id, isWordChar c = true :=
  fun c hc => isWordChar_of_isNamePart (h.isNamePart c hc)

theorem ne_nil (h : Stands before id after) : removeSizeLiteralsFrom false id ≠ [] := by
  intro hnil
  have hname := isName_removeSizeLiterals h.name
  rw [hnil] at hname
  cases hname

/-- A source is prepared with the same word in it, but for its size marks. -/
theorem prepared_eq (h : Stands before id after) :
    prepared (removeSizeLiteralsFrom false (before ++ id ++ after)) =
      lead before ++ (removeSizeLiteralsFrom false id ++ trail after) := by
  have hdigits : (decimalPhrase.all fun c => !c.isDigit) = true := by decide
  simp only [List.all_eq_true, Bool.not_eq_true'] at hdigits
  have hdigit : ∀ c ∈ before.getLast?, c.isDigit = false := by
    intro c hc
    have hc := h.left c hc
    simp_all [Formula.isWordChar, Char.isAlphanum]
  have hmark : ∀ c ∈ after.head?, isSizeMark c = false := by
    intro c hc
    have hc := (h.right c hc).1
    rw [← Bool.not_eq_true]
    intro hmark
    simp only [isSizeMark, Bool.or_eq_true, beq_iff_eq] at hmark
    rcases hmark with rfl | rfl <;> revert hc <;> decide
  have hinner : removeSizeLiteralsFrom false (id ++ after) =
      removeSizeLiteralsFrom false id ++ removeSizeLiteralsFrom false after :=
    removeSizeLiteralsFrom_append false (.inl hmark)
  have hleft := h.leftApart.removeSizeLiterals hdigits
  rw [hinner] at hleft
  rw [List.append_assoc, removeSizeLiteralsFrom_append false (.inr ⟨fun _ => rfl, hdigit⟩), hinner,
    prepared, ← respelled,
    respelled_around hleft (h.rightApart.removeSizeLiterals hdigits) h.ne_nil h.isWordChar,
    trimmed_around h.ne_nil fun c hc => isBlank_of_isNamePart (h.isNamePart c hc), lead, trail]

end Stands

/-- The name that an identifier of a source is read as. -/
def readName (id : String) : String := Text.normalForm (removeSizeLiterals id)

/-- An identifier of ASCII characters is read as itself just if no digit in it has a size mark
directly behind it. -/
theorem readName_eq_self_iff {id : String} (hascii : ∀ c ∈ id.toList, Text.isAscii c = true) :
    readName id = id ↔ id.toList.IsChain fun a b => a.isDigit = true → isSizeMark b = false := by
  have hnormal : readName id = removeSizeLiterals id := by
    rw [readName, Text.normalForm, if_pos]
    rw [removeSizeLiterals, String.toList_ofList, List.all_eq_true]
    exact fun c hc => hascii c ((removeSizeLiteralsFrom_sublist false).subset hc)
  rw [hnormal, removeSizeLiterals, ← String.toList_inj, String.toList_ofList,
    removeSizeLiteralsFrom_eq_self_iff]
  simp

/-- Whether an identifier is mentioned in a source between `before` and `after`: it is a whole word,
no operator that is respelled stands directly behind it, and the reader comes to it behind the
tokens `ts` and goes on with the tokens `us`. -/
structure Mention (before : List Char) (id : String) (after : List Char) (ts us : List Token) : Prop
    extends Stands before id.toList after where
  word : keywords.lookup id = none
  notAnd : ¬ ['&', '&'] <+: after
  notOr : ¬ ['|', '|'] <+: after
  read : ∃ depth, tokensFrom depth false (Text.withLineFeeds (trail after)) = some us ∧
    Lexes 0 true (Text.withLineFeeds (lead before)) ts depth
      (removeSizeLiteralsFrom false id.toList ++ Text.withLineFeeds (trail after))

/-- The source has a single token at the place of a mention. -/
theorem Mention.tokens {before after : List Char} {id : String} {ts us : List Token}
    (h : Mention before id after ts us) :
    tokens? (prepared (removeSizeLiteralsFrom false (before ++ id.toList ++ after))) =
      some (ts ++ .name (readName id) :: us) := by
  obtain ⟨depth, hus, hts⟩ := h.read
  have hid : Lexes depth false (removeSizeLiteralsFrom false id.toList) [.name (readName id)] depth
      (Text.withLineFeeds (trail after)) := by
    refine Lexes.identifier (Stands.lookup_removeSizeLiterals ?_)
      (Stands.isName_removeSizeLiterals h.name)
      (endsWord_trail h.right h.notAnd h.notOr)
    rw [String.ofList_toList]
    exact h.word
  rw [tokens?, h.prepared_eq, withLineFeeds_around h.ne_nil h.isWordChar, hts, hid, hus]
  rfl

end TaxFlow.Formula
