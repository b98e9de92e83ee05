import TaxFlow.Formula.Prepare
import TaxFlow.Proofs.Lexing

/-!
# Size suffixes

A size mark is the suffix of a number where a digit stands directly in front of it in the text. A
walk along the text that remembers no more than whether the last character was a digit drops the
suffixes, all of them and nothing else. The same comes out when numbers with a size are sought from
left to right, each as long as it can be, and only their digits are put in their place.
-/
namespace TaxFlow.Formula

/-- Whether the character at a position is a size mark with a digit directly in front of it. -/
def IsSizeSuffix (cs : List Char) : Nat → Prop
  | 0 => False
  | i + 1 => (∃ d ∈ cs[i]?, '0' ≤ d ∧ d ≤ '9') ∧ (cs[i + 1]? = some 'L' ∨ cs[i + 1]? = some 'D')

instance (cs : List Char) : DecidablePred (IsSizeSuffix cs)
  | 0 => inferInstanceAs (Decidable False)
  | i + 1 => inferInstanceAs (Decidable ((∃ d ∈ cs[i]?, '0' ≤ d ∧ d ≤ '9') ∧
      (cs[i + 1]? = some 'L' ∨ cs[i + 1]? = some 'D')))

/-- The characters at the positions that are asked for, in order. -/
def charsAt (p : Nat → Prop) [DecidablePred p] (cs : List Char) : List Char :=
  (cs.zipIdx.filter fun c => p c.2).map Prod.fst

section Search

/-- A size mark at the beginning of a text, without digits in front of it, and the rest. -/
def sizeMark? : List Char → Option (List Char × Char × List Char)
  | [] => none
  | c :: cs => if isSizeMark c then some ([], c, cs) else none

/-- The digits and the mark of a number with a size at the beginning of a text, and the rest. Behind
a digit further digits are tried first, and the mark itself where this leads to nothing. -/
def sizedNumber? : List Char → Option (List Char × Char × List Char)
  | [] => none
  | c :: cs =>
    if c.isDigit then ((sizedNumber? cs).or (sizeMark? cs)).map fun (digits, mark, rest) =>
      (c :: digits, mark, rest)
    else none

/-- A part of a text: a number with a size, or a character outside of all of them. -/
inductive SizePart where
  | char (c : Char)
  | sized (digits : List Char) (mark : Char)

namespace SizePart

def text : SizePart → List Char
  | char c => [c]
  | sized digits mark => digits ++ [mark]

/-- What is put in place of a part. -/
def bare : SizePart → List Char
  | char c => [c]
  | sized digits _ => digits

def isSized : SizePart → Bool
  | char _ => false
  | sized .. => true

theorem bare_eq_text {p : SizePart} (h : p.isSized = false) : p.bare = p.text := by
  cases p with
  | char c => rfl
  | sized digits mark => cases h

end SizePart

variable {cs digits rest : List Char} {mark : Char}

theorem not_isDigit_of_isSizeMark (h : isSizeMark mark = true) : mark.isDigit = false := by
  obtain rfl | rfl : mark = 'L' ∨ mark = 'D' := by simpa [isSizeMark] using h
  all_goals rfl

theorem sizeMark?_eq_some_iff :
    sizeMark? cs = some (digits, mark, rest) ↔ digits = [] ∧ isSizeMark mark = true ∧
      cs = mark :: rest := by
  cases cs with
  | nil => simp [sizeMark?]
  | cons c cs =>
    rw [sizeMark?]
    split <;> grind

/-- The search finds digits with a mark behind them wherever they stand. It never has a choice: a
mark is no digit, so that the digits of a number end where its mark is. -/
theorem sizedNumber?_eq_some_iff :
    sizedNumber? cs = some (digits, mark, rest) ↔
      cs = digits ++ mark :: rest ∧ digits ≠ [] ∧ (∀ d ∈ digits, d.isDigit = true) ∧
      isSizeMark mark = true := by
  induction cs generalizing digits with
  | nil => simp [sizedNumber?]
  | cons c cs ih =>
    rw [sizedNumber?]
    split
    next hc =>
      rw [Option.map_eq_some_iff]
      constructor
      · rintro ⟨⟨ds, m, r⟩, hfound, hparts⟩
        obtain ⟨rfl, rfl, rfl⟩ : c :: ds = digits ∧ m = mark ∧ r = rest := by simpa using hparts
        rcases Option.or_eq_some_iff.1 hfound with hfound | ⟨-, hfound⟩
        · obtain ⟨rfl, -, hds, hm⟩ := ih.1 hfound
          exact ⟨rfl, by simp, List.forall_mem_cons.2 ⟨hc, hds⟩, hm⟩
        · obtain ⟨rfl, hm, rfl⟩ := sizeMark?_eq_some_iff.1 hfound
          exact ⟨rfl, by simp, by simpa using hc, hm⟩
      · rintro ⟨htext, hne, hdigits, hmark⟩
        obtain ⟨d, ds, rfl⟩ := List.exists_cons_of_ne_nil hne
        obtain ⟨rfl, rfl⟩ := List.cons.inj htext
        refine ⟨(ds, mark, rest), ?_, rfl⟩
        cases ds with
        | nil =>
          have hnone : sizedNumber? (mark :: rest) = none := by
            simp [sizedNumber?, not_isDigit_of_isSizeMark hmark]
          show (sizedNumber? (mark :: rest)).or _ = _
          rw [hnone, Option.none_or]
          exact sizeMark?_eq_some_iff.2 ⟨rfl, hmark, rfl⟩
        | cons e ds =>
          rw [ih.2 ⟨rfl, by simp, (List.forall_mem_cons.1 hdigits).2, hmark⟩, Option.some_or]
    next hc =>
      refine iff_of_false (by simp) ?_
      rintro ⟨htext, hne, hdigits, -⟩
      obtain ⟨d, ds, rfl⟩ := List.exists_cons_of_ne_nil hne
      obtain ⟨rfl, -⟩ := List.cons.inj htext
      exact hc (hdigits c List.mem_cons_self)

theorem sizedNumber?_length (h : sizedNumber? cs = some (digits, mark, rest)) :
    rest.length < cs.length := by
  rw [(sizedNumber?_eq_some_iff.1 h).1, List.length_append, List.length_cons]
  omega

/-- The parts of a text. The search goes from left to right and goes on behind each number that it
finds. -/
def sizeParts : List Char → List SizePart
  | [] => []
  | c :: cs =>
    match h : sizedNumber? (c :: cs) with
    | some (digits, mark, rest) =>
      have := sizedNumber?_length h
      .sized digits mark :: sizeParts rest
    | none => .char c :: sizeParts cs
termination_by cs => cs.length
decreasing_by
  · assumption
  · exact Nat.lt_succ_self _

/-- If there are numbers with a size, their digits are put in their place. -/
def sizesReplaced (cs : List Char) : List Char :=
  if (sizeParts cs).any SizePart.isSized then (sizeParts cs).flatMap SizePart.bare else cs

/-- The mark behind digits is dropped, and nothing is remembered of it. -/
theorem removeSizeLiteralsFrom_sized (hdigits : ∀ d ∈ digits, d.isDigit = true)
    (hmark : isSizeMark mark = true) (afterDigit : Bool) (h : digits = [] → afterDigit = true) :
    removeSizeLiteralsFrom afterDigit (digits ++ mark :: rest) =
      digits ++ removeSizeLiteralsFrom false rest := by
  induction digits generalizing afterDigit with
  | nil => simp [removeSizeLiteralsFrom, h rfl, hmark]
  | cons d ds ih =>
    obtain ⟨hd, hds⟩ := List.forall_mem_cons.1 hdigits
    have hkept : isSizeMark d = false := by
      by_contra hsize
      simp [not_isDigit_of_isSizeMark (Bool.of_not_eq_false hsize)] at hd
    rw [List.cons_append, removeSizeLiteralsFrom, hkept, Bool.and_false, if_neg Bool.false_ne_true,
      hd, ih hds true fun _ => rfl]
    rfl

/-- Where no number with a size begins, the character behind is no suffix. -/
theorem removeSizeLiteralsFrom_of_sizedNumber?_eq_none {c : Char}
    (h : sizedNumber? (c :: cs) = none) :
    removeSizeLiteralsFrom false (c :: cs) = c :: removeSizeLiteralsFrom false cs := by
  rw [removeSizeLiteralsFrom, Bool.false_and, if_neg Bool.false_ne_true]
  cases hc : c.isDigit with
  | false => rfl
  | true =>
    cases cs with
    | nil => rfl
    | cons mark rest =>
      have hmark : isSizeMark mark = false := by
        by_contra hsize
        have hfound : sizedNumber? (c :: mark :: rest) = some ([c], mark, rest) :=
          sizedNumber?_eq_some_iff.2 ⟨rfl, by simp, by simpa using hc, Bool.of_not_eq_false hsize⟩
        exact Option.some_ne_none _ (hfound.symm.trans h)
      simp [removeSizeLiteralsFrom, hmark]

/-- The parts make up the text, and what is put in their place makes up the text without its
suffixes. -/
theorem flatMap_sizeParts : ∀ cs : List Char,
    (sizeParts cs).flatMap SizePart.text = cs ∧
    (sizeParts cs).flatMap SizePart.bare = removeSizeLiteralsFrom false cs
  | [] => by simp [sizeParts, removeSizeLiteralsFrom]
  | c :: cs => by
    rw [sizeParts]
    split
    next digits mark rest hfound =>
      have hshorter := sizedNumber?_length hfound
      obtain ⟨htext, hne, hdigits, hmark⟩ := sizedNumber?_eq_some_iff.1 hfound
      obtain ⟨ihtext, ihbare⟩ := flatMap_sizeParts rest
      have hwithout : removeSizeLiteralsFrom false (digits ++ mark :: rest) =
          digits ++ removeSizeLiteralsFrom false rest :=
        removeSizeLiteralsFrom_sized hdigits hmark false fun h => absurd h hne
      simp [SizePart.text, SizePart.bare, ihtext, ihbare, hwithout, htext]
    next hnone =>
      obtain ⟨ihtext, ihbare⟩ := flatMap_sizeParts cs
      rw [removeSizeLiteralsFrom_of_sizedNumber?_eq_none hnone]
      simp [SizePart.text, SizePart.bare, ihtext, ihbare]
termination_by cs => cs.length
decreasing_by
  · exact hshorter
  · exact Nat.lt_succ_self _

theorem sizesReplaced_eq (cs : List Char) : sizesReplaced cs = removeSizeLiteralsFrom false cs := by
  obtain ⟨htext, hbare⟩ := flatMap_sizeParts cs
  rw [sizesReplaced]
  split
  next => exact hbare
  next hnone =>
    have hsame : ∀ p ∈ sizeParts cs, p.bare = p.text := by
      intro p hp
      exact SizePart.bare_eq_text (by simpa using fun h => hnone (List.any_eq_true.2 ⟨p, hp, h⟩))
    rw [← hbare, List.flatMap_def, List.map_congr_left hsame, ← List.flatMap_def, htext]

end Search

section Positions

variable {before cs : List Char} {c : Char}

/-- Whether a text ends in a digit. -/
def endsInDigit (cs : List Char) : Bool := cs.getLast?.any Char.isDigit

theorem isDigit_iff_between : c.isDigit = true ↔ '0' ≤ c ∧ c ≤ '9' := by
  rw [isDigit_iff]
  rfl

/-- A character is a suffix because of the character in front of it and of itself alone. -/
theorem isSizeSuffix_append_iff :
    IsSizeSuffix (before ++ c :: cs) before.length ↔ endsInDigit before = true ∧
      isSizeMark c = true := by
  rcases List.eq_nil_or_concat before with rfl | ⟨front, d, rfl⟩
  · simp [IsSizeSuffix, endsInDigit]
  · simp [IsSizeSuffix, endsInDigit, isSizeMark, isDigit_iff_between]

/-- The walk along a text keeps the positions that hold no suffix, whatever has been walked along
`before`. -/
theorem removeSizeLiteralsFrom_eq_filter (before cs : List Char) :
    removeSizeLiteralsFrom (endsInDigit before) cs =
      ((cs.zipIdx before.length).filter fun c => ¬ IsSizeSuffix (before ++ cs) c.2).map
        Prod.fst := by
  induction cs generalizing before with
  | nil => rfl
  | cons c cs ih =>
    have hlast : endsInDigit (before ++ [c]) = c.isDigit := by simp [endsInDigit]
    have hnext := ih (before ++ [c])
    rw [hlast, List.append_assoc, List.singleton_append, List.length_append,
      List.length_singleton] at hnext
    rw [List.zipIdx_cons, List.filter_cons, removeSizeLiteralsFrom]
    by_cases hsuffix : endsInDigit before = true ∧ isSizeMark c = true
    · -- The walk forgets the digit behind a suffix that it drops; the suffix is no digit, so that
      -- this is right.
      rw [not_isDigit_of_isSizeMark hsuffix.2] at hnext
      simp [isSizeSuffix_append_iff.2 hsuffix, hsuffix, hnext]
    · simp [isSizeSuffix_append_iff.not.2 hsuffix, hsuffix, hnext]

end Positions

/-- What is left of a text is its characters that are no size suffixes, unchanged and in order.
Replacing numbers with a size by their digits, from left to right and only if there are any, leaves
the same. -/
theorem removeSizeLiterals_drops_suffixes (s : String) :
    (removeSizeLiterals s).toList = charsAt (fun i => ¬ IsSizeSuffix s.toList i) s.toList ∧
      (removeSizeLiterals s).toList = sizesReplaced s.toList := by
  rw [removeSizeLiterals, String.toList_ofList, sizesReplaced_eq]
  exact ⟨removeSizeLiteralsFrom_eq_filter [] s.toList, rfl⟩

-- Of two marks in a row only the first is a suffix, and what closes the gap is not looked at again.
example : removeSizeLiteralsFrom false ['A', '1', 'L', 'D', '2', 'D', 'L'] =
    ['A', '1', 'D', '2', 'L'] := by decide

end TaxFlow.Formula
