import Mathlib.Data.List.Basic
import Mathlib.Data.List.TakeWhile
import TaxFlow.Proofs.Lines
import TaxFlow.Proofs.StatementOrder

/-!
# Block comments

A block comment is written between two marks, and its text is copied between them line by line. The
closing mark stands in the last line only, so that nothing of the text gets out of the comment,
exactly if the text does not hold the mark and none arises where a line of the text meets its
margin.
-/
namespace TaxFlow

section Infixes

variable {α : Type} {m a b : List α}

theorem infix_append_right_iff (hm : m ≠ []) (h : ∀ x ∈ a, x ∉ m) : m <:+: a ++ b ↔ m <:+: b := by
  induction a with
  | nil => rfl
  | cons x a ih =>
    have hhead : ¬ m <+: x :: (a ++ b) := by
      intro hm'
      rcases List.prefix_cons_iff.1 hm' with hnil | ⟨t, rfl, -⟩
      · exact hm hnil
      · exact h x List.mem_cons_self List.mem_cons_self
    rw [List.cons_append, List.infix_cons_iff, or_iff_right hhead]
    exact ih fun y hy => h y (List.mem_cons_of_mem x hy)

/-- What stands on both sides of a separator holds a word that it does not belong to on one of
them. -/
theorem infix_separated_iff {x : α} (hx : x ∉ m) : m <:+: a ++ x :: b ↔ m <:+: a ∨ m <:+: b := by
  constructor
  · intro h
    rcases List.infix_append_iff.1 h with ha | hb | ⟨l, r, rfl, hl, hr⟩
    · exact .inl ha
    · by_cases hm : m = []
      · exact .inl (hm ▸ List.nil_infix)
      · exact .inr ((infix_append_right_iff (a := [x]) hm (by simpa using hx)).1 hb)
    · rcases List.prefix_cons_iff.1 hr with rfl | ⟨t, rfl, -⟩
      · exact .inl (by simpa using hl.isInfix)
      · exact absurd (by simp) hx
  · rintro (ha | hb)
    · exact ha.trans (List.prefix_append a _).isInfix
    · exact hb.trans ((List.suffix_cons x b).isInfix.trans (List.suffix_append a _).isInfix)

theorem infix_dropWhile_iff {p : α → Bool} (hm : m ≠ []) (h : ∀ x ∈ m, p x = false) :
    m <:+: a.dropWhile p ↔ m <:+: a := by
  have hsplit :=
    infix_append_right_iff (b := a.dropWhile p) (a := a.takeWhile p) hm fun x hx hxm => by
    have htrue := List.mem_takeWhile_imp hx
    simp [h x hxm] at htrue
  rw [List.takeWhile_append_dropWhile] at hsplit
  exact hsplit.symm

/-- A word that is not in the second part reaches into it with less than its length. -/
theorem infix_append_take_iff : m <:+: a ++ b ↔ m <:+: b ∨ m <:+: a ++ b.take (m.length - 1) := by
  constructor
  · intro h
    rcases List.infix_append_iff.1 h with ha | hb | ⟨l, r, rfl, hl, hr⟩
    · exact .inr (ha.trans (List.prefix_append a _).isInfix)
    · exact .inl hb
    · cases l with
      | nil => exact .inl hr.isInfix
      | cons x l =>
        obtain ⟨front, rfl⟩ := hl
        have hshort : r <+: b.take ((x :: l ++ r).length - 1) :=
          List.prefix_take_iff.2 ⟨hr, by simp⟩
        obtain ⟨behind, hbehind⟩ := hshort
        refine .inr ⟨front, behind, ?_⟩
        rw [← hbehind]
        simp
  · rintro (hb | h)
    · exact hb.trans (List.suffix_append a b).isInfix
    · exact h.trans ((List.prefix_append_right_inj a).2 (List.take_prefix _ b)).isInfix

end Infixes

namespace Text

variable {m : List Char}

theorem infix_trimmed_iff (hm : m ≠ []) (h : ∀ c ∈ m, isBlank c = false) (cs : List Char) :
    m <:+: trimmed cs ↔ m <:+: cs := by
  have hrev : m.reverse ≠ [] := by simpa using hm
  rw [trimmed, ← List.reverse_infix, List.reverse_reverse,
    infix_dropWhile_iff hrev (by simpa using h), List.reverse_infix, infix_dropWhile_iff hm h]

/-- The first piece may go on from the line in front. -/
theorem infix_append_pieces (hm : '\n' ∉ m) (cs front : List Char) : ∀ p ps, pieces cs = p :: ps →
    (m <:+: front ++ cs ↔ m <:+: front ++ p ∨ ∃ q ∈ ps, m <:+: q) := by
  induction cs generalizing front with
  | nil =>
    intro p ps hp
    cases hp
    simp
  | cons c cs ih =>
    intro p ps hp
    obtain ⟨q, qs, hq⟩ := List.exists_cons_of_ne_nil (pieces_ne_nil cs)
    by_cases hc : c = '\n'
    · rw [pieces, if_pos hc] at hp
      cases hp
      have hrest := ih [] q qs hq
      rw [List.nil_append, List.nil_append] at hrest
      rw [hc, infix_separated_iff hm, hrest, hq, List.append_nil, List.exists_mem_cons_iff]
    · rw [pieces, if_neg hc, hq] at hp
      cases hp
      simpa using ih (front ++ [c]) q ps hq

theorem infix_lines_iff (hm : m ≠ []) (h : ∀ c ∈ m, isBlank c = false) (s : String) :
    m <:+: s.toList ↔ ∃ l ∈ lines s, m <:+: (trim l).toList := by
  have hfeed : '\n' ∉ m := fun hmem => absurd (h _ hmem) (by decide)
  obtain ⟨p, ps, hp⟩ := List.exists_cons_of_ne_nil (pieces_ne_nil s.toList)
  have hpieces := infix_append_pieces hfeed s.toList [] p ps hp
  rw [List.nil_append, List.nil_append, ← List.exists_mem_cons_iff, ← hp] at hpieces
  rw [hpieces]
  simp [lines, trim, infix_trimmed_iff hm h]

end Text

/-- The closing mark of block comments. -/
def CommentStyle.mark (style : CommentStyle) : List Char := Text.trimmed style.closing.toList

/-- What the marks of a comment have to do with each other: the closing mark is there and has no
blanks, and it does not begin in what is put in front of each line. -/
structure CommentStyle.Marked (style : CommentStyle) : Prop where
  ne_nil : style.mark ≠ []
  no_blank : ∀ c ∈ style.mark, Text.isBlank c = false
  behind_blockMark : ∀ cs, style.mark <:+: style.blockMark.toList ++ cs → style.mark <:+: cs

namespace CommentStyle

theorem Marked.feed_not_mem {style : CommentStyle} (h : style.Marked) :
    '\n' ∉ style.mark := fun hmem =>
  absurd (h.no_blank _ hmem) (by decide)

theorem slashComments_marked : slashComments.Marked := by
  have hmark : slashComments.mark = ['*', '/'] := by decide
  have hblanks : ['*', '/'].all (!Text.isBlank ·) = true := by decide
  refine ⟨by simp [hmark], by simpa [hmark] using hblanks, fun cs h => ?_⟩
  rw [hmark] at h ⊢
  have hblank : ' ' ∉ ['*', '/'] := by decide
  have hblocks : slashComments.blockMark.toList ++ cs = [] ++ ' ' :: (['*'] ++ ' ' :: cs) := rfl
  rw [hblocks, infix_separated_iff hblank, infix_separated_iff hblank] at h
  rcases h with h | h | h
  · cases List.infix_nil.1 h
  · exact absurd h.length_le (by decide)
  · exact h

theorem hashComments_marked : hashComments.Marked := by
  have hmark : hashComments.mark = ['"', '"', '"'] := by decide
  have hblanks : ['"', '"', '"'].all (!Text.isBlank ·) = true := by decide
  exact ⟨by simp [hmark], by simpa [hmark] using hblanks, fun cs h => h⟩

end CommentStyle

/-- Whether a mark stands in the last line and begins nowhere in front of it. -/
def MarkedOnlyAtEnd (mark body ending : List Char) : Prop :=
  mark <:+: ending ∧ ∀ before behind, body ++ ending = before ++ mark ++ behind →
    body.length ≤ before.length

/-- Whether a mark arises where the content of a line meets what stands in front of it. -/
def ArisesAt (mark front content : List Char) : Prop :=
  mark <:+: front ++ content.take (mark.length - 1)

section Marks

variable {mark body ending : List Char}

/-- No mark begins in front of the last line and reaches into it. -/
theorem markedOnlyAtEnd_iff (hmark : mark ≠ []) (hfeed : '\n' ∉ mark) (hending : mark <:+: ending)
    (hbody : ∀ c ∈ body.getLast?, c = '\n') :
    MarkedOnlyAtEnd mark body ending ↔ ¬ mark <:+: body := by
  constructor
  · rintro ⟨-, hbegins⟩ ⟨before, behind, hsplit⟩
    have hle := hbegins before (behind ++ ending) (by simp [← hsplit])
    have hlength := congrArg List.length hsplit
    have hpos := List.length_pos_iff.2 hmark
    simp only [List.length_append] at hlength
    omega
  · refine fun hfree => ⟨hending, fun before behind hsplit => ?_⟩
    by_contra hlt
    rw [List.append_assoc, List.append_eq_append_iff] at hsplit
    rcases hsplit with ⟨gap, rfl, -⟩ | ⟨rest, rfl, hrest⟩
    · simp at hlt
    have hne : rest ≠ [] := by
      rintro rfl
      simp at hlt
    rcases List.append_eq_append_iff.1 hrest with ⟨more, rfl, -⟩ | ⟨more, rfl, -⟩
    · exact hfree ⟨before, more, by simp⟩
    · have hlast :=
        hbody (rest.getLast hne) (by simp [List.getLast?_append, List.getLast?_eq_some_getLast hne])
      exact hfeed (List.mem_append_left _ (hlast ▸ List.getLast_mem hne))

theorem infix_rows_iff {α : Type} (hmark : mark ≠ []) (hfeed : '\n' ∉ mark) (row : α → List Char)
    (ls : List α) :
    mark <:+: ls.flatMap (fun l => row l ++ ['\n']) ↔ ∃ l ∈ ls, mark <:+: row l := by
  induction ls with
  | nil => simpa using hmark
  | cons l ls ih =>
    rw [List.flatMap_cons, List.append_assoc, List.singleton_append, infix_separated_iff hfeed, ih,
      List.exists_mem_cons_iff]

end Marks

namespace Page

/-- The characters of a line of a comment. -/
def commentRow (p : Page) (content : String) : String :=
  Line.text p.style ⟨p.level, .comment, content⟩

theorem putAll_comment (p : Page) (contents : List String) :
    p.putAll (contents.map (Outline.line .comment)) =
      (p.appended (String.join (contents.map p.commentRow)), none) := by
  induction contents generalizing p with
  | nil => simp [putAll]
  | cons content contents ih =>
    have hrow : (p.appended (p.commentRow content)).commentRow = p.commentRow := rfl
    rw [List.map_cons, putAll, put, line_eq p .comment]
    show (p.appended (p.commentRow content)).putAll _ = _
    rw [ih, hrow]
    simp

theorem mem_indent_of_mem_margin {p : Page} {c : Char} (h : c ∈ p.margin.toList) :
    c ∈ p.style.indent.toList := by
  simp only [margin, repeated, String.toList_join, List.mem_flatMap, List.mem_replicate] at h
  obtain ⟨s, ⟨-, rfl⟩, hc⟩ := h
  exact hc

theorem commentRow_toList (p : Page) (content : String) : (p.commentRow content).toList =
    (if content = "" then [] else p.margin.toList ++ content.toList) ++ ['\n'] := by
  by_cases h : content = "" <;> simp [commentRow, Line.text, margin, h]

end Page

namespace Generator

variable (g : Generator)

def commentStyle : CommentStyle := (g.target.statementSettings g.owner).comments

/-- The line that opens a block comment. -/
def commentOpening : String := g.page.commentRow g.commentStyle.opening

/-- The lines of a text within a block comment. -/
def commentBody (text : String) : String :=
  String.join ((Text.lines text).map fun l =>
    g.page.commentRow (g.commentStyle.blockMark ++ Text.trim l))

/-- The line that closes a block comment. -/
def commentEnding : String := g.page.commentRow g.commentStyle.closing

/-- What is written for a comment, in three parts. -/
theorem put_comment {g : Generator} (ht : g.target ∈ Target.languages) (c : Chart) (text : String) :
    g.put (g.comment c (some text) false) =
      ({ g with page :=
        g.page.appended (g.commentOpening ++ g.commentBody text ++ g.commentEnding) }, none) := by
  have hbase : baseName? g.target = none := by
    simp only [Target.languages, List.mem_cons, List.not_mem_nil, or_false] at ht
    rcases ht with h | h | h | h | h <;> rw [h] <;> rfl
  have hlines : g.comment c (some text) false = ((g.commentStyle.opening ::
      (Text.lines text).map (fun l => g.commentStyle.blockMark ++ Text.trim l)) ++
        [g.commentStyle.closing]).map
        (Outline.line .comment) := by
    simp [comment, hbase, CodeSettings.commentOf, CodeSettings.comment, codeSettings, commentStyle]
  rw [put, hlines, Page.putAll_comment]
  simp [commentOpening, commentBody, commentEnding, Function.comp_def, String.append_assoc]

theorem commentStyle_marked : g.commentStyle.Marked := by
  unfold commentStyle
  cases g.target with
  | python => exact CommentStyle.hashComments_marked
  | _ => exact CommentStyle.slashComments_marked

theorem infix_commentEnding : g.commentStyle.mark <:+: g.commentEnding.toList := by
  have h := g.commentStyle_marked
  have hclosing : g.commentStyle.mark <:+: g.commentStyle.closing.toList :=
    (Text.infix_trimmed_iff h.ne_nil h.no_blank _).1 List.infix_rfl
  have hne : g.commentStyle.closing ≠ "" := by
    intro hempty
    exact h.ne_nil (by simp [CommentStyle.mark, hempty, Text.trimmed])
  rw [commentEnding, Page.commentRow_toList, if_neg hne]
  exact hclosing.trans (List.infix_append ..)

theorem commentBody_toList (text : String) :
    (g.commentBody text).toList = (Text.lines text).flatMap fun l =>
    (if g.commentStyle.blockMark ++ Text.trim l = "" then []
      else g.page.margin.toList ++ (g.commentStyle.blockMark ++ Text.trim l).toList) ++ ['\n'] := by
  simp only [commentBody, String.toList_join, List.flatMap_map, Page.commentRow_toList]

theorem commentBody_getLast? (text : String) :
    ∀ c ∈ (g.commentBody text).toList.getLast?, c = '\n' := by
  intro c hc
  obtain ⟨ls, l, hls⟩ : ∃ ls l, Text.lines text = ls ++ [l] := by
    have hne : Text.lines text ≠ [] := by simpa [Text.lines] using Text.pieces_ne_nil text.toList
    exact ⟨_, _, (List.dropLast_append_getLast hne).symm⟩
  rw [commentBody_toList, hls, List.flatMap_append, List.flatMap_singleton,
    ← List.append_assoc] at hc
  simpa using hc.symm

/-- The mark gets between the first and the last line with the text or at the beginning of one of
its lines. -/
theorem infix_commentBody_iff (text : String) :
    g.commentStyle.mark <:+: (g.commentBody text).toList ↔
    g.commentStyle.mark <:+: text.toList ∨ ∃ l ∈ Text.lines text,
    g.commentStyle.blockMark ++ Text.trim l ≠ "" ∧
      ArisesAt g.commentStyle.mark (g.page.margin ++ g.commentStyle.blockMark).toList
        (Text.trim l).toList := by
  have h := g.commentStyle_marked
  rw [commentBody_toList, infix_rows_iff h.ne_nil h.feed_not_mem,
    Text.infix_lines_iff h.ne_nil h.no_blank, ← exists_or]
  refine exists_congr fun l => ?_
  rw [← and_or_left]
  refine and_congr_right fun _ => ?_
  by_cases hempty : g.commentStyle.blockMark ++ Text.trim l = ""
  · have htrim : Text.trim l = "" := (String.append_eq_empty_iff.1 hempty).2
    rw [if_pos hempty, or_iff_left fun hright => hright.1 hempty, htrim, String.toList_empty]
  · rw [if_neg hempty, String.toList_append, ← List.append_assoc, infix_append_take_iff,
      and_iff_right hempty, String.toList_append]
    rfl

/-- The mark only arises from an indentation that has a character in common with it. -/
theorem not_arisesAt (hindent : ∀ c ∈ g.page.style.indent.toList, c ∉ g.commentStyle.mark)
    (content : List Char) :
    ¬ ArisesAt g.commentStyle.mark (g.page.margin ++ g.commentStyle.blockMark).toList content := by
  have h := g.commentStyle_marked
  intro harises
  rw [ArisesAt, String.toList_append, List.append_assoc, infix_append_right_iff h.ne_nil fun c hc =>
    hindent c (Page.mem_indent_of_mem_margin hc)] at harises
  have hlength := (h.behind_blockMark _ harises).length_le
  have hpos : 0 < g.commentStyle.mark.length := List.length_pos_iff.2 h.ne_nil
  rw [List.length_take] at hlength
  omega

/-- A block comment is written in three parts: the opening line, a line for each line of the text,
and the closing line. The closing mark stands only in the last one exactly if the text does not hold
it and it does not arise at a margin; where the indentation has no character of the mark, this is a
matter of the text alone. -/
theorem comment_contained_iff {g : Generator} (ht : g.target ∈ Target.languages) (c : Chart)
    (text : String) :
    g.put (g.comment c (some text) false) =
        ({ g with page :=
          g.page.appended (g.commentOpening ++ g.commentBody text ++ g.commentEnding) }, none) ∧
      (MarkedOnlyAtEnd g.commentStyle.mark (g.commentBody text).toList g.commentEnding.toList ↔
        ¬ g.commentStyle.mark <:+: text.toList ∧
          ∀ l ∈ Text.lines text, g.commentStyle.blockMark ++ Text.trim l ≠ "" →
            ¬ ArisesAt g.commentStyle.mark (g.page.margin ++ g.commentStyle.blockMark).toList
              (Text.trim l).toList) ∧
      ((∀ ch ∈ g.page.style.indent.toList, ch ∉ g.commentStyle.mark) →
        (MarkedOnlyAtEnd g.commentStyle.mark (g.commentBody text).toList g.commentEnding.toList ↔
          ¬ g.commentStyle.mark <:+: text.toList)) := by
  have h := g.commentStyle_marked
  have hexact :
      MarkedOnlyAtEnd g.commentStyle.mark (g.commentBody text).toList g.commentEnding.toList ↔
      ¬ g.commentStyle.mark <:+: text.toList ∧
        ∀ l ∈ Text.lines text, g.commentStyle.blockMark ++ Text.trim l ≠ "" →
          ¬ ArisesAt g.commentStyle.mark (g.page.margin ++ g.commentStyle.blockMark).toList
            (Text.trim l).toList := by
    rw [markedOnlyAtEnd_iff h.ne_nil h.feed_not_mem g.infix_commentEnding
      (g.commentBody_getLast? text), infix_commentBody_iff, not_or]
    simp only [not_exists, not_and]
  refine ⟨put_comment ht c text, hexact, fun hindent => ?_⟩
  rw [hexact, and_iff_left fun l _ _ => g.not_arisesAt hindent _]

/-- A comment whose text holds the mark is closed in its second line, at any level such as the first
one. -/
theorem heldMark_not_contained :
    let chart : Chart := ⟨some "Tax", ⟨none, some "MAIN", []⟩, [], .ok [], .ok [], .ok [], []⟩
    let g : Generator := { Generator.new .java {} chart with page := ⟨{}, 1, ""⟩ }
    (g.put (g.comment chart (some "a */ b") false)).1.page.text =
      "    /**\n     * a */ b\n     */\n" ∧
      ¬ MarkedOnlyAtEnd g.commentStyle.mark (g.commentBody "a */ b").toList
        g.commentEnding.toList := by
  intro chart g
  obtain ⟨hput, -, hplain⟩ := comment_contained_iff (g := g) (by decide) chart "a */ b"
  refine ⟨?_, ?_⟩
  · rw [hput]
    decide
  · have hindent : (g.page.style.indent.toList.all fun ch => ch ∉ g.commentStyle.mark) = true := by
      decide
    rw [hplain fun ch hch => of_decide_eq_true (List.all_eq_true.1 hindent ch hch)]
    decide

end Generator
end TaxFlow
