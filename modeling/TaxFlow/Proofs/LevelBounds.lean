import TaxFlow.Proofs.Layout

/-!
# How far a level falls

Lowering the level of a page asks whether there is any level left, but not how many. So the level
falls below zero where more levels are taken back than there are, if there are some, and nowhere
else. Up to such an action the levels are those of a page that stops at zero, and whatever is done,
less is missing to zero than is taken back at once.
-/
namespace TaxFlow

namespace PageAction

/-- The number of levels that an action names. -/
def step? : PageAction → Option Int
  | .raise step | .lower step | .enter _ step => some step
  | _ => none

/-- The number of levels that an action names to take them back, at once or at the end of its
block. -/
def takenBack? : PageAction → Option Int
  | .lower step | .enter _ step => some step
  | _ => none

/-- The number of levels that an action adds. -/
def rise : PageAction → Int
  | .raise step | .enter _ step => step
  | _ => 0

/-- The number of levels that an action is to take back, given the steps of the open blocks. -/
def fall (blocks : List Int) : PageAction → Int
  | .lower step => step
  | .leave => blocks.headD 0
  | _ => 0

/-- The steps of the blocks that are open behind an action. -/
def blocksAfter (blocks : List Int) : PageAction → List Int
  | .enter _ step => step :: blocks
  | .leave | .abandon _ => blocks.tail
  | _ => blocks

variable {a : PageAction} {blocks : List Int} {p : Int → Prop}

theorem takenBack?_nonneg (h : ∀ step ∈ a.step?, 0 ≤ step) : ∀ step ∈ a.takenBack?, 0 ≤ step := by
  cases a with
  | lower step => exact h
  | enter head step => exact h
  | _ => simp [takenBack?]

theorem rise_nonneg (h : ∀ step ∈ a.step?, 0 ≤ step) : 0 ≤ a.rise := by
  cases a with
  | raise step => exact h step rfl
  | enter head step => exact h step rfl
  | _ => exact Int.le_refl 0

/-- No action both adds levels and takes some back. -/
theorem rise_eq_zero (h : a.fall blocks ≠ 0) : a.rise = 0 := by
  cases a with
  | raise step => exact absurd rfl h
  | enter head step => exact absurd rfl h
  | _ => rfl

theorem fall_of_takenBack (hzero : p 0) (ha : ∀ step ∈ a.takenBack?, p step)
    (hblocks : ∀ step ∈ blocks, p step) :
    p (a.fall blocks) := by
  cases a with
  | lower step => exact ha step rfl
  | leave =>
    cases blocks with
    | nil => exact hzero
    | cons step blocks => exact hblocks step List.mem_cons_self
  | _ => exact hzero

theorem blocksAfter_of_takenBack (ha : ∀ step ∈ a.takenBack?, p step)
    (hblocks : ∀ step ∈ blocks, p step) :
    ∀ step ∈ a.blocksAfter blocks, p step := by
  cases a with
  | enter head step => exact List.forall_mem_cons.2 ⟨ha step rfl, hblocks⟩
  | leave => exact fun step hstep => hblocks step (List.mem_of_mem_tail hstep)
  | abandon reason => exact fun step hstep => hblocks step (List.mem_of_mem_tail hstep)
  | _ => exact hblocks

end PageAction

namespace Page

@[simp] theorem write_level (p : Page) (content : String) (indented : Bool) :
    (p.write content indented).level = p.level := by
  unfold write
  split
  · rfl
  · split <;> rfl

@[simp] theorem feed_level (p : Page) (count : Int) (indented : Bool) :
    (p.feed count indented).level = p.level :=
  write_level ..

@[simp] theorem line_level (p : Page) (content : String) (indented : Bool) :
    (p.line content indented).level = p.level := by
  rw [line, feed_level, write_level]

theorem lower_level (p : Page) (step : Int) :
    (p.lower step).level = p.level - if 0 < p.level then step else 0 := by
  unfold lower
  split <;> simp

theorem leave_level (p : Page) (step : Int) : (p.leave step).level = (p.lower step).level := by
  simp only [leave]
  split
  · split <;> simp
  · rfl

end Page

namespace Draft

/-- The levels behind each of some actions. -/
def levels (d : Draft) (as : List PageAction) : List Int := (d.run as).map fun told => told.2.1

@[simp] theorem levels_nil (d : Draft) : d.levels [] = [] := rfl

@[simp] theorem levels_cons (d : Draft) (a : PageAction) (as : List PageAction) :
    d.levels (a :: as) = (d.act a).1.page.level :: (d.act a).1.cleared.levels as := rfl

/-- What an action does to the level. From here on the kinds of actions need not be told apart. -/
theorem act_level (d : Draft) (a : PageAction) :
    (d.act a).1.page.level = d.page.level + a.rise - if 0 < d.page.level
      then a.fall d.blocks else 0 := by
  cases a with
  | lower step => simp [act, PageAction.rise, PageAction.fall, Page.lower_level]
  | leave =>
    obtain ⟨page, blocks⟩ := d
    cases blocks with
    | nil => simp [act, PageAction.rise, PageAction.fall]
    | cons step blocks =>
      simp [act, PageAction.rise, PageAction.fall, Page.leave_level, Page.lower_level]
  | _ => simp [act, PageAction.rise, PageAction.fall, Page.raise, Page.enter]

theorem act_blocks (d : Draft) (a : PageAction) : (d.act a).1.blocks = a.blocksAfter d.blocks := by
  cases a with
  | leave =>
    obtain ⟨page, blocks⟩ := d
    cases blocks <;> rfl
  | _ => rfl

end Draft

/-- The level of a page that stops at zero, and the steps of the open blocks. -/
structure Height where
  level : Nat := 0
  blocks : List Int := []

namespace Height

variable {h : Height} {a : PageAction} {as : List PageAction}

/-- The height behind an action. Where more levels are to be taken back than there are, none is
left. -/
def act (h : Height) (a : PageAction) : Height :=
  ⟨(h.level + a.rise - a.fall h.blocks).toNat, a.blocksAfter h.blocks⟩

def after (h : Height) (as : List PageAction) : Height := as.foldl act h

def levels (h : Height) : List PageAction → List Nat
  | [] => []
  | a :: as => (h.act a).level :: (h.act a).levels as

/-- Whether an action is to take back more levels than there are, although there are some. -/
def Overshoots (h : Height) (a : PageAction) : Prop := 0 < h.level ∧ h.level < a.fall h.blocks

instance (h : Height) (a : PageAction) : Decidable (h.Overshoots a) :=
  inferInstanceAs (Decidable (0 < h.level ∧ h.level < a.fall h.blocks))

/-- Whether none of some actions overshoots at the height where it is carried out. -/
def Measured (h : Height) (as : List PageAction) : Prop :=
  ∀ before a after, as = before ++ a :: after → ¬ (h.after before).Overshoots a

@[simp] theorem measured_nil : h.Measured [] := by
  intro before a after hsplit
  simp at hsplit

@[simp] theorem measured_cons :
    h.Measured (a :: as) ↔ ¬ h.Overshoots a ∧ (h.act a).Measured as := by
  constructor
  · intro hm
    exact ⟨hm [] a as rfl, fun before b after hsplit =>
      hm (a :: before) b after (by rw [hsplit]; rfl)⟩
  · rintro ⟨ha, hm⟩ before b after hsplit
    cases before with
    | nil =>
      obtain ⟨rfl, -⟩ := List.cons.inj hsplit
      exact ha
    | cons c before =>
      obtain ⟨rfl, hrest⟩ := List.cons.inj hsplit
      exact hm before b after hrest

end Height

namespace Draft

variable {d : Draft} {h : Height} {a : PageAction} {as : List PageAction}

/-- A draft whose level is a height, with the blocks of that height. -/
structure StandsAt (d : Draft) (h : Height) : Prop where
  level : d.page.level = h.level
  blocks : d.blocks = h.blocks
  nonneg : ∀ step ∈ h.blocks, 0 ≤ step

theorem StandsAt.cleared (hd : d.StandsAt h) : d.cleared.StandsAt h :=
  ⟨hd.level, hd.blocks, hd.nonneg⟩

/-- The step: an action that does not overshoot has the effect that it would have on a page that
stops at zero. -/
theorem StandsAt.act (hd : d.StandsAt h) (ha : ∀ step ∈ a.step?, 0 ≤ step)
    (hfit : ¬ h.Overshoots a) :
    (d.act a).1.StandsAt (h.act a) := by
  have hback := PageAction.takenBack?_nonneg ha
  have hrise := PageAction.rise_nonneg ha
  have hfall : 0 ≤ a.fall h.blocks := PageAction.fall_of_takenBack (Int.le_refl 0) hback hd.nonneg
  refine ⟨?_, ?_, PageAction.blocksAfter_of_takenBack hback hd.nonneg⟩
  · rw [act_level, hd.level, hd.blocks, Height.act]
    -- An action that takes nothing back cannot be cut short at zero, and one that takes something
    -- back adds nothing.
    by_cases hzero : a.fall h.blocks = 0
    · simp only [hzero]
      omega
    · have hnone := PageAction.rise_eq_zero hzero
      simp only [Height.Overshoots, hnone] at hfit ⊢
      omega
  · rw [act_blocks, hd.blocks, Height.act]

theorem StandsAt.level_act_neg (hd : d.StandsAt h) (hover : h.Overshoots a) :
    (d.act a).1.page.level < 0 := by
  obtain ⟨hpos, hless⟩ := hover
  have hfall : a.fall h.blocks ≠ 0 := by omega
  have hnone := PageAction.rise_eq_zero hfall
  rw [act_level, hd.level, hd.blocks, hnone]
  omega

/-- The run: up to the first action that overshoots the levels are heights, and behind it one is
negative. -/
theorem StandsAt.levels_nonneg_iff (hd : d.StandsAt h)
    (has : ∀ a ∈ as, ∀ step ∈ a.step?, 0 ≤ step) :
    (∀ level ∈ d.levels as, 0 ≤ level) ↔ h.Measured as := by
  induction as generalizing d h with
  | nil => simp
  | cons a as ih =>
    obtain ⟨ha, has⟩ := List.forall_mem_cons.1 has
    rw [levels_cons, List.forall_mem_cons, Height.measured_cons]
    by_cases hover : h.Overshoots a
    · have hneg := hd.level_act_neg hover
      exact iff_of_false (fun hlevels => by omega) fun hm => hm.1 hover
    · have hnext := hd.act ha hover
      have hlevel : 0 ≤ (d.act a).1.page.level := by
        rw [hnext.level]
        omega
      rw [ih hnext.cleared has]
      exact and_congr (iff_of_true hlevel hover) Iff.rfl

theorem StandsAt.levels_eq (hd : d.StandsAt h) (has : ∀ a ∈ as, ∀ step ∈ a.step?, 0 ≤ step)
    (hm : h.Measured as) :
    d.levels as = (h.levels as).map Int.ofNat := by
  induction as generalizing d h with
  | nil => rfl
  | cons a as ih =>
    obtain ⟨ha, has⟩ := List.forall_mem_cons.1 has
    obtain ⟨hfit, hm⟩ := Height.measured_cons.1 hm
    have hnext := hd.act ha hfit
    rw [levels_cons, Height.levels, List.map_cons, ih hnext.cleared has hm, hnext.level]
    rfl

/-- A draft that is less than `k` levels below zero and is never to take back more than `k` levels
for a block. -/
structure Above (k : Int) (d : Draft) : Prop where
  level : -k < d.page.level
  blocks : ∀ step ∈ d.blocks, step ≤ k

variable {k : Int}

theorem Above.act (hd : d.Above k) (hk : 0 < k) (ha : ∀ step ∈ a.step?, 0 ≤ step)
    (hback : ∀ step ∈ a.takenBack?, step ≤ k) : (d.act a).1.Above k := by
  have hlevel := hd.level
  have hrise := PageAction.rise_nonneg ha
  have hfall : a.fall d.blocks ≤ k :=
    PageAction.fall_of_takenBack (p := fun step => step ≤ k) (Int.le_of_lt hk) hback hd.blocks
  refine ⟨?_, ?_⟩
  · rw [act_level]
    split <;> omega
  · rw [act_blocks]
    exact PageAction.blocksAfter_of_takenBack hback hd.blocks

/-- However levels are raised and lowered, the level is never as far below zero as it is lowered at
once. -/
theorem Above.levels (hd : d.Above k) (hk : 0 < k) (has : ∀ a ∈ as, ∀ step ∈ a.step?, 0 ≤ step)
    (hback : ∀ a ∈ as, ∀ step ∈ a.takenBack?, step ≤ k) : ∀ level ∈ d.levels as, -k < level := by
  induction as generalizing d with
  | nil => simp
  | cons a as ih =>
    obtain ⟨ha, has⟩ := List.forall_mem_cons.1 has
    obtain ⟨hstep, hback⟩ := List.forall_mem_cons.1 hback
    have hnext := hd.act hk ha hstep
    have hcleared : (d.act a).1.cleared.Above k := ⟨hnext.level, hnext.blocks⟩
    exact List.forall_mem_cons.2 ⟨hnext.level, ih hcleared has hback⟩

/-- A draft on a new page. -/
def blank (s : PageStyle) : Draft := { page := { style := s } }

/-- From a new page on, with steps that are not negative, no level is negative just if no action
takes back more levels than there are while there are some, and just if the levels are those of a
page that stops at zero. In any case less than `k` levels are missing to zero if no more than `k`
are taken back at once; so steps of one never lead below zero. -/
theorem levels_stay_nonneg_iff (s : PageStyle) (as : List PageAction)
    (has : ∀ a ∈ as, ∀ step ∈ a.step?, 0 ≤ step) :
    ((∀ level ∈ (blank s).levels as, 0 ≤ level) ↔ Height.Measured {} as) ∧
      ((∀ level ∈ (blank s).levels as, 0 ≤ level) ↔
        (blank s).levels as = (Height.levels {} as).map Int.ofNat) ∧
      ∀ k : Int, 0 < k → (∀ a ∈ as, ∀ step ∈ a.takenBack?, step ≤ k) →
      ∀ level ∈ (blank s).levels as, -k < level := by
  have hblank : (blank s).StandsAt {} := ⟨rfl, rfl, by simp⟩
  have hiff := hblank.levels_nonneg_iff has
  refine ⟨hiff, ⟨fun hlevels => hblank.levels_eq has (hiff.1 hlevels), ?_⟩, ?_⟩
  · intro heq level hlevel
    rw [heq] at hlevel
    obtain ⟨n, -, rfl⟩ := List.mem_map.1 hlevel
    exact Int.natCast_nonneg n
  · intro k hk hback
    have habove : (blank s).Above k := ⟨by simpa [blank] using hk, by simp [blank]⟩
    exact habove.levels hk has hback

/-- Of the one level that is there two are taken back. -/
theorem loweredByTwo_below_zero :
    let as : List PageAction := [.raise 1, .lower 2]
    (∀ a ∈ as, ∀ step ∈ a.step?, 0 ≤ step) ∧ (¬ ∀ level ∈ (blank {}).levels as, 0 ≤ level) ∧
      ∀ level ∈ (blank {}).levels as, -2 < level := by
  intro as
  have has : ∀ a ∈ as, ∀ step ∈ a.step?, 0 ≤ step := by decide
  obtain ⟨hiff, -, hbound⟩ := levels_stay_nonneg_iff {} as has
  refine ⟨has, fun hlevels => ?_, hbound 2 (by decide) (by decide)⟩
  exact hiff.1 hlevels [.raise 1] (.lower 2) [] rfl (by decide)

end Draft
end TaxFlow
