import TaxFlow.Formula.Basic
import TaxFlow.Proofs.TokenWalk

/-!
# Walking over statements

Outside of brackets the signs that stand between the operands tell what kind of statement has been
read, and a separator only stands behind a whole statement. So the signs of the tokens decide
whether one statement has been read from them, and which one.
-/
namespace TaxFlow.Formula

section Outline

/-- The separators, and the signs outside of brackets. -/
def outline (depth : Nat) : List Token → List Token
  | [] => []
  | t :: ts =>
    match t.role with
    | .opening => outline (depth + 1) ts
    | .closing => outline (depth - 1) ts
    | .separator => t :: outline depth ts
    | .sign => if depth = 0 then t :: outline depth ts else outline depth ts
    | _ => outline depth ts

def Token.isSeparator (t : Token) : Bool := t.role == .separator

def Token.isConnective (t : Token) : Bool := t.role == .connective

variable {c c' : Cursor} {t : Token} {ts : List Token}

theorem step_marks (h : c.step t = some c') : ∃ ms, c'.marks = c.marks ++ ms ∧
    ∀ ts, outline c.depth (t :: ts) = ms ++ outline c'.depth ts := by
  simp only [Cursor.step, outline] at h ⊢
  cases hrole : t.role with
  | name | connective | closing =>
    simp only [hrole, Option.ite_none_left_eq_some, Option.ite_none_right_eq_some,
      Option.some.injEq] at h
    exact ⟨[], by simp [← h.2, Cursor.placed], fun ts => by simp [← h.2, Cursor.placed]⟩
  | separator =>
    simp only [hrole, Option.some.injEq] at h
    exact ⟨[t], by simp [← h, Cursor.placed, Cursor.noting],
      fun ts => by simp [← h, Cursor.placed, Cursor.noting]⟩
  | sign =>
    simp only [hrole, Option.some.injEq] at h
    subst h
    by_cases hdepth : c.depth = 0
    · exact ⟨[t], by simp [hdepth, Cursor.placed, Cursor.noting], fun ts => by
        simp [hdepth, Cursor.placed, Cursor.noting]⟩
    · exact ⟨[], by simp [hdepth, Cursor.placed], fun ts => by simp [hdepth, Cursor.placed]⟩
  | _ =>
    simp only [hrole, Option.some.injEq] at h
    exact ⟨[], by simp [← h, Cursor.placed, Cursor.deeper],
      fun ts => by simp [← h, Cursor.placed, Cursor.deeper]⟩

/-- What a walk has noted is the outline of what it has passed. -/
theorem walk_marks (h : c.walk ts = some c') : ∃ ms, c'.marks = c.marks ++ ms ∧
    ∀ us, outline c.depth (ts ++ us) = ms ++ outline c'.depth us := by
  induction ts generalizing c with
  | nil => cases h; exact ⟨[], by simp, fun us => by simp⟩
  | cons t ts ih =>
    rw [Cursor.walk_cons, Option.bind_eq_some_iff] at h
    obtain ⟨d, hstep, hwalk⟩ := h
    obtain ⟨ms, hms, houtline⟩ := step_marks hstep
    obtain ⟨ms', hms', houtline'⟩ := ih hwalk
    exact ⟨ms ++ ms', by rw [hms', hms, List.append_assoc], fun us => by
      rw [List.cons_append, houtline, houtline', List.append_assoc]⟩

theorem step_connectives (h : c.step t = some c') :
    c'.connectives = c.connectives + if t.isConnective then 1 else 0 := by
  simp only [Cursor.step] at h
  cases hrole : t.role with
  | name | connective | closing =>
    simp only [hrole, Option.ite_none_left_eq_some, Option.ite_none_right_eq_some,
      Option.some.injEq] at h
    simp [← h.2, Cursor.placed, Token.isConnective, hrole]
  | sign =>
    simp only [hrole, Option.some.injEq] at h
    subst h
    split <;> simp [Cursor.placed, Cursor.noting, Token.isConnective, hrole]
  | _ =>
    simp only [hrole, Option.some.injEq] at h
    simp [← h, Cursor.placed, Cursor.deeper, Cursor.noting, Token.isConnective, hrole]

/-- A walk counts the boolean operators. -/
theorem walk_connectives (h : c.walk ts = some c') :
    c'.connectives = c.connectives + ts.countP Token.isConnective := by
  induction ts generalizing c with
  | nil => cases h; rfl
  | cons t ts ih =>
    rw [Cursor.walk_cons, Option.bind_eq_some_iff] at h
    obtain ⟨d, hstep, hwalk⟩ := h
    rw [ih hwalk, step_connectives hstep, List.countP_cons]
    omega

theorem step_importing (h : c.step t = some c') (hc : c.importing = true) :
    c'.importing = true := by
  simp only [Cursor.step] at h
  cases hrole : t.role with
  | name | connective | closing =>
    simp only [hrole, Option.ite_none_left_eq_some, Option.ite_none_right_eq_some,
      Option.some.injEq] at h
    simp [← h.2, Cursor.placed, hc]
  | sign =>
    simp only [hrole, Option.some.injEq] at h
    subst h
    split <;> simp [Cursor.placed, Cursor.noting, hc]
  | _ =>
    simp only [hrole, Option.some.injEq] at h
    simp [← h, Cursor.placed, Cursor.deeper, Cursor.noting, hc]

/-- A walk that has come to an import stays there. -/
theorem walk_importing (h : c.walk ts = some c') (hc : c.importing = true) :
    c'.importing = true := by
  induction ts generalizing c with
  | nil => cases h; exact hc
  | cons t ts ih =>
    rw [Cursor.walk_cons, Option.bind_eq_some_iff] at h
    obtain ⟨d, hstep, hwalk⟩ := h
    exact ih hwalk (step_importing hstep hc)

theorem mem_outline_of_isSeparator {d : Nat} (ht : t ∈ ts) (hsep : t.isSeparator = true) :
    t ∈ outline d ts := by
  induction ts generalizing d with
  | nil => cases ht
  | cons u ts ih =>
    simp only [outline]
    rcases List.mem_cons.1 ht with rfl | ht
    · simp [eq_of_beq hsep]
    · cases u.role <;> grind

theorem outline_separators {seps : List Token} {d : Nat} (h : ∀ t ∈ seps, t.isSeparator = true) :
    outline d seps = seps := by
  induction seps with
  | nil => rfl
  | cons t seps ih =>
    simp [outline, eq_of_beq (h t List.mem_cons_self), ih fun u hu =>
      h u (List.mem_cons_of_mem t hu)]

theorem walk_separators {seps : List Token} (h : ∀ t ∈ seps, t.isSeparator = true)
    (hne : seps ≠ []) :
    c.walk seps = some ((c.noting seps).placed .start) := by
  induction seps generalizing c with
  | nil => exact absurd rfl hne
  | cons t seps ih =>
    have hstep : c.step t = some ((c.noting [t]).placed .start) := by
      simp [Cursor.step, eq_of_beq (h t List.mem_cons_self)]
    rw [Cursor.walk_cons, hstep, Option.bind_some]
    by_cases hseps : seps = []
    · simp [hseps, Cursor.walk]
    · rw [ih (fun u hu => h u (List.mem_cons_of_mem t hu)) hseps]
      simp [Cursor.noting, Cursor.placed]

end Outline

section Statements

variable {ts rest us : List Token} {t : Token} {ms ms' : List Token} {j k n : Nat} {e : Expr}

/-- Whether further items of a tuple, each behind a comma, stand in front of the rest. -/
def TakesTail (ts rest : List Token) (k : Nat) : Prop :=
  ∃ used, used ++ rest = ts ∧ ∀ c : Cursor, c.place = .ended →
    ∃ p, p ≠ .due ∧ c.walk used = some ((c.past k).placed p)

/-- Whether items with commas between them stand in front of the rest. -/
def TakesTuple (ts rest : List Token) (k : Nat) : Prop :=
  ∃ used, used ≠ [] ∧ used ++ rest = ts ∧ ∀ c : Cursor, c.place ≠ .ended →
    ∃ p, p ≠ .due ∧ c.walk used = some ((c.past k).placed p)

/-- Whether a statement with the signs `ms` and `k` boolean operators stands in front of the
rest. -/
def TakesStatement (ts rest ms : List Token) (k : Nat) : Prop :=
  ∃ used, used ≠ [] ∧ used ++ rest = ts ∧ ∀ c : Cursor, c.depth = 0 → c.place ≠ .ended →
    ∃ p i, p ≠ .due ∧ c.walk used = some ⟨0, p, c.marks ++ ms, c.connectives + k, i⟩

theorem TakesOperand.used_ne_nil {used : List Token}
    (h : ∀ c : Cursor, c.place ≠ .ended → c.walk used = some (c.past k)) : used ≠ [] := by
  rintro rfl
  have hwalk := h ⟨0, .start, [], 0, false⟩ (by decide)
  cases hwalk

theorem TakesSequel.tail (h : TakesSequel ts rest k) : TakesTail ts rest k := by
  obtain ⟨used, rfl, hused⟩ := h
  exact ⟨used, rfl, fun c hc => ⟨.ended, by decide, hused c hc⟩⟩

theorem TakesSequel.append_tail (h : TakesSequel ts us j) (h' : TakesTail us rest k) :
    TakesTail ts rest (j + k) := by
  obtain ⟨first, rfl, hfirst⟩ := h
  obtain ⟨second, rfl, hsecond⟩ := h'
  refine ⟨first ++ second, List.append_assoc .., fun c hc => ?_⟩
  obtain ⟨p, hp, hwalk⟩ := hsecond (c.past j) rfl
  exact ⟨p, hp, by rw [Cursor.walk_append, hfirst c hc, Option.bind_some, hwalk, Cursor.past_past]⟩

theorem TakesOperand.append_tail (h : TakesOperand ts us j) (h' : TakesTail us rest k) :
    TakesTuple ts rest (j + k) := by
  obtain ⟨first, rfl, hfirst⟩ := h
  obtain ⟨second, rfl, hsecond⟩ := h'
  have hne := TakesOperand.used_ne_nil hfirst
  refine ⟨first ++ second, by simp [hne], List.append_assoc .., fun c hc => ?_⟩
  obtain ⟨p, hp, hwalk⟩ := hsecond (c.past j) rfl
  exact ⟨p, hp, by rw [Cursor.walk_append, hfirst c hc, Option.bind_some, hwalk, Cursor.past_past]⟩

theorem TakesOperand.tuple (h : TakesOperand ts rest k) : TakesTuple ts rest k :=
  h.append_tail TakesSequel.nil.tail

theorem TakesTuple.statement (h : TakesTuple ts rest k) : TakesStatement ts rest [] k := by
  obtain ⟨used, hne, rfl, hused⟩ := h
  refine ⟨used, hne, rfl, fun c hdepth hplace => ?_⟩
  obtain ⟨p, hp, hwalk⟩ := hused c hplace
  exact ⟨p, c.importing, hp, by rw [hwalk]; simp [Cursor.past, Cursor.placed, hdepth]⟩

theorem TakesOperand.statement (h : TakesOperand ts rest k) : TakesStatement ts rest [] k :=
  h.tuple.statement

/-- Two parts of a statement with a sign between them. -/
theorem TakesStatement.sign (h : TakesStatement ts (t :: us) ms j) (ht : t.role = .sign)
    (h' : TakesStatement us rest ms' k) : TakesStatement ts rest (ms ++ t :: ms') (j + k) := by
  obtain ⟨first, -, rfl, hfirst⟩ := h
  obtain ⟨second, -, rfl, hsecond⟩ := h'
  refine ⟨first ++ t :: second, by simp, by simp, fun c hdepth hplace => ?_⟩
  obtain ⟨p, i, -, hp⟩ := hfirst c hdepth hplace
  obtain ⟨q, i', hq, hwalk⟩ :=
    hsecond ⟨0, .start, c.marks ++ ms ++ [t], c.connectives + j, i⟩ rfl (by simp)
  refine ⟨q, i', hq, ?_⟩
  rw [Cursor.walk_append, hp, Option.bind_some, Cursor.walk_cons]
  simpa [Cursor.step, ht, Cursor.noting, Cursor.placed, Nat.add_assoc] using hwalk

/-- A statement that begins with a sign, and may end with it too. -/
theorem TakesStatement.leading (ht : t.role = .sign)
    (h : ts = rest ∧ ms = [] ∧ k = 0 ∨ TakesStatement ts rest ms k) :
    TakesStatement (t :: ts) rest (t :: ms) k := by
  have hstep : ∀ c : Cursor, c.depth = 0 → c.step t = some ((c.noting [t]).placed .start) :=
    fun c hdepth => by
    simp [Cursor.step, ht, hdepth]
  rcases h with ⟨rfl, rfl, rfl⟩ | ⟨used, -, rfl, hused⟩
  · refine ⟨[t], by simp, rfl, fun c hdepth _ => ⟨.start, c.importing, by decide, ?_⟩⟩
    simp [Cursor.walk, hstep c hdepth, Cursor.noting, Cursor.placed, hdepth]
  · refine ⟨t :: used, by simp, rfl, fun c hdepth _ => ?_⟩
    obtain ⟨p, i, hp, hwalk⟩ := hused ((c.noting [t]).placed .start) hdepth (by simp)
    refine ⟨p, i, hp, ?_⟩
    rw [Cursor.walk_cons, hstep c hdepth, Option.bind_some, hwalk]
    simp [Cursor.noting, Cursor.placed]

/-- Words and symbols that lead to a further part of a statement, whatever stands in front of
them. -/
def Token.IsWord (t : Token) : Prop :=
  ∀ c : Cursor, ∃ i, c.step t = some { c with place := .start, importing := i }

theorem isWord_of_role (ht : t.role = .other ∨ t.role = .origin) : t.IsWord := by
  intro c
  rcases ht with ht | ht
  · exact ⟨c.importing, by simp [Cursor.step, ht, Cursor.placed]⟩
  · exact ⟨true, by simp [Cursor.step, ht]⟩

theorem TakesStatement.cons (ht : t.IsWord) (h : TakesStatement ts rest ms k) :
    TakesStatement (t :: ts) rest ms k := by
  obtain ⟨used, -, rfl, hused⟩ := h
  refine ⟨t :: used, by simp, rfl, fun c hdepth _ => ?_⟩
  obtain ⟨i, hstep⟩ := ht c
  rw [Cursor.walk_cons, hstep, Option.bind_some]
  exact hused { c with place := .start, importing := i } hdepth (by simp)

/-- A word that is a statement by itself. -/
theorem TakesStatement.single (ht : t.IsWord) : TakesStatement (t :: ts) ts [] 0 := by
  refine ⟨[t], by simp, rfl, fun c hdepth _ => ?_⟩
  obtain ⟨i, hstep⟩ := ht c
  refine ⟨.start, i, by decide, ?_⟩
  simp [Cursor.walk, hstep, hdepth]

/-- Two parts of a statement with a word between them. -/
theorem TakesStatement.append (h : TakesStatement ts (t :: us) ms j) (ht : t.IsWord)
    (h' : TakesStatement us rest ms' k) : TakesStatement ts rest (ms ++ ms') (j + k) := by
  obtain ⟨first, -, rfl, hfirst⟩ := h
  obtain ⟨second, -, rfl, hsecond⟩ := h'
  refine ⟨first ++ t :: second, by simp, by simp, fun c hdepth hplace => ?_⟩
  obtain ⟨p, i, -, hp⟩ := hfirst c hdepth hplace
  obtain ⟨i', hstep⟩ := ht ⟨0, p, c.marks ++ ms, c.connectives + j, i⟩
  obtain ⟨q, i'', hq, hwalk⟩ :=
    hsecond ⟨0, .start, c.marks ++ ms, c.connectives + j, i'⟩ rfl (by simp)
  refine ⟨q, i'', hq, ?_⟩
  rw [Cursor.walk_append, hp, Option.bind_some, Cursor.walk_cons, hstep, Option.bind_some, hwalk]
  simp [Nat.add_assoc]

/-- A word at the end of a statement. -/
theorem TakesStatement.ending (h : TakesStatement ts (t :: us) ms k) (ht : t.IsWord) :
    TakesStatement ts us ms k := by
  obtain ⟨used, -, rfl, hused⟩ := h
  refine ⟨used ++ [t], by simp, by simp, fun c hdepth hplace => ?_⟩
  obtain ⟨p, i, -, hp⟩ := hused c hdepth hplace
  obtain ⟨i', hstep⟩ := ht ⟨0, p, c.marks ++ ms, c.connectives + k, i⟩
  refine ⟨.start, i', by decide, ?_⟩
  rw [Cursor.walk_append, hp, Option.bind_some, Cursor.walk_cons, hstep]
  rfl

theorem isWord_comma : (Token.symbol .comma).IsWord := isWord_of_role (.inl rfl)

theorem bareItems_takes (n : Nat) (ts : List Token) :
    TakesTail ts (bareItems n ts).2 (connectivesOf (bareItems n ts).1) := by
  induction n generalizing ts with
  | zero => simpa [bareItems] using TakesSequel.nil.tail
  | succ n ih =>
    unfold bareItems
    split
    · split
      · simpa using (((allTake n).item ‹_›).behind isLead_comma).append_tail (ih _)
      · refine ⟨[.symbol .comma], rfl, fun c hc => ⟨.start, by decide, ?_⟩⟩
        simp [Cursor.walk, Cursor.step, Token.role, Cursor.placed, Cursor.past]
    · simpa using TakesSequel.nil.tail

theorem bareTuple_takes (h : bareTuple n ts = some (e, rest)) :
    TakesTuple ts rest e.connectives := by
  simp only [bareTuple, Option.bind_eq_bind, Option.bind_eq_some_iff, Prod.exists] at h
  obtain ⟨first, us, hfirst, h⟩ := h
  have htake := (allTake n).item hfirst
  split at h
  · cases h
    simpa using htake.append_tail (bareItems_takes n _)
  · cases h
    exact htake.tuple

theorem assigned_takes {targets : List Expr} {value : Expr}
    (h : assigned n ts = some (targets, value, rest)) :
    ∃ k, value.connectives ≤ k ∧
      TakesStatement ts rest (List.replicate targets.length (.symbol .equals)) k := by
  induction n generalizing ts targets with
  | zero => cases h
  | succ n ih =>
    simp only [assigned, Option.bind_eq_bind, Option.bind_eq_some_iff, Prod.exists] at h
    obtain ⟨first, us, hfirst, h⟩ := h
    have htake := (bareTuple_takes hfirst).statement
    split at h
    · split at h
      · simp only [Option.bind_eq_some_iff, Prod.exists] at h
        obtain ⟨more, value, vs, hmore, h⟩ := h
        cases h
        obtain ⟨k, hk, hrest⟩ := ih hmore
        exact ⟨_, Nat.le_add_left_of_le hk, htake.sign rfl hrest⟩
      · cases h
    · cases h
      exact ⟨_, Nat.le_refl _, htake⟩

/-- The signs that make a statement what it is. -/
def Statement.signs : Statement → List Token
  | .assign _ targets _ => .symbol .equals :: List.replicate targets.length (.symbol .equals)
  | .augmented _ op _ => [.symbol (.augment op)]
  | .annotated _ _ none => [.symbol .colon]
  | .annotated _ _ (some _) => [.symbol .colon, .symbol .equals]
  | .return _ => [.keyword .return]
  | .expression _ | .delete .. | .plain _ => []

/-- Whether a statement stands in front of the rest. It has all the boolean operators of its value,
and nothing else if it is a plain expression. -/
def TakesWhole (ts rest : List Token) (s : Statement) : Prop :=
  ∃ k, TakesStatement ts rest s.signs k ∧
    ∀ e, s.value = .ok (some e) → e.connectives ≤ k ∧
    (s = .expression e → TakesTuple ts rest e.connectives)

theorem expressionStatement_takes {s : Statement} (h : expressionStatement n ts = some (s, rest)) :
    TakesWhole ts rest s := by
  simp only [expressionStatement, Option.bind_eq_bind, Option.bind_eq_some_iff, Prod.exists] at h
  obtain ⟨first, us, hfirst, h⟩ := h
  have htake := (bareTuple_takes hfirst).statement
  split at h
  · split at h
    · simp only [Option.bind_eq_some_iff, Prod.exists] at h
      obtain ⟨targets, value, vs, hvalue, h⟩ := h
      cases h
      obtain ⟨k, hk, hrest⟩ := assigned_takes hvalue
      refine ⟨_, htake.sign rfl hrest, fun e he => ?_⟩
      cases he
      exact ⟨Nat.le_add_left_of_le hk, nofun⟩
    · cases h
  · split at h
    · simp only [Option.bind_eq_some_iff, Prod.exists] at h
      obtain ⟨value, vs, hvalue, h⟩ := h
      cases h
      refine ⟨_, htake.sign rfl (bareTuple_takes hvalue).statement, fun e he => ?_⟩
      cases he
      exact ⟨Nat.le_add_left .., nofun⟩
    · cases h
  · split at h
    · simp only [Option.bind_eq_some_iff, Prod.exists] at h
      obtain ⟨declared, vs, hdeclared, h⟩ := h
      have hboth := htake.sign rfl ((allTake n).expression hdeclared).statement
      split at h
      · simp only [Option.bind_eq_some_iff, Prod.exists] at h
        obtain ⟨value, ws, hvalue, h⟩ := h
        cases h
        refine ⟨_, hboth.sign rfl (bareTuple_takes hvalue).statement, fun e he => ?_⟩
        cases he
        exact ⟨Nat.le_add_left .., nofun⟩
      · cases h
        exact ⟨_, hboth, nofun⟩
    · cases h
  · cases h
    refine ⟨_, htake, fun e he => ?_⟩
    cases he
    exact ⟨Nat.le_refl _, fun _ => bareTuple_takes hfirst⟩

/-- A statement without a value. -/
theorem TakesStatement.whole {s : Statement} (h : TakesStatement ts rest [] k) (hs : s.signs = [])
    (hvalue : ∀ e, s.value ≠ .ok (some e)) : TakesWhole ts rest s :=
  ⟨k, hs ▸ h, fun e he => absurd he (hvalue e)⟩

theorem deleted_takes {es : List Expr} (h : deleted n ts = some (es, rest)) :
    es = [] ∧ rest = ts ∨ ∃ k, TakesStatement ts rest [] k := by
  induction n generalizing ts es with
  | zero => cases h
  | succ n ih =>
    simp only [deleted] at h
    split at h
    · cases h
      exact .inl ⟨rfl, rfl⟩
    · simp only [Option.bind_eq_bind, Option.bind_eq_some_iff, Prod.exists] at h
      obtain ⟨first, us, hfirst, h⟩ := h
      have htake := ((allTake n).expression hfirst).statement
      split at h
      · split at h
        · simp only [Option.bind_eq_some_iff, Prod.exists] at h
          obtain ⟨more, vs, hmore, h⟩ := h
          cases h
          rcases ih hmore with ⟨-, rfl⟩ | ⟨k, hrest⟩
          · exact .inr ⟨_, htake.ending isWord_comma⟩
          · exact .inr ⟨_, htake.append isWord_comma hrest⟩
        · cases h
          exact .inr ⟨_, htake⟩
      · cases h

theorem expressionBehind_takes (ht : t.IsWord) (h : TakesStatement ts us [] k)
    (hbehind : expressionBehind t n us = some rest) : ∃ k, TakesStatement ts rest [] k := by
  unfold expressionBehind at hbehind
  split at hbehind
  · obtain ⟨vs, rfl⟩ := List.head?_eq_some_iff.1 ‹_›
    obtain ⟨⟨e, ws⟩, he, rfl⟩ := Option.map_eq_some_iff.1 hbehind
    exact ⟨_, h.append ht ((allTake n).expression he).statement⟩
  · cases hbehind
    exact ⟨k, h⟩

end Statements

section Imports

variable {ts rest us : List Token} {t : Token} {n : Nat}

/-- Whether names and words stand in front of the rest. Behind `from` a name may follow anything. -/
def TakesNames (ts rest : List Token) : Prop :=
  ∃ used, used ≠ [] ∧ used ++ rest = ts ∧ ∀ c : Cursor, c.place ≠ .ended ∨ c.importing = true →
    ∃ p, p ≠ .due ∧ c.walk used = some (c.placed p)

theorem TakesNames.statement (h : TakesNames ts rest) : TakesStatement ts rest [] 0 := by
  obtain ⟨used, hne, rfl, hused⟩ := h
  refine ⟨used, hne, rfl, fun c hdepth hplace => ?_⟩
  obtain ⟨p, hp, hwalk⟩ := hused c (.inl hplace)
  exact ⟨p, c.importing, hp, by simp [hwalk, Cursor.placed, hdepth]⟩

theorem TakesNames.part (h : TakesNames ts rest) : TakesPart ts rest 0 := by
  obtain ⟨used, -, rfl, hused⟩ := h
  refine ⟨used, rfl, fun c hc => ?_⟩
  obtain ⟨p, -, hwalk⟩ := hused c.deeper (.inl hc)
  exact ⟨p, hwalk⟩

theorem TakesNames.name {id : String} : TakesNames (.name id :: ts) ts := by
  refine ⟨[.name id], by simp, rfl, fun c hc => ⟨.ended, by decide, ?_⟩⟩
  rcases hc with hc | hc <;> simp [Cursor.walk, Cursor.step, Token.role, hc]

/-- Names on both sides of a word. -/
theorem TakesNames.append (h : TakesNames ts (t :: us)) (ht : t.role = .other)
    (h' : TakesNames us rest) :
    TakesNames ts rest := by
  obtain ⟨first, -, rfl, hfirst⟩ := h
  obtain ⟨second, -, rfl, hsecond⟩ := h'
  refine ⟨first ++ t :: second, by simp, by simp, fun c hc => ?_⟩
  obtain ⟨p, -, hp⟩ := hfirst c hc
  obtain ⟨q, hq, hwalk⟩ := hsecond (c.placed .start) (.inl (by simp))
  refine ⟨q, hq, ?_⟩
  have hstep : (c.placed p).step t = some (c.placed .start) := by
    simp [Cursor.step, ht, Cursor.placed]
  rw [Cursor.walk_append, hp, Option.bind_some, Cursor.walk_cons, hstep, Option.bind_some, hwalk]
  rfl

theorem namesOnly_takes (h : namesOnly ts = some rest) : TakesNames ts rest := by
  fun_induction namesOnly ts with
  | case1 id ts ih => exact TakesNames.name.append rfl (ih h)
  | case2 id ts =>
    cases h
    exact .name
  | case3 => cases h

theorem dottedName_takes (h : dottedName ts = some rest) : TakesNames ts rest := by
  fun_induction dottedName ts with
  | case1 id ts ih => exact TakesNames.name.append rfl (ih h)
  | case2 id ts =>
    cases h
    exact .name
  | case3 => cases h

theorem renamed_takes (h : TakesNames ts us) (hread : renamed us = some rest) :
    TakesNames ts rest := by
  unfold renamed at hread
  split at hread
  · cases hread
    exact h.append rfl .name
  · cases hread
  · cases hread
    exact h

theorem importedModules_takes (h : importedModules n ts = some rest) : TakesNames ts rest := by
  induction n generalizing ts with
  | zero => cases h
  | succ n ih =>
    simp only [importedModules, Option.bind_eq_bind, Option.bind_eq_some_iff] at h
    obtain ⟨us, hus, vs, hvs, h⟩ := h
    have htake := renamed_takes (dottedName_takes hus) hvs
    split at h
    · exact htake.append rfl (ih h)
    · cases h
      exact htake

theorem importedNames_takes (h : importedNames false n ts = some rest) : TakesNames ts rest := by
  induction n generalizing ts with
  | zero => cases h
  | succ n ih =>
    unfold importedNames at h
    split at h
    · contradiction
    · rename_i id vs hn
      cases hn
      simp only [Option.bind_eq_bind, Option.bind_eq_some_iff] at h
      obtain ⟨us, hus, h⟩ := h
      have htake : TakesNames (.name id :: vs) us := renamed_takes .name hus
      split at h
      · cases h
      · exact htake.append rfl (ih h)
      · cases h
      · cases h
        exact htake
    · cases h

theorem importedNames_takes_closing (h : importedNames true n ts = some rest) :
    TakesInner ts rest 0 := by
  induction n generalizing ts with
  | zero => cases h
  | succ n ih =>
    unfold importedNames at h
    split at h
    · contradiction
    · rename_i id vs hn
      cases hn
      simp only [Option.bind_eq_bind, Option.bind_eq_some_iff] at h
      obtain ⟨us, hus, h⟩ := h
      have htake : TakesPart (.name id :: vs) us 0 := (renamed_takes .name hus).part
      split at h
      · cases h
        exact htake.closing ((TakesClosing.close isClosing_paren).inner.behind isLead_comma.inner)
      · exact htake.closing ((ih h).behind isLead_comma.inner)
      · cases h
        exact htake.closing (.close isClosing_paren)
      · cases h
    · cases h

/-- What is imported, behind anything. -/
theorem importedPart_takes (h : importedPart n ts = some rest) : ∃ used, used ++ rest = ts ∧
    ∀ c : Cursor, ∃ p, p ≠ .due ∧ c.walk used = some (c.placed p) := by
  have hstep : ∀ c : Cursor, c.step (.keyword .import) = some (c.placed .start) := fun _ => rfl
  unfold importedPart at h
  split at h
  · cases h
    exact ⟨[.keyword .import, .symbol (.arith .mul)], rfl, fun c => ⟨.start, by decide, rfl⟩⟩
  · obtain ⟨used, rfl, hused⟩ := importedNames_takes_closing h
    refine ⟨.keyword .import :: .symbol .openParen :: used, rfl, fun c => ⟨.ended, by decide, ?_⟩⟩
    exact hused (c.placed .start) (by simp)
  · obtain ⟨used, -, rfl, hused⟩ := importedNames_takes h
    refine ⟨.keyword .import :: used, rfl, fun c => ?_⟩
    obtain ⟨p, hp, hwalk⟩ := hused (c.placed .start) (.inl (by simp))
    exact ⟨p, hp, by rw [Cursor.walk_cons, hstep, Option.bind_some, hwalk]; rfl⟩
  · cases h

theorem walk_dots {c : Cursor} {dots : List Token} (hc : c.place ≠ .due)
    (h : ∀ t ∈ dots, t = .symbol .dot ∨ t = .symbol .ellipsis) :
    ∃ p, p ≠ .due ∧ c.walk dots = some (c.placed p) := by
  induction dots generalizing c with
  | nil => exact ⟨c.place, hc, rfl⟩
  | cons t dots ih =>
    have hstep : ∃ p, p ≠ .due ∧ c.step t = some (c.placed p) := by
      rcases h t List.mem_cons_self with rfl | rfl
      · exact ⟨.start, by decide, rfl⟩
      · exact ⟨.ended, by decide, rfl⟩
    obtain ⟨p, hp, hstep⟩ := hstep
    obtain ⟨q, hq, hwalk⟩ := ih (c := c.placed p) hp fun u hu => h u (List.mem_cons_of_mem t hu)
    exact ⟨q, hq, by rw [Cursor.walk_cons, hstep, Option.bind_some, hwalk]; rfl⟩

theorem importFrom_takes (h : importFrom n ts = some rest) :
    TakesStatement (.keyword .from :: ts) rest [] 0 := by
  simp only [importFrom] at h
  generalize hisDot :
    (fun t : Token => decide (t = .symbol .dot) || decide (t = .symbol .ellipsis)) = isDot at h
  have hnames : ∃ used, used ++ rest = ts.dropWhile isDot ∧ ∀ c : Cursor, c.importing = true →
      ∃ p, p ≠ .due ∧ c.walk used = some (c.placed p) := by
    split at h
    · split at h
      · obtain ⟨used, hrest, hused⟩ := importedPart_takes h
        exact ⟨used, hrest, fun c _ => hused c⟩
      · cases h
    · obtain ⟨us, hus, h⟩ := Option.bind_eq_some_iff.1 h
      obtain ⟨first, -, hfirst, hwalk⟩ := dottedName_takes hus
      obtain ⟨second, rfl, hsecond⟩ := importedPart_takes h
      refine ⟨first ++ second, by rw [List.append_assoc, hfirst], fun c hc => ?_⟩
      obtain ⟨p, -, hp⟩ := hwalk c (.inr hc)
      obtain ⟨q, hq, hpart⟩ := hsecond (c.placed p)
      exact ⟨q, hq, by rw [Cursor.walk_append, hp, Option.bind_some, hpart]; rfl⟩
  obtain ⟨used, hrest, hused⟩ := hnames
  refine ⟨.keyword .from :: (ts.takeWhile isDot ++ used), by simp, ?_, fun c hdepth _ => ?_⟩
  · rw [List.cons_append, List.append_assoc, hrest, List.takeWhile_append_dropWhile]
  have hdots : ∀ t ∈ ts.takeWhile isDot, t = .symbol .dot ∨ t = .symbol .ellipsis := fun t ht => by
    have hdot := List.all_eq_true.1 (List.all_takeWhile (p := isDot) (l := ts)) t ht
    simpa [← hisDot] using hdot
  obtain ⟨p, -, hp⟩ :=
    walk_dots (c := { c with place := .start, importing := true }) (by simp) hdots
  obtain ⟨q, hq, hwalk⟩ := hused (Cursor.placed { c with place := .start, importing := true } p) rfl
  refine ⟨q, true, hq, ?_⟩
  have hstep : c.step (.keyword .from) = some { c with place := .start, importing := true } := rfl
  rw [Cursor.walk_cons, hstep, Option.bind_some, Cursor.walk_append, hp, Option.bind_some, hwalk]
  simp [Cursor.placed, hdepth]

end Imports

section Script

variable {ts rest : List Token} {n : Nat} {s : Statement}

theorem statement_takes (h : statement n ts = some (s, rest)) : TakesWhole ts rest s := by
  have hword : ∀ {k : Keyword}, (Token.keyword k).role = .other →
      (Token.keyword k).IsWord := fun hk =>
    isWord_of_role (.inl hk)
  unfold statement at h
  split at h
  case h_1 | h_2 | h_3 =>
    cases h
    exact (TakesStatement.single (hword rfl)).whole rfl nofun
  case h_4 =>
    split at h
    · cases h
      exact ⟨0, .leading rfl (.inl ⟨rfl, rfl, rfl⟩), nofun⟩
    · obtain ⟨⟨e, us⟩, he, h⟩ := Option.map_eq_some_iff.1 h
      cases h
      refine ⟨_, .leading rfl (.inr (bareTuple_takes he).statement), fun e' he' => ?_⟩
      cases he'
      exact ⟨Nat.le_refl _, nofun⟩
  case h_5 =>
    split at h
    · cases h
      exact (TakesStatement.single (hword rfl)).whole rfl nofun
    · simp only [Option.bind_eq_bind, Option.bind_eq_some_iff, Prod.exists] at h
      obtain ⟨e, us, he, vs, hvs, h⟩ := h
      cases h
      obtain ⟨k, htake⟩ :=
        expressionBehind_takes (isWord_of_role (.inr rfl)) ((allTake n).expression he).statement hvs
      exact (htake.cons (hword rfl)).whole rfl nofun
  case h_6 =>
    simp only [Option.bind_eq_bind, Option.bind_eq_some_iff, Prod.exists] at h
    obtain ⟨e, us, he, vs, hvs, h⟩ := h
    cases h
    obtain ⟨k, htake⟩ :=
      expressionBehind_takes isWord_comma ((allTake n).expression he).statement hvs
    exact (htake.cons (hword rfl)).whole rfl nofun
  case h_7 =>
    simp only [Option.bind_eq_bind, Option.bind_eq_some_iff, Prod.exists] at h
    obtain ⟨es, us, hes, h⟩ := h
    split at h
    · cases h
      rcases deleted_takes hes with ⟨hnil, -⟩ | ⟨k, htake⟩
      · cases hnil
      · exact (htake.cons (hword rfl)).whole rfl nofun
    · cases h
  case h_8 | h_9 =>
    obtain ⟨us, hus, h⟩ := Option.map_eq_some_iff.1 h
    cases h
    exact ((namesOnly_takes hus).statement.cons (hword rfl)).whole rfl nofun
  case h_10 =>
    obtain ⟨us, hus, h⟩ := Option.map_eq_some_iff.1 h
    cases h
    exact ((importedModules_takes hus).statement.cons (hword rfl)).whole rfl nofun
  case h_11 =>
    obtain ⟨us, hus, h⟩ := Option.map_eq_some_iff.1 h
    cases h
    exact (importFrom_takes hus).whole rfl nofun
  case h_12 => exact expressionStatement_takes h

/-- A script is its first statement, separators, and the script behind them. -/
theorem statements_cases {more : List Statement} (h : statements n ts = some (s :: more)) :
    ∃ m seps us, n = m + 1 ∧ statement m ts = some (s, seps ++ us) ∧
      (∀ t ∈ seps, t.isSeparator = true) ∧
      (us = [] ∧ more = [] ∨ seps ≠ [] ∧ us ≠ [] ∧ statements m us = some more) := by
  unfold statements at h
  split at h
  · cases h
  · cases h
  · rename_i m _
    simp only [Option.bind_eq_bind, Option.bind_eq_some_iff, Prod.exists] at h
    obtain ⟨s', rest, hs, h⟩ := h
    -- what stands behind the separators is a script, or nothing
    have hrest : ∀ us, (statements m us).map (s' :: ·) = some (s :: more) →
        s' = s ∧ (us = [] ∧ more = [] ∨ us ≠ [] ∧ statements m us = some more) := by
      intro us hus
      obtain ⟨ss, hss, hcons⟩ := Option.map_eq_some_iff.1 hus
      cases hcons
      cases us with
      | cons t us => exact ⟨rfl, .inr ⟨by simp, hss⟩⟩
      | nil =>
        cases m with
        | zero => cases hss
        | succ m => cases hss; exact ⟨rfl, .inl ⟨rfl, rfl⟩⟩
    split at h
    · cases h
      exact ⟨m, [], [], rfl, hs, by simp, .inl ⟨rfl, rfl⟩⟩
    · cases h
      exact ⟨m, [.symbol .semicolon], [], rfl, hs, by decide, .inl ⟨rfl, rfl⟩⟩
    · obtain ⟨rfl, hus⟩ := hrest _ h
      exact ⟨m, [.symbol .semicolon, .lineEnd], _, rfl, hs, by decide,
        hus.imp_right fun h => ⟨by simp, h⟩⟩
    · obtain ⟨rfl, hus⟩ := hrest _ h
      exact ⟨m, [.symbol .semicolon], _, rfl, hs, by decide, hus.imp_right fun h => ⟨by simp, h⟩⟩
    · obtain ⟨rfl, hus⟩ := hrest _ h
      exact ⟨m, [.lineEnd], _, rfl, hs, by decide, hus.imp_right fun h => ⟨by simp, h⟩⟩
    · cases h

theorem eq_nil_of_statements (h : statements n ts = some []) : ts = [] := by
  unfold statements at h
  split at h
  · cases h
  · rfl
  · simp only [Option.bind_eq_bind, Option.bind_eq_some_iff, Prod.exists] at h
    obtain ⟨s, rest, -, h⟩ := h
    split at h <;> simp at h

/-- A whole script can be walked over, and does not end where an operand is due. -/
theorem statements_walk {ss : List Statement} (h : statements n ts = some ss) {c : Cursor}
    (hdepth : c.depth = 0)
    (hplace : c.place = .start) : ∃ c', c.walk ts = some c' ∧ c'.place ≠ .due := by
  induction n generalizing ts ss c with
  | zero => cases h
  | succ n ih =>
    cases ss with
    | nil =>
      cases eq_nil_of_statements h
      exact ⟨c, rfl, by simp [hplace]⟩
    | cons s more =>
      obtain ⟨m, seps, us, hm, hs, hseps, hmore⟩ := statements_cases h
      cases hm
      obtain ⟨k, ⟨used, -, rfl, hused⟩, -⟩ := statement_takes hs
      obtain ⟨p, i, hp, hwalk⟩ := hused c hdepth (by simp [hplace])
      rw [Cursor.walk_append, hwalk, Option.bind_some]
      by_cases hnil : seps = []
      · rcases hmore with ⟨rfl, -⟩ | ⟨hne, -⟩
        · exact ⟨_, by rw [hnil]; rfl, hp⟩
        · exact absurd hnil hne
      · rw [Cursor.walk_append, walk_separators hseps hnil, Option.bind_some]
        rcases hmore with ⟨rfl, -⟩ | ⟨-, -, hmore⟩
        · exact ⟨_, rfl, by simp⟩
        · exact ih hmore rfl rfl

/-- Nothing but separators stands behind the only statement of a script. -/
theorem statements_single (h : statements n ts = some [s]) :
    ∃ m seps, statement m ts = some (s, seps) ∧ ∀ t ∈ seps, t.isSeparator = true := by
  obtain ⟨m, seps, us, -, hs, hseps, hmore⟩ := statements_cases h
  have hus : us = [] := by
    rcases hmore with ⟨rfl, -⟩ | ⟨-, -, hmore⟩
    · rfl
    · exact eq_nil_of_statements hmore
  rw [hus, List.append_nil] at hs
  exact ⟨m, seps, hs, hseps⟩

/-- The value of the first statement has no more boolean operators than there are among the
tokens. -/
theorem connectives_le_of_statements {more : List Statement} {e : Expr}
    (h : statements n ts = some (s :: more))
    (he : s.value = .ok (some e)) : e.connectives ≤ ts.countP Token.isConnective := by
  obtain ⟨m, seps, us, -, hs, -, -⟩ := statements_cases h
  obtain ⟨k, ⟨used, -, rfl, hused⟩, hvalue⟩ := statement_takes hs
  obtain ⟨p, i, -, hwalk⟩ := hused ⟨0, .start, [], 0, false⟩ rfl (by simp)
  have hk : k = used.countP Token.isConnective := by simpa using walk_connectives hwalk
  rw [List.countP_append, ← hk]
  exact Nat.le_add_right_of_le (hvalue e he).1

/-- A single expression has all the boolean operators among the tokens, and holds no import. -/
theorem walk_of_expression {e : Expr} (h : statements n ts = some [.expression e]) :
    ∃ c', (Cursor.mk 0 .start [] 0 false).walk ts = some c' ∧ c'.connectives = e.connectives ∧
      c'.importing = false := by
  obtain ⟨m, seps, hs, hseps⟩ := statements_single h
  obtain ⟨k, -, hvalue⟩ := statement_takes hs
  obtain ⟨used, -, rfl, hused⟩ := (hvalue e rfl).2 rfl
  obtain ⟨p, -, hwalk⟩ := hused ⟨0, .start, [], 0, false⟩ (by simp)
  rw [Cursor.walk_append, hwalk, Option.bind_some]
  by_cases hnil : seps = []
  · exact ⟨_, by rw [hnil]; rfl, by simp [Cursor.past, Cursor.placed]⟩
  · exact ⟨_, walk_separators hseps hnil, by simp [Cursor.past, Cursor.placed, Cursor.noting]⟩

/-- Whether nothing but separators stands behind the first separator. -/
def isOneLine (ts : List Token) : Bool :=
  (ts.dropWhile fun t => !t.isSeparator).all Token.isSeparator

/-- The signs that stand outside of all brackets. -/
def outerSigns (ts : List Token) : List Token := (outline 0 ts).filter fun t => t.role == .sign

theorem role_of_mem_signs {t : Token} (ht : t ∈ s.signs) : t.role = .sign := by
  cases s with
  | assign target targets value =>
    rcases List.mem_cons.1 ht with rfl | ht
    · rfl
    · rw [List.eq_of_mem_replicate ht]
      rfl
  | annotated target declared value =>
    cases value <;> simp [Statement.signs] at ht <;> grind [Token.role]
  | _ => simp_all [Statement.signs, Token.role]

/-- The tokens of a statement, which are no separators, and its signs among them. -/
theorem TakesWhole.tokens (h : TakesWhole ts rest s) : ∃ used, used ≠ [] ∧ used ++ rest = ts ∧
    (∀ t ∈ used, t.isSeparator = false) ∧ ∀ us, outline 0
    (used ++ us) = s.signs ++ outline 0 us := by
  obtain ⟨k, ⟨used, hne, rfl, hused⟩, -⟩ := h
  obtain ⟨p, i, -, hwalk⟩ := hused ⟨0, .start, [], 0, false⟩ rfl (by simp)
  obtain ⟨ms, hms, houtline⟩ := walk_marks hwalk
  cases (show s.signs = ms by simpa using hms)
  refine ⟨used, hne, rfl, fun t ht => ?_, houtline⟩
  cases hsep : t.isSeparator with
  | false => rfl
  | true =>
    have hmem := mem_outline_of_isSeparator (d := 0) ht hsep
    have hsigns : outline 0 used = s.signs := by simpa [outline] using houtline []
    rw [hsigns] at hmem
    simp [Token.isSeparator, role_of_mem_signs hmem] at hsep

theorem isOneLine_append {used rest : List Token} (h : ∀ t ∈ used, t.isSeparator = false) :
    isOneLine (used ++ rest) = isOneLine rest := by
  rw [isOneLine, List.dropWhile_append_of_pos fun t ht => by simp [h t ht]]
  rfl

/-- Only one statement has been read if and only if no separator stands in the middle. -/
theorem statements_single_iff {more : List Statement} (h : statements n ts = some (s :: more)) :
    more = [] ↔ isOneLine ts = true := by
  obtain ⟨m, seps, us, rfl, hs, hseps, hmore⟩ := statements_cases h
  obtain ⟨used, -, rfl, hused, -⟩ := (statement_takes hs).tokens
  rw [isOneLine_append hused]
  rcases hmore with ⟨rfl, rfl⟩ | ⟨hne, hus, hmore⟩
  · have hall : isOneLine (seps ++ []) = true := List.all_eq_true.2 fun t ht =>
      hseps t (by simpa using (List.dropWhile_suffix _).subset ht)
    exact iff_of_true rfl hall
  · cases more with
    | nil => exact absurd (eq_nil_of_statements hmore) hus
    | cons s' more =>
      obtain ⟨m', seps', us', -, hs', -, -⟩ := statements_cases hmore
      obtain ⟨used', hne', rfl, hused', -⟩ := (statement_takes hs').tokens
      obtain ⟨t, seps, rfl⟩ := List.exists_cons_of_ne_nil hne
      obtain ⟨u, used', rfl⟩ := List.exists_cons_of_ne_nil hne'
      simp [isOneLine, hseps t, hused' u]

/-- The signs outside of all brackets are those of the only statement. -/
theorem outerSigns_of_single (h : statements n ts = some [s]) : outerSigns ts = s.signs := by
  obtain ⟨m, seps, hs, hseps⟩ := statements_single h
  obtain ⟨used, -, rfl, -, houtline⟩ := (statement_takes hs).tokens
  have hseps' : seps.filter (fun t => t.role == .sign) = [] := by
    simpa [List.filter_eq_nil_iff] using fun t ht => by simp [eq_of_beq (hseps t ht)]
  rw [outerSigns, houtline, outline_separators hseps, List.filter_append, hseps',
    List.append_nil, List.filter_eq_self]
  exact fun t ht => by simp [role_of_mem_signs ht]

end Script

end TaxFlow.Formula
