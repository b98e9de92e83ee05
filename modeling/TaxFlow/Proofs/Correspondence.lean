import Mathlib.Data.List.Forall2
import TaxFlow.Proofs.Mentions
import TaxFlow.Proofs.Stack

/-!
# Corresponding words

Java, JavaScript, PHP and Python write a formula word by word in the same order. Every word has a
role that does not depend on the language, and the languages differ only in how they spell some of
the roles. What one of them cannot write none of them can, unless its stack is too small, or a
member is asked of an operation without operands in PHP.
-/
namespace TaxFlow

open Formula

/-- What a word of a formula stands for. -/
inductive Role where
  /-- A word that all languages share. -/
  | fixed (text : String)
  /-- A name: the decimal class, its constructor, a constant or a variable. -/
  | name (id : String)
  /-- What leads from a value to its member. -/
  | access
  /-- One of the decimals that are members of their class. -/
  | decimal (name : String)
  | junction (op : BoolOp)
  | listOpening
  | listClosing
  deriving DecidableEq, Repr

/-- The decimals that are members of their class. -/
def decimalNames : List String := ["ZERO", "ONE", "TEN"]

/-- The role of a member. -/
def Role.ofMember (name : String) : Role :=
  if name ∈ decimalNames then .decimal name else .fixed name

namespace Dialect

/-- The word for a decimal that is a member of its class. -/
def decimalWord (d : Dialect) (name : String) : String :=
  match d.vocabulary with
  | .aliased aliases _ => (aliases.lookup name).getD name
  | _ => name

/-- The words that a dialect has for a role. -/
def spellings (d : Dialect) (scope : Scope) : Role → List String
  | .fixed text => [text]
  | .name id => [d.nameWord scope id]
  | .access => [d.accessor, d.constantAccessor]
  | .decimal name => [d.decimalWord name]
  | .junction op => [d.boolWord op]
  | .listOpening => d.listOpening
  | .listClosing => [d.listClosing]

/-- Whether words spell roles, one by one. -/
def Spells (d : Dialect) (scope : Scope) : List Role → List String → Prop :=
  List.Forall₂ fun role word => word ∈ d.spellings scope role

/-- Whether what is written has the given outcome: the same fault, or words that spell the roles. -/
def Agrees (d : Dialect) (scope : Scope) (outcome : Except Fault (List Role))
    (written : Except Fault (List String)) : Prop :=
  match outcome with
  | .error fault => written = .error fault
  | .ok roles => ∃ ws, written = .ok ws ∧ d.Spells scope roles ws

/-- The dialects that share one translation. -/
def corresponding : List Dialect := [.java, .javascript, .php, .python]

theorem spells_fixed (d : Dialect) (scope : Scope) (ws : List String) :
    d.Spells scope (ws.map .fixed) ws := by
  rw [Spells, List.forall₂_map_left_iff, List.forall₂_same]
  simp [spellings]

/-- A member is two words, of which the first is an accessor. -/
theorem spells_pair (d : Dialect) (scope : Scope) {role : Role} {accessor word : String}
    (haccessor : accessor ∈ [d.accessor, d.constantAccessor])
    (hword : word ∈ d.spellings scope role) :
    d.Spells scope [.access, role] [accessor, word] :=
  .cons haccessor (.cons hword .nil)

theorem spells_member_kept {d : Dialect} (h : d.vocabulary = .kept) (scope : Scope) (ofClass : Bool)
    (name : String) :
    d.Spells scope [.access, .ofMember name] (d.memberTail ofClass name) := by
  have hword : name ∈ d.spellings scope (.ofMember name) := by
    unfold Role.ofMember
    split <;> simp [spellings, decimalWord, h]
  simp only [memberTail, h]
  exact spells_pair d scope List.mem_cons_self hword

/-- Where exactly the decimals have other names, all other members are written as they are. -/
theorem spells_member_aliased {d : Dialect} {aliases : List (String × String)}
    {statics : List String}
    (h : d.vocabulary = .aliased aliases statics) (haliases : aliases.map Prod.fst = decimalNames)
    (scope : Scope) (ofClass : Bool) (name : String) :
    d.Spells scope [.access, .ofMember name] (d.memberTail ofClass name) := by
  simp only [memberTail, h]
  cases hlookup : aliases.lookup name with
  | some other =>
    have hname : name ∈ decimalNames := by
      rw [← haliases]
      obtain ⟨before, after, rfl, -⟩ := List.lookup_eq_some_iff.1 hlookup
      simp
    refine spells_pair d scope (List.mem_cons_of_mem _ List.mem_cons_self) ?_
    simp [Role.ofMember, hname, spellings, decimalWord, h, hlookup]
  | none =>
    have hname : name ∉ decimalNames := by
      rw [← haliases, List.mem_map]
      rintro ⟨entry, hentry, rfl⟩
      simpa using List.lookup_eq_none_iff.1 hlookup entry hentry
    have hword : name ∈ d.spellings scope (.ofMember name) := by
      simp [Role.ofMember, hname, spellings]
    simp only
    split
    · exact spells_pair d scope (List.mem_cons_of_mem _ List.mem_cons_self) hword
    · exact spells_pair d scope List.mem_cons_self hword

/-- A member is spelled alike in all of the dialects. -/
theorem spells_member {d : Dialect} (hd : d ∈ corresponding) (scope : Scope) (ofClass : Bool)
    (name : String) :
    d.Spells scope [.access, .ofMember name] (d.memberTail ofClass name) := by
  simp only [corresponding, List.mem_cons, List.not_mem_nil, or_false] at hd
  rcases hd with rfl | rfl | rfl | rfl
  · exact spells_member_kept rfl scope ofClass name
  · exact spells_member_aliased rfl rfl scope ofClass name
  · exact spells_member_aliased rfl rfl scope ofClass name
  · exact spells_member_kept rfl scope ofClass name

theorem ne_mapped {d : Dialect} (hd : d ∈ corresponding) : d.vocabulary ≠ .mapped := by
  simp only [corresponding, List.mem_cons, List.not_mem_nil, or_false] at hd
  rcases hd with rfl | rfl | rfl | rfl <;> decide

/-- The last word of a value is asked for if a name may belong to the decimal class. -/
theorem memberWords_nil_aliased {d : Dialect} {aliases : List (String × String)}
    {statics : List String} (h : d.vocabulary = .aliased aliases statics) (name : String) :
    d.memberWords [] name = .ok (d.memberTail false name) ∨
      statics ≠ [] ∧ d.memberWords [] name = .error .noLastWord := by
  simp only [memberWords, memberTail, h]
  cases aliases.lookup name with
  | some other => exact .inl rfl
  | none =>
    cases hstatic : statics.contains name with
    | false => exact .inl rfl
    | true =>
      refine .inr ⟨?_, rfl⟩
      rintro rfl
      cases hstatic

/-- Of the dialects only PHP asks for the last word of a value. -/
theorem memberWords_nil {d : Dialect} (hd : d ∈ corresponding) (name : String) :
    d.memberWords [] name = .ok (d.memberTail false name) ∨
      d = .php ∧ d.memberWords [] name = .error .noLastWord := by
  simp only [corresponding, List.mem_cons, List.not_mem_nil, or_false] at hd
  rcases hd with rfl | rfl | rfl | rfl
  · exact .inl rfl
  · exact (memberWords_nil_aliased rfl name).imp id fun h => absurd rfl h.1
  · exact (memberWords_nil_aliased rfl name).imp id fun h => ⟨rfl, h.2⟩
  · exact .inl rfl

end Dialect

/-- Faults of what no language can write. -/
def Fault.isUnwritable : Fault → Bool
  | .unsupportedElement _ | .integerTooLong => true
  | _ => false

/-- Whether the dialects agree about what is written, with two more faults if it is `loose`: of a
comparison without operand in all of them, and of a value without words in PHP. -/
def Uniform (loose : Prop) (scope : Scope) (written : Dialect → Except Fault (List String)) :
    Prop :=
  ∃ outcome : Except Fault (List Role),
    (∀ fault, outcome = .error fault → fault.isUnwritable = true ∨ loose ∧
      fault = .missingOperand) ∧
    ∀ d ∈ Dialect.corresponding, d.Agrees scope outcome (written d) ∨
      loose ∧ d = .php ∧ written d = .error .noLastWord

namespace Uniform

open Dialect

variable {loose : Prop} {scope : Scope} {written written' : Dialect → Except Fault (List String)}

theorem of_spells (roles : List Role) {ws : Dialect → List String}
    (h : ∀ d ∈ corresponding, d.Spells scope roles (ws d)) :
    Uniform loose scope fun d => .ok (ws d) :=
  ⟨.ok roles, by simp, fun d hd => .inl ⟨ws d, rfl, h d hd⟩⟩

theorem of_fault (fault : Fault) (h : fault.isUnwritable = true ∨ loose ∧ fault = .missingOperand) :
    Uniform loose scope fun _ => .error fault :=
  ⟨.error fault, by rintro _ ⟨⟩; exact h, fun _ _ => .inl rfl⟩

/-- What does not depend on the dialect. -/
theorem text {x : Except Fault (List String)}
    (h : ∀ fault, x = .error fault → fault.isUnwritable = true) :
    Uniform loose scope fun _ => x := by
  cases x with
  | error fault => exact of_fault fault (.inl (h fault rfl))
  | ok ws => exact of_spells (ws.map .fixed) fun d _ => d.spells_fixed scope ws

theorem fixed (ws : List String) : Uniform loose scope fun _ => .ok ws := text (by rintro _ ⟨⟩)

theorem congr (h : Uniform loose scope written)
    (heq : ∀ d ∈ corresponding, written' d = written d) :
    Uniform loose scope written' := by
  obtain ⟨outcome, hfault, hall⟩ := h
  refine ⟨outcome, hfault, fun d hd => ?_⟩
  rw [heq d hd]
  exact hall d hd

/-- What is written behind something else has its fault, or else one of its own. -/
theorem append (h : Uniform loose scope written) (h' : Uniform loose scope written') :
    Uniform loose scope fun d => (do .ok ((← written d) ++ (← written' d))) := by
  obtain ⟨outcome, hfault, hall⟩ := h
  obtain ⟨outcome', hfault', hall'⟩ := h'
  cases outcome with
  | error fault =>
    refine ⟨.error fault, hfault, fun d hd => ?_⟩
    rcases hall d hd with hwritten | ⟨hloose, hphp, hwritten⟩
    · exact .inl (congrArg (· >>= _) hwritten)
    · exact .inr ⟨hloose, hphp, congrArg (· >>= _) hwritten⟩
  | ok roles =>
    refine ⟨outcome'.map (roles ++ ·), ?_, fun d hd => ?_⟩
    · intro fault h
      cases outcome' with
      | error fault' => exact hfault' fault h
      | ok roles' => cases h
    rcases hall d hd with ⟨ws, hws, hspells⟩ | ⟨hloose, hphp, hwritten⟩
    · simp only [hws, bind, Except.bind]
      rcases hall' d hd with hagrees | ⟨hloose, hphp, hwritten⟩
      · refine .inl ?_
        cases outcome' with
        | error fault =>
          have hwritten : written' d = .error fault := hagrees
          rw [hwritten]
          rfl
        | ok roles' =>
          obtain ⟨ws', hws', hspells'⟩ := hagrees
          rw [hws']
          exact ⟨ws ++ ws', rfl, List.rel_append hspells hspells'⟩
      · rw [hwritten]
        exact .inr ⟨hloose, hphp, rfl⟩
    · exact .inr ⟨hloose, hphp, congrArg (· >>= _) hwritten⟩

/-- Words between and behind two parts. -/
theorem around {between : Except Fault (List String)} (h : Uniform loose scope written)
    (hbetween : Uniform loose scope fun _ => between) (h' : Uniform loose scope written')
    (behind : List String) :
    Uniform loose scope fun d => (do
      let left ← written d
      let words ← between
      let right ← written' d
      .ok (left ++ words ++ right ++ behind)) := by
  refine (((h.append hbetween).append h').append (fixed behind)).congr fun d _ => ?_
  cases written d with
  | error fault => rfl
  | ok left =>
    cases between with
    | error fault => rfl
    | ok words => cases written' d <;> rfl

/-- A member behind its value. -/
theorem member (h : Uniform loose scope written) (name : String)
    (hne : ¬loose → ∀ d ws, written d = .ok ws → ws ≠ []) :
    Uniform loose scope fun d => (do d.memberWords (← written d) name) := by
  obtain ⟨outcome, hfault, hall⟩ := h
  refine ⟨outcome.map (· ++ [Role.access, .ofMember name]), ?_, fun d hd => ?_⟩
  · intro fault h
    cases outcome with
    | error fault' => exact hfault fault h
    | ok roles => cases h
  rcases hall d hd with hagrees | ⟨hloose, hphp, hwritten⟩
  · cases outcome with
    | error fault => exact .inl (congrArg (· >>= _) hagrees)
    | ok roles =>
      obtain ⟨ws, hws, hspells⟩ := hagrees
      simp only [hws, bind, Except.bind]
      by_cases hempty : ws = []
      · have hloose : loose := by
          by_contra hloose
          exact hne hloose d ws hws hempty
        subst hempty
        rcases memberWords_nil hd name with hmember | ⟨hphp, hmember⟩
        · exact .inl ⟨_, hmember, List.rel_append hspells (spells_member hd scope _ name)⟩
        · exact .inr ⟨hloose, hphp, hmember⟩
      · rw [memberWords_eq d name hempty]
        exact .inl ⟨_, rfl, List.rel_append hspells (spells_member hd scope _ name)⟩
  · exact .inr ⟨hloose, hphp, congrArg (· >>= _) hwritten⟩

end Uniform

namespace Dialect

theorem integerText_unwritable {n : Nat} {fault : Fault} (h : integerText n = .error fault) :
    fault.isUnwritable = true := by
  unfold integerText at h
  split at h
  · cases h
  · cases h
    rfl

theorem plainText_unwritable {k : Constant} {fault : Fault} (h : k.plainText = .error fault) :
    fault.isUnwritable = true := by
  cases k with
  | int n => exact integerText_unwritable h
  | negative n =>
    cases htext : integerText (n + 1) with
    | ok text => simp [Constant.plainText, htext, bind, Except.bind] at h
    | error fault' =>
      simp only [Constant.plainText, htext, bind, Except.bind, Except.error.injEq] at h
      exact h ▸ integerText_unwritable htext
  | other text =>
    cases text with
    | none =>
      cases h
      rfl
    | some s => cases h
  | _ => cases h

theorem constantWord_unwritable {k : Constant} {fault : Fault}
    (h : (do .ok [← constantWord k] : Except Fault (List String)) = .error fault) :
    fault.isUnwritable = true := by
  cases hword : constantWord k with
  | ok word => simp [hword, bind, Except.bind] at h
  | error fault' =>
    simp only [hword, bind, Except.bind, Except.error.injEq] at h
    subst h
    unfold constantWord at hword
    split at hword
    · exact plainText_unwritable hword
    · cases hword
      rfl

theorem binaryWord_unwritable (op : BinaryOp) {fault : Fault}
    (h : (do .ok [← binaryWord op] : Except Fault (List String)) = .error fault) :
    fault.isUnwritable = true := by
  cases op <;> cases h <;> rfl

theorem compareWord_unwritable (op : CompareOp) {fault : Fault}
    (h : (do .ok [← compareWord op] : Except Fault (List String)) = .error fault) :
    fault.isUnwritable = true := by
  cases op <;> cases h <;> rfl

variable {loose : Prop} (scope : Scope)

mutual

/-- Operations without operands are all that the dialects do not agree on. -/
theorem toCode_uniform :
    (e : Expr) → (¬loose → e.isFilled = true) → Uniform loose scope fun d => d.toCode scope e
  | .name id, _ => by
    have hname : Uniform loose scope fun d => .ok [d.nameWord scope id] :=
      .of_spells [.name id] fun d _ => .cons List.mem_cons_self .nil
    exact hname.congr fun d _ => by rw [toCode]
  | .constant k, _ => (Uniform.text fun _ => constantWord_unwritable).congr
      fun d _ => by rw [toCode]
  | .member e name, hfilled => by
    simp only [Expr.isFilled] at hfilled
    refine ((toCode_uniform e hfilled).member name fun hloose d => ?_).congr fun d hd => ?_
    · exact toCode_ne_nil e (hfilled hloose)
    · rw [toCode_member (ne_mapped hd)]
  | .subscript e i, hfilled => by
    simp only [Expr.isFilled, Bool.and_eq_true, imp_and] at hfilled
    have he := toCode_uniform e hfilled.1
    have hi := toCode_uniform i hfilled.2
    cases i with
    | constant k =>
      refine (he.append (.text (x := do .error (.unsupportedElement (← k.plainText))) ?_)).congr
        fun d _ => ?_
      · intro fault h
        cases htext : k.plainText with
        | error fault' =>
          simp only [htext, bind, Except.bind, Except.error.injEq] at h
          exact h ▸ plainText_unwritable htext
        | ok text =>
          simp only [htext, bind, Except.bind, Except.error.injEq] at h
          exact h ▸ rfl
      · rw [toCode]
        cases d.toCode scope e with
        | error fault => rfl
        | ok ws => cases k.plainText <;> rfl
    | member j _ | starred j =>
      have hj := toCode_uniform j (by simpa [Expr.isFilled] using hfilled.2)
      refine (he.around (.fixed ["["]) hj ["]"]).congr fun d _ => ?_
      rw [toCode]
      rfl
    | subscript j _ =>
      simp only [Expr.isFilled, Bool.and_eq_true, imp_and] at hfilled
      refine (he.around (.fixed ["["]) (toCode_uniform j hfilled.2.1) ["]"]).congr fun d _ => ?_
      rw [toCode]
      rfl
    | holder kind value =>
      cases value with
      | none =>
        refine (he.append (.of_fault (.unsupportedElement "None") (.inl rfl))).congr fun d _ => ?_
        rw [toCode]
        rfl
      | some j =>
        have hj := toCode_uniform j (by simpa [Expr.isFilled] using hfilled.2)
        refine (he.around (.fixed ["["]) hj ["]"]).congr fun d _ => ?_
        rw [toCode]
        rfl
    | _ =>
      refine (he.around (.fixed ["["]) hi ["]"]).congr fun d _ => ?_
      simp only [toCode]
      rfl
  | .call f args keywords, hfilled => by
    simp only [Expr.isFilled, Bool.and_eq_true, imp_and] at hfilled
    have hargs := listWords_uniform args hfilled.2
    refine ((toCode_uniform f hfilled.1).around (.fixed ["("]) hargs [")"]).congr fun d hd => ?_
    rw [toCode_call (ne_mapped hd)]
    rfl
  | .binary op a b, hfilled => by
    simp only [Expr.isFilled, Bool.and_eq_true, imp_and] at hfilled
    have hb := toCode_uniform b hfilled.2
    refine ((toCode_uniform a hfilled.1).around (.text fun _ => binaryWord_unwritable op) hb
      []).congr fun d _ => ?_
    rw [toCode]
    cases d.toCode scope a with
    | error fault => rfl
    | ok left => cases binaryWord op <;> simp [bind, Except.bind]
  | .unary op e, hfilled => by
    have he := toCode_uniform e (by simpa [Expr.isFilled] using hfilled)
    refine ((Uniform.fixed [unaryWord op]).append he).congr fun d _ => ?_
    rw [toCode]
    rfl
  | .bool op es, hfilled => by
    simp only [Expr.isFilled, Bool.and_eq_true, imp_and] at hfilled
    exact (boolWords_uniform op es hfilled.2).congr fun d _ => by rw [toCode]
  | .compare a op b more, hfilled => by
    simp only [Expr.isFilled, Bool.and_eq_true, imp_and] at hfilled
    have hb := toCode_uniform b hfilled.2
    refine ((toCode_uniform a hfilled.1).around (.text fun _ => compareWord_unwritable op) hb
      []).congr fun d _ => ?_
    rw [toCode]
    cases d.toCode scope a with
    | error fault => rfl
    | ok left => cases compareWord op <;> simp [bind, Except.bind]
  | .incomplete a op, hfilled => by
    have hloose : loose := by
      by_contra hloose
      simp [Expr.isFilled] at hfilled
      exact hloose hfilled
    have ha := toCode_uniform a fun h => absurd hloose h
    have hend : Uniform loose scope fun _ => .error .missingOperand :=
      .of_fault _ (.inr ⟨hloose, rfl⟩)
    cases op with
    | none =>
      refine (ha.append hend).congr fun d _ => ?_
      rw [toCode]
      rfl
    | some op =>
      refine (ha.around (.text fun _ => compareWord_unwritable op) hend []).congr fun d _ => ?_
      rw [toCode]
      cases d.toCode scope a with
      | error fault => rfl
      | ok left =>
        simp only [Option.mapM_some]
        cases compareWord op <;> rfl
  | .list es, hfilled => by
    have hes := listWords_uniform es (by simpa [Expr.isFilled] using hfilled)
    have hopening : Uniform loose scope fun d => .ok d.listOpening := by
      refine .of_spells [.listOpening] fun d hd => ?_
      simp only [corresponding, List.mem_cons, List.not_mem_nil, or_false] at hd
      rcases hd with rfl | rfl | rfl | rfl <;> exact .cons List.mem_cons_self .nil
    have hclosing : Uniform loose scope fun d => .ok [d.listClosing] :=
      .of_spells [.listClosing] fun d _ => .cons List.mem_cons_self .nil
    refine ((hopening.append hes).append hclosing).congr fun d _ => ?_
    rw [toCode]
    cases d.listWords scope es.length es <;> rfl
  | .tuple _, _ | .set _, _ | .dict _, _ | .conditional .., _ | .starred _, _
  | .slice .., _ | .other _, _
  | .holder .., _ => (Uniform.of_fault (unsupported _) (.inl rfl)).congr fun d _ => by
      simp only [toCode]
      rfl

theorem listWords_uniform : (es : List Expr) → (¬loose → areFilled es = true) →
    Uniform loose scope fun d => d.listWords scope es.length es
  | [], _ => (Uniform.fixed []).congr fun d _ => by simp [listWords]
  | e :: es, hfilled => by
    simp only [areFilled, Bool.and_eq_true, imp_and] at hfilled
    have he := toCode_uniform e hfilled.1
    have hes := listWords_uniform es hfilled.2
    cases es with
    | nil =>
      refine he.congr fun d _ => ?_
      simp only [List.length_cons, List.length_nil, listWords]
      cases d.toCode scope e <;> simp [bind, Except.bind]
    | cons e' es =>
      refine (he.around (.fixed [", "]) hes []).congr fun d _ => ?_
      simp only [List.length_cons]
      rw [listWords]
      cases d.toCode scope e <;> simp [bind, Except.bind]

theorem boolWords_uniform (op : BoolOp) : (es : List Expr) → (¬loose → areFilled es = true) →
    Uniform loose scope fun d => d.boolWords scope (d.boolWord op) es
  | [], _ => (Uniform.fixed []).congr fun d _ => by rw [boolWords]
  | e :: es, hfilled => by
    simp only [areFilled, Bool.and_eq_true, imp_and] at hfilled
    have he := toCode_uniform e hfilled.1
    have hes := boolWords_uniform op es hfilled.2
    have hword : Uniform loose scope fun d => .ok [d.boolWord op] :=
      .of_spells [.junction op] fun d _ => .cons List.mem_cons_self .nil
    cases es with
    | nil =>
      refine he.congr fun d _ => ?_
      simp only [boolWords]
      cases d.toCode scope e <;> simp [bind, Except.bind]
    | cons e' es =>
      refine ((he.append hword).append hes).congr fun d _ => ?_
      rw [boolWords]
      cases d.toCode scope e <;> simp [bind, Except.bind]

end

theorem valueWords_uniform (e : Option Expr) (hfilled : ¬loose → e.all Expr.isFilled = true) :
    Uniform loose scope fun d => d.valueWords scope e := by
  cases e with
  | some e => exact toCode_uniform scope e (by simpa using hfilled)
  | none => exact .of_fault _ (.inl rfl)

end Dialect

/-- The languages that share one translation. -/
def Target.corresponding : List Target := [.java, .javascript, .php, .python]

theorem Target.dialect_mem_corresponding {t : Target} (ht : t ∈ Target.corresponding) :
    t.dialect ∈ Dialect.corresponding := by
  simp only [Target.corresponding, List.mem_cons, List.not_mem_nil, or_false] at ht
  rcases ht with rfl | rfl | rfl | rfl <;> decide

/-- The words of a value in the language of a generator. -/
def Generator.toCode (g : Generator) (c : Chart) (e : Option Expr) : Except Fault (List String) :=
  (g.codeSettings c).dialect.valueWords (g.codeSettings c).scope e

end TaxFlow
