import TaxFlow.Proofs.Operands
import TaxFlow.Proofs.Renaming
import TaxFlow.Proofs.Sources
import TaxFlow.Target.Generator

/-!
# Mentions of variables

A word of a source that mentions a variable is one token, and all names are read alike. So the text
written for the source is the same for every identifier at that place, but for the references to it:
they carry the name that the identifier is read as, while declarations carry the identifier itself.
-/
namespace TaxFlow

open Formula

/-- Pieces of a written text: words that no name decides, and the names of variables and members. -/
inductive Piece where
  | text (s : String)
  /-- A variable that is assigned. -/
  | target (name : String)
  /-- A variable in a value. -/
  | reference (name : String)
  /-- A member, perhaps of the decimal class. -/
  | member (ofClass : Bool) (name : String)
  deriving DecidableEq, Repr

namespace Piece

def rename (ρ : String → String) : Piece → Piece
  | text s => text s
  | target name => target (ρ name)
  | reference name => reference (ρ name)
  | member ofClass name => member ofClass (ρ name)

/-- The variable that the piece refers to. -/
def referent : Piece → Option String
  | target name | reference name => some name
  | _ => none

/-- Whether the piece is the decimal class. -/
def isClass : Piece → Bool
  | text name | reference name | member _ name => name == "BigDecimal"
  | target _ => false

end Piece

/-- The variables that pieces refer to, in order. -/
def references (ps : List Piece) : List String := ps.filterMap Piece.referent

@[simp] theorem references_append (ps qs : List Piece) :
    references (ps ++ qs) = references ps ++ references qs :=
  List.filterMap_append

@[simp] theorem references_texts (ws : List String) : references (ws.map .text) = [] := by
  induction ws with
  | nil => rfl
  | cons w ws ih => exact ih

namespace Formula

mutual

/-- The variables of an expression to which references are written, in order. Further links of a
comparison and arguments by name are not written, and of a member or subscript as index only the
value is. -/
def Expr.written : Expr → List String
  | .name id => [id]
  | .member e _ | .unary _ e => e.written
  | .subscript e (.member i _) | .subscript e (.subscript i _) | .subscript e (.starred i)
  | .subscript e (.holder _ (some i)) => e.written ++ i.written
  | .subscript e i => e.written ++ i.written
  | .call f args _ => f.written ++ writtenAll args
  | .binary _ a b | .compare a _ b _ => a.written ++ b.written
  | .bool _ es | .list es => writtenAll es
  | _ => []

def writtenAll : List Expr → List String
  | [] => []
  | e :: es => e.written ++ writtenAll es

end

end Formula

namespace Dialect

/-- The words of a member behind its value. -/
def memberTail (d : Dialect) (ofClass : Bool) (name : String) : List String :=
  match d.vocabulary with
  | .aliased aliases statics =>
    match aliases.lookup name with
    | some other => [d.constantAccessor, other]
    | none => if statics.contains name && ofClass then [d.constantAccessor, name]
        else [d.accessor, name]
  | _ => [d.accessor, name]

theorem memberWords_eq (d : Dialect) {value : List String} (name : String) (h : value ≠ []) :
    d.memberWords value name =
      .ok (value ++ d.memberTail (value.getLast? == some "BigDecimal") name) := by
  unfold memberWords memberTail
  cases d.vocabulary with
  | aliased aliases statics =>
    simp only
    cases aliases.lookup name with
    | some other => rfl
    | none =>
      simp only [List.getLast?_eq_some_getLast h]
      cases statics.contains name with
      | false => simp
      | true => by_cases hlast : value.getLast h = "BigDecimal" <;> simp [hlast]
  | _ => rfl

/-- What a member adds behind its value if it is written at all. -/
theorem memberWords_eq_ok {d : Dialect} {value ws : List String} {name : String}
    (h : d.memberWords value name = .ok ws) :
    ws = value ++ d.memberTail (value.getLast? == some "BigDecimal") name := by
  by_cases hvalue : value = []
  · subst hvalue
    unfold memberWords at h
    unfold memberTail
    cases hd : d.vocabulary with
    | aliased aliases statics =>
      simp only [hd] at h ⊢
      cases halias : aliases.lookup name with
      | some other => simpa [halias, eq_comm] using h
      | none =>
        cases hstatic : statics.contains name with
        | false =>
          simp only [halias, hstatic] at h ⊢
          exact (Except.ok.inj h).symm
        | true =>
          simp only [halias, hstatic] at h
          cases h
    | _ => simpa [hd, eq_comm] using h
  · rw [memberWords_eq d name hvalue] at h
    exact (Except.ok.inj h).symm

/-- The words of a piece. -/
def pieceWords (d : Dialect) (scope : Scope) : Piece → List String
  | .text s => [s]
  | .target name => [d.ownerPart ++ name]
  | .reference name => [d.nameWord scope name]
  | .member ofClass name => d.memberTail ofClass name

/-- The words of pieces, one after the other. -/
def spelling (d : Dialect) (scope : Scope) (ps : List Piece) : List String :=
  ps.flatMap (d.pieceWords scope)

@[simp] theorem spelling_append (d : Dialect) (scope : Scope) (ps qs : List Piece) :
    d.spelling scope (ps ++ qs) = d.spelling scope ps ++ d.spelling scope qs :=
  List.flatMap_append

@[simp] theorem spelling_texts (d : Dialect) (scope : Scope) (ws : List String) :
    d.spelling scope (ws.map .text) = ws := by
  induction ws with
  | nil => rfl
  | cons w ws ih => exact congrArg (w :: ·) ih

/-- Whether members are written as they are, or else their words tell when they belong to the
decimal class. -/
def Telling (d : Dialect) (scope : Scope) : Prop :=
  d.vocabulary = .kept ∨
    d.vocabulary ≠ .mapped ∧ ∀ p, ((d.pieceWords scope p).getLast? == some "BigDecimal") = p.isClass

/-- Whether a renaming keeps the decimal class. -/
def KeepsClass (ρ : String → String) : Prop := ∀ name, ρ name = "BigDecimal" ↔ name = "BigDecimal"

theorem KeepsClass.isClass_rename {ρ : String → String} (h : KeepsClass ρ) (p : Piece) :
    (p.rename ρ).isClass = p.isClass := by
  have hname : ∀ name, (ρ name == "BigDecimal") = (name == "BigDecimal") := by
    intro name
    rw [Bool.eq_iff_iff, beq_iff_eq, beq_iff_eq]
    exact h name
  cases p with
  | reference name => exact hname name
  | member ofClass name => exact hname name
  | _ => rfl

/-- Whether pieces end in the decimal class. -/
def endsInClass (ps : List Piece) : Bool := (ps.getLast?.map Piece.isClass).getD false

theorem KeepsClass.endsInClass_rename {ρ : String → String} (h : KeepsClass ρ) (ps : List Piece) :
    endsInClass (ps.map (Piece.rename ρ)) = endsInClass ps := by
  simp only [endsInClass, List.getLast?_map, Option.map_map]
  congr 2
  funext p
  exact h.isClass_rename p

theorem pieceWords_ne_nil (d : Dialect) (scope : Scope) (p : Piece) :
    d.pieceWords scope p ≠ [] := by
  cases p with
  | member ofClass name =>
    simp only [pieceWords, memberTail]
    split
    · split
      · simp
      · split <;> simp
    · simp
  | _ => simp [pieceWords]

/-- A member is a piece behind those of its value. -/
theorem Telling.memberWords {d : Dialect} {scope : Scope} (h : d.Telling scope) {ps : List Piece}
    (name : String) (hps : d.spelling scope ps ≠ []) :
    d.memberWords (d.spelling scope ps) name =
      .ok (d.spelling scope (ps ++ [.member (endsInClass ps) name])) := by
  rw [memberWords_eq d name hps, spelling_append]
  congr 2
  rcases h with hkept | ⟨-, htells⟩
  · simp [spelling, pieceWords, memberTail, hkept]
  · have hlast : ((d.spelling scope ps).getLast? == some "BigDecimal") = endsInClass ps := by
      rcases List.eq_nil_or_concat ps with rfl | ⟨qs, p, rfl⟩
      · rfl
      · rw [List.concat_eq_append, spelling_append]
        simp only [spelling, List.flatMap_cons, List.flatMap_nil, List.append_nil, endsInClass,
          List.getLast?_concat, Option.map_some, Option.getD_some, ← htells p]
        rw [List.getLast?_append, List.getLast?_eq_some_getLast (pieceWords_ne_nil d scope p),
          Option.some_or]
    rw [hlast]
    simp [spelling, pieceWords]

end Dialect

/-- Whether what is written under a renaming has a draft: pieces that refer to the given variables,
of which only the names depend on the renaming. -/
def Drafted (d : Dialect) (scope : Scope) (names : List String)
    (written : (String → String) → Except Fault (List String)) : Prop :=
  ∃ draft : Except Fault (List Piece), (∀ ps, draft = .ok ps → references ps = names) ∧
    ∀ ρ, Dialect.KeepsClass ρ → written ρ = draft.map fun ps =>
      d.spelling scope (ps.map (Piece.rename ρ))

namespace Drafted

variable {d : Dialect} {scope : Scope} {names names' : List String}
  {written written' : (String → String) → Except Fault (List String)}

theorem text (ws : Except Fault (List String)) : Drafted d scope [] fun _ => ws := by
  refine ⟨ws.map (List.map .text), ?_, ?_⟩
  · intro ps hps
    cases ws with
    | error fault => cases hps
    | ok ws =>
      obtain rfl := Except.ok.inj hps
      exact references_texts ws
  · intro ρ _
    cases ws with
    | error fault => rfl
    | ok ws =>
      have htexts : (ws.map Piece.text).map (Piece.rename ρ) = ws.map .text := by
        simp [Piece.rename]
      simp [Except.map, htexts]

theorem name (id : String) : Drafted d scope [id] fun ρ => .ok [d.nameWord scope (ρ id)] := by
  refine ⟨.ok [.reference id], ?_, fun ρ _ => rfl⟩
  intro ps hps
  obtain rfl := Except.ok.inj hps
  rfl

theorem target (id : String) : Drafted d scope [id] fun ρ => .ok [d.ownerPart ++ ρ id] := by
  refine ⟨.ok [.target id], ?_, fun ρ _ => rfl⟩
  intro ps hps
  obtain rfl := Except.ok.inj hps
  rfl

theorem append (h : Drafted d scope names written) (h' : Drafted d scope names' written') :
    Drafted d scope (names ++ names') fun ρ => (do .ok ((← written ρ) ++ (← written' ρ))) := by
  obtain ⟨draft, hnames, hdraft⟩ := h
  obtain ⟨draft', hnames', hdraft'⟩ := h'
  refine ⟨do .ok ((← draft) ++ (← draft')), ?_, ?_⟩
  · intro ps hps
    cases draft with
    | error fault => cases hps
    | ok qs =>
      cases draft' with
      | error fault => cases hps
      | ok qs' =>
        obtain rfl := Except.ok.inj hps
        rw [references_append, hnames qs rfl, hnames' qs' rfl]
  · intro ρ hρ
    simp only [hdraft ρ hρ, hdraft' ρ hρ]
    cases draft with
    | error fault => rfl
    | ok qs =>
      cases draft' with
      | error fault => rfl
      | ok qs' => simp [Except.map, bind, Except.bind]

theorem member (hd : d.Telling scope) (name : String) (h : Drafted d scope names written)
    (hne : ∀ ρ ws, written ρ = .ok ws → ws ≠ []) :
    Drafted d scope names fun ρ => (do d.memberWords (← written ρ) (ρ name)) := by
  obtain ⟨draft, hnames, hdraft⟩ := h
  refine ⟨draft.map fun ps => ps ++ [Piece.member (Dialect.endsInClass ps) name], ?_, ?_⟩
  · intro ps hps
    cases draft with
    | error fault => cases hps
    | ok qs =>
      obtain rfl := Except.ok.inj hps
      rw [references_append, hnames qs rfl]
      exact List.append_nil names
  · intro ρ hρ
    have hwritten := hdraft ρ hρ
    simp only [hwritten]
    cases draft with
    | error fault => rfl
    | ok qs =>
      have hqs := hne ρ _ hwritten
      simp only [Except.map, bind, Except.bind, hd.memberWords _ hqs, hρ.endsInClass_rename,
        List.map_append]
      rfl

theorem congr (h : Drafted d scope names written) (heq : ∀ ρ, written' ρ = written ρ) :
    Drafted d scope names written' := by
  obtain rfl : written' = written := funext heq
  exact h

/-- The words of two drafts with further ones between and behind them. -/
theorem around (h : Drafted d scope names written) (between : Except Fault (List String))
    (h' : Drafted d scope names' written') (behind : List String) :
    Drafted d scope (names ++ names') fun ρ => (do
      let left ← written ρ
      let words ← between
      let right ← written' ρ
      .ok (left ++ words ++ right ++ behind)) := by
  have hall := ((h.append (text between)).append h').append (text (.ok behind))
  rw [List.append_nil, List.append_nil] at hall
  refine hall.congr fun ρ => ?_
  cases written ρ with
  | error fault => rfl
  | ok left =>
    cases between with
    | error fault => rfl
    | ok words => cases written' ρ <;> rfl

end Drafted

namespace Dialect

variable {d : Dialect} {scope : Scope}

theorem Telling.ne_mapped (h : d.Telling scope) : d.vocabulary ≠ .mapped := by
  rcases h with h | h
  · simp [h]
  · exact h.1

theorem toCode_member (h : d.vocabulary ≠ .mapped) (e : Expr) (name : String) :
    d.toCode scope (.member e name) = (do d.memberWords (← d.toCode scope e) name) := by
  rw [toCode]
  cases hv : d.vocabulary with
  | mapped => exact absurd hv h
  | _ => rfl

theorem toCode_call (h : d.vocabulary ≠ .mapped) (f : Expr) (args : List Expr)
    (keywords : List (Option String × Expr)) :
    d.toCode scope (.call f args keywords) = (do
      let callee ← d.toCode scope f
      let inner ← d.listWords scope args.length args
      .ok (callee ++ ["("] ++ inner ++ [")"])) := by
  rw [toCode]
  cases d.toCode scope f with
  | error fault => rfl
  | ok callee =>
    cases hv : d.vocabulary with
    | mapped => exact absurd hv h
    | _ => rfl

theorem length_renameAll (ρ : String → String) (es : List Expr) :
    (renameAll ρ es).length = es.length := by
  induction es with
  | nil => rfl
  | cons e es ih => simp [renameAll, ih]

mutual

theorem isFilled_rename (ρ : String → String) : (e : Expr) → (e.rename ρ).isFilled = e.isFilled
  | .member e _ | .unary _ e | .starred e => by simp [Expr.isFilled, isFilled_rename ρ e]
  | .subscript a b | .binary _ a b | .compare a _ b _ => by
    simp [Expr.isFilled, isFilled_rename ρ a, isFilled_rename ρ b]
  | .call f args _ => by simp [Expr.isFilled, isFilled_rename ρ f, areFilled_rename ρ args]
  | .bool _ [] => by simp [Expr.isFilled]
  | .bool _ (e :: es) => by
    simp [Expr.isFilled, areFilled, isFilled_rename ρ e, areFilled_rename ρ es]
  | .list es => by simp [Expr.isFilled, areFilled_rename ρ es]
  | .holder _ none => by simp [Expr.isFilled]
  | .holder _ (some e) => by simp [Expr.isFilled, isFilled_rename ρ e]
  | .name _ | .constant _ | .incomplete .. | .tuple _ | .set _ | .dict _ | .conditional ..
  | .slice .. | .other _ => by
    simp [Expr.isFilled]

theorem areFilled_rename (ρ : String → String) :
    (es : List Expr) → areFilled (renameAll ρ es) = areFilled es
  | [] => by simp
  | e :: es => by simp [areFilled, isFilled_rename ρ e, areFilled_rename ρ es]

end

mutual

/-- The words of an expression refer to its written variables, and depend on names only there and in
members. -/
theorem toCode_drafted (hd : d.Telling scope) :
    (e : Expr) → e.isFilled = true → Drafted d scope e.written fun ρ => d.toCode scope (e.rename ρ)
  | .name id, _ => (Drafted.name id).congr fun ρ => by rw [Expr.rename, toCode]
  | .constant k, _ => (Drafted.text (do .ok [← constantWord k])).congr fun ρ => by
    rw [Expr.rename, toCode]
  | .member e name, hfilled => by
    simp only [Expr.isFilled] at hfilled
    refine ((toCode_drafted hd e hfilled).member hd name fun ρ => ?_).congr fun ρ => ?_
    · exact toCode_ne_nil _ ((isFilled_rename ρ e).trans hfilled)
    · rw [Expr.rename, toCode_member hd.ne_mapped]
  | .subscript e i, hfilled => by
    simp only [Expr.isFilled, Bool.and_eq_true] at hfilled
    have he := toCode_drafted hd e hfilled.1
    have hi := toCode_drafted hd i hfilled.2
    cases i with
    | constant k =>
      refine (he.append (.text (do .error (.unsupportedElement (← k.plainText))))).congr fun ρ => ?_
      rw [Expr.rename, Expr.rename, toCode]
      cases d.toCode scope (e.rename ρ) with
      | error fault => rfl
      | ok ws => cases k.plainText <;> rfl
    | member j _ | starred j =>
      have hj := toCode_drafted hd j (by simpa [Expr.isFilled] using hfilled.2)
      refine (he.around (.ok ["["]) hj ["]"]).congr fun ρ => ?_
      rw [Expr.rename, Expr.rename, toCode]
      rfl
    | subscript j _ =>
      simp only [Expr.isFilled, Bool.and_eq_true] at hfilled
      refine (he.around (.ok ["["]) (toCode_drafted hd j hfilled.2.1) ["]"]).congr fun ρ => ?_
      rw [Expr.rename, Expr.rename, toCode]
      rfl
    | holder kind value =>
      cases value with
      | none =>
        refine (he.append (.text (.error (.unsupportedElement "None")))).congr fun ρ => ?_
        rw [Expr.rename, Expr.rename, renameBound, toCode]
        rfl
      | some j =>
        have hj := toCode_drafted hd j (by simpa [Expr.isFilled] using hfilled.2)
        refine (he.around (.ok ["["]) hj ["]"]).congr fun ρ => ?_
        rw [Expr.rename, Expr.rename, renameBound, toCode]
        rfl
    | _ =>
      refine (he.around (.ok ["["]) hi ["]"]).congr fun ρ => ?_
      simp only [Expr.rename, toCode]
      rfl
  | .call f args keywords, hfilled => by
    simp only [Expr.isFilled, Bool.and_eq_true] at hfilled
    refine ((toCode_drafted hd f hfilled.1).around (.ok ["("])
      (listWords_drafted hd args hfilled.2) [")"]).congr
      fun ρ => ?_
    rw [Expr.rename, toCode_call hd.ne_mapped, length_renameAll]
    rfl
  | .binary op a b, hfilled => by
    simp only [Expr.isFilled, Bool.and_eq_true] at hfilled
    refine ((toCode_drafted hd a hfilled.1).around (do .ok [← binaryWord op])
      (toCode_drafted hd b hfilled.2) []).congr
      fun ρ => ?_
    rw [Expr.rename, toCode]
    cases d.toCode scope (a.rename ρ) with
    | error fault => rfl
    | ok left => cases binaryWord op <;> simp [bind, Except.bind]
  | .unary op e, hfilled => by
    have he := toCode_drafted hd e (by simpa [Expr.isFilled] using hfilled)
    refine ((Drafted.text (.ok [unaryWord op])).append he).congr fun ρ => ?_
    rw [Expr.rename, toCode]
    rfl
  | .bool op es, hfilled => by
    simp only [Expr.isFilled, Bool.and_eq_true] at hfilled
    exact (boolWords_drafted hd (d.boolWord op) es hfilled.2).congr fun ρ => by
      rw [Expr.rename, toCode]
  | .compare a op b more, hfilled => by
    simp only [Expr.isFilled, Bool.and_eq_true] at hfilled
    refine ((toCode_drafted hd a hfilled.1).around (do .ok [← compareWord op])
      (toCode_drafted hd b hfilled.2) []).congr
      fun ρ => ?_
    rw [Expr.rename, toCode]
    cases d.toCode scope (a.rename ρ) with
    | error fault => rfl
    | ok left => cases compareWord op <;> simp [bind, Except.bind]
  | .incomplete .., hfilled => by simp [Expr.isFilled] at hfilled
  | .list es, hfilled => by
    have hes := listWords_drafted hd es (by simpa [Expr.isFilled] using hfilled)
    refine ((Drafted.text (.ok d.listOpening)).around (.ok []) hes [d.listClosing]).congr
      fun ρ => ?_
    rw [Expr.rename, toCode, length_renameAll]
    cases d.listWords scope es.length (renameAll ρ es) <;> simp [bind, Except.bind]
  | .tuple _, _ | .set _, _ | .dict _, _ | .conditional .., _ | .starred _, _
  | .slice .., _ | .other _, _
  | .holder .., _ =>
    (Drafted.text (.error (unsupported _))).congr fun ρ => by
      simp only [Expr.rename, toCode]
      rfl

theorem listWords_drafted (hd : d.Telling scope) : (es : List Expr) → areFilled es = true →
    Drafted d scope (writtenAll es) fun ρ => d.listWords scope es.length (renameAll ρ es)
  | [], _ => (Drafted.text (.ok [])).congr fun ρ => by simp [listWords, renameAll]
  | e :: es, hfilled => by
    simp only [areFilled, Bool.and_eq_true] at hfilled
    have he := toCode_drafted hd e hfilled.1
    have hes := listWords_drafted hd es hfilled.2
    cases es with
    | nil =>
      refine (he.append hes).congr fun ρ => ?_
      simp only [List.length_cons, List.length_nil, renameAll, listWords]
      cases d.toCode scope (e.rename ρ) <;> simp [bind, Except.bind]
    | cons e' es =>
      refine (he.around (.ok [", "]) hes []).congr fun ρ => ?_
      simp only [List.length_cons, renameAll]
      rw [listWords]
      cases d.toCode scope (e.rename ρ) <;> simp [bind, Except.bind]

theorem boolWords_drafted (hd : d.Telling scope) (word : String) :
    (es : List Expr) → areFilled es = true →
    Drafted d scope (writtenAll es) fun ρ => d.boolWords scope word (renameAll ρ es)
  | [], _ => (Drafted.text (.ok [])).congr fun ρ => by rw [renameAll, boolWords]
  | e :: es, hfilled => by
    simp only [areFilled, Bool.and_eq_true] at hfilled
    have he := toCode_drafted hd e hfilled.1
    have hes := boolWords_drafted hd word es hfilled.2
    cases es with
    | nil =>
      refine (he.append hes).congr fun ρ => ?_
      simp only [renameAll, boolWords]
      cases d.toCode scope (e.rename ρ) <;> simp [bind, Except.bind]
    | cons e' es =>
      refine (he.around (.ok [word]) hes []).congr fun ρ => ?_
      simp only [renameAll]
      rw [boolWords]
      cases d.toCode scope (e.rename ρ) <;> simp [bind, Except.bind]

end

end Dialect

namespace Formula

/-- The variables of an assignment: its target, and those of its value. -/
def Statement.assignedNames : Statement → List String
  | .assign (.name id) _ value => id :: value.written
  | _ => []

/-- The variables of the value of a statement. -/
def Statement.valueNames : Statement → List String
  | .assign _ _ value | .augmented _ _ value | .expression value => value.written
  | .annotated _ _ value | .return value => (value.map Expr.written).getD []
  | _ => []

end Formula

namespace Dialect

variable {d : Dialect} {scope : Scope}

/-- The words of an assignment. -/
def assignmentWords (d : Dialect) (scope : Scope) (ending : String) (s : Statement) :
    Except Fault (List String) := do
  let (id, e) ← s.assignment
  .ok ([d.ownerPart ++ id] ++ [" = "] ++ (← d.toCode scope e) ++ [ending])

theorem assignmentWords_drafted (hd : d.Telling scope) (ending : String) (s : Statement)
    (hs : s.isFilled = true) :
    Drafted d scope s.assignedNames fun ρ => d.assignmentWords scope ending (s.rename ρ) := by
  cases s with
  | assign target targets value =>
    cases target with
    | name id =>
      exact (Drafted.target id).around (.ok [" = "]) (toCode_drafted hd value hs) [ending]
    | _ => exact .text (.error (.notPlainTarget _))
  | delete target targets =>
    cases target with
    | name id => exact .text (.error (.withoutValue "Delete"))
    | _ => exact .text (.error (.notPlainTarget _))
  | _ => exact .text (.error (.notAssignment _))

/-- The words of the value of a statement. -/
def askedWords (d : Dialect) (scope : Scope) (s : Statement) : Except Fault (List String) := do
  d.valueWords scope (← s.value)

theorem askedWords_drafted (hd : d.Telling scope) (s : Statement) (hs : s.isFilled = true) :
    Drafted d scope s.valueNames fun ρ => d.askedWords scope (s.rename ρ) := by
  cases s with
  | assign _ _ value | augmented _ _ value | expression value => exact toCode_drafted hd value hs
  | annotated _ _ value =>
    cases value with
    | none => exact .text (.error (.unsupportedElement "None"))
    | some value => exact toCode_drafted hd value (by simpa [Statement.isFilled] using hs)
  | «return» value =>
    cases value with
    | none => exact .text (.error (.unsupportedElement "None"))
    | some value => exact toCode_drafted hd value (by simpa [Statement.isFilled] using hs)
  | delete _ _ | plain _ => exact .text (.error (.withoutValue _))

end Dialect

namespace Formula

/-- The renaming of a mark. -/
def replacing (mark name : String) : String → String := fun x => if x = mark then name else x

theorem replacing_mark (mark name : String) : replacing mark name mark = name := if_pos rfl

theorem map_replacing {mark : String} (name : String) {ts : List Token} (h : Token.name mark ∉ ts) :
    ts.map (Token.rename (replacing mark name)) = ts := by
  refine (List.map_congr_left fun t ht => ?_).trans (List.map_id ts)
  cases t with
  | name x =>
    have hx : x ≠ mark := by
      rintro rfl
      exact h ht
    simp [Token.rename, replacing, hx]
  | _ => rfl

/-- What is read first from a source with the tokens `ts`, of which the text around a word is
given. -/
def templateOf (before after : List Char) (ts : List Token) : Except Fault Statement :=
  if (lead before ++ trail after).contains '\x00' then .error .nullCharacter
  else match statements (depthFor ts) ts with
    | none => .error .unreadableFormula
    | some [] => .error .emptyFormula
    | some (s :: _) => .ok s

variable {before after : List Char} {ts us : List Token} {id : String}

/-- A whole word is not what makes a source fail for a null character. -/
theorem Stands.contains_null (h : Stands before id.toList after) :
    (prepared (removeSizeLiteralsFrom false (before ++ id.toList ++ after))).contains '\x00' =
      (lead before ++ trail after).contains '\x00' := by
  have hword : (removeSizeLiteralsFrom false id.toList).contains '\x00' = false := by
    rw [← Bool.not_eq_true, List.contains_iff_mem]
    intro hmem
    exact absurd (h.isWordChar _ hmem) (by decide)
  simp only [h.prepared_eq, List.contains_append, hword, Bool.false_or]

/-- A source is read like the tokens with the name of the mention. -/
theorem Mention.firstStatement_eq (h : Mention before id after ts us) :
    firstStatement (some (removeSizeLiterals (String.ofList (before ++ id.toList ++ after)))) =
      templateOf before after (ts ++ .name (readName id) :: us) := by
  simp only [firstStatement_some, removeSizeLiterals, String.toList_ofList, statementsOf, readerOf,
    script?, h.tokens, h.contains_null, templateOf, Option.bind_eq_bind, Option.bind_some]
  split
  · rfl
  · cases statements (depthFor (ts ++ .name (readName id) :: us))
      (ts ++ .name (readName id) :: us) with
    | none => rfl
    | some ss => cases ss <;> rfl

/-- All names in the place of a mark are read alike. -/
theorem templateOf_replacing {mark : String} (name : String) (h : Token.name mark ∉ ts ++ us) :
    templateOf before after (ts ++ .name name :: us) =
      (templateOf before after (ts ++ .name mark :: us)).map
        (Statement.rename (replacing mark name)) := by
  have htokens : ts ++ .name name :: us =
      (ts ++ .name mark :: us).map (Token.rename (replacing mark name)) := by
    rw [List.mem_append, not_or] at h
    rw [List.map_append, List.map_cons, map_replacing name h.1, map_replacing name h.2,
      Token.rename, replacing_mark]
  have hdepth : depthFor (ts ++ .name name :: us) = depthFor (ts ++ .name mark :: us) := by
    simp [depthFor]
  rw [templateOf, templateOf, hdepth, htokens, statements_rename]
  split
  · rfl
  · cases statements (depthFor (ts ++ .name mark :: us)) (ts ++ .name mark :: us) with
    | none => rfl
    | some ss => cases ss <;> rfl

/-- Some name is neither among the tokens nor the given one. -/
theorem exists_fresh (ts : List Token) (other : String) :
    ∃ mark, Token.name mark ∉ ts ∧ mark ≠ other := by
  have hlong : ∃ n, ∀ x, Token.name x ∈ ts → x.length < n := by
    induction ts with
    | nil => exact ⟨0, by simp⟩
    | cons t ts ih =>
      obtain ⟨n, hn⟩ := ih
      cases t with
      | name x =>
        refine ⟨max n (x.length + 1), fun y hy => ?_⟩
        rcases List.mem_cons.1 hy with hyx | hy
        · obtain rfl := Token.name.inj hyx
          omega
        · have := hn y hy
          omega
      | _ => exact ⟨n, by simpa using hn⟩
  obtain ⟨n, hn⟩ := hlong
  have hlength : (String.ofList (List.replicate (n + other.length + 1) 'x')).length =
      n + other.length + 1 := by simp
  refine ⟨String.ofList (List.replicate (n + other.length + 1) 'x'), fun hmem => ?_, fun heq => ?_⟩
  · have := hn _ hmem
    omega
  · rw [heq] at hlength
    omega

end Formula

theorem Dialect.keepsClass_replacing {mark name : String} (hmark : mark ≠ "BigDecimal")
    (hname : name ≠ "BigDecimal") :
    KeepsClass (replacing mark name) := by
  intro x
  unfold replacing
  split
  next h => simp [h, hmark, hname]
  next => rfl

namespace CodeSettings

/-- Whether the settings drop size marks, assign to own variables, and tell members of the decimal
class. -/
structure IsPlain (v : CodeSettings) : Prop where
  sizes : v.statementSettings.removesSizeLiterals = true
  place : v.statementSettings.place = some v.dialect.ownerPart
  telling : v.dialect.Telling v.scope

variable {v : CodeSettings}

theorem IsPlain.assignment_eq (h : v.IsPlain) (s : String) :
    v.assignment (some s) = ((firstStatement (some (removeSizeLiterals s))).bind
      (v.dialect.assignmentWords v.scope v.statementSettings.ending)).map String.join := by
  simp only [assignment, source, h.sizes, if_true, Formula.assignment_eq, h.place,
    Dialect.assignmentWords, bind, Except.bind]
  cases firstStatement (some (removeSizeLiterals s)) with
  | error fault => rfl
  | ok s =>
    dsimp only
    cases s.assignment with
    | error fault => rfl
    | ok x =>
      dsimp only
      cases v.dialect.toCode v.scope x.2 with
      | error fault => rfl
      | ok ws => simp [Except.map, String.append_assoc]

theorem IsPlain.value_eq (h : v.IsPlain) (s : String) :
    v.value (some s) =
      ((firstStatement (some (removeSizeLiterals s))).bind (v.dialect.askedWords v.scope)).map
        String.join := by
  simp only [value, source, h.sizes, if_true, Formula.value_eq, Dialect.render, Dialect.askedWords,
    bind, Except.bind]
  cases firstStatement (some (removeSizeLiterals s)) with
  | error fault => rfl
  | ok s =>
    dsimp only
    cases s.value with
    | error fault => rfl
    | ok x =>
      dsimp only
      cases v.dialect.valueWords v.scope x <;> rfl

theorem php_isPlain (scope : Scope) : IsPlain ⟨.php, .php, scope⟩ := by
  have hplace : StatementSettings.php.place = some Dialect.php.ownerPart := by decide
  have howner : Dialect.php.ownerPart = "$this->" := by decide
  have hother : ∀ name : String, "$this->" ++ name ≠ "BigDecimal" := by
    intro name h
    have hlist := congrArg String.toList h
    rw [String.toList_append] at hlist
    cases hlist
  refine ⟨rfl, hplace, .inr ⟨Vocabulary.noConfusion, fun p => ?_⟩⟩
  cases p with
  | text s => simp [Dialect.pieceWords, Piece.isClass]
  | target name => simp [Dialect.pieceWords, Piece.isClass, howner, hother]
  | reference name =>
    simp only [Dialect.pieceWords, Piece.isClass, Dialect.nameWord, howner]
    split
    · simp_all
    · split <;> simp_all [Dialect.php]
  | member ofClass name =>
    simp only [Dialect.pieceWords, Piece.isClass, Dialect.memberTail, Dialect.php]
    split
    next other hlookup =>
      obtain ⟨_, _, haliases, -⟩ := List.lookup_eq_some_iff.1 hlookup
      have hmem : (name, other) ∈ [("ZERO", "zero()"), ("ONE", "one()"), ("TEN", "ten()")] := by
        rw [haliases]
        simp
      simp only [List.mem_cons, Prod.mk.injEq, List.not_mem_nil, or_false] at hmem
      rcases hmem with ⟨rfl, rfl⟩ | ⟨rfl, rfl⟩ | ⟨rfl, rfl⟩ <;> rfl
    next => split <;> simp

theorem python_isPlain (scope : Scope) : IsPlain ⟨.python, .python, scope⟩ := by
  have hplace : StatementSettings.python.place = some Dialect.python.ownerPart := by decide
  exact ⟨rfl, hplace, .inl rfl⟩

end CodeSettings

/-- The texts written for a source, one as an assignment and one as a value, with `mark` in place of
a mention. -/
structure Template where
  mark : String
  assigned : Except Fault (List Piece)
  asked : Except Fault (List Piece)

namespace Template

/-- Whether both texts refer to just the variables of the statement that is read with the mark
between the tokens `ts` and `us`. -/
structure Reads (t : Template) (ts us : List Token) : Prop where
  fresh : Token.name t.mark ∉ ts ++ us
  assigned : ∀ ps, t.assigned = .ok ps → ∃ s ss,
    statements (depthFor (ts ++ .name t.mark :: us)) (ts ++ .name t.mark :: us) = some (s :: ss) ∧
      references ps = s.assignedNames
  asked : ∀ ps, t.asked = .ok ps → ∃ s ss,
    statements (depthFor (ts ++ .name t.mark :: us)) (ts ++ .name t.mark :: us) = some (s :: ss) ∧
      references ps = s.valueNames

/-- A text with a name in place of the mark. -/
def text (t : Template) (v : CodeSettings) (name : String) (ps : List Piece) : String :=
  String.join (v.dialect.spelling v.scope (ps.map (Piece.rename (replacing t.mark name))))

end Template

/-- Texts of what is read first, if the texts of every statement have a draft. -/
theorem exists_draft {d : Dialect} {scope : Scope} {names : Statement → List String}
    {write : Statement → Except Fault (List String)} 
    (h : ∀ s, s.isFilled = true → Drafted d scope (names s) fun ρ => write (s.rename ρ))
    (before after : List Char) (ts : List Token) :
    ∃ draft : Except Fault (List Piece),
      (∀ ps, draft = .ok ps → ∃ s ss, statements (depthFor ts) ts = some (s :: ss) ∧
        references ps = names s) ∧
      ∀ ρ, Dialect.KeepsClass ρ →
      ((templateOf before after ts).map (Statement.rename ρ)).bind write =
        draft.map fun ps => d.spelling scope (ps.map (Piece.rename ρ)) := by
  cases hread : templateOf before after ts with
  | error fault => exact ⟨.error fault, by simp, fun _ _ => rfl⟩
  | ok s =>
    unfold templateOf at hread
    split at hread
    · cases hread
    · split at hread
      · cases hread
      · cases hread
      next s' ss hstatements =>
        obtain rfl := Except.ok.inj hread
        obtain ⟨draft, hnames, hdraft⟩ := h s' (statements_filled hstatements s' List.mem_cons_self)
        exact ⟨draft, fun ps hps => ⟨s', ss, hstatements, hnames ps hps⟩, hdraft⟩

/-- Every source with a mention has the texts of one template, with the name that the mention is
read as. -/
theorem CodeSettings.IsPlain.exists_template {v : CodeSettings} (h : v.IsPlain)
    (before after : List Char) (ts us : List Token) :
    ∃ t : Template, t.Reads ts us ∧ ∀ id : String, Mention before id after ts us →
      readName id ≠ "BigDecimal" →
      v.assignment (some (String.ofList (before ++ id.toList ++ after))) = t.assigned.map
        (t.text v (readName id)) ∧
      v.value (some (String.ofList (before ++ id.toList ++ after))) =
        t.asked.map (t.text v (readName id)) := by
  obtain ⟨mark, hfresh, hmark⟩ := exists_fresh (ts ++ us) "BigDecimal"
  obtain ⟨assigned, hassigned, hwrite⟩ := exists_draft
    (Dialect.assignmentWords_drafted h.telling v.statementSettings.ending) before after
      (ts ++ .name mark :: us)
  obtain ⟨asked, hasked, hvalue⟩ := exists_draft
    (Dialect.askedWords_drafted h.telling) before after (ts ++ .name mark :: us)
  refine ⟨⟨mark, assigned, asked⟩, ⟨hfresh, hassigned, hasked⟩, fun id hid hclass => ?_⟩
  have hkeeps := Dialect.keepsClass_replacing hmark hclass
  rw [h.assignment_eq, h.value_eq, hid.firstStatement_eq, templateOf_replacing _ hfresh,
    hwrite _ hkeeps, hvalue _ hkeeps]
  constructor
  · cases assigned <;> rfl
  · cases asked <;> rfl

/-- What stands in front of a name in a reference to it. -/
def Dialect.access (d : Dialect) (scope : Scope) (name : String) : String :=
  if d.classConstants && scope.constants.contains (some name) then
    scope.className.getD "None" ++ d.constantAccessor
  else d.ownerPart

theorem Dialect.nameWord_eq (d : Dialect) (scope : Scope) {name : String}
    (h : name ∉ ["BigDecimal", "BigDecimalConstructor"]) :
    d.nameWord scope name = d.access scope name ++ name := by
  simp only [List.mem_cons, List.not_mem_nil, or_false, not_or] at h
  rw [nameWord, if_neg h.1, if_neg h.2, access]
  split <;> rfl

namespace CodeSettings

open Chart

/-- Whether the lines that declare, initialize, get and set a variable in PHP name it `id`. -/
structure PhpNames (v : CodeSettings) (id : String) : Prop where
  declaration : ∀ x : Variable, x.name = some id →
    v.phpVariable x = v.declarationComment x.comment true ++ [.text ("private $" ++ id ++ ";")]
  initial : ∀ value, phpInitial (some id) (.ok value) =
    [.text (v.dialect.ownerPart ++ id ++ " = " ++ value ++ ";")]
  getter : ∀ x : Variable, x.name = some id →
    phpGetter x =
      [.blank, .block (.getter (some id)) ("public function get" ++ Text.capitalize id ++ "()")
      [.text ("return " ++ v.dialect.ownerPart ++ id ++ ";")]]
  setter : ∀ x : Variable, x.name = some id → ∃ value,
    phpSetter x = [.blank,
      .block (.setter (some id)) ("public function set" ++ Text.capitalize id ++ "($value)")
      [.text (v.dialect.ownerPart ++ id ++ " = " ++ value ++ ";")]]

/-- Whether the lines that initialize, get and set a variable or constant in Python name it `id`. -/
structure PythonNames (v : CodeSettings) (id : String) : Prop where
  initial : ∀ isInput, ∀ x : Variable, x.name = some id →
    v.pythonVariable isInput x = v.declarationComment x.comment true ++
      Outline.given (v.value x.default) fun s => .text (v.dialect.ownerPart ++ id ++ " = " ++ s) ::
        if isInput then [.block .branch ("if \"" ++ id ++ "\" in kwargs")
          [.text ("self.set" ++ Text.capitalize id ++ "(kwargs[\"" ++ id ++ "\"])")]] else []
  constant : ∀ k : Chart.Constant, k.name = some id → ∃ more,
    v.pythonConstant k = Outline.given (v.constantValue k) fun s => .text (id ++ " = " ++ s) :: more
  getter : ∀ x : Variable, x.name = some id →
    pythonGetter x =
      [.blank, .block (.getter (some id)) ("def get" ++ Text.capitalize id ++ "(self)")
      [.text ("return " ++ v.dialect.ownerPart ++ id)]]
  setter : ∀ x : Variable, x.name = some id → ∃ value,
    pythonSetter x =
      [.blank, .block (.setter (some id)) ("def set" ++ Text.capitalize id ++ "(self, value)")
      [.text (v.dialect.ownerPart ++ id ++ " = " ++ value)]]

theorem phpNames (scope : Scope) (id : String) : PhpNames ⟨.php, .php, scope⟩ id := by
  have howner : Dialect.php.ownerPart = "$this->" := by decide
  refine ⟨fun x hx => ?_, fun value => ?_, fun x hx => ?_, fun x hx => ?_⟩
  · rw [phpVariable, hx]
    rfl
  · rw [howner]
    rfl
  · rw [phpGetter, hx, howner]
    rfl
  · rw [phpSetter, hx, howner]
    exact ⟨_, rfl⟩

theorem pythonNames (scope : Scope) (id : String) : PythonNames ⟨.python, .python, scope⟩ id := by
  have howner : Dialect.python.ownerPart = "self." := by decide
  refine ⟨fun isInput x hx => ?_, fun k hk => ?_, fun x hx => ?_, fun x hx => ?_⟩
  · rw [pythonVariable, hx, howner]
    rfl
  · rw [pythonConstant, hk]
    exact ⟨_, rfl⟩
  · rw [pythonGetter, hx, howner]
    rfl
  · rw [pythonSetter, hx, howner]
    exact ⟨_, rfl⟩

end CodeSettings

/-- The lines of an assignment and of a condition are the same for every identifier in the place of
a mention, but for the references to it. They carry the name that it is read as, whereas the lines
of its declaration carry the identifier; an identifier of ASCII characters is read as itself just if
no digit in it has a size mark directly behind it. -/
theorem mention_carries_read_name {target : Target} (htarget : target ∈ [Target.php, .python])
    (settings : Settings) (c : Chart) (before after : List Char) (ts us : List Token) :
    let v := (Generator.new target settings c).codeSettings c
    ∃ t : Template, t.Reads ts us ∧ ∀ id : String, Mention before id after ts us →
      readName id ∉ ["BigDecimal", "BigDecimalConstructor"] →
      (∀ comment, v.step (.eval comment (some (String.ofList (before ++ id.toList ++ after)))) =
        Outline.given (t.assigned.map (t.text v (readName id))) fun s => [.line .assignment s]) ∧
      (∀ comment body,
        v.step (.condition comment (some (String.ofList (before ++ id.toList ++ after))) body) =
        Outline.given (t.asked.map (t.text v (readName id))) fun s =>
          [.block .branch (v.statementSettings.beforeCondition ++ s ++
            v.statementSettings.afterCondition) (v.body body)]) ∧
      v.dialect.nameWord v.scope (readName id) = v.dialect.access v.scope
        (readName id) ++ readName id ∧
      (target = .php → v.PhpNames id) ∧ (target = .python → v.PythonNames id) ∧
      ((∀ c ∈ id.toList, Text.isAscii c = true) → (readName id = id ↔
        id.toList.IsChain fun a b => a.isDigit = true → isSizeMark b = false)) := by
  intro v
  have hplain : v.IsPlain := by
    simp only [List.mem_cons, List.not_mem_nil, or_false] at htarget
    rcases htarget with rfl | rfl
    · exact CodeSettings.php_isPlain _
    · exact CodeSettings.python_isPlain _
  obtain ⟨t, hreads, htext⟩ := hplain.exists_template before after ts us
  refine ⟨t, hreads, fun id hid hordinary => ⟨?_, ?_, ?_, ?_, ?_, readName_eq_self_iff⟩⟩
  · intro comment
    rw [CodeSettings.step, (htext id hid fun h => hordinary (by simp [h])).1]
  · intro comment body
    rw [CodeSettings.step, (htext id hid fun h => hordinary (by simp [h])).2]
  · exact Dialect.nameWord_eq _ _ hordinary
  · rintro rfl
    exact CodeSettings.phpNames _ id
  · rintro rfl
    exact CodeSettings.pythonNames _ id

/-- A chart with an input whose name ends like a number with a size. -/
def sizedInput : Chart :=
  { name := some "Tax"
    main := ⟨none, some "MAIN", [.eval none (some "X = A1L + 3L")]⟩
    methods := []
    inputs := .ok [⟨some "A1L", some "int", some "0", none⟩]
    outputs := .ok []
    internals := .ok []
    constants := [] }

theorem sizedInput_mention : Mention "X = ".toList "A1L" " + 3L".toList [.name "X", .symbol .equals]
    [.symbol (.arith .add), .number (.int 3)] where
  name := by decide +kernel
  left := by simp [isWordChar]
  right := by simp [Lexes.EndsWord, isWordChar]
  leftApart := by decide
  rightApart := by decide
  word := by decide
  notAnd := by decide
  notOr := by decide
  read := by
    refine ⟨0, by decide +kernel, ?_⟩
    unfold Lexes
    decide +kernel

theorem sizedInput_carries_other_name :
    let v := (Generator.new .python {} sizedInput).codeSettings sizedInput
    (∃ t : Template,
      t.Reads [.name "X", .symbol .equals] [.symbol (.arith .add), .number (.int 3)] ∧
        t.assigned.map (t.text v (readName "A1L")) = .ok "self.X = self.A1 + 3") ∧
      v.dialect.nameWord v.scope (readName "A1L") = "self.A1" ∧ v.PythonNames "A1L" ∧
      readName "A1L" ≠ "A1L" := by
  intro v
  obtain ⟨t, hreads, htext⟩ :=
    mention_carries_read_name (by decide : Target.python ∈ [Target.php, .python]) {}
    sizedInput "X = ".toList " + 3L".toList [.name "X", .symbol .equals] [.symbol (.arith .add),
      .number (.int 3)]
  obtain ⟨heval, -, hword, -, hnames, hiff⟩ := htext "A1L" sizedInput_mention (by decide +kernel)
  have hsource : String.ofList ("X = ".toList ++ "A1L".toList ++ " + 3L".toList) =
      "X = A1L + 3L" := by decide
  have hgiven : ∀ {x : Except Fault String} {text : String},
      Outline.given x (fun s => [.line .assignment s]) = [.line .assignment text] →
      x = .ok text := by
    intro x text h
    cases x with
    | error fault => simp [Outline.given] at h
    | ok s => simpa [Outline.given] using h
  have hstep : v.step (.eval none (some "X = A1L + 3L")) =
      [.line .assignment "self.X = self.A1 + 3"] := by
    have hvalue : (v.assignment (some "X = A1L + 3L")).toOption = some "self.X = self.A1 + 3" := by
      decide +kernel
    rw [CodeSettings.step]
    cases hwritten : v.assignment (some "X = A1L + 3L") with
    | error fault => simp [hwritten, Except.toOption] at hvalue
    | ok text => simpa [hwritten, Except.toOption, Outline.given] using hvalue
  have hname : readName "A1L" = "A1" := by decide +kernel
  have haccess : v.dialect.access v.scope "A1" ++ "A1" = "self.A1" := by decide +kernel
  refine ⟨⟨t, hreads, ?_⟩, ?_, hnames rfl, fun h => ?_⟩
  · have hsame := heval none
    rw [hsource] at hsame
    exact hgiven (hsame.symm.trans hstep)
  · rw [hword, hname, haccess]
  · exact absurd ((hiff (List.all_eq_true.1 (by decide))).1 h) (by decide)

end TaxFlow
