import Mathlib.Logic.Relation
import TaxFlow.Proofs.Omissions

/-!
# Calls of a support library

Where members stand for functions of a support library, the last word of its callee decides how a
call is written, and behind two of the words arguments would be cut off. Neither of them is a word
of any formula whose variables have an owner, so that every call is written with all of its
arguments, however deep it stands.
-/
namespace TaxFlow

open Formula

namespace Number

/-- Whether no capital letter is in a text. -/
def IsUncapitalized (s : String) : Prop := ∀ c ∈ s.toList, c.isUpper = false

theorem isUncapitalized_append {s t : String} (hs : IsUncapitalized s) (ht : IsUncapitalized t) :
    IsUncapitalized (s ++ t) := by
  intro c hc
  rw [String.toList_append, List.mem_append] at hc
  exact hc.elim (hs c) (ht c)

theorem isUncapitalized_ofList {cs : List Char} (h : ∀ c ∈ cs, c.isUpper = false) :
    IsUncapitalized (.ofList cs) := by
  rwa [IsUncapitalized, String.toList_ofList]

theorem isUncapitalized_repr (n : Nat) : IsUncapitalized n.repr := by
  intro c hc
  rw [Nat.repr, String.toList_ofList] at hc
  have hdigit := Nat.isDigit_of_mem_toDigits (by decide) (by decide) hc
  simp only [Char.isDigit, Bool.and_eq_true, decide_eq_true_eq] at hdigit
  rw [Bool.eq_false_iff]
  intro hupper
  have hletter : 'A'.val ≤ c.val ∧ c.val ≤ 'Z'.val := of_decide_eq_true hupper
  exact absurd (UInt32.le_trans hletter.1 hdigit.2) (by decide)

theorem Scientific.isUncapitalized_text (pointed : Bool) (s : Scientific) :
    IsUncapitalized (s.text pointed) := by
  have hdigits := isUncapitalized_repr s.digits
  have hzeros : ∀ n, ∀ c ∈ List.replicate n '0', c.isUpper = false := by
    intro n c hc
    rw [(List.mem_replicate.1 hc).2]
    decide
  simp only [Scientific.text]
  split
  · split
    · apply isUncapitalized_append (by simp [IsUncapitalized]) (isUncapitalized_ofList _)
      exact List.forall_mem_append.2 ⟨hzeros _, hdigits⟩
    · split
      · apply isUncapitalized_append (isUncapitalized_ofList _)
        · split <;> simp [IsUncapitalized]
        · exact List.forall_mem_append.2 ⟨hdigits, hzeros _⟩
      · apply isUncapitalized_append
        · apply isUncapitalized_append _ (by simp [IsUncapitalized])
          exact isUncapitalized_ofList fun c hc => hdigits c (List.mem_of_mem_take hc)
        · exact isUncapitalized_ofList fun c hc => hdigits c (List.mem_of_mem_drop hc)
  · have hpower :=
      isUncapitalized_repr ((s.digits.repr.toList.length : Int) + s.exponent - 1).natAbs
    apply isUncapitalized_append
    · apply isUncapitalized_append
      · apply isUncapitalized_append _ (by simp [IsUncapitalized])
        split
        · next d hd =>
          intro c hc
          apply hdigits c
          simpa [hd] using hc
        · next d rest hd =>
          intro c hc
          simp only [String.toList_ofList, List.mem_cons] at hc
          rcases hc with rfl | rfl | hc
          · exact hdigits c (by simp [hd])
          · decide
          · exact hdigits c (by simp [hd, hc])
        · simp [IsUncapitalized]
      · split <;> simp [IsUncapitalized]
    · split
      · exact isUncapitalized_append (by simp [IsUncapitalized]) hpower
      · exact hpower

theorem Binary64.isUncapitalized_text (pointed : Bool) (x : Binary64) :
    IsUncapitalized (x.text pointed) := by
  cases x with
  | finite negative m e =>
    have hsign : IsUncapitalized (if negative then "-" else "") := by
      split <;> simp [IsUncapitalized]
    simp only [Binary64.text]
    split
    · apply isUncapitalized_append hsign
      split <;> simp [IsUncapitalized]
    · exact isUncapitalized_append hsign (Scientific.isUncapitalized_text pointed _)
  | infinite negative => cases negative <;> simp [Binary64.text, IsUncapitalized]
  | nan => simp [Binary64.text, IsUncapitalized]

end Number

namespace Formula

/-- The parts of an expression that are written with it where members stand for functions of a
library. -/
def Expr.libraryParts : Expr → List Expr
  | .member e m =>
    match Dialect.libraryMembers.lookup m with
    | some (.method _) => [e]
    | _ => []
  | .subscript e i => e :: i.indexPart?.toList
  | .call f args _ => f :: args
  | .binary _ a b | .compare a _ b _ => [a, b]
  | .unary _ e => [e]
  | .bool _ es | .list es => es
  | _ => []

/-- Whether an expression is visited while another one is written. -/
def Expr.Visits : Expr → Expr → Prop := Relation.ReflTransGen fun e part => part ∈ e.libraryParts

end Formula

namespace Dialect

/-- The dialect of the support library for variables of an owner. -/
def ownedGolang (owner : String) : Dialect := { golang with owner := some owner }

/-- The words behind which a call loses arguments. -/
def cutWords : List String := ["Round", "Div"]

/-- No word is one behind which a call loses arguments. -/
def Uncut (ws : List String) : Prop := ∀ w ∈ ws, w ∉ cutWords

theorem uncut_singleton {w : String} (h : w ∉ cutWords) : Uncut [w] := by
  simpa [Uncut] using h

theorem Uncut.append {ws vs : List String} (h : Uncut ws) (h' : Uncut vs) : Uncut (ws ++ vs) :=
  List.forall_mem_append.2 ⟨h, h'⟩

/-- Words with another one between them. -/
theorem Uncut.between {ws vs : List String} {w : String} (h : Uncut ws) (hw : w ∉ cutWords)
    (h' : Uncut vs) :
    Uncut (ws ++ [w] ++ vs) :=
  (h.append (uncut_singleton hw)).append h'

theorem notMem_cutWords_of_isUncapitalized {w : String} (h : Number.IsUncapitalized w) :
    w ∉ cutWords := by
  intro hw
  simp only [cutWords, List.mem_cons, List.not_mem_nil, or_false] at hw
  rcases hw with rfl | rfl
  · exact absurd (h 'R' (by decide)) (by decide)
  · exact absurd (h 'D' (by decide)) (by decide)

theorem integerText_isUncapitalized {n : Nat} {w : String} (h : integerText n = .ok w) :
    Number.IsUncapitalized w := by
  unfold integerText at h
  split at h
  · cases h
    exact Number.isUncapitalized_repr n
  · cases h

theorem constantWord_uncut {k : Constant} {w : String} (h : constantWord k = .ok w) :
    w ∉ cutWords := by
  apply notMem_cutWords_of_isUncapitalized
  cases k with
  | int n =>
    simp only [constantWord, Constant.isNumber, if_true, Constant.plainText] at h
    exact integerText_isUncapitalized h
  | float x =>
    cases h
    exact x.isUncapitalized_text true
  | negative n =>
    simp only [constantWord, Constant.isNumber, if_true, Constant.plainText] at h
    obtain ⟨text, htext, h⟩ := bind_eq_ok h
    cases h
    exact Number.isUncapitalized_append (by simp [Number.IsUncapitalized])
      (integerText_isUncapitalized htext)
  | imaginary x =>
    cases h
    exact Number.isUncapitalized_append (x.isUncapitalized_text false)
      (by simp [Number.IsUncapitalized])
  | complex x y =>
    cases h
    have hmark : Number.IsUncapitalized (if (y.text false).startsWith "-" then "" else "+") := by
      split <;> simp [Number.IsUncapitalized]
    have hx := Number.isUncapitalized_append (s := "(") (by simp [Number.IsUncapitalized])
      (x.isUncapitalized_text false)
    have hxy :=
      Number.isUncapitalized_append (Number.isUncapitalized_append hx hmark)
        (y.isUncapitalized_text false)
    exact Number.isUncapitalized_append hxy (by simp [Number.IsUncapitalized])
  | _ => cases h

theorem binaryWord_uncut {op : BinaryOp} {w : String} (h : binaryWord op = .ok w) :
    w ∉ cutWords := by
  cases op <;> cases h <;> decide

theorem compareWord_uncut {op : CompareOp} {w : String} (h : compareWord op = .ok w) :
    w ∉ cutWords := by
  cases op <;> cases h <;> decide

theorem unaryWord_uncut (op : UnaryOp) : unaryWord op ∉ cutWords := by
  cases op <;> decide

theorem libraryMembers_uncut {name : String} {m : LibraryMember}
    (h : libraryMembers.lookup name = some m) :
    ∀ text, m = .alone text ∨ m = .method text → text ∉ cutWords := by
  obtain ⟨before, after, hmembers, -⟩ := List.lookup_eq_some_iff.1 h
  have hmem : (name, m) ∈ libraryMembers := by simp [hmembers]
  have hall : ∀ entry ∈ libraryMembers, ∀ text ∈ cutWords, entry.2 ≠ .alone text ∧
      entry.2 ≠ .method text := by decide
  intro text hm htext
  rcases hm with hm | hm
  · exact (hall _ hmem text htext).1 hm
  · exact (hall _ hmem text htext).2 hm

theorem constructorFor_mem {types : TypeTable} :
    (e : Expr) → {word : String} → constructorFor types e = .ok word →
    word ∈ ["NewFromInt", "NewFromFloat"]
  | .constant k, word, h => by cases k <;> cases h <;> decide
  | .name id, word, h => by
    simp only [constructorFor] at h
    split at h <;> cases h <;> decide
  | .call .., word, h => by
    cases h
    decide
  | .binary _ left _, word, h => constructorFor_mem left h
  | .member .., word, h | .subscript .., word, h | .unary .., word, h | .bool .., word, h
  | .compare .., word, h
  | .incomplete .., word, h | .list _, word, h | .tuple _, word, h | .set _, word, h
  | .dict _, word, h
  | .conditional .., word, h | .starred _, word, h | .slice .., word, h | .other _, word, h
  | .holder .., word, h => by cases h

/-- What stands in front of the arguments of a call: the words of its callee, of which a constructor
at the end is replaced by the one for the first argument. -/
inductive Headed (types : TypeTable) (args : List Expr) : List String → List String → Prop
  | kept {callee : List String} (h : callee.getLast? ≠ some "NewFromInt") :
      Headed types args callee callee
  | chosen {before : List String} {arg : Expr} {word : String} (harg : args.head? = some arg)
      (hword : constructorFor types arg = .ok word) :
      Headed types args (before ++ ["NewFromInt"]) (before ++ [word])

theorem Headed.uncut {types : TypeTable} {args : List Expr} {callee head : List String}
    (h : Headed types args callee head) (hcallee : Uncut callee) : Uncut head := by
  cases h with
  | kept _ => exact hcallee
  | @chosen before arg word _ hword =>
    have hconstructor : word ∉ cutWords := by
      have hmem := constructorFor_mem arg hword
      simp only [List.mem_cons, List.not_mem_nil, or_false] at hmem
      rcases hmem with rfl | rfl <;> decide
    have hbefore : Uncut before := (List.forall_mem_append.1 hcallee).1
    exact hbefore.append (uncut_singleton hconstructor)

/-- A call keeps all of its arguments unless one of the two words ends its callee. -/
theorem callShape_of_uncut {types : TypeTable} {callee : List String} {args : List Expr}
    {downward : Bool}
    {shape : CallShape} (hcallee : Uncut callee)
    (h : callShape types callee args downward = .ok shape) :
    shape.arity = args.length ∧ Headed types args callee shape.callee := by
  cases hlast : callee.getLast? with
  | none =>
    simp only [callShape, hlast] at h
    cases h
  | some last =>
    have huncut : last ∉ cutWords := hcallee last (List.mem_of_getLast? hlast)
    have hround : last ≠ "Round" := by
      rintro rfl
      exact huncut (by decide)
    have hdiv : last ≠ "Div" := by
      rintro rfl
      exact huncut (by decide)
    simp only [callShape, hlast, hround, hdiv, false_and, if_false] at h
    split at h
    next hconstructor =>
      subst hconstructor
      cases args with
      | nil => cases h
      | cons arg rest =>
        obtain ⟨word, hword, h⟩ := bind_eq_ok h
        cases h
        obtain ⟨before, rfl⟩ := List.getLast?_eq_some_iff.1 hlast
        refine ⟨rfl, ?_⟩
        rw [withLast, List.dropLast_concat]
        exact .chosen rfl hword
    next hconstructor =>
      cases h
      refine ⟨rfl, .kept ?_⟩
      rw [hlast]
      exact fun heq => hconstructor (Option.some.inj heq)

theorem toCode_library_member {d : Dialect} (hd : d.vocabulary = .mapped) {scope : Scope} (e : Expr)
    (name : String) :
    d.toCode scope (.member e name) =
      match libraryMembers.lookup name with
      | some (.alone text) => .ok [text]
      | some (.method text) => do .ok ((← d.toCode scope e) ++ [d.accessor, text])
      | none => .error (.unmappedMember name) := by
  cases hlookup : libraryMembers.lookup name with
  | none => simp [toCode, hd, hlookup]
  | some m => cases m <;> simp [toCode, hd, hlookup]

theorem toCode_library_call {d : Dialect} (hd : d.vocabulary = .mapped) {scope : Scope} (f : Expr)
    (args : List Expr) (keywords : List (Option String × Expr)) :
    d.toCode scope (.call f args keywords) = (do
      let callee ← d.toCode scope f
      let shape ← callShape scope.types callee args false
      let inner ← d.listWords scope shape.arity args
      .ok (shape.callee ++ ["("] ++ inner ++ [")"])) := by
  rw [toCode]
  simp only [hd]

section Words

variable {owner : String} {scope : Scope}

theorem mapped_ownedGolang : (ownedGolang owner).vocabulary = .mapped := rfl

theorem nameWord_uncut (howner : owner ≠ "") (id : String) :
    (ownedGolang owner).nameWord scope id ∉ cutWords := by
  have hpart : (ownedGolang owner).ownerPart = owner ++ "." := by
    simp [ownerPart, ownedGolang, golang, howner]
  simp only [nameWord, hpart]
  split
  · decide
  · split
    · simp [ownedGolang, golang, cutWords]
    · intro hmem
      have hpoint : '.' ∈ (owner ++ "." ++ id).toList := by simp [String.toList_append]
      simp only [ownedGolang, golang, Bool.false_and, Bool.false_eq_true, if_false, cutWords,
        List.mem_cons, List.not_mem_nil, or_false] at hmem
      rcases hmem with hmem | hmem <;> rw [hmem] at hpoint <;> revert hpoint <;> decide

mutual

theorem toCode_uncut (howner : owner ≠ "") : (e : Expr) → {ws : List String} →
    (ownedGolang owner).toCode scope e = .ok ws → Uncut ws
  | .name id, ws, h => by
    rw [toCode] at h
    obtain rfl := Except.ok.inj h
    exact uncut_singleton (nameWord_uncut howner id)
  | .constant k, ws, h => by
    rw [toCode] at h
    obtain ⟨w, hw, h⟩ := bind_eq_ok h
    obtain rfl := Except.ok.inj h
    exact uncut_singleton (constantWord_uncut hw)
  | .member e name, ws, h => by
    rw [toCode_library_member mapped_ownedGolang] at h
    split at h
    next text hlookup =>
      obtain rfl := Except.ok.inj h
      exact uncut_singleton (libraryMembers_uncut hlookup text (.inl rfl))
    next text hlookup =>
      obtain ⟨value, he, h⟩ := bind_eq_ok h
      obtain rfl := Except.ok.inj h
      have hpoint : Uncut [(ownedGolang owner).accessor] :=
        uncut_singleton (by simp [ownedGolang, golang, cutWords])
      exact (toCode_uncut howner e he).append
        (hpoint.append (uncut_singleton (libraryMembers_uncut hlookup text (.inr rfl))))
    next => cases h
  | .subscript e i, ws, h => by
    have hclosing : Uncut ["]"] := uncut_singleton (by decide)
    cases i with
    | constant k =>
      rw [toCode] at h
      obtain ⟨value, -, h⟩ := bind_eq_ok h
      obtain ⟨text, -, h⟩ := bind_eq_ok h
      cases h
    | member j _ | subscript j _ | starred j =>
      rw [toCode] at h
      obtain ⟨value, he, h⟩ := bind_eq_ok h
      obtain ⟨index, hj, h⟩ := bind_eq_ok h
      obtain rfl := Except.ok.inj h
      exact ((toCode_uncut howner e he).between (by decide) (toCode_uncut howner j hj)).append
        hclosing
    | holder kind value =>
      cases value with
      | none =>
        rw [toCode] at h
        obtain ⟨value, -, h⟩ := bind_eq_ok h
        cases h
      | some j =>
        rw [toCode] at h
        obtain ⟨value, he, h⟩ := bind_eq_ok h
        obtain ⟨index, hj, h⟩ := bind_eq_ok h
        obtain rfl := Except.ok.inj h
        exact ((toCode_uncut howner e he).between (by decide) (toCode_uncut howner j hj)).append
          hclosing
    | _ =>
      rw [toCode_subscript_part e rfl] at h
      obtain ⟨value, he, h⟩ := bind_eq_ok h
      obtain ⟨index, hi, h⟩ := bind_eq_ok h
      obtain rfl := Except.ok.inj h
      exact ((toCode_uncut howner e he).between (by decide) (toCode_uncut howner _ hi)).append
        hclosing
  | .call f args keywords, ws, h => by
    rw [toCode_library_call mapped_ownedGolang] at h
    obtain ⟨callee, hf, h⟩ := bind_eq_ok h
    obtain ⟨shape, hshape, h⟩ := bind_eq_ok h
    obtain ⟨inner, hargs, h⟩ := bind_eq_ok h
    obtain rfl := Except.ok.inj h
    have hcallee := toCode_uncut howner f hf
    obtain ⟨harity, hhead⟩ := callShape_of_uncut hcallee hshape
    rw [harity, listWords_eq] at hargs
    have hinner := boolWords_uncut howner (by decide) args hargs
    exact ((hhead.uncut hcallee).between (by decide) hinner).append (uncut_singleton (by decide))
  | .binary op a b, ws, h => by
    rw [toCode] at h
    obtain ⟨left, ha, h⟩ := bind_eq_ok h
    obtain ⟨word, hword, h⟩ := bind_eq_ok h
    obtain ⟨right, hb, h⟩ := bind_eq_ok h
    obtain rfl := Except.ok.inj h
    exact (toCode_uncut howner a ha).between (binaryWord_uncut hword) (toCode_uncut howner b hb)
  | .unary op e, ws, h => by
    rw [toCode] at h
    obtain ⟨inner, he, h⟩ := bind_eq_ok h
    obtain rfl := Except.ok.inj h
    exact (uncut_singleton (unaryWord_uncut op)).append (toCode_uncut howner e he)
  | .bool op es, ws, h => by
    rw [toCode] at h
    have hword : (ownedGolang owner).boolWord op ∉ cutWords := by
      cases op <;> simp [boolWord, ownedGolang, golang, cutWords]
    exact boolWords_uncut howner hword es h
  | .compare a op b more, ws, h => by
    rw [toCode] at h
    obtain ⟨left, ha, h⟩ := bind_eq_ok h
    obtain ⟨word, hword, h⟩ := bind_eq_ok h
    obtain ⟨right, hb, h⟩ := bind_eq_ok h
    obtain rfl := Except.ok.inj h
    exact (toCode_uncut howner a ha).between (compareWord_uncut hword) (toCode_uncut howner b hb)
  | .list es, ws, h => by
    rw [toCode, listWords_eq] at h
    obtain ⟨inner, hes, h⟩ := bind_eq_ok h
    obtain rfl := Except.ok.inj h
    have hopening : Uncut (ownedGolang owner).listOpening := by
      simp [Uncut, ownedGolang, golang, cutWords]
    have hclosing : (ownedGolang owner).listClosing ∉ cutWords := by
      simp [ownedGolang, golang, cutWords]
    exact (hopening.append (boolWords_uncut howner (by decide) es hes)).append
      (uncut_singleton hclosing)
  | .incomplete a op, ws, h => by
    rw [toCode] at h
    obtain ⟨left, -, h⟩ := bind_eq_ok h
    obtain ⟨word, -, h⟩ := bind_eq_ok h
    cases h
  | .tuple _, ws, h | .set _, ws, h | .dict _, ws, h | .conditional .., ws, h | .starred _, ws, h
  | .slice .., ws, h | .other _, ws, h | .holder .., ws, h => by simp [toCode] at h

theorem boolWords_uncut (howner : owner ≠ "") {word : String} (hword : word ∉ cutWords) :
    (es : List Expr) →
    {ws : List String} → (ownedGolang owner).boolWords scope word es = .ok ws → Uncut ws
  | [], ws, h => by
    rw [boolWords] at h
    obtain rfl := Except.ok.inj h
    simp [Uncut]
  | e :: es, ws, h => by
    rw [boolWords] at h
    obtain ⟨first, he, h⟩ := bind_eq_ok h
    have hfirst := toCode_uncut howner e he
    split at h
    · obtain rfl := Except.ok.inj h
      exact hfirst
    · obtain ⟨others, hes, h⟩ := bind_eq_ok h
      obtain rfl := Except.ok.inj h
      exact hfirst.between hword (boolWords_uncut howner hword es hes)

end

/-- Operands are written one by one, with the word between them. -/
theorem boolWords_intercalate {d : Dialect} {word : String} {es : List Expr} {ws : List String}
    (h : d.boolWords scope word es = .ok ws) :
    ∃ parts, List.Forall₂ (fun e part => d.toCode scope e = .ok part) es parts ∧
      ws = [word].intercalate parts := by
  induction es generalizing ws with
  | nil =>
    rw [boolWords] at h
    obtain rfl := Except.ok.inj h
    exact ⟨[], .nil, rfl⟩
  | cons e es ih =>
    rw [boolWords] at h
    obtain ⟨first, he, h⟩ := bind_eq_ok h
    cases es with
    | nil =>
      obtain rfl := Except.ok.inj h
      exact ⟨[first], .cons he .nil, by simp [List.intercalate]⟩
    | cons a es =>
      obtain ⟨others, hes, h⟩ := bind_eq_ok h
      obtain rfl := Except.ok.inj h
      obtain ⟨parts, hparts, rfl⟩ := ih hes
      refine ⟨first :: parts, .cons he hparts, ?_⟩
      cases hparts with
      | cons ha hrest => simp [List.intercalate]

/-- A call is written as the head for its callee and all of its arguments. -/
theorem toCode_call_eq (howner : owner ≠ "") {f : Expr} {args : List Expr}
    {keywords : List (Option String × Expr)}
    {ws : List String} (h : (ownedGolang owner).toCode scope (.call f args keywords) = .ok ws) :
    ∃ callee head parts, (ownedGolang owner).toCode scope f = .ok callee ∧
      Headed scope.types args callee head ∧
      List.Forall₂ (fun arg part => (ownedGolang owner).toCode scope arg = .ok part) args parts ∧
      ws = head ++ ["("] ++ [", "].intercalate parts ++ [")"] := by
  rw [toCode_library_call mapped_ownedGolang] at h
  obtain ⟨callee, hf, h⟩ := bind_eq_ok h
  obtain ⟨shape, hshape, h⟩ := bind_eq_ok h
  obtain ⟨inner, hargs, h⟩ := bind_eq_ok h
  obtain rfl := Except.ok.inj h
  obtain ⟨harity, hhead⟩ := callShape_of_uncut (toCode_uncut howner f hf) hshape
  rw [harity, listWords_eq] at hargs
  obtain ⟨parts, hparts, rfl⟩ := boolWords_intercalate hargs
  exact ⟨callee, shape.callee, parts, hf, hhead, hparts, rfl⟩

end Words

/-- Whatever of the inner words ends with a closing parenthesis stands in the outer words, too. A
callee need not stand there as a whole, since its constructor may be replaced. -/
def Keeps (outer inner : List String) : Prop :=
  ∀ piece, piece ++ [")"] <:+: inner → piece ++ [")"] <:+: outer

theorem keeps_of_isInfix {outer inner : List String} (h : inner <:+: outer) : Keeps outer inner :=
  fun _ hpiece => hpiece.trans h

theorem Keeps.trans {outer middle inner : List String} (h : Keeps outer middle)
    (h' : Keeps middle inner) :
    Keeps outer inner :=
  fun piece hpiece => h piece (h' piece hpiece)

/-- A replaced constructor ends no call. -/
theorem Headed.keeps {types : TypeTable} {args : List Expr} {callee head : List String}
    (h : Headed types args callee head) : Keeps head callee := by
  cases h with
  | kept _ => exact keeps_of_isInfix List.infix_rfl
  | @chosen before arg word _ _ =>
    intro piece hpiece
    rcases List.infix_concat_iff.1 hpiece with hsuffix | hstands
    · obtain ⟨front, hfront⟩ := hsuffix
      rw [← List.append_assoc] at hfront
      exact absurd (List.append_inj_right' hfront rfl) (by decide)
    · exact hstands.trans (List.prefix_append before [word]).isInfix

section Words

variable {owner : String} {scope : Scope}

/-- Each of several operands stands in their words. -/
theorem infix_intercalate {d : Dialect} (word : String) {es : List Expr}
    {parts : List (List String)}
    (h : List.Forall₂ (fun e part => d.toCode scope e = .ok part) es parts) {e : Expr}
    (he : e ∈ es) :
    ∃ part, d.toCode scope e = .ok part ∧ part <:+: [word].intercalate parts := by
  induction h with
  | nil => cases he
  | @cons a first es rest hfirst hrest ih =>
    rcases List.mem_cons.1 he with rfl | he
    · refine ⟨first, hfirst, ?_⟩
      cases hrest with
      | nil => simp
      | cons _ _ =>
        rw [List.intercalate_cons_cons, List.append_assoc]
        exact (List.prefix_append _ _).isInfix
    · obtain ⟨part, hpart, hstands⟩ := ih he
      refine ⟨part, hpart, ?_⟩
      cases hrest with
      | nil => cases he
      | cons _ _ =>
        rw [List.intercalate_cons_cons]
        exact hstands.trans (List.suffix_append _ _).isInfix

theorem keeps_operand {d : Dialect} {a b part : Expr} {left right : List String} {word : String}
    (ha : d.toCode scope a = .ok left) (hb : d.toCode scope b = .ok right) (hpart : part ∈ [a, b]) :
    ∃ inner, d.toCode scope part = .ok inner ∧ Keeps (left ++ [word] ++ right) inner := by
  simp only [List.mem_cons, List.not_mem_nil, or_false] at hpart
  rcases hpart with rfl | rfl
  · refine ⟨left, ha, keeps_of_isInfix ?_⟩
    rw [List.append_assoc]
    exact (List.prefix_append _ _).isInfix
  · exact ⟨right, hb, keeps_of_isInfix (List.suffix_append _ _).isInfix⟩

/-- One step: a part has words, and the calls in them stand in the words of the whole. -/
theorem toCode_part (howner : owner ≠ "") {e part : Expr} {ws : List String}
    (h : (ownedGolang owner).toCode scope e = .ok ws) (hpart : part ∈ e.libraryParts) :
    ∃ inner, (ownedGolang owner).toCode scope part = .ok inner ∧ Keeps ws inner := by
  cases e with
  | member e name =>
    rw [toCode_library_member mapped_ownedGolang] at h
    simp only [Expr.libraryParts] at hpart
    split at hpart
    next text hlookup =>
      simp only [hlookup] at h
      obtain ⟨value, he, h⟩ := bind_eq_ok h
      obtain rfl := Except.ok.inj h
      obtain rfl := List.mem_singleton.1 hpart
      exact ⟨value, he, keeps_of_isInfix (List.prefix_append _ _).isInfix⟩
    next => cases hpart
  | subscript e i =>
    cases hindex : i.indexPart? with
    | none =>
      obtain ⟨value, lost, he, rfl, -⟩ := toCode_subscript_append h
      simp only [Expr.libraryParts, hindex, Option.toList_none, List.mem_singleton] at hpart
      subst hpart
      exact ⟨value, he, keeps_of_isInfix (List.prefix_append _ _).isInfix⟩
    | some j =>
      rw [toCode_subscript_part e hindex] at h
      obtain ⟨value, he, h⟩ := bind_eq_ok h
      obtain ⟨index, hj, h⟩ := bind_eq_ok h
      obtain rfl := Except.ok.inj h
      simp only [Expr.libraryParts, hindex, Option.toList_some, List.mem_cons, List.not_mem_nil,
        or_false] at hpart
      rcases hpart with rfl | rfl
      · refine ⟨value, he, keeps_of_isInfix ?_⟩
        rw [subscriptWords, List.append_assoc, List.append_assoc]
        exact (List.prefix_append _ _).isInfix
      · exact ⟨index, hj, keeps_of_isInfix (List.infix_append (value ++ ["["]) index ["]"])⟩
  | call f args keywords =>
    obtain ⟨callee, head, parts, hf, hhead, hparts, rfl⟩ := toCode_call_eq howner h
    rcases List.mem_cons.1 hpart with rfl | hpart
    · refine ⟨callee, hf, Keeps.trans (keeps_of_isInfix ?_) hhead.keeps⟩
      rw [List.append_assoc, List.append_assoc]
      exact (List.prefix_append _ _).isInfix
    · obtain ⟨inner, hinner, hstands⟩ := infix_intercalate ", " hparts hpart
      exact ⟨inner, hinner,
        keeps_of_isInfix (hstands.trans (List.infix_append (head ++ ["("]) _ [")"]))⟩
  | binary op a b =>
    rw [toCode] at h
    obtain ⟨left, ha, h⟩ := bind_eq_ok h
    obtain ⟨word, hword, h⟩ := bind_eq_ok h
    obtain ⟨right, hb, h⟩ := bind_eq_ok h
    obtain rfl := Except.ok.inj h
    exact keeps_operand ha hb hpart
  | unary op e =>
    rw [toCode] at h
    obtain ⟨inner, he, h⟩ := bind_eq_ok h
    obtain rfl := Except.ok.inj h
    obtain rfl := List.mem_singleton.1 hpart
    exact ⟨inner, he, keeps_of_isInfix (List.suffix_cons _ _).isInfix⟩
  | bool op es =>
    rw [toCode] at h
    obtain ⟨parts, hparts, rfl⟩ := boolWords_intercalate h
    obtain ⟨inner, hinner, hstands⟩ := infix_intercalate _ hparts hpart
    exact ⟨inner, hinner, keeps_of_isInfix hstands⟩
  | compare a op b more =>
    rw [toCode] at h
    obtain ⟨left, ha, h⟩ := bind_eq_ok h
    obtain ⟨word, hword, h⟩ := bind_eq_ok h
    obtain ⟨right, hb, h⟩ := bind_eq_ok h
    obtain rfl := Except.ok.inj h
    exact keeps_operand ha hb hpart
  | list es =>
    rw [toCode, listWords_eq] at h
    obtain ⟨all, hes, h⟩ := bind_eq_ok h
    obtain rfl := Except.ok.inj h
    obtain ⟨parts, hparts, rfl⟩ := boolWords_intercalate hes
    obtain ⟨inner, hinner, hstands⟩ := infix_intercalate ", " hparts hpart
    exact ⟨inner, hinner, keeps_of_isInfix (hstands.trans (List.infix_append _ _ _))⟩
  | _ => cases hpart

/-- A whole run: every expression that is visited has words, and the calls in them stand in the
words of the whole. -/
theorem toCode_visited (howner : owner ≠ "") {e part : Expr} {ws : List String}
    (h : (ownedGolang owner).toCode scope e = .ok ws) (hvisits : e.Visits part) :
    ∃ inner, (ownedGolang owner).toCode scope part = .ok inner ∧ Keeps ws inner := by
  induction hvisits with
  | refl => exact ⟨ws, h, keeps_of_isInfix List.infix_rfl⟩
  | tail _ hstep ih =>
    obtain ⟨middle, hmiddle, houter⟩ := ih
    obtain ⟨inner, hinner, hkeeps⟩ := toCode_part howner hmiddle hstep
    exact ⟨inner, hinner, houter.trans hkeeps⟩

end Words

end Dialect

open Dialect

/-- Every call that is visited is written with all of its arguments, in order and separated by
commas, behind the words of its callee, in which no rounding or division asks for fewer. Only a
constructor at the end of the callee is replaced, by the one for the first argument. -/
theorem call_keeps_arguments {g : Generator} {owner : String} (hgolang : g.target = .golang)
    (hsome : g.owner = some owner) (howner : owner ≠ "") (c : Chart) {e : Expr} {ws : List String}
    (h : g.toCode c (some e) = .ok ws) {f : Expr} {args : List Expr}
    {keywords : List (Option String × Expr)} (hvisits : e.Visits (.call f args keywords)) :
    ∃ callee head parts,
      g.toCode c (some f) = .ok callee ∧ "Round" ∉ callee ∧ "Div" ∉ callee ∧
      Headed g.types args callee head ∧
      List.Forall₂ (fun arg part => g.toCode c (some arg) = .ok part) args parts ∧
      g.toCode c (some (.call f args keywords)) =
        .ok (head ++ ["("] ++ [", "].intercalate parts ++ [")"]) ∧
      head ++ ["("] ++ [", "].intercalate parts ++ [")"] <:+: ws := by
  have hwords : ∀ e, g.toCode c (some e) =
      (ownedGolang owner).toCode ⟨g.className, c.constantNames, g.types⟩ e := by
    intro e
    simp only [Generator.toCode, Generator.codeSettings, hgolang, hsome]
    rfl
  simp only [hwords] at h ⊢
  obtain ⟨inner, hinner, hkeeps⟩ := toCode_visited howner h hvisits
  obtain ⟨callee, head, parts, hf, hhead, hparts, rfl⟩ := toCode_call_eq howner hinner
  have huncut := toCode_uncut howner f hf
  refine ⟨callee, head, parts, hf, ?_, ?_, hhead, hparts, hinner, hkeeps _ List.infix_rfl⟩
  · exact fun hmem => huncut _ hmem (by decide)
  · exact fun hmem => huncut _ hmem (by decide)

/-- `Round(BigDecimal.valueOf(X), Y, BigDecimal.ROUND_DOWN)` -/
def roundingCall : Expr :=
  .call (.name "Round") [.call (.member (.name "BigDecimal") "valueOf") [.name "X"] [], .name "Y",
    .member (.name "BigDecimal") "ROUND_DOWN"] []

/-- A rounding inside the callee of a division keeps its three arguments. -/
theorem roundingCall_keeps_arguments :
    let g : Generator :=
      { Generator.new .golang {} bareChart with types := [(some "X", "float64")] }
    let e : Expr := .call (.member roundingCall "divide") [.name "B"] []
    let ws := ["t.Round", "(", "NewFromFloat", "(", "t.X", ")", ", ", "t.Y", ", ", "ROUND_DOWN",
      ")", ".", "Divide", "(", "t.B", ")"]
    g.target = .golang ∧ g.owner = some "t" ∧ g.toCode bareChart (some e) = .ok ws ∧
    e.Visits roundingCall ∧
      ∃ head parts, Headed g.types roundingCall.libraryParts.tail ["t.Round"] head ∧
      parts.length = 3 ∧
        head ++ ["("] ++ [", "].intercalate parts ++ [")"] <:+: ws := by
  intro g e ws
  have hwords : g.toCode bareChart (some e) = .ok ws := by rfl
  have hvisits : e.Visits roundingCall :=
    .head (b := .member roundingCall "divide") List.mem_cons_self (.single List.mem_cons_self)
  obtain ⟨callee, head, parts, hcallee, -, -, hhead, hparts, -, hstands⟩ :=
    call_keeps_arguments (g := g) rfl rfl (by decide) bareChart hwords hvisits
  obtain rfl := Except.ok.inj hcallee
  exact ⟨rfl, rfl, hwords, hvisits, head, parts, hhead, hparts.length_eq.symm, hstands⟩

end TaxFlow
