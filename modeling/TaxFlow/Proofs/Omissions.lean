import Mathlib.Data.List.Perm.Subperm
import TaxFlow.Proofs.Correspondence
import TaxFlow.Proofs.RoundTrip

/-!
# Omissions

What the words of a formula leave out without a fault. A comparison is written up to its second
operand, arguments by name are not written, and every sign but a minus becomes a plus; everything
else comes in its place. Of an index that is a member or a subscript only the value is written, and
a literal is refused as an index.
-/
namespace TaxFlow

open Formula

namespace Formula

/-- The operands and operators of expressions. -/
inductive Item where
  | name (id : String)
  | number (value : Constant)
  | binary (op : BinaryOp)
  | unary (op : UnaryOp)
  | bool (op : BoolOp)
  | compare (op : CompareOp)
  deriving DecidableEq, Repr

namespace Item

def isOperand : Item → Bool
  | name _ | number _ => true
  | _ => false

/-- What is shown for an item: a minus is kept, and every other sign becomes a plus. -/
def shown : Item → Item
  | unary .minus => unary .minus
  | unary _ => unary .plus
  | i => i

@[simp] theorem isOperand_shown (i : Item) : i.shown.isOperand = i.isOperand := by
  cases i with
  | unary op => cases op <;> rfl
  | _ => rfl

@[simp] theorem shown_shown (i : Item) : i.shown.shown = i.shown := by
  cases i with
  | unary op => cases op <;> rfl
  | _ => rfl

end Item

mutual

/-- The operands and operators of an expression from left to right, as they stand in its source. -/
def Expr.items : Expr → List Item
  | .name id => [.name id]
  | .constant k => if k.isNumber then [.number k] else []
  | .member e _ => e.items
  | .subscript e i => e.items ++ i.items
  | .call f args keywords => f.items ++ itemsOf [] args ++ keywordItems keywords
  | .binary op a b => a.items ++ .binary op :: b.items
  | .unary op e => .unary op :: e.items
  | .bool op es => itemsOf [.bool op] es
  | .compare a op b more => a.items ++ .compare op :: b.items ++ linkItems more
  | .incomplete a op => a.items ++ op.toList.map .compare
  | .list es => itemsOf [] es
  | .tuple es => itemsOf [] es
  | .set es => itemsOf [] es
  | .dict entries => entryItems entries
  | .conditional test body other => body.items ++ test.items ++ other.items
  | .starred e => e.items
  | .slice lower upper step => boundItems lower ++ boundItems upper ++ boundItems step
  | .holder _ value => boundItems value
  | .other _ => []

/-- The items of expressions with others between them. -/
def itemsOf (between : List Item) : List Expr → List Item
  | [] => []
  | e :: es => e.items ++ itemsBehind between es

def itemsBehind (between : List Item) : List Expr → List Item
  | [] => []
  | e :: es => between ++ e.items ++ itemsBehind between es

def keywordItems : List (Option String × Expr) → List Item
  | [] => []
  | (_, e) :: more => e.items ++ keywordItems more

def linkItems : List (CompareOp × Expr) → List Item
  | [] => []
  | (op, e) :: more => .compare op :: e.items ++ linkItems more

def entryItems : List (Option Expr × Expr) → List Item
  | [] => []
  | (key, e) :: more => boundItems key ++ e.items ++ entryItems more

def boundItems : Option Expr → List Item
  | none => []
  | some e => e.items

end

mutual

/-- Whether no subscript stands in what is written of an expression. -/
def Expr.isUnindexed : Expr → Bool
  | .subscript .. => false
  | .member e _ | .unary _ e => e.isUnindexed
  | .call f args _ => f.isUnindexed && areUnindexed args
  | .binary _ a b | .compare a _ b _ => a.isUnindexed && b.isUnindexed
  | .bool _ es | .list es => areUnindexed es
  | _ => true

def areUnindexed : List Expr → Bool
  | [] => true
  | e :: es => e.isUnindexed && areUnindexed es

end

mutual

/-- Whether everything in an expression is written, and as what it is: comparisons have no further
links, arguments by name hold no operand or operator, and signs are only minus and plus. -/
def Expr.isComplete : Expr → Bool
  | .name _ | .constant _ => true
  | .member e _ => e.isComplete
  | .call f args keywords => f.isComplete && areComplete args && (keywordItems keywords).isEmpty
  | .binary _ a b => a.isComplete && b.isComplete
  | .unary op e => (op == .minus || op == .plus) && e.isComplete
  | .bool _ es | .list es => areComplete es
  | .compare a _ b more => a.isComplete && b.isComplete && more.isEmpty
  | e => e.items.isEmpty

def areComplete : List Expr → Bool
  | [] => true
  | e :: es => e.isComplete && areComplete es

end

end Formula

/-- What a word of a formula stands for: an operand or operator, or something around them. -/
inductive Part where
  | item (i : Item)
  | mark (role : Role)
  deriving DecidableEq, Repr

def Part.item? : Part → Option Item
  | item i => some i
  | mark _ => none

/-- The operands and operators among parts. -/
def itemsIn (ps : List Part) : List Item := ps.filterMap Part.item?

@[simp] theorem itemsIn_nil : itemsIn [] = [] := rfl

@[simp] theorem itemsIn_item (i : Item) (ps : List Part) :
    itemsIn (.item i :: ps) = i :: itemsIn ps := rfl

@[simp] theorem itemsIn_mark (role : Role) (ps : List Part) :
    itemsIn (.mark role :: ps) = itemsIn ps := rfl

@[simp] theorem itemsIn_append (ps qs : List Part) :
    itemsIn (ps ++ qs) = itemsIn ps ++ itemsIn qs :=
  List.filterMap_append

mutual

/-- The parts of an expression as it is written. -/
def Formula.Expr.parts : Expr → List Part
  | .name id => [.item (.name id)]
  | .constant k => if k.isNumber then [.item (.number k)] else []
  | .member e name => e.parts ++ [.mark .access, .mark (.ofMember name)]
  | .call f args _ => f.parts ++ .mark (.fixed "(") :: partsOf (.mark (.fixed ", ")) args ++
      [.mark (.fixed ")")]
  | .binary op a b => a.parts ++ .item (.binary op) :: b.parts
  | .unary op e => .item (Item.unary op).shown :: e.parts
  | .bool op es => partsOf (.item (.bool op)) es
  | .compare a op b _ => a.parts ++ .item (.compare op) :: b.parts
  | .list es => .mark .listOpening :: partsOf (.mark (.fixed ", ")) es ++ [.mark .listClosing]
  | _ => []

/-- The parts of expressions with another one between them. -/
def partsOf (between : Part) : List Expr → List Part
  | [] => []
  | e :: es => e.parts ++ partsBehind between es

def partsBehind (between : Part) : List Expr → List Part
  | [] => []
  | e :: es => between :: e.parts ++ partsBehind between es

end

namespace Dialect

/-- Whether a word is that of a part. Of the signs only minus and plus have a word of their own. -/
def SpellsPart (d : Dialect) (scope : Scope) : Part → String → Prop
  | .item (.name id), w => w = d.nameWord scope id
  | .item (.number k), w => constantWord k = .ok w
  | .item (.binary op), w => binaryWord op = .ok w
  | .item (.unary op), w => op = .minus ∧ w = "-" ∨ op = .plus ∧ w = "+"
  | .item (.bool op), w => w = d.boolWord op
  | .item (.compare op), w => compareWord op = .ok w
  | .mark role, w => w ∈ d.spellings scope role

theorem spellsPart_sign (d : Dialect) (scope : Scope) (op : UnaryOp) :
    d.SpellsPart scope (.item (Item.unary op).shown) (unaryWord op) := by
  cases op <;> simp [SpellsPart, Item.shown, unaryWord]

/-- The words of an expression are, one by one, those of its parts. -/
def SpellsAll (d : Dialect) (scope : Scope) : List Part → List String → Prop :=
  List.Forall₂ (d.SpellsPart scope)

section Words

variable {d : Dialect} {scope : Scope}

theorem spellsAll_single {p : Part} {w : String} (h : d.SpellsPart scope p w) :
    d.SpellsAll scope [p] [w] :=
  .cons h .nil

theorem spellsAll_marks {roles : List Role} {ws : List String} (h : d.Spells scope roles ws) :
    d.SpellsAll scope (roles.map .mark) ws := by
  rw [SpellsAll, List.forall₂_map_left_iff]
  exact h

theorem SpellsAll.append {ps qs : List Part} {ws vs : List String} (h : d.SpellsAll scope ps ws)
    (h' : d.SpellsAll scope qs vs) : d.SpellsAll scope (ps ++ qs) (ws ++ vs) :=
  List.rel_append h h'

/-- Parts with another one between them. -/
theorem SpellsAll.between {ps qs : List Part} {p : Part} {ws vs : List String} {w : String}
    (h : d.SpellsAll scope ps ws) (hp : d.SpellsPart scope p w) (h' : d.SpellsAll scope qs vs) :
    d.SpellsAll scope (ps ++ p :: qs) (ws ++ [w] ++ vs) := by
  rw [List.append_assoc]
  exact h.append (.cons hp h')

theorem spells_listOpening (hd : d ∈ corresponding) :
    ∃ w, d.listOpening = [w] ∧ d.SpellsPart scope (.mark .listOpening) w := by
  simp only [corresponding, List.mem_cons, List.not_mem_nil, or_false] at hd
  rcases hd with rfl | rfl | rfl | rfl <;> exact ⟨_, rfl, List.mem_cons_self⟩

mutual

theorem toCode_spellParts (hd : d ∈ corresponding) :
    (e : Expr) → e.isUnindexed = true → {ws : List String} →
    d.toCode scope e = .ok ws → d.SpellsAll scope e.parts ws
  | .name id, _, ws, h => by
    rw [toCode] at h
    obtain rfl := Except.ok.inj h
    exact spellsAll_single rfl
  | .constant k, _, ws, h => by
    rw [toCode] at h
    obtain ⟨w, hw, h⟩ := bind_eq_ok h
    obtain rfl := Except.ok.inj h
    have hnumber : k.isNumber = true := by
      cases hk : k.isNumber with
      | true => rfl
      | false => simp [constantWord, hk] at hw
    rw [Expr.parts, if_pos hnumber]
    exact spellsAll_single hw
  | .member e name, hflat, ws, h => by
    rw [toCode_member (ne_mapped hd)] at h
    obtain ⟨value, he, h⟩ := bind_eq_ok h
    rw [memberWords_eq_ok h, Expr.parts]
    apply (toCode_spellParts hd e (by simpa [Expr.isUnindexed] using hflat) he).append
    exact spellsAll_marks (spells_member hd scope _ name)
  | .subscript e i, hflat, ws, h => by simp [Expr.isUnindexed] at hflat
  | .call f args keywords, hflat, ws, h => by
    simp only [Expr.isUnindexed, Bool.and_eq_true] at hflat
    rw [toCode_call (ne_mapped hd), listWords_eq] at h
    obtain ⟨callee, hf, h⟩ := bind_eq_ok h
    obtain ⟨inner, hargs, h⟩ := bind_eq_ok h
    obtain rfl := Except.ok.inj h
    have hinner :=
      boolWords_spellParts hd (p := .mark (.fixed ", ")) List.mem_cons_self args hflat.2 hargs
    rw [Expr.parts]
    apply SpellsAll.append
    · exact (toCode_spellParts hd f hflat.1 hf).between List.mem_cons_self hinner
    · exact spellsAll_single List.mem_cons_self
  | .binary op a b, hflat, ws, h => by
    simp only [Expr.isUnindexed, Bool.and_eq_true] at hflat
    rw [toCode] at h
    obtain ⟨left, ha, h⟩ := bind_eq_ok h
    obtain ⟨word, hword, h⟩ := bind_eq_ok h
    obtain ⟨right, hb, h⟩ := bind_eq_ok h
    obtain rfl := Except.ok.inj h
    rw [Expr.parts]
    exact (toCode_spellParts hd a hflat.1 ha).between hword (toCode_spellParts hd b hflat.2 hb)
  | .unary op e, hflat, ws, h => by
    rw [toCode] at h
    obtain ⟨inner, he, h⟩ := bind_eq_ok h
    obtain rfl := Except.ok.inj h
    rw [Expr.parts]
    exact .cons (d.spellsPart_sign scope op)
      (toCode_spellParts hd e (by simpa [Expr.isUnindexed] using hflat) he)
  | .bool op es, hflat, ws, h => by
    rw [toCode] at h
    rw [Expr.parts]
    exact boolWords_spellParts hd (p := .item (.bool op)) rfl es
      (by simpa [Expr.isUnindexed] using hflat) h
  | .compare a op b more, hflat, ws, h => by
    simp only [Expr.isUnindexed, Bool.and_eq_true] at hflat
    rw [toCode] at h
    obtain ⟨left, ha, h⟩ := bind_eq_ok h
    obtain ⟨word, hword, h⟩ := bind_eq_ok h
    obtain ⟨right, hb, h⟩ := bind_eq_ok h
    obtain rfl := Except.ok.inj h
    rw [Expr.parts]
    exact (toCode_spellParts hd a hflat.1 ha).between hword (toCode_spellParts hd b hflat.2 hb)
  | .list es, hflat, ws, h => by
    rw [toCode, listWords_eq] at h
    obtain ⟨inner, hes, h⟩ := bind_eq_ok h
    obtain rfl := Except.ok.inj h
    obtain ⟨opening, hopening, hspells⟩ := spells_listOpening hd
    have hinner := boolWords_spellParts hd (p := .mark (.fixed ", ")) List.mem_cons_self es
      (by simpa [Expr.isUnindexed] using hflat) hes
    rw [hopening, Expr.parts]
    apply SpellsAll.append
    · exact .cons hspells hinner
    · exact spellsAll_single List.mem_cons_self
  | .incomplete a op, _, ws, h => by
    rw [toCode] at h
    obtain ⟨left, -, h⟩ := bind_eq_ok h
    obtain ⟨word, -, h⟩ := bind_eq_ok h
    cases h
  | .tuple _, _, ws, h | .set _, _, ws, h | .dict _, _, ws, h | .conditional .., _, ws, h
  | .starred _, _, ws, h
  | .slice .., _, ws, h | .holder .., _, ws, h | .other _, _, ws, h => by simp [toCode] at h

theorem boolWords_spellParts (hd : d ∈ corresponding) {p : Part} {word : String}
    (hp : d.SpellsPart scope p word) :
    (es : List Expr) → areUnindexed es = true → {ws : List String} →
      d.boolWords scope word es = .ok ws →
    d.SpellsAll scope (partsOf p es) ws
  | [], _, ws, h => by
    rw [boolWords] at h
    obtain rfl := Except.ok.inj h
    exact .nil
  | [e], hflat, ws, h => by
    simp only [areUnindexed, Bool.and_true] at hflat
    rw [boolWords] at h
    obtain ⟨first, he, h⟩ := bind_eq_ok h
    obtain rfl := Except.ok.inj h
    rw [partsOf, partsBehind, List.append_nil]
    exact toCode_spellParts hd e hflat he
  | e :: a :: es, hflat, ws, h => by
    rw [areUnindexed, Bool.and_eq_true] at hflat
    rw [boolWords] at h
    obtain ⟨first, he, h⟩ := bind_eq_ok h
    obtain ⟨rest, hes, h⟩ := bind_eq_ok h
    obtain rfl := Except.ok.inj h
    have hrest := boolWords_spellParts hd hp (a :: es) hflat.2 hes
    rw [partsOf, partsBehind]
    rw [partsOf] at hrest
    exact (toCode_spellParts hd e hflat.1 he).between hp hrest

end

end Words

end Dialect

section Items

theorem itemsIn_comma : itemsIn [.mark (.fixed ", ")] = [] := rfl

mutual

/-- What is written of an expression are some of its items, as they are shown, in their order. -/
theorem itemsIn_parts_sublist : (e : Expr) → (itemsIn e.parts).Sublist (e.items.map Item.shown)
  | .name id => by simp [Expr.parts, Expr.items, Item.shown]
  | .constant k => by
    by_cases hk : k.isNumber = true
    · simp [Expr.parts, Expr.items, Item.shown, hk]
    · simp [Expr.parts, Expr.items, hk]
  | .member e name => by simpa [Expr.parts, Expr.items] using itemsIn_parts_sublist e
  | .call f args keywords => by
    have hargs := itemsIn_partsOf_sublist (itemsIn_comma.trans List.map_nil.symm) args
    simp only [Expr.parts, Expr.items, itemsIn_append, itemsIn_mark, itemsIn_nil, List.append_nil,
      List.map_append]
    apply List.Sublist.trans ((itemsIn_parts_sublist f).append hargs)
    exact List.sublist_append_left _ _
  | .binary op a b => by
    simpa [Expr.parts, Expr.items, Item.shown] using
      (itemsIn_parts_sublist a).append ((itemsIn_parts_sublist b).cons_cons (.binary op))
  | .unary op e => by
    simpa [Expr.parts, Expr.items] using (itemsIn_parts_sublist e).cons_cons (Item.unary op).shown
  | .bool op es => by
    rw [Expr.parts, Expr.items]
    exact itemsIn_partsOf_sublist rfl es
  | .compare a op b more => by
    have hfirst :=
      (itemsIn_parts_sublist a).append ((itemsIn_parts_sublist b).cons_cons (.compare op))
    have hall := hfirst.trans (List.sublist_append_left _ ((linkItems more).map Item.shown))
    simpa [Expr.parts, Expr.items, Item.shown] using hall
  | .list es => by
    simpa [Expr.parts, Expr.items] using
      itemsIn_partsOf_sublist (itemsIn_comma.trans List.map_nil.symm) es
  | .subscript .. | .incomplete .. | .tuple _ | .set _ | .dict _ | .conditional ..
  | .starred _ | .slice ..
  | .holder .. | .other _ => by simp [Expr.parts]

theorem itemsIn_partsOf_sublist {between : List Item} {p : Part}
    (h : itemsIn [p] = between.map Item.shown) :
    (es : List Expr) → (itemsIn (partsOf p es)).Sublist ((itemsOf between es).map Item.shown)
  | [] => by simp [partsOf]
  | e :: es => by
    simpa [partsOf, itemsOf] using (itemsIn_parts_sublist e).append
      (itemsIn_partsBehind_sublist h es)

theorem itemsIn_partsBehind_sublist {between : List Item} {p : Part}
    (h : itemsIn [p] = between.map Item.shown) :
    (es : List Expr) →
      (itemsIn (partsBehind p es)).Sublist ((itemsBehind between es).map Item.shown)
  | [] => by simp [partsBehind]
  | e :: es => by
    have hrest := (itemsIn_parts_sublist e).append (itemsIn_partsBehind_sublist h es)
    rw [partsBehind, itemsBehind, ← List.singleton_append, List.append_assoc, List.append_assoc,
      itemsIn_append, List.map_append, ← h, itemsIn_append, List.map_append]
    exact hrest.append_left _

end

theorem length_itemsIn_parts_le (e : Expr) : (itemsIn e.parts).length ≤ e.items.length := by
  simpa using (itemsIn_parts_sublist e).length_le

theorem length_itemsIn_partsOf_le {between : List Item} {p : Part}
    (h : itemsIn [p] = between.map Item.shown)
    (es : List Expr) : (itemsIn (partsOf p es)).length ≤ (itemsOf between es).length := by
  simpa using (itemsIn_partsOf_sublist h es).length_le

theorem length_itemsIn_partsBehind_le {between : List Item} {p : Part}
    (h : itemsIn [p] = between.map Item.shown)
    (es : List Expr) : (itemsIn (partsBehind p es)).length ≤ (itemsBehind between es).length := by
  simpa using (itemsIn_partsBehind_sublist h es).length_le

/-- Lists that are nowhere longer are equal only part by part. -/
theorem append_eq_append_iff_of_le {xs xs' ys ys' : List Item} (hx : xs.length ≤ xs'.length)
    (hy : ys.length ≤ ys'.length) : xs ++ ys = xs' ++ ys' ↔ xs = xs' ∧ ys = ys' := by
  constructor
  · intro h
    have hlength := congrArg List.length h
    simp only [List.length_append] at hlength
    exact List.append_inj h (by omega)
  · rintro ⟨rfl, rfl⟩
    rfl

theorem append_cons_eq_iff_of_le {xs xs' ys ys' : List Item} (i : Item)
    (hx : xs.length ≤ xs'.length)
    (hy : ys.length ≤ ys'.length) : xs ++ i :: ys = xs' ++ i :: ys' ↔ xs = xs' ∧ ys = ys' := by
  rw [append_eq_append_iff_of_le hx (by simpa using hy), List.cons.injEq, eq_self, true_and]

theorem linkItems_eq_nil_iff (more : List (CompareOp × Expr)) :
    linkItems more = [] ↔ more = [] := by
  cases more with
  | nil => simp [linkItems]
  | cons link more => simp [linkItems]

mutual

/-- All items of an expression are written exactly if it is complete. -/
theorem itemsIn_parts_eq_iff : (e : Expr) → (itemsIn e.parts = e.items ↔ e.isComplete = true)
  | .name id => by simp [Expr.parts, Expr.items, Expr.isComplete]
  | .constant k => by
    by_cases hk : k.isNumber = true <;> simp [Expr.parts, Expr.items, Expr.isComplete, hk]
  | .member e name => by
    simpa [Expr.parts, Expr.items, Expr.isComplete] using itemsIn_parts_eq_iff e
  | .call f args keywords => by
    have hargs := itemsIn_partsOf_eq_iff itemsIn_comma rfl args
    have hf := length_itemsIn_parts_le f
    have hlength := length_itemsIn_partsOf_le (itemsIn_comma.trans List.map_nil.symm) args
    simp only [Expr.parts, Expr.items, Expr.isComplete, itemsIn_append, itemsIn_mark, itemsIn_nil,
      Bool.and_eq_true]
    rw [append_eq_append_iff_of_le (by simpa using Nat.add_le_add hf hlength) (Nat.zero_le _),
      append_eq_append_iff_of_le hf hlength, itemsIn_parts_eq_iff f, hargs, List.isEmpty_iff,
      @eq_comm _ []]
  | .binary op a b => by
    have ha := length_itemsIn_parts_le a
    have hb := length_itemsIn_parts_le b
    simp only [Expr.parts, Expr.items, Expr.isComplete, itemsIn_append, itemsIn_item,
      Bool.and_eq_true]
    rw [append_cons_eq_iff_of_le _ ha hb, itemsIn_parts_eq_iff a, itemsIn_parts_eq_iff b]
  | .unary op e => by
    have hop : (Item.unary op).shown = .unary op ↔ op = .minus ∨ op = .plus := by
      cases op <;> simp [Item.shown]
    simp only [Expr.parts, Expr.items, Expr.isComplete, itemsIn_item, Bool.and_eq_true,
      Bool.or_eq_true, beq_iff_eq, List.cons.injEq, hop, itemsIn_parts_eq_iff e]
  | .bool op es => by
    rw [Expr.parts, Expr.items, Expr.isComplete]
    exact itemsIn_partsOf_eq_iff rfl rfl es
  | .compare a op b more => by
    have ha := length_itemsIn_parts_le a
    have hb := length_itemsIn_parts_le b
    have hfirst : (itemsIn a.parts ++ .compare op :: itemsIn b.parts).length ≤
        (a.items ++ .compare op :: b.items).length := by
      simp only [List.length_append, List.length_cons]
      omega
    simp only [Expr.parts, Expr.items, Expr.isComplete, itemsIn_append, itemsIn_item,
      Bool.and_eq_true]
    rw [← List.append_nil (itemsIn a.parts ++ _), append_eq_append_iff_of_le hfirst (Nat.zero_le _),
      append_cons_eq_iff_of_le _ ha hb, itemsIn_parts_eq_iff a, itemsIn_parts_eq_iff b,
      List.isEmpty_iff, @eq_comm _ [],
      linkItems_eq_nil_iff]
  | .list es => by
    simpa [Expr.parts, Expr.items, Expr.isComplete] using
      itemsIn_partsOf_eq_iff itemsIn_comma rfl es
  | .subscript .. | .incomplete .. | .tuple _ | .set _ | .dict _ | .conditional ..
  | .starred _ | .slice ..
  | .holder .. | .other _ => by
    simp only [Expr.parts, Expr.isComplete, itemsIn_nil, List.isEmpty_iff]
    exact eq_comm

theorem itemsIn_partsOf_eq_iff {between : List Item} {p : Part} (hp : itemsIn [p] = between)
    (hshown : between.map Item.shown = between) :
    (es : List Expr) → (itemsIn (partsOf p es) = itemsOf between es ↔ areComplete es = true)
  | [] => by simp [partsOf, itemsOf, areComplete]
  | e :: es => by
    have hlength := length_itemsIn_partsBehind_le (hp.trans hshown.symm) es
    simp only [partsOf, itemsOf, areComplete, itemsIn_append, Bool.and_eq_true]
    rw [append_eq_append_iff_of_le (length_itemsIn_parts_le e) hlength, itemsIn_parts_eq_iff e,
      itemsIn_partsBehind_eq_iff hp hshown es]

theorem itemsIn_partsBehind_eq_iff {between : List Item} {p : Part} (hp : itemsIn [p] = between)
    (hshown : between.map Item.shown = between) :
    (es : List Expr) → (itemsIn (partsBehind p es) = itemsBehind between es ↔ areComplete es = true)
  | [] => by simp [partsBehind, itemsBehind, areComplete]
  | e :: es => by
    have hlength := length_itemsIn_partsBehind_le (hp.trans hshown.symm) es
    rw [partsBehind, itemsBehind, areComplete, ← List.singleton_append, List.append_assoc,
      List.append_assoc, itemsIn_append, hp, List.append_cancel_left_eq, itemsIn_append,
      Bool.and_eq_true,
      append_eq_append_iff_of_le (length_itemsIn_parts_le e) hlength, itemsIn_parts_eq_iff e,
      itemsIn_partsBehind_eq_iff hp hshown es]

end

/-- The names and numbers among items. -/
def operands (items : List Item) : List Item := items.filter Item.isOperand

def operators (items : List Item) : List Item := items.filter fun i => !i.isOperand

theorem length_operands_add (items : List Item) :
    (operands items).length + (operators items).length = items.length :=
  (List.length_eq_length_filter_add Item.isOperand).symm

/-- Items that are shown lose nothing as soon as they have the same operands and, in whatever order,
the operators. -/
theorem eq_of_operands_eq {written items : List Item}
    (hsublist : written.Sublist (items.map Item.shown))
    (hoperands : operands written = operands items)
    (hoperators : (operators items).Subperm (operators written)) :
    written = items := by
  have hwritten : written = items.map Item.shown := by
    apply hsublist.eq_of_length_le
    rw [List.length_map, ← length_operands_add written, ← length_operands_add items, hoperands]
    exact Nat.add_le_add_left hoperators.length_le _
  -- An operator that is shown as another one would be missing.
  have hshown : ∀ i ∈ items, i.shown = i := by
    intro i hi
    cases hkind : i.isOperand with
    | true =>
      cases i with
      | name id => rfl
      | number k => rfl
      | _ => cases hkind
    | false =>
      have hmem : i ∈ operators written :=
        hoperators.subset (List.mem_filter.2 ⟨hi, by simp [hkind]⟩)
      rw [hwritten, operators, List.mem_filter, List.mem_map] at hmem
      obtain ⟨⟨j, -, rfl⟩, -⟩ := hmem
      exact j.shown_shown
  rw [hwritten, List.map_congr_left hshown, List.map_id']

end Items

/-- Where no subscript is written, the words of an expression stand one by one for its parts, and
these lose neither an operand nor an operator exactly if no comparison has a further link, no
argument by name holds one, and every sign is a minus or a plus. Then the parts have the operands
and operators in their order. -/
theorem operands_written {t : Target} (ht : t ∈ Target.corresponding) (settings : Settings)
    (c : Chart) {e : Expr} (hunindexed : e.isUnindexed = true) {ws : List String}
    (h : (Generator.new t settings c).toCode c (some e) = .ok ws) :
    let scope := ((Generator.new t settings c).codeSettings c).scope
    List.Forall₂ (t.dialect.SpellsPart scope) e.parts ws ∧
      (operands (itemsIn e.parts) = operands e.items ∧
        (operators e.items).Subperm (operators (itemsIn e.parts)) ↔ e.isComplete = true) ∧
      (e.isComplete = true → itemsIn e.parts = e.items) := by
  intro scope
  have hcomplete := (itemsIn_parts_eq_iff e).2
  refine ⟨?_, ?_, hcomplete⟩
  · exact Dialect.toCode_spellParts (Target.dialect_mem_corresponding ht) e hunindexed h
  · constructor
    · rintro ⟨hoperands, hoperators⟩
      apply (itemsIn_parts_eq_iff e).1
      exact eq_of_operands_eq (itemsIn_parts_sublist e) hoperands hoperators
    · intro he
      rw [hcomplete he]
      exact ⟨rfl, .refl _⟩

/-- A chart that declares nothing. -/
def bareChart : Chart := ⟨some "Tax", ⟨none, some "MAIN", []⟩, [], .ok [], .ok [], .ok [], []⟩

/-- A comparison with a further link, an argument by name and a negation. -/
def leftOut : Expr :=
  .compare (.call (.name "f") [.name "A"] [(some "k", .name "B")]) .lt (.unary .not (.name "C"))
    [(.le, .name "D")]

/-- Of the operands `B` and `D` are left out, and the negation becomes a plus. -/
theorem leftOut_written :
    let ws := ["self.f", "(", "self.A", ")", " < ", "+", "self.C"]
    leftOut.isUnindexed = true ∧
    (Generator.new .python {} bareChart).toCode bareChart (some leftOut) = .ok ws ∧
      List.Forall₂ (Dialect.python.SpellsPart ⟨some "Tax", [], []⟩) leftOut.parts ws ∧
      operands (itemsIn leftOut.parts) = ["f", "A", "C"].map .name ∧
      operands leftOut.items = ["f", "A", "B", "C", "D"].map .name ∧
      operators (itemsIn leftOut.parts) = [.compare .lt, .unary .plus] ∧
      operators leftOut.items = [.compare .lt, .unary .not, .compare .le] ∧
      leftOut.isComplete = false := by
  intro ws
  have hwords : (Generator.new .python {} bareChart).toCode bareChart (some leftOut) = .ok ws := rfl
  have hspells := (operands_written (t := .python) (by decide) {} bareChart (by decide) hwords).1
  exact ⟨by decide, hwords, hspells, by decide, by decide, by decide, by decide, by decide⟩

namespace Formula

/-- What is written of an index: of a member or a subscript only its value, and of a literal
nothing. -/
def Expr.indexPart? : Expr → Option Expr
  | .constant _ => none
  | .member e _ | .subscript e _ | .starred e => some e
  | .holder _ value => value
  | e => some e

theorem Expr.indexPart?_eq_some_self {i : Expr} (h : i.isPartialIndex = false)
    (hstarred : ∀ e, i ≠ .starred e)
    (hholder : ∀ kind value, i ≠ .holder kind value) : i.indexPart? = some i := by
  cases i with
  | constant k => cases h
  | member e name => cases h
  | subscript e j => cases h
  | starred e => exact absurd rfl (hstarred e)
  | holder kind value => exact absurd rfl (hholder kind value)
  | _ => rfl

end Formula

namespace Dialect

variable {d : Dialect} {scope : Scope}

theorem toCode_subscript_part (v : Expr) {i j : Expr} (h : i.indexPart? = some j) :
    d.toCode scope (.subscript v i) =
      (do .ok (subscriptWords (← d.toCode scope v) (← d.toCode scope j))) := by
  cases i with
  | constant k => cases h
  | member e name | subscript e k | starred e =>
    cases h
    rw [toCode]
  | holder kind value =>
    obtain rfl : value = some j := h
    rw [toCode]
  | _ =>
    cases h
    simp only [toCode]

theorem toCode_subscript_ok {v i j : Expr} (h : i.indexPart? = some j) {vs inner : List String}
    (hv : d.toCode scope v = .ok vs) (hj : d.toCode scope j = .ok inner) :
    d.toCode scope (.subscript v i) = .ok (vs ++ ["["] ++ inner ++ ["]"]) := by
  rw [toCode_subscript_part v h, hv, hj]
  rfl

/-- The words of a subscript begin with those of its value. -/
theorem toCode_subscript_append {v i : Expr} {ws : List String}
    (h : d.toCode scope (.subscript v i) = .ok ws) :
    ∃ vs lost, d.toCode scope v = .ok vs ∧ ws = vs ++ lost ∧ lost ≠ [] := by
  cases hpart : i.indexPart? with
  | none =>
    cases i with
    | constant k =>
      rw [toCode] at h
      obtain ⟨vs, -, h⟩ := bind_eq_ok h
      obtain ⟨text, -, h⟩ := bind_eq_ok h
      cases h
    | holder kind value =>
      obtain rfl : value = none := hpart
      rw [toCode] at h
      obtain ⟨vs, -, h⟩ := bind_eq_ok h
      cases h
    | _ => cases hpart
  | some j =>
    rw [toCode_subscript_part v hpart] at h
    obtain ⟨vs, hv, h⟩ := bind_eq_ok h
    obtain ⟨inner, -, h⟩ := bind_eq_ok h
    obtain rfl := Except.ok.inj h
    exact ⟨vs, ["["] ++ inner ++ ["]"], hv, by simp [subscriptWords], by simp⟩

/-- The words of a member begin with those of its value. -/
theorem toCode_member_append (hd : d ∈ corresponding) {e : Expr} {name : String} {ws : List String}
    (h : d.toCode scope (.member e name) = .ok ws) :
    ∃ vs lost, d.toCode scope e = .ok vs ∧ ws = vs ++ lost ∧ lost ≠ [] := by
  rw [toCode_member (ne_mapped hd)] at h
  obtain ⟨vs, he, h⟩ := bind_eq_ok h
  exact ⟨vs, _, he, memberWords_eq_ok h, pieceWords_ne_nil d scope (.member _ name)⟩

/-- A literal as index is refused with its text. -/
theorem toCode_subscript_literal {v : Expr} {k : Constant} {vs is : List String}
    (hv : d.toCode scope v = .ok vs) (hi : d.toCode scope (.constant k) = .ok is) :
    ∃ number, is = [number] ∧
      d.toCode scope (.subscript v (.constant k)) = .error (.unsupportedElement number) := by
  rw [toCode] at hi
  obtain ⟨number, hnumber, hi⟩ := bind_eq_ok hi
  obtain rfl := Except.ok.inj hi
  refine ⟨number, rfl, ?_⟩
  have htext : k.plainText = .ok number := by
    unfold constantWord at hnumber
    split at hnumber
    · exact hnumber
    · cases hnumber
  rw [toCode, hv, htext]
  rfl

/-- An index that is a member or a subscript loses its last words. -/
theorem toCode_subscript_partial (hd : d ∈ corresponding) {v i j : Expr} {vs is : List String}
    (hpart : i.indexPart? = some j) (hpartial : i.isPartialIndex = true)
    (hv : d.toCode scope v = .ok vs) (hi : d.toCode scope i = .ok is) :
    ∃ kept lost, d.toCode scope j = .ok kept ∧ is = kept ++ lost ∧ lost ≠ [] ∧
      d.toCode scope (.subscript v i) = .ok (vs ++ ["["] ++ kept ++ ["]"]) := by
  have hkept : ∃ kept lost, d.toCode scope j = .ok kept ∧ is = kept ++ lost ∧ lost ≠ [] := by
    cases i with
    | member e name =>
      cases hpart
      exact toCode_member_append hd hi
    | subscript e k =>
      cases hpart
      exact toCode_subscript_append hi
    | constant k => cases hpart
    | _ => cases hpartial
  obtain ⟨kept, lost, hj, his, hlost⟩ := hkept
  exact ⟨kept, lost, hj, his, hlost, toCode_subscript_ok hpart hv hj⟩

end Dialect

/-- A table look-up is written with its whole index exactly if the index is no literal, member or
subscript. A literal is refused, and of a member or a subscript only the words of its value stand in
the brackets, so that the last ones are lost. -/
theorem subscript_index_kept_iff {t : Target} (ht : t ∈ Target.corresponding)
    (settings : Settings) (c : Chart)
    {v i : Expr} {vs is : List String}
    (hv : (Generator.new t settings c).toCode c (some v) = .ok vs)
    (hi : (Generator.new t settings c).toCode c (some i) = .ok is) :
    let written := (Generator.new t settings c).toCode c (some (.subscript v i))
    (written = .ok (vs ++ ["["] ++ is ++ ["]"]) ↔ i.isPartialIndex = false) ∧
      (i.indexPart? = none → ∃ number, is = [number] ∧
        written = .error (.unsupportedElement number)) ∧
      ∀ j, i.indexPart? = some j → i.isPartialIndex = true → ∃ kept lost,
        (Generator.new t settings c).toCode c (some j) = .ok kept ∧ is = kept ++ lost ∧ lost ≠ [] ∧
          written = .ok (vs ++ ["["] ++ kept ++ ["]"]) := by
  intro written
  have hd := Target.dialect_mem_corresponding ht
  have hliteral : i.indexPart? = none → ∃ number, is = [number] ∧
      written = .error (.unsupportedElement number) := by
    intro hnone
    cases i with
    | constant k => exact Dialect.toCode_subscript_literal hv hi
    | holder kind value => cases hi
    | _ => cases hnone
  have hpartial := fun j hpart hpartial =>
    Dialect.toCode_subscript_partial (j := j) hd hpart hpartial hv hi
  refine ⟨⟨?_, ?_⟩, hliteral, hpartial⟩
  · intro hwhole
    by_contra hindex
    rw [Bool.not_eq_false] at hindex
    cases hpart : i.indexPart? with
    | none =>
      obtain ⟨number, -, hrefused⟩ := hliteral hpart
      rw [hrefused] at hwhole
      cases hwhole
    | some j =>
      obtain ⟨kept, lost, -, his, hlost, hkept⟩ := hpartial j hpart hindex
      have heq := Except.ok.inj (hkept.symm.trans hwhole)
      rw [his] at heq
      exact hlost (by simpa using heq)
  · intro hindex
    have hstarred : ∀ e, i ≠ .starred e := by
      rintro e rfl
      cases hi
    have hholder : ∀ kind value, i ≠ .holder kind value := by
      rintro kind value rfl
      cases hi
    exact Dialect.toCode_subscript_ok (Expr.indexPart?_eq_some_self hindex hstarred hholder) hv hi

/-- Indices that are a member or a look-up in another table lose their ends. -/
theorem nestedLookup_index_lost :
    let words := fun e => (Generator.new .java {} bareChart).toCode bareChart (some e)
    let inner : Expr := .subscript (.name "T") (.name "I")
    words (.name "TAB") = .ok ["this.TAB"] ∧ words inner = .ok ["this.T", "[", "this.I", "]"] ∧
      words (.subscript (.name "TAB") inner) = .ok ["this.TAB", "[", "this.T", "]"] ∧
      words (.subscript (.name "TAB") inner) ≠ .ok ["this.TAB", "[", "this.T", "[", "this.I",
        "]", "]"] := by
  intro words inner
  have htable : words (.name "TAB") = .ok ["this.TAB"] := rfl
  have hinner : words inner = .ok ["this.T", "[", "this.I", "]"] := rfl
  obtain ⟨hkept, -, hpart⟩ :=
    subscript_index_kept_iff (t := .java) (by decide) {} bareChart htable hinner
  obtain ⟨kept, lost, hname, -, -, hwritten⟩ := hpart (.name "T") rfl rfl
  obtain rfl : ["this.T"] = kept := Except.ok.inj hname
  refine ⟨htable, hinner, hwritten, ?_⟩
  exact fun hwhole => absurd (hkept.1 hwhole) (by decide)

end TaxFlow
