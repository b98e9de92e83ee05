import TaxFlow.Text.CodeRange

/-!
# Characters and names of documents

Which characters a document may hold, and names as they are written and as they are understood.
-/
namespace TaxFlow.Markup

def isDocumentChar (c : Char) : Bool :=
  let n := c.toNat
  n == 0x09 || n == 0x0A || n == 0x0D || (0x20 ≤ n && n ≤ 0xFFFD) || 0x10000 ≤ n

def isSpace (c : Char) : Bool := c == ' ' || c == '\t' || c == '\n' || c == '\r'

def nameStartRanges : Array (Nat × Nat) :=
  #[(0x41, 0x5A), (0x5F, 0x5F), (0x61, 0x7A), (0xC0, 0xD6), (0xD8, 0xF6), (0xF8, 0x2FF),
    (0x370, 0x37D), (0x37F, 0x1FFF), (0x200C, 0x200D), (0x2070, 0x218F), (0x2C00, 0x2FEF),
    (0x3001, 0xD7FF), (0xF900, 0xFDCF), (0xFDF0, 0xFFFD), (0x10000, 0xEFFFF)]

/-- Characters that may only follow in a name. -/
def namePartRanges : Array (Nat × Nat) :=
  #[(0x2D, 0x2E), (0x30, 0x39), (0xB7, 0xB7), (0x300, 0x36F), (0x203F, 0x2040)]

def isNameStart (c : Char) : Bool := Text.inRanges nameStartRanges c.toNat

def isNamePart (c : Char) : Bool := isNameStart c || Text.inRanges namePartRanges c.toNat

/-- A name as it is written, with the qualifier before its colon. -/
structure WrittenName where
  qualifier : Option String
  base : String
  deriving DecidableEq, Repr

structure Name where
  space : Option String
  base : String
  deriving DecidableEq, Repr

/-- A name outside of all namespaces. -/
def Name.plain (base : String) : Name := ⟨none, base⟩

def simpleName? : List Char → Option (String × List Char)
  | [] => none
  | c :: cs =>
    if isNameStart c then some (String.ofList (c :: cs.takeWhile isNamePart),
      cs.dropWhile isNamePart)
    else none

/-- A name with at most one colon at the beginning of the text. -/
def writtenName? (cs : List Char) : Option (WrittenName × List Char) := do
  let (first, rest) ← simpleName? cs
  match rest with
  | ':' :: rest =>
    let (second, rest) ← simpleName? rest
    if rest.head? = some ':' then none else some (⟨some first, second⟩, rest)
  | rest => some (⟨none, first⟩, rest)

theorem simpleName?_length {cs : List Char} {r : String × List Char} (h : simpleName? cs = some r) :
    r.2.length < cs.length := by
  cases cs with
  | nil => simp [simpleName?] at h
  | cons c cs =>
    by_cases hc : isNameStart c
    · simp only [simpleName?, hc, if_true, Option.some.injEq] at h
      subst h
      exact Nat.lt_succ_of_le (List.dropWhile_sublist isNamePart).length_le
    · simp [simpleName?, hc] at h

theorem writtenName?_length {cs : List Char} {r : WrittenName × List Char}
    (h : writtenName? cs = some r) : r.2.length < cs.length := by
  simp only [writtenName?, Option.bind_eq_bind, Option.bind_eq_some_iff] at h
  obtain ⟨⟨first, rest⟩, hfirst, h⟩ := h
  have hlt := simpleName?_length hfirst
  split at h
  · obtain ⟨⟨second, after⟩, hsecond, h⟩ := Option.bind_eq_some_iff.1 h
    have hlt' := simpleName?_length hsecond
    split at h
    · simp at h
    · cases h
      simp_all
      omega
  · cases h
    exact hlt

end TaxFlow.Markup
