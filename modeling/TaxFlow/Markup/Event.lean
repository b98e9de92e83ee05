import TaxFlow.Markup.Name
import TaxFlow.Text.Digit

/-!
# Events of a document

A document is read as a flat sequence of events: opening and closing tags, comments, processing
instructions and character data. References are resolved here; whether the events fit together is
decided later.
-/
namespace TaxFlow.Markup

/-- What a document consists of. Character data is `plain` if it was written without references and
outside of a literal section. -/
inductive Event where
  | open (name : WrittenName) (attributes : List (WrittenName × String))
  | close (name : WrittenName)
  | comment (text : String)
  | instruction
  | doctype
  | text (content : String) (plain : Bool)
  deriving DecidableEq, Repr

/-- The characters before the first occurrence of `stop`, and those behind it. -/
def upTo (stop : List Char) : List Char → Option (List Char × List Char)
  | [] => none
  | c :: cs =>
    if stop.isPrefixOf (c :: cs) then some ([], (c :: cs).drop stop.length)
    else (upTo stop cs).map fun (before, rest) => (c :: before, rest)

def behind (start : String) (cs : List Char) : Option (List Char) :=
  if start.toList.isPrefixOf cs then some (cs.drop start.length) else none

def skipSpace (cs : List Char) : List Char := cs.dropWhile isSpace

def behindSpace : List Char → Option (List Char)
  | [] => none
  | c :: cs => if isSpace c then some (skipSpace cs) else none

theorem upTo_length {stop cs : List Char} {r : List Char × List Char} (h : upTo stop cs = some r) :
    r.2.length ≤ cs.length := by
  fun_induction upTo stop cs generalizing r with
  | case1 => simp at h
  | case2 => cases h; simp
  | case3 _ _ _ ih =>
    obtain ⟨⟨before, rest⟩, hrest, rfl⟩ := Option.map_eq_some_iff.1 h
    have hle := ih hrest
    exact Nat.le_succ_of_le hle

theorem behind_length {start : String} {cs rest : List Char} (h : behind start cs = some rest) :
    start.length + rest.length = cs.length := by
  unfold behind at h
  split at h
  · rename_i hstart
    have hle := (List.isPrefixOf_iff_prefix.1 hstart).length_le
    cases h
    rw [String.length_toList] at hle
    rw [List.length_drop]
    omega
  · simp at h

theorem behind_length_le {start : String} {cs rest : List Char} (h : behind start cs = some rest) :
    rest.length ≤ cs.length := by
  have := behind_length h
  omega

theorem behind_length_lt {start : String} {cs rest : List Char} (h : behind start cs = some rest)
    (hs : start ≠ "") : rest.length < cs.length := by
  have := behind_length h
  have : start.length ≠ 0 := by simpa using hs
  omega

theorem skipSpace_length (cs : List Char) : (skipSpace cs).length ≤ cs.length :=
  (List.dropWhile_sublist isSpace).length_le

theorem behindSpace_length {cs rest : List Char} (h : behindSpace cs = some rest) :
    rest.length ≤ cs.length := by
  unfold behindSpace at h
  split at h
  · simp at h
  · split at h
    · cases h
      exact Nat.le_succ_of_le (skipSpace_length _)
    · simp at h

def characterOf? (base : Nat) (digits : List Char) : Option Char :=
  let n := Text.ofDigits base digits
  if digits ≠ [] ∧ n.isValidChar ∧ isDocumentChar (Char.ofNat n) then some (Char.ofNat n) else none

/-- The character that a reference stands for, without its ampersand and semicolon. -/
def referenced? : List Char → Option Char
  | '#' :: 'x' :: ds =>
    if ds.all fun d => (Text.hexValue? d).isSome then characterOf? 16 ds else none
  | '#' :: ds => if ds.all Char.isDigit then characterOf? 10 ds else none
  | name =>
    [("lt", '<'), ("gt", '>'), ("amp", '&'), ("quot", '"'), ("apos", '\'')].lookup
      (String.ofList name)

/-- The pieces of a text between its ampersands. -/
def ampersandPieces : List Char → List (List Char)
  | [] => [[]]
  | c :: cs =>
    if c = '&' then [] :: ampersandPieces cs
    else match ampersandPieces cs with
      | [] => [[c]]
      | p :: ps => (c :: p) :: ps

/-- Resolves the references of a text; `literal` tells what becomes of the characters between
them. -/
def resolved (literal : List Char → Option (List Char)) (cs : List Char) : Option (List Char) :=
  match ampersandPieces cs with
  | [] => some []
  | first :: more => do
    let first ← literal first
    let rest ← more.mapM fun piece =>
      match piece.span (· != ';') with
      | (name, _ :: tail) => do
        let c ← referenced? name
        let tail ← literal tail
        some (c :: tail)
      | (_, []) => none
    some (first ++ rest.flatten)

/-- Character data between markup does not hold the end of a literal section. -/
def dataLiteral (cs : List Char) : Option (List Char) :=
  if (upTo "]]>".toList cs).isSome then none else some cs

/-- White space in an attribute counts as blanks, and no tag may begin there. -/
def attributeLiteral (cs : List Char) : Option (List Char) :=
  if cs.contains '<' then none else some (cs.map fun c => if isSpace c then ' ' else c)

def quotedValue? (cs : List Char) : Option (List Char × List Char) := do
  let cs ← behind "=" (skipSpace cs)
  match skipSpace cs with
  | mark :: cs => if mark = '"' ∨ mark = '\'' then upTo [mark] cs else none
  | [] => none

theorem quotedValue?_length {cs : List Char} {r : List Char × List Char}
    (h : quotedValue? cs = some r) :
    r.2.length ≤ cs.length := by
  obtain ⟨rest, hrest, h⟩ := Option.bind_eq_some_iff.1 h
  have hlt := Nat.le_trans (behind_length_le hrest) (skipSpace_length cs)
  have hskip := skipSpace_length rest
  split at h
  · rename_i heq
    rw [heq] at hskip
    split at h
    · have := upTo_length h
      simp at hskip
      omega
    · simp at h
  · simp at h

/-- An attribute with its value as it is written, behind at least one space. -/
def attribute? (cs : List Char) : Option (WrittenName × List Char × List Char) := do
  let start ← behindSpace cs
  let (name, rest) ← writtenName? start
  let (raw, rest) ← quotedValue? rest
  some (name, raw, rest)

theorem attribute?_length {cs : List Char} {r : WrittenName × List Char × List Char}
    (h : attribute? cs = some r) : r.2.2.length < cs.length := by
  obtain ⟨start, hstart, h⟩ := Option.bind_eq_some_iff.1 h
  obtain ⟨⟨name, rest⟩, hname, h⟩ := Option.bind_eq_some_iff.1 h
  obtain ⟨⟨raw, after⟩, hvalue, h⟩ := Option.bind_eq_some_iff.1 h
  cases h
  exact Nat.lt_of_le_of_lt (quotedValue?_length hvalue)
    (Nat.lt_of_lt_of_le (writtenName?_length hname) (behindSpace_length hstart))

/-- The attributes of an opening tag up to its end; `true` if the tag closes itself. -/
def attributes? (cs : List Char) : Option (List (WrittenName × String) × Bool × List Char) :=
  match h : attribute? cs with
  | some (name, raw, rest) => do
    have := attribute?_length h
    let value ← resolved attributeLiteral raw
    let (more, closed, rest) ← attributes? rest
    some ((name, String.ofList value) :: more, closed, rest)
  | none =>
    match skipSpace cs with
    | '>' :: rest => some ([], false, rest)
    | '/' :: '>' :: rest => some ([], true, rest)
    | _ => none
termination_by cs.length

theorem attributes?_length {cs : List Char} {r : List (WrittenName × String) × Bool × List Char}
    (h : attributes? cs = some r) : r.2.2.length ≤ cs.length := by
  fun_induction attributes? cs generalizing r with
  | case1 cs _ _ _ hattr _ ih =>
    obtain ⟨_, _, h⟩ := Option.bind_eq_some_iff.1 h
    obtain ⟨_, hmore, h⟩ := Option.bind_eq_some_iff.1 h
    cases h
    have hle := ih hmore
    exact Nat.le_trans hle (Nat.le_of_lt (attribute?_length hattr))
  | case2 cs _ _ hskip =>
    cases h
    exact Nat.le_trans (by simp [hskip]) (skipSpace_length cs)
  | case3 cs _ _ hskip =>
    cases h
    exact Nat.le_trans (by simp [hskip]; omega) (skipSpace_length cs)
  | case4 => simp at h

def openingTag? (cs : List Char) : Option (List Event × List Char) := do
  let (name, rest) ← writtenName? cs
  let (attributes, closed, rest) ← attributes? rest
  some (.open name attributes :: (if closed then [.close name] else []), rest)

theorem openingTag?_length {cs : List Char} {r : List Event × List Char}
    (h : openingTag? cs = some r) :
    r.2.length ≤ cs.length := by
  obtain ⟨_, hname, h⟩ := Option.bind_eq_some_iff.1 h
  obtain ⟨_, hattributes, h⟩ := Option.bind_eq_some_iff.1 h
  cases h
  exact Nat.le_trans (attributes?_length hattributes) (Nat.le_of_lt (writtenName?_length hname))

def closingTag? (cs : List Char) : Option (List Event × List Char) := do
  let (name, rest) ← writtenName? cs
  let rest ← behind ">" (skipSpace rest)
  some ([.close name], rest)

theorem closingTag?_length {cs : List Char} {r : List Event × List Char}
    (h : closingTag? cs = some r) :
    r.2.length ≤ cs.length := by
  obtain ⟨_, hname, h⟩ := Option.bind_eq_some_iff.1 h
  obtain ⟨_, hend, h⟩ := Option.bind_eq_some_iff.1 h
  cases h
  exact Nat.le_trans (behind_length_le hend)
    (Nat.le_trans (skipSpace_length _) (Nat.le_of_lt (writtenName?_length hname)))

/-- A comment behind its opening: two hyphens only stand at its end. -/
def commentRest? (cs : List Char) : Option (List Event × List Char) := do
  let (text, rest) ← upTo "--".toList cs
  let rest ← behind ">" rest
  some ([.comment (String.ofList text)], rest)

theorem commentRest?_length {cs : List Char} {r : List Event × List Char}
    (h : commentRest? cs = some r) : r.2.length ≤ cs.length := by
  obtain ⟨_, htext, h⟩ := Option.bind_eq_some_iff.1 h
  obtain ⟨_, hend, h⟩ := Option.bind_eq_some_iff.1 h
  cases h
  exact Nat.le_trans (behind_length_le hend) (upTo_length htext)

def instruction? (cs : List Char) : Option (List Event × List Char) := do
  let (target, rest) ← simpleName? cs
  let (content, after) ← upTo "?>".toList rest
  let spaced : Bool := match content with
    | [] => true
    | c :: _ => isSpace c
  if spaced && target.toList.map Char.toLower != "xml".toList then some ([.instruction],
    after) else none

theorem instruction?_length {cs : List Char} {r : List Event × List Char}
    (h : instruction? cs = some r) : r.2.length ≤ cs.length := by
  obtain ⟨_, htarget, h⟩ := Option.bind_eq_some_iff.1 h
  obtain ⟨_, hcontent, h⟩ := Option.bind_eq_some_iff.1 h
  obtain ⟨_, h⟩ := Option.ite_none_right_eq_some.1 h
  cases h
  exact Nat.le_trans (upTo_length hcontent) (Nat.le_of_lt (simpleName?_length htarget))

def behindQuoted : List Char → Option (List Char)
  | [] => none
  | mark :: cs => if mark = '"' ∨ mark = '\'' then (upTo [mark] cs).map Prod.snd else none

theorem behindQuoted_length {cs rest : List Char} (h : behindQuoted cs = some rest) :
    rest.length ≤ cs.length := by
  cases cs with
  | nil => simp [behindQuoted] at h
  | cons mark cs =>
    obtain ⟨_, h⟩ := Option.ite_none_right_eq_some.1 h
    obtain ⟨_, hrest, rfl⟩ := Option.map_eq_some_iff.1 h
    exact Nat.le_succ_of_le (upTo_length hrest)

def behindExternalId (cs : List Char) : Option (List Char) :=
  match behind "SYSTEM" cs with
  | some cs => behindSpace cs >>= behindQuoted
  | none =>
    match behind "PUBLIC" cs with
    | some cs => behindSpace cs >>= behindQuoted >>= behindSpace >>= behindQuoted
    | none => some cs

theorem behindExternalId_length {cs rest : List Char} (h : behindExternalId cs = some rest) :
    rest.length ≤ cs.length := by
  unfold behindExternalId at h
  split at h
  · rename_i hkey
    obtain ⟨_, hspace, hquoted⟩ := Option.bind_eq_some_iff.1 h
    exact Nat.le_trans (behindQuoted_length hquoted)
      (Nat.le_trans (behindSpace_length hspace) (behind_length_le hkey))
  split at h
  · rename_i hkey
    obtain ⟨_, h, hsystem⟩ := Option.bind_eq_some_iff.1 h
    obtain ⟨_, h, hbetween⟩ := Option.bind_eq_some_iff.1 h
    obtain ⟨_, hspace, hpublic⟩ := Option.bind_eq_some_iff.1 h
    have := behind_length_le hkey
    have := behindSpace_length hspace
    have := behindQuoted_length hpublic
    have := behindSpace_length hbetween
    have := behindQuoted_length hsystem
    omega
  · cases h
    exact Nat.le_refl _

/-- A document type behind its opening; it has no internal subset. -/
def doctype? (cs : List Char) : Option (List Event × List Char) := do
  let start ← behindSpace cs
  let (_, rest) ← writtenName? start
  let named ← behindExternalId (skipSpace rest)
  let rest ← behind ">" (skipSpace named)
  some ([.doctype], rest)

theorem doctype?_length {cs : List Char} {r : List Event × List Char} (h : doctype? cs = some r) :
    r.2.length ≤ cs.length := by
  obtain ⟨_, hspace, h⟩ := Option.bind_eq_some_iff.1 h
  obtain ⟨⟨_, rest⟩, hname, h⟩ := Option.bind_eq_some_iff.1 h
  obtain ⟨named, hid, h⟩ := Option.bind_eq_some_iff.1 h
  obtain ⟨_, hend, h⟩ := Option.bind_eq_some_iff.1 h
  cases h
  have := behindSpace_length hspace
  have := writtenName?_length hname
  have := skipSpace_length rest
  have := behindExternalId_length hid
  have := skipSpace_length named
  have := behind_length_le hend
  simp only at *
  omega

def nextEvents (cs : List Char) : Option (List Event × List Char) :=
  match behind "<!--" cs with
  | some rest => commentRest? rest
  | none =>
  match behind "<![CDATA[" cs with
  | some rest => (upTo "]]>".toList rest).map fun (s, rest) =>
    ([.text (String.ofList s) false], rest)
  | none =>
  match behind "<!DOCTYPE" cs with
  | some rest => doctype? rest
  | none =>
  match behind "<?" cs with
  | some rest => instruction? rest
  | none =>
  match behind "</" cs with
  | some rest => closingTag? rest
  | none =>
  match behind "<" cs with
  | some rest => openingTag? rest
  | none =>
    let raw := cs.takeWhile (· != '<')
    (resolved dataLiteral raw).map fun s =>
      ([.text (String.ofList s) (!raw.contains '&')], cs.dropWhile (· != '<'))

/-- A text that is not empty becomes shorter by the events that begin there. -/
theorem nextEvents_length {cs : List Char} {r : List Event × List Char} (hne : cs ≠ [])
    (h : nextEvents cs = some r) : r.2.length < cs.length := by
  unfold nextEvents at h
  split at h
  · exact Nat.lt_of_le_of_lt (commentRest?_length h) (behind_length_lt ‹_› (by decide))
  split at h
  · obtain ⟨_, hrest, rfl⟩ := Option.map_eq_some_iff.1 h
    exact Nat.lt_of_le_of_lt (upTo_length hrest) (behind_length_lt ‹_› (by decide))
  split at h
  · exact Nat.lt_of_le_of_lt (doctype?_length h) (behind_length_lt ‹_› (by decide))
  split at h
  · exact Nat.lt_of_le_of_lt (instruction?_length h) (behind_length_lt ‹_› (by decide))
  split at h
  · exact Nat.lt_of_le_of_lt (closingTag?_length h) (behind_length_lt ‹_› (by decide))
  split at h
  · exact Nat.lt_of_le_of_lt (openingTag?_length h) (behind_length_lt ‹_› (by decide))
  rename_i hopen
  obtain ⟨_, _, rfl⟩ := Option.map_eq_some_iff.1 h
  cases cs with
  | nil => exact absurd rfl hne
  | cons c cs =>
    have hc : c ≠ '<' := by
      rintro rfl
      simp [behind] at hopen
    simp only [List.dropWhile_cons, bne_iff_ne, ne_eq, hc, not_false_eq_true, if_true]
    exact Nat.lt_succ_of_le (List.dropWhile_sublist _).length_le

def events? (cs : List Char) : Option (List Event) :=
  if hne : cs = [] then some []
  else match h : nextEvents cs with
    | none => none
    | some (es, rest) =>
      have := nextEvents_length hne h
      (events? rest).map (es ++ ·)
termination_by cs.length

end TaxFlow.Markup
