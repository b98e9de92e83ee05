import TaxFlow.Markup.Event

/-!
# Document trees

Elements, comments and processing instructions. Of the character data of an element only the part
before its first child is kept. A tree is put together from events; it is nothing if tags do not
match, a namespace is not declared, or elements are nested too deeply.
-/
namespace TaxFlow.Markup

inductive Node where
  | element (name : Name) (attributes : List (Name × String)) (text : Option String)
      (children : List Node)
  | comment (text : String)
  | instruction
  deriving Repr

namespace Node

/-- Whether the node is an element of a name outside of all namespaces. -/
def isNamed (base : String) : Node → Bool
  | element name .. => name = Name.plain base
  | _ => false

def attribute? (base : String) : Node → Option String
  | element _ attributes .. => attributes.lookup (Name.plain base)
  | _ => none

def text? : Node → Option String
  | element _ _ text _ => text
  | comment text => some text
  | instruction => none

def children : Node → List Node
  | element _ _ _ children => children
  | _ => []

end Node

def reservedSpace : String := "http://www.w3.org/XML/1998/namespace"

def declarationSpace : String := "http://www.w3.org/2000/xmlns/"

/-- Namespaces in scope, by qualifier; the innermost declaration comes first. -/
abbrev Spaces := List (Option String × String)

/-- Whether percent signs stand before two hexadecimal digits. -/
def percentEncoded : List Char → Bool
  | '%' :: a :: b :: cs =>
    (Text.hexValue? a).isSome && (Text.hexValue? b).isSome && percentEncoded cs
  | '%' :: _ => false
  | _ :: cs => percentEncoded cs
  | [] => true

def isIdentifier (s : String) : Bool :=
  let cs := s.toList
  let head := cs.takeWhile fun c => c != '/' && c != '?' && c != '#'
  let scheme := head.takeWhile (· != ':')
  let schemed := match scheme with
    | c :: rest => c.isAlpha && rest.all fun c => c.isAlphanum || c == '+' || c == '-' || c == '.'
    | [] => false
  cs.all (fun c => c.isAlphanum || "-._~!$&'()*+,;=:@/?#[]%".toList.contains c) &&
    cs.count '#' ≤ 1 && percentEncoded cs && (schemed || !head.contains ':')

/-- A declaration of a namespace among the attributes: `none` if the attribute declares nothing. -/
def declaredSpace? : WrittenName × String → Option (Option String × String)
  | (⟨none, "xmlns"⟩, space) => some (none, space)
  | (⟨some "xmlns", base⟩, space) => some (some base, space)
  | _ => none

def isAllowedSpace : Option String × String → Bool
  | (none, space) =>
    space ≠ reservedSpace && space ≠ declarationSpace && (space.isEmpty || isIdentifier space)
  | (some "xml", space) => space = reservedSpace
  | (some qualifier, space) =>
    qualifier ≠ "xmlns" && !space.isEmpty && space ≠ reservedSpace && space ≠ declarationSpace &&
      isIdentifier space

def Spaces.find? (spaces : Spaces) (qualifier : String) : Option String :=
  if qualifier = "xml" then some reservedSpace else spaces.lookup (some qualifier)

/-- The name of an element; without qualifier it is in the namespace declared last, if any. -/
def Spaces.elementName? (spaces : Spaces) (name : WrittenName) : Option Name :=
  match name.qualifier with
  | some q => (spaces.find? q).map fun space => ⟨some space, name.base⟩
  | none =>
    match spaces.lookup none with
    | some space => some ⟨if space.isEmpty then none else some space, name.base⟩
    | none => some ⟨none, name.base⟩

/-- The name of an attribute; without qualifier it is in no namespace. -/
def Spaces.attributeName? (spaces : Spaces) (name : WrittenName) : Option Name :=
  match name.qualifier with
  | some q => (spaces.find? q).map fun space => ⟨some space, name.base⟩
  | none => some ⟨none, name.base⟩

def distinct {α : Type} [DecidableEq α] : List α → Bool
  | [] => true
  | a :: as => !as.contains a && distinct as

/-- An element that has been opened: its children so far are in reverse. -/
structure Frame where
  tag : WrittenName
  name : Name
  spaces : Spaces
  attributes : List (Name × String)
  text : Option String := none
  children : List Node := []

def Frame.node (f : Frame) : Node := .element f.name f.attributes f.text f.children.reverse

/-- Opens an element within the namespaces in scope. -/
def Frame.open? (spaces : Spaces) (tag : WrittenName) (attributes : List (WrittenName × String)) :
    Option Frame := do
  let declared := attributes.filterMap declaredSpace?
  let others := attributes.filter fun a => (declaredSpace? a).isNone
  let spaces : Spaces := declared ++ spaces
  let name ← spaces.elementName? tag
  let resolved ← others.mapM fun (n, value) => (spaces.attributeName? n).map fun n => (n, value)
  if distinct (attributes.map Prod.fst) && distinct (resolved.map Prod.fst) &&
      declared.all isAllowedSpace then
    some { tag, name, spaces, attributes := resolved }
  else none

/-- A document that is being put together: the frames of open elements, the innermost first, and the
root once it is closed. -/
structure Assembly where
  typed : Bool := false
  frames : List Frame := []
  root : Option Node := none

def maxElementDepth : Nat := 256

namespace Assembly

/-- Adds a node to the innermost open element; outside of it only comments and instructions may
stand. -/
def add (a : Assembly) (node : Node) : Assembly :=
  match a.frames with
  | [] => a
  | f :: frames => { a with frames := { f with children := node :: f.children } :: frames }

def close (a : Assembly) (tag : WrittenName) : Option Assembly :=
  match a.frames with
  | [] => none
  | f :: frames =>
    if f.tag = tag then
      if frames.isEmpty then some { a with frames := [], root := some f.node }
      else some ({ a with frames }.add f.node)
    else none

def addText (a : Assembly) (content : String) (plain : Bool) : Option Assembly :=
  match a.frames with
  | [] => if plain && content.toList.all isSpace then some a else none
  | f :: frames =>
    if f.children.isEmpty then
      some { a with frames := { f with text := some (f.text.getD "" ++ content) } :: frames }
    else some a

def step (a : Assembly) : Event → Option Assembly
  | .open tag attributes =>
    if a.root.isSome || maxElementDepth ≤ a.frames.length then none
    else do
      let spaces := match a.frames with
        | f :: _ => f.spaces
        | [] => []
      let f ← Frame.open? spaces tag attributes
      some { a with frames := f :: a.frames }
  | .close tag => a.close tag
  | .comment text => some (a.add (.comment text))
  | .instruction => some (a.add .instruction)
  | .doctype =>
    if a.typed || a.root.isSome || !a.frames.isEmpty then none else some { a with typed := true }
  | .text content plain => a.addText content plain

def run (a : Assembly) : List Event → Option Assembly
  | [] => some a
  | e :: es => (a.step e).bind fun a => a.run es

end Assembly

def Node.ofEvents? (es : List Event) : Option Node := do
  let a ← Assembly.run {} es
  if a.frames.isEmpty then a.root else none

end TaxFlow.Markup
