import TaxFlow.Fault
import TaxFlow.Markup.Node
import TaxFlow.Text.Blank
import TaxFlow.Text.Utf8

/-!
# Documents

A document is handed over as text, which must not declare an encoding, or as bytes, which may.
-/
namespace TaxFlow.Markup

structure Declaration where
  encoding : Option String

def declarationValue? (key : String) (cs : List Char) : Option (List Char × List Char) := do
  let start ← behindSpace cs
  let rest ← behind key start
  quotedValue? rest

def isVersion : List Char → Bool
  | '1' :: '.' :: ds => ds ≠ [] && ds.all Char.isDigit
  | _ => false

def isEncodingName : List Char → Bool
  | [] => false
  | c :: cs => c.isAlpha && cs.all fun c => c.isAlphanum || c == '.' || c == '_' || c == '-'

/-- A value that may be left out, with a check if it is there. -/
def optionalValue? (key : String) (isValid : List Char → Bool) (cs : List Char) :
    Option (Option (List Char) × List Char) :=
  match behind key (skipSpace cs) with
  | none => some (none, cs)
  | some _ => do
    let (value, rest) ← declarationValue? key cs
    if isValid value then some (some value, rest) else none

def declaration? (cs : List Char) : Option (Declaration × List Char) :=
  match behind "<?xml" cs with
  | some (c :: rest) =>
    if isSpace c then do
      let (version, rest) ← declarationValue? "version" (c :: rest)
      let (encoding, rest) ← optionalValue? "encoding" isEncodingName rest
      let (_, rest) ← optionalValue? "standalone"
        (fun v => v = "yes".toList || v = "no".toList) rest
      let rest ← behind "?>" (skipSpace rest)
      if isVersion version then some (⟨encoding.map String.ofList⟩, rest) else none
    else some (⟨none⟩, cs)
  | _ => some (⟨none⟩, cs)

def document? (cs : List Char) : Option Node := do
  let cs := match cs with
    | '\ufeff' :: cs => cs
    | cs => cs
  if cs.all isDocumentChar then
    let (_, rest) ← declaration? (Text.withLineFeeds cs)
    Node.ofEvents? (← events? rest)
  else none

/-- Whether, behind at least one blank, an encoding is named here. -/
def namesEncoding (cs : List Char) : Bool :=
  match cs with
  | c :: _ =>
    Text.isBlank c &&
      match behind "encoding" (cs.dropWhile Text.isBlank) with
      | some rest =>
        match behind "=" (rest.dropWhile Text.isBlank) with
        | some rest =>
          match rest.dropWhile Text.isBlank with
          | mark :: rest =>
            (mark == '"' || mark == '\'') && rest.any fun c => c == '"' || c == '\''
          | [] => false
        | none => false
      | none => false
  | [] => false

/-- Whether an encoding is named at or behind this place of a tag. -/
def namesEncodingWithin : List Char → Bool
  | [] => false
  | c :: cs => namesEncoding (c :: cs) || (c != '>' && namesEncodingWithin cs)

def declaresEncoding (cs : List Char) : Bool :=
  match behind "<?xml" cs with
  | some (c :: rest) => c != '>' && namesEncodingWithin rest
  | _ => false

/-- How a document is handed over. -/
inductive Source where
  | text (content : String)
  | bytes (content : ByteArray)

def byteChars (content : ByteArray) : List Char := content.toList.map fun b => Char.ofNat b.toNat

/-- The encoding that the declaration in bytes names. A byte order mark in front of it settles the
encoding. -/
def encodingOf (content : ByteArray) : String :=
  match declaration? (byteChars content) with
  | some (⟨some encoding⟩, _) => String.ofList (encoding.toList.map Char.toLower)
  | _ => "utf-8"

/-- The characters of bytes in the encoding that they declare. -/
def decoded? (content : ByteArray) : Option (List Char) :=
  let name := encodingOf content
  if name = "utf-8" ∨ name = "utf8" then (Text.decodeUtf8 content).toOption
  else if name = "us-ascii" ∨ name = "ascii" then
    if (byteChars content).all Text.isAscii then some (byteChars content) else none
  else if name = "iso-8859-1" ∨ name = "latin1" ∨ name = "iso-latin-1" then some (byteChars content)
  else none

def read : Source → Except Fault Node
  | .text content =>
    if declaresEncoding content.toList then .error .declaredEncoding
    else match document? content.toList with
      | some root => .ok root
      | none => .error .malformedDocument
  | .bytes content =>
    match (decoded? content).bind document? with
    | some root => .ok root
    | none => .error .malformedDocument

end TaxFlow.Markup
