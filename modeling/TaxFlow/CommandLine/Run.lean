import TaxFlow.CommandLine.Folder
import TaxFlow.CommandLine.Help
import TaxFlow.CommandLine.Reader
import TaxFlow.Target.Generator
import TaxFlow.Text.Utf8

/-!
# Running the command line

From the arguments and the surroundings to what is printed, written and asked. The output file is
opened only once the chart has been read, and keeps what was generated before a fault.
-/
namespace TaxFlow.CommandLine

inductive RunFault where
  | chart (fault : Fault)
  | undecodable (fault : Text.Utf8Fault)
  | unopened (path : String) (fault : FolderFault)
  | noLanguage
  /-- The network failed, and its failure cannot be printed. -/
  | unprintableFailure
  deriving DecidableEq, Repr

def RunFault.message : RunFault → Option String
  | chart fault => fault.message
  | undecodable fault => some fault.message
  | unopened path fault => some (fault.message path)
  | noLanguage => some (Fault.lacking "NoneType" "lower")
  | unprintableFailure => some "write() argument must be str, not ValueError"

inductive Access where
  | reading | writing
  deriving DecidableEq, Repr

/-- What a run finds: the files, what the system has against opening them, the answer of the
network, and a reader of documents. -/
structure Surroundings where
  folder : Folder
  refusal : Access → (path : String) → Option FolderFault := fun _ _ => none
  network : NetworkAnswer
  reader : Markup.Source → Except Fault Markup.Node := Markup.read

/-- Writes a file unless the system refuses to open it. -/
def Surroundings.write (s : Surroundings) (path : String) (content : ByteArray) :
    Except FolderFault Folder :=
  match s.refusal .writing path with
  | some fault => .error fault
  | none => s.folder.write path content

/-- What a run leaves: its exit code or fault, what it printed, the files, and what it asked. -/
structure Outcome where
  exit : Except RunFault Nat
  output : String := ""
  errors : String := ""
  folder : Folder
  requests : List (Request Unit) := []

def targetOf (language : String) : Target :=
  match language with
  | "php" => .php
  | "python" => .python
  | "java" => .java
  | "javascript" => .javascript
  | "golang" => .golang
  | _ => .bare

def settingsFor (c : Choices) (target : Target) : Settings :=
  let s : Settings := { className := c.className, indent := c.indent }
  match target with
  | .php => { s with namespaceName := c.phpNamespace }
  | .golang => { s with package := c.goPackage }
  | .java => { s with package := c.javaPackage }
  | _ => s

def releaseList : String := asText ("Verfügbare PAP Versionen:" :: Release.all.map Release.name)

/-- The document that was chosen, and what was asked for it. A failure is either printed or ends the
run. -/
def document (c : Choices) (s : Surroundings) :
    Except (Except RunFault String) Markup.Source × List (Request Unit) :=
  match c.document, c.release with
  | some path, _ =>
    match s.folder.read? path with
    | none => (.error (.ok ("Kann Datei nicht öffnen: '" ++ path ++ "'")), [])
    | some bytes =>
      match s.refusal .reading path, Text.decodeUtf8 bytes with
      | some fault, _ => (.error (.error (.unopened path fault)), [])
      | none, .ok cs => (.ok (.text (String.ofList (Text.withLineFeeds cs))), [])
      | none, .error fault => (.error (.error (.undecodable fault)), [])
  | none, release =>
    match Release.fetchDocument release s.network with
    | (.ok bytes, requests) => (.ok (.bytes bytes), requests)
    | (.error (.unanswered message), requests) =>
      (.error (.error (.chart (.unanswered message))), requests)
    | (.error _, requests) => (.error (.error .unprintableFailure), requests)

/-- Generates code for a chart onto the output or into a file. -/
def generateTo (c : Choices) (language : String) (chart : Chart) (s : Surroundings)
    (requests : List (Request Unit)) : Outcome :=
  let target := targetOf language
  let (g, fault) := (Generator.new target (settingsFor c target) chart).generate chart
  let exit : Except RunFault Nat := match fault with
    | none => .ok 0
    | some fault => .error (.chart fault)
  match c.outfile with
  | some path =>
    if path.isEmpty then { exit, output := g.page.text, folder := s.folder, requests }
    else match s.write path g.page.text.toUTF8 with
      | .ok folder => { exit, folder, requests }
      | .error fault => { exit := .error (.unopened path fault), folder := s.folder, requests }
  | none => { exit, output := g.page.text, folder := s.folder, requests }

def generateFrom (c : Choices) (s : Surroundings) : Outcome :=
  let (source, requests) := document c s
  let ended (exit : Except RunFault Nat) (errors : String) : Outcome :=
    { exit, errors, folder := s.folder, requests }
  match source with
  | .error (.ok message) => ended (.ok 1) (message ++ "\n")
  | .error (.error fault) => ended (.error fault) ""
  | .ok source =>
    match c.language with
    | none => ended (.error .noLanguage) ""
    | some language =>
      match Chart.readBy s.reader source with
      | .error fault => ended (.error (.chart fault)) ""
      | .ok chart => generateTo c language chart s requests

def isLeftOut (x : Option String) : Bool := x.getD "" = ""

/-- The choices without an empty path of a document. -/
def Choices.trimmed (c : Choices) : Choices := { c with document := c.document.filter (· ≠ "") }

def carryOut (c : Choices) (s : Surroundings) : Outcome :=
  if c.releases then { exit := .ok 0, output := releaseList, folder := s.folder }
  else if isLeftOut c.release == isLeftOut c.document then
    { exit := .ok 1
      errors :=
        "Bitte entweder eine PAP Version (-p) oder Pfad zu einer PAP XML Datei angeben (-x).\n"
      folder := s.folder }
  else generateFrom c.trimmed s

def run (args : List String) (s : Surroundings) : Outcome :=
  match read args with
  | .error fault =>
    { exit := .ok 2
      errors := usage ++ "lstgen: error: " ++ fault.message ++ "\n"
      folder := s.folder }
  | .ok .help => { exit := .ok 0, output := help, folder := s.folder }
  | .ok .version => { exit := .ok 0, output := versionText, folder := s.folder }
  | .ok (.choices c) => carryOut c s

end TaxFlow.CommandLine
