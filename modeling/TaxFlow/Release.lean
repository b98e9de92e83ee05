import TaxFlow.Chart.Basic

/-!
# Releases

The published charts: under which paths the document of a release and its calculation service are
found, and what is asked of them.
-/
namespace TaxFlow

structure Release where
  name : String
  servicePath : String
  documentPath : String
  deriving DecidableEq, Repr

/-- Something asked over the network. Certificates are not verified. -/
structure Request (α : Type) where
  url : String
  parameters : Option α
  verified : Bool := false
  deriving DecidableEq, Repr

/-- What the network answers: bytes, a value that is refused, or any other exception. -/
inductive NetworkAnswer where
  | content (bytes : ByteArray)
  | failure (message : String)
  | outage (message : String)

namespace Release

def baseUrl : String := "https://www.bmf-steuerrechner.de"

/-- A release by its name and the names of its service and its document. -/
def published (entry : String × String × String) : Release :=
  let (name, service, document) := entry
  ⟨name, "/interface/" ++ service ++ ".xhtml",
    "/javax.faces.resource/daten/xmls/" ++ document ++ ".xml.xhtml"⟩

/-- All releases, the oldest first. -/
def all : List Release :=
  [
    ("2006_1", "2006Version1", "Lohnsteuer2006Big"),
    ("2007_1", "2007Version1", "Lohnsteuer2007Big"),
    ("2008_1", "2008Version1", "Lohnsteuer2008Big"),
    ("2009_1", "2009Version1", "Lohnsteuer2009Big"),
    ("2010_1", "2010Version1", "Lohnsteuer2010Big"),
    ("2011_1", "2011bisNovVersion1", "Lohnsteuer2011BisNovember"),
    ("2011_12", "2011DezVersion1", "Lohnsteuer2011Dezember"),
    ("2012_1", "2012Version1", "Lohnsteuer2012"),
    ("2013_1", "2013Version1", "Lohnsteuer2013"),
    ("2014_1", "2014Version1", "Lohnsteuer2014"),
    ("2015_1", "2015bisNovVersion1", "Lohnsteuer2015BisNovember"),
    ("2015_12", "2015DezVersion1", "Lohnsteuer2015Dezember"),
    ("2016_1", "2016Version1", "Lohnsteuer2016"),
    ("2017_1", "2017Version1", "Lohnsteuer2017"),
    ("2018_1", "2018Version1", "Lohnsteuer2018"),
    ("2019_1", "2019Version1", "Lohnsteuer2019"),
    ("2020_1", "2020Version1", "Lohnsteuer2020"),
    ("2021_1", "2021Version1", "Lohnsteuer2021"),
    ("2022_1", "2022Version1", "Lohnsteuer2022"),
    ("2023_2", "2023Version1", "Lohnsteuer2023"),
    ("2023_3", "2023AbJuliVersion1", "Lohnsteuer2023AbJuli"),
    ("2024_1", "2024Version1", "Lohnsteuer2024"),
    ("2024_2", "2024DezemberVersion1", "Lohnsteuer2024Dezember"),
    ("2025_1", "2025Version1", "Lohnsteuer2025")
  ].map published

def find? (name : Option String) : Option Release :=
  name.bind fun name => all.find? fun r => r.name = name

def named (name : Option String) : Except Fault Release :=
  match find? name with
  | some r => .ok r
  | none => .error (.unknownRelease (name.getD "None"))

def contentOf : NetworkAnswer → Except Fault ByteArray
  | .content bytes => .ok bytes
  | .failure message => .error (.fetchFailed message)
  | .outage message => .error (.unanswered message)

def fetchDocument {α : Type} (name : Option String) (answer : NetworkAnswer) :
    Except Fault ByteArray × List (Request α) :=
  match named name with
  | .error fault => (.error fault, [])
  | .ok r => (contentOf answer, [⟨baseUrl ++ r.documentPath, none, false⟩])

/-- Notes a value under a name; a later one replaces an earlier one in its place. -/
def noteOutput (outputs : List (Option String × Option String)) (name value : Option String) :
    List (Option String × Option String) :=
  if outputs.any fun entry => entry.1 = name then
    outputs.map fun entry => if entry.1 = name then (name, value) else entry
  else outputs ++ [(name, value)]

def outputsOf (root : Markup.Node) : List (Option String × Option String) :=
  if root.isNamed "lohnsteuer" then
    (Chart.atPath root ["ausgaben", "ausgabe"]).foldl
      (fun outputs (_, n) => noteOutput outputs (n.attribute? "name") (n.attribute? "value")) []
  else []

def calculate {α : Type} (name : Option String) (parameters : Option α) (answer : NetworkAnswer) :
    Except Fault (List (Option String × Option String)) × List (Request α) :=
  match named name with
  | .error fault => (.error fault, [])
  | .ok r =>
    let outputs := do
      let root ← Markup.read (.bytes (← contentOf answer))
      .ok (outputsOf root)
    (outputs, [⟨baseUrl ++ r.servicePath, parameters, false⟩])

end Release
end TaxFlow
