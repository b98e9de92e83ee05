import TaxFlow.Release

/-!
# Options of the command line

What can be asked for, how it is spelled, and the choices made by the arguments.
-/
namespace TaxFlow.CommandLine

inductive Flag where
  | help | version | language | release | document | releases | outfile | className | indent
  | javaPackage | goPackage | phpNamespace
  deriving DecidableEq, Repr

/-- The spellings of the options, in the order in which they are listed. -/
def spellings : List (String × Flag) :=
  [("-h", .help), ("--help", .help), ("-V", .version), ("--version", .version), ("-l", .language),
    ("--lang", .language), ("-p", .release), ("--pap-version", .release), ("-x", .document),
    ("--pap-xml", .document), ("--pap-versions", .releases), ("--outfile", .outfile),
    ("--class-name", .className), ("--indent", .indent), ("--java-package-name", .javaPackage),
    ("--go-package-name", .goPackage), ("--php-ns", .phpNamespace)]

namespace Flag

def takesValue : Flag → Bool
  | help | version | releases => false
  | _ => true

def title (f : Flag) : String :=
  "/".intercalate ((spellings.filter fun entry => entry.2 = f).map Prod.fst)

end Flag

/-- The values that an option allows, if they are limited. -/
def allowedValues : Flag → Option (List String)
  | .language => some ["golang", "java", "javascript", "php", "python"]
  | .release => some (Release.all.map Release.name)
  | _ => none

structure Choices where
  language : Option String := none
  release : Option String := none
  document : Option String := none
  releases : Bool := false
  outfile : Option String := none
  className : Option String := none
  indent : Option String := some "    "
  javaPackage : Option String := none
  goPackage : Option String := none
  phpNamespace : Option String := none
  deriving DecidableEq, Repr

/-- Chooses a value; a later one replaces an earlier one. -/
def Choices.set (c : Choices) (flag : Flag) (value : String) : Choices :=
  match flag with
  | .language => { c with language := some value }
  | .release => { c with release := some value }
  | .document => { c with document := some value }
  | .outfile => { c with outfile := some value }
  | .className => { c with className := some value }
  | .indent => { c with indent := some value }
  | .javaPackage => { c with javaPackage := some value }
  | .goPackage => { c with goPackage := some value }
  | .phpNamespace => { c with phpNamespace := some value }
  | .releases => { c with releases := true }
  | .help | .version => c

end TaxFlow.CommandLine
