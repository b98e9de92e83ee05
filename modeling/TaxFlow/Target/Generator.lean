import TaxFlow.Target.Golang
import TaxFlow.Target.Java
import TaxFlow.Target.Javascript
import TaxFlow.Target.Php
import TaxFlow.Target.Python

/-!
# Generators

A generator writes charts in one target language onto a page of its own. What it has learned about
types, and the level of a page that was left unfinished, stay with it.
-/
namespace TaxFlow

/-- The target languages, and the bases that they vary. -/
inductive Target where
  | php | python | java | javascript | golang
  /-- Languages with braces, of which only the statements are settled. -/
  | braced
  /-- Nothing but formulas and pages are settled. -/
  | unfinished
  | bare
  deriving DecidableEq, Repr

structure Settings where
  className : Option String := none
  indent : Option String := none
  package : Option String := some "default"
  namespaceName : Option String := some ""
  deriving DecidableEq, Repr

structure Generator where
  target : Target
  className : Option String
  package : Option String
  namespaceName : Option String
  /-- The object whose members the variables are. -/
  owner : Option String
  types : TypeTable := []
  page : Page
  deriving DecidableEq, Repr

namespace Target

def dialect : Target → Dialect
  | php => .php
  | python => .python
  | java => .java
  | javascript => .javascript
  | golang => .golang
  | braced => .java
  | unfinished | bare => .common

def statementSettings (owner : Option String) : Target → StatementSettings
  | php => .php
  | python => .python
  | golang => .pointed owner ""
  | _ => .pointed owner ";"

def pageStyle (indent : Option String) : Target → PageStyle
  | python => { indent := indent.getD "    ", opening := ":", closing := none }
  | _ => { indent := indent.getD "    " }

end Target

namespace Generator

/-- A new generator. Without a name of its own the class is called like the chart. -/
def new (target : Target) (s : Settings) (chart : Chart) : Generator :=
  { target
    className := match s.className with
      | some name => if name.isEmpty then chart.name else some name
      | none => chart.name
    package := s.package
    namespaceName := s.namespaceName
    owner := target.dialect.owner
    page := { style := target.pageStyle s.indent } }

def codeSettings (g : Generator) (c : Chart) : CodeSettings :=
  { dialect := { g.target.dialect with owner := g.owner }
    statementSettings := g.target.statementSettings g.owner
    scope := ⟨g.className, c.constantNames, g.types⟩ }

/-- What a base is called when it lacks an operation. -/
def baseName? : Target → Option String
  | .bare => some "AstToCode"
  | .unfinished => some "BaseGenerator"
  | _ => none

def file (g : Generator) (c : Chart) : List Outline :=
  let v := g.codeSettings c
  match g.target with
  | .php => v.phpFile g.namespaceName c
  | .python => v.pythonFile c
  | .java => v.javaFile g.package c
  | .javascript => v.javascriptFile c
  | .golang => v.golangFile g.package c
  | .bare => [.halt (.lacksOperation "AstToCode" "generate")]
  | .braced | .unfinished => [.halt .abstractTarget]

/-- A comment that may be missing. Bases do not know how to write one. -/
def comment (g : Generator) (c : Chart) (text : Option String) (simple : Bool) : List Outline :=
  match baseName? g.target with
  | some base => [.halt (.lacksOperation base "_write_comment")]
  | none => (g.codeSettings c).commentOf text simple

def informed (g : Generator) (c : Chart) : Generator :=
  if g.target = .golang then { g with types := CodeSettings.golangTypesOf g.types c } else g

/-- The chart as a generator leaves it: lists among its constants may have been written as
formulas. -/
def leaves (g : Generator) (c : Chart) : Chart :=
  if g.target = .golang then { c with constants := CodeSettings.golangConstants c.constants } else c

inductive Usage where
  | assignment | condition | value
  | words
  deriving DecidableEq, Repr

/-- A formula in the target language. Bases do not know how to use one. -/
def convert (g : Generator) (c : Chart) (usage : Usage) (source : Option String) :
    Except Fault (List String) :=
  let v := g.codeSettings c
  match usage, baseName? g.target with
  | .words, _ => do v.dialect.valueWords v.scope (← Formula.value source)
  | .assignment, none => do .ok [← v.assignment source]
  | _, none => do .ok [← v.value source]
  | .assignment, some base => .error (.lacksOperation base "_convert_exec")
  | _, some base => .error (.lacksOperation base "_convert_if")

def put (g : Generator) (os : List Outline) : Generator × Option Fault :=
  let (page, fault) := g.page.putAll os
  ({ g with page }, fault)

/-- Writes a chart as far as it goes. -/
def generate (g : Generator) (c : Chart) : Generator × Option Fault :=
  let g := g.informed c
  g.put (g.file c)

end Generator
end TaxFlow
