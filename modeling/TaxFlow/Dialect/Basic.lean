/-!
# Dialects

How a target language spells the elements of formulas: accessors, operators, lists, the decimal
class, and the members of decimals.
-/
namespace TaxFlow

/-- What becomes of the names of members. -/
inductive Vocabulary where
  /-- They are kept. -/
  | kept
  /-- Some have another name, and some are accessed like constants, if they belong to the decimal
  class. -/
  | aliased (aliases : List (String × String)) (statics : List String)
  /-- All are replaced by those of a support library, which also tells constructors apart by the
  type of their argument. -/
  | mapped
  deriving DecidableEq, Repr

structure Dialect where
  /-- Stands between a value and its member. -/
  accessor : String := "."
  /-- Stands between a class and its constant. -/
  constantAccessor : String := "."
  /-- The object whose members the variables are. -/
  owner : Option String := some "self"
  listOpening : List String := ["["]
  listClosing : String := "]"
  andWord : String := "&&"
  orWord : String := "||"
  /-- Stands for the construction of a decimal. -/
  constructor : String := "new BigDecimal"
  /-- Whether constants belong to the class. -/
  classConstants : Bool := true
  vocabulary : Vocabulary := .kept
  deriving DecidableEq, Repr

namespace Dialect

def ownerPart (d : Dialect) : String :=
  match d.owner with
  | some owner => if owner.isEmpty then "" else owner ++ d.accessor
  | none => ""

/-- The spelling that all others vary. -/
def common : Dialect := {}

def php : Dialect :=
  { accessor := "->"
    constantAccessor := "::"
    owner := some "$this"
    listOpening := ["array("]
    listClosing := ")"
    classConstants := false
    vocabulary := .aliased [("ZERO", "zero()"), ("ONE", "one()"), ("TEN", "ten()")]
      ["valueOf", "ROUND_UP", "ROUND_DOWN"] }

def python : Dialect :=
  { andWord := "and"
    orWord := "or"
    constructor := "BigDecimal" }

def java : Dialect := { owner := some "this" }

def javascript : Dialect :=
  { owner := some "this"
    vocabulary := .aliased [("ZERO", "ZERO()"), ("ONE", "ONE()"), ("TEN", "TEN()")] [] }

def golang : Dialect :=
  { owner := some "t"
    listOpening := ["[]BigDecimal", "\x7b"]
    listClosing := "\x7d"
    constructor := "NewFromInt"
    classConstants := false
    vocabulary := .mapped }

end Dialect

/-- Types of variables by name. -/
abbrev TypeTable := List (Option String × String)

/-- What the names in a formula can refer to. -/
structure Scope where
  className : Option String
  /-- The names of the constants of the chart. -/
  constants : List (Option String)
  types : TypeTable := []
  deriving DecidableEq, Repr

end TaxFlow
