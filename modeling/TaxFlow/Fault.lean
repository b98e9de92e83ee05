import TaxFlow.Text.Quoted

/-!
# Faults

What can go wrong while a flow chart is read or written, as causes. `Fault.message` holds the
wording.
-/
namespace TaxFlow

inductive Fault where
  | malformedDocument
  /-- A document that is already text declares an encoding. -/
  | declaredEncoding
  | noMain
  | unreadableFormula
  | nullCharacter
  | emptyFormula
  | missingFormula
  /-- Size suffixes are to be removed where there is no text. -/
  | missingSizedFormula
  /-- The first statement, of the named kind, assigns nothing. -/
  | notAssignment (kind : String)
  /-- The first assigned target, of the named kind, is no plain name. -/
  | notPlainTarget (kind : String)
  /-- The first statement, of the named kind, has no value. -/
  | withoutValue (kind : String)
  /-- No target language has a form for this element. -/
  | unsupportedElement (element : String)
  | integerTooLong
  /-- A comparison lacks its first operator or operand. -/
  | missingOperand
  /-- The last word is asked for where there are no words. -/
  | noLastWord
  | stackExhausted
  | badNumber (text : String)
  | infiniteNumber
  | notANumber
  | missingName
  | missingType
  | missingValue
  | missingComment
  | missingInstance
  | unknownType (type : Option String)
  | unmappedMember (name : String)
  /-- The constructor for a name depends on its type, which is of no help. -/
  | untypedName (name : String) (type : Option String)
  | unsupportedArgument (kind : String)
  | missingArgument
  | abstractTarget
  /-- A bare page has nothing to generate. -/
  | abstractPage
  | abandoned (reason : String)
  | lacksOperation (owner operation : String)
  | noSuchVariable
  | unknownRelease (name : String)
  | fetchFailed (message : String)
  /-- The network gave no answer, and its exception has this text. -/
  | unanswered (message : String)
  deriving DecidableEq, Repr

namespace Fault

def lacking (owner part : String) : String :=
  "'" ++ owner ++ "' object has no attribute '" ++ part ++ "'"

def quotedOrNone : Option String → String
  | some s => Text.quote s
  | none => "None"

/-- The wording of a fault; the two faults of form have none. -/
def message : Fault → Option String
  | malformedDocument => none
  | unreadableFormula => none
  | declaredEncoding =>
    some ("Unicode strings with encoding declaration are not supported. " ++
      "Please use bytes input or XML fragments without declaration.")
  | noMain | emptyFormula | missingArgument | noSuchVariable | missingOperand
  | noLastWord => some "list index out of range"
  | nullCharacter => some "source code string cannot contain null bytes"
  | missingFormula => some (lacking "NoneType" "replace")
  | missingSizedFormula => some "expected string or bytes-like object, got 'NoneType'"
  | notAssignment kind => some (lacking kind "targets")
  | notPlainTarget kind => some (lacking kind "id")
  | withoutValue kind => some (lacking kind "value")
  | unsupportedElement element => some ("Unknown AST element: " ++ element)
  | integerTooLong =>
    some ("Exceeds the limit (4300 digits) for integer string conversion; " ++
      "use sys.set_int_max_str_digits() to increase the limit")
  | stackExhausted => some "maximum recursion depth exceeded"
  | badNumber text => some ("could not convert string to float: " ++ Text.quote text)
  | infiniteNumber => some "cannot convert float infinity to integer"
  | notANumber => some "cannot convert float NaN to integer"
  | missingName => some (lacking "NoneType" "capitalize")
  | missingType => some (lacking "NoneType" "endswith")
  | missingValue => some "'NoneType' object is not subscriptable"
  | missingComment => some (lacking "NoneType" "split")
  | missingInstance => some "sequence item 0: expected str instance, NoneType found"
  | unknownType type => some (quotedOrNone type)
  | unmappedMember name => some ("Unmapped attribute " ++ name)
  | untypedName name type => some (name ++ " has unsupported type " ++ quotedOrNone type)
  | unsupportedArgument kind => some ("unsupported node type " ++ kind)
  | abstractTarget | abstractPage => some "Implement me!"
  | abandoned reason => some (Text.quote reason)
  | lacksOperation owner operation => some (lacking owner operation)
  | unknownRelease name => some ("Invalid PAP resource name: " ++ name)
  | fetchFailed message | unanswered message => some message

end Fault

/-- A result that depends on another one is reached only through it. -/
theorem bind_eq_ok {ε α β : Type} {x : Except ε α} {f : α → Except ε β} {b : β}
    (h : x >>= f = .ok b) :
    ∃ a, x = .ok a ∧ f a = .ok b := by
  cases x with
  | error fault => cases h
  | ok a => exact ⟨a, rfl, h⟩

theorem eq_ok_of_toOption {ε α : Type} {x : Except ε α} {a : α} (h : x.toOption = some a) :
    x = .ok a := by
  cases x with
  | error fault => cases h
  | ok b => exact congrArg Except.ok (Option.some.inj h)

end TaxFlow
