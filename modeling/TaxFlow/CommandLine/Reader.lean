import TaxFlow.CommandLine.Options
import TaxFlow.Text.Quoted

/-!
# Reading the arguments

First every argument is told apart: an option, perhaps with its value, or something else. Then they
are taken in order. Long options may be shortened as long as they stay unique, short ones without
value may be grouped, and help and version end the reading at once.
-/
namespace TaxFlow.CommandLine

inductive UsageFault where
  | ambiguous (option : String) (candidates : List String)
  | expectedArgument (flag : Flag)
  | invalidChoice (flag : Flag) (value : String) (allowed : List String)
  | ignoredArgument (flag : Flag) (value : String)
  | unrecognized (args : List String)
  deriving DecidableEq, Repr

def UsageFault.message : UsageFault → String
  | ambiguous option candidates =>
    "ambiguous option: " ++ option ++ " could match " ++ ", ".intercalate candidates
  | expectedArgument flag => "argument " ++ flag.title ++ ": expected one argument"
  | invalidChoice flag value allowed =>
    "argument " ++ flag.title ++ ": invalid choice: " ++ Text.quote value ++ " (choose from " ++
      ", ".intercalate (allowed.map Text.quote) ++ ")"
  | ignoredArgument flag value =>
    "argument " ++ flag.title ++ ": ignored explicit argument " ++ Text.quote value
  | unrecognized args => "unrecognized arguments: " ++ " ".intercalate args

inductive Word where
  | plain (text : String)
  /-- Two hyphens: no options follow. -/
  | hyphens
  /-- An option with the value that is attached to it; `short` if that may be a group of further
  options. -/
  | option (flag : Flag) (short : Bool) (attached : Option String)
  | unknown (text : String)
  deriving DecidableEq, Repr

def splitEquals (cs : List Char) : Option (List Char × List Char) :=
  match cs.span (· != '=') with
  | (_, []) => none
  | (key, _ :: value) => some (key, value)

def candidates (start : List Char) : List (String × Flag) :=
  spellings.filter fun entry => start.isPrefixOf entry.1.toList

/-- Whether a text is a negative number: digits with at most one point, which has a digit behind it.
One line feed may follow. -/
def isNegativeNumber (cs : List Char) : Bool :=
  let isDigit (c : Char) : Bool := (Text.digitValue? c).isSome
  match if cs.getLast? = some '\n' then cs.dropLast else cs with
  | '-' :: cs =>
    let (whole, rest) := cs.span isDigit
    match rest with
    | [] => !whole.isEmpty
    | '.' :: fraction => !fraction.isEmpty && fraction.all isDigit
    | _ => false
  | _ => false

def isShort (spelling : String) : Bool := spelling.length = 2

/-- The options that an argument can mean which is not spelled out, with their attached values. -/
def meanings (cs : List Char) : List (String × Flag × Option String) :=
  match cs with
  | '-' :: '-' :: _ =>
    let (key, value) := match splitEquals cs with
      | some (key, value) => (key, some (String.ofList value))
      | none => (cs, none)
    (candidates key).map fun (s, flag) => (s, flag, value)
  | '-' :: c :: rest =>
    (spellings.filter fun entry => entry.1.toList = ['-', c]).map fun (s, flag) =>
      (s, flag, some (String.ofList rest))
  | _ => []

def classify (arg : String) : Except UsageFault Word :=
  match arg.toList with
  | '-' :: c :: rest =>
    let cs := '-' :: c :: rest
    let exact := match spellings.lookup arg with
      | some flag => some (Word.option flag (isShort arg) none)
      | none => do
        let (key, value) ← splitEquals cs
        let flag ← spellings.lookup (String.ofList key)
        some (.option flag false (some (String.ofList value)))
    match exact with
    | some word => .ok word
    | none =>
      match meanings cs with
      | [(s, flag, value)] => .ok (.option flag (isShort s) value)
      | [] =>
        .ok (if isNegativeNumber cs || cs.contains ' ' then .plain arg else .unknown arg)
      | many => .error (.ambiguous arg (many.map Prod.fst))
  | _ => .ok (.plain arg)

/-- Tells all arguments apart; behind two hyphens there are no options. -/
def classifyAll : List String → Except UsageFault (List Word)
  | [] => .ok []
  | arg :: args =>
    if arg = "--" then .ok (.hyphens :: args.map .plain)
    else do
      let word ← classify arg
      .ok (word :: (← classifyAll args))

inductive Asked where
  | help
  | version
  | choices (c : Choices)
  deriving DecidableEq, Repr

def choose (c : Choices) (flag : Flag) (value : String) : Except UsageFault Choices :=
  match allowedValues flag with
  | some allowed =>
    if allowed.contains value then .ok (c.set flag value)
    else .error (.invalidChoice flag value allowed)
  | none => .ok (c.set flag value)

/-- The rest of a group of short options behind one without value: whether it can be read. What is
no option ends the group. -/
def checkGroup (flag : Flag) (rest : List Word) : List Char → Except UsageFault Unit
  | [] => .ok ()
  | c :: cs =>
    if c = '-' then .error (.ignoredArgument flag (String.ofList (c :: cs)))
    else match spellings.lookup (String.ofList ['-', c]) with
      | none => .ok ()
      | some next =>
        match next.takesValue, cs, rest with
        | true, [], .plain _ :: _ => .ok ()
        | true, [], _ => .error (.expectedArgument next)
        | true, _, _ => .ok ()
        | false, '=' :: value, _ => .error (.ignoredArgument next (String.ofList value))
        | false, cs, rest => checkGroup next rest cs

/-- Takes words in order; what belongs to no option is collected. -/
def take (c : Choices) (extras : List String) : List Word → Except UsageFault Asked
  | [] => if extras.isEmpty then .ok (.choices c) else .error (.unrecognized extras)
  | .plain text :: words => take c (extras ++ [text]) words
  | .hyphens :: words => take c (extras ++ ["--"]) words
  | .unknown text :: words => take c (extras ++ [text]) words
  | .option flag short (some value) :: words =>
    if flag.takesValue then do take (← choose c flag value) extras words
    else if short && !value.isEmpty then do
      checkGroup flag words value.toList
      match flag with
      | .help => .ok .help
      | .version => .ok .version
      | flag => take (c.set flag "") extras words
    else .error (.ignoredArgument flag value)
  | .option flag _ none :: words =>
    match flag with
    | .help => .ok .help
    | .version => .ok .version
    | .releases => take (c.set .releases "") extras words
    | flag =>
      match words with
      | .plain value :: words => do take (← choose c flag value) extras words
      | _ => .error (.expectedArgument flag)

def read (args : List String) : Except UsageFault Asked := do
  take {} [] (← classifyAll args)

end TaxFlow.CommandLine
