import TaxFlow.Number.Binary64

/-!
# Formula trees

Expressions and statements of the formulas in a flow chart. `kind` is the word under which an
element is reported.
-/
namespace TaxFlow.Formula

open TaxFlow.Number

inductive BinaryOp where
  | add | sub | mul | div | floorDiv | mod | matMul | pow
  | shiftLeft | shiftRight | bitAnd | bitOr | bitXor
  deriving DecidableEq, Repr

def BinaryOp.kind : BinaryOp → String
  | add => "Add"
  | sub => "Sub"
  | mul => "Mult"
  | div => "Div"
  | floorDiv => "FloorDiv"
  | mod => "Mod"
  | matMul => "MatMult"
  | pow => "Pow"
  | shiftLeft => "LShift"
  | shiftRight => "RShift"
  | bitAnd => "BitAnd"
  | bitOr => "BitOr"
  | bitXor => "BitXor"

inductive UnaryOp where
  | minus | plus | invert | not
  deriving DecidableEq, Repr

def UnaryOp.kind : UnaryOp → String
  | minus => "USub"
  | plus => "UAdd"
  | invert => "Invert"
  | not => "Not"

inductive BoolOp where
  | and | or
  deriving DecidableEq, Repr

def BoolOp.kind : BoolOp → String
  | and => "And"
  | or => "Or"

inductive CompareOp where
  | eq | notEq | lt | le | gt | ge | same | notSame | member | notMember
  deriving DecidableEq, Repr

def CompareOp.kind : CompareOp → String
  | eq => "Eq"
  | notEq => "NotEq"
  | lt => "Lt"
  | le => "LtE"
  | gt => "Gt"
  | ge => "GtE"
  | same => "Is"
  | notSame => "IsNot"
  | member => "In"
  | notMember => "NotIn"

/-- Literal values, and with `negative`, `complex` and `other` the values that no literal has: `-(n
+ 1)`, numbers with a real and an imaginary part, and whatever else has a text that is not too long.
A text remembers whether it was marked as Unicode. -/
inductive Constant where
  | int (value : Nat)
  | negative (n : Nat)
  | float (value : Binary64)
  | imaginary (value : Binary64)
  | complex (re im : Binary64)
  | text (value : String) (marked : Bool)
  | bytes (value : List Nat)
  | true
  | false
  | none
  | ellipsis
  | other (text : Option String)
  deriving DecidableEq, Repr

def Constant.isNumber : Constant → Bool
  | int _ | negative _ | float _ | imaginary _ | complex .. => Bool.true
  | _ => Bool.false

/-- Expressions. Of a comparison, `more` are the further links of a chain; `incomplete` is one
without its first operator or without an operand behind it, which no text is read as. A keyword
argument without a name unpacks a mapping, as does a dictionary entry without a key. Of the kinds
that no target language has a form for, `other` stands for those without a field for a value, and
`holder` for those with one, which may be empty. -/
inductive Expr where
  | name (id : String)
  | constant (value : Constant)
  | member (receiver : Expr) (name : String)
  | subscript (base index : Expr)
  | call (callee : Expr) (args : List Expr) (keywords : List (Option String × Expr))
  | binary (op : BinaryOp) (left right : Expr)
  | unary (op : UnaryOp) (operand : Expr)
  | bool (op : BoolOp) (values : List Expr)
  | compare (left : Expr) (op : CompareOp) (right : Expr) (more : List (CompareOp × Expr))
  | incomplete (left : Expr) (op : Option CompareOp)
  | list (items : List Expr)
  | tuple (items : List Expr)
  | set (items : List Expr)
  | dict (entries : List (Option Expr × Expr))
  | conditional (test body other : Expr)
  | starred (value : Expr)
  | slice (lower upper step : Option Expr)
  | other (kind : String)
  | holder (kind : String) (value : Option Expr)
  deriving Repr

def Expr.kind : Expr → String
  | name _ => "Name"
  | constant _ => "Constant"
  | member .. => "Attribute"
  | subscript .. => "Subscript"
  | call .. => "Call"
  | binary .. => "BinOp"
  | unary .. => "UnaryOp"
  | bool .. => "BoolOp"
  | compare .. | incomplete .. => "Compare"
  | list _ => "List"
  | tuple _ => "Tuple"
  | set _ => "Set"
  | dict _ => "Dict"
  | conditional .. => "IfExp"
  | starred _ => "Starred"
  | slice .. => "Slice"
  | other kind | holder kind _ => kind

/-- A node of a syntax tree: an expression, an operator by itself, any other kind of node, or none
at all. -/
inductive SyntaxNode where
  | expression (e : Expr)
  | arithmetic (op : BinaryOp)
  | relation (op : CompareOp)
  | other (kind : String)
  | absent
  deriving Repr

/-- Statements without a value that only their kind distinguishes. -/
inductive PlainStatement where
  | pass | break | continue | raise | assert | global | nonlocal | import | importFrom
  | functionDef | asyncFunctionDef | classDef | forLoop | asyncFor | whileLoop | ifBlock
  | withBlock | asyncWith
  | matchBlock | tryBlock | tryStar
  deriving DecidableEq, Repr

def PlainStatement.kind : PlainStatement → String
  | pass => "Pass"
  | .break => "Break"
  | .continue => "Continue"
  | raise => "Raise"
  | assert => "Assert"
  | global => "Global"
  | nonlocal => "Nonlocal"
  | .import => "Import"
  | importFrom => "ImportFrom"
  | functionDef => "FunctionDef"
  | asyncFunctionDef => "AsyncFunctionDef"
  | classDef => "ClassDef"
  | forLoop => "For"
  | asyncFor => "AsyncFor"
  | whileLoop => "While"
  | ifBlock => "If"
  | withBlock => "With"
  | asyncWith => "AsyncWith"
  | matchBlock => "Match"
  | tryBlock => "Try"
  | tryStar => "TryStar"

/-- Statements. An assignment and a deletion have a first target and further ones. -/
inductive Statement where
  | assign (target : Expr) (targets : List Expr) (value : Expr)
  | augmented (target : Expr) (op : BinaryOp) (value : Expr)
  | annotated (target declared : Expr) (value : Option Expr)
  | expression (value : Expr)
  | return (value : Option Expr)
  | delete (target : Expr) (targets : List Expr)
  | plain (statement : PlainStatement)
  deriving Repr

def Statement.kind : Statement → String
  | assign .. => "Assign"
  | augmented .. => "AugAssign"
  | annotated .. => "AnnAssign"
  | expression _ => "Expr"
  | .return _ => "Return"
  | delete .. => "Delete"
  | plain s => s.kind

end TaxFlow.Formula
