import TaxFlow.Formula.Expr

/-!
# Tokens of formulas

Names, words with a fixed meaning, literals and symbols. A token `lineEnd` closes a logical line.
-/
namespace TaxFlow.Formula

/-- Words with a fixed meaning. `reserved` stands for those that no formula contains. -/
inductive Keyword where
  | and | or | not | if | else | in | is | true | false | none
  | return | pass | break | continue | del | raise | from | import | as | assert | global | nonlocal
  | reserved
  deriving DecidableEq, Repr

def keywords : List (String × Keyword) :=
  [("and", .and), ("or", .or), ("not", .not), ("if", .if), ("else", .else),
    ("in", .in), ("is", .is), ("True", .true), ("False", .false), ("None", .none),
    ("return", .return), ("pass", .pass),
    ("break", .break), ("continue", .continue), ("del", .del), ("raise", .raise), ("from", .from),
    ("import", .import), ("as", .as), ("assert", .assert), ("global", .global),
    ("nonlocal", .nonlocal), ("async", .reserved), ("await", .reserved), ("class", .reserved),
    ("def", .reserved), ("elif", .reserved), ("except", .reserved), ("finally", .reserved),
    ("for", .reserved), ("lambda", .reserved), ("try", .reserved), ("while", .reserved),
    ("with", .reserved), ("yield", .reserved)]

inductive Symbol where
  | arith (op : BinaryOp)
  | augment (op : BinaryOp)
  | relation (op : CompareOp)
  | tilde | equals | comma | colon | semicolon | dot | ellipsis
  | openParen | closeParen | openBracket | closeBracket | openBrace | closeBrace
  deriving DecidableEq, Repr

/-- The spellings of the symbols; where one begins another, the longer one comes first. -/
def symbols : List (List Char × Symbol) :=
  [("**=", .augment .pow), ("//=", .augment .floorDiv), (">>=", .augment .shiftRight),
    ("<<=", .augment .shiftLeft), ("...", .ellipsis),
    ("==", .relation .eq), ("!=", .relation .notEq), ("<=", .relation .le), (">=", .relation .ge),
    ("+=", .augment .add), ("-=", .augment .sub), ("*=", .augment .mul), ("/=", .augment .div),
    ("%=", .augment .mod), ("&=", .augment .bitAnd), ("|=", .augment .bitOr),
    ("^=", .augment .bitXor), ("@=", .augment .matMul), ("**", .arith .pow),
    ("//", .arith .floorDiv), ("<<", .arith .shiftLeft), (">>", .arith .shiftRight),
    ("(", .openParen), (")", .closeParen), ("[", .openBracket), ("]", .closeBracket),
    ("\x7b", .openBrace), ("\x7d", .closeBrace), (",", .comma), (":", .colon), (".", .dot),
    (";", .semicolon), ("@", .arith .matMul), ("=", .equals), ("+", .arith .add),
    ("-", .arith .sub), ("*", .arith .mul), ("/", .arith .div), ("%", .arith .mod),
    ("&", .arith .bitAnd), ("|", .arith .bitOr), ("^", .arith .bitXor), ("~", .tilde),
    ("<", .relation .lt), (">", .relation .gt)].map fun (s, x) => (s.toList, x)

/-- A string literal, not yet joined with its neighbours. -/
inductive TextPart where
  | text (value : String) (marked : Bool)
  | bytes (value : List Nat)
  deriving DecidableEq, Repr

inductive Token where
  | name (id : String)
  | keyword (word : Keyword)
  | number (value : Constant)
  | text (part : TextPart)
  | symbol (s : Symbol)
  | lineEnd
  deriving DecidableEq, Repr

end TaxFlow.Formula
