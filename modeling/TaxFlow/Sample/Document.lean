import TaxFlow.Chart.Basic

/-!
# A sample document

A tax chart of any number of methods that uses every element of charts and every shape of formula,
written as it would be published. One alternative stands behind its condition instead of inside it.
-/
namespace TaxFlow.Sample

def escaped : Char → String
  | '&' => "&amp;"
  | '<' => "&lt;"
  | '>' => "&gt;"
  | c => c.toString

/-- A text as it stands in an attribute. -/
def attributeText (s : String) : String := String.join (s.toList.map escaped)

def leaf (tag : String) (attributes : List (String × String)) : String :=
  "<" ++ tag ++ String.join (attributes.map fun (name, value) =>
    " " ++ name ++ "=\"" ++ attributeText value ++ "\"") ++ "/>"

def around (tag : String) (content : String) : String :=
  "<" ++ tag ++ ">" ++ content ++ "</" ++ tag ++ ">"

def remark (content : String) : String := "<!-- " ++ content ++ " -->"

def evaluation (formula : String) : String := leaf "EVAL" [("exec", formula)]

def execution (method : String) : String := leaf "EXECUTE" [("method", method)]

def condition (formula content : String) : String :=
  "<IF expr=\"" ++ attributeText formula ++ "\">" ++ content ++ "</IF>"

/-- The branches of a condition, one behind the other. -/
def branches (consequent : String) (alternative : Option String) : String :=
  "  " ++ around "THEN" consequent ++
    match alternative with
    | some content => "  " ++ around "ELSE" content
    | none => ""

def method (name content : String) : String :=
  "<METHOD name=\"" ++ name ++ "\">" ++ content ++ "</METHOD>"

def inputs : String :=
  remark "input integer with float default" ++
    leaf "INPUT" [("name", "AF"), ("type", "int"), ("default", "1.0")] ++
  remark "input BigDecimal no default" ++ leaf "INPUT" [("name", "RE4"), ("type", "BigDecimal")] ++
  leaf "INPUT" [("name", "PLAIN"), ("type", "int")] ++
  leaf "INPUT" [("name", "DBL"), ("type", "double")]

def outputs : String :=
  remark "output BigDecimal no default" ++
    leaf "OUTPUT" [("name", "LSTLZZ"), ("type", "BigDecimal")] ++
  remark "output BigDecimal with default" ++
    leaf "OUTPUT" [("name", "BK"), ("type", "BigDecimal"), ("default", "new BigDecimal(0)")] ++
  leaf "OUTPUT" [("name", "OI"), ("type", "int")]

def internals : String :=
  remark "internal double no default" ++ leaf "INTERNAL" [("name", "DFAC"), ("type", "double")] ++
  remark "internal int" ++ leaf "INTERNAL" [("name", "K"), ("type", "int"), ("default", "0")] ++
  leaf "INTERNAL" [("name", "J"), ("type", "int")] ++
  leaf "INTERNAL" [("name", "X"), ("type", "BigDecimal"), ("default", "new BigDecimal(0)")] ++
  leaf "INTERNAL" [("name", "Y"), ("type", "BigDecimal")] ++
  leaf "INTERNAL" [("name", "Z"), ("type", "BigDecimal")]

def constants : String :=
  remark "array constant" ++
    leaf "CONSTANT" [("name", "TAB1"), ("type", "BigDecimal[]"),
      ("value", "\x7bBigDecimal.valueOf(0), BigDecimal.valueOf(1), BigDecimal.valueOf(2)\x7d")] ++
  remark "scalar constant" ++
    leaf "CONSTANT" [("name", "ZAHL1"), ("type", "BigDecimal"), ("value", "BigDecimal.ONE")] ++
  leaf "CONSTANT" [("name", "ZAHL100"), ("type", "BigDecimal"),
    ("value", "BigDecimal.valueOf(100)")]

def assignments : List String :=
  ["X = BigDecimal.valueOf(10)", "Y = BigDecimal.ZERO", "Z = BigDecimal.ONE", "Z = BigDecimal.TEN",
    "K = X.longValue()", "X = X.add(Y)", "X = X.subtract(Y)", "X = X.multiply(Z)",
    "X = X.divide(Z, 2, BigDecimal.ROUND_UP)", "X = X.setScale(2, BigDecimal.ROUND_DOWN)",
    "J = X.compareTo(Y)", "X = TAB1[K]", "K = K + 1 - 2 * 3 / 1", "K = -K", "K = +K",
    "X = BigDecimal.valueOf(3.5)", "X = BigDecimal.valueOf(K)", "X = BigDecimal.valueOf(K + 1)",
    "DFAC = 1.0", "X = BigDecimal.valueOf(DFAC)", "X = BigDecimal.valueOf(X.longValue())",
    "X = new BigDecimal(5)"]

def mainBody : String :=
  execution "MPARA" ++ remark "leading comment for eval" ++
  String.join (assignments.map evaluation) ++
  condition "K == 1" (branches (evaluation "K = 1") (some (evaluation "K = 2"))) ++
  condition "K != 1 && J < 2" (branches (evaluation "K = 3") (some "")) ++
  condition "K <= 1 || J > 2 || J >= 3" (branches "" none) ++
  evaluation "LSTLZZ = ZAHL1.multiply(ZAHL100)" ++
  around "COMMENT" "inline comment element"

/-- The method of a number, which adds the number and may call another method. -/
def numberedMethod (number : Nat) : String :=
  let name := "M" ++ toString number
  remark ("method " ++ name) ++ method name
    (evaluation ("X = X.add(BigDecimal.valueOf(" ++ toString number ++ "))") ++
    condition ("K == " ++ toString number)
      (branches (execution "MPARA") (some (evaluation "K = K.add(BigDecimal.ONE).longValue()"))))

/-- The last method, whose alternative stands behind its condition. -/
def lastMethod : String :=
  remark "MPARA" ++ method "MPARA" (evaluation "X = BigDecimal.valueOf(0)" ++
    condition "K > 0" (around "THEN" (evaluation "K = 1")) ++ around "ELSE" (evaluation "K = 0"))

/-- The document with so many methods besides the main and the last one. -/
def document (methods : Nat) : String :=
  "<PAP name=\"LohnsteuerBench\" version=\"1.0\">\n<VARIABLES>\n  " ++ around "INPUTS" inputs ++
  "\n  " ++ around "OUTPUTS" outputs ++ "\n  " ++ around "INTERNALS" internals ++
  "\n</VARIABLES>\n" ++ around "CONSTANTS" constants ++ "\n<METHODS>\n  " ++
  around "MAIN" mainBody ++ "\n  " ++ String.join ((List.range methods).map numberedMethod) ++
  lastMethod ++ "\n</METHODS>\n</PAP>\n"

def chart (methods : Nat) : Except Fault Chart := Chart.read (.text (document methods))

end TaxFlow.Sample
