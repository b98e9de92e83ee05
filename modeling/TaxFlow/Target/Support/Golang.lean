/-!
# Decimal support for Go

The text that is put in front of generated Go code.
-/
namespace TaxFlow.Support

def golangLines : List String :=
  [ "import \"math\"",
    "",
    "const (",
    "\tROUND_DOWN = 1",
    "\tROUND_UP   = 2",
    ")",
    "",
    "type BigDecimal struct \x7b",
    "\tV float64",
    "\x7d",
    "",
    "func (d BigDecimal) Float64() float64 \x7b",
    "\treturn d.V",
    "\x7d",
    "",
    "func (d BigDecimal) Divide(other BigDecimal, roundParams ...int) BigDecimal \x7b",
    "\tscale := 0",
    "\trounding := 0",
    "\tif len(roundParams) == 2 \x7b",
    "\t\tscale = roundParams[0]",
    "\t\trounding = roundParams[1]",
    "\t\x7d else \x7b",
    "\t\treturn BigDecimal\x7bd.V / other.V\x7d",
    "\t\x7d",
    "",
    "\treturn BigDecimal\x7bd.V / other.V\x7d.SetScale(scale, rounding)",
    "\x7d",
    "",
    "func (d BigDecimal) ValueOf(value float64) BigDecimal \x7b",
    "\treturn BigDecimal\x7bvalue\x7d",
    "\x7d",
    "",
    "func (d BigDecimal) Multiply(other BigDecimal) BigDecimal \x7b",
    "\treturn BigDecimal\x7bd.V * other.V\x7d",
    "\x7d",
    "",
    "func (d BigDecimal) Add(other BigDecimal) BigDecimal \x7b",
    "\treturn BigDecimal\x7bd.V + other.V\x7d",
    "\x7d",
    "",
    "func (d BigDecimal) Subtract(other BigDecimal) BigDecimal \x7b",
    "\treturn BigDecimal\x7bd.V - other.V\x7d",
    "\x7d",
    "",
    "func (d BigDecimal) IntPart() int64 \x7b",
    "\ti, _ := math.Modf(d.V)",
    "\treturn int64(i)",
    "\x7d",
    "",
    "func (d BigDecimal) CompareTo(other BigDecimal) int \x7b",
    "\tif d.V > other.V \x7b",
    "\t\treturn 1",
    "\t\x7d else if d.V < other.V \x7b",
    "\t\treturn -1",
    "\t\x7d",
    "\treturn 0",
    "\x7d",
    "",
    "func (d BigDecimal) SetScale(scale int, rounding int) BigDecimal \x7b",
    "\texp := math.Pow(10, float64(scale))",
    "",
    "\tvar v float64",
    "\tif rounding == ROUND_DOWN \x7b",
    "\t\tif d.V < 0 \x7b",
    "\t\t\tv = math.Ceil(d.V * exp)",
    "\t\t\x7d else \x7b",
    "\t\t\tv = math.Floor(d.V * exp)",
    "\t\t\x7d",
    "\t\x7d else if rounding == ROUND_UP \x7b",
    "\t\tif d.V < 0 \x7b",
    "\t\t\tv = math.Floor(d.V * exp)",
    "\t\t\x7d else \x7b",
    "\t\t\tv = math.Ceil(d.V * exp)",
    "\t\t\x7d",
    "\t\x7d else \x7b",
    "\t\tv = math.Round(d.V * exp)",
    "\t\x7d",
    "\tv = v / exp",
    "\treturn BigDecimal\x7bv\x7d",
    "\x7d",
    "",
    "func NewFromInt(value int64) BigDecimal \x7b",
    "\treturn BigDecimal\x7bfloat64(value)\x7d",
    "\x7d",
    "",
    "func NewFromFloat(value float64) BigDecimal \x7b",
    "\treturn BigDecimal\x7bvalue\x7d",
    "\x7d",
    "" ]

/-- Decimals for generated Go code. -/
def golang : String := "\n".intercalate golangLines

end TaxFlow.Support
