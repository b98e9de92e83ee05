/-!
# Decimal support for PHP

The text that is put in front of generated PHP code.
-/
namespace TaxFlow.Support

def phpLines : List String :=
  [ "use Brick\\Math\\BigDecimal as BaseBigDecimal;",
    "use Brick\\Math\\RoundingMode as RoundingMode;",
    "",
    "/**",
    " * A proxy class to use BigDecimal methods",
    " * as they are found in PAP XML.",
    " * Requires brick/math >= 0.6.0",
    " */",
    "class BigDecimal \x7b",
    "",
    "    const ROUND_DOWN = RoundingMode::DOWN;",
    "    const ROUND_UP = RoundingMode::UP;",
    "",
    "    private $bd;",
    "",
    "    public function __construct($value) \x7b",
    "        $this->bd = BaseBigDecimal::of($value);",
    "    \x7d",
    "",
    "    public function divide($other, $scale=null, $rounding=null) \x7b",
    "        if (!$scale && !$rounding) \x7b",
    "            return new BigDecimal($this->bd->exactlyDividedBy($other));",
    "        \x7d",
    "        return new BigDecimal($this->bd->dividedBy($other, $scale, $rounding));",
    "    \x7d",
    "",
    "    public static function valueOf($value) \x7b",
    "        return new BigDecimal($value);",
    "    \x7d",
    "",
    "    public function multiply($other) \x7b",
    "        return new BigDecimal($this->bd->multipliedBy($other));",
    "    \x7d",
    "",
    "    public function setScale($scale, $rounding) \x7b",
    "        return new BigDecimal($this->bd->toScale($scale, $rounding));",
    "    \x7d",
    "",
    "    public function add($other) \x7b",
    "        return new BigDecimal($this->bd->plus($other));",
    "    \x7d",
    "",
    "    public function subtract($other) \x7b",
    "        return new BigDecimal($this->bd->minus($other));",
    "    \x7d",
    "",
    "    public function longValue() \x7b",
    "        return $this->bd->toInt();",
    "    \x7d",
    "",
    "    public function floatValue() \x7b",
    "        return $this->bd->toFloat();",
    "    \x7d",
    "",
    "    public function compareTo($other) \x7b",
    "        return $this->bd->compareTo($other);",
    "    \x7d",
    "",
    "    public function __toString() \x7b",
    "        return $this->bd->__toString();",
    "    \x7d",
    "",
    "    public static function zero() \x7b",
    "        return BigDecimal::valueOf(0);",
    "    \x7d",
    "",
    "    public static function one() \x7b",
    "        return BigDecimal::valueOf(1);",
    "    \x7d",
    "",
    "    public static function ten() \x7b",
    "        return BigDecimal::valueOf(10);",
    "    \x7d",
    "",
    "\x7d",
    "" ]

/-- Decimals for generated PHP code. -/
def php : String := "\n".intercalate phpLines

end TaxFlow.Support
