import TaxFlow.Fault

/-!
# Pages

A page is indented text that grows at its end. Its level may be lowered below zero, where it indents
nothing.
-/
namespace TaxFlow

structure PageStyle where
  indent : String := "    "
  opening : String := " \x7b"
  closing : Option String := some "\x7d"
  deriving DecidableEq, Repr

structure Page where
  style : PageStyle
  level : Int := 0
  text : String := ""
  deriving DecidableEq, Repr

/-- A text written several times over, or not at all for a count that is not positive. -/
def repeated (s : String) (count : Int) : String := String.join (List.replicate count.toNat s)

/-- The text for something that may be missing. -/
def shown : Option String → String
  | some s => s
  | none => "None"

namespace Page

def margin (p : Page) : String := repeated p.style.indent p.level

/-- Writes a text at the end, behind the margin if it is to be indented. An empty text writes
nothing. -/
def write (p : Page) (content : String) (indented : Bool := true) : Page :=
  if content.isEmpty then p
  else if indented then { p with text := p.text ++ p.margin ++ content }
  else { p with text := p.text ++ content }

def feed (p : Page) (count : Int := 1) (indented : Bool := false) : Page :=
  p.write (repeated "\n" count) indented

def line (p : Page) (content : String) (indented : Bool := true) : Page :=
  (p.write content indented).feed

def raise (p : Page) (step : Int := 1) : Page := { p with level := p.level + step }

/-- Lowers the level, unless there is none left. -/
def lower (p : Page) (step : Int := 1) : Page :=
  if 0 < p.level then { p with level := p.level - step } else p

/-- Begins a block: its head as a line, then a higher level. -/
def enter (p : Page) (head : String) (step : Int := 1) : Page :=
  (p.line (head ++ p.style.opening)).raise step

/-- Ends a block: the lower level, then the closing line if the style has one. -/
def leave (p : Page) (step : Int := 1) : Page :=
  let p := p.lower step
  match p.style.closing with
  | some closing => if closing.isEmpty then p else p.line closing
  | none => p

def cleared (p : Page) : Page := { p with text := "" }

end Page
end TaxFlow
