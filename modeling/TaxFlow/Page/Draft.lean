import TaxFlow.Page.Basic

/-!
# Drafts

A page on which single actions are carried out. Blocks that have been entered are remembered, so
that the innermost one can be left, or abandoned without its closing line.
-/
namespace TaxFlow

/-- A single action on a page. Texts may be missing. -/
inductive PageAction where
  | write (content : Option String) (indented : Bool)
  | line (content : Option String) (indented : Bool)
  | feed (count : Int) (indented : Bool)
  | raise (step : Int)
  | lower (step : Int)
  /-- A bare page has nothing to generate. -/
  | generate
  | enter (head : Option String) (step : Int)
  | leave
  | abandon (reason : String)
  deriving DecidableEq, Repr

/-- A page and the steps of the blocks that are open, the innermost first. -/
structure Draft where
  page : Page
  blocks : List Int := []
  deriving DecidableEq, Repr

namespace Draft

/-- Carries out an action. A fault changes nothing on the page. -/
def act (d : Draft) : PageAction → Draft × Option Fault
  | .write content indented => ({ d with page := d.page.write (content.getD "") indented }, none)
  | .line content indented => ({ d with page := d.page.line (content.getD "") indented }, none)
  | .feed count indented => ({ d with page := d.page.feed count indented }, none)
  | .raise step => ({ d with page := d.page.raise step }, none)
  | .lower step => ({ d with page := d.page.lower step }, none)
  | .generate => (d, some .abstractPage)
  | .enter head step => (⟨d.page.enter (shown head) step, step :: d.blocks⟩, none)
  | .leave =>
    match d.blocks with
    | [] => (d, none)
    | step :: blocks => (⟨d.page.leave step, blocks⟩, none)
  | .abandon reason => ({ d with blocks := d.blocks.tail }, some (.abandoned reason))

/-- Carries out actions in order and tells for each what it wrote, the level behind it and its
fault. -/
def run (d : Draft) : List PageAction → List (String × Int × Option Fault)
  | [] => []
  | a :: as =>
    let (d, fault) := d.act a
    (d.page.text, d.page.level, fault) :: run { d with page := d.page.cleared } as

end Draft
end TaxFlow
