/-!
# Controls

Some control characters would move the cursor of a console or ring its bell; they are never shown.

* `Console.dropControls` takes them out of a text.
-/

namespace Disposal.Console

/-- Controls that are never shown: bell, backspace, vertical tab, form feed, carriage return. -/
def isDroppedControl (c : Char) : Bool :=
  let n := c.toNat
  n = 7 || n = 8 || n = 11 || n = 12 || n = 13

/-- A text without the controls that are never shown. -/
def dropControls (s : List Char) : List Char := s.filter fun c => !isDroppedControl c

end Disposal.Console
