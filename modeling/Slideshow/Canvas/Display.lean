import Slideshow.Canvas.Rect

/-!
# Displays

A viewer asks a display for a window in one mode or another, and draws on the window that it gets.

## Main definitions

* `Mode`: what a display is asked for.
* `Display`: the windows that a display gives.
* `Display.ofScreen`: a display with one screen.

## Design notes

How large a window becomes is the matter of the display. It may depend on all that the display was
asked for before, and a window of the size that was asked for is not promised.
-/

namespace Slideshow

/-- What a display is asked for: a window of some size, which covers the screen or does not. A
window without any size takes that of the screen. -/
structure Mode where
  size : WindowSize
  fullscreen : Bool
  deriving DecidableEq, Repr

/-- The size of the window that a display gives, by all that it was asked for, the last of it at the
end. -/
abbrev Display := List Mode → WindowSize

/-- A display with one screen. A window that has once covered the screen keeps its size, and a side
of a smaller one has one pixel at least. -/
def Display.ofScreen (screen : WindowSize) : Display := fun modes =>
  match modes.getLast? with
  | some mode =>
    if modes.any (·.fullscreen) || mode.size == ⟨0, 0⟩ then screen
    else ⟨max 1 mode.size.width, max 1 mode.size.height⟩
  | none => screen

end Slideshow
