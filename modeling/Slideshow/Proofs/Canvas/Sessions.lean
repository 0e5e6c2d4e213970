import Slideshow.Proofs.Canvas.Painting

/-!
# Sessions with a cache

A cache lives on from frame to frame. Whatever was loaded, scaled, tinted or dropped before, a frame
looks as if it were the first one: nothing of the history of its cache shows.

## Main definitions

* `Canvas.Frame`, `Canvas.frame`: what a frame leaves behind, also one that breaks off.
* `Canvas.Use`, `Canvas.serve`, `Canvas.framesOf`: what a cache is used for, one use of it, and the
  frames of a sequence of uses.
* `Canvas.paintFrom`: a frame painted without a cache.

## Main statements

* `Canvas.frame_eq`: a frame drawn with a faithful cache is painted as without one.
* `Canvas.faithful_serve`: no use makes a cache unfaithful.
* `Canvas.framesOf_empty`: the frames of a session are those that new caches would have given.
-/

namespace Slideshow.Canvas

variable {α π : Type} [Scalar α] [Pictorial π]

/-- What a frame leaves behind: the surface as it stands, and the number of items drawn unless the
drawing broke off. -/
structure Frame where
  surface : Surface
  drawn : Except NonFinite Nat

/-- The canvas that drawing comes to, be it at the end or at an item that cannot be drawn. -/
def reached (gallery : Gallery π) : Canvas → List (Item α × α) → TextureCache π → Canvas
  | canvas, [], _ => canvas
  | canvas, entry :: entries, cache =>
    match drawItem gallery canvas entry cache with
    | .ok canvas cache => reached gallery canvas entries cache
    | .error _ _ => canvas

/-- A frame, and the cache after it. -/
def frame (gallery : Gallery π) (size : WindowSize) (background : Colour)
    (entries : List (Item α × α)) (cache : TextureCache π) : Frame × TextureCache π :=
  match draw gallery size background entries cache with
  | .ok canvas after => (⟨canvas.surface, .ok canvas.drawn⟩, after)
  | .error kind after =>
    (⟨(reached gallery ⟨.filled size background, 0⟩ entries cache).surface, .error kind⟩, after)

/-- What a cache is used for. -/
inductive Use (α : Type) where
  | preload (sources : List String)
  | raw (source : String)
  | scaled (key : CopyKey)
  | clearScaled
  | frame (size : WindowSize) (background : Colour) (entries : List (Item α × α))

/-- One use of a cache: the frame that comes of it, if any, and the cache after it. There is no copy
of a negative size, but the picture that it was to be made from has been loaded then. -/
def serve (gallery : Gallery π) (cache : TextureCache π) : Use α → Option Frame × TextureCache π
  | .preload sources => (none, cache.loadAll gallery sources)
  | .raw source => (none, cache.load gallery source)
  | .scaled key =>
    (none, if 0 ≤ key.width ∧ 0 ≤ key.height then cache.scale gallery key
      else cache.load gallery key.source)
  | .clearScaled => (none, cache.clearCopies)
  | .frame size background entries =>
    let (frame, after) := frame gallery size background entries cache
    (some frame, after)

/-- The frames of a sequence of uses, in their order. -/
def framesOf (gallery : Gallery π) : TextureCache π → List (Use α) → List Frame
  | _, [] => []
  | cache, use :: uses =>
    let (frame, after) := serve gallery cache use
    frame.toList ++ framesOf gallery after uses

/-- Paints items on a canvas without any cache, as far as that goes. -/
def paintFrom (gallery : Gallery π) : Canvas → List (Item α × α) → Frame
  | canvas, [] => ⟨canvas.surface, .ok canvas.drawn⟩
  | canvas, entry :: entries =>
    match paintItem gallery canvas entry with
    | .ok canvas => paintFrom gallery canvas entries
    | .error kind => ⟨canvas.surface, .error kind⟩

/-- The frame of a use, painted without any cache. -/
def plainFrame? (gallery : Gallery π) : Use α → Option Frame
  | .frame size background entries => some (paintFrom gallery ⟨.filled size background, 0⟩ entries)
  | _ => none

variable {gallery : Gallery π} {cache : TextureCache π}

theorem paintFrom_eq (gallery : Gallery π) (canvas : Canvas) (entries : List (Item α × α)) :
    match entries.foldlM (paintItem gallery) canvas with
    | .ok after => paintFrom gallery canvas entries = ⟨after.surface, .ok after.drawn⟩
    | .error kind => (paintFrom gallery canvas entries).drawn = .error kind := by
  induction entries generalizing canvas with
  | nil => rfl
  | cons entry entries ih =>
    rw [List.foldlM_cons, paintFrom]
    cases paintItem gallery canvas entry with
    | error kind => rfl
    | ok canvas => exact ih canvas

/-- Drawing with a faithful cache comes as far as painting without one. -/
theorem surface_reached (h : cache.Faithful gallery) (canvas : Canvas)
    (entries : List (Item α × α)) :
    (reached gallery canvas entries cache).surface =
      match entries.foldlM (paintItem gallery) canvas with
      | .ok after => after.surface
      | .error _ => (paintFrom gallery canvas entries).surface := by
  induction entries generalizing canvas cache with
  | nil => rfl
  | cons entry entries ih =>
    obtain ⟨between, hbetween, hentry⟩ := drawItem_eq h canvas entry
    rw [reached, hentry, List.foldlM_cons, paintFrom]
    cases paintItem gallery canvas entry with
    | error kind => rfl
    | ok canvas => exact ih hbetween canvas

/-- A frame drawn with a faithful cache is painted as without one, and the cache stays faithful. -/
theorem frame_eq (h : cache.Faithful gallery) (size : WindowSize) (background : Colour)
    (entries : List (Item α × α)) :
    ∃ after, after.Faithful gallery ∧ frame gallery size background entries cache =
      (paintFrom gallery ⟨.filled size background, 0⟩ entries, after) := by
  let blank : Canvas := ⟨.filled size background, 0⟩
  obtain ⟨after, hafter, hdraw⟩ := foldlM_drawItem h blank entries
  have hpaint := paintFrom_eq gallery blank entries
  have hreached := surface_reached h blank entries
  refine ⟨after, hafter, ?_⟩
  rw [frame, draw, hdraw]
  cases hfold : entries.foldlM (paintItem gallery) blank with
  | ok canvas =>
    rw [hfold] at hpaint
    rw [hpaint]
    rfl
  | error kind =>
    rw [hfold] at hpaint hreached
    show (Frame.mk (reached gallery blank entries cache).surface (.error kind), after) = _
    rw [hreached, ← hpaint]

/-- One use of a faithful cache gives the frame that is painted without a cache, if it gives one,
and leaves the cache faithful. -/
theorem faithful_serve (h : cache.Faithful gallery) (use : Use α) :
    (serve gallery cache use).1 = plainFrame? gallery use ∧
      (serve gallery cache use).2.Faithful gallery := by
  cases use with
  | preload sources => exact ⟨rfl, h.loadAll sources⟩
  | raw source => exact ⟨rfl, h.load source⟩
  | scaled key =>
    refine ⟨rfl, ?_⟩
    show TextureCache.Faithful gallery (if _ then _ else _)
    split
    · exact h.scale key
    · exact h.load key.source
  | clearScaled => exact ⟨rfl, h.clearCopies⟩
  | frame size background entries =>
    obtain ⟨after, hafter, hframe⟩ := frame_eq h size background entries
    rw [serve, hframe]
    exact ⟨rfl, hafter⟩

theorem framesOf_eq (h : cache.Faithful gallery) (uses : List (Use α)) :
    framesOf gallery cache uses = uses.filterMap (plainFrame? gallery) := by
  induction uses generalizing cache with
  | nil => rfl
  | cons use uses ih =>
    obtain ⟨hframe, hafter⟩ := faithful_serve h use
    show (serve gallery cache use).1.toList ++ framesOf gallery (serve gallery cache use).2 uses = _
    rw [hframe, ih hafter, List.filterMap_cons]
    cases plainFrame? gallery use <;> rfl

/-- A cache does not show in the pictures. Every frame of a session looks, and counts, as if it were
drawn with a new cache: each item with the picture of its own source at its own size, in the opacity
that it has in this very frame. -/
theorem framesOf_empty (gallery : Gallery π) (uses : List (Use α)) :
    framesOf gallery .empty uses = uses.filterMap (fun use => (serve gallery .empty use).1) ∧
      framesOf gallery .empty uses = uses.filterMap (plainFrame? gallery) := by
  have hempty := TextureCache.faithful_empty gallery
  have hplain := framesOf_eq (α := α) hempty uses
  have hfresh : (fun use : Use α => (serve gallery .empty use).1) = plainFrame? gallery := by
    funext use
    exact (faithful_serve hempty use).1
  exact ⟨hfresh ▸ hplain, hplain⟩

end Slideshow.Canvas
