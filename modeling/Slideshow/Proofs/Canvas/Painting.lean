import Slideshow.Canvas.Picture
import Slideshow.Playback.Basic
import Slideshow.Proofs.Canvas.Cache

/-!
# What a frame looks like

Where every picture has one colour and every item is either opaque or invisible, a pixel has the
colour of the topmost item that covers it, and the topmost item is the one declared first.

## Main definitions

* `Pictorial.Laws`: what pictures of one colour are expected to do.
* `Gallery.IsSolid`: a gallery of such pictures.
* `Canvas.paintItem`: painting an item without a cache.
* `Canvas.colourAt`: the colour that an item gives a pixel, if it covers it.
* `Canvas.hasRoom`: whether an item counts as drawn.

## Main statements

* `Canvas.drawItem_eq`, `Canvas.foldlM_drawItem`: a faithful cache does not show.
* `Canvas.paintItem_cases`, `Canvas.foldlM_paintItem_cases`: what a stroke, and what any number of
  strokes do to a surface.
* `Canvas.draw_visible`: the picture of a frame.

## Implementation notes

Which pictures have one colour, and how they are resized and painted, is left open. All that is
supposed of it are the laws, and these say nothing of opacities between none and all, of pixels
beside the surface or of any other picture.
-/

namespace Slideshow

namespace Colour

theorem mix_zero (upper : Nat) {lower : Nat} : mix 0 upper lower = lower := by
  simp [mix]

theorem mix_full {upper : Nat} (lower : Nat) : mix 255 upper lower = upper := by
  simp [mix]

@[simp] theorem blend_zero (upper lower : Colour) : blend 0 upper lower = lower := by
  simp [blend, mix_zero]

@[simp] theorem blend_full (upper lower : Colour) : blend 255 upper lower = upper := by
  simp [blend, mix_full]

end Colour

/-- Whether the pixel in column `i` and row `j` lies on a window. -/
def WindowSize.Holds (size : WindowSize) (i j : Int) : Prop :=
  0 ≤ i ∧ i < size.width ∧ 0 ≤ j ∧ j < size.height

instance (size : WindowSize) (i j : Int) : Decidable (size.Holds i j) :=
  inferInstanceAs (Decidable (_ ∧ _ ∧ _ ∧ _))

/-- What is expected of pictures of one colour. `Solid width height colour t` says that the picture
`t` has this size and this colour throughout, or is transparent throughout if it has none. -/
structure Pictorial.Laws {π : Type} [Pictorial π]
    (Solid : Int → Int → Option Colour → π → Prop) : Prop where
  /-- What stands for a missing picture is one transparent pixel. -/
  missing : Solid 1 1 none missing
  /-- A picture of another size has the colour that it had. -/
  resize : ∀ {width height colour t}, Solid width height colour t →
    ∀ {width' height'}, 0 < width' → 0 < height' →
      Solid width' height' colour (resize t width' height')
  /-- At opacity zero nothing is written. -/
  paint_zero : ∀ {width height colour t}, Solid width height colour t →
    ∀ {surface r i j}, surface.size.Holds i j → paint surface r 0 t i j = surface.pixel i j
  /-- A transparent picture writes nothing. -/
  paint_transparent : ∀ {width height t}, Solid width height none t →
    ∀ {surface r level i j}, surface.size.Holds i j →
      paint surface r level t i j = surface.pixel i j
  /-- At full opacity what lies under the picture is overwritten, and nothing else. -/
  paint_full : ∀ {r colour t}, Solid r.width r.height (some colour) t →
    ∀ {surface i j}, surface.size.Holds i j →
      paint surface r 255 t i j = if r.contains i j then colour else surface.pixel i j

/-- A gallery of pictures of one colour each, which `colours` tells where there is a picture. -/
def Gallery.IsSolid {π : Type} (Solid : Int → Int → Option Colour → π → Prop)
    (gallery : Gallery π) (colours : String → Option Colour) : Prop :=
  ∀ source, Option.Rel (fun t colour => ∃ width height, Solid width height (some colour) t)
    (gallery source) (colours source)

namespace Texture

/-- A texture has a size and a colour, and is nothing else. -/
def IsSolid (width height : Int) (colour : Option Colour) (t : Texture) : Prop :=
  t = ⟨width, height, colour⟩

theorem laws : Pictorial.Laws IsSolid where
  missing := rfl
  resize ht _ _ _ _ := congrArg (Texture.mk _ _) (congrArg Texture.colour ht)
  paint_zero := by
    rintro - - (_ | colour) - rfl surface r i j -
    · rfl
    · simp [Pictorial.paint, paint, Surface.paint]
  paint_transparent := by
    rintro - - - rfl surface r level i j -
    rfl
  paint_full := by
    rintro r colour - rfl surface i j -
    simp [Pictorial.paint, paint, Surface.paint]

end Texture

namespace Canvas

variable {α π : Type} [Scalar α] [Pictorial π]

/-- Paints the picture of a source. -/
def paintCopy (gallery : Gallery π) (canvas : Canvas) (source : String) (r : Rect) (opacity : α) :
    Except NonFinite Canvas :=
  (levelOf opacity).map fun level =>
    let texture := Pictorial.resize (gallery.picture source) r.width r.height
    ⟨stamp canvas.surface r ⟨texture, level⟩, canvas.drawn + 1⟩

/-- Paints an item with the picture of its source, unless its rectangle is empty. -/
def paintItem (gallery : Gallery π) (canvas : Canvas) (entry : Item α × α) :
    Except NonFinite Canvas := do
  let size := canvas.surface.size
  let r ← Rect.ofItem entry.1 size.width size.height
  if r.isEmpty then return canvas
  else paintCopy gallery canvas entry.1.source r entry.2

section Cache

variable {gallery : Gallery π} {cache : TextureCache π}

theorem drawCopy_apply (canvas : Canvas) (source : String) (r : Rect) (opacity : α) :
    let key : CopyKey := ⟨source, r.width, r.height⟩
    drawCopy gallery canvas source r opacity cache = match levelOf opacity with
      | .error kind => .error kind (cache.scale gallery key)
      | .ok level =>
        let tinted := (cache.scale gallery key).setLevel key level
        .ok ⟨((tinted.copies.lookup key).map (stamp canvas.surface r)).getD canvas.surface,
          canvas.drawn + 1⟩ tinted := by
  intro key
  unfold drawCopy
  cases levelOf opacity <;> rfl

/-- With a faithful cache a copy is painted that shows the picture of its source, with the opacity
that it is given now. -/
theorem drawCopy_eq (h : cache.Faithful gallery) (canvas : Canvas) (source : String) (r : Rect)
    (opacity : α) :
    ∃ after, after.Faithful gallery ∧ drawCopy gallery canvas source r opacity cache =
      convert (paintCopy gallery canvas source r opacity) after := by
  let key : CopyKey := ⟨source, r.width, r.height⟩
  have hscale := h.scale key
  obtain ⟨copy, hlookup, htexture⟩ := h.exists_lookup_scale key
  rw [drawCopy_apply, paintCopy]
  cases levelOf opacity with
  | error kind => exact ⟨_, hscale, rfl⟩
  | ok level =>
    refine ⟨_, hscale.setLevel key level, ?_⟩
    -- Whatever opacity the copy had, it is painted with the one that was set last.
    simp only [TextureCache.lookup_setLevel, hlookup, key, htexture, Option.map_some,
      Option.getD_some, Except.map]
    rfl

theorem drawItem_eq (h : cache.Faithful gallery) (canvas : Canvas) (entry : Item α × α) :
    ∃ after, after.Faithful gallery ∧
      drawItem gallery canvas entry cache = convert (paintItem gallery canvas entry) after := by
  simp only [drawItem, paintItem]
  cases Rect.ofItem entry.1 canvas.surface.size.width canvas.surface.size.height with
  | error kind => exact ⟨cache, h, rfl⟩
  | ok r =>
    by_cases hempty : r.isEmpty = true
    · refine ⟨cache, h, ?_⟩
      simp only [bind, EStateM.bind, convert, pure, EStateM.pure, Except.bind, Except.pure,
        if_pos hempty]
    · obtain ⟨after, hafter, hdraw⟩ := drawCopy_eq h canvas entry.1.source r entry.2
      refine ⟨after, hafter, ?_⟩
      simp only [bind, EStateM.bind, convert, pure, EStateM.pure, Except.bind, if_neg hempty]
      exact hdraw

/-- With a faithful cache items are painted with the pictures of their sources. -/
theorem foldlM_drawItem (h : cache.Faithful gallery) (canvas : Canvas)
    (entries : List (Item α × α)) :
    ∃ after, after.Faithful gallery ∧ entries.foldlM (drawItem gallery) canvas cache =
      convert (entries.foldlM (paintItem gallery) canvas) after := by
  induction entries generalizing canvas cache with
  | nil => exact ⟨cache, h, rfl⟩
  | cons entry entries ih =>
    obtain ⟨between, hbetween, hentry⟩ := drawItem_eq h canvas entry
    simp only [List.foldlM_cons, bind, EStateM.bind, hentry]
    cases paintItem gallery canvas entry with
    | error kind => exact ⟨between, hbetween, rfl⟩
    | ok canvas => exact ih hbetween canvas

end Cache

section Solid

variable {Solid : Int → Int → Option Colour → π → Prop} {gallery : Gallery π}
  {colours : String → Option Colour} {size : WindowSize} {i j : Int}

/-- Whether an opacity comes to all of the 255 steps. -/
def isOpaque (opacity : α) : Bool :=
  (Scalar.nearest (opacity * 255)).toOption = some 255

/-- The colour that an item gives a pixel of a surface, if it is opaque, has a picture, and covers
the pixel. -/
def colourAt (colours : String → Option Colour) (size : WindowSize) (i j : Int)
    (entry : Item α × α) : Option Colour :=
  match Rect.ofItem entry.1 size.width size.height with
  | .ok r =>
    if isOpaque entry.2 ∧ 0 < r.width ∧ 0 < r.height ∧ r.contains i j then
      colours entry.1.source
    else none
  | .error _ => none

/-- Whether the rectangle of an item holds a pixel, on the surface or off it. -/
def hasRoom (size : WindowSize) (entry : Item α × α) : Bool :=
  match Rect.ofItem entry.1 size.width size.height with
  | .ok r => 0 < r.width ∧ 0 < r.height
  | .error _ => false

theorem isEmpty_eq_false_iff (r : Rect) : r.isEmpty = false ↔ 0 < r.width ∧ 0 < r.height := by
  simp [Rect.isEmpty]

/-- What is loaded for a source has the colour of its picture, or none if there is no picture. -/
theorem exists_solid_picture (hlaws : Pictorial.Laws Solid)
    (hgallery : gallery.IsSolid Solid colours) (source : String) :
    ∃ width height, Solid width height (colours source) (gallery.picture source) := by
  have hsource := hgallery source
  rw [Gallery.picture]
  generalize gallery source = picture, colours source = colour at hsource
  cases hsource with
  | none => exact ⟨1, 1, hlaws.missing⟩
  | some hsolid => exact hsolid

/-- An opaque copy covers its rectangle, and an invisible one leaves the surface as it is. -/
theorem pixel_stamp (hlaws : Pictorial.Laws Solid) {surface : Surface} {r : Rect}
    {copy : ScaledCopy π} {colour : Option Colour}
    (hcopy : Solid r.width r.height colour copy.texture)
    (hlevel : copy.level = 0 ∨ copy.level = 255) (hpixel : surface.size.Holds i j) :
    (stamp surface r copy).pixel i j =
      (if copy.level = 255 ∧ r.contains i j then colour else none).getD (surface.pixel i j) := by
  show Pictorial.paint surface r copy.level copy.texture i j = _
  cases colour with
  | none => simp [hlaws.paint_transparent hcopy hpixel]
  | some colour =>
    obtain hlevel | hlevel := hlevel
    · simp [hlevel, hlaws.paint_zero hcopy hpixel]
    · rw [hlevel, hlaws.paint_full hcopy hpixel]
      by_cases hcontains : r.contains i j = true <;> simp [hcontains]

theorem size_stamp (surface : Surface) (r : Rect) (copy : ScaledCopy π) :
    (stamp surface r copy).size = surface.size :=
  rfl

theorem levelOf_eq {opacity : α} {n : Int} (h : Scalar.nearest (opacity * 255) = .ok n)
    (hn : n = 0 ∨ n = 255) :
    levelOf opacity = .ok n.toNat ∧ (isOpaque opacity = true ↔ n.toNat = 255) := by
  rw [levelOf, isOpaque, h]
  obtain rfl | rfl := hn <;> simp [Except.map, Except.toOption]

/-- Items were painted on a surface, the last one on top. -/
structure Shows (colours : String → Option Colour) (entries : List (Item α × α))
    (before after : Canvas) : Prop where
  size : after.surface.size = before.surface.size
  pixel : ∀ i j, before.surface.size.Holds i j → after.surface.pixel i j =
    (entries.reverse.findSome? (colourAt colours before.surface.size i j)).getD
      (before.surface.pixel i j)
  drawn : after.drawn = before.drawn + entries.countP (hasRoom before.surface.size)

theorem Shows.nil (canvas : Canvas) : Shows (α := α) colours [] canvas canvas :=
  ⟨rfl, fun _ _ _ => rfl, rfl⟩

theorem Shows.append {lower upper : List (Item α × α)} {before between after : Canvas}
    (h : Shows colours lower before between) (h' : Shows colours upper between after) :
    Shows colours (lower ++ upper) before after where
  size := h'.size.trans h.size
  pixel i j hpixel := by
    rw [h'.pixel i j (h.size ▸ hpixel), h.pixel i j hpixel, h.size, List.reverse_append,
      List.findSome?_append]
    cases upper.reverse.findSome? (colourAt colours before.surface.size i j) <;> rfl
  drawn := by
    rw [h'.drawn, h.drawn, h.size, List.countP_append, Nat.add_assoc]

theorem paintItem_apply (gallery : Gallery π) (canvas : Canvas) (entry : Item α × α) :
    paintItem gallery canvas entry =
      match Rect.ofItem entry.1 canvas.surface.size.width canvas.surface.size.height with
      | .ok r =>
        if r.isEmpty then .ok canvas else paintCopy gallery canvas entry.1.source r entry.2
      | .error kind => .error kind := by
  simp only [paintItem]
  cases Rect.ofItem entry.1 canvas.surface.size.width canvas.surface.size.height <;> rfl

/-- Painting an item that is opaque or invisible fails only if the item has no place. -/
theorem paintItem_cases (hlaws : Pictorial.Laws Solid) (hgallery : gallery.IsSolid Solid colours)
    (canvas : Canvas) {entry : Item α × α} {n : Int}
    (hlevel : Scalar.nearest (entry.2 * 255) = .ok n) (hn : n = 0 ∨ n = 255) :
    (∃ after, paintItem gallery canvas entry = .ok after ∧ Shows colours [entry] canvas after) ∨
      ∃ kind, paintItem gallery canvas entry = .error kind ∧
        Rect.ofItem entry.1 canvas.surface.size.width canvas.surface.size.height = .error kind := by
  have hpaint := paintItem_apply gallery canvas entry
  cases hrect : Rect.ofItem entry.1 canvas.surface.size.width canvas.surface.size.height with
  | error kind => exact .inr ⟨kind, by rw [hpaint, hrect], rfl⟩
  | ok r =>
    simp only [hrect] at hpaint
    have hroom := isEmpty_eq_false_iff r
    cases hempty : r.isEmpty with
    | true =>
      rw [hempty, if_pos rfl] at hpaint
      refine .inl ⟨canvas, hpaint, rfl, fun i j _ => ?_, ?_⟩
      · have : colourAt colours canvas.surface.size i j entry = none := by
          grind [colourAt]
        simp [this]
      · simp [hasRoom, hrect, ← hroom, hempty]
    | false =>
      rw [hempty, if_neg Bool.false_ne_true, paintCopy] at hpaint
      obtain ⟨hlevel, hopaque⟩ := levelOf_eq hlevel hn
      rw [hlevel] at hpaint
      obtain ⟨hwidth, hheight⟩ := hroom.mp hempty
      obtain ⟨_, _, hsolid⟩ := exists_solid_picture hlaws hgallery entry.1.source
      have hcopy := hlaws.resize hsolid hwidth hheight
      refine .inl ⟨_, hpaint, size_stamp .., fun i j hpixel => ?_, ?_⟩
      · have hcolour : colourAt colours canvas.surface.size i j entry =
            if n.toNat = 255 ∧ r.contains i j then colours entry.1.source else none := by
          simp [colourAt, hrect, hopaque, hwidth, hheight]
        rw [pixel_stamp hlaws hcopy (by grind) hpixel]
        simp [hcolour]
      · simp [hasRoom, hrect, ← hroom, hempty]

theorem foldlM_paintItem_cases (hlaws : Pictorial.Laws Solid)
    (hgallery : gallery.IsSolid Solid colours) (canvas : Canvas) {entries : List (Item α × α)}
    (hlevel : ∀ entry ∈ entries, ∃ n, Scalar.nearest (entry.2 * 255) = .ok n ∧ (n = 0 ∨ n = 255)) :
    (∃ after, entries.foldlM (paintItem gallery) canvas = .ok after ∧
        Shows colours entries canvas after) ∨
      ∃ kind, entries.foldlM (paintItem gallery) canvas = .error kind ∧ ∃ entry ∈ entries,
        Rect.ofItem entry.1 canvas.surface.size.width canvas.surface.size.height = .error kind := by
  induction entries generalizing canvas with
  | nil => exact .inl ⟨canvas, rfl, Shows.nil canvas⟩
  | cons entry entries ih =>
    obtain ⟨⟨n, hentry, hn⟩, hentries⟩ := List.forall_mem_cons.mp hlevel
    rw [List.foldlM_cons]
    obtain ⟨between, hpaint, hshows⟩ | ⟨kind, hpaint, hrect⟩ :=
      paintItem_cases hlaws hgallery canvas hentry hn
    · rw [hpaint]
      obtain ⟨after, hpaint, hshows'⟩ | ⟨kind, hpaint, entry', hmem, hrect⟩ := ih between hentries
      · exact .inl ⟨after, hpaint, hshows.append hshows'⟩
      · rw [hshows.size] at hrect
        exact .inr ⟨kind, hpaint, entry', List.mem_cons_of_mem _ hmem, hrect⟩
    · rw [hpaint]
      exact .inr ⟨kind, rfl, entry, List.mem_cons_self, hrect⟩

theorem findSome?_filter {β γ : Type} (q : β → Bool) (f : β → Option γ) (entries : List β) :
    (entries.filter q).findSome? f = entries.findSome? fun b => if q b then f b else none := by
  induction entries with
  | nil => rfl
  | cons b entries ih =>
    rw [List.filter_cons, List.findSome?_cons]
    cases q b with
    | true => rw [if_pos rfl, if_pos rfl, List.findSome?_cons, ih]
    | false => exact ih

/-- From top to bottom the items stand as they were declared. -/
theorem reverse_visible {p : Playback α} (hstarted : p.clock.started = true) :
    p.visible.reverse = (p.timeline.declared.map fun item =>
      (item, item.opacityAt p.clock.frameTime)).filter fun (_, opacity) => 0 < opacity := by
  rw [Playback.visible, if_pos hstarted, Playback.opacities, ← List.filter_reverse,
    ← List.map_reverse, Timeline.declared]

/-- A frame of a show that has begun, with pictures of one colour each and items that are opaque or
invisible, drawn with whatever a faithful cache holds. A pixel on the surface has the colour of the
first declared item that shows, is opaque, has a picture and covers the pixel, and else that of the
background. Every item that shows and has room is counted. No frame is drawn only if there is an
item that has no place. -/
theorem draw_visible (hlaws : Pictorial.Laws Solid) (hgallery : gallery.IsSolid Solid colours)
    (size : WindowSize) (background : Colour) {p : Playback α} {cache : TextureCache π}
    (hstarted : p.clock.started = true) (hcache : cache.Faithful gallery)
    (hlevel : ∀ entry ∈ p.visible,
      ∃ n, Scalar.nearest (entry.2 * 255) = .ok n ∧ (n = 0 ∨ n = 255)) :
    match draw gallery size background p.visible cache with
    | .ok canvas after =>
      after.Faithful gallery ∧ canvas.surface.size = size ∧
      (∀ i j, size.Holds i j →
        canvas.surface.pixel i j = (p.timeline.declared.findSome? fun item =>
          let opacity := item.opacityAt p.clock.frameTime
          if 0 < opacity then colourAt colours size i j (item, opacity) else none).getD
            background) ∧
      canvas.drawn = p.visible.countP (hasRoom size)
    | .error kind after => after.Faithful gallery ∧
      ∃ entry ∈ p.visible, Rect.ofItem entry.1 size.width size.height = .error kind := by
  let blank : Canvas := ⟨.filled size background, 0⟩
  obtain ⟨after, hafter, hdraw⟩ := foldlM_drawItem hcache blank p.visible
  replace hdraw : draw gallery size background p.visible cache =
    convert (p.visible.foldlM (paintItem gallery) blank) after := hdraw
  rw [hdraw]
  obtain ⟨canvas, hpaint, hshows⟩ | ⟨kind, hpaint, hrect⟩ :=
    foldlM_paintItem_cases hlaws hgallery blank hlevel
  · rw [hpaint]
    -- What was painted last is on top, and it is what was declared first.
    refine ⟨hafter, hshows.size, fun i j hpixel => ?_, hshows.drawn.trans (Nat.zero_add _)⟩
    rw [hshows.pixel i j hpixel, reverse_visible hstarted, findSome?_filter, List.findSome?_map]
    simp [Function.comp_def, blank, Surface.filled]
  · rw [hpaint]
    exact ⟨hafter, hrect⟩

/-- Two pictures and a missing one, the first in the lower left quarter, over everything below; an
item beside the window and one that has just begun to fade in. -/
theorem draw_visible_quarter :
    let red : Colour := ⟨255, 0, 0⟩
    let blue : Colour := ⟨0, 0, 255⟩
    let gallery : Gallery := fun source =>
      if source = "red.jpg" then some ⟨3, 2, some red⟩
      else if source = "blue.jpg" then some ⟨3, 2, some blue⟩ else none
    let colours : String → Option Colour := fun source =>
      if source = "red.jpg" then some red else if source = "blue.jpg" then some blue else none
    let timeline : Timeline Rat := .addAll .empty [
      ⟨"none.jpg", ⟨0, 0⟩, ⟨1, 1⟩, 0, 5, 0, 0⟩,
      ⟨"red.jpg", ⟨0, 0⟩, ⟨1 / 2, 1 / 2⟩, 0, 5, 0, 0⟩,
      ⟨"blue.jpg", ⟨0, 0⟩, ⟨1, 3 / 4⟩, 0, 5, 0, 0⟩,
      ⟨"red.jpg", ⟨1, 1⟩, ⟨1, 1⟩, 0, 5, 0, 0⟩,
      ⟨"red.jpg", ⟨0, 0⟩, ⟨1, 1⟩, 2 - 1 / 1000, 5, 1, 0⟩,
      ⟨"red.jpg", ⟨0, 0⟩, ⟨1, 1⟩, 3, 5, 0, 0⟩]
    let p := ((Playback.ofTimeline timeline).start 0).2.tick 2 |>.2
    gallery.IsSolid Texture.IsSolid colours ∧
    match draw gallery ⟨4, 4⟩ ⟨9, 9, 9⟩ p.visible .empty with
    | .ok canvas _ =>
      canvas.surface.pixel 1 2 = red ∧ canvas.surface.pixel 2 2 = blue ∧
        canvas.surface.pixel 1 1 = blue ∧ canvas.surface.pixel 1 0 = ⟨9, 9, 9⟩ ∧ canvas.drawn = 5
    | .error _ _ => False := by
  intro red blue gallery colours timeline p
  have hgallery : gallery.IsSolid Texture.IsSolid colours := by
    intro source
    dsimp only [gallery, colours]
    split
    · exact .some ⟨3, 2, rfl⟩
    · split
      · exact .some ⟨3, 2, rfl⟩
      · exact .none
  have hstarted : p.clock.started = true := rfl
  have hround : ∀ entry ∈ p.visible,
      Rounding.nearest (entry.2 * 255) = 0 ∨ Rounding.nearest (entry.2 * 255) = 255 := by
    decide +kernel
  have h := draw_visible Texture.laws hgallery ⟨4, 4⟩ ⟨9, 9, 9⟩ hstarted
    (TextureCache.faithful_empty gallery) fun entry hentry => ⟨_, rfl, hround entry hentry⟩
  refine ⟨hgallery, ?_⟩
  revert h
  cases draw gallery ⟨4, 4⟩ ⟨9, 9, 9⟩ p.visible .empty with
  | ok canvas _ =>
    rintro ⟨-, -, hpixel, hdrawn⟩
    simp only [hpixel 1 2 (by decide), hpixel 2 2 (by decide), hpixel 1 1 (by decide),
      hpixel 1 0 (by decide), hdrawn]
    decide +kernel
  | error kind _ =>
    rintro ⟨-, entry, -, hrect⟩
    exact nomatch hrect.symm.trans (rfl : Rect.ofItem entry.1 (4 : Nat) (4 : Nat) = .ok _)

end Solid

end Canvas

end Slideshow
