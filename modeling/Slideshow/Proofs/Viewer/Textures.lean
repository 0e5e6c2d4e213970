import Slideshow.Proofs.Canvas.Memory
import Slideshow.Proofs.Viewer.Changes

/-!
# The textures of a viewer

A viewer loads the pictures of its timeline before the first pass, and no picture afterwards. The
copies that it keeps are of the sizes that the items have on the present window, since it forgets
them all whenever it asks for another one; so there are never more copies than items.

## Main definitions

* `Viewer.IsFurnished`: a viewer that has the textures of a timeline, and copies for its window.

## Main statements

* `Viewer.IsFurnished.heed`, `Viewer.IsFurnished.shown`: what messages and frames preserve.
* `Viewer.Progress.textures_of_run`: every run.
-/

namespace Slideshow

namespace Playback

variable {α : Type} [Scalar α] {p : Playback α}

theorem timeline_tick (now : α) (p : Playback α) : (p.tick now).2.timeline = p.timeline := by
  rw [tick]
  split <;> rfl

theorem mem_layers_of_mem_visible {entry : Item α × α} (h : entry ∈ p.visible) :
    entry.1 ∈ p.timeline.layers := by
  rw [visible] at h
  split at h
  · obtain ⟨item, hitem, rfl⟩ := List.mem_map.mp (List.mem_filter.mp h).1
    exact hitem
  · cases h

end Playback

namespace Viewer

variable {α : Type} [Scalar α] {studio : Studio} {timeline : Timeline α} {v : Viewer α}

open TextureCache (Holds)

/-- The viewer plays a timeline, has its pictures, and keeps copies for the window that it has. -/
structure IsFurnished (studio : Studio) (timeline : Timeline α) (v : Viewer α) : Prop where
  plays : v.playback.timeline = timeline
  holds : Holds studio.gallery timeline.sources
    (timeline.copyKeys (v.window studio)) v.textures

theorem isFurnished_setUp (studio : Studio) (timeline : Timeline α) (song : String)
    (songExists : Bool) : IsFurnished studio timeline (setUp studio timeline song songExists) :=
  ⟨rfl, .loadAll timeline.nodup_sources _⟩

theorem IsFurnished.heed (h : IsFurnished studio timeline v) (now : α) (message : Json) :
    IsFurnished studio timeline (v.heed studio now message) := by
  rw [Viewer.heed]
  cases Action.ofMessage? message with
  | none => exact ⟨h.plays, h.holds⟩
  | some a =>
    cases a with
    | quit | toggleOverlay => exact ⟨h.plays, h.holds⟩
    | start =>
      refine ⟨?_, h.holds⟩
      show (v.playback.start now).2.timeline = timeline
      rw [Playback.start_eq]
      exact h.plays
    | toggleFullscreen => exact ⟨h.plays, h.holds.clearCopies _⟩

theorem IsFurnished.shown (h : IsFurnished studio timeline v) (now : α) (drawn : Nat) :
    IsFurnished studio timeline (v.shown studio now drawn) := by
  have htimeline : (v.advance now).playback.timeline = timeline := by
    rw [playback_advance, Playback.timeline_tick, h.plays]
  have hbefore : Holds studio.gallery timeline.sources
      (timeline.copyKeys ((v.advance now).window studio)) (v.advance now).textures := by
    rw [window_advance, textures_advance]
    exact h.holds
  have hleaves : Canvas.Leaves studio.gallery _ timeline (drawing studio (v.advance now)) :=
    Canvas.leaves_draw hbefore studio.settings.background fun entry hentry =>
      htimeline ▸ Playback.mem_layers_of_mem_visible hentry
  refine ⟨htimeline, ?_⟩
  rw [Viewer.shown]
  cases hdrawing : drawing studio (v.advance now) with
  | ok canvas cache =>
    rw [hdrawing] at hleaves
    exact hleaves.2
  | error kind cache =>
    rw [hdrawing] at hleaves
    exact hleaves

namespace Progress

variable {s : Progress α} {moves : List (Move α)}

/-- Every run of the viewer of a timeline, at any moment. The textures are those that were loaded in
the beginning, one for each source of the timeline, or what stands for a picture that cannot be
loaded, and nothing has been loaded since. Every copy is of the size that some item has on the
window that the display gives for all that it was asked for, none is made twice, and so there are no
more copies than items. -/
theorem textures_of_run {song : String} {songExists : Bool} {earlier : List Arrival}
    (hrun : run studio moves (begin (setUp studio timeline song songExists) earlier) = some s) :
    let size := studio.settings.display s.viewer.modes
    s.viewer.textures.loads = (setUp studio timeline song songExists).textures.loads ∧
    s.viewer.textures.loads =
      timeline.sources.map (fun source => (source, (studio.gallery source).isSome)) ∧
    s.viewer.textures.loaded = (setUp studio timeline song songExists).textures.loaded ∧
    s.viewer.textures.loaded =
      timeline.sources.map (fun source => (source, studio.gallery.picture source)) ∧
    timeline.sources.Nodup ∧
    (∀ source, source ∈ timeline.sources ↔ ∃ item ∈ timeline.layers, item.source = source) ∧
    (∀ key ∈ s.viewer.textures.copies.map Prod.fst, ∃ item ∈ timeline.layers, ∃ r,
      Rect.ofItem item size.width size.height = .ok r ∧
        key = ⟨item.source, r.width, r.height⟩) ∧
    (s.viewer.textures.copies.map Prod.fst).Nodup ∧
    s.viewer.textures.copies.length ≤ timeline.size := by
  intro size
  have hbegin := isFurnished_setUp studio timeline song songExists
  have hs : IsFurnished studio timeline s.viewer := by
    refine viewer_of_run (IsFurnished studio timeline) (fun _ _ h => ?_)
      (fun _ now message h => h.heed now message) (fun _ now drawn h => h.shown now drawn)
      (fun _ h => ?_) ?_ hrun
    · exact ⟨h.plays, h.holds⟩
    · exact ⟨h.plays, h.holds⟩
    · exact ⟨hbegin.plays, hbegin.holds⟩
  refine ⟨hs.holds.loads.trans hbegin.holds.loads.symm, hs.holds.loads,
    hs.holds.loaded.trans hbegin.holds.loaded.symm, hs.holds.loaded,
    timeline.nodup_sources, fun _ => Timeline.mem_sources, fun key hkey => ?_, hs.holds.nodup,
    Nat.le_trans hs.holds.length_le (timeline.length_copyKeys_le size)⟩
  exact Timeline.mem_copyKeys.mp (hs.holds.asked key hkey)

/-- A run of three passes with one item, whose picture is missing. The window covers the screen from
the second pass on, and in the third one not any more. The copies for earlier windows are gone. -/
theorem textures_of_run_toggled :
    let display : Display := fun modes =>
      if modes.getLast?.any (·.fullscreen) then ⟨1024, 768⟩ else ⟨1280, 360⟩
    let studio : Studio := ⟨{ fullscreen := false, display := display }, fun _ => none⟩
    let timeline : Timeline Rat := .add .empty ⟨"a.jpg", ⟨0, 0⟩, ⟨1 / 2, 1⟩, 0, 5, 0, 1⟩
    let pass (now : Rat) : List (Move Rat) := List.replicate 5 (.work now)
    let moves : List (Move Rat) := .command 1 "start" :: .look [] :: pass 1 ++
      .command 1 "fullscreen" :: .look [] :: pass 2
    let moves' : List (Move Rat) := .command 1 "fullscreen" :: .look [] :: pass 3
    ∃ s s', run studio moves (begin (setUp studio timeline "" false) []) = some s ∧
      run studio (moves ++ moves') (begin (setUp studio timeline "" false) []) = some s' ∧
      s.viewer.textures.copies.map Prod.fst = [⟨"a.jpg", 512, 768⟩] ∧
      s'.viewer.textures.copies.map Prod.fst = [⟨"a.jpg", 640, 360⟩] ∧
      s'.viewer.textures.loads = [("a.jpg", false)] ∧
      s'.viewer.textures.loaded = [("a.jpg", .missing)] ∧
      s'.viewer.textures.copies.length ≤ timeline.size := by
  intro display studio timeline pass moves moves'
  have hkeys : ∀ (moves : List (Move Rat)) (keys : List CopyKey),
      ((run studio moves (begin (setUp studio timeline "" false) [])).any fun s =>
        decide (s.viewer.textures.copies.map Prod.fst = keys)) = true →
      ∃ s, run studio moves (begin (setUp studio timeline "" false) []) = some s ∧
        s.viewer.textures.copies.map Prod.fst = keys := by
    intro moves keys h
    obtain ⟨s, hrun, hlast⟩ := (Option.any_eq_true ..).mp h
    exact ⟨s, hrun, of_decide_eq_true hlast⟩
  obtain ⟨s, hrun, hs⟩ := hkeys moves [⟨"a.jpg", 512, 768⟩] (by decide +kernel)
  obtain ⟨s', hrun', hs'⟩ := hkeys (moves ++ moves') [⟨"a.jpg", 640, 360⟩] (by decide +kernel)
  obtain ⟨-, hloads, -, hloaded, -, -, -, -, hlength⟩ := textures_of_run hrun'
  exact ⟨s, s', hrun, hrun', hs, hs', hloads, hloaded, hlength⟩

end Progress

end Viewer

end Slideshow
