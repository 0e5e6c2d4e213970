import Mathlib.Data.List.Forall2
import Slideshow.Playback.Overlay
import Slideshow.Proofs.Playback.Reached
import Slideshow.Remote.Status
import Slideshow.Timeline.Table

/-!
# Views of a show

What shows is told in four ways: as the items to be drawn, as the payload of the remote, as the
lines of the overlay and, without opacities, as the table of the timeline. They agree at every state
that playback can get into.

Only the overlay can fail, for want of a text for an infinite time. It computes the time that an
item has left, and that is infinite if the clock is far enough before its beginning.

## Main definitions

* `Overlay.Overflows`: an item with an infinite time left.
* `Overlay.TellsAll`: the overlay with a line for each item that shows.
* `Payload.seen`, `Payload.unseen`: the entries of a payload by their opacity.

## Main statements

* `Overlay.lines_of_started`: when the overlay has all its lines, and when it fails.
* `Playback.seen_eq_visible`: the items that the remote tells of.
* `Playback.views_agree`: the four views.
-/

namespace Slideshow

open Binary64

section Lists

variable {ε β γ : Type} {f : β → Except ε γ} {l : List β}

theorem exists_mapM_eq_ok (h : ∀ x ∈ l, ∃ y, f x = .ok y) :
    ∃ ys, l.mapM f = .ok ys ∧ List.Forall₂ (fun x y => f x = .ok y) l ys := by
  induction l with
  | nil => exact ⟨[], rfl, .nil⟩
  | cons x l ih =>
    obtain ⟨⟨y, hy⟩, hl⟩ := List.forall_mem_cons.mp h
    obtain ⟨ys, hys, hforall⟩ := ih hl
    refine ⟨y :: ys, ?_, .cons hy hforall⟩
    rw [List.mapM_cons, hy, hys]
    rfl

theorem mapM_eq_error {e : ε} (h : ∀ x ∈ l, (∃ y, f x = .ok y) ∨ f x = .error e)
    (hmem : ∃ x ∈ l, f x = .error e) : l.mapM f = .error e := by
  induction l with
  | nil => obtain ⟨x, hx, -⟩ := hmem; cases hx
  | cons x l ih =>
    obtain ⟨⟨y, hy⟩ | hx, hl⟩ := List.forall_mem_cons.mp h
    · obtain ⟨x', hx', herror⟩ := hmem
      obtain rfl | hx' := List.mem_cons.mp hx'
      · rw [hy] at herror
        cases herror
      · rw [List.mapM_cons, hy, ih hl ⟨x', hx', herror⟩]
        rfl
    · rw [List.mapM_cons, hx]
      rfl

end Lists

namespace Overlay

variable {p : Playback Float} {time seconds : Float} {entry : Item Float × Float}

theorem exists_clockText (h : exact seconds ≠ .error .positiveInfinity) :
    ∃ text, clockText seconds = .ok text := by
  rw [clockText]
  split
  · next hpos =>
    rw [Scalar.truncate]
    show ∃ text, Except.map _ (Except.map Rounding.truncate (exact seconds)) = .ok text
    cases hexact : exact seconds with
    | ok x => exact ⟨_, rfl⟩
    | error kind =>
      cases kind with
      | positiveInfinity => exact absurd hexact h
      | negativeInfinity => exact absurd hpos (not_lt_of_negativeInfinity exact_zero hexact)
      | notANumber => exact absurd hpos (not_lt_of_notANumber hexact)
  · exact ⟨_, rfl⟩

theorem clockText_of_infinite (h : exact seconds = .error .positiveInfinity) :
    clockText seconds = .error .positiveInfinity := by
  have htruncate : Scalar.truncate seconds = .error .positiveInfinity := congrArg (Except.map _) h
  rw [clockText, htruncate]
  split
  · rfl
  · next hneg => exact absurd (lt_of_infinite exact_zero h) hneg

/-- The time that an item has left at `time` is infinite. -/
def Overflows (time : Float) (entry : Item Float × Float) : Prop :=
  exact (entry.1.finish - time) = .error .positiveInfinity

theorem exists_itemLine (h : ¬Overflows time entry) : ∃ line, itemLine time entry = .ok line := by
  obtain ⟨left, hleft⟩ := exists_clockText h
  rw [itemLine, hleft]
  exact ⟨_, rfl⟩

theorem itemLine_of_overflows (h : Overflows time entry) :
    itemLine time entry = .error .positiveInfinity := by
  rw [itemLine, clockText_of_infinite h]
  rfl

theorem lines_of_unbegun (h : p.clock.started = false) (hlength : IsFinite p.timeline.length) :
    ∃ line, lines p = .ok [line] := by
  obtain ⟨total, htotal⟩ := exists_clockText hlength.ne_infinite
  rw [lines, h, htotal]
  exact ⟨_, rfl⟩

/-- The overlay has a head of three lines, and a line for each item that shows, in their order. -/
def TellsAll (p : Playback Float) : Prop :=
  ∃ time total lines, clockText p.clock.frameTime = .ok time ∧
    clockText p.timeline.length = .ok total ∧
    Overlay.lines p = .ok (["Position   " ++ time ++ " / " ++ total,
      "Loop       #" ++ toString p.loops, "--  visible  --"] ++ lines) ∧
    List.Forall₂ (fun entry line => itemLine p.clock.frameTime entry = .ok line) p.visible lines

/-- The overlay of a show that has begun tells of all that shows, and fails if something of it has
no text for the time that it has left. -/
theorem lines_of_started (h : p.clock.started = true) (hlength : IsFinite p.timeline.length)
    (htime : Scalar.belowInfinity p.clock.frameTime = true) :
    ((∀ entry ∈ p.visible, ¬Overflows p.clock.frameTime entry) → TellsAll p) ∧
    ((∃ entry ∈ p.visible, Overflows p.clock.frameTime entry) →
      Overlay.lines p = .error .positiveInfinity) := by
  obtain ⟨total, htotal⟩ := exists_clockText hlength.ne_infinite
  obtain ⟨time, htime⟩ := exists_clockText (ne_infinite_of_belowInfinity htime)
  constructor
  · intro hfinite
    obtain ⟨lines, hlines, hforall⟩ := exists_mapM_eq_ok fun entry hentry =>
      exists_itemLine (hfinite entry hentry)
    refine ⟨time, total, lines, htime, htotal, ?_, hforall⟩
    rw [Overlay.lines, if_pos h, htime, htotal, hlines]
    rfl
  · intro hoverflow
    have hlines : p.visible.mapM (itemLine p.clock.frameTime) = .error .positiveInfinity := by
      refine mapM_eq_error (fun entry _ => ?_) ?_
      · by_cases hentry : Overflows p.clock.frameTime entry
        · exact .inr (itemLine_of_overflows hentry)
        · exact .inl (exists_itemLine hentry)
      · obtain ⟨entry, hmem, hentry⟩ := hoverflow
        exact ⟨entry, hmem, itemLine_of_overflows hentry⟩
    rw [Overlay.lines, if_pos h, htime, htotal, hlines]
    rfl

end Overlay

section Entries

variable {α : Type} [Scalar α]

/-- Every item but those with an opacity of zero or less. -/
def Playback.withoutClear (p : Playback α) : List (Item α × α) :=
  p.opacities.filter fun (_, opacity) => !decide (opacity ≤ (0 : α))

/-- The items of a payload with an opacity above zero. -/
def Payload.seen (payload : Payload α) : List (Item α × α) :=
  (payload.items.filter fun entry => (0 : α) < entry.opacity).map fun entry =>
    (entry.item, entry.opacity)

/-- The other entries of a payload. -/
def Payload.unseen (payload : Payload α) : List (PayloadItem α) :=
  payload.items.filter fun entry => ¬(0 : α) < entry.opacity

theorem Playback.map_fst_opacities (p : Playback α) :
    p.opacities.map Prod.fst = p.timeline.layers := by
  simp [opacities, Function.comp_def]

theorem Payload.map_item_ofPlayback (p : Playback α) :
    (ofPlayback p).items.map PayloadItem.item = p.timeline.layers := by
  simp [ofPlayback, Playback.opacities, Function.comp_def]

theorem Payload.opacity_of_unbegun {p : Playback α} (h : p.clock.started = false)
    {entry : PayloadItem α} (hentry : entry ∈ (ofPlayback p).items) : entry.opacity = (0 : α) := by
  obtain ⟨pair, -, rfl⟩ := List.mem_map.mp hentry
  exact if_neg (by simp [h])

theorem Payload.seen_of_started {p : Playback α} (h : p.clock.started = true) :
    (ofPlayback p).seen = p.visible := by
  simp [seen, ofPlayback, Playback.visible, h, List.filter_map, Function.comp_def]

theorem Payload.exists_mem_opacities {p : Playback α} (h : p.clock.started = true)
    {entry : PayloadItem α} (hentry : entry ∈ (ofPlayback p).items) :
    (entry.item, entry.opacity) ∈ p.opacities := by
  obtain ⟨pair, hpair, rfl⟩ := List.mem_map.mp hentry
  simpa [h] using hpair

end Entries

namespace Playback

variable {timeline : Timeline Float} {p : Playback Float}

theorem visible_of_unbegun (h : p.clock.started = false) : p.visible = [] :=
  if_neg (by simp [h])

theorem mem_opacities_of_mem_visible {entry : Item Float × Float} (h : entry ∈ p.visible) :
    entry ∈ p.opacities := by
  rw [visible] at h
  split at h
  · exact (List.mem_filter.mp h).1
  · cases h

/-- What has an opacity above zero and what has one that is not zero or less is the same. -/
theorem Sound.visible_eq_withoutClear (hp : Sound timeline p)
    (htimed : ∀ item ∈ timeline.layers, item.Timed) (h : p.clock.started = true) :
    p.visible = p.withoutClear := by
  rw [visible, if_pos h, withoutClear]
  refine List.filter_congr fun entry hentry => ?_
  obtain ⟨o, ho, -, -⟩ := hp.atMost_opacity htimed hentry
  have hiff : (Scalar.ofInt 0 : Float) < entry.2 ↔ ¬entry.2 ≤ Scalar.ofInt 0 := by
    rw [lt_iff exact_zero ho, le_iff ho exact_zero, not_le]
  exact (decide_eq_decide.mpr hiff).trans decide_not

/-- Before the show begins, too, the remote tells of what shows. -/
theorem seen_eq_visible (p : Playback Float) : (Payload.ofPlayback p).seen = p.visible := by
  cases h : p.clock.started with
  | true => exact Payload.seen_of_started h
  | false =>
    rw [visible_of_unbegun h, Payload.seen, List.map_eq_nil_iff, List.filter_eq_nil_iff]
    intro entry hentry
    rw [Payload.opacity_of_unbegun h hentry, decide_eq_true_eq]
    exact mt (lt_iff exact_zero exact_zero).mp (lt_irrefl 0)

theorem Sound.opacity_of_unseen (hp : Sound timeline p)
    (htimed : ∀ item ∈ timeline.layers, item.Timed) {entry : PayloadItem Float}
    (hentry : entry ∈ (Payload.ofPlayback p).unseen) : exact entry.opacity = .ok 0 := by
  obtain ⟨hmem, hunseen⟩ := List.mem_filter.mp hentry
  cases h : p.clock.started with
  | false =>
    rw [Payload.opacity_of_unbegun h hmem]
    exact exact_zero
  | true =>
    obtain ⟨o, ho, hnonneg, -⟩ := hp.atMost_opacity htimed (Payload.exists_mem_opacities h hmem)
    have hle := not_lt.mp (mt (lt_iff exact_zero ho).mpr (of_decide_eq_true hunseen))
    rw [ho, le_antisymm hle hnonneg]

/-- Behind the beginning of the show every item that shows has a finite time left. -/
theorem Sound.not_overflows (hp : Sound timeline p) (htimed : ∀ item ∈ timeline.layers, item.Timed)
    {time : Rat} (htime : exact p.clock.frameTime = .ok time) (h : 0 ≤ time)
    {entry : Item Float × Float} (hentry : entry ∈ p.visible) :
    ¬Overlay.Overflows p.clock.frameTime entry := by
  obtain ⟨item, hitem, rfl⟩ := List.mem_map.mp (mem_opacities_of_mem_visible hentry)
  obtain ⟨f, hf⟩ := (htimed item (hp.sameTimeline ▸ hitem)).finish
  exact Item.finish_sub_ne_infinite hf htime h

/-- The views of a show whose items have finite schedules, after calls at finite times. What is to
be drawn is nothing before the show begins, and afterwards every item but those with an opacity of
zero or less. The remote tells of the same items with the same opacities, and of the others that
their opacity is zero. The overlay has one line before the show begins, and afterwards three lines
and one for each item that shows, unless the time that one of them has left is infinite, which it is
not behind the beginning of the loop. All lists have every item, the one declared last first. -/
theorem views_agree {items : List (Item Float)} (hitems : ∀ item ∈ items, item.Timed)
    (hp : Reached (Timeline.addAll .empty items) p) :
    let payload := Payload.ofPlayback p
    (p.clock.started = false →
      p.visible = [] ∧ (∀ entry ∈ payload.items, exact entry.opacity = .ok 0) ∧
        ∃ line, Overlay.lines p = .ok [line]) ∧
    (p.clock.started = true →
      p.visible = p.withoutClear ∧
      ((∀ entry ∈ p.visible, ¬Overlay.Overflows p.clock.frameTime entry) → Overlay.TellsAll p) ∧
      ((∃ entry ∈ p.visible, Overlay.Overflows p.clock.frameTime entry) →
        Overlay.lines p = .error .positiveInfinity) ∧
      (∀ time, exact p.clock.frameTime = .ok time → 0 ≤ time →
        ∀ entry ∈ p.visible, ¬Overlay.Overflows p.clock.frameTime entry)) ∧
    payload.seen = p.visible ∧ (∀ entry ∈ payload.unseen, exact entry.opacity = .ok 0) ∧
    p.opacities.map Prod.fst = items.reverse ∧
    payload.items.map PayloadItem.item = items.reverse ∧
    Table.lines p.timeline =
      Table.head :: items.reverse.map Table.row ++ [Table.foot p.timeline] := by
  have hlayers : (Timeline.addAll .empty items).layers = items.reverse := by
    have hdeclared := Timeline.declared_addAll .empty items
    rw [Timeline.declared] at hdeclared
    exact List.reverse_eq_iff.mp hdeclared
  have htimed : ∀ item ∈ (Timeline.addAll .empty items).layers, item.Timed := by
    intro item hitem
    rw [hlayers] at hitem
    exact hitems item (List.mem_reverse.mp hitem)
  have hlength := Timeline.isFinite_length htimed
  have hsound := hp.sound hlength
  rw [← hsound.sameTimeline] at hlength
  rw [← hsound.sameTimeline] at hlayers
  intro payload
  refine ⟨?waiting, ?running, seen_eq_visible p, fun _ => hsound.opacity_of_unseen htimed,
    ?opacities, ?payload, ?table⟩
  case waiting =>
    intro h
    refine ⟨visible_of_unbegun h, fun entry hentry => ?_, Overlay.lines_of_unbegun h hlength⟩
    rw [Payload.opacity_of_unbegun h hentry]
    exact exact_zero
  case running =>
    intro h
    obtain ⟨hlines, herror⟩ := Overlay.lines_of_started h hlength hsound.frameTime
    exact ⟨hsound.visible_eq_withoutClear htimed h, hlines, herror,
      fun time htime hnonneg _ => hsound.not_overflows htimed htime hnonneg⟩
  case opacities => rw [map_fst_opacities, hlayers]
  case payload => rw [Payload.map_item_ofPlayback, hlayers]
  case table => rw [Table.lines, hlayers]

/-- Two seconds into a show of two items, of which the first one shows. -/
theorem views_agree_pair :
    let first : Item Float := ⟨"pictures/a.jpg", ⟨0, 0⟩, ⟨1, 1⟩, 0, 4, 1, 1⟩
    let second : Item Float := ⟨"b.jpg", ⟨0, 0⟩, ⟨1, 1⟩, 3, 2, 1, 1⟩
    let timeline := Timeline.addAll .empty [first, second]
    let p := (((ofTimeline timeline).start 10).2.tick 12).2
    (∀ item ∈ [first, second], item.Timed) ∧ Reached timeline p ∧
      p.visible = [(first, 1)] ∧ p.visible = p.withoutClear ∧
      (Payload.ofPlayback p).seen = [(first, 1)] ∧
      (Payload.ofPlayback p).unseen = [⟨second, 0⟩] ∧ Overlay.TellsAll p ∧
      Overlay.lines p = .ok ["Position   00:00:02 / 00:00:05", "Loop       #1",
        "--  visible  --", "a.jpg  1.00  ends in 00:00:02"] := by
  intro first second timeline p
  have hitems : ∀ item ∈ [first, second], item.Timed := by decide +kernel
  have hreached : Reached timeline p := by
    refine .call (c := .tick 12) (.call (c := .start 10) .unbegun ?_ trivial) ?_ fun _ => ?_
    · decide +kernel
    · decide +kernel
    · exact Loop.exists_wrapsTo_of_not_lt (by decide +kernel)
  have hbegun : p.clock.started = true := rfl
  have htime : exact p.clock.frameTime = .ok 2 := by decide +kernel
  have hvisible : p.visible = [(first, 1)] := by decide +kernel
  obtain ⟨-, hrunning, hseen, -⟩ := views_agree hitems hreached
  obtain ⟨hclear, htells, -, hfinite⟩ := hrunning hbegun
  exact ⟨hitems, hreached, hvisible, hclear, hseen.trans hvisible, by decide +kernel,
    htells (hfinite 2 htime zero_le_two), by decide +kernel⟩

/-- A tick far before the beginning of the show, at an item that lasts for as long as there are
numbers. Its end is one, but the time up to there is not, and the overlay fails. -/
theorem not_lines_of_early_tick :
    let item : Item Float := ⟨"a.jpg", ⟨0, 0⟩, ⟨1, 1⟩, Scalar.ofInt (-(3 * 2 ^ 970)),
      Scalar.ofInt ((2 ^ 53 - 1) * 2 ^ 971), 0, 0⟩
    let timeline := Timeline.addAll .empty [item]
    let p := (((ofTimeline timeline).start 0).2.tick item.start).2
    item.Timed ∧ Reached timeline p ∧ p.clock.started = true ∧ p.visible = [(item, 1)] ∧
      Overlay.lines p = .error .positiveInfinity := by
  intro item timeline p
  have htimed : item.Timed := by decide +kernel
  have hreached : Reached timeline p := by
    refine .call (c := .tick item.start) (.call (c := .start 0) .unbegun ?_ trivial) ?_ fun _ => ?_
    · decide +kernel
    · exact htimed.start
    · exact Loop.exists_wrapsTo_of_not_lt (by decide +kernel)
  exact ⟨htimed, hreached, rfl, by decide +kernel, by decide +kernel⟩

end Playback

end Slideshow
