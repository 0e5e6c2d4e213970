import Slideshow.Proofs.Viewer.Actions
import Slideshow.Proofs.Viewer.Interleaving

/-!
# What a run makes of a viewer

Of the moves of a run only a few touch more of the viewer than its queue: obeying a message, and
showing the frame at the end of a pass.

## Main definitions

* `Viewer.drawing`, `Viewer.shown`: the drawing of a frame, and a viewer that has shown it.
* `Viewer.Progress.Change`: what a move does to the viewer.

## Main statements

* `Viewer.present_cases`: how showing a frame ends.
* `Viewer.present_withQueue`: the queue makes no difference to it.
* `Viewer.Progress.change_step`: every move does one of these things.
* `Viewer.Progress.viewer_of_run`: what holds of a viewer throughout a run.
-/

namespace Slideshow

/-- The cache after a drawing, whether it was finished or not. -/
def Canvas.cacheAfter {ε β π : Type} : EStateM.Result ε (TextureCache π) β → TextureCache π
  | .ok _ cache | .error _ cache => cache

namespace Viewer

section Frames

variable {α : Type} [Scalar α] {studio : Studio} {now : α} {v w : Viewer α} {fault : Fault}

/-- Moving the clock tells the soundtrack to restart where a wrap is reported, and nothing else. -/
theorem advance_eq (now : α) (v : Viewer α) : v.advance now =
    { v with
      playback := (v.playback.tick now).2
      cues := v.cues.map (· ++ if (v.playback.tick now).1 then [.restart] else [])
      log := (v.advance now).log } := by
  rw [advance]
  dsimp only
  split
  · rfl
  · simp

theorem playback_advance (now : α) (v : Viewer α) :
    (v.advance now).playback = (v.playback.tick now).2 :=
  congrArg playback (advance_eq now v)

theorem cues_advance (now : α) (v : Viewer α) : (v.advance now).cues =
    v.cues.map (· ++ if (v.playback.tick now).1 then [.restart] else []) :=
  congrArg cues (advance_eq now v)

theorem running_advance (now : α) (v : Viewer α) : (v.advance now).running = v.running := by
  rw [advance_eq]

theorem textures_advance (now : α) (v : Viewer α) : (v.advance now).textures = v.textures := by
  rw [advance_eq]

theorem window_advance (studio : Studio) (now : α) (v : Viewer α) :
    (v.advance now).window studio = v.window studio := by
  rw [advance_eq]
  rfl

/-- The drawing of the frame that a viewer is at. -/
def drawing (studio : Studio) (v : Viewer α) :
    EStateM.Result NonFinite (TextureCache Texture) Canvas :=
  Canvas.draw studio.gallery (v.window studio) studio.settings.background
    v.playback.visible v.textures

/-- The viewer with its clock moved and the frame drawn, as far as that could be done. -/
def shown (studio : Studio) (now : α) (drawn : Nat) (v : Viewer α) : Viewer α :=
  { v.advance now with
    textures := Canvas.cacheAfter (drawing studio (v.advance now))
    drawn := drawn }

theorem render_eq (studio : Studio) (v : Viewer α) : render studio v =
    match drawing studio v with
    | .ok canvas textures => .ok () { v with textures := textures, drawn := canvas.drawn }
    | .error kind textures => .error (.conversion kind) { v with textures := textures } := by
  unfold render
  rw [bind_apply]
  dsimp only [get, getThe, MonadStateOf.get, EStateM.get]
  rw [drawing]
  cases Canvas.draw studio.gallery (v.window studio) studio.settings.background
    v.playback.visible v.textures <;> rfl

/-- The overlay may fail, but changes nothing. -/
theorem renderOverlay_cases (v : Viewer α) :
    renderOverlay v = .ok () v ∨ ∃ fault, renderOverlay v = .error fault v := by
  unfold renderOverlay
  rw [bind_apply]
  dsimp only [get, getThe, MonadStateOf.get, EStateM.get]
  split
  · rw [bind_apply]
    cases Overlay.lines v.playback with
    | error kind => exact .inr ⟨_, rfl⟩
    | ok lines =>
      dsimp only [convert, pure, EStateM.pure]
      split
      · exact .inr ⟨_, rfl⟩
      · exact .inl rfl
  · exact .inl rfl

theorem present_eq (studio : Studio) (now : α) (v : Viewer α) : present studio now v =
    match render studio (v.advance now) with
    | .ok _ w => renderOverlay w
    | .error fault w => .error fault w := by
  unfold present
  rw [bind_apply]
  show ((do render studio; renderOverlay : Step α Unit) (v.advance now)) = _
  rw [bind_apply]
  cases render studio (v.advance now) <;> rfl

/-- Showing a frame comes to its end if it is drawn and the overlay does not fail, and breaks off
otherwise. In any case the clock has moved, and the cache is as the drawing left it. -/
theorem present_cases (studio : Studio) (now : α) (v : Viewer α) :
    (∃ canvas textures, drawing studio (v.advance now) = .ok canvas textures ∧
      present studio now v = .ok () (v.shown studio now canvas.drawn)) ∨
    ∃ fault drawn, present studio now v = .error fault (v.shown studio now drawn) := by
  rw [present_eq, render_eq]
  cases hdrawing : drawing studio (v.advance now) with
  | error kind textures =>
    exact .inr ⟨.conversion kind, (v.advance now).drawn, by rw [shown, hdrawing]; rfl⟩
  | ok canvas textures =>
    have hshown : { v.advance now with textures := textures, drawn := canvas.drawn } =
        v.shown studio now canvas.drawn := by
      rw [shown, hdrawing]
      rfl
    dsimp only
    rw [hshown]
    obtain hok | ⟨fault, herror⟩ := renderOverlay_cases (v.shown studio now canvas.drawn)
    · exact .inl ⟨canvas, textures, rfl, hok⟩
    · exact .inr ⟨fault, canvas.drawn, herror⟩

theorem exists_of_present_ok (h : present studio now v = .ok () w) :
    ∃ canvas textures, drawing studio (v.advance now) = .ok canvas textures ∧
      w = v.shown studio now canvas.drawn := by
  obtain ⟨canvas, textures, hdrawing, hok⟩ | ⟨fault, drawn, herror⟩ := present_cases studio now v
  · rw [hok] at h
    cases h
    exact ⟨canvas, textures, hdrawing, rfl⟩
  · rw [herror] at h
    cases h

theorem exists_of_present_error (h : present studio now v = .error fault w) :
    ∃ drawn, w = v.shown studio now drawn := by
  obtain ⟨canvas, textures, -, hok⟩ | ⟨fault, drawn, herror⟩ := present_cases studio now v
  · rw [hok] at h
    cases h
  · rw [herror] at h
    cases h
    exact ⟨drawn, rfl⟩

theorem running_of_present_ok (h : present studio now v = .ok () w) : w.running = v.running := by
  obtain ⟨canvas, -, -, rfl⟩ := exists_of_present_ok h
  exact running_advance now v

theorem running_of_present_error {fault : Fault} (h : present studio now v = .error fault w) :
    w.running = v.running := by
  obtain ⟨drawn, rfl⟩ := exists_of_present_error h
  exact running_advance now v

/-! ### The queue of a viewer that shows a frame -/

theorem advance_withQueue (now : α) (v : Viewer α) (queue : Queue) :
    (v.withQueue queue).advance now = (v.advance now).withQueue queue := by
  rw [advance, advance]
  dsimp only [withQueue]
  split <;> rfl

theorem render_withQueue (studio : Studio) (v : Viewer α) (queue : Queue) :
    render studio (v.withQueue queue) = match render studio v with
      | .ok _ w => .ok () (w.withQueue queue)
      | .error fault w => .error fault (w.withQueue queue) := by
  rw [render_eq, render_eq, show drawing studio (v.withQueue queue) = drawing studio v from rfl]
  cases drawing studio v <;> rfl

theorem renderOverlay_withQueue (v : Viewer α) (queue : Queue) :
    renderOverlay (v.withQueue queue) = match renderOverlay v with
      | .ok _ w => .ok () (w.withQueue queue)
      | .error fault w => .error fault (w.withQueue queue) := by
  unfold renderOverlay
  rw [bind_apply, bind_apply]
  dsimp only [get, getThe, MonadStateOf.get, EStateM.get, withQueue]
  split
  · rw [bind_apply, bind_apply]
    cases Overlay.lines v.playback with
    | error kind => rfl
    | ok lines =>
      dsimp only [convert, pure, EStateM.pure]
      split <;> rfl
  · rfl

/-- Whatever waits in the queue makes no difference to a frame. -/
theorem present_withQueue (studio : Studio) (now : α) (v : Viewer α) (queue : Queue) :
    present studio now (v.withQueue queue) = match present studio now v with
      | .ok _ w => .ok () (w.withQueue queue)
      | .error fault w => .error fault (w.withQueue queue) := by
  rw [present_eq, present_eq, advance_withQueue, render_withQueue]
  cases render studio (v.advance now) with
  | ok _ w => exact renderOverlay_withQueue w queue
  | error fault w => rfl

end Frames

/-- Whether the viewer is in a pass, and has not yet shown its frame. -/
def Phase.isHeeding : Phase → Bool
  | .gathering _ | .taking | .obeying _ | .showing => true
  | .waiting | .ended | .failed _ => false

namespace Progress

variable {α : Type} [Scalar α] {studio : Studio} {now : α} {v : Viewer α} {s s' : Progress α}
  {m : Move α}

/-- What a move does to the viewer. -/
inductive Change (studio : Studio) (m : Move α) (s s' : Progress α) : Prop
  /-- Nothing but the queue changes. -/
  | queue (queue : Queue) (viewer : s'.viewer = s.viewer.withQueue queue)
      (obeyed : s'.obeyed = s.obeyed)
      (phase : s'.phase = s.phase ∨
        s'.phase.isHeeding = true ∧
          (s.phase.isHeeding = true ∨ s.phase = .waiting ∧ m.isLook = true))
  /-- A message with a type is obeyed. -/
  | heed (now : α) (message : Json) (move : m = .work now)
      (viewer : s'.viewer = s.viewer.heed studio now message)
      (obeyed : s'.obeyed = s.obeyed ++ [message])
      (before : s.phase = .obeying message) (after : s'.phase = .taking)
      (typed : message.hasType = true)
  /-- A message without a type cannot be obeyed. -/
  | refuse (message : Json) (viewer : s'.viewer = s.viewer)
      (obeyed : s'.obeyed = s.obeyed ++ [message]) (before : s.phase = .obeying message)
      (after : s'.phase = .failed (.untyped message)) (typed : message.hasType = false)
  /-- The frame is shown, and the run ends if the viewer was told to quit. -/
  | finish (now : α) (v : Viewer α) (move : m = .work now)
      (shown : present studio now s.viewer = .ok () v)
      (viewer : s'.viewer = if v.running then v else v.close) (obeyed : s'.obeyed = s.obeyed)
      (before : s.phase = .showing) (after : s'.phase = if v.running then .waiting else .ended)
  /-- The frame cannot be shown. -/
  | fail (now : α) (fault : Fault) (move : m = .work now)
      (shown : present studio now s.viewer = .error fault s'.viewer)
      (obeyed : s'.obeyed = s.obeyed) (before : s.phase = .showing)
      (after : s'.phase = .failed fault)

theorem change_take (h : s.phase = .taking) : Change studio m s s.take := by
  have hheeding : s.phase.isHeeding = true := by rw [h]; rfl
  cases hmessages : s.inQueue with
  | nil =>
    rw [take_of_nil hmessages]
    exact .queue s.viewer.queue rfl rfl (.inr ⟨rfl, .inl hheeding⟩)
  | cons message messages =>
    rw [take_of_cons hmessages]
    refine .queue ⟨messages⟩ rfl rfl (.inr ⟨?_, .inl hheeding⟩)
    dsimp only
    split <;> rfl

theorem change_obey {message : Json} (h : s.phase = .obeying message) :
    Change studio (.work now) s (s.obey studio now message) := by
  rw [obey, obey_eq]
  cases htype : message.hasType with
  | true => exact .heed now message rfl rfl rfl h rfl htype
  | false => exact .refuse message rfl rfl h rfl htype

theorem change_finish (h : s.phase = .showing) :
    Change studio (.work now) s (s.finish studio now) := by
  rw [finish]
  cases hpresent : present studio now s.viewer with
  | error fault v => exact .fail now fault rfl hpresent rfl h rfl
  | ok _ v =>
    dsimp only
    refine .finish now v rfl hpresent ?_ ?_ h ?_ <;> split <;> rfl

/-- Every move does one of these things. -/
theorem change_step (h : s.step studio m = some s') : Change studio m s s' := by
  cases m with
  | post id message =>
    cases h
    exact .queue _ rfl rfl (.inl rfl)
  | command id name =>
    cases h
    exact .queue _ rfl rfl (.inl rfl)
  | look events =>
    obtain ⟨hphase, rfl⟩ := eq_of_look h
    exact .queue s.viewer.queue rfl rfl (.inr ⟨rfl, .inr ⟨hphase, rfl⟩⟩)
  | work now =>
    rw [step, work] at h
    split at h
    · next hphase =>
      cases h
      exact .queue _ rfl rfl (.inr ⟨rfl, .inl (by rw [hphase]; rfl)⟩)
    · next hphase =>
      cases h
      exact .queue s.viewer.queue rfl rfl (.inr ⟨rfl, .inl (by rw [hphase]; rfl)⟩)
    · next hphase => cases h; exact change_take hphase
    · next hphase => cases h; exact change_obey hphase
    · next hphase => cases h; exact change_finish hphase
    · cases h
    · cases h
    · cases h

/-! ### Throughout a run -/

/-- What every change preserves holds at the end of a run if it holds at its beginning. -/
theorem change_induction {moves : List (Move α)} (P : Progress α → Prop)
    (hchange : ∀ s m s', P s → Change studio m s s' → P s') (hs : P s)
    (hrun : run studio moves s = some s') : P s' := by
  induction moves generalizing s with
  | nil =>
    cases hrun
    exact hs
  | cons m moves ih =>
    obtain ⟨next, hnext, hrun⟩ := run_cons m hrun
    exact ih (hchange s m next hs (change_step hnext)) hrun

/-- What holds of a viewer at the beginning of a run holds of it at every moment, if neither
messages nor frames put an end to it. -/
theorem viewer_of_run {moves : List (Move α)} (P : Viewer α → Prop)
    (hqueue : ∀ v queue, P v → P (withQueue queue v))
    (hheed : ∀ v now message, P v → P (heed studio now v message))
    (hshown : ∀ v now drawn, P v → P (shown studio now drawn v)) (hclose : ∀ v, P v → P (close v))
    (hs : P s.viewer) (hrun : run studio moves s = some s') : P s'.viewer := by
  refine change_induction (fun s => P s.viewer) (fun s m s' hs hchange => ?_) hs hrun
  cases hchange with
  | queue queue viewer => exact viewer ▸ hqueue _ queue hs
  | heed now message _ viewer => exact viewer ▸ hheed _ now message hs
  | refuse _ viewer => exact viewer ▸ hs
  | finish now v _ shown viewer =>
    obtain ⟨canvas, -, -, hviewer⟩ := exists_of_present_ok shown
    have hv : P v := hviewer ▸ hshown _ now canvas.drawn hs
    rw [viewer]
    split
    · exact hv
    · exact hclose v hv
  | fail now _ _ shown =>
    obtain ⟨drawn, hviewer⟩ := exists_of_present_error shown
    exact hviewer ▸ hshown _ now drawn hs

end Progress

end Viewer

end Slideshow
