import Slideshow.Proofs.Viewer.Passes

/-!
# The order of messages

What a pass does with messages does not depend on their order, for it is a matter of how often each
action is asked for. In particular a viewer that was told to quit will never run again, and the pass
in which it was told so is the last one.

## Main definitions

* `Viewer.Settled`: what messages make of a viewer.
* `Viewer.InFull`: a pass from its messages to its frame.
* `Viewer.Progress.StopsAtQuit`: a run goes on just as long as nothing obeyed asks for an end.

## Main statements

* `Viewer.exists_settled`: messages in any order.
* `Viewer.Progress.StopsAtQuit.change`: what one move preserves.
* `Viewer.Progress.orderless_of_run`: all of this, for every run.
-/

namespace Slideshow.Viewer

section Settled

variable {α : Type} [Scalar α] {studio : Studio} {now : α} {v w : Viewer α} {messages : List Json}

/-- The display was last asked for the window of the flag. -/
def IsTurned (studio : Studio) (v : Viewer α) : Prop :=
  v.modes.getLast? = some (studio.settings.mode v.fullscreen)

theorem IsTurned.heed (h : IsTurned studio v) (now : α) (message : Json) :
    IsTurned studio (v.heed studio now message) := by
  rw [Viewer.heed]
  cases Action.ofMessage? message with
  | none => exact h
  | some a =>
    cases a with
    | quit | start | toggleOverlay => exact h
    | toggleFullscreen => exact List.getLast?_concat ..

theorem IsTurned.heedAll (h : IsTurned studio v) (now : α) (messages : List Json) :
    IsTurned studio (v.heedAll studio now messages) := by
  induction messages generalizing v with
  | nil => exact h
  | cons message messages ih => exact ih (h.heed now message)

/-- What a drain of messages makes of `v`, by the number of times that each action is asked for. The
window is turned once for each time that this is asked for, and its last mode is that of the flag.
The reports come in the order of the messages, which is left open here. -/
structure Settled (studio : Studio) (now : α) (messages : List Json) (v w : Viewer α) : Prop where
  running : w.running = (v.running && decide (Action.times .quit messages = 0))
  playback : w.playback = { v.playback with clock := { v.playback.clock with
    started := v.playback.clock.started || decide (Action.times .start messages ≠ 0)
    frameStart := if v.playback.clock.started = false ∧ Action.times .start messages ≠ 0 then now
      else v.playback.clock.frameStart } }
  overlay : w.overlay = (v.overlay ^^ decide (Odd (Action.times .toggleOverlay messages)))
  fullscreen : w.fullscreen =
    (v.fullscreen ^^ decide (Odd (Action.times .toggleFullscreen messages)))
  modes : w.modes = v.modes ++
    studio.settings.turns v.fullscreen (Action.times .toggleFullscreen messages)
  mode : w.modes.getLast? = some
    (if w.fullscreen then ⟨⟨0, 0⟩, true⟩ else ⟨studio.settings.windowedSize, false⟩)
  textures : w.textures = { v.textures with
    copies := if Action.times .toggleFullscreen messages = 0 then v.textures.copies else [] }
  queue : w.queue = .empty
  drawn : w.drawn = v.drawn
  cues : w.cues = v.cues
  log : w.log.Perm (v.log ++ reports v.playback messages)

theorem settled_heedAll (h : IsTurned studio v) (now : α) (messages : List Json) :
    Settled studio now messages v ((v.withQueue .empty).heedAll studio now messages) where
  running := running_heedAll studio now _ messages
  playback := by
    rw [playback_heedAll]
    by_cases hnone : Action.times .start messages = 0
    · simp [hnone, withQueue]
    · simp [hnone, withQueue, Playback.start_eq]
  overlay := overlay_heedAll studio now _ messages
  fullscreen := fullscreen_heedAll studio now _ messages
  modes := modes_heedAll studio now _ messages
  mode := IsTurned.heedAll (v := v.withQueue .empty) h now messages
  textures := by
    rw [textures_heedAll]
    split <;> rfl
  queue := queue_heedAll studio now _ messages
  drawn := drawn_heedAll studio now _ messages
  cues := cues_heedAll studio now _ messages
  log := log_heedAll studio now _ messages

/-- Messages with types are all obeyed, and to the same effect in any order. -/
theorem exists_settled (now : α) (h : IsTurned studio v)
    (htyped : ∀ message ∈ messages, message.hasType = true) :
    ∃ w, drain studio now (v.withQueue ⟨messages⟩) = .ok () w ∧ Settled studio now messages v w ∧
      ∀ messages', messages.Perm messages' →
        ∃ w', drain studio now (v.withQueue ⟨messages'⟩) = .ok () w' ∧ w'.mute = w.mute ∧
          w'.log.Perm w.log := by
  refine ⟨_, drain_eq htyped v, settled_heedAll h now messages, fun messages' hperm => ?_⟩
  have htyped' : ∀ message ∈ messages', message.hasType = true :=
    fun message hmessage => htyped message (hperm.mem_iff.mpr hmessage)
  exact ⟨_, drain_eq htyped' v, heedAll_perm studio now hperm.symm⟩

/-- A pass makes `w` of `v`: it drains the messages, moves the clock, and draws what shows. -/
def InFull (studio : Studio) (now : α) (messages : List Json) (v w : Viewer α) : Prop :=
  ∃ u canvas textures, drain studio now (v.withQueue ⟨messages⟩) = .ok () u ∧
    w.playback = (u.playback.tick now).2 ∧
    Canvas.draw studio.gallery (studio.settings.display w.modes) studio.settings.background
      w.playback.visible u.textures = .ok canvas textures ∧
    w.textures = textures ∧ w.drawn = canvas.drawn

theorem inFull_of_pass (h : pass studio now (v.withQueue ⟨messages⟩) = .ok () w) :
    InFull studio now messages v w := by
  obtain ⟨u, hdrain, hpresent⟩ := exists_drain_of_pass h
  obtain ⟨canvas, textures, hdrawing, rfl⟩ := exists_of_present_ok hpresent
  refine ⟨u, canvas, textures, hdrain, playback_advance now u, ?_, ?_, rfl⟩
  · rw [← textures_advance now u]
    exact hdrawing
  · rw [shown, hdrawing]
    rfl

end Settled

namespace Progress

variable {α : Type} {s s' : Progress α}

/-- A run goes on from pass to pass just as long as nothing that was obeyed asks for its end. -/
structure StopsAtQuit (s : Progress α) : Prop where
  running : s.viewer.running = decide (Action.times .quit s.obeyed = 0)
  waiting : s.phase = .waiting → s.viewer.running = true
  ended : s.phase = .ended → s.viewer.running = false

theorem stopsAtQuit_begin (v : Viewer α) (earlier : List Arrival) :
    StopsAtQuit (begin v earlier) :=
  ⟨rfl, fun _ => rfl, nofun⟩

variable [Scalar α] {studio : Studio} {m : Move α} {moves : List (Move α)}

theorem StopsAtQuit.change (h : StopsAtQuit s) (hchange : Change studio m s s') :
    StopsAtQuit s' := by
  -- Only a message changes whether the viewer runs, and only a frame tells a pass from the next.
  cases hchange with
  | queue queue viewer obeyed phase =>
    have hrunning : s'.viewer.running = s.viewer.running := by rw [viewer]; rfl
    refine ⟨by rw [hrunning, obeyed, h.running], fun hafter => ?_, fun hafter => ?_⟩
    · obtain hsame | ⟨hheeding, -⟩ := phase
      · rw [hrunning, h.waiting (hsame ▸ hafter)]
      · rw [hafter] at hheeding
        cases hheeding
    · obtain hsame | ⟨hheeding, -⟩ := phase
      · rw [hrunning, h.ended (hsame ▸ hafter)]
      · rw [hafter] at hheeding
        cases hheeding
  | heed now message _ viewer obeyed _ after =>
    refine ⟨?_, by rw [after]; exact nofun, by rw [after]; exact nofun⟩
    have hheed : (s.viewer.heed studio now message).running =
        (s.viewer.running && decide (Action.times .quit [message] = 0)) :=
      running_heedAll studio now s.viewer [message]
    rw [viewer, hheed, obeyed, h.running, Action.times_append, ← Bool.decide_and]
    simp only [Nat.add_eq_zero_iff]
  | refuse message viewer obeyed _ after typed =>
    refine ⟨?_, by rw [after]; exact nofun, by rw [after]; exact nofun⟩
    rw [viewer, obeyed, h.running, Action.times_append, Action.times_untyped _ typed, Nat.add_zero]
  | finish now v _ shown viewer obeyed _ after =>
    have hv : v.running = s.viewer.running := running_of_present_ok shown
    have hrunning : s'.viewer.running = v.running := by
      rw [viewer]
      split <;> rfl
    refine ⟨by rw [hrunning, hv, obeyed, h.running], ?_, ?_⟩
    · rw [after, hrunning]
      cases v.running <;> simp
    · rw [after, hrunning]
      cases v.running <;> simp
  | fail now fault _ shown obeyed _ after =>
    refine ⟨?_, by rw [after]; exact nofun, by rw [after]; exact nofun⟩
    rw [running_of_present_error shown, obeyed, h.running]

/-- The window is always that of the flag. -/
theorem isTurned_of_run (hs : IsTurned studio s.viewer) (hrun : run studio moves s = some s') :
    IsTurned studio s'.viewer :=
  viewer_of_run (IsTurned studio) (fun _ _ h => h) (fun _ now message h => h.heed now message)
    (fun v now _ h => by
      rw [IsTurned, shown, advance_eq]
      exact h)
    (fun _ h => h) hs hrun

theorem running_of_run (hrun : run studio moves s = some s') (hs : s.viewer.running = false) :
    s'.viewer.running = false := by
  refine viewer_of_run (fun v => v.running = false) (fun _ _ h => h) (fun v now message h => ?_)
    (fun v now _ h => ?_) (fun _ h => h) hs hrun
  · have hheed : (v.heed studio now message).running = _ := running_heedAll studio now v [message]
    rw [hheed, h, Bool.false_and]
  · exact (running_advance now v).trans h

/-- Every run of the viewer of a timeline, at any moment, with the clock standing still in a pass.
Messages with types are drained to an effect that does not depend on their order, but for that of
the reports. A viewer that does not run any more never will. A pass that comes to its end is the
last one just if it obeyed a message that asks for an end, and is a pass like any other: what it
obeyed is drained, the clock is moved, and what shows is drawn. -/
theorem orderless_of_run {timeline : Timeline α} {song : String} {songExists : Bool}
    {earlier : List Arrival}
    (hrun : run studio moves (begin (setUp studio timeline song songExists) earlier) = some s) :
    (∀ now messages, (∀ message ∈ messages, message.hasType = true) →
      ∃ w, drain studio now (s.viewer.withQueue ⟨messages⟩) = .ok () w ∧
        Settled studio now messages s.viewer w ∧
        ∀ messages', messages.Perm messages' →
          ∃ w', drain studio now (s.viewer.withQueue ⟨messages'⟩) = .ok () w' ∧ w'.mute = w.mute ∧
            w'.log.Perm w.log) ∧
    (∀ moves' s', run studio moves' s = some s' → s.viewer.running = false →
      s'.viewer.running = false) ∧
    ∀ now events pass s', (∀ m ∈ pass, m.IsAt now) →
      run studio (.look events :: pass) s = some s' → s'.phase = .waiting ∨ s'.phase = .ended →
      ∃ messages w, Passed studio now s s' messages w ∧
        InFull studio now messages s.viewer w ∧
        (s'.phase = .ended ↔ Action.times .quit messages ≠ 0) := by
  have hturned := isTurned_of_run (by rfl) hrun
  refine ⟨fun now _ => exists_settled now hturned, fun _ _ => running_of_run, ?_⟩
  intro now events pass s' hpass hlook hdone
  obtain ⟨messages, w, hpassed⟩ := exists_passed_of_run hpass hlook hdone
  refine ⟨messages, w, hpassed, inFull_of_pass hpassed.pass, ?_⟩
  have hstops : StopsAtQuit s :=
    change_induction StopsAtQuit (fun _ _ _ => .change) (stopsAtQuit_begin _ earlier) hrun
  obtain ⟨next, hnext, -⟩ := run_cons _ hlook
  have hrunning : s.viewer.running = true := hstops.waiting (eq_of_look hnext).1
  have hw : w.running = decide (Action.times .quit messages = 0) := by
    obtain ⟨u, hdrain, hpresent⟩ := exists_drain_of_pass hpassed.pass
    rw [drain_eq hpassed.typed] at hdrain
    cases hdrain
    rw [running_of_present_ok hpresent, running_heedAll]
    show (s.viewer.running && _) = _
    rw [hrunning, Bool.true_and]
  rw [hpassed.phase, hw]
  by_cases hnone : Action.times .quit messages = 0 <;> simp [hnone]

/-- A run of one pass. The window is closed and two threads ask for the start and for the whole
screen; the pass moves the clock and draws all the same, and ends the run. -/
theorem orderless_of_run_closed :
    let studio : Studio := ⟨{}, fun _ => none⟩
    let v : Viewer Rat := .setUp studio .empty "" false
    let moves : List (Move Rat) := [.post 1 Action.toggleFullscreen.toJson, .command 2 "start"]
    let s := begin v [⟨.thread 1, Action.toggleFullscreen.toJson⟩, ⟨.thread 2, Action.start.toJson⟩]
    let pass : List (Move Rat) := [.work 1, .work 1, .work 1, .work 1, .work 1, .work 1, .work 1,
      .work 1, .work 1, .work 1]
    ∃ s' messages w, run studio moves (begin v []) = some s ∧ (∀ m ∈ pass, m.IsAt 1) ∧
      run studio (.look [.close] :: pass) s = some s' ∧ s'.phase = .ended ∧
      Passed studio 1 s s' messages w ∧ InFull studio 1 messages s.viewer w ∧
      Action.times .quit messages ≠ 0 := by
  intro studio v moves s pass
  have hrun : run studio moves (begin v []) = some s := rfl
  have hpass : ∀ m ∈ pass, m.IsAt 1 := by
    simp [pass, Move.IsAt]
  obtain ⟨s', hlook, hphase⟩ :
      ∃ s', run studio (.look [.close] :: pass) s = some s' ∧ s'.phase = .ended := ⟨_, rfl, rfl⟩
  obtain ⟨messages, w, hpassed, hfull, hended⟩ :=
    (orderless_of_run hrun).2.2 1 [.close] pass s' hpass hlook (.inr hphase)
  exact ⟨s', messages, w, hrun, hpass, hlook, hphase, hpassed, hfull, hended.mp hphase⟩

end Progress

end Slideshow.Viewer
