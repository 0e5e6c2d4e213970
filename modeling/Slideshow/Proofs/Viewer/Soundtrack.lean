import Slideshow.Proofs.Playback.Reached
import Slideshow.Proofs.Viewer.Passes

/-!
# The soundtrack

The soundtrack is told to restart whenever a loop begins, and to close when the run ends. So it
keeps step with the loops that the playback counts, from the first pass of the show, which is at the
very beginning of a loop.

## Main definitions

* `Viewer.Phase.closing`: what the soundtrack is told at the end of a run.
* `Viewer.Progress.InStep`: the soundtrack was restarted once for every loop.

## Main statements

* `Loop.exact_wrap_zero`: the beginning of the show is the beginning of a loop.
* `Viewer.Progress.InStep.change`: what one move preserves.
* `Viewer.Progress.soundtrack_of_run`: every run, and every pass in it.
-/

namespace Slideshow

open Binary64

theorem Loop.exact_wrap_zero {time : Float} (period : Float) (htime : exact time = .ok 0) :
    exact (wrap time period) = .ok 0 := by
  rw [wrap]
  split
  · exact exact_zero
  · next hflat =>
    -- Nothing is taken off, be the period finite or not.
    have hstay : fold period (passBound time period) time = time := by
      cases hperiod : exact period with
      | error kind =>
        have hbound : passBound time period = 0 := by
          have hperiod' : Scalar.exact period = .error kind := hperiod
          rw [passBound, hperiod']
          split <;> simp_all
        rw [hbound, fold]
      | ok p =>
        have hpos : 0 < p := not_le.mp (mt (le_zero_iff hperiod).mpr hflat)
        have hnot : ¬period < time := fun hlt =>
          absurd ((lt_iff hperiod htime).mp hlt) hpos.le.not_gt
        cases passBound time period with
        | zero => rfl
        | succ passes => exact if_neg hnot
    rw [hstay, htime]

namespace Playback

variable {p : Playback Float} {now : Float}

/-- The first frame of a show begins a loop, at its very beginning. -/
theorem tick_start (hstarted : p.clock.started = false) (hprevious : p.clock.previous = none)
    (hnow : IsFinite now) :
    ((p.start now).2.tick now).1 = true ∧
      exact ((p.start now).2.tick now).2.clock.frameTime = .ok 0 := by
  obtain ⟨n, hn⟩ := hnow
  have hsub : exact (now - now) = .ok 0 := by
    rw [exact_sub hn hn, sub_self, settled_of_lt (by rw [rounded_zero]; norm_num), rounded_zero]
  have htime := Loop.exact_wrap_zero p.timeline.length hsub
  have hstart : (p.start now).2 =
      { p with clock := { p.clock with started := true, frameStart := now } } := by
    rw [start, hstarted]
    rfl
  rw [hstart, tick, if_pos rfl]
  refine ⟨?_, htime⟩
  -- There was no frame before, which counts as one that was infinitely late.
  show Clock.isBefore _ p.clock.previous = true
  rw [hprevious]
  exact belowInfinity_iff.mpr (.inl ⟨0, htime⟩)

end Playback

namespace Viewer

/-- What the soundtrack has been told about the end of a run. -/
def Phase.closing : Phase → List Cue
  | .ended => [.close]
  | _ => []

theorem Phase.closing_of_isHeeding {phase : Phase} (h : phase.isHeeding = true) :
    phase.closing = [] := by
  cases phase with
  | ended => cases h
  | _ => rfl

theorem Phase.eq_ended_of_closing {phase : Phase} (h : phase.closing ≠ []) : phase = .ended := by
  cases phase with
  | ended => rfl
  | _ => exact absurd rfl h

/-- What a frame tells the soundtrack, at which the run may end. -/
theorem cues_of_present_ok {α : Type} [Scalar α] {studio : Studio} {now : α} {v w : Viewer α}
    (h : present studio now v = .ok () w) :
    (if w.running then w else w.close).playback = (v.playback.tick now).2 ∧
    (if w.running then w else w.close).cues = v.cues.map
      (· ++ (if (v.playback.tick now).1 then [.restart] else []) ++
        Phase.closing (if w.running then .waiting else .ended)) := by
  obtain ⟨canvas, -, -, rfl⟩ := exists_of_present_ok h
  have hplayback : (v.shown studio now canvas.drawn).playback = (v.playback.tick now).2 :=
    playback_advance now v
  have hcues : (v.shown studio now canvas.drawn).cues = v.cues.map
      (· ++ if (v.playback.tick now).1 then [.restart] else []) :=
    cues_advance now v
  cases hrunning : (v.shown studio now canvas.drawn).running with
  | true =>
    rw [if_pos rfl, if_pos rfl, hcues]
    exact ⟨hplayback, by simp only [Phase.closing, List.append_nil]⟩
  | false =>
    rw [if_neg Bool.false_ne_true, if_neg Bool.false_ne_true, close, hcues]
    exact ⟨hplayback, Option.map_map ..⟩

namespace Progress

variable {α : Type} [Scalar α] {studio : Studio} {s s' : Progress α} {m : Move α}
  {moves : List (Move α)}

/-- The soundtrack is in step: it was restarted once for every loop that has begun, and closed if
the run has ended. No loop begins before the show does. -/
structure InStep (s : Progress α) : Prop where
  cues : s.viewer.cues =
    some (List.replicate s.viewer.playback.loops .restart ++ s.phase.closing)
  started : s.viewer.playback.clock.started = decide (Action.times .start s.obeyed ≠ 0)
  unbegun : s.viewer.playback.clock.started = false →
    s.viewer.playback.loops = 0 ∧ s.viewer.playback.clock.previous = none

theorem inStep_begin (studio : Studio) (timeline : Timeline α) {song : String}
    (hsong : song.isEmpty = false) (earlier : List Arrival) :
    InStep (begin (setUp studio timeline song true) earlier) where
  cues := by
    have hplays : (!song.isEmpty) = true ∧ true = true := by simp [hsong]
    exact if_pos hplays
  started := rfl
  unbegun := fun _ => ⟨rfl, rfl⟩

/-- What an action or none makes of the playback: it begins if it has not begun before. -/
theorem InStep.heed (h : InStep s) (now : α) (message : Json) :
    (s.viewer.heed studio now message).playback.loops = s.viewer.playback.loops ∧
    (s.viewer.heed studio now message).playback.clock.previous = s.viewer.playback.clock.previous ∧
    (s.viewer.heed studio now message).playback.clock.started =
      decide (Action.times .start (s.obeyed ++ [message]) ≠ 0) := by
  have hheed : (s.viewer.heed studio now message).playback =
      if Action.times .start [message] = 0 then s.viewer.playback
      else (s.viewer.playback.start now).2 :=
    playback_heedAll studio now s.viewer [message]
  rw [hheed, Action.times_append]
  split
  · next hnone => exact ⟨rfl, rfl, by rw [h.started, hnone, Nat.add_zero]⟩
  · next hasked => simp [Playback.start_eq, hasked]

/-- A frame keeps the soundtrack in step. -/
theorem InStep.tick (h : InStep s) (now : α) (hphase : s.phase = .showing)
    (hplayback : s'.viewer.playback = (s.viewer.playback.tick now).2)
    (hcues : s'.viewer.cues = s.viewer.cues.map
      (· ++ (if (s.viewer.playback.tick now).1 then [.restart] else []) ++ s'.phase.closing))
    (hobeyed : s'.obeyed = s.obeyed) : InStep s' := by
  have hbefore : s.viewer.cues = some (List.replicate s.viewer.playback.loops .restart) := by
    rw [h.cues, hphase]
    exact congrArg some (List.append_nil _)
  constructor <;> rw [hplayback]
  · rw [hcues, hbefore, Option.map_some, Playback.tick]
    split
    · dsimp only
      split
      · rw [List.replicate_succ']
      · rw [List.append_nil]
    · exact congrArg (fun cues => some (cues ++ s'.phase.closing)) (List.append_nil _)
  · rw [hobeyed, ← h.started, Playback.tick]
    split <;> rfl
  · rw [Playback.tick]
    split
    · next hstarted =>
      intro hnot
      rw [hstarted] at hnot
      cases hnot
    · exact h.unbegun

theorem InStep.change (h : InStep s) (hchange : Change studio m s s') : InStep s' := by
  -- Loops and restarts are counted by frames alone, also by one that breaks off behind its tick.
  cases hchange with
  | queue queue viewer obeyed phase =>
    have hclosing : s'.phase.closing = s.phase.closing := by
      obtain hsame | ⟨hafter, hbefore | ⟨hbefore, -⟩⟩ := phase
      · rw [hsame]
      · rw [Phase.closing_of_isHeeding hafter, Phase.closing_of_isHeeding hbefore]
      · rw [Phase.closing_of_isHeeding hafter, hbefore]
        rfl
    constructor <;> rw [viewer]
    · rw [hclosing]
      exact h.cues
    · rw [obeyed]
      exact h.started
    · exact h.unbegun
  | heed now message _ viewer obeyed before after =>
    obtain ⟨hloops, hprevious, hstarted⟩ := h.heed now message
    have hcues : (s.viewer.heed studio now message).cues = s.viewer.cues :=
      cues_heedAll studio now s.viewer [message]
    constructor <;> rw [viewer]
    · rw [hcues, h.cues, hloops, before, after]
      rfl
    · rw [hstarted, obeyed]
    · rw [hstarted, hloops, hprevious]
      intro hnone
      have hnever : Action.times .start (s.obeyed ++ [message]) = 0 := by simpa using hnone
      rw [Action.times_append] at hnever
      exact h.unbegun (h.started.trans (decide_eq_false (by omega)))
  | refuse message viewer obeyed before after typed =>
    constructor <;> rw [viewer]
    · rw [h.cues, before, after]
      rfl
    · rw [h.started, obeyed, Action.times_append, Action.times_untyped _ typed, Nat.add_zero]
    · exact h.unbegun
  | finish now v _ shown viewer obeyed before after =>
    obtain ⟨hplayback, hcues⟩ := cues_of_present_ok shown
    rw [← viewer] at hplayback hcues
    rw [← after] at hcues
    exact h.tick now before hplayback hcues obeyed
  | fail now fault _ shown obeyed before after =>
    obtain ⟨drawn, hviewer⟩ := exists_of_present_error shown
    refine h.tick now before ?_ ?_ obeyed
    · rw [hviewer]
      exact playback_advance now s.viewer
    · rw [hviewer, after]
      simp only [Phase.closing, List.append_nil]
      exact cues_advance now s.viewer

/-- Every run of the viewer of a timeline, with a soundtrack, at any moment. The soundtrack was told
to restart once for every loop, to close once if the run has ended, and nothing else; and to
restart not before a start was obeyed. A pass whose clock stands still tells it to restart just if
its tick reports a wrap. The first pass that obeys a start does so, at the very beginning of a
loop. -/
theorem soundtrack_of_run {studio : Studio} {timeline : Timeline Float} {song : String}
    {earlier : List Arrival} {moves : List (Move Float)} {s : Progress Float}
    (hsong : song.isEmpty = false)
    (hrun : run studio moves (begin (setUp studio timeline song true) earlier) = some s) :
    s.viewer.cues = some (List.replicate s.viewer.playback.loops .restart ++ s.phase.closing) ∧
    (Action.times .start s.obeyed = 0 → s.viewer.playback.loops = 0) ∧
    ∀ now events pass s', (∀ m ∈ pass, m.IsAt now) →
      run studio (.look events :: pass) s = some s' → s'.phase = .waiting ∨ s'.phase = .ended →
      ∃ messages u, s'.obeyed = s.obeyed ++ messages ∧
        drain studio now (s.viewer.withQueue ⟨messages⟩) = .ok () u ∧
        s'.viewer.playback = (u.playback.tick now).2 ∧
        s'.viewer.cues = s.viewer.cues.map
          (· ++ (if (u.playback.tick now).1 then [.restart] else []) ++ s'.phase.closing) ∧
        (IsFinite now → Action.times .start s.obeyed = 0 → Action.times .start messages ≠ 0 →
          (u.playback.tick now).1 = true ∧
            exact s'.viewer.playback.clock.frameTime = .ok 0) := by
  have hstep : InStep s := change_induction InStep (fun _ _ _ => .change)
    (inStep_begin studio timeline hsong earlier) hrun
  have hunbegun : Action.times .start s.obeyed = 0 →
      s.viewer.playback.clock.started = false := fun hnone => by
    rw [hstep.started, hnone]
    rfl
  refine ⟨hstep.cues, fun hnone => (hstep.unbegun (hunbegun hnone)).1, ?_⟩
  intro now events pass s' hpass hlook hdone
  obtain ⟨messages, w, hpassed⟩ := exists_passed_of_run hpass hlook hdone
  obtain ⟨u, hdrain, hpresent⟩ := exists_drain_of_pass hpassed.pass
  obtain ⟨hplayback, hcues⟩ := cues_of_present_ok hpresent
  have hu : u = (s.viewer.withQueue .empty).heedAll studio now messages := by
    rw [drain_eq hpassed.typed] at hdrain
    cases hdrain
    rfl
  have hviewer : s'.viewer.playback = (u.playback.tick now).2 := by
    rw [hpassed.viewer]
    exact hplayback
  refine ⟨messages, u, hpassed.obeyed, hdrain, hviewer, ?_, fun hnow hnone hasked => ?_⟩
  · have hsame : u.cues = s.viewer.cues := by rw [hu, cues_heedAll]; rfl
    rw [hpassed.viewer, hpassed.phase, ← hsame]
    exact hcues
  · have hstart : u.playback = (s.viewer.playback.start now).2 := by
      rw [hu, playback_heedAll, if_neg hasked]
      rfl
    have hbefore := hunbegun hnone
    rw [hviewer, hstart]
    exact Playback.tick_start hbefore (hstep.unbegun hbefore).2 hnow

/-- A run of one pass, in which a thread asks for the start and the window is closed. The soundtrack
is told to restart in it, and to close at its end. -/
theorem soundtrack_of_run_closed :
    let studio : Studio := ⟨{}, fun _ => none⟩
    let timeline : Timeline Float := .add .empty ⟨"a.jpg", ⟨0, 0⟩, ⟨1, 1⟩, 0, 5, 1, 1⟩
    let v := setUp studio timeline "song.mp4" true
    let moves : List (Move Float) := [.command 1 "start"]
    let s := begin v [⟨.thread 1, Action.start.toJson⟩]
    let pass : List (Move Float) :=
      [.work 3, .work 3, .work 3, .work 3, .work 3, .work 3, .work 3, .work 3]
    ∃ s', "song.mp4".isEmpty = false ∧ run studio moves (begin v []) = some s ∧
      (∀ m ∈ pass, m.IsAt 3) ∧ run studio (.look [.close] :: pass) s = some s' ∧
      s'.phase = .ended ∧ s.viewer.cues = some [] ∧
      s'.viewer.cues = some [.restart, .close] ∧
      exact s'.viewer.playback.clock.frameTime = .ok 0 := by
  intro studio timeline v moves s pass
  have hsong : "song.mp4".isEmpty = false := by decide +kernel
  have hrun : run studio moves (begin v []) = some s := rfl
  have hpass : ∀ m ∈ pass, m.IsAt 3 := by
    simp [pass, Move.IsAt]
  have hlast : ((run studio (.look [.close] :: pass) s).any fun s' =>
      decide (Action.times .start s'.obeyed ≠ 0) && decide (s'.phase.closing ≠ [])) = true := by
    decide +kernel
  obtain ⟨s', hlook, hlast⟩ := (Option.any_eq_true ..).mp hlast
  obtain ⟨hasked, hclosing⟩ := Bool.and_eq_true_iff.mp hlast
  have hphase := Phase.eq_ended_of_closing (of_decide_eq_true hclosing)
  obtain ⟨messages, u, hmessages, -, -, hcues, hfirst⟩ :=
    (soundtrack_of_run hsong hrun).2.2 3 [.close] pass s' hpass hlook (.inr hphase)
  have hsilent : s.viewer.cues = some [] := by decide +kernel
  have hobeyed : s'.obeyed = messages := hmessages
  obtain ⟨hwrapped, htime⟩ :=
    hfirst ⟨3, by decide +kernel⟩ rfl (hobeyed ▸ of_decide_eq_true hasked)
  rw [hwrapped, hphase, hsilent] at hcues
  exact ⟨s', hsong, hrun, hpass, hlook, hphase, hsilent, hcues, htime⟩

end Progress

end Viewer

end Slideshow
