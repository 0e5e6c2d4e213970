import Slideshow.Proofs.Viewer.Interleaving

/-!
# A viewer alone

Where nobody interferes, the moves of a viewer add up to its passes: what a viewer does with inputs
that come in before its passes is one of the runs in which anything may come in at any time.

## Main definitions

* `Viewer.Progress.Leads`: a state from which others can be reached.
* `Viewer.Progress.AfterPass`: where a run is when a pass has come to a result.

## Main statements

* `Viewer.Progress.leads_drain`: taking messages one by one.
* `Viewer.Progress.leads_pass`, `Viewer.Progress.leads_frame`: a pass, and a pass with its input.
* `Viewer.Progress.leads_frames`: passes until the viewer stops.
-/

namespace Slideshow.Viewer.Progress

variable {α : Type} [Scalar α] {studio : Studio} {s s' s'' : Progress α}

theorem run_append {moves moves' : List (Move α)} (h : run studio moves s = some s')
    (h' : run studio moves' s' = some s'') : run studio (moves ++ moves') s = some s'' := by
  induction moves generalizing s with
  | nil =>
    cases h
    exact h'
  | cons m moves ih =>
    obtain ⟨next, hnext, hrun⟩ := run_cons m h
    show (s.step studio m).bind (run studio (moves ++ moves')) = some s''
    rw [hnext]
    exact ih hrun

/-- Moves of others and of the viewer lead from `s` to a state in `P`. -/
def Leads (studio : Studio) (s : Progress α) (P : Progress α → Prop) : Prop :=
  ∃ moves s', run studio moves s = some s' ∧ P s'

theorem Leads.here {P : Progress α → Prop} (h : P s) : Leads studio s P :=
  ⟨[], s, rfl, h⟩

theorem Leads.move {P : Progress α → Prop} (m : Move α) (hstep : s.step studio m = some s')
    (h : Leads studio s' P) : Leads studio s P := by
  obtain ⟨moves, s'', hrun, hP⟩ := h
  exact ⟨m :: moves, s'', by rw [run, hstep]; exact hrun, hP⟩

theorem Leads.trans {P Q : Progress α → Prop} (h : Leads studio s P)
    (hP : ∀ s, P s → Leads studio s Q) : Leads studio s Q := by
  obtain ⟨moves, s', hrun, hs'⟩ := h
  obtain ⟨moves', s'', hrun', hs''⟩ := hP s' hs'
  exact ⟨moves ++ moves', s'', run_append hrun hrun', hs''⟩

/-- Where a run is after a drain with this result. -/
def AfterDrain (r : EStateM.Result Fault (Viewer α) Unit) (s : Progress α) : Prop :=
  match r with
  | .ok _ v => s.viewer = v ∧ s.phase = .showing
  | .error fault v => s.viewer = v ∧ s.phase = .failed fault

/-- Where a run is after a pass with this result. -/
def AfterPass {β : Type} (r : EStateM.Result Fault (Viewer α) β) (s : Progress α) : Prop :=
  match r with
  | .ok _ v => if v.running then s.viewer = v ∧ s.phase = .waiting
      else s.viewer = v.close ∧ s.phase = .ended
  | .error fault v => s.viewer = v ∧ s.phase = .failed fault

theorem obeyFrom_cons (studio : Studio) (now : α) (message : Json) (messages : List Json)
    (v : Viewer α) :
    let taken : Viewer α := { v with queue := ⟨messages⟩ }
    obeyFrom studio now (message :: messages) v =
      if message.isTruthy then
        match Viewer.obey studio now message taken with
        | .ok _ v' => obeyFrom studio now messages v'
        | .error fault v' => .error fault v'
      else .ok () taken := by
  intro taken
  have happly : obeyFrom studio now (message :: messages) v =
      (if message.isTruthy then
        (do Viewer.obey studio now message; obeyFrom studio now messages : Step α Unit)
      else pure ()) taken := by
    rw [obeyFrom, bind_apply]
    rfl
  rw [happly]
  split
  · rw [bind_apply]
    cases Viewer.obey studio now message taken <;> rfl
  · rfl

/-- Taking and obeying messages one by one is what a viewer does in a drain. -/
theorem leads_drain (now : α) {messages : List Json} (hphase : s.phase = .taking)
    (hmessages : s.inQueue = messages) :
    Leads studio s (AfterDrain (obeyFrom studio now messages s.viewer)) := by
  induction messages generalizing s with
  | nil =>
    have htake : s.step studio (.work now) = some { s with phase := .showing } := by
      rw [step, work, hphase, ← take_of_nil hmessages]
    exact .move _ htake (.here ⟨rfl, rfl⟩)
  | cons message messages ih =>
    have htake : s.step studio (.work now) = some { s with
        viewer := { s.viewer with queue := ⟨messages⟩ }
        phase := if message.isTruthy then .obeying message else .showing } := by
      rw [step, work, hphase, ← take_of_cons hmessages]
    refine .move _ htake ?_
    rw [obeyFrom_cons]
    by_cases hcounts : message.isTruthy = true
    · rw [if_pos hcounts, if_pos hcounts]
      have hspares := spares_obey studio now message { s.viewer with queue := ⟨messages⟩ }
      refine .move (.work now) rfl ?_
      rw [obey]
      dsimp only
      cases hobey : Viewer.obey studio now message { s.viewer with queue := ⟨messages⟩ } with
      | ok _ v =>
        rw [hobey] at hspares
        exact ih rfl (congrArg Queue.messages hspares)
      | error fault v => exact .here ⟨rfl, rfl⟩
    · rw [if_neg hcounts, if_neg hcounts]
      exact .here ⟨rfl, rfl⟩

/-- From there on the viewer does what it does in a pass. -/
theorem leads_pass (now : α) (hphase : s.phase = .taking) :
    Leads studio s (AfterPass (pass studio now s.viewer)) := by
  refine (leads_drain now hphase rfl).trans fun t ht => ?_
  have hpass : pass studio now s.viewer = match obeyFrom studio now s.inQueue s.viewer with
      | .ok _ v => present studio now v
      | .error fault v => .error fault v := by
    have hdrain : drain studio now s.viewer = obeyFrom studio now s.inQueue s.viewer := by
      rw [drain, bind_apply]
      rfl
    rw [pass_eq, bind_apply, hdrain]
    cases obeyFrom studio now s.inQueue s.viewer <;> rfl
  rw [hpass]
  cases hdrain : obeyFrom studio now s.inQueue s.viewer with
  | error fault v =>
    rw [hdrain] at ht
    exact .here ht
  | ok _ v =>
    rw [hdrain] at ht
    obtain ⟨rfl, htaken⟩ := ht
    have hfinish : t.step studio (.work now) = some (t.finish studio now) := by
      rw [step, work, htaken]
    refine .move _ hfinish (.here ?_)
    rw [finish]
    dsimp only
    cases present studio now t.viewer with
    | error fault v => exact ⟨rfl, rfl⟩
    | ok _ v => cases hrunning : v.running <;> simp [AfterPass, hrunning]

/-- Messages come in one by one. -/
theorem leads_posts {P : Progress α → Prop} (messages : List Json)
    (h : ∀ arrivals, Leads studio { s with
        viewer := { s.viewer with queue := messages.foldl (fun q m => q.put m) s.viewer.queue }
        arrivals := arrivals } P) : Leads studio s P := by
  induction messages generalizing s with
  | nil => exact h s.arrivals
  | cons message messages ih => exact .move (.post 0 message) rfl (ih h)

/-- Events of the window are handled one by one. -/
theorem leads_events (now : α) {P : Progress α → Prop} (events : List InputEvent)
    (hphase : s.phase = .gathering events)
    (h : ∀ arrivals, Leads studio { s with
        viewer := { s.viewer with queue := events.foldl (fun q e => q.handle e) s.viewer.queue }
        phase := .taking
        arrivals := arrivals } P) : Leads studio s P := by
  induction events generalizing s with
  | nil =>
    have hgathered : s.step studio (.work now) = some { s with phase := .taking } := by
      rw [step, work, hphase]
    exact .move _ hgathered (h s.arrivals)
  | cons e events ih =>
    have hhandle : s.step studio (.work now) =
        some { s.arrive .window (Action.ofEvent? e) (s.viewer.queue.handle e) with
          phase := .gathering events } := by
      rw [step, work, hphase]
    exact .move _ hhandle (ih rfl h)

theorem frame_apply (input : Input α) (v : Viewer α) :
    frame studio input v = match pass studio input.now (v.receive input) with
      | .ok _ v' => .ok (v'.report (v.cues.getD []).length) v'
      | .error fault v' => .error fault v' := by
  rw [frame, bind_apply]
  show ((do modify (·.receive input); pass studio input.now; return (← get).report _ :
    Step α (Report α)) v) = _
  rw [bind_apply]
  show ((do pass studio input.now; return (← get).report _ : Step α (Report α))
    (v.receive input)) = _
  rw [bind_apply]
  cases pass studio input.now (v.receive input) <;> rfl

/-- A pass with what comes in before it is a run from one pass to the next. -/
theorem leads_frame (input : Input α) (hphase : s.phase = .waiting) :
    Leads studio s (AfterPass (frame studio input s.viewer)) := by
  have hframe : ∀ t, AfterPass (pass studio input.now (s.viewer.receive input)) t →
      AfterPass (frame studio input s.viewer) t := by
    intro t ht
    rw [frame_apply]
    cases hpass : pass studio input.now (s.viewer.receive input) <;> rw [hpass] at ht <;> exact ht
  have hlook : ∀ t : Progress α, t.phase = .waiting →
      t.step studio (.look input.events) = some { t with phase := .gathering input.events } := by
    intro t ht
    rw [step, ht]
  refine leads_posts input.messages fun arrivals => .move _ (hlook _ hphase) ?_
  refine leads_events input.now input.events rfl fun arrivals => ?_
  exact (leads_pass input.now rfl).trans fun t ht => .here (hframe t ht)

theorem running_of_frame {input : Input α} {v v' : Viewer α} {report : Report α}
    (h : frame studio input v = .ok report v') : report.running = v'.running := by
  rw [frame_apply] at h
  cases hpass : pass studio input.now (v.receive input) <;> rw [hpass] at h <;> cases h
  rfl

/-- What a viewer does with inputs is a run, from a pass that it is about to begin. -/
theorem leads_frames (inputs : List (Input α)) (hphase : s.phase = .waiting)
    (hrunning : s.viewer.running = true) :
    Leads studio s (AfterPass (frames studio inputs s.viewer)) := by
  induction inputs generalizing s with
  | nil =>
    refine .here ?_
    show AfterPass (.ok [] s.viewer) s
    rw [AfterPass, if_pos hrunning]
    exact ⟨rfl, hphase⟩
  | cons input inputs ih =>
    refine (leads_frame input hphase).trans fun t ht => ?_
    rw [frames, bind_apply]
    cases hframe : frame studio input s.viewer with
    | error fault v =>
      rw [hframe] at ht
      exact .here ht
    | ok report v =>
      rw [hframe] at ht
      dsimp only
      cases hreport : report.running with
      | false =>
        rw [if_neg Bool.false_ne_true]
        rw [AfterPass, ← running_of_frame hframe, hreport] at ht
        refine .here ?_
        show AfterPass (.ok [report] v) t
        rw [AfterPass, ← running_of_frame hframe, hreport]
        exact ht
      | true =>
        rw [if_pos rfl, bind_apply]
        rw [AfterPass, ← running_of_frame hframe, hreport, if_pos rfl] at ht
        obtain ⟨rfl, hwaiting⟩ := ht
        have hgoes : t.viewer.running = true := (running_of_frame hframe).symm.trans hreport
        refine (ih hwaiting hgoes).trans fun u hu => .here ?_
        cases hframes : frames studio inputs t.viewer <;> rw [hframes] at hu <;> exact hu

end Slideshow.Viewer.Progress
