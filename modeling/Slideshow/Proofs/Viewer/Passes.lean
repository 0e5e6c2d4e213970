import Slideshow.Proofs.Viewer.Changes

/-!
# A pass among others

A pass whose clock stands still comes to what a pass alone comes to: whatever others put meanwhile,
it makes of the viewer what a pass makes of it that finds just the messages waiting that were
obeyed.

## Main definitions

* `Viewer.Move.IsAt`: what happens in a pass whose clock stands still.
* `Viewer.Progress.Made`: what a pass has made of a viewer, up to any moment of it.
* `Viewer.Progress.Passed`: what a pass has made of a run.

## Main statements

* `Viewer.exists_drain_of_pass`, `Viewer.pass_eq_present`: the parts of a pass.
* `Viewer.Progress.Made.step`: one move of a pass.
* `Viewer.Progress.exists_passed_of_run`: a pass that came to its end.
-/

namespace Slideshow.Viewer

/-- A move of somebody else, or one with which the viewer goes on with its pass at `now`. -/
def Move.IsAt {α : Type} (now : α) : Move α → Prop
  | .work time => time = now
  | .look _ => False
  | .post _ _ | .command _ _ => True

variable {α : Type} [Scalar α] {studio : Studio} {now : α}

/-- A pass is a drain and then a frame. -/
theorem exists_drain_of_pass {v w : Viewer α} (h : pass studio now v = .ok () w) :
    ∃ u, drain studio now v = .ok () u ∧ present studio now u = .ok () w := by
  rw [pass_eq, bind_apply] at h
  cases hdrain : drain studio now v with
  | error fault u =>
    rw [hdrain] at h
    cases h
  | ok _ u =>
    rw [hdrain] at h
    exact ⟨u, rfl, h⟩

theorem pass_eq_present (studio : Studio) (now : α) {messages : List Json}
    (htyped : ∀ message ∈ messages, message.hasType = true) (v : Viewer α) :
    pass studio now (v.withQueue ⟨messages⟩) =
      present studio now ((v.heedAll studio now messages).withQueue .empty) := by
  rw [pass_eq, bind_apply, drain_eq htyped, heedAll_withQueue]

namespace Progress

/-- What a pass has made of a viewer `v`, having obeyed some messages: where it is, and the
viewer. -/
inductive Made (studio : Studio) (now : α) (v : Viewer α) (obeyed : List Json) (phase : Phase)
    (w : Viewer α) : Prop
  /-- The messages are heeded. -/
  | heeded (queue : Queue) (typed : ∀ message ∈ obeyed, message.hasType = true)
      (viewer : w = (v.heedAll studio now obeyed).withQueue queue)
      (heeding : phase.isHeeding = true)
  /-- The pass is at its end. -/
  | passed (queue : Queue) (u : Viewer α) (typed : ∀ message ∈ obeyed, message.hasType = true)
      (pass : pass studio now (v.withQueue ⟨obeyed⟩) = .ok () u)
      (viewer : w = (if u.running then u else u.close).withQueue queue)
      (done : phase = if u.running then .waiting else .ended)
  /-- The pass cannot be finished. -/
  | failed (fault : Fault) (failed : phase = .failed fault)

section Made

variable {v w : Viewer α} {obeyed : List Json} {phase : Phase} {m : Move α} {s s' : Progress α}

/-- A frame that is shown is the end of the pass. -/
theorem Made.of_present {queue : Queue} (htyped : ∀ message ∈ obeyed, message.hasType = true)
    (h : present studio now ((v.heedAll studio now obeyed).withQueue queue) = .ok () w) :
    Made studio now v obeyed (if w.running then .waiting else .ended)
      (if w.running then w else w.close) := by
  rw [present_withQueue] at h
  cases hpresent : present studio now (v.heedAll studio now obeyed) with
  | error fault u =>
    rw [hpresent] at h
    cases h
  | ok _ u =>
    rw [hpresent] at h
    cases h
    refine .passed queue (u.withQueue .empty) htyped ?_ ?_ rfl
    · rw [pass_eq_present studio now htyped, present_withQueue, hpresent]
    · show (if u.running then u.withQueue queue else (u.withQueue queue).close) =
        (if u.running then u.withQueue .empty else (u.withQueue .empty).close).withQueue queue
      split <;> rfl

theorem Made.heeding (h : Made studio now v obeyed phase w) (hphase : phase.isHeeding = true) :
    (∀ message ∈ obeyed, message.hasType = true) ∧
      ∃ queue, w = (v.heedAll studio now obeyed).withQueue queue := by
  cases h with
  | heeded queue typed viewer => exact ⟨typed, queue, viewer⟩
  | passed _ u _ _ _ done =>
    rw [done] at hphase
    split at hphase <;> cases hphase
  | failed fault failed =>
    rw [failed] at hphase
    cases hphase

/-- What one move makes of what a pass has made of a viewer. -/
theorem Made.step (h : Made studio now v obeyed s.phase s.viewer) (hm : m.IsAt now)
    (hstep : s.step studio m = some s') :
    ∃ more, s'.obeyed = s.obeyed ++ more ∧
      Made studio now v (obeyed ++ more) s'.phase s'.viewer := by
  have hheeding : ∀ {phase : Phase}, s.phase = phase → phase.isHeeding = true →
      (∀ message ∈ obeyed, message.hasType = true) ∧
        ∃ queue, s.viewer = (v.heedAll studio now obeyed).withQueue queue :=
    fun hphase hbefore => h.heeding (hphase ▸ hbefore)
  -- Moves of others change the queue, in which the viewer finds messages of any time; what it has
  -- made of them so far is carried on by what it obeys next.
  cases change_step hstep with
  | queue queue viewer sameObeyed phase =>
    refine ⟨[], by rw [sameObeyed, List.append_nil], ?_⟩
    rw [List.append_nil, viewer]
    obtain hsame | ⟨hafter, hbefore | ⟨-, hlook⟩⟩ := phase
    · rw [hsame]
      cases h with
      | heeded _ typed viewer heeding => exact .heeded queue typed (by rw [viewer]; rfl) heeding
      | passed _ u typed pass viewer done =>
        exact .passed queue u typed pass (by rw [viewer]; rfl) done
      | failed fault failed => exact .failed fault failed
    · obtain ⟨htyped, _, hviewer⟩ := h.heeding hbefore
      exact .heeded queue htyped (by rw [hviewer]; rfl) hafter
    · cases m with
      | look _ => exact hm.elim
      | _ => cases hlook
  | heed time message move viewer obeyed before after typed =>
    subst move
    obtain rfl : time = now := hm
    obtain ⟨htyped, queue, hviewer⟩ := hheeding before rfl
    refine ⟨[message], obeyed, .heeded queue ?_ ?_ (by rw [after]; rfl)⟩
    · exact List.forall_mem_append.mpr ⟨htyped, List.forall_mem_singleton.mpr typed⟩
    · rw [viewer, hviewer, heed_withQueue, heedAll_concat]
  | refuse message _ obeyed _ after => exact ⟨[message], obeyed, .failed _ after⟩
  | finish time u move shown viewer sameObeyed before after =>
    subst move
    obtain rfl : time = now := hm
    obtain ⟨htyped, queue, hviewer⟩ := hheeding before rfl
    rw [hviewer] at shown
    refine ⟨[], by rw [sameObeyed, List.append_nil], ?_⟩
    rw [List.append_nil, after, viewer]
    exact .of_present htyped shown
  | fail _ fault _ _ sameObeyed _ after =>
    exact ⟨[], by rw [sameObeyed, List.append_nil], .failed fault after⟩

/-- What moves make of what a pass has made of a viewer. -/
theorem Made.run {pass : List (Move α)} (h : Made studio now v obeyed s.phase s.viewer)
    (hpass : ∀ m ∈ pass, m.IsAt now) (hrun : run studio pass s = some s') :
    ∃ more, s'.obeyed = s.obeyed ++ more ∧
      Made studio now v (obeyed ++ more) s'.phase s'.viewer := by
  induction pass generalizing s obeyed with
  | nil =>
    cases hrun
    exact ⟨[], by rw [List.append_nil], by rwa [List.append_nil]⟩
  | cons m pass ih =>
    obtain ⟨hm, hpass⟩ := List.forall_mem_cons.mp hpass
    obtain ⟨next, hnext, hrun⟩ := run_cons m hrun
    obtain ⟨first, hfirst, hmade⟩ := h.step hm hnext
    obtain ⟨more, hmore, hmade⟩ := ih hmade hpass hrun
    exact ⟨first ++ more, by rw [hmore, hfirst, List.append_assoc], by rwa [← List.append_assoc]⟩

end Made

/-- What a pass has made of a run: it obeyed some messages, and made of the viewer what a pass at
`now` makes of it that finds just these messages waiting. -/
structure Passed (studio : Studio) (now : α) (s s' : Progress α) (messages : List Json)
    (w : Viewer α) : Prop where
  obeyed : s'.obeyed = s.obeyed ++ messages
  typed : ∀ message ∈ messages, message.hasType = true
  pass : pass studio now (s.viewer.withQueue ⟨messages⟩) = .ok () w
  viewer : s'.viewer = (if w.running then w else w.close).withQueue s'.viewer.queue
  phase : s'.phase = if w.running then .waiting else .ended

/-- A pass whose clock stands still, and that came to its end. -/
theorem exists_passed_of_run {s s' : Progress α} {events : List InputEvent} {pass : List (Move α)}
    (hpass : ∀ m ∈ pass, m.IsAt now) (hrun : run studio (.look events :: pass) s = some s')
    (hdone : s'.phase = .waiting ∨ s'.phase = .ended) :
    ∃ messages w, Passed studio now s s' messages w := by
  obtain ⟨next, hlook, hrun⟩ := run_cons _ hrun
  obtain ⟨-, rfl⟩ := eq_of_look hlook
  have hbegun : Made studio now s.viewer [] (.gathering events) s.viewer :=
    .heeded s.viewer.queue nofun rfl rfl
  obtain ⟨obeyed, hobeyed, hmade⟩ := Made.run hbegun hpass hrun
  rw [List.nil_append] at hmade
  cases hmade with
  | heeded _ _ _ heeding =>
    obtain hphase | hphase := hdone <;> rw [hphase] at heeding <;> cases heeding
  | passed queue w typed pass viewer done =>
    exact ⟨obeyed, w, hobeyed, typed, pass, by rw [viewer]; rfl, done⟩
  | failed fault failed =>
    obtain hphase | hphase := hdone <;> rw [hphase] at failed <;> cases failed

end Progress

end Slideshow.Viewer
