import Mathlib.Data.List.Basic
import Slideshow.Proofs.Viewer.Interleaving

/-!
# Messages are obeyed in order

However others put messages while the viewer goes from pass to pass, none is lost, obeyed twice or
overtaken. A message that counts as nothing ends the pass's taking and is gone, and a message that
ends the run does not.

## Main definitions

* `Viewer.Progress.Conserved`: the messages that were put are taken in that order.
* `Viewer.Progress.Draining`, `Viewer.Progress.Drained`: what a pass does with the messages, while
  it takes them and afterwards.

## Main statements

* `Viewer.Progress.Orderly.effect`, `Viewer.Progress.InPass.effect`: what one move preserves.
* `Viewer.Progress.orderly_of_run`: both properties, for every run.
-/

namespace Slideshow.Viewer.Progress

variable {α : Type}

/-! ### Conservation -/

section Conservation

variable {s s' : Progress α} {m : Move α}

/-- No message is lost, repeated or overtaken: those that were put first have been taken, of these
all that count as something have been obeyed or are in hand, and the others wait. -/
def Conserved (s : Progress α) : Prop :=
  ∃ taken rest, s.arrivals = taken ++ rest ∧ s.inQueue = rest.map Arrival.message ∧
    s.obeyed ++ s.phase.inHand = (taken.filter Arrival.counts).map Arrival.message

theorem conserved_begin (v : Viewer α) (earlier : List Arrival) : Conserved (begin v earlier) :=
  ⟨[], earlier, rfl, rfl, rfl⟩

theorem Conserved.effect (h : Conserved s) (he : Effect m s s') : Conserved s' := by
  obtain ⟨taken, rest, harrivals, hqueue, hobeyed⟩ := h
  cases he with
  | put new arrivals inQueue obeyed _ phase =>
    refine ⟨taken, rest ++ new, by rw [arrivals, harrivals, List.append_assoc],
      by rw [inQueue, hqueue, List.map_append], ?_⟩
    rw [obeyed, phase.inHand, hobeyed]
  | take message arrivals inQueue obeyed before after =>
    rw [inQueue] at hqueue
    obtain ⟨a, rest, rfl, rfl, hrest⟩ := List.map_eq_cons_iff.mp hqueue.symm
    refine ⟨taken ++ [a], rest, by rw [arrivals, harrivals, List.append_assoc]; rfl, hrest.symm, ?_⟩
    rw [before] at hobeyed
    rw [obeyed, after, List.filter_append, List.map_append, ← hobeyed]
    by_cases hcounts : a.message.isTruthy = true
    · simp [hcounts, Arrival.counts, Phase.inHand]
    · simp [hcounts, Arrival.counts, Phase.inHand]
  | starve arrivals inQueue obeyed _ before after =>
    refine ⟨taken, rest, arrivals.trans harrivals, inQueue.trans hqueue, ?_⟩
    rw [before] at hobeyed
    rw [obeyed, after]
    exact hobeyed
  | obey message arrivals inQueue obeyed before inHand _ _ =>
    refine ⟨taken, rest, arrivals.trans harrivals, inQueue.trans hqueue, ?_⟩
    rw [before, Phase.inHand_obeying] at hobeyed
    rw [obeyed, inHand, List.append_nil, hobeyed]
  | turn arrivals inQueue obeyed inHand _ _ =>
    refine ⟨taken, rest, arrivals.trans harrivals, inQueue.trans hqueue, ?_⟩
    rw [inHand.1] at hobeyed
    rw [obeyed, inHand.2, hobeyed]

/-- What a producer puts is taken in the order in which it puts it. -/
theorem exists_take_filter {taken rest arrivals : List Arrival} (h : arrivals = taken ++ rest)
    (producer : Producer) :
    ∃ n, (taken.filter Arrival.counts).filter (·.producer = producer) =
      ((arrivals.filter (·.producer = producer)).take n).filter Arrival.counts := by
  have hbegins : taken <+: arrivals := ⟨rest, h.symm⟩
  have htake := List.prefix_iff_eq_take.mp (hbegins.filter (·.producer = producer))
  refine ⟨(taken.filter (·.producer = producer)).length, ?_⟩
  rw [← htake, List.filter_comm]

/-- All that was ever put are actions. -/
def AllActions (s : Progress α) : Prop :=
  ∀ a ∈ s.arrivals, a.message.IsAction

theorem AllActions.effect (h : AllActions s) (hm : m.IsFair) (he : Effect m s s') :
    AllActions s' := by
  intro a ha
  cases he with
  | put new arrivals _ _ actions _ =>
    rw [arrivals] at ha
    exact (List.mem_append.mp ha).elim (h a) (actions hm a)
  | take _ arrivals | starve arrivals | obey _ arrivals | turn arrivals =>
    exact h a (arrivals ▸ ha)

/-- No run fails at an action that is obeyed. -/
theorem Conserved.typed (h : Conserved s) (hactions : AllActions s)
    (hphase : ∀ message, s.phase ≠ .failed (.untyped message)) (he : Effect m s s')
    (message : Json) : s'.phase ≠ .failed (.untyped message) := by
  cases he with
  | put _ _ _ _ _ phase =>
    intro hfailed
    generalize s.phase = before, s'.phase = after at phase hphase hfailed
    cases phase with
    | refl => exact hphase message hfailed
    | gathering => cases hfailed
  | take taken _ _ _ _ after =>
    rw [after]
    split <;> exact nofun
  | starve _ _ _ _ _ after =>
    rw [after]
    exact nofun
  | obey inHand _ _ _ before _ _ typed =>
    obtain ⟨taken, rest, harrivals, -, hobeyed⟩ := h
    have hmem : inHand ∈ (taken.filter Arrival.counts).map Arrival.message := by
      rw [← hobeyed, before]
      exact List.mem_append_right _ (List.mem_singleton.mpr rfl)
    obtain ⟨a, ha, rfl⟩ := List.mem_map.mp hmem
    obtain ⟨ha, hcounts⟩ := List.mem_filter.mp ha
    rw [typed (hactions a (harrivals ▸ List.mem_append_left _ ha) hcounts)]
    exact nofun
  | turn _ _ _ _ _ typed => exact typed message

/-- A run in which all that is put are actions. -/
structure Orderly (s : Progress α) : Prop where
  conserved : Conserved s
  actions : AllActions s
  typed : ∀ message, s.phase ≠ .failed (.untyped message)

theorem orderly_begin (v : Viewer α) {earlier : List Arrival}
    (h : ∀ a ∈ earlier, a.message.IsAction) : Orderly (begin v earlier) :=
  ⟨conserved_begin v earlier, h, nofun⟩

theorem Orderly.effect (h : Orderly s) (hm : m.IsFair) (he : Effect m s s') : Orderly s' :=
  ⟨h.conserved.effect he, h.actions.effect hm he, h.conserved.typed h.actions h.typed he⟩

end Conservation

/-! ### Passes -/

section Passes

variable {s s' s'' : Progress α} {m : Move α}

/-- A pass from `s` on that still takes messages: what waited, and what was put since then, is
obeyed, in hand or waiting, in this order. -/
def Draining (s s' : Progress α) : Prop :=
  ∃ since obeyed, s'.arrivals = s.arrivals ++ since ∧ s'.obeyed = s.obeyed ++ obeyed ∧
    (∀ message ∈ obeyed ++ s'.phase.inHand, message.isTruthy = true) ∧
    s.inQueue ++ since.map Arrival.message = obeyed ++ s'.phase.inHand ++ s'.inQueue

/-- A pass from `s` on that takes no more messages: of what waited, and what was put since then, it
obeyed everything up to the first message that counts as nothing, which is gone, or else everything
up to a time when no more was there. -/
def Drained (s s' : Progress α) : Prop :=
  ∃ since obeyed, s'.arrivals = s.arrivals ++ since ∧ s'.obeyed = s.obeyed ++ obeyed ∧
    (∀ message ∈ obeyed, message.isTruthy = true) ∧
    ((∃ blank, blank.isTruthy = false ∧
        s.inQueue ++ since.map Arrival.message = obeyed ++ blank :: s'.inQueue) ∨
      ∃ before after, since = before ++ after ∧
        s.inQueue ++ before.map Arrival.message = obeyed ∧ s'.inQueue = after.map Arrival.message)

/-- What a pass from `s` on has done to the messages. -/
def InPass (s s' : Progress α) : Prop :=
  if s'.phase.hasTaken then Drained s s' else Draining s s'

theorem inPass_iff_draining (h : s'.phase.hasTaken = false) : InPass s s' ↔ Draining s s' := by
  rw [InPass, h, if_neg Bool.false_ne_true]

theorem inPass_iff_drained (h : s'.phase.hasTaken = true) : InPass s s' ↔ Drained s s' := by
  rw [InPass, h, if_pos rfl]

theorem inPass_look (s : Progress α) (events : List InputEvent) :
    InPass s { s with phase := .gathering events } := by
  exact (inPass_iff_draining rfl).mpr ⟨[], [], (List.append_nil _).symm, (List.append_nil _).symm,
    fun message h => absurd h List.not_mem_nil, List.append_nil _⟩

theorem Draining.effect (h : Draining s s') (hphase : s'.phase.hasTaken = false)
    (hm : m.isLook = false) (he : Effect m s' s'') : InPass s s'' := by
  obtain ⟨since, now, harrivals, hobeyed, htruthy, hmessages⟩ := h
  cases he with
  | put new arrivals inQueue obeyed _ phase =>
    refine (inPass_iff_draining (phase.hasTaken.trans hphase)).mpr ⟨since ++ new, now, ?_,
      obeyed.trans hobeyed, phase.inHand ▸ htruthy, ?_⟩
    · rw [arrivals, harrivals, List.append_assoc]
    · rw [phase.inHand, inQueue, List.map_append, ← List.append_assoc, hmessages,
        List.append_assoc]
  | take message arrivals inQueue obeyed before after =>
    rw [before, Phase.inHand_taking, List.append_nil] at hmessages htruthy
    rw [inQueue] at hmessages
    by_cases hcounts : message.isTruthy = true
    · rw [if_pos hcounts] at after
      refine (inPass_iff_draining (by rw [after]; rfl)).mpr ⟨since, now,
        arrivals.trans harrivals, obeyed.trans hobeyed, ?_, ?_⟩
      · rw [after, Phase.inHand_obeying]
        exact List.forall_mem_append.mpr ⟨htruthy, List.forall_mem_singleton.mpr hcounts⟩
      · rw [after, Phase.inHand_obeying, hmessages, List.append_assoc]
        rfl
    · rw [if_neg hcounts] at after
      exact (inPass_iff_drained (by rw [after]; rfl)).mpr ⟨since, now, arrivals.trans harrivals,
        obeyed.trans hobeyed, htruthy,
        .inl ⟨message, Bool.eq_false_iff.mpr hcounts, hmessages⟩⟩
  | starve arrivals inQueue obeyed empty before after =>
    rw [before, Phase.inHand_taking, List.append_nil] at hmessages htruthy
    rw [empty, List.append_nil] at hmessages
    exact (inPass_iff_drained (by rw [after]; rfl)).mpr ⟨since, now, arrivals.trans harrivals,
      obeyed.trans hobeyed, htruthy,
      .inr ⟨since, [], (List.append_nil _).symm, hmessages, inQueue.trans empty⟩⟩
  | obey message arrivals inQueue obeyed before inHand taken _ =>
    rw [before, Phase.inHand_obeying] at hmessages htruthy
    refine (inPass_iff_draining taken).mpr ⟨since, now ++ [message], arrivals.trans harrivals,
      ?_, ?_, ?_⟩
    · rw [obeyed, hobeyed, List.append_assoc]
    · rw [inHand, List.append_nil]
      exact htruthy
    · rw [inHand, List.append_nil, inQueue]
      exact hmessages
  | turn arrivals inQueue obeyed inHand taken _ =>
    rw [inHand.1] at hmessages htruthy
    refine (inPass_iff_draining ((taken hm).trans hphase)).mpr ⟨since, now,
      arrivals.trans harrivals, obeyed.trans hobeyed, ?_, ?_⟩
    · rw [inHand.2]
      exact htruthy
    · rw [inHand.2, inQueue]
      exact hmessages

/-- What is put behind a pass that takes no more messages is left to the next one. -/
theorem Drained.effect (h : Drained s s') (hphase : s'.phase.hasTaken = true)
    (hm : m.isLook = false) (he : Effect m s' s'') : InPass s s'' := by
  obtain ⟨since, now, harrivals, hobeyed, htruthy, hmessages⟩ := h
  cases he with
  | put new arrivals inQueue obeyed _ phase =>
    refine (inPass_iff_drained (phase.hasTaken.trans hphase)).mpr ⟨since ++ new, now, ?_,
      obeyed.trans hobeyed, htruthy, ?_⟩
    · rw [arrivals, harrivals, List.append_assoc]
    · obtain ⟨blank, hblank, hmessages⟩ | ⟨before, after, rfl, hmessages, hafter⟩ := hmessages
      · refine .inl ⟨blank, hblank, ?_⟩
        rw [inQueue, List.map_append, ← List.append_assoc, hmessages, List.append_assoc]
        rfl
      · refine .inr ⟨before, after ++ new, List.append_assoc .., hmessages, ?_⟩
        rw [inQueue, hafter, List.map_append]
  | turn arrivals inQueue obeyed _ taken _ =>
    refine (inPass_iff_drained ((taken hm).trans hphase)).mpr ⟨since, now,
      arrivals.trans harrivals, obeyed.trans hobeyed, htruthy, ?_⟩
    rw [inQueue]
    exact hmessages
  | take _ _ _ _ before | starve _ _ _ _ before | obey _ _ _ _ before =>
    rw [before] at hphase
    cases hphase

theorem InPass.effect (h : InPass s s') (hm : m.isLook = false) (he : Effect m s' s'') :
    InPass s s'' := by
  cases hphase : s'.phase.hasTaken with
  | true => exact ((inPass_iff_drained hphase).mp h).effect hphase hm he
  | false => exact ((inPass_iff_draining hphase).mp h).effect hphase hm he

end Passes

/-! ### Runs -/

section Runs

variable [Scalar α] {studio : Studio} {s s' : Progress α} {moves : List (Move α)}

/-- A pass, up to any moment in it. -/
theorem inPass_of_run {events : List InputEvent} (hmoves : ∀ m ∈ moves, m.isLook = false)
    (hrun : run studio (.look events :: moves) s = some s') : InPass s s' := by
  obtain ⟨next, hnext, hrun⟩ := run_cons _ hrun
  obtain ⟨-, rfl⟩ := eq_of_look hnext
  exact run_induction (InPass s) (·.isLook = false) (fun _ _ _ h hm he => h.effect hm he)
    (inPass_look s events) hmoves hrun

/-- Every run of the viewer, however others put messages in between, if all of them are actions. The
messages that were obeyed, with one that may be in hand, are those that count as something among the
first that were put, in the order in which they were put, and the others wait in that order. So it
is for each producer. Obeying never fails, and a pass goes on until it has taken what it takes: all
up to the first message that counts as nothing or up to an empty queue, whatever they ask for. -/
theorem orderly_of_run {v : Viewer α} {earlier : List Arrival}
    (hearlier : ∀ a ∈ earlier, a.message.IsAction) (hmoves : ∀ m ∈ moves, m.IsFair)
    (hrun : run studio moves (begin v earlier) = some s) :
    (∃ taken rest, s.arrivals = taken ++ rest ∧ s.inQueue = rest.map Arrival.message ∧
      s.obeyed ++ s.phase.inHand = (taken.filter Arrival.counts).map Arrival.message ∧
      ∀ producer, ∃ n, (taken.filter Arrival.counts).filter (·.producer = producer) =
        ((s.arrivals.filter (·.producer = producer)).take n).filter Arrival.counts) ∧
    (∀ message, s.phase ≠ .failed (.untyped message)) ∧
    (s.phase.hasTaken = false → ∀ now, ∃ next, s.step studio (.work now) = some next) ∧
    ∀ events pass s', (∀ m ∈ pass, m.isLook = false) →
      run studio (.look events :: pass) s = some s' → s'.phase.hasTaken = true → Drained s s' := by
  have horderly : Orderly s :=
    run_induction Orderly Move.IsFair (fun _ _ _ h hm he => h.effect hm he)
      (orderly_begin v hearlier) hmoves hrun
  obtain ⟨taken, rest, harrivals, hqueue, hobeyed⟩ := horderly.conserved
  refine ⟨⟨taken, rest, harrivals, hqueue, hobeyed, exists_take_filter harrivals⟩, horderly.typed,
    fun htaken now => exists_work now htaken horderly.typed, ?_⟩
  intro events pass s' hpass hrun htaken
  exact (inPass_iff_drained htaken).mp (inPass_of_run hpass hrun)

end Runs

/-- A run of one pass. A thread starts the show, the window is closed, and a command is handled
while the viewer is at it; all three are obeyed, though the second one ends the run. What the thread
put behind a null waits for ever. -/
theorem orderly_of_run_closed :
    let studio : Studio := ⟨{}, fun _ => none⟩
    let v : Viewer Rat := .setUp studio .empty "" false
    let moves : List (Move Rat) := [.post 1 Action.start.toJson]
    let pass : List (Move Rat) := [.work 1, .command 2 "fullscreen", .work 1, .work 1,
      .post 1 .null, .post 1 Action.start.toJson, .work 1, .work 1, .work 1, .work 1, .work 1,
      .work 1, .work 1]
    ∃ s s', (∀ m ∈ moves, m.IsFair) ∧ run studio moves (begin v []) = some s ∧
      (∀ m ∈ pass, m.isLook = false) ∧ run studio (.look [.close] :: pass) s = some s' ∧
      Drained s s' ∧ s'.phase = .ended ∧
      s'.obeyed = [Action.start.toJson, Action.quit.toJson, Action.toggleFullscreen.toJson] ∧
      s'.inQueue = [Action.start.toJson] := by
  intro studio v moves pass
  have hearlier : ∀ a ∈ ([] : List Arrival), a.message.IsAction := nofun
  have hmoves : ∀ m ∈ moves, m.IsFair :=
    List.forall_mem_singleton.mpr Action.start.isAction_toJson
  have hpass : ∀ m ∈ pass, m.isLook = false := by
    simp [pass, Move.isLook]
  refine ⟨_, _, hmoves, rfl, hpass, rfl, ?_, rfl, rfl, rfl⟩
  exact (orderly_of_run hearlier hmoves rfl).2.2.2 [.close] pass _ hpass rfl rfl

end Slideshow.Viewer.Progress
