import Slideshow.Proofs.Viewer.Steps

/-!
# A viewer among others

While the viewer goes from pass to pass, others put messages into its queue: the threads of the
remote, and whoever else likes to, at any moment. Putting and taking are atomic, so what happens is
a sequence of moves, each of them one of the viewer or of somebody else.

## Main definitions

* `Viewer.Phase`: where in its pass the viewer is.
* `Viewer.Progress`: a run so far, with all messages that were ever put and all that were obeyed.
* `Viewer.Progress.step`, `Viewer.Progress.run`: one move, and moves one after the other.
* `Viewer.Progress.Effect`: what a move does to the messages.

## Main statements

* `Viewer.Progress.effect_step`: every move has one of these effects.
* `Viewer.Progress.exists_work`: a pass goes on.
* `Viewer.Progress.run_induction`: what every move preserves.

## Design notes

The clock may move from one move of the viewer to the next. A message that the viewer has taken and
not yet obeyed is in its hand, where nobody else can see it.
-/

namespace Slideshow.Viewer

/-- Who puts messages: the viewer itself for its window, and other threads. -/
inductive Producer where
  | window
  | thread (id : Nat)
  deriving DecidableEq, Repr

/-- A message that was put, and by whom. -/
structure Arrival where
  producer : Producer
  message : Json

/-- Whether what was put counts as something. -/
def Arrival.counts (a : Arrival) : Bool :=
  a.message.isTruthy

/-- Where in its pass the viewer is. -/
inductive Phase where
  /-- Between two passes. -/
  | waiting
  /-- About to handle events of the window. -/
  | gathering (events : List InputEvent)
  /-- About to take a message. -/
  | taking
  /-- About to obey a message. -/
  | obeying (message : Json)
  /-- About to move the clock and to show the frame. -/
  | showing
  | ended
  | failed (fault : Fault)

namespace Phase

/-- The messages that are taken and not yet obeyed. -/
def inHand : Phase → List Json
  | .obeying message => [message]
  | _ => []

/-- Whether the pass has taken all messages that it takes. -/
def hasTaken : Phase → Bool
  | .gathering _ | .taking | .obeying _ | .failed (.untyped _) => false
  | .waiting | .showing | .ended | .failed _ => true

theorem inHand_taking : taking.inHand = [] :=
  rfl

theorem inHand_obeying (message : Json) : (obeying message).inHand = [message] :=
  rfl

/-- Both phases are in the same part of a pass, perhaps with other events to be handled. -/
inductive SamePart : Phase → Phase → Prop
  | refl (p : Phase) : SamePart p p
  | gathering (events events' : List InputEvent) : SamePart (gathering events) (gathering events')

theorem SamePart.inHand {p p' : Phase} (h : SamePart p p') : p'.inHand = p.inHand := by
  cases h <;> rfl

theorem SamePart.hasTaken {p p' : Phase} (h : SamePart p p') : p'.hasTaken = p.hasTaken := by
  cases h <;> rfl

end Phase

/-- What can happen next: a thread puts a message, a thread handles a command of the remote, the
viewer begins a pass with the events of its window, or it goes on with its pass. -/
inductive Move (α : Type) where
  | post (id : Nat) (message : Json)
  | command (id : Nat) (name : String)
  | look (events : List InputEvent)
  | work (now : α)

namespace Move

variable {α : Type}

/-- What is put is an action. Commands and events ask for nothing else. -/
def IsFair : Move α → Prop
  | .post _ message => message.IsAction
  | _ => True

def isLook : Move α → Bool
  | .look _ => true
  | _ => false

end Move

/-- A run so far. The arrivals are all messages that were ever put, and the obeyed ones all that
were acted on, the oldest first. -/
structure Progress (α : Type) where
  viewer : Viewer α
  phase : Phase
  arrivals : List Arrival
  obeyed : List Json

namespace Progress

variable {α : Type}

/-- The messages that wait in the queue. -/
def inQueue (s : Progress α) : List Json :=
  s.viewer.queue.messages

/-- The beginning of a run, with messages that were put earlier. -/
def begin (v : Viewer α) (earlier : List Arrival) : Progress α where
  viewer := { v with running := true, queue := ⟨earlier.map Arrival.message⟩ }
  phase := .waiting
  arrivals := earlier
  obeyed := []

/-- A producer has put what is asked for, so that the queue is `queue` now. -/
def arrive (producer : Producer) (asked : Option Action) (queue : Queue) (s : Progress α) :
    Progress α :=
  { s with
    viewer := { s.viewer with queue := queue }
    arrivals := s.arrivals ++ asked.toList.map fun a => ⟨producer, a.toJson⟩ }

/-- The viewer takes a message. One that counts as nothing looks like the end of the queue. -/
def take (s : Progress α) : Progress α :=
  match s.viewer.queue.poll with
  | (some message, queue) =>
    { s with
      viewer := { s.viewer with queue := queue }
      phase := if message.isTruthy then .obeying message else .showing }
  | (none, _) => { s with phase := .showing }

section Moves

variable [Scalar α]

/-- The viewer obeys a message that it has taken. -/
def obey (studio : Studio) (now : α) (message : Json) (s : Progress α) : Progress α :=
  match Viewer.obey studio now message s.viewer with
  | .ok _ v => { s with viewer := v, phase := .taking, obeyed := s.obeyed ++ [message] }
  | .error fault v =>
    { s with viewer := v, phase := .failed fault, obeyed := s.obeyed ++ [message] }

/-- The viewer shows the frame, and stops if it was told to. -/
def finish (studio : Studio) (now : α) (s : Progress α) : Progress α :=
  match present studio now s.viewer with
  | .ok _ v =>
    if v.running then { s with viewer := v, phase := .waiting }
    else { s with viewer := v.close, phase := .ended }
  | .error fault v => { s with viewer := v, phase := .failed fault }

/-- The viewer goes on with its pass. -/
def work (studio : Studio) (now : α) (s : Progress α) : Option (Progress α) :=
  match s.phase with
  | .gathering (e :: events) =>
    some { s.arrive .window (Action.ofEvent? e) (s.viewer.queue.handle e) with
      phase := .gathering events }
  | .gathering [] => some { s with phase := .taking }
  | .taking => some s.take
  | .obeying message => some (s.obey studio now message)
  | .showing => some (s.finish studio now)
  | .waiting | .ended | .failed _ => none

/-- A move, if it is possible. -/
def step (studio : Studio) (s : Progress α) : Move α → Option (Progress α)
  | .post id message =>
    some { s with
      viewer := { s.viewer with queue := s.viewer.queue.put message }
      arrivals := s.arrivals ++ [⟨.thread id, message⟩] }
  | .command id name =>
    some (s.arrive (.thread id) (Action.ofCommand? name) (s.viewer.queue.command name).2)
  | .look events =>
    match s.phase with
    | .waiting => some { s with phase := .gathering events }
    | _ => none
  | .work now => s.work studio now

/-- Moves one after the other, if they are possible. -/
def run (studio : Studio) : List (Move α) → Progress α → Option (Progress α)
  | [], s => some s
  | m :: moves, s => (s.step studio m).bind (run studio moves)

end Moves

/-! ### Effects -/

/-- What a move does to the messages. -/
inductive Effect (m : Move α) (s s' : Progress α) : Prop
  /-- Messages are put, behind all others. -/
  | put (new : List Arrival) (arrivals : s'.arrivals = s.arrivals ++ new)
      (inQueue : s'.inQueue = s.inQueue ++ new.map Arrival.message) (obeyed : s'.obeyed = s.obeyed)
      (actions : m.IsFair → ∀ a ∈ new, a.message.IsAction)
      (phase : s.phase.SamePart s'.phase)
  /-- The oldest message is taken. -/
  | take (message : Json) (arrivals : s'.arrivals = s.arrivals)
      (inQueue : s.inQueue = message :: s'.inQueue) (obeyed : s'.obeyed = s.obeyed)
      (before : s.phase = .taking)
      (after : s'.phase = if message.isTruthy then .obeying message else .showing)
  /-- There is none to be taken. -/
  | starve (arrivals : s'.arrivals = s.arrivals) (inQueue : s'.inQueue = s.inQueue)
      (obeyed : s'.obeyed = s.obeyed) (empty : s.inQueue = []) (before : s.phase = .taking)
      (after : s'.phase = .showing)
  /-- The message in hand is acted on. -/
  | obey (message : Json) (arrivals : s'.arrivals = s.arrivals) (inQueue : s'.inQueue = s.inQueue)
      (obeyed : s'.obeyed = s.obeyed ++ [message]) (before : s.phase = .obeying message)
      (inHand : s'.phase.inHand = []) (taken : s'.phase.hasTaken = false)
      (typed : message.hasType = true → s'.phase = .taking)
  /-- The viewer turns to the next part of its pass. -/
  | turn (arrivals : s'.arrivals = s.arrivals) (inQueue : s'.inQueue = s.inQueue)
      (obeyed : s'.obeyed = s.obeyed) (inHand : s.phase.inHand = [] ∧ s'.phase.inHand = [])
      (taken : m.isLook = false → s'.phase.hasTaken = s.phase.hasTaken)
      (typed : ∀ message, s'.phase ≠ .failed (.untyped message))

section Effects

variable {s s' : Progress α} {m : Move α}

theorem effect_arrive (producer : Producer) {asked : Option Action} {queue : Queue}
    (hqueue : queue.messages = s.inQueue ++ asked.toList.map Action.toJson) {phase : Phase}
    (hphase : s.phase.SamePart phase) :
    Effect m s { s.arrive producer asked queue with phase := phase } := by
  refine .put (asked.toList.map fun a => ⟨producer, a.toJson⟩) rfl ?_ rfl (fun _ a ha => ?_) hphase
  · rw [List.map_map]
    exact hqueue
  · obtain ⟨action, -, rfl⟩ := List.mem_map.mp ha
    exact action.isAction_toJson

theorem take_of_nil (h : s.inQueue = []) : s.take = { s with phase := .showing } := by
  have hpoll : s.viewer.queue.poll = (none, s.viewer.queue) := by
    rw [Queue.poll, show s.viewer.queue.messages = [] from h]
  rw [take, hpoll]

theorem take_of_cons {message : Json} {messages : List Json} (h : s.inQueue = message :: messages) :
    s.take = { s with
      viewer := { s.viewer with queue := ⟨messages⟩ }
      phase := if message.isTruthy then .obeying message else .showing } := by
  have hpoll : s.viewer.queue.poll = (some message, ⟨messages⟩) := by
    rw [Queue.poll, show s.viewer.queue.messages = message :: messages from h]
  rw [take, hpoll]

theorem effect_take (h : s.phase = .taking) : Effect m s s.take := by
  cases hmessages : s.inQueue with
  | nil =>
    rw [take_of_nil hmessages]
    exact .starve rfl rfl rfl hmessages h rfl
  | cons message messages =>
    rw [take_of_cons hmessages]
    exact .take message rfl hmessages rfl h rfl

variable [Scalar α] {studio : Studio}

theorem effect_obey {now : α} {message : Json} (h : s.phase = .obeying message) :
    Effect m s (s.obey studio now message) := by
  have hspares := spares_obey studio now message s.viewer
  rw [obey]
  cases hobey : Viewer.obey studio now message s.viewer with
  | ok _ v =>
    rw [hobey] at hspares
    exact .obey message rfl (congrArg Queue.messages hspares) rfl h rfl rfl fun _ => rfl
  | error fault v =>
    rw [hobey] at hspares
    obtain ⟨hqueue, rfl, htype⟩ := hspares
    refine .obey message rfl (congrArg Queue.messages hqueue) rfl h rfl rfl fun htyped => ?_
    rw [htype] at htyped
    cases htyped

theorem effect_finish {now : α} (h : s.phase = .showing) : Effect m s (s.finish studio now) := by
  have hspares := spares_present studio now s.viewer
  rw [finish]
  cases hpresent : present studio now s.viewer with
  | ok _ v =>
    rw [hpresent] at hspares
    have hqueue : v.queue.messages = s.inQueue := congrArg Queue.messages hspares
    dsimp only
    split
    · exact .turn rfl hqueue rfl ⟨by rw [h]; rfl, rfl⟩ (fun _ => by rw [h]; rfl) nofun
    · exact .turn rfl hqueue rfl ⟨by rw [h]; rfl, rfl⟩ (fun _ => by rw [h]; rfl) nofun
  | error fault v =>
    rw [hpresent] at hspares
    obtain ⟨hqueue, hfault⟩ := hspares
    refine .turn rfl (congrArg Queue.messages hqueue) rfl ⟨by rw [h]; rfl, rfl⟩ (fun _ => ?_) ?_
    · rw [h]
      cases fault with
      | untyped message => exact absurd rfl (hfault message)
      | _ => rfl
    · intro message hfailed
      cases hfailed
      exact hfault message rfl

theorem eq_of_look {events : List InputEvent} (h : s.step studio (.look events) = some s') :
    s.phase = .waiting ∧ s' = { s with phase := .gathering events } := by
  rw [step] at h
  split at h
  · next hphase =>
    cases h
    exact ⟨hphase, rfl⟩
  · cases h

/-- Every move has one of the effects. -/
theorem effect_step (h : s.step studio m = some s') : Effect m s s' := by
  cases m with
  | post id message =>
    cases h
    refine .put [⟨.thread id, message⟩] rfl rfl rfl (fun hfair a ha => ?_) (.refl _)
    obtain rfl := List.mem_singleton.mp ha
    exact hfair
  | command id name =>
    cases h
    exact effect_arrive (.thread id) (Queue.messages_command name s.viewer.queue) (.refl _)
  | look events =>
    obtain ⟨hphase, rfl⟩ := eq_of_look h
    exact .turn rfl rfl rfl ⟨by rw [hphase]; rfl, rfl⟩ nofun nofun
  | work now =>
    rw [step, work] at h
    split at h
    · next e events hphase =>
      cases h
      have hqueue := Queue.messages_handle e s.viewer.queue
      exact effect_arrive .window hqueue (hphase ▸ .gathering _ _)
    · next hphase =>
      cases h
      exact .turn rfl rfl rfl ⟨by rw [hphase]; rfl, rfl⟩ (fun _ => by rw [hphase]; rfl) nofun
    · next hphase => cases h; exact effect_take hphase
    · next message hphase => cases h; exact effect_obey hphase
    · next hphase => cases h; exact effect_finish hphase
    · cases h
    · cases h
    · cases h

/-- A pass that still takes messages goes on, unless a message could not be obeyed. -/
theorem exists_work (now : α) (htaken : s.phase.hasTaken = false)
    (htyped : ∀ message, s.phase ≠ .failed (.untyped message)) :
    ∃ s', s.step studio (.work now) = some s' := by
  rw [step, work]
  cases hphase : s.phase with
  | gathering events => cases events <;> exact ⟨_, rfl⟩
  | taking => exact ⟨_, rfl⟩
  | obeying message => exact ⟨_, rfl⟩
  | failed fault =>
    cases fault with
    | untyped message => exact absurd hphase (htyped message)
    | _ =>
      rw [hphase] at htaken
      cases htaken
  | _ =>
    rw [hphase] at htaken
    cases htaken

end Effects

/-! ### Runs -/

section Runs

variable [Scalar α] {studio : Studio} {s s' : Progress α} {moves : List (Move α)}

theorem run_cons (m : Move α) (h : run studio (m :: moves) s = some s') :
    ∃ next, s.step studio m = some next ∧ run studio moves next = some s' :=
  Option.bind_eq_some_iff.mp h

/-- What every move preserves holds at the end of a run if it holds at its beginning. -/
theorem run_induction (P : Progress α → Prop) (allowed : Move α → Prop)
    (hstep : ∀ s m s', P s → allowed m → Effect m s s' → P s') (hs : P s)
    (hmoves : ∀ m ∈ moves, allowed m) (hrun : run studio moves s = some s') : P s' := by
  induction moves generalizing s with
  | nil =>
    cases hrun
    exact hs
  | cons m moves ih =>
    obtain ⟨hm, hmoves⟩ := List.forall_mem_cons.mp hmoves
    obtain ⟨next, hnext, hrun⟩ := run_cons m hrun
    exact ih (hstep s m next hs hm (effect_step hnext)) hmoves hrun

end Runs

end Progress

end Slideshow.Viewer
