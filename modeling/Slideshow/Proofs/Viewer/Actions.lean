import Mathlib.Algebra.Ring.Parity
import Slideshow.Proofs.Viewer.Steps

/-!
# What messages ask for

A message with a type asks for one of the four actions, or for nothing that is known. What a drain
makes of a viewer depends on how often each action is asked for, and not on the order.

## Main definitions

* `Action.ofMessage?`, `Action.times`: the action that a message asks for, and how often messages
  ask for an action.
* `Settings.turns`: what the display is asked for when the window is turned from mode to mode.
* `Viewer.heed`, `Viewer.heedAll`: what a message, and what messages make of a viewer.
* `Viewer.reports`: what is reported of messages.

## Main statements

* `Viewer.obey_eq`, `Viewer.drain_eq`: obeying a message, and a drain.
* `Viewer.heedAll_eq_iterate`: a part of the viewer that only one action changes.
* `Viewer.heedAll_perm`: messages in another order.
-/

namespace Slideshow

namespace Action

/-- The action that a message asks for. -/
def ofMessage? : Json → Option Action
  | .object fields =>
    match Json.find? fields "type" with
    | some (.string name) => ofName? name
    | _ => none
  | _ => none

theorem ofMessage?_toJson (a : Action) : ofMessage? a.toJson = some a :=
  ofName?_name a

/-- Whether a message asks for an action. -/
def isAskedBy (a : Action) (message : Json) : Bool :=
  ofMessage? message == some a

/-- How often messages ask for an action. -/
def times (a : Action) (messages : List Json) : Nat :=
  messages.countP a.isAskedBy

theorem times_perm (a : Action) {messages messages' : List Json} (h : messages.Perm messages') :
    a.times messages = a.times messages' :=
  h.countP_eq _

theorem ofMessage?_of_not_hasType {message : Json} (h : message.hasType = false) :
    ofMessage? message = none := by
  cases message with
  | object fields =>
    rw [Json.hasType, Option.isSome_eq_false_iff, Option.isNone_iff_eq_none] at h
    rw [ofMessage?, h]
  | _ => rfl

theorem times_append (a : Action) (messages messages' : List Json) :
    a.times (messages ++ messages') = a.times messages + a.times messages' :=
  List.countP_append

theorem times_untyped (a : Action) {message : Json} (h : message.hasType = false) :
    a.times [message] = 0 := by
  simp [times, isAskedBy, ofMessage?_of_not_hasType h]

end Action

/-- What a display is asked for when a window is turned `n` times from one mode to the other, one
after another. -/
def Settings.turns (s : Settings) : Bool → Nat → List Mode
  | _, 0 => []
  | fullscreen, n + 1 => s.mode (!fullscreen) :: s.turns (!fullscreen) n

theorem Playback.start_eq {α : Type} (now : α) (p : Playback α) : (p.start now).2 =
    { p with clock := { p.clock with
      started := true
      frameStart := if p.clock.started = false then now else p.clock.frameStart } } := by
  obtain ⟨timeline, ⟨started, frameStart, frameTime, previous⟩, loops⟩ := p
  cases started <;> rfl

theorem Json.isTruthy_of_hasType {message : Json} (h : message.hasType = true) :
    message.isTruthy = true := by
  cases message with
  | object fields =>
    cases fields with
    | nil => cases h
    | cons field fields => rfl
  | _ => cases h

namespace Viewer

variable {α : Type} [Scalar α] {studio : Studio} {now : α} {v : Viewer α}
  {messages messages' : List Json}

/-- The viewer with another queue. -/
def withQueue (queue : Queue) (v : Viewer α) : Viewer α :=
  { v with queue := queue }

/-- What a message with a type makes of a viewer. -/
def heed (studio : Studio) (now : α) (v : Viewer α) (message : Json) : Viewer α :=
  match Action.ofMessage? message with
  | some a => v.act studio now a
  | none => v.ignore message

/-- What messages with types make of a viewer. -/
def heedAll (studio : Studio) (now : α) (v : Viewer α) (messages : List Json) : Viewer α :=
  messages.foldl (heed studio now) v

theorem obey_eq (studio : Studio) (now : α) (message : Json) (v : Viewer α) :
    obey studio now message v =
      if message.hasType then .ok () (v.heed studio now message)
      else .error (.untyped message) v := by
  cases message with
  | object fields =>
    rw [obey, heed, Action.ofMessage?, Json.hasType]
    cases Json.find? fields "type" with
    | none => rfl
    | some type =>
      cases type with
      | string name =>
        dsimp only
        cases Action.ofName? name <;> rfl
      | _ => rfl
  | _ => rfl

theorem heedAll_cons (studio : Studio) (now : α) (v : Viewer α) (message : Json)
    (messages : List Json) : v.heedAll studio now (message :: messages) =
      (v.heed studio now message).heedAll studio now messages :=
  rfl

theorem heedAll_concat (studio : Studio) (now : α) (v : Viewer α) (messages : List Json)
    (message : Json) : v.heedAll studio now (messages ++ [message]) =
      (v.heedAll studio now messages).heed studio now message :=
  List.foldl_append ..

theorem heed_toJson (studio : Studio) (now : α) (v : Viewer α) (a : Action) :
    v.heed studio now a.toJson = v.act studio now a := by
  rw [heed, Action.ofMessage?_toJson]

theorem heedAll_toJson (studio : Studio) (now : α) (v : Viewer α) (actions : List Action) :
    v.heedAll studio now (actions.map Action.toJson) = actions.foldl (act studio now) v := by
  induction actions generalizing v with
  | nil => rfl
  | cons a actions ih => rw [List.map_cons, heedAll_cons, heed_toJson, ih, List.foldl_cons]

/-- Nothing that a message asks for has to do with the queue. -/
theorem heed_withQueue (studio : Studio) (now : α) (v : Viewer α) (queue : Queue) (message : Json) :
    (v.withQueue queue).heed studio now message = (v.heed studio now message).withQueue queue := by
  rw [heed, heed]
  cases Action.ofMessage? message with
  | none => rfl
  | some a => cases a <;> rfl

theorem heedAll_withQueue (studio : Studio) (now : α) (v : Viewer α) (queue : Queue)
    (messages : List Json) : (v.withQueue queue).heedAll studio now messages =
      (v.heedAll studio now messages).withQueue queue := by
  induction messages generalizing v with
  | nil => rfl
  | cons message messages ih => rw [heedAll_cons, heedAll_cons, heed_withQueue, ih]

theorem obeyFrom_eq (htyped : ∀ message ∈ messages, message.hasType = true) (v : Viewer α) :
    obeyFrom studio now messages (v.withQueue ⟨messages⟩) =
      .ok () ((v.withQueue .empty).heedAll studio now messages) := by
  induction messages generalizing v with
  | nil => rfl
  | cons message messages ih =>
    obtain ⟨htype, htyped⟩ := List.forall_mem_cons.mp htyped
    have hobey : obeyFrom studio now (message :: messages) (v.withQueue ⟨message :: messages⟩) =
        obeyFrom studio now messages ((v.heed studio now message).withQueue ⟨messages⟩) := by
      rw [obeyFrom, bind_apply]
      show (if message.isTruthy then
        (do obey studio now message; obeyFrom studio now messages : Step α Unit)
        else pure ()) (v.withQueue ⟨messages⟩) = _
      rw [if_pos (Json.isTruthy_of_hasType htype), bind_apply, obey_eq, if_pos htype,
        heed_withQueue]
    rw [hobey, ih htyped, heedAll_cons, heed_withQueue]

/-- A drain of messages with types comes to its end, whatever they ask for, and obeys them all. -/
theorem drain_eq (htyped : ∀ message ∈ messages, message.hasType = true) (v : Viewer α) :
    drain studio now (v.withQueue ⟨messages⟩) =
      .ok () ((v.withQueue .empty).heedAll studio now messages) := by
  rw [drain, bind_apply]
  exact obeyFrom_eq htyped v

/-! ### The parts of a viewer -/

section Parts

variable {β : Type} (part : Viewer α → β) (change : β → β) (a : Action)

/-- A part of the viewer that only one action changes has changed as often as that was asked for. -/
theorem heedAll_eq_iterate
    (hact : ∀ v b, part (v.act studio now b) = if b = a then change (part v) else part v)
    (hignore : ∀ v message, part (v.ignore message) = part v) :
    part (v.heedAll studio now messages) = change^[a.times messages] (part v) := by
  induction messages generalizing v with
  | nil => rfl
  | cons message messages ih =>
    have hheed : part (v.heed studio now message) =
        if a.isAskedBy message then change (part v) else part v := by
      rw [heed, Action.isAskedBy]
      cases Action.ofMessage? message with
      | none => exact hignore v message
      | some b =>
        rw [hact]
        simp
    rw [heedAll_cons, ih, hheed, Action.times, Action.times, List.countP_cons]
    by_cases hasked : a.isAskedBy message = true
    · rw [if_pos hasked, if_pos hasked, Function.iterate_succ_apply]
    · rw [if_neg hasked, if_neg hasked, Nat.add_zero]

/-- Asking again for a change that makes no difference the second time. -/
theorem heedAll_eq_ite (hidem : ∀ b, change (change b) = change b)
    (hact : ∀ v b, part (v.act studio now b) = if b = a then change (part v) else part v)
    (hignore : ∀ v message, part (v.ignore message) = part v) :
    part (v.heedAll studio now messages) =
      if a.times messages = 0 then part v else change (part v) := by
  rw [heedAll_eq_iterate part change a hact hignore]
  cases a.times messages with
  | zero => rfl
  | succ n =>
    rw [Function.iterate_succ_apply, Function.iterate_fixed (hidem _), if_neg n.succ_ne_zero]

/-- A flag that an action turns. -/
theorem heedAll_eq_xor (flag : Viewer α → Bool)
    (hact : ∀ v b, flag (v.act studio now b) = if b = a then !flag v else flag v)
    (hignore : ∀ v message, flag (v.ignore message) = flag v) :
    flag (v.heedAll studio now messages) = (flag v ^^ decide (Odd (a.times messages))) := by
  rw [heedAll_eq_iterate flag not a hact hignore]
  obtain heven | hodd := Nat.even_or_odd (a.times messages)
  · rw [Bool.involutive_not.iterate_even heven, decide_eq_false (Nat.not_odd_iff_even.mpr heven),
      Bool.xor_false]
    rfl
  · rw [Bool.involutive_not.iterate_odd hodd, decide_eq_true hodd, Bool.xor_true]

/-- A part that no action changes. -/
theorem heedAll_eq_self (hact : ∀ v b, part (v.act studio now b) = part v)
    (hignore : ∀ v message, part (v.ignore message) = part v) :
    part (v.heedAll studio now messages) = part v := by
  rw [heedAll_eq_iterate part id .quit (fun v b => ?_) hignore, Function.iterate_id]
  · rfl
  · rw [hact, id, ite_self]

end Parts

section Values

variable (studio now v messages)

theorem running_heedAll : (v.heedAll studio now messages).running =
    (v.running && decide (Action.times .quit messages = 0)) := by
  rw [heedAll_eq_ite running (fun _ => false) .quit (fun _ => rfl) (fun v b => by cases b <;> rfl)
    fun _ _ => rfl]
  split <;> simp_all

theorem playback_heedAll : (v.heedAll studio now messages).playback =
    if Action.times .start messages = 0 then v.playback else (v.playback.start now).2 :=
  heedAll_eq_ite playback (fun p => (p.start now).2) .start
    (fun p => by cases h : p.clock.started <;> simp [Playback.start, h])
    (fun v b => by cases b <;> rfl) fun _ _ => rfl

theorem overlay_heedAll : (v.heedAll studio now messages).overlay =
    (v.overlay ^^ decide (Odd (Action.times .toggleOverlay messages))) :=
  heedAll_eq_xor .toggleOverlay overlay (fun v b => by cases b <;> rfl) fun _ _ => rfl

theorem fullscreen_heedAll : (v.heedAll studio now messages).fullscreen =
    (v.fullscreen ^^ decide (Odd (Action.times .toggleFullscreen messages))) :=
  heedAll_eq_xor .toggleFullscreen fullscreen (fun v b => by cases b <;> rfl) fun _ _ => rfl

/-- The display is asked for another mode as often as that was asked for. -/
theorem modes_heedAll : (v.heedAll studio now messages).modes = v.modes ++
    studio.settings.turns v.fullscreen (Action.times .toggleFullscreen messages) := by
  let flagged (v : Viewer α) : Bool × List Mode := (v.fullscreen, v.modes)
  let change (part : Bool × List Mode) : Bool × List Mode :=
    (!part.1, part.2 ++ [studio.settings.mode !part.1])
  have hiterate : flagged (v.heedAll studio now messages) =
      change^[Action.times .toggleFullscreen messages] (flagged v) :=
    heedAll_eq_iterate flagged change .toggleFullscreen (fun v b => by cases b <;> rfl)
      fun _ _ => rfl
  have hturns : ∀ n part, (change^[n] part).2 = part.2 ++ studio.settings.turns part.1 n := by
    intro n
    induction n with
    | zero => exact fun part => (List.append_nil _).symm
    | succ n ih =>
      intro part
      rw [Function.iterate_succ_apply, ih, Settings.turns]
      exact List.append_assoc ..
  exact (congrArg Prod.snd hiterate).trans (hturns _ _)

theorem textures_heedAll : (v.heedAll studio now messages).textures =
    if Action.times .toggleFullscreen messages = 0 then v.textures else v.textures.clearCopies :=
  heedAll_eq_ite textures TextureCache.clearCopies .toggleFullscreen (fun _ => rfl)
    (fun v b => by cases b <;> rfl) fun _ _ => rfl

theorem queue_heedAll : (v.heedAll studio now messages).queue = v.queue :=
  heedAll_eq_self queue (queue_act studio now) fun _ _ => rfl

theorem drawn_heedAll : (v.heedAll studio now messages).drawn = v.drawn :=
  heedAll_eq_self drawn (fun v b => by cases b <;> rfl) fun _ _ => rfl

theorem cues_heedAll : (v.heedAll studio now messages).cues = v.cues :=
  heedAll_eq_self cues (fun v b => by cases b <;> rfl) fun _ _ => rfl

end Values

/-! ### Another order -/

/-- What is reported of a message that asks for nothing known. -/
def ignoreReport (message : Json) : Log.Entry :=
  ⟨.warning, .viewer, "ignoring unknown action " ++ message.display⟩

/-- What is reported of messages: those that ask for nothing known, and the beginning of the show,
if it is asked for and has not come before. -/
def reports (p : Playback α) (messages : List Json) : List Log.Entry :=
  (messages.filter fun message => (Action.ofMessage? message).isNone).map ignoreReport ++
    if p.clock.started = false ∧ Action.times .start messages ≠ 0 then [p.startReport] else []

theorem reports_cons_of_none {message : Json} (p : Playback α)
    (h : Action.ofMessage? message = none) (messages : List Json) :
    reports p (message :: messages) = ignoreReport message :: reports p messages := by
  have hstart : Action.isAskedBy .start message = false := by simp [Action.isAskedBy, h]
  simp [reports, Action.times, h, hstart]

theorem reports_cons_of_ne {message : Json} (p : Playback α) {a : Action}
    (h : Action.ofMessage? message = some a) (hne : a ≠ .start) (messages : List Json) :
    reports p (message :: messages) = reports p messages := by
  have hstart : Action.isAskedBy .start message = false := by simp [Action.isAskedBy, h, hne]
  simp [reports, Action.times, h, hstart]

theorem reports_of_started {p : Playback α} (h : p.clock.started = true) (messages : List Json) :
    reports p messages =
      (messages.filter fun message => (Action.ofMessage? message).isNone).map ignoreReport := by
  simp [reports, h]

/-- What is reported does not depend on when the show begins, but for its place. -/
theorem log_heedAll (studio : Studio) (now : α) (v : Viewer α) (messages : List Json) :
    (v.heedAll studio now messages).log.Perm (v.log ++ reports v.playback messages) := by
  induction messages generalizing v with
  | nil => simp [heedAll, reports, Action.times]
  | cons message messages ih =>
    refine (ih (v.heed studio now message)).trans ?_
    rw [heed]
    cases hmessage : Action.ofMessage? message with
    | none =>
      rw [reports_cons_of_none _ hmessage]
      simp [ignore, ignoreReport]
    | some a =>
      by_cases hstart : a = .start
      · subst hstart
        cases hstarted : v.playback.clock.started with
        | true =>
          rw [reports_of_started hstarted]
          simp [act, Playback.start, hstarted, reports_of_started, hmessage]
        | false =>
          -- The beginning is reported now, and nothing else of it later.
          have hlog : (v.act studio now .start).log = v.log ++ [v.playback.startReport] := by
            rw [act, Playback.start, hstarted]
            rfl
          have hbegun : (v.act studio now .start).playback.clock.started = true := by
            rw [act, Playback.start, hstarted]
            rfl
          have hasked : Action.times .start (message :: messages) ≠ 0 := by
            simp [Action.times, Action.isAskedBy, hmessage]
          rw [hlog, reports_of_started hbegun, reports, if_pos ⟨hstarted, hasked⟩,
            List.filter_cons_of_neg (by simp [hmessage]), List.append_assoc]
          exact (List.perm_append_singleton _ _).symm.append_left _
      · rw [reports_cons_of_ne _ hmessage hstart]
        cases a with
        | start => exact absurd rfl hstart
        | _ => exact .refl _

/-- The viewer without what was reported. -/
def mute (v : Viewer α) : Viewer α :=
  { v with log := [] }

/-- Messages in another order make the same of a viewer, and the same is reported of them. -/
theorem heedAll_perm (studio : Studio) (now : α) (hperm : messages.Perm messages') :
    (v.heedAll studio now messages).mute = (v.heedAll studio now messages').mute ∧
      (v.heedAll studio now messages).log.Perm (v.heedAll studio now messages').log := by
  have htimes := fun a => Action.times_perm a hperm
  constructor
  · simp only [mute, playback_heedAll, textures_heedAll, queue_heedAll, overlay_heedAll,
      fullscreen_heedAll, modes_heedAll, running_heedAll, drawn_heedAll, cues_heedAll, htimes]
  · have hreports : (reports v.playback messages).Perm (reports v.playback messages') := by
      rw [reports, reports, htimes]
      exact ((hperm.filter _).map _).append_right _
    exact ((log_heedAll studio now v messages).trans (hreports.append_left _)).trans
      (log_heedAll studio now v messages').symm

end Viewer

end Slideshow
