import Slideshow.Viewer

/-!
# Steps of a pass

A pass takes messages from the queue, and whatever else it does leaves the queue alone. It fails in
obeying a message for want of a type only, and in showing the frame never for that.

## Main definitions

* `Json.hasType`, `Json.IsAction`: what a message has to be to be obeyed, or to be passed over.
* `Viewer.Spares`: a step that leaves the queue alone, and how it may fail.
* `Viewer.present`: what a pass does behind the messages.

## Main statements

* `Viewer.spares_obey`, `Viewer.spares_present`: the two parts of a pass.
-/

namespace Slideshow

namespace Json

/-- Whether a message has a type. -/
def hasType : Json → Bool
  | .object fields => (find? fields "type").isSome
  | _ => false

/-- A message that counts as nothing or has a type. -/
def IsAction (message : Json) : Prop :=
  message.isTruthy = true → message.hasType = true

end Json

theorem Action.isAction_toJson (a : Action) : a.toJson.IsAction :=
  fun _ => rfl

namespace Queue

/-- What an event asks for is put behind all other messages. -/
theorem messages_handle (e : InputEvent) (q : Queue) :
    (q.handle e).messages = q.messages ++ (Action.ofEvent? e).toList.map Action.toJson := by
  rw [handle]
  cases Action.ofEvent? e with
  | none => exact (List.append_nil _).symm
  | some a => rfl

/-- What a command asks for is put behind all other messages. -/
theorem messages_command (name : String) (q : Queue) :
    (q.command name).2.messages =
      q.messages ++ (Action.ofCommand? name).toList.map Action.toJson := by
  rw [command]
  cases Action.ofCommand? name with
  | none => exact (List.append_nil _).symm
  | some a => rfl

end Queue

namespace Viewer

section Spares

variable {α β γ : Type} {allowed : Fault → Prop}

theorem bind_apply (x : Step α β) (f : β → Step α γ) (v : Viewer α) :
    (x >>= f) v = match x v with
      | .ok b v' => f b v'
      | .error fault v' => .error fault v' := by
  show EStateM.bind x f v = _
  unfold EStateM.bind
  cases x v <;> rfl

/-- A step that leaves the queue alone, and fails, if it does, with an allowed fault. -/
def Spares (allowed : Fault → Prop) (x : Step α β) : Prop :=
  ∀ v, match x v with
    | .ok _ v' => v'.queue = v.queue
    | .error fault v' => v'.queue = v.queue ∧ allowed fault

theorem Spares.pure (b : β) : Spares allowed (pure b : Step α β) :=
  fun _ => rfl

theorem Spares.get : Spares allowed (get : Step α (Viewer α)) :=
  fun _ => rfl

theorem Spares.throw {fault : Fault} (h : allowed fault) :
    Spares allowed (throw fault : Step α β) :=
  fun _ => ⟨rfl, h⟩

theorem Spares.modify {f : Viewer α → Viewer α} (h : ∀ v, (f v).queue = v.queue) :
    Spares allowed (modify f : Step α PUnit) :=
  h

theorem Spares.bind {x : Step α β} {f : β → Step α γ} (hx : Spares allowed x)
    (hf : ∀ b, Spares allowed (f b)) : Spares allowed (x >>= f) := by
  intro v
  have hv := hx v
  rw [bind_apply]
  cases hxv : x v with
  | error fault v' =>
    rw [hxv] at hv
    exact hv
  | ok b v' =>
    rw [hxv] at hv
    have hb := hf b v'
    rwa [hv] at hb

/-- The fault of a frame that cannot be shown. -/
def Fault.IsOfFrame (fault : Fault) : Prop :=
  ∀ message, fault ≠ .untyped message

theorem Spares.convert (e : Except NonFinite β) :
    Spares Fault.IsOfFrame (convert e : Step α β) := by
  cases e with
  | ok b => exact .pure b
  | error kind => exact .throw nofun

end Spares

variable {α : Type} [Scalar α]

theorem queue_act (studio : Studio) (now : α) (v : Viewer α) (a : Action) :
    (v.act studio now a).queue = v.queue := by
  cases a <;> rfl

theorem queue_advance (now : α) (v : Viewer α) : (v.advance now).queue = v.queue := by
  rw [advance]
  dsimp only
  split <;> rfl

/-- Obeying a message fails just if it has no type. -/
theorem spares_obey (studio : Studio) (now : α) (message : Json) :
    Spares (fun fault => fault = .untyped message ∧ message.hasType = false)
      (obey studio now message) := by
  unfold obey
  split
  · next fields =>
    split
    · next hnone => exact .throw ⟨rfl, by rw [Json.hasType, hnone]; rfl⟩
    · split
      · exact .modify fun v => queue_act studio now v _
      · exact .modify fun _ => rfl
    · exact .modify fun _ => rfl
  · next hother =>
    refine .throw ⟨rfl, ?_⟩
    cases message with
    | object fields => exact absurd rfl (hother fields)
    | _ => rfl

theorem spares_render (studio : Studio) : Spares Fault.IsOfFrame (render studio : Step α Unit) := by
  intro v
  unfold render
  rw [bind_apply]
  dsimp only [get, getThe, MonadStateOf.get, EStateM.get]
  cases Canvas.draw studio.gallery (v.window studio)
    studio.settings.background v.playback.visible v.textures with
  | ok canvas textures => rfl
  | error kind textures => exact ⟨rfl, nofun⟩

theorem spares_renderOverlay : Spares Fault.IsOfFrame (renderOverlay : Step α Unit) := by
  refine .bind .get fun v => ?_
  split
  · refine .bind (.convert _) fun lines => ?_
    split
    · exact .throw nofun
    · exact .pure ()
  · exact .pure ()

/-- What a pass does behind the messages: it moves the clock and shows the frame. -/
def present (studio : Studio) (now : α) : Step α Unit := do
  modify (·.advance now)
  render studio
  renderOverlay

theorem pass_eq (studio : Studio) (now : α) :
    pass studio now = (do drain studio now; present studio now) :=
  rfl

theorem spares_present (studio : Studio) (now : α) :
    Spares Fault.IsOfFrame (present studio now) :=
  .bind (.modify (queue_advance now)) fun _ =>
    .bind (spares_render studio) fun _ => spares_renderOverlay

end Viewer

end Slideshow
