import Slideshow.Proofs.Viewer.Actions
import Slideshow.Remote.Service

/-!
# What comes in

Whatever comes in from the window, from the remote or from requests, it reaches the viewer as
actions that it knows, and in no other way. A request asks for an action just if it is answered
without content.

## Main definitions

* `Request.Asks`, `Request.asked?`: a request asks for an action, and which one it is.
* `Remote.Obeys`: what an answer does to the queue.
* `Incoming`, `Incoming.asked?`: what comes in, and the action that is asked for.
* `Viewer.takeIn`, `Viewer.takeInAll`: the viewer when it has come in.

## Main statements

* `Request.demand_eq_ok_iff`, `Request.accept_eq_ok_iff`: the requests that have a target.
* `Remote.obeys_respond`: the answer to a request, and the queue after it.
* `Viewer.serve_cases`: a request to the remote of a viewer.
* `Viewer.takeIn_eq`, `Viewer.takeInAll_actions`: one thing that comes in, and any number of them.
-/

namespace Slideshow

theorem Action.ofCommand?_eq_some_iff {name : String} {a : Action} :
    ofCommand? name = some a ↔ name = a.command := by
  constructor
  · intro h
    rw [ofCommand?] at h
    have hfound := List.find?_some h
    exact (eq_of_beq hfound).symm
  · rintro rfl
    exact ofCommand?_command a

namespace Request

variable {r : Request} {target : String} {a : Action}

/-- The words of a line that asks for a target: the one method, the target, and a version that is
known, if any. -/
def AsksFor (target : String) (words : List String) : Prop :=
  words = ["GET", target] ∨
    ∃ version, words = ["GET", target, version] ∧ versionFault? version = none

theorem demand_eq_ok_iff (line : String) {words : List String} :
    demand line words = .ok ("GET", target) ↔ AsksFor target words := by
  match words with
  | [] | [_] => simp [demand, AsksFor]
  | [method, text] =>
    rw [demand]
    by_cases hmethod : method = "GET" <;> simp [AsksFor, hmethod]
  | [method, text, version] =>
    rw [demand.eq_def]
    dsimp only [List.getLast?_singleton, Option.getD_some]
    cases hversion : versionFault? version <;> simp [AsksFor, hversion]
  | method :: text :: first :: second :: more =>
    rw [demand.eq_def]
    dsimp only
    cases versionFault? ((first :: second :: more).getLast?.getD "") <;> simp [AsksFor]

/-- A request has a target just if its line can be read as a whole and asks for one, and its header
lines can be read. -/
theorem accept_eq_ok_iff : r.accept = .ok target ↔
    r.isTooLong = false ∧ AsksFor target (Blank.words r.line) ∧ r.headerFault? = none := by
  rw [accept, ← demand_eq_ok_iff r.line]
  cases r.isTooLong with
  | true => simp
  | false =>
    cases demand r.line (Blank.words r.line) with
    | error fault => simp
    | ok asked =>
      obtain ⟨method, text⟩ := asked
      cases r.headerFault? with
      | some fault => simp
      | none => by_cases hmethod : method = "GET" <;> simp [hmethod]

/-- The request asks for an action: its line asks for a target whose path is that of actions, and
whose first command is that of the action. -/
def Asks (r : Request) (a : Action) : Prop :=
  r.isTooLong = false ∧ r.headerFault? = none ∧
    ∃ text target, AsksFor text (Blank.words r.line) ∧
      Target.ofText text = .ok target ∧ target.path = "/action" ∧ target.field "cmd" = a.command

/-- The action that a target asks for. -/
def askedBy? (target : Target) : Option Action :=
  if target.path = "/action" then Action.ofCommand? (target.field "cmd") else none

/-- The action that a request asks for. -/
def asked? (r : Request) : Option Action :=
  match r.accept with
  | .error _ => none
  | .ok text =>
    match Target.ofText text with
    | .error _ => none
    | .ok target => askedBy? target

theorem askedBy?_eq_some_iff {target : Target} :
    askedBy? target = some a ↔ target.path = "/action" ∧ target.field "cmd" = a.command := by
  rw [askedBy?]
  by_cases hpath : target.path = "/action"
  · rw [if_pos hpath, Action.ofCommand?_eq_some_iff]
    simp [hpath]
  · rw [if_neg hpath]
    simp [hpath]

theorem asked?_eq_some_iff : r.asked? = some a ↔ r.Asks a := by
  rw [asked?, Asks]
  constructor
  · intro h
    split at h
    · cases h
    · next text haccept =>
      split at h
      · cases h
      · next target htarget =>
        obtain ⟨hshort, hwords, hheader⟩ := accept_eq_ok_iff.mp haccept
        exact ⟨hshort, hheader, text, target, hwords, htarget, askedBy?_eq_some_iff.mp h⟩
  · rintro ⟨hshort, hheader, text, target, hwords, htarget, hasked⟩
    rw [accept_eq_ok_iff.mpr ⟨hshort, hwords, hheader⟩]
    dsimp only
    rw [htarget]
    exact askedBy?_eq_some_iff.mpr hasked

end Request

namespace Remote

/-- What an answer does to the queue: an action is put that was asked for, and only if there is one
does the answer have no content. -/
def Obeys (queue : Queue) (asked : Option Action) : Except Fault (Response × Queue) → Prop
  | .ok (response, after) =>
    after.messages = queue.messages ++ asked.toList.map Action.toJson ∧
      (response.code = 204 ↔ asked.isSome = true)
  | .error _ => asked = none

theorem obeys_answer (queue : Queue) {response : Response} (h : response.code ≠ 204) :
    Obeys queue none (.ok (response, queue)) :=
  ⟨(List.append_nil _).symm, by simpa using h⟩

theorem obeys_map (queue : Queue) {page : Except Fault Response}
    (h : ∀ response, page = .ok response → response.code ≠ 204) :
    Obeys queue none (page.map (·, queue)) := by
  cases page with
  | error fault => rfl
  | ok response => exact obeys_answer queue (h response rfl)

theorem obeys_command (queue : Queue) (name : String) :
    Obeys queue (Action.ofCommand? name) (.ok (command queue name)) := by
  rw [command, Queue.command]
  cases Action.ofCommand? name with
  | none => exact obeys_answer queue (show (Response.refuse 400 "Unknown cmd").code ≠ 204 by decide)
  | some a => exact ⟨rfl, iff_of_true rfl rfl⟩

theorem code_overlayPage (remote : Remote) {response : Response}
    (h : remote.overlayPage = .ok response) : response.code = 200 := by
  rw [overlayPage] at h
  split at h <;> cases h
  rfl

theorem code_logPage (remote : Remote) {response : Response} (h : remote.logPage = .ok response) :
    response.code = 200 ∨ response.code = 404 := by
  rw [logPage] at h
  split at h <;> cases h
  · exact .inl rfl
  · exact .inr rfl

theorem obeys_get (remote : Remote) (queue : Queue) (target : Target) :
    Obeys queue (Request.askedBy? target) (remote.get queue target) := by
  have hpage {response : Response} (h : response.code = 200) : response.code ≠ 204 := by omega
  have hrefusal {response : Response} (h : response.code = 404) : response.code ≠ 204 := by omega
  by_cases hpath : target.path = "/action"
  · rw [Request.askedBy?, if_pos hpath, get, hpath]
    exact obeys_command queue _
  · rw [Request.askedBy?, if_neg hpath, get]
    split
    · exact obeys_answer queue (hpage rfl)
    · exact obeys_map queue fun response h => hpage (code_overlayPage remote h)
    · exact obeys_answer queue (hpage rfl)
    · exact obeys_answer queue (hpage rfl)
    · exact obeys_map queue fun response h => (code_logPage remote h).elim hpage hrefusal
    · next haction => exact absurd haction hpath
    · exact obeys_answer queue (hrefusal rfl)

/-- The answer to a request, and the queue after it. -/
theorem obeys_respond (remote : Remote) (queue : Queue) (r : Request) :
    Obeys queue r.asked? (remote.respond queue r) := by
  rw [respond, Request.asked?]
  cases r.accept with
  | error refusal =>
    refine obeys_answer queue ?_
    cases refusal <;> exact nofun
  | ok text =>
    dsimp only
    cases Target.ofText text with
    | error fault => rfl
    | ok target => exact obeys_get remote queue target

end Remote

/-- What comes in: an event of the window, a command of the remote, or a request to it. -/
inductive Incoming where
  | event (e : InputEvent)
  | command (name : String)
  | request (station : Station) (r : Request)

/-- The action that is asked for. -/
def Incoming.asked? : Incoming → Option Action
  | .event e => Action.ofEvent? e
  | .command name => Action.ofCommand? name
  | .request _ r => r.asked?

namespace Viewer

/-- The viewer when something has come in. -/
def takeIn (v : Viewer Float) : Incoming → Viewer Float
  | .event e => v.withQueue (v.queue.handle e)
  | .command name => v.withQueue (v.queue.command name).2
  | .request station r =>
    match serve station r v with
    | .ok _ w | .error _ w => w

/-- The viewer when things have come in one after the other. -/
def takeInAll (v : Viewer Float) (incoming : List Incoming) : Viewer Float :=
  incoming.foldl takeIn v

theorem serve_eq (station : Station) (r : Request) (v : Viewer Float) : serve station r v =
    match (Remote.ofViewer station v).respond v.queue r with
    | .ok (response, queue) => .ok response (v.withQueue queue)
    | .error fault => .error fault v := by
  rw [serve]
  dsimp only [bind, EStateM.bind, get, getThe, MonadStateOf.get, EStateM.get]
  cases (Remote.ofViewer station v).respond v.queue r <;> rfl

/-- A request that asks for an action is answered without content, and the action is put. Any other
request is answered otherwise or fails, and changes nothing. -/
theorem serve_cases (station : Station) (r : Request) (v : Viewer Float) :
    (∀ a, r.Asks a → ∃ response, response.code = 204 ∧
      serve station r v = .ok response (v.withQueue (v.queue.put a.toJson))) ∧
    ((∀ a, ¬r.Asks a) → (∃ response, response.code ≠ 204 ∧ serve station r v = .ok response v) ∨
      ∃ fault, serve station r v = .error fault v) := by
  have hobeys := Remote.obeys_respond (Remote.ofViewer station v) v.queue r
  rw [serve_eq]
  constructor
  · intro a ha
    rw [Request.asked?_eq_some_iff.mpr ha] at hobeys
    cases hrespond : (Remote.ofViewer station v).respond v.queue r with
    | error fault =>
      rw [hrespond] at hobeys
      cases hobeys
    | ok answer =>
      rw [hrespond] at hobeys
      obtain ⟨response, ⟨messages⟩⟩ := answer
      obtain ⟨rfl, hcode⟩ := hobeys
      exact ⟨response, hcode.mpr rfl, rfl⟩
  · intro hnone
    have hasked : r.asked? = none :=
      Option.eq_none_iff_forall_ne_some.mpr fun a ha =>
        hnone a (Request.asked?_eq_some_iff.mp ha)
    rw [hasked] at hobeys
    cases hrespond : (Remote.ofViewer station v).respond v.queue r with
    | error fault => exact .inr ⟨fault, rfl⟩
    | ok answer =>
      rw [hrespond] at hobeys
      obtain ⟨response, ⟨messages⟩⟩ := answer
      obtain ⟨hmessages, hcode⟩ := hobeys
      obtain rfl : messages = v.queue.messages := hmessages.trans (List.append_nil _)
      exact .inl ⟨response, by simpa using hcode, rfl⟩

/-- Whatever comes in, nothing but the queue changes, and only by the action that is asked for. -/
theorem takeIn_eq (v : Viewer Float) (i : Incoming) :
    v.takeIn i = v.withQueue ⟨v.queue.messages ++ i.asked?.toList.map Action.toJson⟩ := by
  cases i with
  | event e => exact congrArg (v.withQueue ⟨·⟩) (Queue.messages_handle e v.queue)
  | command name => exact congrArg (v.withQueue ⟨·⟩) (Queue.messages_command name v.queue)
  | request station r =>
    have hobeys := Remote.obeys_respond (Remote.ofViewer station v) v.queue r
    rw [takeIn, serve_eq, Incoming.asked?]
    cases hrespond : (Remote.ofViewer station v).respond v.queue r with
    | error fault =>
      rw [hrespond] at hobeys
      rw [show r.asked? = none from hobeys]
      exact congrArg (v.withQueue ⟨·⟩) (List.append_nil _).symm
    | ok answer =>
      rw [hrespond] at hobeys
      exact congrArg (v.withQueue ⟨·⟩) hobeys.1

theorem takeInAll_withQueue (v : Viewer Float) (earlier : List Action) (incoming : List Incoming) :
    (v.withQueue ⟨earlier.map Action.toJson⟩).takeInAll incoming =
      v.withQueue ⟨(earlier ++ incoming.filterMap Incoming.asked?).map Action.toJson⟩ := by
  induction incoming generalizing earlier with
  | nil => rw [List.filterMap_nil, List.append_nil]; rfl
  | cons i incoming ih =>
    have hone : (v.withQueue ⟨earlier.map Action.toJson⟩).takeIn i =
        v.withQueue ⟨(earlier ++ i.asked?.toList).map Action.toJson⟩ := by
      rw [takeIn_eq, List.map_append]
      rfl
    have hall : (v.withQueue ⟨earlier.map Action.toJson⟩).takeInAll (i :: incoming) =
        ((v.withQueue ⟨earlier.map Action.toJson⟩).takeIn i).takeInAll incoming := rfl
    rw [hall, hone, ih, List.append_assoc, List.filterMap_cons]
    cases i.asked? <;> rfl

/-- However events, commands and requests come in, behind actions that wait already: the queue holds
the actions that were asked for, in their order and each as one of four messages, and nothing else
of the viewer changes. A drain obeys them all, and meets no message that it does not know. At any
time a request is answered without content just if it asks for an action, which is put then, and
otherwise it changes nothing, however it is answered. -/
theorem takeInAll_actions (v : Viewer Float) (earlier : List Action) (incoming : List Incoming) :
    let actions := earlier ++ incoming.filterMap Incoming.asked?
    let after := (v.withQueue ⟨earlier.map Action.toJson⟩).takeInAll incoming
    after = v.withQueue ⟨actions.map Action.toJson⟩ ∧
    (∀ message ∈ after.queue.messages,
      ∃ name ∈ ["start", "quit", "toggle_overlay", "toggle_fullscreen"],
        message = .object [("type", .string name)]) ∧
    (∀ now, drain studio now after = .ok () (actions.foldl (act studio now) (v.withQueue .empty))) ∧
    ∀ station r,
      (∀ a, r.Asks a → ∃ response, response.code = 204 ∧
        serve station r after = .ok response (after.withQueue (after.queue.put a.toJson))) ∧
      ((∀ a, ¬r.Asks a) →
        (∃ response, response.code ≠ 204 ∧ serve station r after = .ok response after) ∨
          ∃ fault, serve station r after = .error fault after) := by
  intro actions after
  have hafter : after = v.withQueue ⟨actions.map Action.toJson⟩ :=
    takeInAll_withQueue v earlier incoming
  refine ⟨hafter, ?_, fun now => ?_, fun station r => serve_cases station r after⟩
  · rw [hafter]
    intro message hmessage
    obtain ⟨a, -, rfl⟩ := List.mem_map.mp hmessage
    refine ⟨a.name, ?_, rfl⟩
    cases a <;> decide
  · have htyped : ∀ message ∈ actions.map Action.toJson, message.hasType = true := by
      intro message hmessage
      obtain ⟨a, -, rfl⟩ := List.mem_map.mp hmessage
      rfl
    rw [hafter, drain_eq htyped, heedAll_toJson]

/-- A key is pressed, an unknown command comes, and two requests. Of several commands in a target
the first one counts. A wide space is read byte by byte, none of which is blank, so that it makes
another command of the one that it follows. -/
theorem takeInAll_actions_toggled :
    let studio : Studio := ⟨{}, fun _ => none⟩
    let station : Station := ⟨none, none⟩
    let v : Viewer Float := .setUp studio .empty "" false
    let asking : Request := ⟨"GET", "/action?x=1&cmd=toggle&cmd=quit"⟩
    let idle : Request := ⟨"GET", "/action?cmd=quit\u3000"⟩
    let incoming : List Incoming := [.event ⟨InputEvent.keyDown, some 32⟩, .command "reboot",
      .request station idle, .request station asking]
    let after := v.takeInAll incoming
    after.queue.messages = [Action.start.toJson, Action.toggleOverlay.toJson] ∧
    (∃ response, response.code = 204 ∧ serve station asking after =
      .ok response (after.withQueue (after.queue.put Action.toggleOverlay.toJson))) ∧
    ((∃ response, response.code ≠ 204 ∧ serve station idle after = .ok response after) ∨
      ∃ fault, serve station idle after = .error fault after) := by
  intro studio station v asking idle incoming after
  have hasking : asking.asked? = some .toggleOverlay := by decide +kernel
  have hidle : idle.asked? = none := by decide +kernel
  obtain ⟨hafter, -, -, hserve⟩ := @takeInAll_actions studio v [] incoming
  have hactions : incoming.filterMap Incoming.asked? = [.start, .toggleOverlay] := by
    decide +kernel
  refine ⟨?_, (hserve station asking).1 _ (Request.asked?_eq_some_iff.mp hasking),
    (hserve station idle).2 fun a ha => ?_⟩
  · rw [hactions] at hafter
    exact congrArg (fun w => w.queue.messages) hafter
  · rw [Request.asked?_eq_some_iff.mpr ha] at hidle
    cases hidle

end Viewer

end Slideshow
