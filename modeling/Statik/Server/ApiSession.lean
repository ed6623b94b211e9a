import Statik.Core.Text
import Statik.Server.Authority
import Statik.Wire.Lines

/-!
# The management api on the wire

`api::handle`, from the bytes that arrive on an api connection to those that are sent on
it, in a server that goes on with everything else meanwhile.
-/

namespace Statik

open Wire

/-- `serde_json`, on what the api reads and writes. -/
structure ApiJson where
  fromStr : String → Except String ApiRequest
  toText : ApiResponse → Except String String

def newline : Byte := 10

namespace Api

/-- The line that `handle` goes on with: it returns at the end of a stream without any,
and `read_line` fails on one that is no text. -/
def readLine (line : Bytes) : Option String := if line = [] then none else fromUtf8 line

/-- The request in a line, or what is answered where there is none. -/
def parseRequest (json : ApiJson) (line : String) : Except ApiResponse ApiRequest :=
  match json.fromStr (trim line) with
  | .ok request => .ok request
  | .error e => .error (.err s!"invalid request: {e}")

/-- What `write_response` hands to `write_all`, nothing where it returns before. -/
def writeResponse (json : ApiJson) (response : ApiResponse) : Option Bytes :=
  match json.toText response with
  | .ok out => some (utf8 (out ++ "\n"))
  | .error _ => none

end Api

/-- Where `handle` stands: in `read_line`, with what it has of the line; in the `write_all`
of `write_response`; or returned. -/
inductive ApiStage where
  | reading (line : Bytes)
  | writing (out : Bytes)
  | returned
  deriving DecidableEq

/-- An api connection.  `received` and `line` are ghost state: the bytes read so far, and
the line, once `read_line` has come to its end. -/
structure ApiSession where
  stage : ApiStage
  received : Bytes
  line : Option Bytes
  sent : Bytes
  deriving DecidableEq

def ApiSession.start : ApiSession :=
  { stage := .reading [], received := [], line := none, sent := [] }

/-- The server with the connections of its api tasks. -/
structure ApiServer where
  system : System
  sessions : List ApiSession

/-- `read` completes a read on an api connection, with no bytes at its end, and `write` its
`write_all`, which may fail after some bytes.  Everything else is an event of the server. -/
inductive ApiEvent where
  | server (event : Event)
  | read (i : Nat) (result : Except ErrorKind Bytes)
  | write (i : Nat) (fault : Option Nat)

/-- The events of the server that come from the api connections. -/
def Event.fromApi : Event → Bool
  | .acceptApi => true
  | .request _ _ => true
  | .finishApi _ => true
  | _ => false

namespace ApiServer

def start : ApiServer := { system := .start, sessions := [] }

/-- An api task goes on to `write_all`, or returns with its sender. -/
def respond (σ : System) (i : Nat) : Option Bytes → System × ApiStage
  | some out => (σ, .writing out)
  | none => (σ.finishApi i, .returned)

/-- `handle` after `read_line`. -/
def handle (H : Host) (json : ApiJson) (σ : System) (i : Nat) (line : Bytes) :
    System × ApiStage :=
  match Api.readLine line with
  | none => respond σ i none
  | some text =>
    match Api.parseRequest json text with
    | .error response => respond σ i (Api.writeResponse json response)
    | .ok request =>
      let (response, _) := Api.dispatch H.config H.api request σ.notifyShutdown
      respond (σ.request H i request) i (Api.writeResponse json response)

/-- `read_line` reads until it has a newline or the stream ends. -/
def read (H : Host) (json : ApiJson) (w : ApiServer) (i : Nat)
    (result : Except ErrorKind Bytes) : ApiServer :=
  match w.sessions[i]? with
  | some ⟨.reading line, received, _, sent⟩ =>
    match result with
    | .error _ =>
      { system := w.system.finishApi i,
        sessions := w.sessions.set i
          { stage := .returned, received := received, line := none, sent := sent } }
    | .ok chunk =>
      let line := line ++ takeThrough newline chunk
      if chunk = [] ∨ newline ∈ chunk then
        let (system, stage) := handle H json w.system i line
        { system := system,
          sessions := w.sessions.set i
            { stage := stage, received := received ++ chunk, line := some line, sent := sent } }
      else
        { system := w.system,
          sessions := w.sessions.set i
            { stage := .reading line, received := received ++ chunk, line := none, sent := sent } }
  | _ => w

def write (w : ApiServer) (i : Nat) (fault : Option Nat) : ApiServer :=
  match w.sessions[i]? with
  | some ⟨.writing out, received, line, sent⟩ =>
    let delivered := match fault with
      | none => out
      | some delivered => out.take delivered
    { system := w.system.finishApi i,
      sessions := w.sessions.set i
        { stage := .returned, received := received, line := line, sent := sent ++ delivered } }
  | _ => w

/-- What an api task asks of the server, the server is asked by its connection only. -/
def step (H : Host) (json : ApiJson) (w : ApiServer) (event : ApiEvent) : ApiServer :=
  match w.system.main, event with
  | .returned _, _ => w
  | .serving, .server .acceptApi =>
    { system := w.system.step H .acceptApi, sessions := w.sessions ++ [.start] }
  | _, .server event => if event.fromApi then w else { w with system := w.system.step H event }
  | _, .read i result => w.read H json i result
  | _, .write i fault => w.write i fault

end ApiServer

/-- Responses are printed on one line. -/
def ApiJson.Lawful (json : ApiJson) : Prop :=
  ∀ response out, json.toText response = .ok out → newline ∉ utf8 out

/-- The server after the events. -/
def Host.serve (H : Host) (json : ApiJson) (events : List ApiEvent) : ApiServer :=
  events.foldl (ApiServer.step H json) .start

theorem Host.serve_snoc (H : Host) (json : ApiJson) (events : List ApiEvent) (event : ApiEvent) :
    H.serve json (events ++ [event]) = (H.serve json events).step H json event := by
  rw [serve, List.foldl_append]
  rfl

/-! ### What an api connection comes to -/

namespace Api

/-- The line is a request. -/
def Asks (json : ApiJson) (line : Bytes) (request : ApiRequest) : Prop :=
  ∃ text, readLine line = some text ∧ parseRequest json text = .ok request

end Api

/-- What an api client is sent for its line. -/
def Host.reply (H : Host) (json : ApiJson) (line : Bytes) : Bytes :=
  match Api.readLine line with
  | none => []
  | some text =>
    match Api.parseRequest json text with
    | .error response => (Api.writeResponse json response).getD []
    | .ok request => (Api.writeResponse json (Api.answer H.config H.api request)).getD []

/-- The reason of an authorised request in the line is on the channel. -/
def System.Told (H : Host) (json : ApiJson) (σ : System) (line : Bytes) : Prop :=
  ∀ request, Api.Asks json line request → Api.Authorised H.api request →
    request.reason.getD H.api.disconnectMsg ∈ σ.notifyShutdown.sent

/-- An api connection that the server serves: it has no line yet, or none came through; or
the first line of what was received is answered with its reply, which is sent in full or up
to a write that failed. -/
inductive ApiSession.Served (H : Host) (json : ApiJson) (events : List ApiEvent) (σ : System)
    (i : Nat) : ApiSession → Prop where
  | reading {line : Bytes} :
      newline ∉ line → σ.apis[i]? = some .reading →
      Served H json events σ i ⟨.reading line, line, none, []⟩
  | failed {line : Bytes} (kind : ErrorKind) :
      .read i (.error kind) ∈ events → Served H json events σ i ⟨.returned, line, none, []⟩
  | writing {received line : Bytes} :
      line = takeThrough newline received → σ.Told H json line →
      Served H json events σ i ⟨.writing (H.reply json line), received, some line, []⟩
  | cut {received line : Bytes} (delivered : Nat) :
      line = takeThrough newline received → σ.Told H json line →
      .write i (some delivered) ∈ events →
      Served H json events σ i
        ⟨.returned, received, some line, (H.reply json line).take delivered⟩
  | replied {received line : Bytes} :
      line = takeThrough newline received → σ.Told H json line →
      Served H json events σ i ⟨.returned, received, some line, H.reply json line⟩

namespace System

/-- All that an api task does to the server: nothing to `main` or the other api tasks, and
it takes nothing off the channel. -/
structure ApiActs (i : Nat) (σ σ' : System) : Prop where
  main : σ'.main = σ.main
  length : σ'.apis.length = σ.apis.length
  others : ∀ j, j ≠ i → σ'.apis[j]? = σ.apis[j]?
  sent : σ.notifyShutdown.sent <+: σ'.notifyShutdown.sent

variable {H : Host} {σ : System}

namespace ApiActs

theorem refl (i : Nat) (σ : System) : ApiActs i σ σ :=
  { main := rfl, length := rfl, others := fun _ _ => rfl, sent := List.prefix_rfl }

theorem trans {i : Nat} {σ σ' σ'' : System} (h : ApiActs i σ σ') (h' : ApiActs i σ' σ'') :
    ApiActs i σ σ'' :=
  { main := h'.main.trans h.main, length := h'.length.trans h.length,
    others := fun j hj => (h'.others j hj).trans (h.others j hj), sent := h.sent.trans h'.sent }

theorem set {i : Nat} {task : ApiTask} {c : Sync.Broadcast String}
    (hsent : σ.notifyShutdown.sent <+: c.sent) :
    ApiActs i σ { σ with notifyShutdown := c, apis := σ.apis.set i task } :=
  { main := rfl, length := List.length_set,
    others := fun _ hj => List.getElem?_set_ne (Ne.symm hj), sent := hsent }

theorem finishApi (i : Nat) : ApiActs i σ (σ.finishApi i) := by
  unfold System.finishApi
  split
  · exact refl i σ
  · split
    · exact set List.prefix_rfl
    · exact refl i σ

theorem request (i : Nat) (request : ApiRequest) : ApiActs i σ (σ.request H i request) := by
  unfold System.request
  split
  · exact set Api.dispatch_sent
  · exact refl i σ

end ApiActs

/-- An authorised request of a task that reads is dispatched. -/
theorem request_authorised {i : Nat} {request : ApiRequest} (hσ : σ.Coherent)
    (htask : σ.apis[i]? = some .reading) (hauthorised : Api.Authorised H.api request) :
    request.reason.getD H.api.disconnectMsg ∈ (σ.request H i request).notifyShutdown.sent := by
  have hreceivers : 0 < σ.notifyShutdown.receivers := by
    have := hσ.receivers
    omega
  unfold System.request
  rw [htask]
  show _ ∈ (Api.dispatch H.config H.api request σ.notifyShutdown).2.sent
  rw [Api.dispatch_authorised hauthorised hreceivers]
  exact List.mem_append_right _ List.mem_cons_self

theorem step_finishApi (h : ∀ result, σ.main ≠ .returned result) (i : Nat) :
    σ.step H (.finishApi i) = σ.finishApi i := by
  unfold step
  cases hmain : σ.main with
  | returned result => exact absurd hmain (h result)
  | _ => rfl

theorem step_request (h : ∀ result, σ.main ≠ .returned result) (i : Nat) (request : ApiRequest) :
    σ.step H (.request i request) = σ.request H i request := by
  unfold step
  cases hmain : σ.main with
  | returned result => exact absurd hmain (h result)
  | _ => rfl

/-- Everything else leaves the api tasks alone. -/
theorem keeps_step {event : Event} (h : event.fromApi = false) : Keeps σ (σ.step H event) := by
  unfold step
  split
  · exact .of_eq rfl rfl
  · exact .of_eq rfl rfl
  · cases h
  · exact .of_eq rfl rfl
  · exact .recv
  · cases h
  · cases h
  · exact .connection H _ _
  · exact .poll H _ _
  · exact .resume H
  · exact .of_eq rfl rfl

theorem Told.mono {json : ApiJson} {σ' : System} {line : Bytes} (h : σ.Told H json line)
    (hsent : σ.notifyShutdown.sent <+: σ'.notifyShutdown.sent) : σ'.Told H json line :=
  fun request hasks hauthorised => hsent.subset (h request hasks hauthorised)

end System

namespace ApiServer

variable {H : Host} {json : ApiJson} {σ : System} {i : Nat} {line : Bytes}

/-- What becomes of a line: a reply or nothing, by events of the server that its request
accounts for. -/
structure Handles (H : Host) (json : ApiJson) (σ : System) (i : Nat) (line : Bytes)
    (result : System × ApiStage) : Prop where
  acts : System.ApiActs i σ result.1
  told : result.1.Told H json line
  stage : result.2 = .writing (H.reply json line) ∨
    result.2 = .returned ∧ H.reply json line = []
  events : ∃ more : List Event, result.1 = more.foldl (System.step H) σ ∧
    ∀ event ∈ more, event = .finishApi i ∨
      ∃ request, Api.Asks json line request ∧ event = .request i request

theorem handles_respond {σ₁ : System} {out : Option Bytes} {more : List Event}
    (hmain : ∀ result, σ.main ≠ .returned result) (hacts : System.ApiActs i σ σ₁)
    (htold : σ₁.Told H json line) (hreply : H.reply json line = out.getD [])
    (hmore : σ₁ = more.foldl (System.step H) σ)
    (hevents : ∀ event ∈ more, ∃ request, Api.Asks json line request ∧
      event = .request i request) :
    Handles H json σ i line (respond σ₁ i out) := by
  cases out with
  | some out =>
    exact { acts := hacts, told := htold, stage := .inl (congrArg ApiStage.writing hreply.symm),
            events := ⟨more, hmore, fun event h => .inr (hevents event h)⟩ }
  | none =>
    have hfinish := System.ApiActs.finishApi (σ := σ₁) i
    refine { acts := hacts.trans hfinish, told := htold.mono hfinish.sent,
             stage := .inr ⟨rfl, hreply⟩, events := ⟨more ++ [.finishApi i], ?_, ?_⟩ }
    · have hmain₁ : ∀ result, σ₁.main ≠ .returned result := fun result => hacts.main ▸ hmain result
      rw [List.foldl_append, ← hmore]
      exact (System.step_finishApi hmain₁ i).symm
    · intro event hevent
      rcases List.mem_append.mp hevent with hold | hnew
      · exact .inr (hevents event hold)
      · exact .inl (List.mem_singleton.mp hnew)

theorem handles_handle (hσ : σ.Coherent) (hmain : ∀ result, σ.main ≠ .returned result)
    (htask : σ.apis[i]? = some .reading) : Handles H json σ i line (handle H json σ i line) := by
  have hnone : ∀ event ∈ ([] : List Event), ∃ request, Api.Asks json line request ∧
      event = .request i request := fun event h => absurd h List.not_mem_nil
  unfold handle
  cases hline : Api.readLine line with
  | none =>
    refine handles_respond hmain (.refl i σ) (fun request hasks => ?_) ?_ rfl hnone
    · obtain ⟨text, htext, -⟩ := hasks
      rw [hline] at htext
      cases htext
    · rw [Host.reply, hline]
      rfl
  | some text =>
    cases hparse : Api.parseRequest json text with
    | error response =>
      simp only
      rw [hparse]
      refine handles_respond hmain (.refl i σ) (fun request hasks => ?_) ?_ rfl hnone
      · obtain ⟨text', htext, hrequest⟩ := hasks
        cases hline.symm.trans htext
        cases hparse.symm.trans hrequest
      · rw [Host.reply, hline]
        simp only
        rw [hparse]
    | ok request =>
      have hreceivers : 0 < σ.notifyShutdown.receivers := by
        have := hσ.receivers
        omega
      have hasks : Api.Asks json line request := ⟨text, hline, hparse⟩
      simp only
      rw [hparse]
      have hstep : σ.request H i request = [Event.request i request].foldl (System.step H) σ :=
        (System.step_request hmain i request).symm
      refine handles_respond hmain (.request i request)
        (fun request' hasks' hauthorised => ?_) ?_ hstep ?_
      · obtain ⟨text', htext, hrequest⟩ := hasks'
        cases hline.symm.trans htext
        cases hparse.symm.trans hrequest
        exact System.request_authorised hσ htask hauthorised
      · rw [Host.reply, hline]
        simp only
        rw [hparse, Api.dispatch_response hreceivers]
      · intro event hevent
        exact ⟨request, hasks, List.mem_singleton.mp hevent⟩

end ApiServer

theorem ApiSession.Served.mono {H : Host} {json : ApiJson} {events events' : List ApiEvent}
    {σ σ' : System} {i : Nat} {session : ApiSession} (h : session.Served H json events σ i)
    (hevents : ∀ event ∈ events, event ∈ events') (htask : σ'.apis[i]? = σ.apis[i]?)
    (hsent : σ.notifyShutdown.sent <+: σ'.notifyShutdown.sent) :
    session.Served H json events' σ' i := by
  cases h with
  | reading hline hreading => exact .reading hline (htask.trans hreading)
  | failed kind hevent => exact .failed kind (hevents _ hevent)
  | writing hline htold => exact .writing hline (htold.mono hsent)
  | cut delivered hline htold hevent =>
    exact .cut delivered hline (htold.mono hsent) (hevents _ hevent)
  | replied hline htold => exact .replied hline (htold.mono hsent)

/-- The server with its api connections does what it does under the events below, and the
connections account for those among them that come from the api. -/
structure ApiServer.Serves (H : Host) (json : ApiJson) (events : List ApiEvent) (w : ApiServer)
    (below : List Event) : Prop where
  system : w.system = H.run below
  length : w.sessions.length = w.system.apis.length
  sessions : ∀ (i : Nat) (session : ApiSession), w.sessions[i]? = some session →
    session.Served H json events w.system i
  requests : ∀ i request, Event.request i request ∈ below → ∃ session line,
    w.sessions[i]? = some session ∧ session.line = some line ∧ Api.Asks json line request
  signals : Event.signal ∈ below → .server .signal ∈ events

namespace ApiServer.Serves

variable {H : Host} {json : ApiJson} {events : List ApiEvent} {w : ApiServer}
  {below : List Event}

theorem start (H : Host) (json : ApiJson) : Serves H json [] .start [] := by
  refine { system := rfl, length := rfl, sessions := fun i session h => ?_,
           requests := fun i request h => absurd h List.not_mem_nil,
           signals := fun h => absurd h List.not_mem_nil }
  cases h

theorem skip (h : Serves H json events w below) (event : ApiEvent) :
    Serves H json (events ++ [event]) w below :=
  { system := h.system, length := h.length,
    sessions := fun i session hi =>
      (h.sessions i session hi).mono (fun _ he => List.mem_append_left _ he) rfl List.prefix_rfl,
    requests := h.requests, signals := fun hs => List.mem_append_left _ (h.signals hs) }

theorem server (h : Serves H json events w below) {event : Event} (hevent : event.fromApi = false) :
    Serves H json (events ++ [.server event]) { w with system := w.system.step H event }
      (below ++ [event]) := by
  have hkeeps : System.Keeps w.system (w.system.step H event) := System.keeps_step hevent
  refine { system := ?_, length := ?_, sessions := fun i session hi => ?_,
           requests := fun i request hr => ?_, signals := fun hs => ?_ }
  · rw [Host.run_snoc, ← h.system]
  · rw [hkeeps.apis]
    exact h.length
  · exact (h.sessions i session hi).mono (fun _ he => List.mem_append_left _ he)
      (congrArg (fun apis => apis[i]?) hkeeps.apis) hkeeps.sent
  · rcases List.mem_append.mp hr with hold | hnew
    · exact h.requests i request hold
    · rw [← List.mem_singleton.mp hnew] at hevent
      cases hevent
  · rcases List.mem_append.mp hs with hold | hnew
    · exact List.mem_append_left _ (h.signals hold)
    · rw [← List.mem_singleton.mp hnew]
      exact List.mem_append_right _ List.mem_cons_self

theorem acceptApi (h : Serves H json events w below) (hserving : w.system.main = .serving) :
    Serves H json (events ++ [.server .acceptApi])
      { system := w.system.step H .acceptApi, sessions := w.sessions ++ [.start] }
      (below ++ [.acceptApi]) := by
  have hstep : w.system.step H .acceptApi = w.system.acceptApi := by
    unfold System.step
    rw [hserving]
  have hapis : w.system.acceptApi.apis = w.system.apis ++ [.reading] := rfl
  refine { system := ?_, length := ?_, sessions := fun i session hi => ?_,
           requests := fun i request hr => ?_, signals := fun hs => ?_ }
  · rw [Host.run_snoc, ← h.system]
  · simp only
    rw [hstep, hapis, List.length_append, List.length_append, h.length]
    rfl
  · simp only at hi
    simp only
    rw [hstep]
    by_cases hlt : i < w.sessions.length
    · rw [List.getElem?_append_left hlt] at hi
      refine (h.sessions i session hi).mono (fun _ he => List.mem_append_left _ he) ?_
        List.prefix_rfl
      rw [hapis, List.getElem?_append_left (h.length ▸ hlt)]
    · have hlast : i = w.sessions.length := by
        have := (List.getElem?_eq_some_iff.mp hi).1
        rw [List.length_append, List.length_singleton] at this
        omega
      rw [hlast, List.getElem?_concat_length] at hi
      cases hi
      refine .reading List.not_mem_nil ?_
      rw [hapis, hlast, h.length, List.getElem?_concat_length]
  · rcases List.mem_append.mp hr with hold | hnew
    · obtain ⟨session, line, hi, hline, hasks⟩ := h.requests i request hold
      have hlt : i < w.sessions.length := (List.getElem?_eq_some_iff.mp hi).1
      exact ⟨session, line, (List.getElem?_append_left hlt).trans hi, hline, hasks⟩
    · cases List.mem_singleton.mp hnew
  · rcases List.mem_append.mp hs with hold | hnew
    · exact List.mem_append_left _ (h.signals hold)
    · cases List.mem_singleton.mp hnew

/-- An api connection goes on. -/
theorem set (h : Serves H json events w below) {event : ApiEvent} {i : Nat}
    {session session' : ApiSession} {σ : System} {more : List Event}
    (hsession : w.sessions[i]? = some session) (hacts : System.ApiActs i w.system σ)
    (hmore : σ = more.foldl (System.step H) w.system)
    (hserved : session'.Served H json (events ++ [event]) σ i)
    (hline : ∀ line, session.line = some line → session'.line = some line)
    (hevents : ∀ e ∈ more, e = .finishApi i ∨ ∃ request line, session'.line = some line ∧
      Api.Asks json line request ∧ e = .request i request) :
    Serves H json (events ++ [event]) { system := σ, sessions := w.sessions.set i session' }
      (below ++ more) := by
  have hlt : i < w.sessions.length := (List.getElem?_eq_some_iff.mp hsession).1
  have hself : (w.sessions.set i session')[i]? = some session' := List.getElem?_set_self hlt
  refine { system := ?_, length := ?_, sessions := fun j s hj => ?_,
           requests := fun j request hr => ?_, signals := fun hs => ?_ }
  · rw [Host.run, List.foldl_append, hmore, h.system]
    rfl
  · simp only
    rw [List.length_set, hacts.length]
    exact h.length
  · by_cases hji : j = i
    · subst hji
      rw [hself] at hj
      cases hj
      exact hserved
    · rw [List.getElem?_set_ne (Ne.symm hji)] at hj
      exact (h.sessions j s hj).mono (fun _ he => List.mem_append_left _ he)
        (hacts.others j hji) hacts.sent
  · rcases List.mem_append.mp hr with hold | hnew
    · obtain ⟨s, line, hj, hs, hasks⟩ := h.requests j request hold
      by_cases hji : j = i
      · subst hji
        cases hsession.symm.trans hj
        exact ⟨session', line, hself, hline line hs, hasks⟩
      · exact ⟨s, line, (List.getElem?_set_ne (Ne.symm hji)).trans hj, hs, hasks⟩
    · rcases hevents _ hnew with hfinish | ⟨request', line, hs, hasks, heq⟩
      · cases hfinish
      · cases heq
        exact ⟨session', line, hself, hs, hasks⟩
  · rcases List.mem_append.mp hs with hold | hnew
    · exact List.mem_append_left _ (h.signals hold)
    · rcases hevents _ hnew with hfinish | ⟨request', line, -, -, heq⟩
      · cases hfinish
      · cases heq

theorem read (h : Serves H json events w below)
    (hmain : ∀ result, w.system.main ≠ .returned result) (i : Nat)
    (result : Except ErrorKind Bytes) :
    ∃ more, Serves H json (events ++ [.read i result]) (w.read H json i result)
      (below ++ more) := by
  have hskip : ∃ more, Serves H json (events ++ [.read i result]) w (below ++ more) :=
    ⟨[], by rw [List.append_nil]; exact h.skip _⟩
  unfold ApiServer.read
  split
  · next line received l sent hsession =>
    cases h.sessions i _ hsession with
    | reading hline htask =>
      cases result with
      | error kind =>
        refine ⟨[.finishApi i], h.set hsession (.finishApi i)
          (System.step_finishApi hmain i).symm ?_ (fun line hl => by cases hl) ?_⟩
        · exact .failed kind (List.mem_append_right _ List.mem_cons_self)
        · exact fun e he => .inl (List.mem_singleton.mp he)
      | ok chunk =>
        simp only
        have hthrough : line ++ takeThrough newline chunk = takeThrough newline (line ++ chunk) :=
          (takeThrough_append_of_not_mem hline).symm
        by_cases hend : chunk = [] ∨ newline ∈ chunk
        · -- the line is at its end
          rw [if_pos hend]
          have hσ : w.system.Coherent := h.system ▸ H.run_coherent below
          have hhandles : ApiServer.Handles H json w.system i (line ++ takeThrough newline chunk)
              (ApiServer.handle H json w.system i (line ++ takeThrough newline chunk)) :=
            ApiServer.handles_handle hσ hmain htask
          generalize ApiServer.handle H json w.system i (line ++ takeThrough newline chunk) =
            handled at hhandles
          obtain ⟨σ, stage⟩ := handled
          obtain ⟨more, hmore, hevents⟩ := hhandles.events
          refine ⟨more, h.set hsession hhandles.acts hmore ?_ (fun line hl => by cases hl) ?_⟩
          · rcases hhandles.stage with hstage | ⟨hstage, hreply⟩
            · cases hstage
              exact .writing hthrough hhandles.told
            · cases hstage
              rw [← hreply]
              exact .replied hthrough hhandles.told
          · intro e he
            rcases hevents e he with hfinish | ⟨request, hasks, heq⟩
            · exact .inl hfinish
            · exact .inr ⟨request, _, rfl, hasks, heq⟩
        · rw [if_neg hend]
          obtain ⟨-, hchunk⟩ := not_or.mp hend
          refine ⟨[], h.set hsession (.refl i _) rfl ?_ (fun line hl => by cases hl) ?_⟩
          · rw [takeThrough_of_not_mem hchunk]
            refine .reading (fun hmem => ?_) htask
            exact (List.mem_append.mp hmem).elim hline hchunk
          · exact fun e he => absurd he List.not_mem_nil
  · exact hskip

theorem write (h : Serves H json events w below)
    (hmain : ∀ result, w.system.main ≠ .returned result) (i : Nat) (fault : Option Nat) :
    ∃ more, Serves H json (events ++ [.write i fault]) (w.write i fault) (below ++ more) := by
  have hskip : ∃ more, Serves H json (events ++ [.write i fault]) w (below ++ more) :=
    ⟨[], by rw [List.append_nil]; exact h.skip _⟩
  unfold ApiServer.write
  split
  · next out received l sent hsession =>
    cases h.sessions i _ hsession with
    | @writing _ line hline htold =>
      have hacts := System.ApiActs.finishApi (σ := w.system) i
      refine ⟨[.finishApi i], h.set hsession hacts (System.step_finishApi hmain i).symm ?_
        (fun _ hl => hl) fun e he => .inl (List.mem_singleton.mp he)⟩
      cases fault with
      | none => exact .replied hline (htold.mono hacts.sent)
      | some delivered =>
        exact .cut delivered hline (htold.mono hacts.sent)
          (List.mem_append_right _ List.mem_cons_self)
  · exact hskip

theorem step (h : Serves H json events w below) (event : ApiEvent) :
    ∃ more, Serves H json (events ++ [event]) (w.step H json event) (below ++ more) := by
  have hskip : ∃ more, Serves H json (events ++ [event]) w (below ++ more) :=
    ⟨[], by rw [List.append_nil]; exact h.skip _⟩
  by_cases hreturned : ∃ result, w.system.main = .returned result
  · obtain ⟨result, hmain⟩ := hreturned
    have hsame : w.step H json event = w := by
      unfold ApiServer.step
      rw [hmain]
    rw [hsame]
    exact hskip
  · have hmain : ∀ result, w.system.main ≠ .returned result :=
      fun result hr => hreturned ⟨result, hr⟩
    unfold ApiServer.step
    split
    · next result hr => exact absurd hr (hmain result)
    · next hserving => exact ⟨[.acceptApi], h.acceptApi hserving⟩
    · next asked _ _ =>
      cases hasked : asked.fromApi with
      | true => exact hskip
      | false => exact ⟨[asked], h.server hasked⟩
    · exact h.read hmain _ _
    · exact h.write hmain _ _

theorem run (H : Host) (json : ApiJson) (events : List ApiEvent) :
    ∃ below, Serves H json events (H.serve json events) below := by
  induction events using List.reverseRecOn with
  | nil => exact ⟨[], start H json⟩
  | append_singleton events event ih =>
    obtain ⟨below, h⟩ := ih
    obtain ⟨more, hstep⟩ := h.step event
    rw [Host.serve_snoc]
    exact ⟨below ++ more, hstep⟩

end ApiServer.Serves

/-! ### The api on the wire -/

namespace Host

/-- A ping in two reads, with bytes behind its line. -/
def pinging : List ApiEvent :=
  [.server .acceptApi, .read 0 (.ok (utf8 " \x7b\"action\":")),
   .read 0 (.ok (utf8 "\"ping\",\"token\":\"token\"\x7d\r\nmore")), .write 0 none]

end Host

/-- A request for a shutdown with the reason: by an OS signal, or in the first line of an
api client that has the configured token. -/
def ApiServer.Demands (H : Host) (json : ApiJson) (events : List ApiEvent) (w : ApiServer)
    (reason : String) : Prop :=
  (.server .signal ∈ events ∧ reason = H.api.disconnectMsg) ∨
  ∃ (i : Nat) (session : ApiSession) (line : Bytes) (request : ApiRequest),
    w.sessions[i]? = some session ∧ session.line = some line ∧ Api.Asks json line request ∧
    Api.Authorised H.api request ∧ reason = request.reason.getD H.api.disconnectMsg

namespace Host

end Host

end Statik
