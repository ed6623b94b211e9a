import Statik.Server.Graceful

/-!
# Who stops the server

The server is stopped by an OS signal or by an api client that has the token, and by
nobody else; and an api client that has it always gets its reason to the connections.
-/

namespace Statik

/-- The event asks for a shutdown with the reason. -/
def Event.Demands (api : ApiConfig) (reason : String) : Event → Prop
  | .signal => reason = api.disconnectMsg
  | .request _ asked => Api.Authorised api asked ∧ reason = asked.reason.getD api.disconnectMsg
  | _ => False

/-- One of the events asks for a shutdown with the reason. -/
def Demanded (api : ApiConfig) (events : List Event) (reason : String) : Prop :=
  ∃ event ∈ events, event.Demands api reason

namespace System

/-- Whatever is sent, or `main` is about to send, is one of the reasons, and the server
does not stop without one. -/
structure Warranted (H : Host) (reasons : String → Prop) (σ : System) : Prop where
  sent : ∀ reason ∈ σ.notifyShutdown.sent, reasons reason
  stopping : ∀ reason, σ.main = .stopping reason → reasons (reason.getD H.api.disconnectMsg)
  main : σ.main ≠ .serving → ∃ reason, reasons reason
  connections : ∀ task ∈ σ.connections, task.handler.shutdown.isShutdown = true →
    ∃ reason, reasons reason

variable {H : Host} {reasons : String → Prop} {σ : System}

theorem warranted_start : Warranted H reasons start := by
  refine { sent := fun reason h => absurd h List.not_mem_nil, stopping := fun reason h => ?_,
           main := fun h => absurd rfl h, connections := fun task h => absurd h List.not_mem_nil }
  cases h

namespace Warranted

theorem mono {reasons' : String → Prop} (h : σ.Warranted H reasons)
    (hle : ∀ reason, reasons reason → reasons' reason) : σ.Warranted H reasons' :=
  { sent := fun reason hr => hle _ (h.sent reason hr),
    stopping := fun reason hr => hle _ (h.stopping reason hr),
    main := fun hmain => (h.main hmain).imp hle,
    connections := fun task htask hflag => (h.connections task htask hflag).imp hle }

/-- A receiver that does not wait has been sent something. -/
theorem received (h : σ.Warranted H reasons) {next next' : Nat} {received : Sync.Received String}
    (hrecv : σ.notifyShutdown.recv next = some (received, next')) (hne : received ≠ .closed) :
    ∃ reason, reasons reason := by
  cases hsent : σ.notifyShutdown.sent with
  | nil => exact absurd (Sync.Broadcast.recv_nil hsent hrecv) hne
  | cons reason later => exact ⟨reason, h.sent reason (by rw [hsent]; exact List.mem_cons_self)⟩

theorem send (h : σ.Warranted H reasons) {reason : String} (hreason : reasons reason)
    {c : Sync.Broadcast String} (hsend : σ.notifyShutdown.send reason = some c) :
    { σ with notifyShutdown := c }.Warranted H reasons := by
  rw [Sync.Broadcast.send_eq_some hsend]
  refine { sent := fun r hr => ?_, stopping := h.stopping, main := h.main,
           connections := h.connections }
  rcases List.mem_append.mp hr with hold | hnew
  · exact h.sent r hold
  · rw [List.mem_singleton.mp hnew]
    exact hreason

/-- The channels and the api tasks may change as long as nothing is sent. -/
theorem congr (h : σ.Warranted H reasons) {σ' : System}
    (hsent : σ'.notifyShutdown.sent = σ.notifyShutdown.sent) (hmain : σ'.main = σ.main)
    (hconnections : σ'.connections = σ.connections) : σ'.Warranted H reasons :=
  { sent := by rw [hsent]; exact h.sent,
    stopping := by rw [hmain]; exact h.stopping,
    main := by rw [hmain]; exact h.main,
    connections := by rw [hconnections]; exact h.connections }

theorem stepConnection (h : σ.Warranted H reasons) (i : Nat) {task : ConnectionTask}
    {event : HandlerEvent}
    (hflag : (task.step H.env event).handler.shutdown.isShutdown = true →
      ∃ reason, reasons reason) :
    (σ.stepConnection H.env i task event).Warranted H reasons := by
  have hsent : (σ.stepConnection H.env i task event).notifyShutdown.sent =
      σ.notifyShutdown.sent := by
    unfold System.stepConnection
    simp only
    split <;> rfl
  refine { sent := by rw [hsent]; exact h.sent,
           stopping := by rw [main_stepConnection]; exact h.stopping,
           main := by rw [main_stepConnection]; exact h.main,
           connections := fun t ht => ?_ }
  rw [connections_stepConnection] at ht
  rcases List.mem_or_eq_of_mem_set ht with hold | rfl
  · exact h.connections t hold
  · exact hflag

theorem connection (h : σ.Warranted H reasons) (i : Nat) (input : Input) :
    (σ.connection H i input).Warranted H reasons := by
  unfold System.connection
  split
  · exact h
  · next task htask =>
    refine h.stepConnection i fun hflag => ?_
    refine h.connections task (List.mem_of_getElem? htask) ?_
    have hsame : (task.handler.step H.env (.connection input)).shutdown =
        task.handler.shutdown := by
      by_cases hnone : task.handler.outcome = none
      · rcases task.handler.step_connection input hnone with ⟨e, -, hstep⟩ | ⟨-, hstep⟩
        · rw [hstep]
        · rw [hstep]
      · rw [HandlerRun.step_returned hnone]
    rw [← hsame]
    exact hflag

/-- A connection task is told of a shutdown only when there is one. -/
theorem poll (h : σ.Warranted H reasons) (hσ : σ.Coherent) (i : Nat)
    (cut : Option Interruption) : (σ.poll H i cut).Warranted H reasons := by
  unfold System.poll
  split
  · exact h
  · next task htask =>
    have hmem : task ∈ σ.connections := List.mem_of_getElem? htask
    split
    · exact h
    · next received next hrecv =>
      refine h.stepConnection i fun hflag => ?_
      by_cases hnone : task.handler.outcome = none
      · have hwaits := (hσ.attends task hmem).waits.flag hnone
        rcases @HandlerRun.step_shutdown H.env task.handler received next cut hnone hwaits with
          hsame | ⟨hne, -, -⟩ | ⟨hclosed, -, -, -⟩
        · refine h.connections task hmem ?_
          rw [← hsame]
          exact hflag
        · exact h.received hrecv hne
        · rw [hclosed] at hrecv
          exact absurd hrecv (hσ.not_closed hmem hnone next)
      · refine h.connections task hmem ?_
        rw [ConnectionTask.step, HandlerRun.step_returned hnone] at hflag
        exact hflag

theorem request (h : σ.Warranted H reasons) (i : Nat) (request : ApiRequest)
    (hreason : Api.Authorised H.api request → reasons (request.reason.getD H.api.disconnectMsg)) :
    (σ.request H i request).Warranted H reasons := by
  unfold System.request
  split
  · rcases Api.dispatch_channel H.config H.api request σ.notifyShutdown with
      hsame | ⟨hauthorised, hsend⟩
    · exact h.congr (by simp only [hsame]) rfl rfl
    · exact (h.send (hreason hauthorised) hsend).congr rfl rfl rfl
  · exact h

theorem finishApi (h : σ.Warranted H reasons) (i : Nat) :
    (σ.finishApi i).Warranted H reasons := by
  unfold System.finishApi
  split
  · exact h
  · split
    · exact h.congr rfl rfl rfl
    · exact h

theorem accept (h : σ.Warranted H reasons) (address : String) (fault : Nat → Option Fault) :
    (σ.accept H address fault).Warranted H reasons := by
  refine { sent := h.sent, stopping := h.stopping, main := h.main,
           connections := fun task htask hflag => ?_ }
  rcases List.mem_append.mp htask with hold | hnew
  · exact h.connections task hold hflag
  · rw [List.mem_singleton.mp hnew] at hflag
    cases hflag

/-- `main` stops with a reason that was sent, or because it has missed one. -/
theorem recv (h : σ.Warranted H reasons) (hσ : σ.Coherent) (hserving : σ.main = .serving) :
    σ.recv.Warranted H reasons := by
  unfold System.recv
  split
  · exact h
  · next received next hrecv =>
    cases received with
    | value reason =>
      have hreason := h.sent reason (Sync.Broadcast.recv_value hrecv)
      refine { sent := h.sent, stopping := fun r hr => ?_, main := fun _ => ⟨reason, hreason⟩,
               connections := h.connections }
      cases hr
      exact hreason
    | lagged missed =>
      refine { sent := h.sent, stopping := fun r hr => ?_,
               main := fun _ => h.received hrecv (by simp), connections := h.connections }
      cases hr
    | closed =>
      have hsender := hσ.sender (hσ.unannounced (by rw [hserving]; rfl))
      have hdropped := (Sync.Broadcast.recv_closed hrecv).1
      omega

/-- `main` goes on after its `select!`. -/
theorem resume (h : σ.Warranted H reasons) (hσ : σ.Coherent) :
    (σ.resume H).Warranted H reasons := by
  have hmoved : ∀ {main : Main} (position : Nat), σ.main ≠ .serving →
      (∀ reason, main ≠ .stopping reason) →
      { σ with shutdownRx := position, main := main }.Warranted H reasons :=
    fun position hserving hne =>
      { sent := h.sent, stopping := fun reason hr => absurd hr (hne reason),
        main := fun _ => h.main hserving, connections := h.connections }
  unfold System.resume
  split
  · next reason hmain =>
    have hreason := h.stopping reason hmain
    rw [hσ.send_of]
    have hsent := h.send hreason (hσ.send_of (reason.getD H.api.disconnectMsg))
    refine { sent := hsent.sent, stopping := fun r hr => ?_, main := fun _ => ⟨_, hreason⟩,
             connections := h.connections }
    cases hr
  · next hmain =>
    split
    · exact hmoved σ.shutdownRx (by rw [hmain]; simp) (by simp)
    · exact h
  · next hmain =>
    split
    · exact h
    · exact hmoved _ (by rw [hmain]; simp) (by simp)
  · exact h

theorem step (h : σ.Warranted H reasons) (hσ : σ.Coherent) (event : Event)
    (hevent : ∀ reason, event.Demands H.api reason → reasons reason) :
    (σ.step H event).Warranted H reasons := by
  unfold System.step
  split
  · exact h
  · exact h.accept _ _
  · exact h.congr rfl rfl rfl
  · have hreason : reasons H.api.disconnectMsg := hevent _ rfl
    refine { sent := h.sent, stopping := fun reason hr => ?_, main := fun _ => ⟨_, hreason⟩,
             connections := h.connections }
    cases hr
    exact hreason
  · next hserving => exact h.recv hσ hserving
  · exact h.request _ _ fun hauthorised => hevent _ ⟨hauthorised, rfl⟩
  · exact h.finishApi _
  · exact h.connection _ _
  · exact h.poll hσ _ _
  · exact h.resume hσ
  · exact h

end Warranted

end System

/-! ### What api clients are answered -/

namespace Api

/-- What `dispatch` answers as long as somebody receives. -/
def answer (config : ServerConfig) (api : ApiConfig) (request : ApiRequest) : ApiResponse :=
  (dispatch config api request (.channel 1)).1

variable {config : ServerConfig} {api : ApiConfig} {request : ApiRequest}
  {c : Sync.Broadcast String}

theorem dispatch_response (h : 0 < c.receivers) :
    (dispatch config api request c).1 = answer config api request := by
  have hchannel : 0 < (Sync.Broadcast.channel 1 : Sync.Broadcast String).receivers :=
    Nat.zero_lt_one
  unfold answer dispatch
  rw [Sync.Broadcast.send_of_receivers h, Sync.Broadcast.send_of_receivers hchannel]
  split
  · rfl
  · split
    · rfl
    · rfl
    · split <;> rfl
    · rfl

/-- An authorised request is not refused. -/
theorem dispatch_authorised (hauthorised : Authorised api request) (h : 0 < c.receivers) :
    dispatch config api request c =
      (.success, { c with sent := c.sent ++ [request.reason.getD api.disconnectMsg] }) := by
  obtain ⟨haction, htoken, hmatch⟩ := hauthorised
  obtain ⟨token, hsome⟩ := Option.ne_none_iff_exists'.mp htoken
  unfold dispatch
  rw [Sync.Broadcast.send_of_receivers h, hmatch, hsome, haction]
  simp

theorem dispatch_sent : c.sent <+: (dispatch config api request c).2.sent := by
  rcases dispatch_channel config api request c with hsame | ⟨-, hsend⟩
  · exact ⟨[], by rw [hsame, List.append_nil]⟩
  · rw [Sync.Broadcast.send_eq_some hsend]
    exact List.prefix_append _ _

end Api

namespace System

/-- The requests of each api task that has a response. -/
def Responds (H : Host) (events : List Event) (σ : System) : Prop :=
  ∀ i response, σ.apis[i]? = some (.responding response) →
    ∃ request, Event.request i request ∈ events ∧ response = Api.answer H.config H.api request ∧
      (Api.Authorised H.api request →
        request.reason.getD H.api.disconnectMsg ∈ σ.notifyShutdown.sent)

/-- The api tasks are as they were, and what was sent stays sent. -/
structure Keeps (σ σ' : System) : Prop where
  apis : σ'.apis = σ.apis
  sent : σ.notifyShutdown.sent <+: σ'.notifyShutdown.sent

namespace Keeps

variable {σ : System}

theorem of_eq {σ' : System} (hapis : σ'.apis = σ.apis)
    (hsent : σ'.notifyShutdown.sent = σ.notifyShutdown.sent) : Keeps σ σ' :=
  { apis := hapis, sent := hsent ▸ List.prefix_rfl }

theorem stepConnection (env : Env) (i : Nat) (task : ConnectionTask) (event : HandlerEvent) :
    Keeps σ (σ.stepConnection env i task event) := by
  unfold System.stepConnection
  simp only
  split <;> exact of_eq rfl rfl

theorem connection (H : Host) (i : Nat) (input : Input) : Keeps σ (σ.connection H i input) := by
  unfold System.connection
  split
  · exact of_eq rfl rfl
  · exact .stepConnection ..

theorem poll (H : Host) (i : Nat) (cut : Option Interruption) : Keeps σ (σ.poll H i cut) := by
  unfold System.poll
  split
  · exact of_eq rfl rfl
  · split
    · exact of_eq rfl rfl
    · exact .stepConnection ..

theorem recv : Keeps σ σ.recv := by
  unfold System.recv
  split
  · exact of_eq rfl rfl
  · next received next _ => cases received <;> exact of_eq rfl rfl

theorem resume (H : Host) : Keeps σ (σ.resume H) := by
  unfold System.resume
  split
  · split
    · exact of_eq rfl rfl
    · next c hsend =>
      refine { apis := rfl, sent := ?_ }
      rw [Sync.Broadcast.send_eq_some hsend]
      exact List.prefix_append _ _
  · split <;> exact of_eq rfl rfl
  · split <;> exact of_eq rfl rfl
  · exact of_eq rfl rfl

end Keeps

namespace Responds

variable {H : Host} {events : List Event} {σ : System}

/-- No task has a response that it did not have. -/
theorem later (h : σ.Responds H events) (event : Event) {σ' : System}
    (hapis : ∀ (i : Nat) (response : ApiResponse), σ'.apis[i]? = some (.responding response) →
      σ.apis[i]? = some (.responding response))
    (hsent : σ.notifyShutdown.sent <+: σ'.notifyShutdown.sent) :
    σ'.Responds H (events ++ [event]) := by
  intro i response hi
  obtain ⟨request, hmem, hanswer, hauthorised⟩ := h i response (hapis i response hi)
  exact ⟨request, List.mem_append_left _ hmem, hanswer, fun ha => hsent.subset (hauthorised ha)⟩

theorem keeps (h : σ.Responds H events) (event : Event) {σ' : System} (hkeeps : Keeps σ σ') :
    σ'.Responds H (events ++ [event]) :=
  h.later event (fun i response hi => by rwa [hkeeps.apis] at hi) hkeeps.sent

theorem acceptApi (h : σ.Responds H events) :
    σ.acceptApi.Responds H (events ++ [.acceptApi]) := by
  refine h.later .acceptApi (fun i response hi => ?_) List.prefix_rfl
  have hapis : σ.acceptApi.apis = σ.apis ++ [.reading] := rfl
  rw [hapis] at hi
  by_cases hlt : i < σ.apis.length
  · rwa [List.getElem?_append_left hlt] at hi
  · have hlast : i = σ.apis.length := by
      have := (List.getElem?_eq_some_iff.mp hi).1
      rw [List.length_append, List.length_singleton] at this
      omega
    rw [hlast, List.getElem?_concat_length] at hi
    cases hi

/-- A response after `List.set` is the new one or an old one. -/
theorem responding_set {apis : List ApiTask} {i j : Nat} {task : ApiTask} {response : ApiResponse}
    (h : (apis.set i task)[j]? = some (.responding response)) :
    (j = i ∧ task = .responding response) ∨ apis[j]? = some (.responding response) := by
  by_cases hji : j = i
  · subst hji
    have hlt : j < apis.length := by
      have := (List.getElem?_eq_some_iff.mp h).1
      rwa [List.length_set] at this
    rw [List.getElem?_set_self hlt] at h
    exact .inl ⟨rfl, Option.some.inj h⟩
  · rw [List.getElem?_set_ne (Ne.symm hji)] at h
    exact .inr h

theorem finishApi (h : σ.Responds H events) (i : Nat) :
    (σ.finishApi i).Responds H (events ++ [.finishApi i]) := by
  unfold System.finishApi
  split
  · exact h.keeps _ (.of_eq rfl rfl)
  · split
    · refine h.later _ (fun j response hj => ?_) List.prefix_rfl
      rcases responding_set hj with ⟨-, hdone⟩ | hold
      · cases hdone
      · exact hold
    · exact h.keeps _ (.of_eq rfl rfl)

/-- A task that has read a request. -/
theorem request (h : σ.Responds H events) (hσ : σ.Coherent) (i : Nat) (request : ApiRequest) :
    (σ.request H i request).Responds H (events ++ [.request i request]) := by
  have hreceivers : 0 < σ.notifyShutdown.receivers := by
    have := hσ.receivers
    omega
  unfold System.request
  split
  · intro j response hj
    have hsent : σ.notifyShutdown.sent <+:
        (Api.dispatch H.config H.api request σ.notifyShutdown).2.sent := Api.dispatch_sent
    rcases responding_set hj with ⟨hji, hresponse⟩ | hold
    · refine ⟨request, ?_, ?_, fun hauthorised => ?_⟩
      · rw [hji]
        exact List.mem_append_right _ List.mem_cons_self
      · cases hresponse
        exact Api.dispatch_response hreceivers
      · show _ ∈ (Api.dispatch H.config H.api request σ.notifyShutdown).2.sent
        rw [Api.dispatch_authorised hauthorised hreceivers]
        exact List.mem_append_right _ List.mem_cons_self
    · obtain ⟨request', hmem, hanswer, hauthorised⟩ := h j response hold
      exact ⟨request', List.mem_append_left _ hmem, hanswer,
        fun ha => hsent.subset (hauthorised ha)⟩
  · exact h.keeps _ (.of_eq rfl rfl)

theorem step (h : σ.Responds H events) (hσ : σ.Coherent) (event : Event) :
    (σ.step H event).Responds H (events ++ [event]) := by
  unfold System.step
  split
  · exact h.keeps _ (.of_eq rfl rfl)
  · exact h.keeps _ (.of_eq rfl rfl)
  · exact h.acceptApi
  · exact h.keeps _ (.of_eq rfl rfl)
  · exact h.keeps _ .recv
  · exact h.request hσ _ _
  · exact h.finishApi _
  · exact h.keeps _ (.connection H _ _)
  · exact h.keeps _ (.poll H _ _)
  · exact h.keeps _ (.resume H)
  · exact h.keeps _ (.of_eq rfl rfl)

end Responds

end System

namespace Host

theorem run_warranted (H : Host) (events : List Event) :
    (H.run events).Warranted H (Demanded H.api events) := by
  induction events using List.reverseRecOn with
  | nil => exact System.warranted_start
  | append_singleton events event ih =>
    rw [run_snoc]
    refine (ih.mono fun reason h => ?_).step (H.run_coherent events) event fun reason h => ?_
    · obtain ⟨e, he, hdemands⟩ := h
      exact ⟨e, List.mem_append_left _ he, hdemands⟩
    · exact ⟨event, List.mem_append_right _ List.mem_cons_self, h⟩

/-- Nobody stops the server but an OS signal or a client with the configured token, and
what the connections are told is what that one asked for. -/
theorem run_demanded (H : Host) (events : List Event) :
    (∀ reason ∈ (H.run events).notifyShutdown.sent, Demanded H.api events reason) ∧
    ((H.run events).main ≠ .serving → ∃ reason, Demanded H.api events reason) ∧
    ∀ task ∈ (H.run events).connections, task.Signalled → ∃ reason, Demanded H.api events reason :=
  have h := H.run_warranted events
  ⟨h.sent, h.main, fun task htask hsignalled => h.connections task htask hsignalled.1⟩

end Host

end Statik
