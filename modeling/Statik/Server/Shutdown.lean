import Statik.Server.System

/-!
# Shutting down

What holds of the server and its tasks in every run: who still holds which end of a
channel, and what the connection tasks have yet to read of the signal.
-/

namespace Statik

/-! ### The tasks -/

theorem countP_set_of {α : Type} {p : α → Bool} {l : List α} {i : Nat} {a b : α}
    (h : l[i]? = some a) :
    (l.set i b).countP p + (if p a then 1 else 0) = l.countP p + (if p b then 1 else 0) := by
  obtain ⟨hi, rfl⟩ := List.getElem?_eq_some_iff.mp h
  rw [List.countP_set hi]
  by_cases ha : p l[i] = true
  · have hpos : 0 < l.countP p := List.countP_pos_iff.mpr ⟨l[i], List.getElem_mem hi, ha⟩
    simp only [ha, if_true]
    omega
  · simp only [if_neg ha]
    omega

/-- A connection task that has received nothing yet stands where it subscribed. -/
structure ConnectionTask.Attends (task : ConnectionTask) (tail : Nat) : Prop where
  waits : task.handler.Waits
  position : task.running = true → task.handler.shutdown.recv = task.subscribed
  subscribed : task.subscribed ≤ tail

theorem ConnectionTask.running_iff {task : ConnectionTask} :
    task.running = true ↔ task.handler.outcome = none := Option.isNone_iff_eq_none

namespace ConnectionTask.Attends

variable {task : ConnectionTask} {tail : Nat} {env : Env}

theorem mono (h : task.Attends tail) {tail' : Nat} (hle : tail ≤ tail') : task.Attends tail' :=
  { waits := h.waits, position := h.position, subscribed := Nat.le_trans h.subscribed hle }

theorem step_waits (h : task.Attends tail) (event : HandlerEvent) :
    (task.step env event).handler.Waits := h.waits.step event

theorem connection (h : task.Attends tail) (input : Input) :
    (task.step env (.connection input)).Attends tail := by
  refine { waits := h.step_waits _, position := fun hrunning => ?_, subscribed := h.subscribed }
  have hnone := HandlerRun.outcome_of_step (ConnectionTask.running_iff.mp hrunning)
  have hposition := h.position (ConnectionTask.running_iff.mpr hnone)
  show (task.handler.step env (.connection input)).shutdown.recv = _
  rcases task.handler.step_connection input hnone with ⟨e, -, hstep⟩ | ⟨-, hstep⟩
  · rw [hstep]
    exact hposition
  · rw [hstep]
    exact hposition

/-- A task goes on running only when it was told of the end of the channel, which
leaves its receiver where it is. -/
theorem shutdown (h : task.Attends tail) {received : Sync.Received String} {next : Nat}
    (cut : Option Interruption) (hclosed : received = .closed → next = task.handler.shutdown.recv) :
    (task.step env (.shutdown received next cut)).Attends tail := by
  refine { waits := h.step_waits _, position := fun hrunning => ?_, subscribed := h.subscribed }
  have hnone' : (task.handler.step env (.shutdown received next cut)).outcome = none :=
    ConnectionTask.running_iff.mp hrunning
  have hnone := HandlerRun.outcome_of_step hnone'
  have hposition := h.position (ConnectionTask.running_iff.mpr hnone)
  show (task.handler.step env (.shutdown received next cut)).shutdown.recv = _
  rcases task.handler.step_shutdown hnone (h.waits.flag hnone) with hsame |
    ⟨-, -, hok⟩ | ⟨hend, hshutdown, -, -⟩
  · rw [hsame]
    exact hposition
  · rw [hok] at hnone'
    cases hnone'
  · rw [hshutdown]
    exact (hclosed hend).trans hposition

end ConnectionTask.Attends

/-! ### The invariant -/

/-- `server.shutdown` has sent its value. -/
def Main.announces : Main → Bool
  | .completing => true
  | .closing => true
  | .returned (.ok _) => true
  | _ => false

/-- `_shutdown_complete_rx.recv()` has completed. -/
def Main.completes : Main → Bool
  | .closing => true
  | .returned (.ok _) => true
  | _ => false

theorem Main.announces_of_completes {main : Main} (h : main.completes = true) :
    main.announces = true := by
  unfold completes at h
  split at h
  · rfl
  · rfl
  · cases h

namespace System

/-- The number of senders of either channel that the server holds. -/
def held (σ : System) : Nat := if σ.announced.isNone then 1 else 0

theorem held_of_none {σ : System} (h : σ.announced = none) : σ.held = 1 := by
  rw [held, h]
  rfl

theorem held_of_some {σ : System} {k : Nat} (h : σ.announced = some k) : σ.held = 0 := by
  rw [held, h]
  rfl

/-- Who holds which end of a channel, and what the connection tasks have read. -/
structure Coherent (σ : System) : Prop where
  capacity : σ.notifyShutdown.capacity = 1
  receivers : σ.notifyShutdown.receivers = 1 + σ.connections.countP ConnectionTask.running
  senders : σ.notifyShutdown.senders = σ.held + σ.apis.countP ApiTask.running
  complete : σ.shutdownComplete.senders =
    σ.held + σ.connections.countP ConnectionTask.running
  phase : σ.announced.isSome = σ.main.announces
  attends : ∀ task ∈ σ.connections, task.Attends σ.notifyShutdown.tail
  announced : ∀ k, σ.announced = some k → k < σ.notifyShutdown.tail ∧
    ∀ task ∈ σ.connections, task.subscribed ≤ k
  completed : σ.main.completes = true → σ.connections.countP ConnectionTask.running = 0

variable {σ : System} {H : Host}

theorem coherent_start : Coherent start := by
  refine { capacity := rfl, receivers := rfl, senders := rfl, complete := rfl, phase := rfl,
           attends := ?_, announced := ?_, completed := fun _ => rfl }
  · intro task htask
    cases htask
  · intro k hk
    cases hk

theorem Coherent.unannounced (h : σ.Coherent) (hmain : σ.main.announces = false) :
    σ.announced = none := by
  have hphase := h.phase
  rw [hmain] at hphase
  simpa using hphase

/-- `send` in `server.shutdown` has the receiver of `main`. -/
theorem Coherent.send_of (h : σ.Coherent) (reason : String) :
    σ.notifyShutdown.send reason =
      some { σ.notifyShutdown with sent := σ.notifyShutdown.sent ++ [reason] } := by
  refine Sync.Broadcast.send_of_receivers ?_ reason
  rw [h.receivers]
  omega

/-- Only the handler of one task changes.  `dropped` is 1 if it returned, and 0 if not. -/
theorem Coherent.setConnection (h : σ.Coherent) {i : Nat} {task task' : ConnectionTask}
    (htask : σ.connections[i]? = some task) (hattends : task'.Attends σ.notifyShutdown.tail)
    (hsubscribed : task'.subscribed = task.subscribed) (dropped : Nat)
    (hcount : (σ.connections.set i task').countP ConnectionTask.running + dropped =
      σ.connections.countP ConnectionTask.running) :
    { σ with
      connections := σ.connections.set i task',
      notifyShutdown := { σ.notifyShutdown with
        receivers := σ.notifyShutdown.receivers - dropped },
      shutdownComplete := { senders := σ.shutdownComplete.senders - dropped } }.Coherent := by
  have hreceivers := h.receivers
  have hcomplete := h.complete
  have hmem : task ∈ σ.connections := List.mem_of_getElem? htask
  have hnew : ∀ t ∈ σ.connections.set i task',
      t.Attends σ.notifyShutdown.tail ∧ ∀ k, σ.announced = some k → t.subscribed ≤ k := by
    intro t ht
    rcases List.mem_or_eq_of_mem_set ht with hold | rfl
    · exact ⟨h.attends t hold, fun k hk => (h.announced k hk).2 t hold⟩
    · exact ⟨hattends, fun k hk => hsubscribed ▸ (h.announced k hk).2 task hmem⟩
  refine { capacity := h.capacity, receivers := ?_, senders := h.senders, complete := ?_,
           phase := h.phase, attends := fun t ht => (hnew t ht).1,
           announced := fun k hk => ⟨(h.announced k hk).1, fun t ht => (hnew t ht).2 k hk⟩,
           completed := fun hcompletes => ?_ }
  · show σ.notifyShutdown.receivers - dropped = _
    simp only
    omega
  · show σ.shutdownComplete.senders - dropped = σ.held + _
    simp only
    omega
  · have := h.completed hcompletes
    simp only
    omega

/-- A task that returns gives up its ends of the channels. -/
theorem Coherent.stepConnection (h : σ.Coherent) {env : Env} {i : Nat} {task : ConnectionTask}
    (htask : σ.connections[i]? = some task) {event : HandlerEvent}
    (hattends : (task.step env event).Attends σ.notifyShutdown.tail) :
    (σ.stepConnection env i task event).Coherent := by
  have hcount := countP_set_of (p := ConnectionTask.running) (b := task.step env event) htask
  have hreturned : task.running = false → (task.step env event).running = false := by
    intro hrunning
    by_contra hstill
    have hnone := HandlerRun.outcome_of_step
      (ConnectionTask.running_iff.mp (by simpa using hstill))
    rw [ConnectionTask.running_iff.mpr hnone] at hrunning
    cases hrunning
  unfold System.stepConnection
  by_cases hdropped : (task.running && !(task.step env event).running) = true
  · simp only [if_pos hdropped]
    simp only [Bool.and_eq_true, Bool.not_eq_true'] at hdropped
    simp only [hdropped, if_true, Bool.false_eq_true, if_false] at hcount
    exact h.setConnection htask hattends rfl 1 hcount
  · simp only [if_neg hdropped]
    have hsame : task.running = (task.step env event).running := by
      cases hrunning : task.running with
      | false => exact (hreturned hrunning).symm
      | true => simpa [hrunning] using hdropped
    rw [hsame, Nat.add_right_cancel_iff] at hcount
    exact h.setConnection htask hattends rfl 0 hcount

theorem Coherent.accept (h : σ.Coherent) (hmain : σ.main = .serving) (address : String)
    (fault : Nat → Option Fault) : (σ.accept H address fault).Coherent := by
  have hnone := h.unannounced (by rw [hmain]; rfl)
  have hreceivers := h.receivers
  have hcomplete := h.complete
  have hattends : ConnectionTask.Attends
      { subscribed := σ.notifyShutdown.tail,
        handler := .start H.config H.protocol address fault σ.notifyShutdown.tail }
      σ.notifyShutdown.tail := by
    refine { waits := ?_, position := fun _ => rfl, subscribed := Nat.le_refl _ }
    refine { live := fun _ e he => ?_, flag := fun _ => rfl }
    cases he
  unfold System.accept
  simp only [Sync.Broadcast.subscribe]
  refine { capacity := h.capacity, receivers := ?_, senders := h.senders, complete := ?_,
           phase := h.phase, attends := ?_, announced := ?_, completed := ?_ }
  · rw [List.countP_append]
    show σ.notifyShutdown.receivers + 1 = _ + (_ + 1)
    omega
  · rw [List.countP_append]
    show σ.shutdownComplete.senders + 1 = σ.held + (_ + 1)
    omega
  · intro task htask
    rcases List.mem_append.mp htask with hold | hnew
    · exact h.attends task hold
    · rw [List.mem_singleton.mp hnew]
      exact hattends
  · intro k hk
    rw [hnone] at hk
    cases hk
  · intro hcompletes
    simp only [hmain] at hcompletes
    cases hcompletes

theorem Coherent.acceptApi (h : σ.Coherent) : σ.acceptApi.Coherent := by
  have hsenders := h.senders
  refine { capacity := h.capacity, receivers := h.receivers, senders := ?_,
           complete := h.complete, phase := h.phase, attends := h.attends,
           announced := h.announced, completed := h.completed }
  unfold System.acceptApi
  rw [List.countP_append]
  show σ.notifyShutdown.senders + 1 = σ.held + (_ + 1)
  omega

/-- A value comes behind everything that was sent. -/
theorem Coherent.send (h : σ.Coherent) {reason : String} {c : Sync.Broadcast String}
    (hsend : σ.notifyShutdown.send reason = some c) :
    { σ with notifyShutdown := c }.Coherent := by
  rw [Sync.Broadcast.send_eq_some hsend]
  have htail : ({ σ.notifyShutdown with
      sent := σ.notifyShutdown.sent ++ [reason] } : Sync.Broadcast String).tail =
        σ.notifyShutdown.tail + 1 := List.length_append
  refine { capacity := h.capacity, receivers := h.receivers, senders := h.senders,
           complete := h.complete, phase := h.phase, attends := fun task htask => ?_,
           announced := fun k hk => ?_, completed := h.completed }
  · simp only [htail]
    exact (h.attends task htask).mono (Nat.le_succ _)
  · simp only [htail]
    exact ⟨Nat.lt_succ_of_lt (h.announced k hk).1, (h.announced k hk).2⟩

/-- An api task goes on. -/
theorem Coherent.setApi (h : σ.Coherent) {i : Nat} {task task' : ApiTask}
    (htask : σ.apis[i]? = some task) (hsame : task.running = task'.running) :
    { σ with apis := σ.apis.set i task' }.Coherent := by
  have hcount := countP_set_of (p := ApiTask.running) (b := task') htask
  rw [hsame, Nat.add_right_cancel_iff] at hcount
  refine { capacity := h.capacity, receivers := h.receivers, senders := ?_,
           complete := h.complete, phase := h.phase, attends := h.attends,
           announced := h.announced, completed := h.completed }
  simp only [hcount]
  exact h.senders

theorem Coherent.request (h : σ.Coherent) (i : Nat) (request : ApiRequest) :
    (σ.request H i request).Coherent := by
  unfold System.request
  split
  · next htask =>
    have hchannel : { σ with notifyShutdown :=
        (Api.dispatch H.config H.api request σ.notifyShutdown).2 }.Coherent := by
      rcases Api.dispatch_channel H.config H.api request σ.notifyShutdown with hsame | ⟨-, hsend⟩
      · rw [hsame]
        exact h
      · exact h.send hsend
    exact hchannel.setApi htask rfl
  · exact h

theorem Coherent.finishApi (h : σ.Coherent) (i : Nat) : (σ.finishApi i).Coherent := by
  unfold System.finishApi
  split
  · exact h
  · next task htask =>
    by_cases hrunning : task.running = true
    · rw [if_pos hrunning]
      have hcount := countP_set_of (p := ApiTask.running) (b := .done) htask
      have hsenders := h.senders
      have hdone : ApiTask.done.running = false := rfl
      simp only [hrunning, hdone, if_true, Bool.false_eq_true, if_false] at hcount
      refine { capacity := h.capacity, receivers := h.receivers, senders := ?_,
               complete := h.complete, phase := h.phase, attends := h.attends,
               announced := h.announced, completed := h.completed }
      show σ.notifyShutdown.senders - 1 = σ.held + _
      simp only
      omega
    · rw [if_neg hrunning]
      exact h

/-- The end of the channel leaves the receiver where it is. -/
theorem Coherent.poll (h : σ.Coherent) (i : Nat) (cut : Option Interruption) :
    (σ.poll H i cut).Coherent := by
  unfold System.poll
  split
  · exact h
  · next task htask =>
    split
    · exact h
    · next received next hrecv =>
      refine h.stepConnection htask
        ((h.attends task (List.mem_of_getElem? htask)).shutdown cut fun hclosed => ?_)
      rw [hclosed] at hrecv
      exact (Sync.Broadcast.recv_closed hrecv).2

theorem Coherent.connection (h : σ.Coherent) (i : Nat) (input : Input) :
    (σ.connection H i input).Coherent := by
  unfold System.connection
  split
  · exact h
  · next task htask =>
    exact h.stepConnection htask ((h.attends task (List.mem_of_getElem? htask)).connection input)

/-- `main` goes on, and has not sent anything or had already. -/
theorem Coherent.moveMain (h : σ.Coherent) (position : Nat) {main : Main}
    (hsame : main.announces = σ.main.announces)
    (hcompleted : main.completes = true → σ.connections.countP ConnectionTask.running = 0) :
    { σ with shutdownRx := position, main := main }.Coherent := by
  refine { capacity := h.capacity, receivers := h.receivers, senders := h.senders,
           complete := h.complete, phase := ?_, attends := h.attends,
           announced := h.announced, completed := hcompleted }
  simp only [hsame]
  exact h.phase

theorem Coherent.recv (h : σ.Coherent) (hmain : σ.main = .serving) : σ.recv.Coherent := by
  unfold System.recv
  split
  · exact h
  · next received next _ =>
    cases received with
    | value reason => exact h.moveMain next (by rw [hmain]; rfl) fun hc => by cases hc
    | lagged missed => exact h.moveMain next (by rw [hmain]; rfl) fun hc => by cases hc
    | closed => exact h.moveMain next (by rw [hmain]; rfl) fun hc => by cases hc

/-- `server.shutdown` sends, and the senders of the server are dropped. -/
theorem Coherent.announce (h : σ.Coherent) (hnone : σ.announced = none) (reason : String) :
    { σ with
      notifyShutdown := { σ.notifyShutdown with
        sent := σ.notifyShutdown.sent ++ [reason],
        senders := σ.notifyShutdown.senders - 1 },
      shutdownComplete := σ.shutdownComplete.dropSender,
      main := .completing, announced := some σ.notifyShutdown.tail }.Coherent := by
  have hheld := held_of_none hnone
  have hsenders := h.senders
  have hcomplete := h.complete
  have hlength : (σ.notifyShutdown.sent ++ [reason]).length = σ.notifyShutdown.tail + 1 :=
    List.length_append
  refine { capacity := h.capacity, receivers := h.receivers, senders := ?_, complete := ?_,
           phase := rfl, attends := fun task htask => ?_, announced := fun k hk => ?_,
           completed := fun hcompletes => ?_ }
  · show σ.notifyShutdown.senders - 1 = 0 + _
    simp only
    omega
  · show σ.shutdownComplete.senders - 1 = 0 + _
    simp only
    omega
  · refine (h.attends task htask).mono ?_
    simp only [Sync.Broadcast.tail, hlength]
    omega
  · cases hk
    refine ⟨?_, fun task htask => (h.attends task htask).subscribed⟩
    simp only [Sync.Broadcast.tail, hlength]
    omega
  · cases hcompletes

theorem Coherent.resume (h : σ.Coherent) : (σ.resume H).Coherent := by
  unfold System.resume
  split
  · next reason hmain =>
    rw [h.send_of]
    exact h.announce (h.unannounced (by rw [hmain]; rfl)) _
  · next hmain =>
    by_cases hclosed : σ.shutdownComplete.closed = true
    · rw [if_pos hclosed]
      refine h.moveMain σ.shutdownRx (by rw [hmain]; rfl) fun _ => ?_
      have hzero : σ.shutdownComplete.senders = 0 := by
        simpa [Sync.Mpsc.closed] using hclosed
      have hcomplete := h.complete
      omega
    · rw [if_neg hclosed]
      exact h
  · next hmain =>
    split
    · exact h
    · next received next _ =>
      exact h.moveMain next (by rw [hmain]; rfl) fun _ => h.completed (by rw [hmain]; rfl)
  · exact h

theorem Coherent.step (h : σ.Coherent) (event : Event) : (σ.step H event).Coherent := by
  unfold System.step
  split
  · exact h
  · next hmain => exact h.accept hmain _ _
  · exact h.acceptApi
  · next hmain => exact h.moveMain σ.shutdownRx (by rw [hmain]; rfl) fun hc => by cases hc
  · next hmain => exact h.recv hmain
  · exact h.request _ _
  · exact h.finishApi _
  · exact h.connection _ _
  · exact h.poll _ _
  · exact h.resume
  · exact h

end System

namespace Host

theorem run_snoc (H : Host) (events : List Event) (event : Event) :
    H.run (events ++ [event]) = (H.run events).step H event := by
  rw [run, List.foldl_append]
  rfl

theorem run_coherent (H : Host) (events : List Event) : (H.run events).Coherent :=
  List.foldlRecOn events _ System.coherent_start fun _ h event _ => h.step event

end Host

end Statik
