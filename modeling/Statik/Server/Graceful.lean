import Statik.Server.Shutdown

/-!
# The graceful path

How `main` leaves its `select!`, and what the connection tasks see of it.
-/

namespace Statik

namespace System

variable {σ : System} {H : Host}

/-! ### How `main` leaves its `select!` -/

/-- `main` is at its `select!` or on the graceful path: the broadcast of the reason
succeeds, and behind `_shutdown_complete_rx.recv()` no handler has its sender. -/
def Graceful (H : Host) (σ : System) : Prop :=
  match σ.main with
  | .serving => True
  | .stopping reason =>
    σ.notifyShutdown.send (reason.getD H.api.disconnectMsg) ≠ none
  | .completing => σ.announced ≠ none
  | .closing | .returned (.ok _) =>
    σ.announced ≠ none ∧ σ.shutdownComplete.senders = 0 ∧
      ∀ task ∈ σ.connections, task.handler.outcome ≠ none
  | .returned (.error _) => False

/-- The number of values on the channel that `main` has not received. -/
def unread (σ : System) : Nat := σ.notifyShutdown.tail - σ.shutdownRx

def Failed (σ : System) : Prop := ∃ e, σ.main = .returned (.error e)

theorem Coherent.announced_ne_none (h : σ.Coherent) (hmain : σ.main.announces = true) :
    σ.announced ≠ none := by
  have hphase := h.phase
  rw [hmain] at hphase
  exact Option.isSome_iff_ne_none.mp hphase

/-- Behind `_shutdown_complete_rx.recv()`. -/
theorem Coherent.waited (h : σ.Coherent) (hmain : σ.main.completes = true) :
    σ.announced ≠ none ∧ σ.shutdownComplete.senders = 0 ∧
      ∀ task ∈ σ.connections, task.handler.outcome ≠ none := by
  have hcompleted := h.completed hmain
  have hannounced := h.announced_ne_none (Main.announces_of_completes hmain)
  refine ⟨hannounced, ?_, fun task htask hnone => ?_⟩
  · obtain ⟨k, hk⟩ := Option.ne_none_iff_exists'.mp hannounced
    have hheld := held_of_some hk
    have hcomplete := h.complete
    omega
  · have hpos : 0 < σ.connections.countP ConnectionTask.running :=
      List.countP_pos_iff.mpr ⟨task, htask, ConnectionTask.running_iff.mpr hnone⟩
    omega

theorem Coherent.graceful_iff (h : σ.Coherent) : σ.Graceful H ↔ ¬ σ.Failed := by
  unfold Graceful Failed
  cases hmain : σ.main with
  | serving => simp
  | stopping reason => simp [h.send_of]
  | completing => simpa using h.announced_ne_none (by rw [hmain]; rfl)
  | closing => simpa using h.waited (by rw [hmain]; rfl)
  | returned result =>
    cases result with
    | error e => simp
    | ok u => simpa using h.waited (by rw [hmain]; rfl)

@[simp] theorem main_stepConnection (env : Env) (i : Nat) (task : ConnectionTask)
    (event : HandlerEvent) : (σ.stepConnection env i task event).main = σ.main := by
  unfold stepConnection
  simp only
  split <;> rfl

@[simp] theorem main_request (i : Nat) (request : ApiRequest) :
    (σ.request H i request).main = σ.main := by
  unfold System.request
  split <;> rfl

@[simp] theorem main_finishApi (i : Nat) : (σ.finishApi i).main = σ.main := by
  unfold finishApi
  split
  · rfl
  · split <;> rfl

@[simp] theorem main_connection (i : Nat) (input : Input) :
    (σ.connection H i input).main = σ.main := by
  unfold connection
  split
  · rfl
  · exact main_stepConnection ..

@[simp] theorem main_poll (i : Nat) (cut : Option Interruption) :
    (σ.poll H i cut).main = σ.main := by
  unfold poll
  split
  · rfl
  · split
    · rfl
    · exact main_stepConnection ..

theorem failed_congr {σ' : System} (h : σ'.main = σ.main) : σ'.Failed ↔ σ.Failed := by
  rw [Failed, h, Failed]

/-- Until `server.shutdown` the server itself has a sender. -/
theorem Coherent.sender (h : σ.Coherent) (hnone : σ.announced = none) :
    0 < σ.notifyShutdown.senders := by
  have hheld := held_of_none hnone
  have hsenders := h.senders
  omega

/-- `main` receives `Lagged` when it missed a value, and `Closed` never. -/
theorem Coherent.recv_failed_iff (h : σ.Coherent) (hmain : σ.main = .serving) :
    σ.recv.Failed ↔ 1 < σ.unread := by
  have hlagged : (∃ missed next,
      σ.notifyShutdown.recv σ.shutdownRx = some (.lagged missed, next)) ↔
        σ.shutdownRx + σ.notifyShutdown.capacity < σ.notifyShutdown.tail :=
    Sync.Broadcast.recv_lagged_iff
  rw [h.capacity] at hlagged
  have hunread : 1 < σ.unread ↔ σ.shutdownRx + 1 < σ.notifyShutdown.tail := by
    unfold unread
    omega
  rw [hunread, ← hlagged]
  have hsender := h.sender (h.unannounced (by rw [hmain]; rfl))
  unfold System.recv Failed
  split
  · next hrecv =>
    simp only [hmain, hrecv, reduceCtorEq, exists_false]
  · next received next hrecv =>
    cases received with
    | value reason =>
      simp only [hrecv, Option.some.injEq, Prod.mk.injEq, reduceCtorEq, false_and, exists_false]
    | lagged missed =>
      exact ⟨fun _ => ⟨missed, next, hrecv⟩, fun _ => ⟨.lagged missed, rfl⟩⟩
    | closed =>
      have := (Sync.Broadcast.recv_closed hrecv).1
      omega

theorem Coherent.resume_not_failed (h : σ.Coherent) (hnot : ¬ σ.Failed) :
    ¬ (σ.resume H).Failed := by
  unfold System.resume
  split
  · rw [h.send_of]
    rintro ⟨e, he⟩
    cases he
  · split
    · rintro ⟨e, he⟩
      cases he
    · exact hnot
  · split
    · exact hnot
    · rintro ⟨e, he⟩
      cases he
  · exact hnot

/-- What makes `main` fail is a second value sent before it receives the first. -/
theorem Coherent.step_failed_iff (h : σ.Coherent) (hnot : ¬ σ.Failed) (event : Event) :
    (σ.step H event).Failed ↔ event = .recv ∧ σ.main = .serving ∧ 1 < σ.unread := by
  have hother : ∀ {σ' : System}, ¬ σ'.Failed → event ≠ .recv →
      (σ'.Failed ↔ event = .recv ∧ σ.main = .serving ∧ 1 < σ.unread) :=
    fun hfailed hne => ⟨fun hf => absurd hf hfailed, fun hrecv => absurd hrecv.1 hne⟩
  unfold System.step
  split
  · next result hmain =>
    refine ⟨fun hf => absurd hf hnot, fun hrecv => ?_⟩
    rw [hmain] at hrecv
    cases hrecv.2.1
  · next hmain => exact hother hnot (by simp)
  · next hmain => exact hother hnot (by simp)
  · next hmain => exact hother (fun ⟨e, he⟩ => by cases he) (by simp)
  · next hmain => rw [h.recv_failed_iff hmain]; simp [hmain]
  · exact hother (mt (failed_congr (main_request _ _)).mp hnot) (by simp)
  · exact hother (mt (failed_congr (main_finishApi _)).mp hnot) (by simp)
  · exact hother (mt (failed_congr (main_connection _ _)).mp hnot) (by simp)
  · exact hother (mt (failed_congr (main_poll _ _)).mp hnot) (by simp)
  · exact hother (h.resume_not_failed hnot) (by simp)
  · next hserving =>
    exact ⟨fun hf => absurd hf hnot, fun hrecv => absurd hrecv.1 (hserving hrecv.2.1)⟩

end System

namespace Host

theorem run_not_failed (H : Host) {events : List Event}
    (h : ∀ pre, pre ++ [.recv] <+: events → (H.run pre).main = .serving →
      (H.run pre).unread ≤ 1) : ¬ (H.run events).Failed := by
  induction events using List.reverseRecOn with
  | nil =>
    rintro ⟨e, he⟩
    cases he
  | append_singleton events event ih =>
    have hnot := ih fun pre hpre => h pre (hpre.trans (List.prefix_append _ _))
    rw [run_snoc, (H.run_coherent events).step_failed_iff hnot event]
    rintro ⟨rfl, hserving, hunread⟩
    have := h events List.prefix_rfl hserving
    omega

theorem run_graceful_iff (H : Host) (events : List Event) :
    (∀ pre, pre <+: events → (H.run pre).Graceful H) ↔
      ∀ pre, pre ++ [.recv] <+: events → (H.run pre).main = .serving →
        (H.run pre).unread ≤ 1 := by
  constructor
  · intro h pre hpre hserving
    have hnot := (H.run_coherent pre).graceful_iff.mp
      (h pre ((List.prefix_append _ _).trans hpre))
    have hnot' := (H.run_coherent _).graceful_iff.mp (h _ hpre)
    by_contra hunread
    rw [run_snoc, (H.run_coherent pre).step_failed_iff hnot .recv] at hnot'
    exact hnot' ⟨rfl, hserving, Nat.lt_of_not_le hunread⟩
  · intro h pre hpre
    rw [(H.run_coherent pre).graceful_iff]
    exact H.run_not_failed fun before hbefore => h before (hbefore.trans hpre)

/-- A server with a token, and two requests before `main` goes on. -/
def bare : Host :=
  { env := (Setup.bare .v1_20_1 false).env, config := .default, protocol := .v1_20_1,
    api := { token := some "token", mcPort := 25565, hidden := false,
             disconnectMsg := "Disconnected from the server." } }

def twoRequests : List Event :=
  let request : ApiRequest := { action := "shutdown", token := some "token", reason := none }
  [.accept "127.0.0.1:50000" (fun _ => none), .acceptApi, .acceptApi, .request 0 request,
   .request 1 request, .recv]

theorem twoRequests_not_graceful :
    ¬ ∀ pre, pre <+: twoRequests → (bare.run pre).Graceful bare := by
  intro h
  have hfailed : (bare.run twoRequests).main = .returned (.error (.lagged 1)) := by rfl
  have hgraceful := h twoRequests List.prefix_rfl
  rw [System.Graceful, hfailed] at hgraceful
  exact hgraceful

end Host

/-! ### What the connection tasks see -/

/-- `Handler::run` has left its loop for the signal. -/
def ConnectionTask.Signalled (task : ConnectionTask) : Prop :=
  task.handler.shutdown.isShutdown = true ∧ task.handler.outcome = some (.ok ())

/-- The future of `handle_connection` may be dropped there: between two steps or at a
write that it gets to. -/
def ConnectionTask.Cuts (env : Env) (task : ConnectionTask) (cut : Option Interruption) : Prop :=
  ∀ interruption, cut = some interruption → task.handler.machine.interrupt env interruption ≠ none

theorem ConnectionTask.signalled {env : Env} {task : ConnectionTask}
    (hnone : task.handler.outcome = none) {cut : Option Interruption} (hcuts : task.Cuts env cut)
    {received : Sync.Received String} (hsignal : received ≠ .closed) (next : Nat) :
    (task.step env (.shutdown received next cut)).Signalled := by
  obtain ⟨machine, hmachine⟩ : ∃ machine,
      cut.elim (some task.handler.machine) (task.handler.machine.interrupt env) =
        some machine := by
    cases cut with
    | none => exact ⟨_, rfl⟩
    | some interruption => exact Option.ne_none_iff_exists'.mp (hcuts interruption rfl)
  show (task.handler.step env _).shutdown.isShutdown = true ∧ (task.handler.step env _).outcome = _
  rw [HandlerRun.step_signal hnone hsignal hmachine]
  exact ⟨rfl, rfl⟩

namespace System

variable {σ : System} {H : Host}

/-- The signal and the connection task `i`, whose handler is running: it has received
nothing so far, its next `Shutdown::recv` completes with a value or as `Lagged`, and
with that `run` returns. -/
structure Reaches (H : Host) (σ : System) (i : Nat) (task : ConnectionTask) : Prop where
  waits : task.handler.shutdown = { isShutdown := false, recv := task.subscribed }
  ready : ∃ received next,
    σ.notifyShutdown.recv task.handler.shutdown.recv = some (received, next) ∧ received ≠ .closed
  leaves : ∀ cut, task.Cuts H.env cut →
    ∃ task', (σ.step H (.poll i cut)).connections[i]? = some task' ∧ task'.Signalled

/-- What `server.shutdown` means for the connection tasks: all of them subscribed
before its value, those that still run are reached, and `main` goes on from
`_shutdown_complete_rx.recv()` without any. -/
structure Notifies (H : Host) (σ : System) : Prop where
  subscribed : ∀ k, σ.announced = some k →
    k < σ.notifyShutdown.tail ∧ ∀ task ∈ σ.connections, task.subscribed ≤ k
  reaches : σ.announced ≠ none → ∀ i task, σ.connections[i]? = some task →
    task.handler.outcome = none → σ.Reaches H i task
  closed : ∀ task ∈ σ.connections, task.handler.outcome = none → ∀ next,
    σ.notifyShutdown.recv task.handler.shutdown.recv ≠ some (.closed, next)
  waited : σ.main = .closing ∨ σ.main = .returned (.ok ()) →
    σ.shutdownComplete.senders = 0 ∧ ∀ task ∈ σ.connections, task.handler.outcome ≠ none

@[simp] theorem connections_stepConnection (env : Env) (i : Nat) (task : ConnectionTask)
    (event : HandlerEvent) : (σ.stepConnection env i task event).connections =
      σ.connections.set i (task.step env event) := by
  unfold stepConnection
  simp only
  split <;> rfl

/-- Its position is that of the value of `server.shutdown` or before. -/
theorem Coherent.unread_of_running (h : σ.Coherent) {k : Nat} (hk : σ.announced = some k)
    {task : ConnectionTask} (htask : task ∈ σ.connections)
    (hnone : task.handler.outcome = none) :
    task.handler.shutdown.recv < σ.notifyShutdown.tail := by
  have hposition := (h.attends task htask).position (ConnectionTask.running_iff.mpr hnone)
  obtain ⟨hsent, hsubscribed⟩ := h.announced k hk
  rw [hposition]
  exact Nat.lt_of_le_of_lt (hsubscribed task htask) hsent

/-- `main` waits for the task. -/
theorem Coherent.completing_of_running (h : σ.Coherent) (hannounced : σ.announced ≠ none)
    {task : ConnectionTask} (htask : task ∈ σ.connections)
    (hnone : task.handler.outcome = none) : σ.main = .completing := by
  have hannounces : σ.main.announces = true := by
    rw [← h.phase]
    exact Option.isSome_iff_ne_none.mpr hannounced
  have hincomplete : ¬ σ.main.completes = true := fun hcompletes =>
    (h.waited hcompletes).2.2 task htask hnone
  cases hmain : σ.main with
  | serving => simp [hmain, Main.announces] at hannounces
  | stopping reason => simp [hmain, Main.announces] at hannounces
  | completing => rfl
  | closing => simp [hmain, Main.completes] at hincomplete
  | returned result =>
    cases result with
    | error e => simp [hmain, Main.announces] at hannounces
    | ok u => simp [hmain, Main.completes] at hincomplete

theorem Coherent.reaches (h : σ.Coherent) (hannounced : σ.announced ≠ none) {i : Nat}
    {task : ConnectionTask} (htask : σ.connections[i]? = some task)
    (hnone : task.handler.outcome = none) : σ.Reaches H i task := by
  have hmem : task ∈ σ.connections := List.mem_of_getElem? htask
  have hattends := h.attends task hmem
  obtain ⟨k, hk⟩ := Option.ne_none_iff_exists'.mp hannounced
  obtain ⟨received, next, hrecv, hsignal⟩ :=
    Sync.Broadcast.recv_unread (h.unread_of_running hk hmem hnone)
  have hmain := h.completing_of_running hannounced hmem hnone
  refine { waits := ?_, ready := ⟨received, next, hrecv, hsignal⟩, leaves := fun cut hcuts => ?_ }
  · rw [← hattends.position (ConnectionTask.running_iff.mpr hnone),
      ← hattends.waits.flag hnone]
  · refine ⟨task.step H.env (.shutdown received next cut), ?_,
      ConnectionTask.signalled hnone hcuts hsignal next⟩
    have hpoll : σ.step H (.poll i cut) =
        σ.stepConnection H.env i task (.shutdown received next cut) := by
      unfold System.step
      simp only [hmain, System.poll, htask, hrecv]
    rw [hpoll, connections_stepConnection]
    exact List.getElem?_set_self (List.getElem?_eq_some_iff.mp htask).1

/-- Until `server.shutdown` there is a sender, and then a value to read. -/
theorem Coherent.not_closed (h : σ.Coherent) {task : ConnectionTask} (htask : task ∈ σ.connections)
    (hnone : task.handler.outcome = none) (next : Nat) :
    σ.notifyShutdown.recv task.handler.shutdown.recv ≠ some (.closed, next) := by
  intro hclosed
  cases hannounced : σ.announced with
  | none =>
    have hsender := h.sender hannounced
    have hdropped := (Sync.Broadcast.recv_closed hclosed).1
    omega
  | some k =>
    obtain ⟨received, next', hrecv, hsignal⟩ :=
      Sync.Broadcast.recv_unread (h.unread_of_running hannounced htask hnone)
    rw [hrecv] at hclosed
    cases hclosed
    exact hsignal rfl

theorem Coherent.notifies (h : σ.Coherent) : σ.Notifies H := by
  refine { subscribed := h.announced,
           reaches := fun hannounced i task htask hnone => h.reaches hannounced htask hnone,
           closed := fun task htask hnone => h.not_closed htask hnone,
           waited := fun hmain => ?_ }
  have hcompletes : σ.main.completes = true := by
    rcases hmain with hmain | hmain <;> rw [hmain] <;> rfl
  exact (h.waited hcompletes).2

end System

/-- No accepted connection misses the shutdown. -/
theorem Host.run_notifies (H : Host) (events : List Event) : (H.run events).Notifies H :=
  (H.run_coherent events).notifies

end Statik
