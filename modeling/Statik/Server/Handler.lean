import Statik.Server.Loop
import Statik.Sync.Broadcast

/-!
# The handler of a connection

`Handler::run`: the connection loop beside the shutdown signal.
-/

namespace Statik

open Wire

/-- `Shutdown`.  The receiver is its position in the channel. -/
structure Shutdown where
  isShutdown : Bool
  recv : Nat
  deriving DecidableEq, Repr

/-- `Shutdown::recv` once the receiver completes. -/
def Shutdown.received (self : Shutdown) : Sync.Received String → Option String × Shutdown
  | .value reason => (some reason, { self with isShutdown := true })
  | .closed => (none, self)
  | .lagged _ => (none, { self with isShutdown := true })

/-- Where the future of `handle_connection` is dropped while it awaits a write: in
the step for the input, at the write of the number, after so many bytes. -/
structure Interruption where
  input : Input
  write : Nat
  delivered : Nat

/-- The connection when the future is dropped there, if the step gets there. -/
def Machine.interrupt (env : Env) (m : Machine) (cut : Interruption) : Option Machine :=
  let fault := fun i =>
    if i = cut.write then some ⟨.other, cut.delivered⟩ else m.world.socket.fault i
  let m' := { m with
    world := { m.world with socket := { m.world.socket with fault := fault } } }.step env cut.input
  if m.world.socket.writes ≤ cut.write ∧ m'.world.socket.writes = cut.write + 1 then
    some { m' with
      world := { m'.world with
        socket := { m'.world.socket with fault := m.world.socket.fault } } }
  else none

/-- A new call of `handle_connection`. -/
def Machine.restart (m : Machine) : Machine := { m with phase := .draining, nextKeepaliveId := 0 }

/-- A `Handler` under `run`, and what `run` returned.  An error stands for the one
whose text is made of it. -/
structure HandlerRun where
  machine : Machine
  shutdown : Shutdown
  outcome : Option (Except Error Unit)

/-- The two branches of the `select!`.  `connection` lets the connection loop go on.
`shutdown` completes the receiver, whose position is `next` then, while the connection
loop waits or is in the middle of a step. -/
inductive HandlerEvent where
  | connection (input : Input)
  | shutdown (received : Sync.Received String) (next : Nat) (cut : Option Interruption)

/-- What `run` returns when `handle_connection` returns the error. -/
def connectionEnded (e : Error) : Except Error Unit :=
  if e.isUnexpectedEof then .ok () else .error e

namespace HandlerRun

/-- `Handler::new` on a fresh connection. -/
def start (config : ServerConfig) (protocol : ProtocolKind) (address : String)
    (fault : Nat → Option Fault) (next : Nat) : HandlerRun :=
  { machine := .start config protocol address fault,
    shutdown := { isShutdown := false, recv := next }, outcome := none }

def step (env : Env) (h : HandlerRun) (event : HandlerEvent) : HandlerRun :=
  match h.outcome with
  | some _ => h
  | none =>
    match event with
    | .connection input =>
      let machine := h.machine.step env input
      match machine.phase with
      | .ended e => { h with machine := machine, outcome := some (connectionEnded e) }
      | _ => { h with machine := machine }
    | .shutdown received next cut =>
      match cut.elim (some h.machine) (h.machine.interrupt env) with
      | none => h
      | some machine =>
        let (_, shutdown) := { h.shutdown with recv := next }.received received
        if shutdown.isShutdown then
          { machine := machine, shutdown := shutdown, outcome := some (.ok ()) }
        else { machine := machine.restart, shutdown := shutdown, outcome := none }

end HandlerRun

/-- The handler of a fresh connection after the events. -/
def Setup.handle (S : Setup) (fault : Nat → Option Fault) (events : List HandlerEvent) :
    HandlerRun :=
  events.foldl (HandlerRun.step S.env) (.start S.config S.protocol S.address fault 0)

/-! ### Steps -/

namespace HandlerRun

variable {env : Env} {h : HandlerRun}

theorem step_returned {event : HandlerEvent} (h' : h.outcome ≠ none) : h.step env event = h := by
  unfold step
  split
  · rfl
  · next hnone => exact absurd hnone h'

theorem step_connection (input : Input) (hnone : h.outcome = none) :
    (∃ e, (h.machine.step env input).phase = .ended e ∧ h.step env (.connection input) =
      { h with machine := h.machine.step env input, outcome := some (connectionEnded e) }) ∨
    ((h.machine.step env input).Live ∧ h.step env (.connection input) =
      { h with machine := h.machine.step env input }) := by
  rw [step, hnone]
  cases hphase : (h.machine.step env input).phase with
  | ended e => exact .inl ⟨e, rfl, by simp only [hphase]⟩
  | draining => exact .inr ⟨(fun e he => by rw [hphase] at he; cases he), by simp only [hphase]⟩
  | waiting => exact .inr ⟨(fun e he => by rw [hphase] at he; cases he), by simp only [hphase]⟩

/-- The future of `handle_connection` is not dropped where it never gets. -/
theorem step_uncut {received : Sync.Received String} {next : Nat} {cut : Option Interruption}
    (hcut : cut.elim (some h.machine) (h.machine.interrupt env) = none) :
    h.step env (.shutdown received next cut) = h := by
  rw [step]
  split
  · rfl
  · simp only [hcut]

/-- A signal ends `run`, wherever the connection loop is. -/
theorem step_signal {received : Sync.Received String} {next : Nat} {cut : Option Interruption}
    (hnone : h.outcome = none) (hsignal : received ≠ .closed) {machine : Machine}
    (hcut : cut.elim (some h.machine) (h.machine.interrupt env) = some machine) :
    h.step env (.shutdown received next cut) =
      { machine := machine, shutdown := { isShutdown := true, recv := next },
        outcome := some (.ok ()) } := by
  rw [step, hnone]
  simp only [hcut]
  cases received with
  | value reason => rfl
  | lagged missed => rfl
  | closed => exact absurd rfl hsignal

/-- A signal ends `run`, and the channel's end starts the connection loop again. -/
theorem step_shutdown {received : Sync.Received String} {next : Nat} {cut : Option Interruption}
    (hnone : h.outcome = none) (hflag : h.shutdown.isShutdown = false) :
    h.step env (.shutdown received next cut) = h ∨
    (received ≠ .closed ∧
      (h.step env (.shutdown received next cut)).shutdown =
        { isShutdown := true, recv := next } ∧
      (h.step env (.shutdown received next cut)).outcome = some (.ok ())) ∨
    (received = .closed ∧
      (h.step env (.shutdown received next cut)).shutdown =
        { isShutdown := false, recv := next } ∧
      (h.step env (.shutdown received next cut)).outcome = none ∧
      (h.step env (.shutdown received next cut)).machine.phase = .draining) := by
  cases hcut : cut.elim (some h.machine) (h.machine.interrupt env) with
  | none => exact .inl (step_uncut hcut)
  | some machine =>
    by_cases hsignal : received = .closed
    · subst hsignal
      refine .inr (.inr ⟨rfl, ?_⟩)
      rw [step, hnone]
      simp only [hcut, Shutdown.received, hflag]
      exact ⟨rfl, rfl, rfl⟩
    · rw [step_signal hnone hsignal hcut]
      exact .inr (.inl ⟨hsignal, rfl, rfl⟩)

theorem outcome_of_step {event : HandlerEvent} (h' : (h.step env event).outcome = none) :
    h.outcome = none := by
  by_contra hsome
  rw [step_returned hsome] at h'
  exact hsome h'

/-- What holds of a handler until `run` returns. -/
structure Waits (h : HandlerRun) : Prop where
  live : h.outcome = none → h.machine.Live
  flag : h.outcome = none → h.shutdown.isShutdown = false

theorem Waits.step (hwaits : h.Waits) (event : HandlerEvent) : (h.step env event).Waits := by
  by_cases hnone : h.outcome = none
  · cases event with
    | connection input =>
      rcases h.step_connection input hnone with ⟨e, -, hstep⟩ | ⟨hlive, hstep⟩
      · rw [hstep]
        refine { live := fun hnone' => ?_, flag := fun hnone' => ?_ } <;> cases hnone'
      · rw [hstep]
        exact { live := fun _ => hlive, flag := hwaits.flag }
    | shutdown received next cut =>
      rcases h.step_shutdown hnone (hwaits.flag hnone) with hsame | ⟨-, -, hok⟩ |
        ⟨-, hshutdown, -, hphase⟩
      · rw [hsame]
        exact hwaits
      · refine { live := fun hnone' => ?_, flag := fun hnone' => ?_ }
        · rw [hok] at hnone'
          cases hnone'
        · rw [hok] at hnone'
          cases hnone'
      · refine { live := fun _ e he => ?_, flag := fun _ => by rw [hshutdown] }
        rw [hphase] at he
        cases he
  · rw [step_returned hnone]
    exact hwaits

end HandlerRun

namespace Setup

theorem handle_snoc (S : Setup) (fault : Nat → Option Fault) (events : List HandlerEvent)
    (event : HandlerEvent) :
    S.handle fault (events ++ [event]) = (S.handle fault events).step S.env event := by
  rw [handle, List.foldl_append]
  rfl

theorem handle_waits (S : Setup) (fault : Nat → Option Fault) (events : List HandlerEvent) :
    (S.handle fault events).Waits := by
  refine List.foldlRecOn events _ ?_ fun h hwaits event _ => hwaits.step event
  refine { live := fun _ e he => ?_, flag := fun _ => rfl }
  cases he

end Setup

end Statik
