import Statik.Server.Api
import Statik.Server.Handler

/-!
# The server and its tasks

`main` with its `select!`, the connection tasks and api tasks that `Server::run`
spawns, and the two channels between them.  Which of them goes on next is the list of
events.
-/

namespace Statik

/-- What stays the same while the server runs. -/
structure Host where
  env : Env
  config : ServerConfig
  protocol : ProtocolKind
  api : ApiConfig

/-- What `main` may return with, by `?`. -/
inductive MainError where
  | lagged (missed : Nat)
  | closed
  | noReceivers
  deriving DecidableEq, Repr

/-- Where `main` stands: at its `select!`; in `server.shutdown` with the reason; at
`_shutdown_complete_rx.recv()` and at `_shutdown_rx.recv()`, its own senders dropped;
or returned. -/
inductive Main where
  | serving
  | stopping (reason : Option String)
  | completing
  | closing
  | returned (result : Except MainError Unit)

/-- A spawned connection task.  Its handler, with a receiver and a sender, is dropped
when `run` has returned.  `subscribed` is ghost state: the position it subscribed at. -/
structure ConnectionTask where
  subscribed : Nat
  handler : HandlerRun

/-- A spawned api task, with a sender until it is done. -/
inductive ApiTask where
  | reading
  | responding (response : ApiResponse)
  | done

/-- `announced` is ghost state: the position of the value `server.shutdown` has sent. -/
structure System where
  notifyShutdown : Sync.Broadcast String
  shutdownComplete : Sync.Mpsc
  main : Main
  shutdownRx : Nat
  announced : Option Nat
  connections : List ConnectionTask
  apis : List ApiTask

/-- `accept` and `acceptApi` are branches of `Server::run`, and `signal` and `recv` the
other branches of the `select!` it is polled in.  `connection` and `poll` let a
connection task go on with its connection, or with its `Shutdown::recv`. -/
inductive Event where
  | accept (address : String) (fault : Nat → Option Fault)
  | acceptApi
  | request (i : Nat) (request : ApiRequest)
  | finishApi (i : Nat)
  | connection (i : Nat) (input : Input)
  | poll (i : Nat) (cut : Option Interruption)
  | signal
  | recv
  | resume

namespace ConnectionTask

def running (task : ConnectionTask) : Bool := task.handler.outcome.isNone

def step (env : Env) (task : ConnectionTask) (event : HandlerEvent) : ConnectionTask :=
  { task with handler := task.handler.step env event }

end ConnectionTask

def ApiTask.running : ApiTask → Bool
  | .done => false
  | _ => true

namespace System

/-- The channels as `main` makes them, and the server that owns their senders. -/
def start : System :=
  { notifyShutdown := .channel 1, shutdownComplete := { senders := 1 }, main := .serving,
    shutdownRx := 0, announced := none, connections := [], apis := [] }

/-- The handler of a task after an event, and the channels without it if it returned. -/
def stepConnection (env : Env) (σ : System) (i : Nat) (task : ConnectionTask)
    (event : HandlerEvent) : System :=
  let task' := task.step env event
  let σ' := { σ with connections := σ.connections.set i task' }
  if task.running && !task'.running then
    { σ' with notifyShutdown := σ.notifyShutdown.dropReceiver,
              shutdownComplete := σ.shutdownComplete.dropSender }
  else σ'

/-- A branch of `Server::run`. -/
def accept (H : Host) (σ : System) (address : String) (fault : Nat → Option Fault) : System :=
  let (notifyShutdown, next) := σ.notifyShutdown.subscribe
  let task :=
    { subscribed := next, handler := .start H.config H.protocol address fault next }
  { σ with notifyShutdown := notifyShutdown,
           shutdownComplete := σ.shutdownComplete.cloneSender,
           connections := σ.connections ++ [task] }

def acceptApi (σ : System) : System :=
  { σ with notifyShutdown := σ.notifyShutdown.cloneSender, apis := σ.apis ++ [.reading] }

def request (H : Host) (σ : System) (i : Nat) (request : ApiRequest) : System :=
  match σ.apis[i]? with
  | some .reading =>
    let (response, notifyShutdown) := Api.dispatch H.config H.api request σ.notifyShutdown
    { σ with notifyShutdown := notifyShutdown, apis := σ.apis.set i (.responding response) }
  | _ => σ

/-- An api task ends, with a request or without. -/
def finishApi (σ : System) (i : Nat) : System :=
  match σ.apis[i]? with
  | none => σ
  | some task =>
    if task.running then
      { σ with notifyShutdown := σ.notifyShutdown.dropSender, apis := σ.apis.set i .done }
    else σ

def connection (H : Host) (σ : System) (i : Nat) (input : Input) : System :=
  match σ.connections[i]? with
  | none => σ
  | some task => σ.stepConnection H.env i task (.connection input)

/-- The `Shutdown::recv` of a connection task, which may have to wait. -/
def poll (H : Host) (σ : System) (i : Nat) (cut : Option Interruption) : System :=
  match σ.connections[i]? with
  | none => σ
  | some task =>
    match σ.notifyShutdown.recv task.handler.shutdown.recv with
    | none => σ
    | some (received, next) => σ.stepConnection H.env i task (.shutdown received next cut)

/-- An OS signal. -/
def signal (σ : System) : System := { σ with main := .stopping none }

/-- `reason = _shutdown_rx.recv()`, and `reason?`. -/
def recv (σ : System) : System :=
  match σ.notifyShutdown.recv σ.shutdownRx with
  | none => σ
  | some (received, next) =>
    let σ := { σ with shutdownRx := next }
    match received with
    | .value reason => { σ with main := .stopping (some reason) }
    | .lagged missed => { σ with main := .returned (.error (.lagged missed)) }
    | .closed => { σ with main := .returned (.error .closed) }

/-- `main` after its `select!`. -/
def resume (H : Host) (σ : System) : System :=
  match σ.main with
  | .stopping reason =>
    -- `self.notify_shutdown.send(template)?`, and the server taken apart
    match σ.notifyShutdown.send (reason.getD H.api.disconnectMsg) with
    | none => { σ with main := .returned (.error .noReceivers) }
    | some notifyShutdown =>
      { σ with notifyShutdown := notifyShutdown.dropSender,
               shutdownComplete := σ.shutdownComplete.dropSender,
               main := .completing, announced := some σ.notifyShutdown.tail }
  | .completing => if σ.shutdownComplete.closed then { σ with main := .closing } else σ
  | .closing =>
    match σ.notifyShutdown.recv σ.shutdownRx with
    | none => σ
    | some (_, next) => { σ with shutdownRx := next, main := .returned (.ok ()) }
  | _ => σ

/-- When `main` has returned the process is over, and only at its `select!` is
`Server::run` polled. -/
def step (H : Host) (σ : System) (event : Event) : System :=
  match σ.main, event with
  | .returned _, _ => σ
  | .serving, .accept address fault => σ.accept H address fault
  | .serving, .acceptApi => σ.acceptApi
  | .serving, .signal => σ.signal
  | .serving, .recv => σ.recv
  | _, .request i request => σ.request H i request
  | _, .finishApi i => σ.finishApi i
  | _, .connection i input => σ.connection H i input
  | _, .poll i cut => σ.poll H i cut
  | _, .resume => σ.resume H
  | _, _ => σ

end System

/-- The server after the events. -/
def Host.run (H : Host) (events : List Event) : System :=
  events.foldl (System.step H) .start

end Statik
