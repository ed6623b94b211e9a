import Statik.Server.Handlers

/-!
# The connection loop

`handle_connection` as a state machine.  A run alternates between draining the
read buffer, one frame at a time, and waiting for the next read or keepalive
tick.  What arrives from outside, and in which order, is the list of inputs.
-/

namespace Statik

open Wire

/-- Where the loop stands: before a call of `try_parse_packet`, at the `select!`,
or returned with an error. -/
inductive Phase where
  | draining
  | waiting
  | ended (e : Error)

namespace Phase

def isDraining : Phase → Bool
  | draining => true
  | _ => false

def isWaiting : Phase → Bool
  | waiting => true
  | _ => false

theorem eq_draining {phase : Phase} (h : phase.isDraining = true) : phase = .draining := by
  cases phase with
  | draining => rfl
  | _ => cases h

theorem eq_waiting {phase : Phase} (h : phase.isWaiting = true) : phase = .waiting := by
  cases phase with
  | waiting => rfl
  | _ => cases h

end Phase

/-- A connection under `handle_connection`.  `received` and `consumed` are ghost
state: the bytes read so far, and those each call of `try_parse_packet` that did
not fail took from the front of the buffer. -/
structure Machine where
  world : World
  phase : Phase
  nextKeepaliveId : BitVec 64
  received : Bytes
  consumed : List Bytes

namespace Machine

abbrev conn (m : Machine) : Connection := m.world.conn

abbrev state (m : Machine) : State := m.world.conn.state

abbrev history (m : Machine) : List Action := m.world.history

/-- A fresh connection on a socket that was sent nothing. -/
def start (config : ServerConfig) (protocol : ProtocolKind) (address : String)
    (fault : Nat → Option Fault) : Machine :=
  { world :=
      { conn := .new config protocol address,
        socket := { sent := [], writes := 0, fault := fault },
        history := [] },
    phase := .draining, nextKeepaliveId := 0, received := [], consumed := [] }

end Machine

/-- `advance` lets the drain loop make its next call.  `read` completes a read of
the socket, with no bytes at its end.  `tick` is a tick of the keepalive timer. -/
inductive Input where
  | advance
  | read (result : Except ErrorKind Bytes)
  | tick

/-- The phase after a handler: the loop goes on, or returns the handler's error. -/
def settle (next : Phase) : EStateM.Result Error World Unit → World × Phase
  | .ok _ world => (world, next)
  | .error e world => (world, .ended e)

def keepAlive (protocol : ProtocolKind) (id : BitVec 64) : S2CPacket :=
  match protocol with
  | .v1_20_1 => V1_20_1.keepAlive id
  | .v1_21_1 => V1_21_1.keepAlive id

namespace Machine

/-- The bytes `before` lost from its front to become `after`. -/
def taken (before after : Bytes) : List Bytes :=
  if before.length = after.length then [] else [before.take (before.length - after.length)]

/-- One round of the drain loop: `while let Some(packet) = self.try_parse_packet()?`. -/
def advance (env : Env) (m : Machine) : Machine :=
  match tryParsePacket env m.conn with
  | (.error e, conn) => { m with world := { m.world with conn := conn }, phase := .ended e }
  | (.ok none, conn) =>
    { m with world := { m.world with conn := conn }, phase := .waiting,
             consumed := m.consumed ++ taken m.conn.buffer conn.buffer }
  | (.ok (some packet), conn) =>
    let (world, phase) :=
      settle .draining (dispatchPacket env packet { m.world with conn := conn })
    { m with world := world, phase := phase,
             consumed := m.consumed ++ taken m.conn.buffer conn.buffer }

/-- The read branch of the `select!`. -/
def read (m : Machine) : Except ErrorKind Bytes → Machine
  | .error kind => { m with phase := .ended (.io kind) }
  | .ok [] => { m with phase := .ended (.io .unexpectedEof) }
  | .ok bytes =>
    { m with
        world := { m.world with conn := { m.conn with buffer := m.conn.buffer ++ bytes } },
        phase := .draining, received := m.received ++ bytes }

/-- The keepalive branch of the `select!`, which is only there in Play. -/
def tick (env : Env) (m : Machine) : Machine :=
  if m.state = .play then
    let (world, phase) :=
      settle .draining (writePacket env (keepAlive m.conn.protocol m.nextKeepaliveId) m.world)
    { m with world := world, phase := phase, nextKeepaliveId := m.nextKeepaliveId + 1 }
  else m

def step (env : Env) (m : Machine) (input : Input) : Machine :=
  match m.phase, input with
  | .draining, .advance => m.advance env
  | .waiting, .read result => m.read result
  | .waiting, .tick => m.tick env
  | _, _ => m

def exec (env : Env) (m : Machine) (inputs : List Input) : Machine := inputs.foldl (step env) m

theorem exec_append (env : Env) (m : Machine) (inputs later : List Input) :
    m.exec env (inputs ++ later) = (m.exec env inputs).exec env later := List.foldl_append

/-- The loop has not returned. -/
def Live (m : Machine) : Prop := ∀ e, m.phase ≠ .ended e

end Machine

/-- What stays the same over the life of a connection. -/
structure Setup where
  env : Env
  config : ServerConfig
  protocol : ProtocolKind
  address : String

def Connection.setup (env : Env) (conn : Connection) : Setup :=
  { env := env, config := conn.config, protocol := conn.protocol, address := conn.address }

/-- The connection after the inputs, on a socket that fails where `fault` says. -/
def Setup.run (S : Setup) (fault : Nat → Option Fault) (inputs : List Input) : Machine :=
  (Machine.start S.config S.protocol S.address fault).exec S.env inputs

theorem Setup.run_snoc (S : Setup) (fault : Nat → Option Fault) (inputs : List Input)
    (input : Input) :
    S.run fault (inputs ++ [input]) = (S.run fault inputs).step S.env input := by
  rw [run, Machine.exec, List.foldl_append]
  rfl

theorem Setup.run_append (S : Setup) (fault : Nat → Option Fault) (inputs later : List Input) :
    S.run fault (inputs ++ later) = (S.run fault inputs).exec S.env later :=
  Machine.exec_append S.env _ inputs later

/-- A server on its defaults, but for the compression, with libraries for runs in
which nothing is compressed or travels as JSON. -/
def Setup.bare (protocol : ProtocolKind) (compression : Bool) : Setup :=
  { env :=
      { serde := .plain,
        flate2 := { deflate := .ok, inflate := id, inflateError := fun _ => none },
        includeBytes := fun _ => [] },
    config :=
      { ServerConfig.default with compression := { enabled := compression, threshold := 256 } },
    protocol := protocol, address := "127.0.0.1:50000" }

/-- Its run on a socket that never fails. -/
abbrev Setup.bareRun (protocol : ProtocolKind) (compression : Bool) (inputs : List Input) :
    Machine :=
  (Setup.bare protocol compression).run (fun _ => none) inputs

end Statik
