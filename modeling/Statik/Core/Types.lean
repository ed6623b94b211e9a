import Statik.Core.Error

namespace Statik

/-- The connection state of the protocol. -/
inductive State where
  | handshake
  | status
  | login
  | configuration
  | play
  deriving DecidableEq, Repr

/-- The name `{:?}` prints. -/
def State.debug : State → String
  | .handshake => "Handshake"
  | .status => "Status"
  | .login => "Login"
  | .configuration => "Configuration"
  | .play => "Play"

/-- The `next_state` field of the handshake packet, which is not a `State`. -/
inductive ClientIntent where
  | status
  | login
  | transfer
  deriving DecidableEq, Repr

/-- A chat component as the server builds it: plain text. -/
structure Chat where
  text : String
  deriving DecidableEq, Repr

/-! ### The body of a status response -/

structure Version where
  name : String
  protocol : Nat
  deriving DecidableEq, Repr

structure PlayerSample where
  name : String
  id : BitVec 128
  deriving DecidableEq, Repr

structure Players where
  max : BitVec 32
  online : BitVec 32
  sample : List PlayerSample
  deriving DecidableEq, Repr

structure StatusResponse where
  version : Version
  players : Players
  description : Chat
  favicon : Option String
  enforcesSecureChat : Bool
  deriving DecidableEq, Repr

/-- `StatusResponse::new`, which turns the icon into a data URL. -/
def StatusResponse.new (versionName : String) (protocol : Nat) (players : Players)
    (description : Chat) (favicon : Option String) (enforcesSecureChat : Bool) :
    StatusResponse :=
  { version := { name := versionName, protocol := protocol },
    players := players,
    description := description,
    favicon := favicon.map fun data => s!"data:image/png;base64,{data}",
    enforcesSecureChat := enforcesSecureChat }

/-- `serde_json` on the two types that travel as JSON text.  An error is its text. -/
structure Serde where
  chatToString : Chat → String
  chatFromStr : String → Except String Chat
  statusToString : StatusResponse → String
  statusFromStr : String → Except String StatusResponse

/-- `serde_json` on chats whose text needs no escapes, for runs in which nothing
else travels as JSON. -/
def Serde.plain : Serde :=
  { chatToString := fun c => "\x7b\"text\":\"" ++ c.text ++ "\"\x7d",
    chatFromStr := fun _ => .error "expected value",
    statusToString := fun _ => "null",
    statusFromStr := fun _ => .error "expected value" }

/-- The JSON text of a status response of 1.20.1 with 20 places and no icon, up to
its description. -/
def statusJsonHead : String :=
  "\x7b\"version\":\x7b\"name\":\"1.20.1\",\"protocol\":763\x7d,\"players\":\x7b\"max\":20," ++
    "\"online\":0,\"sample\":[]\x7d,\"description\":"

/-- The whole text, for a description that needs no escapes. -/
def statusJson (text : String) : String :=
  statusJsonHead ++ "\x7b\"text\":\"" ++ text ++ "\"\x7d,\"enforcesSecureChat\":false\x7d"

end Statik
