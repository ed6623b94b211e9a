import Statik.Server.Config
import Statik.Sync.Broadcast

/-!
# The management api

`api::dispatch`: who may ask what, and the shutdown request.
-/

namespace Statik

structure ApiRequest where
  action : String
  token : Option String
  reason : Option String
  deriving DecidableEq, Repr

structure ApiStatus where
  mcPort : BitVec 16
  motd : String
  maxPlayers : BitVec 32
  hidden : Bool
  deriving DecidableEq, Repr

structure ApiResponse where
  ok : Bool
  error : Option String
  pong : Option Bool
  status : Option ApiStatus
  deriving DecidableEq, Repr

/-- `ApiResponse::ok`. -/
def ApiResponse.success : ApiResponse := { ok := true, error := none, pong := none, status := none }

/-- `ApiResponse::err`. -/
def ApiResponse.err (message : String) : ApiResponse :=
  { ok := false, error := some message, pong := none, status := none }

/-- What `dispatch` and `Server::shutdown` read of the configuration beside the fields
of `ServerConfig`. -/
structure ApiConfig where
  token : Option String
  mcPort : BitVec 16
  hidden : Bool
  disconnectMsg : String

namespace Api

/-- `dispatch`, and the channel `notify_shutdown` afterwards. -/
def dispatch (config : ServerConfig) (api : ApiConfig) (request : ApiRequest)
    (notifyShutdown : Sync.Broadcast String) : ApiResponse × Sync.Broadcast String :=
  if api.token.any fun expected => request.token ≠ some expected then
    (.err "unauthorized", notifyShutdown)
  else
    match request.action with
    | "ping" => ({ ok := true, error := none, pong := some true, status := none }, notifyShutdown)
    | "status" =>
      ({ ok := true, error := none, pong := none,
         status := some
          { mcPort := api.mcPort, motd := config.mc.motd, maxPlayers := config.mc.maxPlayers,
            hidden := api.hidden } }, notifyShutdown)
    | "shutdown" =>
      if api.token.isNone then
        (.err "api.token not configured; shutdown disabled for safety", notifyShutdown)
      else
        match notifyShutdown.send (request.reason.getD api.disconnectMsg) with
        | some notifyShutdown => (.success, notifyShutdown)
        | none => (.err "failed to send shutdown: channel closed", notifyShutdown)
    | other => (.err s!"unknown action: {other}", notifyShutdown)

/-- A shutdown request with the configured token. -/
def Authorised (api : ApiConfig) (request : ApiRequest) : Prop :=
  request.action = "shutdown" ∧ api.token ≠ none ∧ request.token = api.token

/-- All a request can do to the channel is to send on it, if it is authorised. -/
theorem dispatch_channel (config : ServerConfig) (api : ApiConfig) (request : ApiRequest)
    (c : Sync.Broadcast String) :
    (dispatch config api request c).2 = c ∨
      Authorised api request ∧
        c.send (request.reason.getD api.disconnectMsg) = some (dispatch config api request c).2 := by
  unfold dispatch
  by_cases hunauthorised : api.token.any (fun expected => request.token ≠ some expected) = true
  · rw [if_pos hunauthorised]
    exact .inl rfl
  · rw [if_neg hunauthorised]
    split
    · exact .inl rfl
    · exact .inl rfl
    · next haction =>
      cases htoken : api.token with
      | none => exact .inl rfl
      | some expected =>
        have hmatch : request.token = some expected := by
          simpa [htoken] using hunauthorised
        cases hsend : c.send (request.reason.getD api.disconnectMsg) with
        | none => exact .inl rfl
        | some c' =>
          refine .inr ⟨⟨haction, by simp [htoken], by rw [hmatch, htoken]⟩, ?_⟩
          rfl
    · exact .inl rfl

end Api

end Statik
