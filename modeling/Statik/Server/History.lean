import Statik.Server.Connection

/-!
# Histories

What the recorded actions of a connection say about its state.
-/

namespace Statik

open Wire

def Action.applyState (state : State) : Action → State
  | .did (.enter state') => state'
  | _ => state

def Action.applyThreshold (threshold : Option (BitVec 32)) : Action → Option (BitVec 32)
  | .did (.compress threshold') => some threshold'
  | _ => threshold

/-- The state the actions lead to from `state`. -/
def stateFrom (state : State) (actions : List Action) : State :=
  actions.foldl Action.applyState state

/-- The compression threshold the actions lead to from `threshold`. -/
def thresholdFrom (threshold : Option (BitVec 32)) (actions : List Action) :
    Option (BitVec 32) :=
  actions.foldl Action.applyThreshold threshold

/-- The state of a connection with the history. -/
def stateAfter (history : List Action) : State := stateFrom .handshake history

/-- The compression threshold of a connection with the history. -/
def thresholdAfter (history : List Action) : Option (BitVec 32) := thresholdFrom none history

/-- The effect an action was, or tried to be. -/
def Action.effect : Action → Option Effect
  | .received _ => none
  | .did effect => some effect
  | .failed packet => some (.send packet)

/-- An action that was performed, and is of the kind. -/
def Action.performs (kind : Effect → Bool) : Action → Bool
  | .did effect => kind effect
  | _ => false

/-- The state an effect enters. -/
def Effect.enters : Effect → Option State
  | .enter state => some state
  | _ => none

theorem Action.performs_eq {kind : Effect → Bool} {action : Action}
    (h : action.performs kind = true) : ∃ effect, action = .did effect ∧ kind effect = true := by
  cases action with
  | did effect => exact ⟨effect, rfl, h⟩
  | _ => cases h

@[simp] theorem stateFrom_nil (state : State) : stateFrom state [] = state := rfl

@[simp] theorem stateFrom_cons (state : State) (action : Action) (actions : List Action) :
    stateFrom state (action :: actions) = stateFrom (action.applyState state) actions := rfl

@[simp] theorem stateFrom_append (state : State) (actions actions' : List Action) :
    stateFrom state (actions ++ actions') = stateFrom (stateFrom state actions) actions' :=
  List.foldl_append

@[simp] theorem stateAfter_append (history actions : List Action) :
    stateAfter (history ++ actions) = stateFrom (stateAfter history) actions :=
  List.foldl_append

@[simp] theorem thresholdFrom_nil (threshold : Option (BitVec 32)) :
    thresholdFrom threshold [] = threshold := rfl

@[simp] theorem thresholdFrom_cons (threshold : Option (BitVec 32)) (action : Action)
    (actions : List Action) :
    thresholdFrom threshold (action :: actions) =
      thresholdFrom (action.applyThreshold threshold) actions := rfl

@[simp] theorem thresholdFrom_append (threshold : Option (BitVec 32))
    (actions actions' : List Action) :
    thresholdFrom threshold (actions ++ actions') =
      thresholdFrom (thresholdFrom threshold actions) actions' :=
  List.foldl_append

@[simp] theorem thresholdAfter_append (history actions : List Action) :
    thresholdAfter (history ++ actions) = thresholdFrom (thresholdAfter history) actions :=
  List.foldl_append

theorem filterMap_enter (state : State) (effects : List Effect) :
    (Effect.enter state :: effects).filterMap Effect.enters =
      state :: effects.filterMap Effect.enters := rfl

/-- Effects lead to the last state they enter. -/
theorem stateFrom_did (state : State) (effects : List Effect) :
    stateFrom state (effects.map .did) =
      ((effects.filterMap Effect.enters).getLast?).getD state := by
  induction effects generalizing state with
  | nil => rfl
  | cons effect effects ih =>
    cases effect with
    | send packet => exact ih state
    | compress threshold => exact ih state
    | enter next =>
      rw [List.map_cons, stateFrom_cons, ih, filterMap_enter, List.getLast?_cons]
      rfl

theorem received_not_mem_did (effects : List Effect) (packet : DecodedC2S) :
    Action.received packet ∉ effects.map Action.did := by
  intro h
  obtain ⟨effect, -, heq⟩ := List.mem_map.mp h
  cases heq

theorem received_not_mem_cut (effects : List Effect) (failing : S2CPacket) (packet : DecodedC2S) :
    Action.received packet ∉ effects.map Action.did ++ [.failed failing] := by
  simp

/-- An element of a concatenation lies in the first list or in the second. -/
theorem append_eq_append_cons {α : Type} {xs ys pre post : List α} {a : α}
    (h : xs ++ ys = pre ++ a :: post) :
    (∃ mid, xs = pre ++ a :: mid ∧ post = mid ++ ys) ∨
      ∃ mid, pre = xs ++ mid ∧ ys = mid ++ a :: post := by
  rcases List.append_eq_append_iff.mp h with ⟨mid, hpre, hys⟩ | ⟨mid, hxs, hpost⟩
  · exact .inr ⟨mid, hpre, hys⟩
  · cases mid with
    | nil => exact .inr ⟨[], by rw [hxs, List.append_nil, List.append_nil], hpost.symm⟩
    | cons b mid =>
      obtain ⟨rfl, rfl⟩ := List.cons.inj hpost
      exact .inl ⟨mid, hxs, rfl⟩

theorem split_at {α : Type} {l : List α} {i : Nat} {p : α → Bool} (h : l[i]?.any p = true) :
    ∃ a, p a = true ∧ l = l.take i ++ a :: l.drop (i + 1) := by
  obtain ⟨a, hget, ha⟩ := (Option.any_eq_true _ _).mp h
  obtain ⟨hi, rfl⟩ := List.getElem?_eq_some_iff.mp hget
  exact ⟨_, ha, by rw [List.getElem_cons_drop, List.take_append_drop]⟩

theorem singleton_eq_append_cons {α : Type} {x a : α} {mid post : List α}
    (h : [x] = mid ++ a :: post) : mid = [] ∧ x = a := by
  rcases List.append_eq_singleton_iff.mp h.symm with ⟨hmid, ha⟩ | ⟨-, ha⟩
  · exact ⟨hmid, (List.cons.inj ha).1.symm⟩
  · cases ha

/-- The packet at the head of a block is the only one in it. -/
theorem block_at_received {packet packet' : DecodedC2S} {tail mid post : List Action}
    (htail : ∀ p, Action.received p ∉ tail)
    (h : .received packet :: tail = mid ++ .received packet' :: post) :
    mid = [] ∧ packet = packet' ∧ tail = post := by
  cases mid with
  | nil =>
    obtain ⟨hp, rfl⟩ := List.cons.inj h
    exact ⟨rfl, Action.received.inj hp, rfl⟩
  | cons a mid =>
    rw [List.cons_append] at h
    have hmem : Action.received packet' ∈ mid ++ .received packet' :: post := by simp
    rw [← (List.cons.inj h).2] at hmem
    exact absurd hmem (htail packet')

/-- An effect in a block is one of those the packet at its head led to. -/
theorem block_at_effect {packet : DecodedC2S} {effects : List Effect} {mid post : List Action}
    {a : Action} {effect : Effect} (ha : a.effect = some effect)
    (h : .received packet :: effects.map .did = mid ++ a :: post) :
    ∃ before after, effects = before ++ effect :: after ∧
      mid = .received packet :: before.map .did := by
  cases mid with
  | nil =>
    obtain ⟨rfl, -⟩ := List.cons.inj h
    exact absurd ha (by simp [Action.effect])
  | cons b mid =>
    rw [List.cons_append] at h
    obtain ⟨rfl, htail⟩ := List.cons.inj h
    obtain ⟨before, rest, rfl, rfl, hrest⟩ := List.map_eq_append_iff.mp htail
    obtain ⟨effect', after, rfl, rfl, -⟩ := List.map_eq_cons_iff.mp hrest
    cases ha
    exact ⟨before, after, rfl, rfl⟩

/-! ### Worlds and their histories -/

namespace World

def withBuffer (w : World) (buffer : Bytes) : World :=
  { w with conn := { w.conn with buffer := buffer } }

/-- The actions lead from the world `w` to `w'`: they are what was recorded, and
all they changed in the connection is its state and its threshold. -/
structure After (w : World) (actions : List Action) (w' : World) : Prop where
  history : w'.history = w.history ++ actions
  conn : w'.conn =
    { w.conn with
        state := stateFrom w.conn.state actions,
        compressionThreshold := thresholdFrom w.conn.compressionThreshold actions }

theorem After.refl (w : World) : w.After [] w :=
  { history := (List.append_nil _).symm, conn := rfl }

theorem After.trans {w w' w'' : World} {actions actions' : List Action}
    (h : w.After actions w') (h' : w'.After actions' w'') : w.After (actions ++ actions') w'' :=
  { history := by rw [h'.history, h.history, List.append_assoc],
    conn := by rw [h'.conn, h.conn, stateFrom_append, thresholdFrom_append] }

theorem after_received (w : World) (packet : DecodedC2S) :
    w.After [.received packet] (w.log (.received packet)) :=
  { history := rfl, conn := rfl }

theorem after_sent (w : World) (socket : Socket) (packet : S2CPacket) :
    w.After [.did (.send packet)] ({ w with socket := socket }.log (.did (.send packet))) :=
  { history := rfl, conn := rfl }

theorem after_failed (w : World) (socket : Socket) (packet : S2CPacket) :
    w.After [.failed packet] ({ w with socket := socket }.log (.failed packet)) :=
  { history := rfl, conn := rfl }

theorem after_enter (w : World) (state : State) :
    w.After [.did (.enter state)] (w.enter state) :=
  { history := rfl, conn := rfl }

theorem after_compress (w : World) (threshold : BitVec 32) :
    w.After [.did (.compress threshold)] (w.compress threshold) :=
  { history := rfl, conn := rfl }

end World

end Statik
