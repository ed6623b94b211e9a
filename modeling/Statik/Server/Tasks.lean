import Statik.Server.Graceful

/-!
# The connections of the server

A connection task under the server is a run of the connection loop on its own: what
holds of those runs holds of every connection the server has accepted.
-/

namespace Statik

/-- The setup of a connection from the address. -/
def Host.setup (H : Host) (address : String) : Setup :=
  { env := H.env, config := H.config, protocol := H.protocol, address := address }

/-- The machine of the task is the one of the run on the inputs, or that run cut by the
shutdown signal in the middle of the next step. -/
def ConnectionTask.Ran (H : Host) (address : String) (fault : Nat → Option Fault)
    (inputs : List Input) (task : ConnectionTask) : Prop :=
  task.handler.machine = (H.setup address).run fault inputs ∨
    task.Signalled ∧ ∃ cut,
      ((H.setup address).run fault inputs).interrupt H.env cut = some task.handler.machine

namespace ConnectionTask.Ran

variable {H : Host} {address : String} {fault : Nat → Option Fault} {inputs : List Input}
  {task : ConnectionTask}

/-- The handler of a running task has not been cut. -/
theorem running (h : task.Ran H address fault inputs) (hnone : task.handler.outcome = none) :
    task.handler.machine = (H.setup address).run fault inputs := by
  rcases h with hrun | ⟨⟨-, hended⟩, -⟩
  · exact hrun
  · rw [hnone] at hended
    cases hended

theorem connection (h : task.Ran H address fault inputs) (hnone : task.handler.outcome = none)
    (input : Input) :
    (task.step H.env (.connection input)).Ran H address fault (inputs ++ [input]) := by
  refine .inl ?_
  rw [Setup.run_snoc, ← h.running hnone]
  show (task.handler.step H.env (.connection input)).machine = _
  rcases task.handler.step_connection input hnone with ⟨e, -, hstep⟩ | ⟨-, hstep⟩
  · rw [hstep]
    rfl
  · rw [hstep]
    rfl

/-- A signal keeps the machine, or cuts it in the middle of a step. -/
theorem shutdown (h : task.Ran H address fault inputs) {received : Sync.Received String}
    (next : Nat) (cut : Option Interruption)
    (hsignal : task.handler.outcome = none → received ≠ .closed) :
    (task.step H.env (.shutdown received next cut)).Ran H address fault inputs := by
  by_cases hnone : task.handler.outcome = none
  · have hrun := h.running hnone
    rw [ConnectionTask.step]
    cases hcut : cut.elim (some task.handler.machine) (task.handler.machine.interrupt H.env) with
    | none =>
      rw [HandlerRun.step_uncut hcut]
      exact h
    | some machine =>
      rw [HandlerRun.step_signal hnone (hsignal hnone) hcut]
      cases cut with
      | none =>
        cases hcut
        exact .inl hrun
      | some interruption =>
        rw [Ran, ← hrun]
        exact .inr ⟨⟨rfl, rfl⟩, interruption, hcut⟩
  · rw [ConnectionTask.step, HandlerRun.step_returned hnone]
    exact h

end ConnectionTask.Ran

/-! ### The inputs of a connection -/

/-- What the event gives the connection to go on with. -/
def Event.inputOf (i : Nat) : Event → Option Input
  | .connection j input => if j = i then some input else none
  | _ => none

/-- The inputs of the connection, without anything of the other tasks. -/
def inputsOf (i : Nat) (events : List Event) : List Input := events.filterMap (Event.inputOf i)

theorem inputsOf_snoc (i : Nat) (events : List Event) (event : Event) :
    inputsOf i (events ++ [event]) = inputsOf i events ++ (event.inputOf i).toList := by
  unfold inputsOf
  rw [List.filterMap_append]
  cases hinput : event.inputOf i with
  | none => rw [List.filterMap_cons_none hinput]; rfl
  | some input => rw [List.filterMap_cons_some hinput]; rfl

theorem Event.inputOf_eq_none {i : Nat} {event : Event}
    (h : ∀ j input, event ≠ .connection j input) : event.inputOf i = none := by
  unfold inputOf
  split
  · next j input => exact absurd rfl (h j input)
  · rfl

/-- The process is over. -/
def Main.isOver : Main → Bool
  | .returned _ => true
  | _ => false

theorem Main.not_over {main : Main} (h : ∀ result, main ≠ .returned result) :
    main.isOver = false := by
  unfold isOver
  split
  · next result => exact absurd rfl (h result)
  · rfl

/-- The connection was accepted by one of the events, as the `i`-th one, and its task has
run on the inputs it was given since then and on nothing else: on all of them as long as it
runs. -/
def Isolated (H : Host) (events : List Event) (main : Main) (i : Nat) (task : ConnectionTask) :
    Prop :=
  ∃ earlier address fault later taken,
    events = earlier ++ .accept address fault :: later ∧
    (H.run earlier).main = .serving ∧ (H.run earlier).connections.length = i ∧
    task.Ran H address fault taken ∧ taken <+: inputsOf i later ∧
    (main.isOver = false → task.handler.outcome = none → taken = inputsOf i later)

namespace Isolated

variable {H : Host} {events : List Event} {main : Main} {i : Nat} {task : ConnectionTask}

/-- An event that does not get to the task. -/
theorem skip (h : Isolated H events main i task) (event : Event) {main' : Main}
    (hskip : main'.isOver = false → task.handler.outcome = none →
      main.isOver = false ∧ event.inputOf i = none) :
    Isolated H (events ++ [event]) main' i task := by
  obtain ⟨earlier, address, fault, later, taken, rfl, hserving, hlength, hran, hprefix, hall⟩ := h
  refine ⟨earlier, address, fault, later ++ [event], taken, by simp, hserving, hlength, hran,
    ?_, fun hover hnone => ?_⟩
  · rw [inputsOf_snoc]
    exact hprefix.trans (List.prefix_append _ _)
  · obtain ⟨hover', hinput⟩ := hskip hover hnone
    rw [inputsOf_snoc, hinput, hall hover' hnone]
    exact (List.append_nil _).symm

/-- The task goes on with its connection. -/
theorem connection (h : Isolated H events main i task) (hover : main.isOver = false)
    (input : Input) :
    Isolated H (events ++ [.connection i input]) main i
      (task.step H.env (.connection input)) := by
  by_cases hnone : task.handler.outcome = none
  · obtain ⟨earlier, address, fault, later, taken, rfl, hserving, hlength, hran, -, hall⟩ := h
    have hinputs : inputsOf i (later ++ [.connection i input]) = taken ++ [input] := by
      rw [inputsOf_snoc, hall hover hnone, Event.inputOf, if_pos rfl]
      rfl
    refine ⟨earlier, address, fault, later ++ [.connection i input], taken ++ [input], by simp,
      hserving, hlength, hran.connection hnone input, ?_, fun _ _ => hinputs.symm⟩
    exact hinputs ▸ List.prefix_rfl
  · rw [ConnectionTask.step, HandlerRun.step_returned hnone]
    exact h.skip _ fun _ hnone' => absurd hnone' hnone

/-- The task is told of the shutdown. -/
theorem shutdown (h : Isolated H events main i task) {received : Sync.Received String}
    (next : Nat) (cut : Option Interruption)
    (hsignal : task.handler.outcome = none → received ≠ .closed) :
    Isolated H events main i (task.step H.env (.shutdown received next cut)) := by
  obtain ⟨earlier, address, fault, later, taken, heq, hserving, hlength, hran, hprefix, hall⟩ := h
  exact ⟨earlier, address, fault, later, taken, heq, hserving, hlength,
    hran.shutdown next cut hsignal, hprefix,
    fun hover hnone => hall hover (HandlerRun.outcome_of_step hnone)⟩

theorem accepted (hserving : (H.run events).main = .serving) (address : String)
    (fault : Nat → Option Fault) (next : Nat) :
    Isolated H (events ++ [.accept address fault]) .serving (H.run events).connections.length
      { subscribed := next, handler := .start H.config H.protocol address fault next } :=
  ⟨events, address, fault, [], [], rfl, hserving, rfl, .inl rfl, List.prefix_rfl, fun _ _ => rfl⟩

end Isolated

namespace System

variable {σ : System} {H : Host}

@[simp] theorem connections_recv : σ.recv.connections = σ.connections := by
  unfold System.recv
  split
  · rfl
  · next received next _ => cases received <;> rfl

@[simp] theorem connections_request (i : Nat) (request : ApiRequest) :
    (σ.request H i request).connections = σ.connections := by
  unfold System.request
  split <;> rfl

@[simp] theorem connections_finishApi (i : Nat) :
    (σ.finishApi i).connections = σ.connections := by
  unfold finishApi
  split
  · rfl
  · split <;> rfl

@[simp] theorem connections_resume : (σ.resume H).connections = σ.connections := by
  unfold System.resume
  split
  · split <;> rfl
  · split <;> rfl
  · split <;> rfl
  · rfl

/-- Every connection of the server after the events. -/
def AllIsolated (H : Host) (events : List Event) (σ : System) : Prop :=
  ∀ i task, σ.connections[i]? = some task → Isolated H events σ.main i task

theorem AllIsolated.skip {events : List Event} (h : AllIsolated H events σ) {σ' : System}
    (hsame : σ'.connections = σ.connections) (event : Event)
    (hskip : ∀ i, σ'.main.isOver = false → σ.main.isOver = false ∧ event.inputOf i = none) :
    AllIsolated H (events ++ [event]) σ' := by
  intro i task htask
  rw [hsame] at htask
  exact (h i task htask).skip event fun hover _ => hskip i hover

/-- One task steps, and the event is none of the others'. -/
theorem AllIsolated.stepConnection {events : List Event} (h : AllIsolated H events σ) {i : Nat}
    {task : ConnectionTask} {event : HandlerEvent} (happened : Event)
    (hisolated : Isolated H (events ++ [happened]) σ.main i (task.step H.env event))
    (hother : ∀ j, j ≠ i → happened.inputOf j = none) :
    AllIsolated H (events ++ [happened]) (σ.stepConnection H.env i task event) := by
  intro j other hj
  rw [connections_stepConnection] at hj
  rw [main_stepConnection]
  by_cases hji : j = i
  · subst hji
    have hlt : j < σ.connections.length := by
      have := (List.getElem?_eq_some_iff.mp hj).1
      rwa [List.length_set] at this
    rw [List.getElem?_set_self hlt] at hj
    exact Option.some.inj hj ▸ hisolated
  · rw [List.getElem?_set_ne (Ne.symm hji)] at hj
    exact (h j other hj).skip happened fun hover _ => ⟨hover, hother j hji⟩

variable {events : List Event}

theorem AllIsolated.accept (h : AllIsolated H events (H.run events))
    (hserving : (H.run events).main = .serving) (address : String) (fault : Nat → Option Fault) :
    AllIsolated H (events ++ [.accept address fault]) ((H.run events).accept H address fault) := by
  intro i task htask
  show Isolated H _ (H.run events).main i task
  have hconnections : ((H.run events).accept H address fault).connections = _ ++ [_] := rfl
  rw [hconnections] at htask
  by_cases hi : i < (H.run events).connections.length
  · rw [List.getElem?_append_left hi] at htask
    exact (h i task htask).skip _ fun hover _ => ⟨hover, rfl⟩
  · have hlast : i = (H.run events).connections.length := by
      have := (List.getElem?_eq_some_iff.mp htask).1
      rw [List.length_append, List.length_singleton] at this
      omega
    rw [hlast, List.getElem?_concat_length] at htask
    rw [← Option.some.inj htask, hlast, hserving]
    exact .accepted hserving address fault _

theorem AllIsolated.connection (h : AllIsolated H events σ) (hover : σ.main.isOver = false)
    (i : Nat) (input : Input) :
    AllIsolated H (events ++ [.connection i input]) (σ.connection H i input) := by
  have hother : ∀ j, j ≠ i → (Event.connection i input).inputOf j = none :=
    fun j hji => if_neg (Ne.symm hji)
  unfold System.connection
  split
  · next hnone =>
    intro j task htask
    refine (h j task htask).skip _ fun hover _ => ⟨hover, hother j fun hji => ?_⟩
    rw [hji, hnone] at htask
    cases htask
  · next task htask =>
    exact h.stepConnection _ ((h i task htask).connection hover input) hother

/-- A task is never told of the end of the channel, so no connection loop starts again. -/
theorem AllIsolated.poll (h : AllIsolated H events σ) (hσ : σ.Coherent) (i : Nat)
    (cut : Option Interruption) :
    AllIsolated H (events ++ [.poll i cut]) (σ.poll H i cut) := by
  unfold System.poll
  split
  · exact h.skip rfl _ fun i hover => ⟨hover, rfl⟩
  · next task htask =>
    split
    · exact h.skip rfl _ fun i hover => ⟨hover, rfl⟩
    · next received next hrecv =>
      refine h.stepConnection _ ?_ fun _ _ => rfl
      refine Isolated.skip ?_ _ fun hover _ => ⟨hover, rfl⟩
      refine (h i task htask).shutdown next cut fun hnone hclosed => ?_
      rw [hclosed] at hrecv
      exact hσ.not_closed (List.mem_of_getElem? htask) hnone next hrecv

theorem AllIsolated.step (h : AllIsolated H events (H.run events)) (event : Event) :
    AllIsolated H (events ++ [event]) ((H.run events).step H event) := by
  have hcoherent := H.run_coherent events
  unfold System.step
  split
  · next result hmain =>
    refine h.skip rfl _ fun i hover => ?_
    rw [hmain] at hover
    cases hover
  · next hmain => exact h.accept hmain _ _
  · exact h.skip rfl _ fun i hover => ⟨hover, rfl⟩
  · next hmain =>
    have hsame : (H.run events).signal.connections = (H.run events).connections := rfl
    exact h.skip hsame _ fun i _ => ⟨by rw [hmain]; rfl, rfl⟩
  · next hmain => exact h.skip connections_recv .recv fun i _ => ⟨by rw [hmain]; rfl, rfl⟩
  · exact h.skip (connections_request ..) _ fun i hover => ⟨by rwa [main_request] at hover, rfl⟩
  · exact h.skip (connections_finishApi _) _ fun i hover => ⟨by rwa [main_finishApi] at hover, rfl⟩
  · next hreturned => exact h.connection (Main.not_over hreturned) _ _
  · exact h.poll hcoherent _ _
  · next hreturned =>
    exact h.skip connections_resume .resume fun i _ => ⟨Main.not_over hreturned, rfl⟩
  · next _ _ hconnection _ _ _ _ _ _ _ =>
    exact h.skip rfl _ fun i hover => ⟨hover, Event.inputOf_eq_none hconnection⟩

end System

namespace Host

theorem run_allIsolated (H : Host) (events : List Event) :
    System.AllIsolated H events (H.run events) := by
  induction events using List.reverseRecOn with
  | nil =>
    intro i task htask
    cases htask
  | append_singleton events event ih =>
    rw [run_snoc]
    exact System.AllIsolated.step ih event

/-- What a connection of the server does depends on its own peer alone: on the address it
was accepted from and on its own reads, ticks and writes since then.  Nothing that other
connections or api clients do comes into it, the shutdown apart. -/
theorem run_isolated (H : Host) (events : List Event) (i : Nat) (task : ConnectionTask)
    (h : (H.run events).connections[i]? = some task) :
    Isolated H events (H.run events).main i task :=
  H.run_allIsolated events i task h

/-- Two connections, the first of which sends a length that is none. -/
def twoConnections : List Event :=
  [.accept "a" fun _ => none, .connection 0 .advance, .accept "b" fun _ => none,
   .connection 1 .advance, .connection 0 (.read (.ok [0xff, 0xff, 0xff, 0xff, 0xff])),
   .connection 0 .advance, .connection 1 (.read (.ok [0xff]))]

theorem twoConnections_length : (bare.run twoConnections).connections.length = 2 := rfl

theorem twoConnections_isolated :
    Isolated bare twoConnections (bare.run twoConnections).main 1
      ((bare.run twoConnections).connections.get ⟨1, by rw [twoConnections_length]; decide⟩) :=
  run_isolated bare twoConnections 1 _ (List.getElem?_eq_getElem _)

end Host

end Statik
