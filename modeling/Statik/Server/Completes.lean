import Statik.Server.Authority
import Statik.Server.Tasks

/-!
# The shutdown comes to its end

Once a shutdown has begun, `main` returns as soon as every connection task has been polled
and `main` itself has gone on, whatever else happens in between.
-/

namespace Statik

/-- The events that let `main` go on. -/
def Event.ofMain : Event → Bool
  | .signal => true
  | .recv => true
  | .resume => true
  | _ => false

namespace System

variable {H : Host} {σ : System}

/-! ### What the tasks leave alone -/

/-- `main` is where it was, and so is its receiver. -/
structure Aside (σ σ' : System) : Prop where
  main : σ'.main = σ.main
  shutdownRx : σ'.shutdownRx = σ.shutdownRx
  announced : σ'.announced = σ.announced
  sent : σ.notifyShutdown.sent <+: σ'.notifyShutdown.sent

namespace Aside

theorem of_sent {σ' : System} (hmain : σ'.main = σ.main) (hrx : σ'.shutdownRx = σ.shutdownRx)
    (hannounced : σ'.announced = σ.announced)
    (hsent : σ'.notifyShutdown.sent = σ.notifyShutdown.sent) : Aside σ σ' :=
  { main := hmain, shutdownRx := hrx, announced := hannounced, sent := hsent ▸ List.prefix_rfl }

theorem refl (σ : System) : Aside σ σ := .of_sent rfl rfl rfl rfl

theorem stepConnection (env : Env) (i : Nat) (task : ConnectionTask) (event : HandlerEvent) :
    Aside σ (σ.stepConnection env i task event) := by
  unfold System.stepConnection
  simp only
  split <;> exact .of_sent rfl rfl rfl rfl

theorem step {event : Event} (h : event.ofMain = false) : Aside σ (σ.step H event) := by
  unfold System.step
  split
  · exact .refl σ
  · exact .of_sent rfl rfl rfl rfl
  · exact .of_sent rfl rfl rfl rfl
  · cases h
  · cases h
  · unfold System.request
    split
    · exact { main := rfl, shutdownRx := rfl, announced := rfl, sent := Api.dispatch_sent }
    · exact .refl σ
  · unfold System.finishApi
    split
    · exact .refl σ
    · split
      · exact .of_sent rfl rfl rfl rfl
      · exact .refl σ
  · unfold System.connection
    split
    · exact .refl σ
    · exact .stepConnection ..
  · unfold System.poll
    split
    · exact .refl σ
    · split
      · exact .refl σ
      · exact .stepConnection ..
  · cases h
  · exact .refl σ

end Aside

/-! ### What `main` has left to read -/

/-- `main` has not read what `server.shutdown` sent before it returns. -/
structure Behind (σ : System) : Prop where
  read : σ.shutdownRx ≤ σ.notifyShutdown.tail
  unread : ∀ k, σ.announced = some k → (∀ result, σ.main ≠ .returned result) → σ.shutdownRx ≤ k

theorem Behind.aside (h : σ.Behind) {σ' : System} (haside : Aside σ σ') : σ'.Behind := by
  refine { read := ?_, unread := fun k hk hmain => ?_ }
  · rw [haside.shutdownRx]
    exact Nat.le_trans h.read haside.sent.length_le
  · rw [haside.shutdownRx]
    rw [haside.announced] at hk
    rw [haside.main] at hmain
    exact h.unread k hk hmain

theorem Behind.recv (h : σ.Behind) (hσ : σ.Coherent) (hserving : σ.main = .serving) :
    σ.recv.Behind := by
  have hnone : σ.announced = none := hσ.unannounced (by rw [hserving]; rfl)
  unfold System.recv
  split
  · exact h
  · next received next hrecv =>
    have hnext := Sync.Broadcast.recv_next_le hrecv h.read
    cases received with
    | value reason =>
      exact { read := hnext, unread := fun k hk => by cases hnone.symm.trans hk }
    | lagged missed =>
      exact { read := hnext, unread := fun k hk => by cases hnone.symm.trans hk }
    | closed =>
      exact { read := hnext, unread := fun k hk => by cases hnone.symm.trans hk }

theorem Behind.resume (h : σ.Behind) (hσ : σ.Coherent) : (σ.resume H).Behind := by
  unfold System.resume
  split
  · rw [hσ.send_of]
    refine { read := ?_, unread := fun k hk _ => ?_ }
    · have hread := h.read
      simp only [Sync.Broadcast.dropSender, Sync.Broadcast.tail, List.length_append] at hread ⊢
      omega
    · cases hk
      exact h.read
  · next hmain =>
    split
    · exact { read := h.read,
              unread := fun k hk _ => h.unread k hk fun result => by rw [hmain]; simp }
    · exact h
  · split
    · exact h
    · next received next hrecv =>
      exact { read := Sync.Broadcast.recv_next_le hrecv h.read,
              unread := fun k hk hmain => absurd rfl (hmain (.ok ())) }
  · exact h

theorem Behind.step (h : σ.Behind) (hσ : σ.Coherent) (event : Event) :
    (σ.step H event).Behind := by
  cases hevent : event.ofMain with
  | false => exact h.aside (.step hevent)
  | true =>
    unfold System.step
    split
    · exact h
    · cases hevent
    · cases hevent
    · next hserving =>
      exact { read := h.read,
              unread := fun k hk _ => h.unread k hk fun result => by rw [hserving]; simp }
    · next hserving => exact h.recv hσ hserving
    · cases hevent
    · cases hevent
    · cases hevent
    · cases hevent
    · exact h.resume hσ
    · exact h

/-! ### Once a shutdown has begun -/

/-- `main` only goes forward from there. -/
theorem announces_step (h : σ.main.announces = true) (event : Event) :
    (σ.step H event).main.announces = true := by
  cases hevent : event.ofMain with
  | false =>
    have haside : Aside σ (σ.step H event) := .step hevent
    rw [haside.main]
    exact h
  | true =>
    unfold System.step
    split
    · exact h
    · cases hevent
    · cases hevent
    · next hserving => rw [hserving] at h; cases h
    · next hserving => rw [hserving] at h; cases h
    · cases hevent
    · cases hevent
    · cases hevent
    · cases hevent
    · unfold System.resume
      split
      · next hmain => rw [hmain] at h; cases h
      · next hmain =>
        split
        · rfl
        · exact h
      · split
        · exact h
        · rfl
      · exact h
    · exact h

/-- The connection task has returned. -/
def Over (σ : System) (i : Nat) : Prop :=
  ∀ task, σ.connections[i]? = some task → task.handler.outcome ≠ none

theorem connections_stepConnection_over {i : Nat} (h : σ.Over i) {j : Nat} {task : ConnectionTask}
    (htask : σ.connections[j]? = some task) (event : HandlerEvent) :
    (σ.stepConnection H.env j task event).Over i := by
  intro task' hi
  rw [connections_stepConnection] at hi
  by_cases hij : i = j
  · subst hij
    rw [List.getElem?_set_self (List.getElem?_eq_some_iff.mp htask).1] at hi
    cases hi
    show (task.handler.step H.env event).outcome ≠ none
    rw [HandlerRun.step_returned (h task htask)]
    exact h task htask
  · rw [List.getElem?_set_ne (Ne.symm hij)] at hi
    exact h task' hi

theorem Over.congr {i : Nat} (h : σ.Over i) {σ' : System}
    (hconnections : σ'.connections = σ.connections) : σ'.Over i := by
  intro task hi
  rw [hconnections] at hi
  exact h task hi

/-- A task that has returned stays so, and no task is added. -/
theorem Over.step {i : Nat} (h : σ.Over i) (hmain : σ.main ≠ .serving) (event : Event) :
    (σ.step H event).Over i := by
  unfold System.step
  split
  · exact h
  · next hserving => exact absurd hserving hmain
  · next hserving => exact absurd hserving hmain
  · next hserving => exact absurd hserving hmain
  · next hserving => exact absurd hserving hmain
  · exact h.congr (connections_request _ _)
  · exact h.congr (connections_finishApi _)
  · unfold System.connection
    split
    · exact h
    · next task htask => exact connections_stepConnection_over h htask _
  · unfold System.poll
    split
    · exact h
    · next task htask =>
      split
      · exact h
      · exact connections_stepConnection_over h htask _
  · exact h.congr connections_resume
  · exact h

/-- A task that is polled returns. -/
theorem over_poll (h : σ.Coherent) (hannounces : σ.main.announces = true) {i : Nat}
    {cut : Option Interruption}
    (hcuts : ∀ task, σ.connections[i]? = some task → task.Cuts H.env cut) :
    (σ.step H (.poll i cut)).Over i := by
  have hannounced := h.announced_ne_none hannounces
  have hmain : σ.main ≠ .serving := by
    intro hserving
    rw [hserving] at hannounces
    cases hannounces
  cases htask : σ.connections[i]? with
  | none =>
    refine Over.step (fun task hi => ?_) hmain _
    rw [htask] at hi
    cases hi
  | some task =>
    by_cases hnone : task.handler.outcome = none
    · obtain ⟨task', hi, hsignalled⟩ :=
        (h.reaches (H := H) hannounced htask hnone).leaves cut (hcuts task htask)
      intro task'' hi'
      cases hi.symm.trans hi'
      rw [hsignalled.2]
      simp
    · refine Over.step (fun task' hi => ?_) hmain _
      cases htask.symm.trans hi
      exact hnone

/-- Without a connection task that runs, `main` returns. -/
theorem returned_of_over (h : σ.Coherent) (hbehind : σ.Behind)
    (hannounces : σ.main.announces = true) (hover : ∀ i, σ.Over i) :
    ((σ.step H .resume).step H .resume).main = .returned (.ok ()) := by
  have hclosing : ∀ {σ : System}, σ.Coherent → σ.Behind → σ.main = .closing →
      (σ.step H .resume).main = .returned (.ok ()) := by
    intro σ h hbehind hmain
    obtain ⟨k, hk⟩ := Option.ne_none_iff_exists'.mp
      (h.announced_ne_none (by rw [hmain]; rfl))
    have hread := hbehind.unread k hk fun result => by rw [hmain]; simp
    obtain ⟨received, next, hrecv, -⟩ :=
      Sync.Broadcast.recv_unread (Nat.lt_of_le_of_lt hread (h.announced k hk).1)
    unfold System.step
    rw [hmain]
    simp only [System.resume, hmain, hrecv]
  have hreturned : ∀ {σ : System}, σ.main = .returned (.ok ()) →
      (σ.step H .resume).main = .returned (.ok ()) := by
    intro σ hmain
    unfold System.step
    rw [hmain]
    exact hmain
  cases hmain : σ.main with
  | serving => rw [hmain] at hannounces; cases hannounces
  | stopping reason => rw [hmain] at hannounces; cases hannounces
  | completing =>
    have hrunning : σ.connections.countP ConnectionTask.running = 0 := by
      rw [List.countP_eq_zero]
      intro task htask hrunning
      obtain ⟨i, hi⟩ := List.getElem?_of_mem htask
      exact hover i task hi (ConnectionTask.running_iff.mp hrunning)
    obtain ⟨k, hk⟩ := Option.ne_none_iff_exists'.mp (h.announced_ne_none hannounces)
    have hclosed : σ.shutdownComplete.closed = true := by
      have hcomplete := h.complete
      rw [held_of_some hk, hrunning] at hcomplete
      simp [Sync.Mpsc.closed, hcomplete]
    refine hclosing (h.step _) (hbehind.step h _) ?_
    unfold System.step
    rw [hmain]
    simp only [System.resume, hmain, hclosed, if_true]
  | closing => exact hreturned (hclosing h hbehind hmain)
  | returned result =>
    cases result with
    | error e => rw [hmain] at hannounces; cases hannounces
    | ok u => exact hreturned (hreturned hmain)

/-- A shutdown that has begun is announced when `main` goes on. -/
theorem announces_resume (h : σ.Coherent) (hstops : σ.main ≠ .serving) (hnot : ¬ σ.Failed) :
    (σ.step H .resume).main.announces = true := by
  cases hmain : σ.main with
  | serving => exact absurd hmain hstops
  | stopping reason =>
    unfold step
    rw [hmain]
    simp only [System.resume, hmain, h.send_of]
    rfl
  | completing => exact announces_step (by rw [hmain]; rfl) _
  | closing => exact announces_step (by rw [hmain]; rfl) _
  | returned result =>
    cases result with
    | error e => exact absurd ⟨e, hmain⟩ hnot
    | ok u => exact announces_step (by rw [hmain]; rfl) _

theorem not_serving_of_announces (h : σ.main.announces = true) : σ.main ≠ .serving := by
  intro hserving
  rw [hserving] at h
  cases h

end System

namespace Host

variable {H : Host} {events : List Event}

theorem run_behind (H : Host) (events : List Event) : (H.run events).Behind := by
  induction events using List.reverseRecOn with
  | nil => exact { read := Nat.le_refl _, unread := fun k hk => by cases hk }
  | append_singleton events event ih =>
    rw [run_snoc]
    exact ih.step (H.run_coherent events) event

theorem run_announces (h : (H.run events).main.announces = true) (later : List Event) :
    (H.run (events ++ later)).main.announces = true := by
  induction later using List.reverseRecOn with
  | nil =>
    rw [List.append_nil]
    exact h
  | append_singleton later event ih =>
    rw [← List.append_assoc, run_snoc]
    exact System.announces_step ih event

theorem run_over (h : (H.run events).main.announces = true) {i : Nat}
    (hover : (H.run events).Over i) (later : List Event) : (H.run (events ++ later)).Over i := by
  induction later using List.reverseRecOn with
  | nil =>
    rw [List.append_nil]
    exact hover
  | append_singleton later event ih =>
    rw [← List.append_assoc, run_snoc]
    exact ih.step (System.not_serving_of_announces (run_announces h later)) event

/-- A shutdown comes to its end: once `main` has left its `select!`, by a signal or a
request, it returns as soon as it has gone on, every connection task that ran has been
polled, and it has gone on twice more.  Whatever else happens in between, no client can
hold it up. -/
theorem run_completes (H : Host) (events later : List Event)
    (hstops : (H.run events).main ≠ .serving) (hnot : ¬ (H.run events).Failed)
    (hpolled : ∀ (i : Nat) (task : ConnectionTask), (H.run events).connections[i]? = some task →
      task.handler.outcome = none → ∃ before cut after, later = before ++ .poll i cut :: after ∧
        ∀ task', (H.run (events ++ .resume :: before)).connections[i]? = some task' →
          task'.Cuts H.env cut) :
    (H.run (events ++ .resume :: later ++ [.resume, .resume])).main = .returned (.ok ()) := by
  have hresumed : (H.run (events ++ [.resume])).main.announces = true := by
    rw [run_snoc]
    exact System.announces_resume (H.run_coherent events) hstops hnot
  have hcons : ∀ later, events ++ .resume :: later = events ++ [.resume] ++ later := by
    intro later
    rw [List.append_assoc, List.singleton_append]
  have hannounces : ∀ later, (H.run (events ++ .resume :: later)).main.announces = true := by
    intro later
    rw [hcons]
    exact run_announces hresumed later
  have hover : ∀ i, (H.run (events ++ .resume :: later)).Over i := by
    intro i
    by_cases hold : (H.run events).Over i
    · -- it had returned before
      rw [hcons]
      refine run_over hresumed ?_ later
      rw [run_snoc]
      exact hold.step hstops _
    · -- it is polled
      obtain ⟨task, htask⟩ := not_forall.mp hold
      obtain ⟨hi, hnone⟩ := Classical.not_imp.mp htask
      obtain ⟨before, cut, after, rfl, hcuts⟩ := hpolled i task hi (not_not.mp hnone)
      have hpoll : (H.run (events ++ .resume :: before ++ [.poll i cut])).Over i := by
        rw [run_snoc]
        exact System.over_poll (H.run_coherent _) (hannounces before) hcuts
      have hannounced : (H.run (events ++ .resume :: before ++ [.poll i cut])).main.announces =
          true := run_announces (hannounces before) _
      have hafter := run_over hannounced hpoll after
      rwa [List.append_assoc, List.append_assoc, List.cons_append, List.singleton_append] at hafter
  have hreturned := System.returned_of_over (H := H) (H.run_coherent _) (H.run_behind _)
    (hannounces later) hover
  rw [← run_snoc, ← run_snoc, List.append_assoc] at hreturned
  exact hreturned

/-- A connection, a signal, and an api client that asks too late. -/
def signalled : List Event := [.accept "127.0.0.1:50000" (fun _ => none), .acceptApi, .signal]

theorem signalled_completes :
    (bare.run (signalled ++ .resume :: [.connection 0 .advance, .poll 0 none, .finishApi 0] ++
      [.resume, .resume])).main = .returned (.ok ()) := by
  refine run_completes bare signalled [.connection 0 .advance, .poll 0 none, .finishApi 0] ?_ ?_ ?_
  · intro h
    cases h
  · rintro ⟨e, he⟩
    cases he
  · intro i task hi hnone
    cases i with
    | zero =>
      refine ⟨[.connection 0 .advance], none, [.finishApi 0], rfl, fun task' _ => ?_⟩
      intro interruption h
      cases h
    | succ i => cases hi

end Host

end Statik
