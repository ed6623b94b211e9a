import Statik.Server.Login

/-!
# After a rejected login

A rejection leaves the connection in Login.  It is final as long as the client
sends no packet that Login answers.
-/

namespace Statik

open Wire

namespace Setup

variable {S : Setup}

/-! ### Login without a packet it answers -/

theorem stateFrom_of_no_effect {actions : List Action} (h : ∀ a ∈ actions, a.effect = none)
    (state : State) : stateFrom state actions = state := by
  induction actions generalizing state with
  | nil => rfl
  | cons action actions ih =>
    have hsame : action.applyState state = state := by
      cases action with
      | did effect => exact nomatch h _ List.mem_cons_self
      | _ => rfl
    rw [stateFrom_cons, hsame]
    exact ih (fun a ha => h a (List.mem_cons_of_mem _ ha)) state

/-- In Login only the packets that drive it have a script. -/
theorem Scripted.drivesLogin {packet : DecodedC2S} {effects : List Effect}
    (h : Scripted S .login packet effects) :
    packet.drivesLogin = true := by
  cases h with
  | rejected hname hinvalid => rw [DecodedC2S.drivesLogin, hname]; rfl
  | joined hprotocol hname hvalid => rw [DecodedC2S.drivesLogin, hname]; rfl
  | accepted hprotocol hname hvalid => rw [DecodedC2S.drivesLogin, hname]; rfl
  | acknowledged hprotocol hack => rw [DecodedC2S.drivesLogin, hack, Bool.or_true]
  | ignored hstate => rcases hstate with h | h <;> cases h

/-- Such a packet makes the server write, or enter Configuration. -/
theorem script_drivesLogin {packet : DecodedC2S} (hprotocol : packet.protocol = S.protocol)
    (h : packet.drivesLogin = true) :
    packet.state = .login ∧ ∃ first rest, S.script .login packet = .run (first :: rest) ∧
      (first.sends (fun _ => true) = true ∨ first = .enter .configuration) := by
  rcases Bool.or_eq_true _ _ |>.mp h with hname | hack
  · obtain ⟨name, hname⟩ := Option.isSome_iff_exists.mp hname
    refine ⟨loginName_state hname, ?_⟩
    by_cases hvalid : isValidUsername name = true
    · have haccepts : packet.acceptsLogin = true := by
        rw [DecodedC2S.acceptsLogin, hname, Option.any_some, hvalid]
      obtain ⟨name', rest, hscript, -⟩ := script_accepts hprotocol haccepts
      rw [hscript, acceptance]
      split
      · exact ⟨_, _, rfl, .inl rfl⟩
      · exact ⟨_, _, rfl, .inl rfl⟩
    · have hrejects : packet.rejectsLogin = true := by
        rw [DecodedC2S.rejectsLogin, hname, Option.any_some]
        simpa using hvalid
      exact ⟨_, _, script_rejects hprotocol hrejects, .inl rfl⟩
  · exact ⟨acknowledged_state hack, _, _, script_acknowledged hack, .inr rfl⟩

/-! ### The disconnect packet -/

/-- A disconnect packet of Login is the whole script of a rejected login. -/
theorem Trace.at_disconnect {history pre post : List Action} {answer : S2CPacket}
    (h : S.Trace history) (heq : history = pre ++ .did (.send answer) :: post)
    (hanswer : answer.isLoginDisconnect = true) :
    ∃ before packet, pre = before ++ [.received packet] ∧ packet.rejectsLogin = true ∧
      S.Admits before packet ∧ S.script (stateAfter before) packet = .run [.send answer] := by
  have hlogin := loginPacket_state (.inr (.inr hanswer))
  rcases h.at_effect rfl heq with ⟨-, -, id, hsend⟩ | ⟨before, packet, sent, after, rfl, -,
    hadmits, hscript⟩
  · cases hsend
    rw [(keepAlive_inPhase S.protocol id).2] at hlogin
    cases hlogin
  · have hscripted := hadmits.scripted hscript
    rcases hscripted.login_send (List.mem_append_right _ List.mem_cons_self) hlogin with
      ⟨hrejects, rfl, hsingle⟩ | ⟨name, rest, -, -, -, hmem⟩
    · obtain ⟨rfl, -⟩ := singleton_eq_append_cons hsingle.symm
      refine ⟨before, packet, rfl, hrejects, hadmits, ?_⟩
      rw [hscript, hsingle]
    · rcases mem_acceptance hmem with rfl | rfl
      · rw [(setCompression_kind _ _).2.2] at hanswer
        cases hanswer
      · rw [(loginSuccess_kind _ _).2.2] at hanswer
        cases hanswer

/-- Once a disconnect packet of Login is written, nothing else is, and neither
Configuration nor Play is entered. -/
def FinalDisconnect (history : List Action) : Prop :=
  ∀ pre answer post, history = pre ++ .did (.send answer) :: post →
    answer.isLoginDisconnect = true → ∀ action ∈ post,
      action.writes (fun _ => true) = false ∧
      action ≠ .did (.enter .configuration) ∧ action ≠ .did (.enter .play)

/-- After a rejected login the client sends no packet that drives Login. -/
def SilentAfterRejection (history : List Action) : Prop :=
  ∀ pre packet post, history = pre ++ .received packet :: post → packet.rejectsLogin = true →
    ∀ next, .received next ∈ post → next.drivesLogin = false

/-- The last packet of two equal histories is the same. -/
theorem last_received {before before' tail tail' : List Action} {packet packet' : DecodedC2S}
    (htail : ∀ p, Action.received p ∉ tail) (htail' : ∀ p, Action.received p ∉ tail')
    (h : before ++ .received packet :: tail = before' ++ .received packet' :: tail') :
    before = before' ∧ packet = packet' ∧ tail = tail' := by
  rcases append_eq_append_cons h with ⟨mid, -, rfl⟩ | ⟨mid, rfl, hmid⟩
  · exact absurd (List.mem_append_right _ List.mem_cons_self) (htail' packet)
  · obtain ⟨rfl, rfl, rfl⟩ := block_at_received htail hmid
    exact ⟨(List.append_nil _).symm, rfl, rfl⟩

/-- After a rejection and actions that do nothing, the next action does nothing
either, unless the client drove Login in the meantime. -/
theorem Trace.quiet_step {history before quiet rest : List Action} {packet : DecodedC2S}
    {answer : S2CPacket} {action : Action} (h : S.Trace history)
    (heq : history = (before ++ [.received packet, .did (.send answer)] ++ quiet) ++
      action :: rest)
    (hstate : stateAfter before = .login)
    (hscript : S.script (stateAfter before) packet = .run [.send answer])
    (hquiet : ∀ a ∈ quiet, a.effect = none)
    (hsilent : ∀ next, .received next ∈ quiet → next.drivesLogin = false) :
    action.effect = none := by
  have hlogin : ∀ mid : List Action, (∀ a ∈ mid, a.effect = none) →
      stateAfter (before ++ [.received packet, .did (.send answer)] ++ mid) = .login := by
    intro mid hmid
    rw [stateAfter_append, stateFrom_of_no_effect hmid, stateAfter_append]
    exact hstate
  cases heffect : action.effect with
  | none => rfl
  | some effect =>
    exfalso
    rcases h.at_effect heffect heq with ⟨-, hplay, -⟩ | ⟨earlier, next, sent, after, hsplit, -,
      hadmits, hnext⟩
    · rw [hlogin quiet hquiet] at hplay
      cases hplay
    · rcases append_eq_append_cons hsplit with ⟨tail, hfirst, hsent⟩ | ⟨mid, rfl, rfl⟩
      · -- the effect would belong to the rejected packet, whose script is over
        have htail : ∀ p, Action.received p ∉ tail := fun p hp =>
          received_not_mem_did sent p (by rw [hsent]; exact List.mem_append_left _ hp)
        obtain ⟨rfl, rfl, rfl⟩ := last_received (received_not_mem_did [.send answer]) htail hfirst
        rw [hscript] at hnext
        obtain ⟨rfl, -⟩ := singleton_eq_append_cons (Verdict.run.inj hnext)
        cases hsent
      · have hscripted := hadmits.scripted hnext
        rw [hlogin mid fun a ha => hquiet a (List.mem_append_left _ ha)] at hscripted
        have hdrives := hscripted.drivesLogin
        rw [hsilent next (List.mem_append_right _ List.mem_cons_self)] at hdrives
        cases hdrives

/-- After a rejection the connection stays in Login and does nothing, as long as
no packet drives it. -/
theorem Trace.quiet_after_rejection {history before post : List Action} {packet : DecodedC2S}
    {answer : S2CPacket} (h : S.Trace history)
    (heq : history = before ++ .received packet :: .did (.send answer) :: post)
    (hstate : stateAfter before = .login)
    (hscript : S.script (stateAfter before) packet = .run [.send answer])
    (hsilent : ∀ next, .received next ∈ post → next.drivesLogin = false) :
    ∀ action ∈ post, action.effect = none := by
  suffices hpre : ∀ mid rest, post = mid ++ rest → ∀ action ∈ mid, action.effect = none from
    hpre post [] (List.append_nil post).symm
  intro mid
  induction mid using List.reverseRecOn with
  | nil => exact fun _ _ _ hmem => absurd hmem List.not_mem_nil
  | append_singleton mid action ih =>
    intro rest hpost a ha
    have hmid := ih (action :: rest) (by rw [hpost, List.append_assoc]; rfl)
    rcases List.mem_append.mp ha with hin | hself
    · exact hmid a hin
    · cases List.mem_singleton.mp hself
      have heq' : history = (before ++ [.received packet, .did (.send answer)] ++ mid) ++
          action :: rest := by
        rw [heq, hpost]
        simp
      refine h.quiet_step heq' hstate hscript hmid fun next hnext => hsilent next ?_
      rw [hpost, List.append_assoc]
      exact List.mem_append_left _ hnext

theorem Trace.finalDisconnect {history : List Action} (h : S.Trace history)
    (hsilent : SilentAfterRejection history) : FinalDisconnect history := by
  intro pre answer post heq hanswer action haction
  obtain ⟨before, packet, rfl, hrejects, hadmits, hscript⟩ := h.at_disconnect heq hanswer
  rw [List.append_assoc] at heq
  have hlogin : stateAfter before = .login := by
    rw [← hadmits.state, rejectsLogin_state hrejects]
  have hquiet := h.quiet_after_rejection heq hlogin hscript
    (fun next hnext => hsilent before packet _ heq hrejects next
      (List.mem_cons_of_mem _ hnext)) action haction
  refine ⟨?_, ?_, ?_⟩
  · rw [Action.writes, hquiet]
    rfl
  · rintro rfl
    cases hquiet
  · rintro rfl
    cases hquiet

theorem Trace.silentAfterRejection {history : List Action} (h : S.Trace history)
    (hfinal : FinalDisconnect history) : SilentAfterRejection history := by
  intro pre packet post heq hrejects next hnext
  rw [Bool.eq_false_iff]
  intro hdrives
  obtain ⟨-, hadmits, hfollowed⟩ := h.at_received heq
  have hscript := script_rejects hadmits.protocol hrejects
  rw [← rejectsLogin_state hrejects, hadmits.state] at hscript
  rcases hfollowed with ⟨effects, later, hrun, rfl⟩ | ⟨hrefuse, -⟩ | ⟨before, failing, after,
    hrun, rfl⟩
  · rw [hscript] at hrun
    cases hrun
    have hlater : Action.received next ∈ later :=
      (List.mem_append.mp hnext).resolve_left (received_not_mem_did _ next)
    obtain ⟨mid, rest, rfl⟩ := List.append_of_mem hlater
    rw [List.append_cons] at heq
    have hquiet := hfinal _ _ _ heq (disconnect_kind S.protocol).2.2
    have heq' : history = (pre ++ [.received packet] ++ .did (.send (disconnect S.protocol)) ::
        mid) ++ .received next :: rest := by
      rw [heq]
      simp
    obtain ⟨-, hadmits', hfollowed'⟩ := h.at_received heq'
    obtain ⟨hstate, first, rest', hscript', hfirst⟩ :=
      script_drivesLogin hadmits'.protocol hdrives
    rw [← hstate, hadmits'.state] at hscript'
    obtain ⟨action, final, rfl, haction⟩ := hfollowed'.first hscript'
    obtain ⟨hwrites, henter, -⟩ := hquiet action (by simp)
    rcases hfirst with hsends | rfl
    · rw [Action.writes, haction, Option.any_some, hsends] at hwrites
      cases hwrites
    · cases action with
      | did effect => exact henter (congrArg Action.did (Option.some.inj haction))
      | _ => cases haction
  · rw [hscript] at hrefuse
    cases hrefuse
  · exact received_not_mem_cut before failing next hnext

/-- In a run, a disconnect packet of Login is the last thing that happens, if and
only if the client sends no packet that drives Login after a rejected login. -/
theorem run_finalDisconnect_iff (S : Setup) (fault : Nat → Option Fault) (inputs : List Input) :
    FinalDisconnect (S.run fault inputs).history ↔
      SilentAfterRejection (S.run fault inputs).history :=
  have htrace := (refines_run S fault inputs).trace
  ⟨htrace.silentAfterRejection, htrace.finalDisconnect⟩

/-- The frames of a handshake for Login, a `LoginStart` with the name "ab" and one
with the name "abc". -/
def secondName : List Input :=
  [.advance,
   .read (.ok ([8, 0, 0xfb, 0x05, 1, 0x61, 0x63, 0xdd, 2] ++ [5, 0, 2, 0x61, 0x62, 0] ++
     [6, 0, 3, 0x61, 0x62, 0x63, 0])),
   .advance, .advance, .advance]

theorem secondName_not_finalDisconnect :
    ¬ FinalDisconnect (bareRun .v1_20_1 false secondName).history := by
  intro h
  obtain ⟨action, haction, hsplit⟩ :=
    split_at (l := (bareRun .v1_20_1 false secondName).history) (i := 3)
      (p := Action.performs (Effect.sends S2CPacket.isLoginDisconnect)) (by decide +kernel)
  obtain ⟨effect, rfl, heffect⟩ := Action.performs_eq haction
  have hwrites : ((bareRun .v1_20_1 false secondName).history.drop 4).any
      (Action.writes fun _ => true) = true := by decide +kernel
  obtain ⟨later, hlater, hlaterWrites⟩ := List.any_eq_true.mp hwrites
  cases effect with
  | send answer =>
    rw [(h _ _ _ hsplit heffect later hlater).1] at hlaterWrites
    cases hlaterWrites
  | _ => cases heffect

end Setup

end Statik
