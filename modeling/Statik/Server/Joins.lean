import Statik.Server.RoundTrip
import Statik.Server.Writing

/-!
# Joining

A client that follows the protocol under a valid name gets into Play, with everything that
belongs to it, however the network cuts up what it sends.
-/

namespace Statik

open Wire

/-! ### What the client sends -/

def DecodedC2S.layout : DecodedC2S → Layout
  | .v1_20_1 p => p.1.packet.layout
  | .v1_21_1 p => p.1.packet.layout

/-- The frame is the packet, encoded and framed for a connection under the threshold. -/
def Encloses (env : Env) (threshold : Option (BitVec 32)) (packet : DecodedC2S) (f : Frame) :
    Prop :=
  ∃ body, packet.encode env.serde = .ok body ∧ body.length ≤ maxPacketSize ∧
    frameBody env.flate2 threshold body = .ok f.body

/-- The packets with which a client joins under the name.  A client of 1.21.1 may send
others of Configuration before it finishes that. -/
inductive Joins (name : String) : ProtocolKind → List DecodedC2S → Prop
  | v1_20_1 (address : String) (port : BitVec 16) (uuid : Option (BitVec 128)) :
      Joins name .v1_20_1
        [.v1_20_1 ⟨.handshake, ⟨763⟩, address, port, .login, ()⟩,
         .v1_20_1 ⟨.loginStart, name, uuid, ()⟩]
  | v1_21_1 (address : String) (port : BitVec 16) (uuid : BitVec 128)
      (others : List V1_21_1.C2SPacket)
      (h : ∀ p ∈ others, p.1.packet.state = .configuration ∧ p.1 ≠ .finishConfigurationAck) :
      Joins name .v1_21_1
        (.v1_21_1 ⟨.handshake, ⟨767⟩, address, port, .login, ()⟩ ::
         .v1_21_1 ⟨.hello, name, uuid, ()⟩ ::
         .v1_21_1 ⟨.loginAcknowledged, ()⟩ ::
         (others.map .v1_21_1 ++ [.v1_21_1 ⟨.finishConfigurationAck, ()⟩]))

theorem DecodedC2S.encode_ne_nil {serde : Serde} {packet : DecodedC2S} {body : Bytes}
    (h : packet.encode serde = .ok body) : body ≠ [] := by
  have hne : ∀ (v : VarInt) (fields : Bytes), v.encode ++ fields ≠ [] := fun v fields =>
    List.append_ne_nil_of_left_ne_nil (VarInt.encode_ne_nil v) fields
  cases packet with
  | v1_20_1 p =>
    obtain ⟨fields, rfl, -⟩ := PacketGroup.encode_eq_ok (G := V1_20_1.c2s) h
    exact hne _ fields
  | v1_21_1 p =>
    obtain ⟨fields, rfl, -⟩ := PacketGroup.encode_eq_ok (G := V1_21_1.c2s) h
    exact hne _ fields

/-- A packet without block positions is read off what it is encoded to. -/
theorem DecodedC2S.decode_encoded {serde : Serde} {packet : DecodedC2S} {body : Bytes}
    (hfaithful : packet.layout.faithful = true) (h : packet.encode serde = .ok body) :
    decode serde packet.protocol packet.state body = .ok (packet, []) := by
  cases packet with
  | v1_20_1 p =>
    exact (PacketGroup.decodeInState_faithful (G := V1_20_1.c2s) h
      (ProtocolKind.c2s_tailDelimited .v1_20_1 p.1) hfaithful).map _
  | v1_21_1 p =>
    exact (PacketGroup.decodeInState_faithful (G := V1_21_1.c2s) h
      (ProtocolKind.c2s_tailDelimited .v1_21_1 p.1) hfaithful).map _

namespace Setup

variable {S : Setup} {p : Progress}

theorem Encloses.conveyed (hlawful : S.env.flate2.Lawful) {packet : DecodedC2S} {f : Frame}
    (h : Encloses S.env p.threshold packet f) (hprotocol : packet.protocol = S.protocol)
    (hstate : packet.state = p.state) (hfaithful : packet.layout.faithful = true) :
    S.Conveyed p packet f := by
  obtain ⟨body, hencode, hmax, hframed⟩ := h
  refine ⟨body, [], bodyBytes_frameBody hlawful (DecodedC2S.encode_ne_nil hencode) hmax hframed, ?_⟩
  rw [← hprotocol, ← hstate]
  exact DecodedC2S.decode_encoded hfaithful hencode

/-! ### The steps of a join -/

/-- The threshold of a connection that is logged in. -/
def loginThreshold (S : Setup) : Option (BitVec 32) :=
  if S.config.compression.enabled then some S.config.compression.threshold else none

theorem thresholdFrom_acceptance (name : String) (protocol : ProtocolKind) :
    thresholdFrom none ((S.acceptance name protocol).map .did) = S.loginThreshold := by
  rw [acceptance, loginThreshold]
  split <;> rfl

/-- A block that is not refused, from the effects of its script. -/
theorem block_of_script {packet : DecodedC2S} (effects : List Effect)
    (h : S.script p.state packet = .run effects) {state : State} {threshold : Option (BitVec 32)}
    (hstate : stateFrom p.state (effects.map .did) = state)
    (hthreshold : thresholdFrom p.threshold (effects.map .did) = threshold) :
    S.block p packet = (.received packet :: effects.map .did,
      { state := state, threshold := threshold, refused := false }) := by
  rw [block_run h, hstate, hthreshold]

theorem block_handshake {packet : DecodedC2S}
    (h : S.script .handshake packet = .run [.enter .login]) :
    S.block .start packet = (.received packet :: [Effect.enter .login].map .did,
      { state := .login, threshold := none, refused := false }) :=
  block_of_script [.enter .login] h rfl rfl

/-- The name is accepted, and what follows it is done. -/
theorem block_login (packet : DecodedC2S) {name : String} {protocol : ProtocolKind}
    {then_ : List Effect}
    (h : S.script .login packet = .run (S.acceptance name protocol ++ then_)) {state : State}
    (hstate : stateFrom .login (then_.map .did) = state)
    (hthreshold : thresholdFrom S.loginThreshold (then_.map .did) = S.loginThreshold) :
    S.block { state := .login, threshold := none, refused := false } packet =
      (.received packet :: (S.acceptance name protocol ++ then_).map .did,
        { state := state, threshold := S.loginThreshold, refused := false }) := by
  refine block_of_script _ h ?_ ?_
  · rw [List.map_append, stateFrom_append, stateFrom_did _ (S.acceptance name protocol),
      enters_acceptance]
    exact hstate
  · rw [List.map_append, thresholdFrom_append, thresholdFrom_acceptance]
    exact hthreshold

/-- A state is entered, with its burst. -/
theorem block_entering {packet : DecodedC2S} {from_ next : State} {burst : List S2CPacket}
    (h : S.script from_ packet = .run (entering next burst)) (threshold : Option (BitVec 32)) :
    S.block { state := from_, threshold := threshold, refused := false } packet =
      (.received packet :: (entering next burst).map .did,
        { state := next, threshold := threshold, refused := false }) := by
  exact block_of_script _ h (stateFrom_entering _ next burst)
    (thresholdFrom_sends threshold burst)

/-- A packet that Configuration ignores. -/
theorem block_ignored {q : V1_21_1.C2SPacket} (h : q.1 ≠ .finishConfigurationAck)
    (threshold : Option (BitVec 32)) :
    S.block { state := .configuration, threshold := threshold, refused := false } (.v1_21_1 q) =
      ([.received (.v1_21_1 q)],
        { state := .configuration, threshold := threshold, refused := false }) := by
  refine block_of_script [] ?_ rfl rfl
  obtain ⟨v, x⟩ := q
  cases v with
  | finishConfigurationAck => exact absurd rfl h
  | _ => rfl

theorem configuration_faithful {v : V1_21_1.c2s.Variant}
    (h : (V1_21_1.c2s.packet v).state = .configuration) :
    (V1_21_1.c2s.packet v).layout.faithful = true := by
  revert h
  cases v <;> decide

/-! ### The whole join -/

/-- What a conversation comes to: it is read to its end, nothing in it is refused, and so
much is sent. -/
structure Leads (S : Setup) (p p' : Progress) (messages : List (DecodedC2S × Frame))
    (sent : List S2CPacket) : Prop where
  conveys : S.Conveys p messages
  progress : S.progressAfter p (messages.map Prod.fst) = p'
  passes : passed (S.answers p (messages.map Prod.fst)).flatten = sent
  scripted : ∀ q, .did (.send q) ∈ (S.answers p (messages.map Prod.fst)).flatten → q ∈ sent

namespace Leads

theorem nil (p : Progress) : S.Leads p p [] [] :=
  { conveys := trivial, progress := rfl, passes := rfl,
    scripted := fun _ hq => absurd hq List.not_mem_nil }

theorem cons {p p' p'' : Progress} {packet : DecodedC2S} {f : Frame}
    {later : List (DecodedC2S × Frame)} {effects : List Effect} {sent : List S2CPacket}
    (hrefused : p.refused = false) (hconveyed : S.Conveyed p packet f)
    (hblock : S.block p packet = (.received packet :: effects.map .did, p'))
    (h : S.Leads p' p'' later sent) :
    S.Leads p p'' ((packet, f) :: later) (effects.filterMap Effect.sent ++ sent) := by
  have hanswers : (S.answers p (((packet, f) :: later).map Prod.fst)).flatten =
      (.received packet :: effects.map .did) ++
        (S.answers p' (later.map Prod.fst)).flatten := by
    rw [List.map_cons, answers, hblock, List.flatten_cons]
  refine { conveys := ⟨hrefused, hconveyed, ?_⟩, progress := ?_, passes := ?_,
           scripted := fun q hq => ?_ }
  · rw [hblock]
    exact h.conveys
  · rw [List.map_cons, progressAfter, hblock]
    exact h.progress
  · rw [hanswers, passed_append, h.passes, passed, List.filterMap_cons_none rfl]
    exact congrArg (· ++ sent) (passed_did effects)
  · rw [hanswers] at hq
    rcases List.mem_append.mp hq with hq | hq
    · rcases List.mem_cons.mp hq with hq | hq
      · cases hq
      · obtain ⟨effect, heffect, heq⟩ := List.mem_map.mp hq
        rw [Action.did.inj heq] at heffect
        exact List.mem_append_left _ (List.mem_filterMap.mpr ⟨_, heffect, rfl⟩)
    · exact List.mem_append_right _ (h.scripted q hq)

end Leads

theorem leads_nil_cons {p p' p'' : Progress} {packet : DecodedC2S} {f : Frame}
    {later : List (DecodedC2S × Frame)} {sent : List S2CPacket} (hrefused : p.refused = false)
    (hconveyed : S.Conveyed p packet f) (hblock : S.block p packet = ([.received packet], p'))
    (h : S.Leads p' p'' later sent) : S.Leads p p'' ((packet, f) :: later) sent := by
  have hblock' : S.block p packet = (.received packet :: ([] : List Effect).map .did, p') := hblock
  exact Leads.cons hrefused hconveyed hblock' h

/-- Configuration is finished, after other packets that are ignored. -/
theorem leads_configuration (hlawful : S.env.flate2.Lawful) (hprotocol : S.protocol = .v1_21_1)
    {threshold : Option (BitVec 32)} {others : List V1_21_1.C2SPacket}
    (hothers : ∀ q ∈ others, q.1.packet.state = .configuration ∧ q.1 ≠ .finishConfigurationAck)
    {messages : List (DecodedC2S × Frame)}
    (hmessages : messages.map Prod.fst =
      others.map .v1_21_1 ++ [.v1_21_1 ⟨.finishConfigurationAck, ()⟩])
    (hencloses : ∀ m ∈ messages, Encloses S.env threshold m.1 m.2) :
    S.Leads { state := .configuration, threshold := threshold, refused := false }
      { state := .play, threshold := threshold, refused := false } messages
      (playBurst S.env S.config .v1_21_1) := by
  induction others generalizing messages with
  | nil =>
    obtain ⟨⟨packet, f⟩, later, rfl, rfl, hlater⟩ := List.map_eq_cons_iff.mp hmessages
    cases List.map_eq_nil_iff.mp hlater
    have hconveyed := Encloses.conveyed (p := ⟨.configuration, threshold, false⟩) hlawful
      (hencloses _ List.mem_cons_self) hprotocol.symm rfl rfl
    have hleads := Leads.cons rfl hconveyed (block_entering rfl threshold) (Leads.nil _)
    rwa [sent_entering, List.append_nil] at hleads
  | cons q others ih =>
    obtain ⟨⟨packet, f⟩, later, rfl, rfl, hlater⟩ := List.map_eq_cons_iff.mp hmessages
    obtain ⟨⟨hstate, hne⟩, hrest⟩ := List.forall_mem_cons.mp hothers
    have hconveyed := Encloses.conveyed (p := ⟨.configuration, threshold, false⟩) hlawful
      (hencloses _ List.mem_cons_self) hprotocol.symm hstate (configuration_faithful hstate)
    exact leads_nil_cons rfl hconveyed (block_ignored hne threshold)
      (ih hrest hlater fun m hm => hencloses m (List.mem_cons_of_mem _ hm))

/-- A join leads into Play. -/
theorem Joins.leads (hlawful : S.env.flate2.Lawful) {name : String}
    (hvalid : isValidUsername name = true) {messages : List (DecodedC2S × Frame)}
    (hjoins : Joins name S.protocol (messages.map Prod.fst))
    (hfirst : ∀ m ∈ messages.take 2, Encloses S.env none m.1 m.2)
    (hlater : ∀ m ∈ messages.drop 2, Encloses S.env S.loginThreshold m.1 m.2) :
    S.Leads .start { state := .play, threshold := S.loginThreshold, refused := false } messages
      ((S.acceptance name S.protocol).filterMap Effect.sent ++ S.bursts .play) := by
  have hhandshake : ∀ {version : BitVec 32}, asUsize version = S.protocol.protocolVersion →
      S.handshake version .login = .run [.enter .login] := fun h => if_pos h
  have hlogin : ∀ protocol then_, S.loginScript name protocol then_ =
      .run (S.acceptance name protocol ++ then_) := fun protocol then_ => if_pos hvalid
  generalize hpackets : messages.map Prod.fst = packets at hjoins
  generalize hprotocol : S.protocol = protocol at hjoins
  rw [hprotocol] at hhandshake
  cases hjoins with
  | v1_20_1 address port uuid =>
    obtain ⟨⟨_, f⟩, rest, rfl, rfl, hrest⟩ := List.map_eq_cons_iff.mp hpackets
    obtain ⟨⟨_, g⟩, rest', rfl, rfl, hnil⟩ := List.map_eq_cons_iff.mp hrest
    cases List.map_eq_nil_iff.mp hnil
    have hgreeting := Encloses.conveyed (p := .start) hlawful (hfirst _ List.mem_cons_self)
      hprotocol.symm rfl rfl
    have hstart := Encloses.conveyed (p := ⟨.login, none, false⟩) hlawful
      (hfirst _ (List.mem_cons_of_mem _ List.mem_cons_self)) hprotocol.symm rfl rfl
    have hblock := S.block_login (.v1_20_1 ⟨.loginStart, name, uuid, ()⟩) (hlogin .v1_20_1 _)
      (stateFrom_entering _ _ _) (thresholdFrom_sends _ _)
    have hleads := Leads.cons rfl hgreeting (block_handshake (hhandshake (by decide)))
      (Leads.cons rfl hstart hblock (Leads.nil _))
    rw [List.filterMap_append, sent_entering, List.append_nil] at hleads
    rw [bursts, hprotocol]
    exact hleads
  | v1_21_1 address port uuid others hothers =>
    obtain ⟨⟨_, f⟩, rest, rfl, rfl, hrest⟩ := List.map_eq_cons_iff.mp hpackets
    obtain ⟨⟨_, g⟩, rest', rfl, rfl, hrest'⟩ := List.map_eq_cons_iff.mp hrest
    obtain ⟨⟨_, k⟩, rest'', rfl, rfl, hrest''⟩ := List.map_eq_cons_iff.mp hrest'
    have hgreeting := Encloses.conveyed (p := .start) hlawful (hfirst _ List.mem_cons_self)
      hprotocol.symm rfl rfl
    have hhello := Encloses.conveyed (p := ⟨.login, none, false⟩) hlawful
      (hfirst _ (List.mem_cons_of_mem _ List.mem_cons_self)) hprotocol.symm rfl rfl
    have hack := Encloses.conveyed (p := ⟨.login, S.loginThreshold, false⟩) hlawful
      (hlater _ List.mem_cons_self) hprotocol.symm rfl rfl
    have hconfiguration := leads_configuration hlawful hprotocol hothers hrest''
      fun m hm => hlater m (List.mem_cons_of_mem _ hm)
    have hblock := S.block_login (.v1_21_1 ⟨.hello, name, uuid, ()⟩) (hlogin .v1_21_1 []) rfl rfl
    have hleads := Leads.cons rfl hgreeting (block_handshake (hhandshake (by decide)))
      (Leads.cons rfl hhello hblock (Leads.cons rfl hack (block_entering rfl _) hconfiguration))
    rw [List.append_nil, sent_entering] at hleads
    rw [bursts, hprotocol]
    exact hleads

theorem Presentable.bursts (h : S.Presentable) {q : S2CPacket} (hq : q ∈ S.bursts .play) :
    q.Short S.env.serde := by
  rw [Setup.bursts] at hq
  split at hq
  · exact h.playBurst _ hq
  · rcases List.mem_append.mp hq with hq | hq
    · exact Presentable.configurationBurst S hq
    · exact h.playBurst _ hq

/-- A client that joins under a valid name, and frames what it sends by the rules that the
server has for it by then, is sent the acceptance of its login and every burst of its
version, in their order and nothing else beside keepalives, once the server has read it all
and waits.  With texts in the configuration that can be sent and a socket that takes them,
the server gets there, however the stream is cut up. -/
theorem run_joins (S : Setup) (hlawful : S.env.flate2.Lawful) (name : String)
    (hvalid : isValidUsername name = true) (messages : List (DecodedC2S × Frame))
    (hjoins : Joins name S.protocol (messages.map Prod.fst))
    (hfirst : ∀ m ∈ messages.take 2, Encloses S.env none m.1 m.2)
    (hlater : ∀ m ∈ messages.drop 2, Encloses S.env S.loginThreshold m.1 m.2) :
    (∀ fault inputs, (S.run fault inputs).received = streamOf (messages.map Prod.snd) →
      (S.run fault inputs).phase = .waiting →
      (S.run fault inputs).state = .play ∧
        passed (driven (S.run fault inputs).history) =
          (S.acceptance name S.protocol).filterMap Effect.sent ++ S.bursts .play) ∧
    (S.Presentable → S.env.flate2.Total →
      ∀ chunks : List Bytes, chunks.flatten = streamOf (messages.map Prod.snd) →
        (∀ c ∈ chunks, c ≠ []) →
        ∃ inputs : List Input, inputs.filterMap Input.chunk = chunks ∧
          (S.run (fun _ => none) inputs).received = streamOf (messages.map Prod.snd) ∧
          (S.run (fun _ => none) inputs).phase = .waiting) := by
  have hleads := Joins.leads hlawful hvalid hjoins hfirst hlater
  refine ⟨fun fault inputs hreceived hwaiting => ?_, fun hpresentable hdeflate chunks => ?_⟩
  · obtain ⟨hdriven, hprogress, -⟩ :=
      hleads.conveys.answered (Replays.run S fault inputs) hreceived hwaiting
    refine ⟨?_, by rw [hdriven, hleads.passes]⟩
    rw [hleads.progress] at hprogress
    exact congrArg Progress.state hprogress
  · have hshort : ∀ q, .did (.send q) ∈ (S.answers .start (messages.map Prod.fst)).flatten →
        q.Short S.env.serde := by
      intro q hq
      rcases List.mem_append.mp (hleads.scripted q hq) with hacceptance | hburst
      · obtain ⟨effect, heffect, hsent⟩ := List.mem_filterMap.mp hacceptance
        cases effect with
        | send packet =>
          cases hsent
          exact Presentable.acceptance hvalid _ heffect
        | enter state => cases hsent
        | compress threshold => cases hsent
      · exact hpresentable.bursts hburst
    have haccepted : (S.progressAfter .start (messages.map Prod.fst)).refused = false := by
      rw [hleads.progress]
    exact (hleads.conveys.finishes haccepted (Writable.of_short hdeflate hshort none)).reached
      chunks

/-- A client of 1.21.1 that joins as "abc" under compression, with a `Pong` on the way, and
sends all packets below the threshold. -/
def joiner : List (DecodedC2S × Frame) :=
  [(.v1_21_1 ⟨.handshake, ⟨767⟩, "a", 25565, .login, ()⟩,
    .of [0, 0xff, 0x05, 1, 0x61, 0x63, 0xdd, 2] (by decide)),
   (.v1_21_1 ⟨.hello, "abc", 0, ()⟩,
    .of ([0, 3, 0x61, 0x62, 0x63] ++ List.replicate 16 0) (by decide)),
   (.v1_21_1 ⟨.loginAcknowledged, ()⟩, .of [0, 3] (by decide)),
   (.v1_21_1 ⟨.pongConfiguration, 7, ()⟩, .of [0, 5, 0, 0, 0, 7] (by decide)),
   (.v1_21_1 ⟨.finishConfigurationAck, ()⟩, .of [0, 3] (by decide))]

theorem joiner_joins : Joins "abc" .v1_21_1 (joiner.map Prod.fst) := by
  refine Joins.v1_21_1 "a" 25565 0 [⟨.pongConfiguration, 7, ()⟩] fun p hp => ?_
  cases List.mem_singleton.mp hp
  exact ⟨rfl, by decide⟩

theorem joiner_encloses :
    (∀ m ∈ joiner.take 2, Encloses (printing .v1_21_1).env none m.1 m.2) ∧
      ∀ m ∈ joiner.drop 2,
        Encloses (printing .v1_21_1).env (printing .v1_21_1).loginThreshold m.1 m.2 := by
  constructor
  · intro m hm
    rcases List.mem_pair.mp (show m ∈ [_, _] from hm) with rfl | rfl
    · exact ⟨_, rfl, by decide, rfl⟩
    · exact ⟨_, rfl, by decide, rfl⟩
  · intro m hm
    simp only [joiner, List.drop_succ_cons, List.drop_zero, List.mem_cons, List.not_mem_nil,
      or_false] at hm
    rcases hm with rfl | rfl | rfl
    · exact ⟨_, rfl, by decide, rfl⟩
    · exact ⟨_, rfl, by decide, rfl⟩
    · exact ⟨_, rfl, by decide, rfl⟩

/-- It gets into Play, with its bytes in one read. -/
theorem joiner_plays : ∃ inputs : List Input,
    inputs.filterMap Input.chunk = [streamOf (joiner.map Prod.snd)] ∧
      ((printing .v1_21_1).run (fun _ => none) inputs).state = .play := by
  obtain ⟨hplays, hreached⟩ := run_joins (printing .v1_21_1)
    (fun b compressed h => by cases h; rfl) "abc" (by decide) joiner joiner_joins
    joiner_encloses.1 joiner_encloses.2
  obtain ⟨inputs, hchunks, hreceived, hwaiting⟩ := hreached (printing_presentable .v1_21_1)
    (fun b => ⟨b, rfl⟩) [streamOf (joiner.map Prod.snd)] (List.append_nil _) (by
      intro c hc
      rw [List.mem_singleton.mp hc]
      exact List.cons_ne_nil _ _)
  exact ⟨inputs, hchunks, (hplays _ inputs hreceived hwaiting).1⟩

end Setup

end Statik
