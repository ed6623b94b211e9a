import Statik.BuildTools.RegistryFiles
import Statik.Server.Writing

/-!
# Registries, from the build tool to the client

The data files that the build tool makes of the registries go out in the configuration
burst, and a client reads the registries back out of what it receives.
-/

namespace Statik

open Wire BuildRegistryNbt

/-- A registry as it is read: its id, and its entries. -/
abbrev RegistryRead := String × List (String × Bool × Nbt.Tree String)

/-- The registry in a packet, if it is one with a registry. -/
def S2CPacket.registry : S2CPacket → Option RegistryRead
  | .v1_21_1 ⟨.registryData, id, file, ()⟩ =>
    match readRegistryBlob file with
    | .ok (entries, []) => some (id, entries)
    | _ => none
  | _ => none

/-- What a client of 1.21.1 that is in Configuration reads of the body of a packet. -/
def readRegistry (serde : Serde) (body : Bytes) : Option RegistryRead :=
  match S2CPacket.decodeInState serde .v1_21_1 .configuration body with
  | .ok (packet, []) => packet.registry
  | _ => none

def S2CPacket.layout : S2CPacket → Layout
  | .v1_20_1 p => p.1.packet.layout
  | .v1_21_1 p => p.1.packet.layout

/-- A packet without block positions and texts in JSON is read off what it is encoded to. -/
theorem S2CPacket.decode_encoded {serde : Serde} {packet : S2CPacket} {body : Bytes}
    (hencode : packet.encode serde = .ok body) (htail : packet.layout.tailDelimited = true)
    (hfaithful : packet.layout.faithful = true) :
    S2CPacket.decodeInState serde packet.protocol packet.state body = .ok (packet, []) := by
  cases packet with
  | v1_20_1 p =>
    exact (PacketGroup.decodeInState_faithful (G := V1_20_1.s2c) hencode htail hfaithful).map _
  | v1_21_1 p =>
    exact (PacketGroup.decodeInState_faithful (G := V1_21_1.s2c) hencode htail hfaithful).map _

section

variable {env : Env}

/-- The packets of the configuration burst are read back. -/
theorem decode_configurationBurst {packet : S2CPacket} (hpacket : packet ∈ configurationBurst env)
    {body : Bytes} (hencode : packet.encode env.serde = .ok body) :
    S2CPacket.decodeInState env.serde .v1_21_1 .configuration body = .ok (packet, []) := by
  simp only [configurationBurst, List.mem_append, List.mem_cons, List.mem_map,
    List.not_mem_nil, or_false] at hpacket
  rcases hpacket with ((rfl | rfl) | ⟨entry, -, rfl⟩) | rfl | rfl | rfl
  all_goals exact S2CPacket.decode_encoded hencode rfl rfl

theorem readRegistry_burst {packets : List S2CPacket} {bodies : List Bytes}
    (hencodes : Encodes env.serde packets bodies)
    (hburst : ∀ packet ∈ packets, packet ∈ configurationBurst env) :
    bodies.filterMap (readRegistry env.serde) = packets.filterMap S2CPacket.registry := by
  induction packets generalizing bodies with
  | nil =>
    have hnil : bodies = [] := List.map_eq_nil_iff.mp hencodes.symm
    rw [hnil]
    rfl
  | cons packet packets ih =>
    cases bodies with
    | nil => cases hencodes
    | cons body bodies =>
      obtain ⟨hbody, hbodies⟩ := List.cons.inj hencodes
      have hread : readRegistry env.serde body = packet.registry := by
        rw [readRegistry,
          decode_configurationBurst (hburst packet List.mem_cons_self) hbody]
      have hrest := ih hbodies fun q hq => hburst q (List.mem_cons_of_mem packet hq)
      rw [List.filterMap_cons, List.filterMap_cons, hread, hrest]

theorem registry_registryData {entry : String × Bytes}
    {entries : List (String × Bool × Nbt.Tree String)}
    (h : readRegistryBlob entry.2 = .ok (entries, [])) :
    (V1_21_1.registryData entry).registry = some (entry.1, entries) := by
  unfold V1_21_1.registryData S2CPacket.registry
  simp only [h]

theorem registries_configurationBurst {formats : FloatFormats}
    {registry : String → List (String × Nbt.Tree String)}
    (hbuilt : ∀ entry ∈ V1_21_1.registries.all env.includeBytes,
      Built formats (registry entry.1) entry.2) :
    (configurationBurst env).filterMap S2CPacket.registry =
      (V1_21_1.registries.all env.includeBytes).map fun entry =>
        (entry.1, (registry entry.1).map entryRead) := by
  have hdata : ∀ entries : List (String × Bytes),
      (∀ entry ∈ entries, Built formats (registry entry.1) entry.2) →
      (entries.map V1_21_1.registryData).filterMap S2CPacket.registry =
        entries.map fun entry => (entry.1, (registry entry.1).map entryRead) := by
    intro entries hentries
    rw [List.filterMap_map, ← List.filterMap_eq_map]
    exact List.filterMap_congr fun entry hentry =>
      registry_registryData (hentries entry hentry).read
  have hbefore : [V1_21_1.customPayload, V1_21_1.featureFlags].filterMap S2CPacket.registry = [] :=
    rfl
  have hafter : [V1_21_1.updateTags, V1_21_1.knownPacks, V1_21_1.finishConfiguration].filterMap
      S2CPacket.registry = [] := rfl
  rw [configurationBurst, List.filterMap_append, List.filterMap_append, hbefore, hafter,
    hdata _ hbuilt, List.nil_append, List.append_nil]

theorem Encodes.split {serde : Serde} {packets packets' : List S2CPacket} {bodies : List Bytes}
    (h : Encodes serde (packets ++ packets') bodies) :
    ∃ before after, bodies = before ++ after ∧ Encodes serde packets before ∧
      Encodes serde packets' after := by
  rw [Encodes, List.map_append] at h
  obtain ⟨before, after, rfl, hbefore, hafter⟩ := List.map_eq_append_iff.mp h.symm
  exact ⟨before, after, rfl, hbefore.symm, hafter.symm⟩

end

namespace Setup

/-- A receiver of the output of a connection gets the bodies of the packets written. -/
theorem run_received (S : Setup) (fault : Nat → Option Fault) (inputs : List Input)
    (hsent : ∀ packet, .failed packet ∉ (S.run fault inputs).history)
    (hlawful : S.env.flate2.Lawful)
    (hfits : ∀ pre action post packet, (S.run fault inputs).history = pre ++ action :: post →
      action.effect = some (.send packet) → FitsFrame S.env (thresholdAfter pre) packet) :
    ∃ bodies threshold, Encodes S.env.serde (passed (S.run fault inputs).history) bodies ∧
      ∀ chunks : List Bytes, chunks.flatten = (S.run fault inputs).world.socket.sent →
        chunks.foldl (receiver S.env S.protocol).feed
            { items := [], state := none, pending := [] } =
          { items := bodies, state := threshold, pending := [] } := by
  have htrace := (refines_run S fault inputs).trace
  have hfit : Fitting S.env S.protocol none (S.run fault inputs).history :=
    fitting_of fun pre action post packet heq heffect =>
      ⟨(htrace.inPhase heq heffect).1, hfits pre action post packet heq heffect⟩
  obtain ⟨bodies, threshold, hbodies, hdrain⟩ := htrace.received hlawful hfit
  have hhanded : (S.run fault inputs).world.socket.sent =
      handed S.env (S.run fault inputs).history := by
    rcases (Machine.Delivered.run S fault inputs).exact_or_cut with hexact | hcut
    · exact hexact.sent
    · obtain ⟨packet, hpacket⟩ := hcut.failed
      exact absurd hpacket (hsent packet)
  refine ⟨bodies, threshold, hbodies, fun chunks hchunks => ?_⟩
  rw [Splitter.feed_chunks, hchunks, hhanded, hdrain]

/-- What the build tool was given is what clients of 1.21.1 read: in the output of a
connection that has come to Configuration, cut into chunks anyhow, a client receives the
configuration burst behind the replies in Login, and reads each of the registries in it,
entry by entry. -/
theorem run_registries (S : Setup) (fault : Nat → Option Fault) (inputs : List Input)
    (hprotocol : S.protocol = .v1_21_1)
    (hstate : (S.run fault inputs).state = .configuration ∨ (S.run fault inputs).state = .play)
    (hsent : ∀ packet, .failed packet ∉ (S.run fault inputs).history)
    (hlawful : S.env.flate2.Lawful)
    (hfits : ∀ pre action post packet, (S.run fault inputs).history = pre ++ action :: post →
      action.effect = some (.send packet) → FitsFrame S.env (thresholdAfter pre) packet)
    (formats : FloatFormats) (registry : String → List (String × Nbt.Tree String))
    (hbuilt : ∀ entry ∈ V1_21_1.registries.all S.env.includeBytes,
      Built formats (registry entry.1) entry.2) :
    ∃ replies before burst after,
      Encodes S.env.serde replies before ∧ (∀ q ∈ replies, q.state = .status ∨ q.state = .login) ∧
      Encodes S.env.serde (configurationBurst S.env) burst ∧
      burst.filterMap (readRegistry S.env.serde) =
        (V1_21_1.registries.all S.env.includeBytes).map (fun entry =>
          (entry.1, (registry entry.1).map entryRead)) ∧
      ∀ chunks : List Bytes, chunks.flatten = (S.run fault inputs).world.socket.sent →
        ∃ threshold, chunks.foldl (receiver S.env S.protocol).feed
            { items := [], state := none, pending := [] } =
          { items := before ++ burst ++ after, state := threshold, pending := [] } := by
  obtain ⟨bodies, threshold, hbodies, hreceived⟩ := run_received S fault inputs hsent hlawful hfits
  -- the burst among the packets written
  obtain ⟨replies, rest, hreplies, hpassed⟩ : ∃ replies rest,
      (∀ q ∈ replies, q.state = .status ∨ q.state = .login) ∧
      passed (S.run fault inputs).history = replies ++ (configurationBurst S.env ++ rest) := by
    rcases counted_run S fault inputs with ⟨packet, hmem⟩ | ⟨n, horder, -⟩
    · exact absurd hmem (hsent packet)
    · obtain ⟨replies, hreplies, hparts⟩ := horder.parts
      rcases hstate with hstate | hstate
      · refine ⟨replies, keepAlives S.protocol n, hreplies, ?_⟩
        rw [hparts, hstate, bursts]
      · refine ⟨replies, playBurst S.env S.config .v1_21_1 ++ keepAlives S.protocol n, hreplies, ?_⟩
        rw [hparts, hstate, bursts, hprotocol, List.append_assoc]
  rw [hpassed] at hbodies
  obtain ⟨before, later, rfl, hbefore, hlater⟩ := hbodies.split
  obtain ⟨burst, after, rfl, hburst, -⟩ := hlater.split
  refine ⟨replies, before, burst, after, hbefore, hreplies, hburst, ?_, fun chunks hchunks => ?_⟩
  · rw [readRegistry_burst hburst fun packet hpacket => hpacket]
    exact registries_configurationBurst hbuilt
  · refine ⟨threshold, ?_⟩
    rw [hreceived chunks hchunks, List.append_assoc]

/-- A server whose registries all have one entry. -/
def sampled : Setup :=
  let S := Setup.bare .v1_21_1 false
  { S with env := { S.env with
      includeBytes := fun _ =>
        (buildRegistryBlob oneFloats 990
          [.dict [("key", .str "minecraft:plains"), ("value", sampleNode)]]).getD [] } }

/-- The frames of a `Hello` and a `LoginAcknowledged`. -/
def acknowledged : List Input :=
  [.advance,
   .read (.ok ([8, 0, 0xff, 0x05, 1, 0x61, 0x63, 0xdd, 2] ++
     ([21, 0, 3, 0x61, 0x62, 0x63] ++ List.replicate 16 0) ++ [1, 3])),
   .advance, .advance, .advance, .advance, .advance, .advance]

theorem acknowledged_registries : ∃ burst,
    Encodes sampled.env.serde (configurationBurst sampled.env) burst ∧
      burst.filterMap (readRegistry sampled.env.serde) =
        (V1_21_1.registries.all sampled.env.includeBytes).map fun entry =>
          (entry.1, [("minecraft:plains", sampleTree)].map entryRead) := by
  have hbuilt : ∀ entry ∈ V1_21_1.registries.all sampled.env.includeBytes,
      Built oneFloats [("minecraft:plains", sampleTree)] entry.2 := by
    have hfile := buildRegistryBlob_eq (fun e he => (sample_fits e he).2) denotes_samples 990
    rw [if_pos (by decide)] at hfile
    intro entry hentry
    refine ⟨by decide, sample_fits, 990, _, denotes_samples, ?_⟩
    rw [all_outNames _ entry hentry]
    exact hfile.trans (by rw [sampled, hfile]; rfl)
  obtain ⟨-, -, burst, -, -, -, hburst, hread, -⟩ :=
    run_registries sampled (fun _ => none) acknowledged rfl
      (.inl (by decide +kernel)) (not_failed (by decide +kernel))
      (fun b compressed h => (Except.ok.inj h).symm)
      (fun pre action post packet heq heffect =>
        Fitting.at (by decide +kernel : Fitting sampled.env .v1_21_1 none
          (sampled.run (fun _ => none) acknowledged).history) heq heffect)
      oneFloats (fun _ => [("minecraft:plains", sampleTree)]) hbuilt
  exact ⟨burst, hburst, hread⟩

end Setup

end Statik
