import Cozyplane.OriginIsolationProofs

/-!
# Isolation at decapsulation — a tenant packet in `from_overlay`

A packet arrives from a known node under tunnel network `v`, not the default one. It may be
dropped, enter an endpoint of `v`, or be tunnelled on under `v`.

Every stage of `from_overlay` that is keyed by `v` (local endpoint, floating address, route
table, gateway, migration) does one of these. Two are not: the VPC NAT reverse path takes its
network from `nat_of`, by address alone, and the end of the program hands the packet to the
kernel. `decapStays` says when neither matters.
-/

namespace CozyDecap

open CozyPacket CozyMaps CozyDatapath CozyNat
open CozyFromPod CozyReceive

variable {m : Maps} {f : Flows} {skb : Skb} {p : Pkt}

/-- The node `nat_owner` names for the port a reply carries. -/
def natShardOwner (k : Family) (m : Maps) (fr : Frame) (p : Pkt) : Option U32 :=
  match replyPorts k fr p.proto with
  | none => none
  | some (gwPort, _) =>
    if gwPort < 1024#16 then none else m.natOwner ⟨p.dst, (gwPort - 1024#16) / 4032#16⟩

/-- The reply's port belongs to another node. -/
def natOwnedElsewhere (k : Family) (m : Maps) (fr : Frame) (p : Pkt) : Bool :=
  match natShardOwner k m fr p with
  | some owner => owner != cfg m cfgNodeIp
  | none => false

variable {vni : U32} {out : Out}

/-- **VPC NAT REVERSE**: tunnelled to the owner of the port, or delivered to the flow's pod, under
    the network `nat_of` names. -/
theorem vpcNatReverseOf_act {k : Family} (h : vpcNatReverseOf k m f skb p = some out) :
    ∃ net, m.natOf p.dst = some net ∧
      ((natOwnedElsewhere k m skb.frame p = true ∧
          ∃ owner, out.act = (encap m f skb net owner 0#32).act) ∨
        (natOwnedElsewhere k m skb.frame p = false ∧
          ∃ ip l, localOf m net ip = some l ∧ out.act = .deliver net ip l)) := by
  obtain ⟨net, g, peer, owner, hnat, hports, hlow, howner, hcase⟩ := vpcNatReverseOf_some h
  have helse : natOwnedElsewhere k m skb.frame p = (owner != cfg m cfgNodeIp) := by
    unfold natOwnedElsewhere natShardOwner
    simp only [hports, if_neg hlow, howner]
  refine ⟨net, hnat, ?_⟩
  rw [helse]
  rcases hcase with ⟨haway, rfl⟩ | ⟨rfl, rv, l, hl, rfl⟩
  · exact .inl ⟨bne_iff_ne.mpr haway, owner, rfl⟩
  · exact .inr ⟨bne_self_eq_false _, rv.fabricIp, l, hl, rfl⟩

/-- The family of a packet. -/
def familyOf (p : Pkt) : Family := if p.isV6 then family6 else family4

theorem natReverse_act (h : natReverse m f skb p = some out) :
    ∃ net, m.natOf p.dst = some net ∧
      ((natOwnedElsewhere (familyOf p) m skb.frame p = true ∧
          ∃ owner, out.act = (encap m f skb net owner 0#32).act) ∨
        (natOwnedElsewhere (familyOf p) m skb.frame p = false ∧
          ∃ ip l, localOf m net ip = some l ∧ out.act = .deliver net ip l)) := by
  unfold natReverse at h
  unfold familyOf
  cases hv6 : p.isV6 with
  | true =>
    rw [hv6] at h
    exact vpcNatReverseOf_act h
  | false =>
    rw [hv6] at h
    simp only [Bool.false_eq_true, if_false, vpcNatReverse] at h
    split at h
    · nomatch h
    · exact vpcNatReverseOf_act h

/-- Dropped, into an endpoint of `v`, or on under `v`. -/
def StaysInVni (m : Maps) (vni : U32) (act : Act) : Prop :=
  act = .shot ∨ (∃ x ep, localOf m vni x = some ep ∧ act = .deliver vni x ep) ∨
    ∃ node opt, act = .tunnel vni node opt

theorem not_staysInVni_ok : ¬ StaysInVni m vni .ok := by
  rintro (h | ⟨x, ep, -, h⟩ | ⟨node, opt, h⟩)
  · nomatch h
  · nomatch h
  · nomatch h

theorem staysInVni_deliver {net : U32} {x : Addr} {ep : Endpoint} (hl : localOf m net x = some ep) :
    StaysInVni m vni (.deliver net x ep) ↔ net = vni := by
  constructor
  · rintro (h | ⟨x', ep', -, h⟩ | ⟨node, opt, h⟩)
    · nomatch h
    · exact (Act.deliver.inj h).1
    · nomatch h
  · rintro rfl
    exact .inr (.inl ⟨x, ep, hl, rfl⟩)

theorem staysInVni_encap {net node : U32} (hvni : vni ≠ cfg m cfgVni) :
    StaysInVni m vni (encap m f skb net node 0#32).act ↔
      cfg m cfgGeneveIfindex = 0#32 ∨ (net = vni ∧ net ≠ 0#32) := by
  rw [encap_act]
  by_cases hg : cfg m cfgGeneveIfindex = 0#32
  · simp [hg, StaysInVni]
  rw [if_neg hg]
  have htun : StaysInVni m vni (.tunnel (tunnelId m net 0#32) node none) ↔
      tunnelId m net 0#32 = vni := by
    constructor
    · rintro (h | ⟨x, ep, -, h⟩ | ⟨node', opt, h⟩)
      · nomatch h
      · nomatch h
      · exact (Act.tunnel.inj h).1
    · intro h; rw [h]; exact .inr (.inr ⟨node, none, rfl⟩)
  rw [htun]
  by_cases hz : net = 0#32
  · subst hz
    simpa [tunnelId, hg] using Ne.symm hvni
  · simp [tunnelId, hz, hg]

-- ── the states that have it

/-- No local endpoint of `vni` has the address: the NAT path must miss or name `vni` itself, and a
    stage of `vni` claim the packet. -/
def decapStays (m : Maps) (f : Flows) (skb : Skb) (p : Pkt) (id vni : U32) : Prop :=
  if (natReverse m f skb p).isSome then
    (natOwnedElsewhere (familyOf p) m skb.frame p = true ∧ cfg m cfgGeneveIfindex = 0#32) ∨
      (m.natOf p.dst = some vni ∧
        (natOwnedElsewhere (familyOf p) m skb.frame p = true → vni ≠ 0#32))
  else
    (overlayFloating m f skb p vni).isSome = true ∨
      (overlayRoute m f skb p id vni).isSome = true ∨
      ((m.migrateFwd ⟨vni, p.dst⟩).isSome = true ∧
        (cfg m cfgGeneveIfindex = 0#32 ∨ vni ≠ 0#32))

theorem overlayLocal_stays {id : U32} {ep : Endpoint} (hl : localOf m vni p.dst = some ep) :
    StaysInVni m vni (overlayLocal m f skb p id vni ep).act := by
  have hinto : StaysInVni m vni (.deliver vni p.dst ep) := (staysInVni_deliver hl).mpr rfl
  unfold overlayLocal
  split
  · exact hinto
  split
  · exact hinto
  split
  · split
    · exact .inl rfl
    · exact hinto
  · exact hinto

theorem overlayFloating_stays (h : overlayFloating m f skb p vni = some out) :
    StaysInVni m vni out.act := by
  obtain ⟨ip, ep, hl, rfl⟩ := overlayFloating_some h
  exact (staysInVni_deliver hl).mpr rfl

theorem overlayRoute_stays {id : U32} (h : overlayRoute m f skb p id vni = some out) :
    StaysInVni m vni out.act := by
  rcases overlayRoute_some h with rfl | ⟨ip, ep, hl, rfl⟩
  · exact .inl rfl
  · exact (staysInVni_deliver hl).mpr rfl

/-- The delivery step for tunnel network `vni`. -/
theorem overlayVpc_stays_iff {id : U32} (hvni : vni ≠ cfg m cfgVni) :
    StaysInVni m vni (overlayVpc m f skb p id vni).act ↔
      (localOf m vni p.dst).isSome = true ∨ decapStays m f skb p id vni := by
  unfold overlayVpc
  cases hl : localOf m vni p.dst with
  | some ep => simpa using overlayLocal_stays hl
  | none =>
    simp only [Option.isSome_none, Bool.false_eq_true, false_or]
    unfold decapStays
    cases hnat : natReverse m f skb p with
    | some out =>
      simp only [attempt, orElse_done, Option.isSome_some, if_true]
      obtain ⟨net, hnet, ⟨helse, owner, hact⟩ | ⟨hhere, ip, l, hl', hact⟩⟩ := natReverse_act hnat
      · rw [hact, staysInVni_encap hvni, hnet]
        simp only [helse, true_and, Option.some.injEq, forall_const]
        constructor
        · rintro (h | ⟨rfl, h⟩)
          · exact .inl h
          · exact .inr ⟨rfl, h⟩
        · rintro (h | ⟨rfl, h⟩)
          · exact .inl h
          · exact .inr ⟨rfl, h⟩
      · rw [hact, staysInVni_deliver hl', hnet]
        simp [hhere]
    | none =>
      simp only [attempt, orElse_miss, Option.isSome_none, Bool.false_eq_true, if_false]
      cases hfl : overlayFloating m f skb p vni with
      | some out => simpa using overlayFloating_stays hfl
      | none =>
        simp only [orElse_miss, Option.isSome_none, Bool.false_eq_true, false_or]
        cases hrt : overlayRoute m f skb p id vni with
        | some out => simpa using overlayRoute_stays hrt
        | none =>
          simp only [orElse_miss, Option.isSome_none, Bool.false_eq_true, false_or]
          cases hmig : m.migrateFwd ⟨vni, p.dst⟩ with
          | some tgt =>
            rw [staysInVni_encap hvni]
            simp
          | none => simpa [okOut] using not_staysInVni_ok

/-- **A TENANT PACKET STAYS IN ITS VNI AT DECAPSULATION EXACTLY WHEN** its header is refused, its
    address is a local endpoint of the network, or `decapStays`. -/
theorem fromOverlay_staysInVni_iff (m : Maps) (f : Flows) (skb : Skb) (id remote : U32)
    (htun : skb.tunKey = some (id, remote)) (hnode : m.overlayNodes remote = true)
    (hvni : tunnelVni id ≠ cfg m cfgVni) :
    StaysInVni m (tunnelVni id) (cozyplaneFromOverlay m f skb).act ↔
      unsupportedIpHeader skb.frame = true ∨
        ∃ p, parseIp skb.frame = some p ∧
          ((localOf m (tunnelVni id) p.dst).isSome = true ∨
            decapStays m f (Skb.clearMarks skb) p id (tunnelVni id)) := by
  have hkey : (Skb.clearMarks skb).tunKey = some (id, remote) := htun
  have hframe : (Skb.clearMarks skb).frame = skb.frame := rfl
  unfold cozyplaneFromOverlay
  simp only []
  rw [hkey, hframe]
  split
  · rename_i hu
    exact ⟨fun _ => .inl hu, fun _ => .inl rfl⟩
  rename_i hu
  simp only [hnode, Bool.not_true, Bool.false_eq_true, if_false]
  cases hp : parseIp skb.frame with
  | none =>
    constructor
    · intro h; exact absurd h not_staysInVni_ok
    · rintro (h | ⟨p, hq, -⟩)
      · exact absurd h hu
      · nomatch hq
  | some p =>
    simp only []
    rw [if_neg hvni, overlayVpc_stays_iff hvni]
    constructor
    · intro h; exact .inr ⟨p, rfl, h⟩
    · rintro (h | ⟨q, hq, h⟩)
      · exact absurd h hu
      · cases hq
        exact h

/-- VPC 100 has pod 10.0.0.6 on veth 6; VPC 200 has pod 10.0.0.7 on veth 9 and the NAT address
    10.0.9.9, whose first shard is this node's. -/
def decapMaps : Maps := { Maps.empty with
  params := fun i => if i = cfgVni then 1#32 else if i = cfgNodeIp then 3#32 else 0#32
  overlayNodes := fun n => n = 7#32
  locals := fun k =>
    if k = ⟨100#32, v4To128 0x0a000006#32⟩ then some ⟨6#32, 2#256⟩
    else if k = ⟨200#32, v4To128 0x0a000007#32⟩ then some ⟨9#32, 3#256⟩
    else none
  natOf := fun a => if a = v4To128 0x0a000909#32 then some 200#32 else none
  natOwner := fun k => if k = ⟨v4To128 0x0a000909#32, 0#16⟩ then some 3#32 else none }

/-- VPC 200's pod talks to 10.0.0.5:12345 by NAT port 1030. -/
def decapFlows : Flows := { Flows.empty with
  ctRev := fun k =>
    if k = ⟨ipprotoUdp, 1030#16, 200#32, v4To128 0x0a000005#32, 12345#16⟩ then
      some ⟨v4To128 0x0a000007#32, v4To128 0x0a000909#32, 8080#16⟩
    else none }

/-- A datagram to NAT port 1030, tunnelled under VPC 100. -/
def udpUnder100 (daddr : U32) : Skb :=
  ⟨.ip4 ⟨4#4, 5#4, 0#16, ipprotoUdp, 0x0a000005#32, daddr⟩
    [0x30#8, 0x39#8, 0x04#8, 0x06#8, 0#8, 8#8, 0#8, 0#8], 0#32, 2#32, 2#32,
    some (100#32, 7#32), none⟩

theorem fromOverlay_staysInVni_pod :
    StaysInVni decapMaps (tunnelVni 100#32)
      (cozyplaneFromOverlay decapMaps decapFlows (udpUnder100 0x0a000006#32)).act :=
  (fromOverlay_staysInVni_iff decapMaps decapFlows (udpUnder100 0x0a000006#32) 100#32 7#32
    rfl (by decide) (by decide)).mpr (.inr ⟨_, rfl, .inl (by decide)⟩)

/-- **A STALE REMOTE AND AN OVERLAPPING NAT ADDRESS**: one packet of VPC 100 goes to the kernel, and
    one for 10.0.9.9 is delivered into VPC 200. -/
theorem fromOverlay_leaves_vni :
    (cozyplaneFromOverlay decapMaps decapFlows (udpUnder100 0x0a000008#32)).act = .ok ∧
    (cozyplaneFromOverlay decapMaps decapFlows (udpUnder100 0x0a000909#32)).act =
      .deliver 200#32 (v4To128 0x0a000007#32) ⟨9#32, 3#256⟩ ∧
    ¬ StaysInVni decapMaps (tunnelVni 100#32)
      (cozyplaneFromOverlay decapMaps decapFlows (udpUnder100 0x0a000008#32)).act ∧
    ¬ StaysInVni decapMaps (tunnelVni 100#32)
      (cozyplaneFromOverlay decapMaps decapFlows (udpUnder100 0x0a000909#32)).act := by
  have hok : (cozyplaneFromOverlay decapMaps decapFlows (udpUnder100 0x0a000008#32)).act =
      .ok := by decide
  have hnat : (cozyplaneFromOverlay decapMaps decapFlows (udpUnder100 0x0a000909#32)).act =
      .deliver 200#32 (v4To128 0x0a000007#32) ⟨9#32, 3#256⟩ := by decide
  refine ⟨hok, hnat, ?_, ?_⟩
  · exact not_staysInVni_ok
  · rw [hnat, staysInVni_deliver (by decide)]
    decide

end CozyDecap
