import Cozyplane.ReceiveProofs

/-!
# Isolation at the origin — a tenant packet in `from_pod`

A VPC pod sends a packet whose destination resolves, in its own scope, to a network `M`
(its own or a peer's). What may become of it: a drop, a redirect into an endpoint of `M`,
or a tunnel under `M` — toward the destination or a backend of the service it names.

**The last two stages (the fabric bridge and the hand-over to the host) are still there**, and a
destination that `M` does not assign reaches them; `originAssigned` says when that does not matter.
-/

namespace CozyOrigin

open CozyPacket CozyMaps CozyDatapath CozyPolicy CozyService
open CozyBoundary CozyFromPod

/-- The frame sits on a pod's veth with `ports` value `v`: a network, no gateway leg, not
    quarantined, not the uplink. -/
structure TenantVeth (m : Maps) (skb : Skb) (v : U32) : Prop where
  port : m.ports skb.ifindex = some v
  live : v ≠ portQuarantine
  notGw : hasBit v portFGateway = false
  tenant : portNet v ≠ 0#32
  notUplink : skb.ifindex ≠ cfg m cfgUplinkIfindex

/-- Destinations with a path of their own: link-scoped v6, the v4 bridge gateway and the
    hairpin loopback. -/
def platformDst (p : Pkt) : Bool :=
  if p.isV6 then v6LinkScoped p.dst
  else v4Of128 p.dst == linkLocalGw || v4Of128 p.dst == svcLoopback

variable {m : Maps} {f : Flows} {env : Env} {skb : Skb} {p : Pkt} {v : U32}

theorem originOf_tenant (hv : TenantVeth m skb v) : originOf m skb = ⟨some v, false⟩ := by
  simp [originOf, hv.port, hv.notUplink]

theorem linkLocalGw6_linkScoped : v6LinkScoped linkLocalGw6 = true := by decide

theorem svcLoopback6_linkScoped : v6LinkScoped svcLoopback6 = true := by decide

variable {fr : Frame}

theorem linkControlOut_linkScoped (h : linkControlOut fr p = true) :
    v6LinkScoped p.dst = true := by
  cases fr with
  | ip6 h6 l => simp only [linkControlOut, Bool.and_eq_true] at h; exact h.1
  | ip4 h4 l | arp | other | runt => nomatch h

theorem platformDst_unscoped (hd : platformDst p = false) :
    (p.isV6 && v6LinkScoped p.dst) = false := by
  cases hv6 : p.isV6 with
  | false => rfl
  | true => simpa [platformDst, hv6] using hd

theorem linkControlOut_false (hp : parseIp fr = some p) (hd : (p.isV6 && v6LinkScoped p.dst) = false) :
    linkControlOut fr p = false := by
  cases hc : linkControlOut fr p with
  | false => rfl
  | true =>
    have hls := linkControlOut_linkScoped hc
    cases hv6 : p.isV6 with
    | true =>
      rw [hv6, hls] at hd
      nomatch hd
    | false =>
      obtain ⟨h4, b, hfr, -⟩ := parseIp_isV4 hp hv6
      rw [hfr] at hc
      nomatch hc

theorem guestConfig_linkScoped {h : Ip6} {l : List U8}
    (hg : boundaryGuestConfig (.ip6 h l) = true) : v6LinkScoped h.daddr = true := by
  have hdst : h.daddr = allRouters6 ∨ h.daddr = allDhcpServers6 ∨ h.daddr = linkLocalGw6 := by
    simp only [boundaryGuestConfig, Bool.and_eq_true] at hg
    have hg := hg.2
    split at hg
    · simp only [Bool.and_eq_true, Bool.or_eq_true, beq_iff_eq] at hg
      exact hg.1.1.1.2.imp_right .inr
    split at hg
    · simp only [Bool.and_eq_true, Bool.or_eq_true, beq_iff_eq] at hg
      exact .inr hg.1.1.1.1
    · cases hg
  rcases hdst with h | h | h
  · rw [h]; decide
  · rw [h]; decide
  · rw [h]; decide

theorem controlFrame_false (hp : parseIp fr = some p) (hd : (p.isV6 && v6LinkScoped p.dst) = false) :
    (fr == .arp || boundaryNeighborDiscovery fr || boundaryGuestConfig fr) = false := by
  cases fr with
  | ip4 h l => rfl
  | ip6 h l =>
    cases hp
    have hls : v6LinkScoped h.daddr = false := hd
    have hnd : boundaryNeighborDiscovery (.ip6 h l) = false := by
      simp [boundaryNeighborDiscovery, hls]
    have hgc : boundaryGuestConfig (.ip6 h l) = false := by
      cases hg : boundaryGuestConfig (.ip6 h l) with
      | false => rfl
      | true =>
        rw [guestConfig_linkScoped hg] at hls
        nomatch hls
    rw [hnd, hgc]
    rfl
  | arp | other | runt => nomatch hp

variable {dstnet : U32} {foreign : Bool}

/-- Of the first tests after authentication only the group-update guard is left. -/
theorem fromPodAuth_eq {o : Origin} (hls : (p.isV6 && v6LinkScoped p.dst) = false) :
    fromPodAuth m f env skb p o foreign =
      if o.srcnet != 0#32 && !o.isGw && cfg m cfgSgUpdating != 0#32 &&
          (sgL4 skb.frame p.proto).isSome then shotOut f skb
      else routeAndDeliver m f env skb p o foreign (netOf m o.srcnet p.dst) := by
  have hscoped : ∀ a, v6LinkScoped a = true → (p.isV6 && p.dst == a) = false := by
    intro a ha
    cases hv6 : p.isV6 with
    | false => rfl
    | true =>
      rw [hv6, Bool.true_and] at hls
      refine beq_eq_false_iff_ne.mpr fun h => ?_
      rw [h, ha] at hls
      nomatch hls
  unfold fromPodAuth
  rw [hscoped _ linkLocalGw6_linkScoped, hscoped _ svcLoopback6_linkScoped, hls]
  rfl

/-- The v4 reply halves decline it, and so does the floating egress unless it leaves its VPC. -/
theorem v4Stage_miss {srcnet : U32} (hd : platformDst p = false) (hin : srcnet = 0#32 ∨ dstnet ≠ 0#32) :
    guarded (!p.isV6) f (v4Stage m f skb p srcnet dstnet) = .miss f := by
  cases hv6 : p.isV6 with
  | true => rfl
  | false =>
    simp only [platformDst, hv6, Bool.false_eq_true, if_false, Bool.or_eq_false_iff,
      beq_eq_false_iff_ne] at hd
    have hfloat : ¬ (srcnet ≠ 0#32 ∧ dstnet = 0#32) := fun h => hin.elim h.1 fun hn => hn h.2
    simp [guarded, v4Stage, hd.1, hd.2, hfloat]

/-- **THE OFF-VPC STAGES DECLINE**: a packet from a VPC to a VPC is refused by isolation or
    reaches the delivery tail. -/
theorem routeAndDeliver_vpc {o : Origin} (hsrc : o.srcnet ≠ 0#32) (hdst : dstnet ≠ 0#32)
    (hd : platformDst p = false) :
    routeAndDeliver m f env skb p o foreign dstnet =
      if netsAllowed m o.srcnet dstnet then deliverTail m f skb p o foreign dstnet
      else shotOut f skb := by
  have hd0 : (dstnet == 0#32) = false := by simpa using hdst
  have hs0 : (o.srcnet == 0#32) = false := by simpa using hsrc
  -- every stage in front of the isolation check is guarded by one of these two facts,
  -- except the v4 reply halves, which the destination excludes
  have hv4 : guarded (!p.isV6) f (v4Stage m f skb p o.srcnet dstnet) = .miss f :=
    v4Stage_miss hd (.inr hdst)
  unfold routeAndDeliver
  simp only [hd0, hs0, Bool.and_false, Bool.false_and, guarded, Bool.false_eq_true, if_false,
    orElse_miss] at hv4 ⊢
  rw [hv4]
  by_cases hn : netsAllowed m o.srcnet dstnet
  · simp [hn]
  · simp [hn, hdst]

/-- **WHAT A VPC-BOUND PACKET CAN REACH** in `from_pod`: header check, authentication, group-update
    guard, isolation, delivery tail. -/
theorem fromPod_vpc (hv : TenantVeth m skb v) (hp : parseIp skb.frame = some p)
    (hM : netOf m (portNet v) p.dst ≠ 0#32) (hd : platformDst p = false) :
    fromPod m f env skb =
      if unsupportedIpHeader skb.frame then shotOut f (Skb.clearMarks skb)
      else
        match authenticate m ⟨some v, false⟩ skb.ifindex p with
        | none => shotOut f (Skb.clearMarks skb)
        | some foreign =>
          if cfg m cfgSgUpdating != 0#32 && (sgL4 skb.frame p.proto).isSome then
            shotOut f (Skb.clearMarks skb)
          else if netsAllowed m (portNet v) (netOf m (portNet v) p.dst) then
            deliverTail m f (Skb.clearMarks skb) p ⟨some v, false⟩ foreign
              (netOf m (portNet v) p.dst)
          else shotOut f (Skb.clearMarks skb) := by
  have hsn : (Origin.srcnet ⟨some v, false⟩) = portNet v := rfl
  have hgw : (Origin.isGw ⟨some v, false⟩) = false := hv.notGw
  have htn : (portNet v != 0#32) = true := by simpa using hv.tenant
  rw [fromPod_pod (originOf_tenant hv) hv.live hp (linkControlOut_false hp (platformDst_unscoped hd))]
  cases ha : authenticate m ⟨some v, false⟩ skb.ifindex p with
  | none => rfl
  | some foreign =>
    simp only [fromPodAuth_eq (platformDst_unscoped hd), hsn, hgw, htn, Bool.not_false, Bool.true_and]
    rw [routeAndDeliver_vpc (o := ⟨some v, false⟩) hv.tenant hM hd]
    rfl

/-- Where the packet is headed after the service DNAT: the pinned or hash-chosen backend, or the
    destination itself. -/
def svcTarget (m : Maps) (f : Flows) (skb : Skb) (p : Pkt) (srcnet dstnet : U32) : Addr :=
  (svcForward m f skb p srcnet dstnet).2.2.dst

theorem svcForward_src (m : Maps) (f : Flows) (skb : Skb) (p : Pkt) (srcnet dstnet : U32) :
    (svcForward m f skb p srcnet dstnet).2.2.src = p.src := by
  unfold svcForward
  split
  · rfl
  split
  · rfl
  · split <;> rfl

/-- **THE TAIL FOR A VPC-BOUND PACKET**: a local endpoint, a remote one, and two exits that no
    longer look at the network. -/
theorem deliverTail_vpc (hv : TenantVeth m skb v) (hdst : dstnet ≠ 0#32) (skb' : Skb) :
    (deliverTail m f skb' p ⟨some v, false⟩ foreign dstnet).act =
      match localOf m dstnet (svcTarget m f skb' p (portNet v) dstnet) with
      | some l => .deliver dstnet (svcTarget m f skb' p (portNet v) dstnet) l
      | none =>
        match remoteOf m dstnet (svcTarget m f skb' p (portNet v) dstnet) with
        | some node =>
          (encapSg m f skb' dstnet node (if foreign then tunFForward else 0#32) (portNet v)
            (sgMembership m ⟨portNet v, p.src⟩)).act
        | none =>
          match bridgeOf m (svcTarget m f skb' p (portNet v) dstnet) with
          | some be =>
            match localOf m be.net be.vpcIp with
            | some l => .deliver be.net be.vpcIp l
            | none =>
              (hfExit m (svcForward m f skb' p (portNet v) dstnet).1
                (svcForward m f skb' p (portNet v) dstnet).2.1 .ok).act
          | none =>
            (hfExit m (svcForward m f skb' p (portNet v) dstnet).1
              (svcForward m f skb' p (portNet v) dstnet).2.1 .ok).act := by
  have hgw : Origin.isGw ⟨some v, false⟩ = false := hv.notGw
  have hsn : Origin.srcnet ⟨some v, false⟩ = portNet v := rfl
  have hsrc := svcForward_src m f skb' p (portNet v) dstnet
  unfold deliverTail svcTarget
  simp only [hgw, hsn, Bool.not_false, Bool.and_self, if_true]
  generalize svcForward m f skb' p (portNet v) dstnet = s at hsrc ⊢
  obtain ⟨f', sk, p'⟩ := s
  simp only at hsrc ⊢
  simp only [localStage, hdst, if_false]
  cases hl : localOf m dstnet p'.dst with
  | some l => cases foreign <;> rfl
  | none =>
    simp only [orElse_miss, remoteStage, hv.tenant, false_and, if_false]
    cases hr : remoteOf m dstnet p'.dst with
    | some node =>
      have hgrouped : portNet v ≠ 0#32 ∧ True := ⟨hv.tenant, trivial⟩
      simp only [orElse_done, hsrc, Bool.false_eq_true, if_false, encapSg_act,
        if_pos hgrouped]
    | none =>
      simp only [orElse_miss, nodeStage, hsn, hv.tenant, false_and, if_false, bridgeStage]
      cases hb : bridgeOf m p'.dst with
      | none => rfl
      | some be =>
        simp only []
        cases hl : localOf m be.net be.vpcIp <;> rfl

-- ── the property and the states that have it

/-- The destination, or a backend listed for it. -/
def ListedTarget (m : Maps) (fr : Frame) (p : Pkt) (dstnet : U32) (d' : Addr) : Prop :=
  d' = p.dst ∨
    ∃ sport dport sv be, svcPorts fr p = some (sport, dport) ∧
      m.svcVips ⟨dstnet, p.dst, p.proto, dport⟩ = some sv ∧ svcLists sv be ∧ be.ip = d'

/-- The packet was dropped, entered an endpoint of `dstnet`, or left under its id toward the node
    `remotes` names for an address it may be headed for. -/
def StaysInNet (m : Maps) (fr : Frame) (p : Pkt) (dstnet : U32) (act : Act) : Prop :=
  act = .shot ∨
    ∃ d', ListedTarget m fr p dstnet d' ∧
      ((∃ ep, localOf m dstnet d' = some ep ∧ act = .deliver dstnet d' ep) ∨
        ∃ node id opt, remoteOf m dstnet d' = some node ∧ act = .tunnel id node opt ∧
          (id = dstnet ∨ id = dstnet ||| tunFForward))

/-- The packet never gets to the delivery tail. -/
def refusedEarly (m : Maps) (skb : Skb) (p : Pkt) (v dstnet : U32) : Prop :=
  unsupportedIpHeader skb.frame = true ∨
    authenticate m ⟨some v, false⟩ skb.ifindex p = none ∨
    (cfg m cfgSgUpdating ≠ 0#32 ∧ (sgL4 skb.frame p.proto).isSome = true) ∨
    netsAllowed m (portNet v) dstnet = false

/-- The delivery tail keeps the packet in `dstnet`: an assigned target is the destination or a
    listed backend; for one that is not, whatever else owns the address must be an endpoint of
    `dstnet`, or the host firewall refuses. -/
def originAssigned (m : Maps) (f : Flows) (skb : Skb) (p : Pkt) (v dstnet : U32) : Prop :=
  let t := svcTarget m f (Skb.clearMarks skb) p (portNet v) dstnet
  match localOf m dstnet t with
  | some _ => ListedTarget m skb.frame p dstnet t
  | none =>
    match remoteOf m dstnet t with
    | some node =>
      cfg m cfgGeneveIfindex = 0#32 ∨
        ∃ d', ListedTarget m skb.frame p dstnet d' ∧ remoteOf m dstnet d' = some node
    | none =>
      match (bridgeOf m t).bind fun be => (localOf m be.net be.vpcIp).map fun _ => be with
      | some be => be.net = dstnet ∧ ListedTarget m skb.frame p dstnet be.vpcIp
      | none =>
        let s := svcForward m f (Skb.clearMarks skb) p (portNet v) dstnet
        hfArmed m = true ∧ m.lbProg 2 = true ∧ (hfIngress m s.1 s.2.1).act = .shot

/-- The host exit passes the packet or drops it; it never delivers. -/
theorem hfExit_ok_act (skb' : Skb) (f' : Flows) :
    (hfExit m f' skb' .ok).act = .ok ∨ (hfExit m f' skb' .ok).act = .shot := by
  unfold hfExit
  split
  · unfold hfIngress
    repeat' split
    all_goals first | exact .inl rfl | exact .inr rfl
  · exact .inl rfl

theorem hfExit_shot_iff (skb' : Skb) (f' : Flows) :
    (hfExit m f' skb' .ok).act = .shot ↔
      hfArmed m = true ∧ m.lbProg 2 = true ∧ (hfIngress m f' skb').act = .shot := by
  unfold hfExit
  cases ha : hfArmed m <;> cases hl : m.lbProg 2 <;> simp

theorem not_staysInNet_ok : ¬ StaysInNet m fr p dstnet .ok := by
  rintro (h | ⟨d', -, ⟨ep, -, h⟩ | ⟨node, id, opt, -, h, -⟩⟩)
  · nomatch h
  · nomatch h
  · nomatch h

theorem staysInNet_deliver {net : U32} {ip : Addr} {l : Endpoint} (hl : localOf m net ip = some l) :
    StaysInNet m fr p dstnet (.deliver net ip l) ↔
      net = dstnet ∧ ListedTarget m fr p dstnet ip := by
  constructor
  · rintro (h | ⟨d', hd', ⟨ep, -, h⟩ | ⟨node, id, opt, -, h, -⟩⟩)
    · nomatch h
    · cases h
      exact ⟨rfl, hd'⟩
    · nomatch h
  · rintro ⟨rfl, ht⟩
    exact .inr ⟨ip, ht, .inl ⟨l, hl, rfl⟩⟩

theorem staysInNet_encapSg {node srcnet : U32} {srcmap : U64} {f' : Flows} {skb' : Skb}
    (hdst : dstnet ≠ 0#32) :
    StaysInNet m fr p dstnet
        (encapSg m f' skb' dstnet node (if foreign then tunFForward else 0#32) srcnet srcmap).act ↔
      cfg m cfgGeneveIfindex = 0#32 ∨
        ∃ d', ListedTarget m fr p dstnet d' ∧ remoteOf m dstnet d' = some node := by
  have hid : tunnelId m dstnet (if foreign then tunFForward else 0#32) = dstnet ∨
      tunnelId m dstnet (if foreign then tunFForward else 0#32) = dstnet ||| tunFForward := by
    cases foreign
    · left; simp [tunnelId, hdst]
    · right; simp [tunnelId, hdst]
  rw [encapSg_act]
  by_cases hg : cfg m cfgGeneveIfindex = 0#32
  · simp [hg, StaysInNet]
  rw [if_neg hg]
  constructor
  · rintro (h | ⟨d', hd', ⟨ep, -, h⟩ | ⟨node', id, opt, hr, h, -⟩⟩)
    · nomatch h
    · nomatch h
    · cases h
      exact .inr ⟨d', hd', hr⟩
  · rintro (h | ⟨d', hd', hr⟩)
    · exact absurd h hg
    · exact .inr ⟨d', hd', .inr ⟨node, _, _, hr, rfl, hid⟩⟩

theorem deliverTail_stays_iff (hv : TenantVeth m skb v) (hdst : dstnet ≠ 0#32) :
    StaysInNet m skb.frame p dstnet
        (deliverTail m f (Skb.clearMarks skb) p ⟨some v, false⟩ foreign dstnet).act ↔
      originAssigned m f skb p v dstnet := by
  rw [deliverTail_vpc hv hdst]
  unfold originAssigned
  simp only []
  generalize svcTarget m f (Skb.clearMarks skb) p (portNet v) dstnet = t
  generalize svcForward m f (Skb.clearMarks skb) p (portNet v) dstnet = s
  cases hl : localOf m dstnet t with
  | some l =>
    have hiff : StaysInNet m skb.frame p dstnet (.deliver dstnet t l) ↔
        dstnet = dstnet ∧ ListedTarget m skb.frame p dstnet t := staysInNet_deliver hl
    simpa using hiff
  | none =>
    cases hr : remoteOf m dstnet t with
    | some node => exact staysInNet_encapSg hdst
    | none =>
      -- the target is unassigned: bridge, then host
      have hhost : StaysInNet m skb.frame p dstnet (hfExit m s.1 s.2.1 .ok).act ↔
          hfArmed m = true ∧ m.lbProg 2 = true ∧ (hfIngress m s.1 s.2.1).act = .shot := by
        rw [← hfExit_shot_iff]
        constructor
        · intro h
          rcases hfExit_ok_act (m := m) s.2.1 s.1 with hok | hshot
          · rw [hok] at h; exact absurd h not_staysInNet_ok
          · exact hshot
        · intro h; exact .inl h
      cases hb : bridgeOf m t with
      | none => simpa using hhost
      | some be =>
        simp only [Option.bind_some]
        cases hbl : localOf m be.net be.vpcIp with
        | none => simpa using hhost
        | some l => exact staysInNet_deliver hbl

/-- **A TENANT PACKET STAYS IN ITS NETWORK EXACTLY WHEN ITS TARGET IS ASSIGNED THERE** (or it is
    refused before delivery); else it falls through to the fabric bridge and the host. -/
theorem fromPod_staysInNet_iff (m : Maps) (f : Flows) (env : Env) (skb : Skb) (p : Pkt)
    (v dstnet : U32) (hv : TenantVeth m skb v) (hp : parseIp skb.frame = some p)
    (hnet : netOf m (portNet v) p.dst = dstnet) (hdst : dstnet ≠ 0#32)
    (hd : platformDst p = false) :
    StaysInNet m skb.frame p dstnet (fromPod m f env skb).act ↔
      refusedEarly m skb p v dstnet ∨ originAssigned m f skb p v dstnet := by
  subst hnet
  have hshot : StaysInNet m skb.frame p (netOf m (portNet v) p.dst) .shot := .inl rfl
  rw [fromPod_vpc hv hp hdst hd]
  unfold refusedEarly
  by_cases hu : unsupportedIpHeader skb.frame = true
  · simp [hu, shotOut, hshot]
  rw [if_neg hu]
  cases ha : authenticate m ⟨some v, false⟩ skb.ifindex p with
  | none => simp [shotOut, hshot]
  | some foreign =>
    simp only []
    by_cases hg : cfg m cfgSgUpdating ≠ 0#32 ∧ (sgL4 skb.frame p.proto).isSome = true
    · simp [hg, shotOut, hshot]
    rw [if_neg (by simpa using hg)]
    split
    · rename_i hn
      simp only [hu, hg, hn, reduceCtorEq, false_or, Bool.true_eq_false]
      exact deliverTail_stays_iff hv hdst
    · rename_i hn
      simp [hn, shotOut, hshot]

/-- VPC 100 (10.0.0.0/8) has pods 10.0.0.5 and 10.0.0.6. A pod of VPC 200 on veth 9 has the fabric
    address 10.0.9.9, inside that range. -/
def overlapMaps : Maps := { Maps.empty with
  ports := fun i =>
    if i = 5#32 ∨ i = 6#32 then some 100#32 else if i = 9#32 then some 200#32 else none
  locals := fun k =>
    if k = ⟨100#32, v4To128 0x0a000005#32⟩ then some ⟨5#32, 1#256⟩
    else if k = ⟨100#32, v4To128 0x0a000006#32⟩ then some ⟨6#32, 2#256⟩
    else if k = ⟨200#32, v4To128 0x0a000007#32⟩ then some ⟨9#32, 3#256⟩
    else none
  networks := [⟨136, 100#32 ++ v4To128 0x0a000000#32, 100#32⟩]
  bridges := fun a =>
    if a = v4To128 0x0a000909#32 then some ⟨200#32, v4To128 0x0a000007#32⟩ else none }

/-- A UDP datagram from 10.0.0.5, at veth 5. -/
def udpFrom5 (daddr : U32) : Skb :=
  ⟨.ip4 ⟨4#4, 5#4, 0#16, ipprotoUdp, 0x0a000005#32, daddr⟩
    [0x30#8, 0x39#8, 0x1f#8, 0x90#8, 0#8, 8#8, 0#8, 0#8], 0#32, 5#32, 5#32, none, none⟩

theorem overlapMaps_veth (daddr : U32) : TenantVeth overlapMaps (udpFrom5 daddr) 100#32 :=
  ⟨rfl, by decide, by decide, by decide, show (5#32 : U32) ≠ 0#32 by decide⟩

theorem fromPod_staysInNet_neighbour :
    StaysInNet overlapMaps (udpFrom5 0x0a000006#32).frame
      ⟨false, ipprotoUdp, v4To128 0x0a000005#32, v4To128 0x0a000006#32⟩ 100#32
      (fromPod overlapMaps Flows.empty ⟨0#64, 0#32, true, true⟩ (udpFrom5 0x0a000006#32)).act :=
  (fromPod_staysInNet_iff overlapMaps Flows.empty ⟨0#64, 0#32, true, true⟩ (udpFrom5 0x0a000006#32)
    ⟨false, ipprotoUdp, v4To128 0x0a000005#32, v4To128 0x0a000006#32⟩ 100#32 100#32
    (overlapMaps_veth _) rfl (by decide) (by decide) (by decide)).mpr
      (.inr (.inl rfl))

/-- **TO THE UNASSIGNED ADDRESS IT ENTERS VPC 200**: the packet of VPC 100 is redirected
    into the veth of the other tenant's pod. -/
theorem fromPod_enters_other_tenant :
    TenantVeth overlapMaps (udpFrom5 0x0a000909#32) 100#32 ∧
    netOf overlapMaps (portNet 100#32) (v4To128 0x0a000909#32) = 100#32 ∧
    (fromPod overlapMaps Flows.empty ⟨0#64, 0#32, true, true⟩ (udpFrom5 0x0a000909#32)).act =
      .deliver 200#32 (v4To128 0x0a000007#32) ⟨9#32, 3#256⟩ ∧
    ¬ StaysInNet overlapMaps (udpFrom5 0x0a000909#32).frame
      ⟨false, ipprotoUdp, v4To128 0x0a000005#32, v4To128 0x0a000909#32⟩ 100#32
      (fromPod overlapMaps Flows.empty ⟨0#64, 0#32, true, true⟩ (udpFrom5 0x0a000909#32)).act := by
  have hact : (fromPod overlapMaps Flows.empty ⟨0#64, 0#32, true, true⟩ (udpFrom5 0x0a000909#32)).act =
      .deliver 200#32 (v4To128 0x0a000007#32) ⟨9#32, 3#256⟩ := by decide
  refine ⟨overlapMaps_veth _, by decide, hact, ?_⟩
  intro h
  have hnet := ((staysInNet_deliver (by decide)).mp h).1
  exact absurd hnet (by decide)

end CozyOrigin
