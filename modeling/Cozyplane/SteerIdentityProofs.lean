import Cozyplane.SourceAuthProofs

/-!
# Steered queries — whose fabric address a packet gets

The resolver and the organisation's Gateway know a tenant by a fabric address. `dns_steer` and
`gw_steer` look it up BY THE SOURCE ADDRESS the packet carries, and a forwarding leg may carry
a source that is another pod's. `gw_steer` refuses such a packet, `dns_steer` does not ask.
-/

namespace CozySteerId

open CozyPacket CozyMaps CozyDatapath CozyPolicy CozyService CozySteer
open CozyFromPod CozySource

variable {m : Maps} {f : Flows} {env : Env} {skb : Skb} {p : Pkt} {v : U32} {foreign : Bool} {fab : Addr}

/-- `fabric_of` and `bridges` are inverse to each other. -/
def Inverse (m : Maps) : Prop :=
  ∀ net ip fab, m.fabricOf ⟨net, ip⟩ = some fab ↔ m.bridges fab = some ⟨net, ip⟩

/-- The tests of `dns_steer` on the packet. -/
def dnsQuery (m : Maps) (skb : Skb) (p : Pkt) : Bool :=
  resolverPort m != 0#16 && ((svcPorts skb.frame p).any fun ports => ports.2 == 53#16) &&
    dnsDestination m p

/-- The packet of a VPC veth comes to the off-VPC stages of `from_pod`. -/
structure Offered (m : Maps) (skb : Skb) (p : Pkt) (v : U32) : Prop where
  live : v ≠ portQuarantine
  tenant : portNet v ≠ 0#32
  notGw : hasBit v portFGateway = false
  header : unsupportedIpHeader skb.frame = false
  control : linkControlOut skb.frame p = false
  beyond : (p.isV6 && (p.dst == linkLocalGw6 || p.dst == svcLoopback6 || v6LinkScoped p.dst)) = false
  current : (cfg m cfgSgUpdating != 0#32 && (sgL4 skb.frame p.proto).isSome) = false
  off : netOf m (portNet v) p.dst = 0#32

/-- The fabric address under which a packet is steered or recorded. -/
inductive Speaks (m : Maps) (f : Flows) (skb : Skb) (p : Pkt) (v : U32) (foreign : Bool) : Addr → Prop where
  | gateway {fab : Addr} {out : Out} : Offered m skb p v → p.isV6 = false → p.proto = ipprotoTcp →
      gwSteer m f (Skb.clearMarks skb) p (portNet v) foreign = some out → out.act = .next →
      m.fabricOf ⟨portNet v, p.src⟩ = some fab → Speaks m f skb p v foreign fab
  | resolver {fab : Addr} : Offered m skb p v →
      guarded (!p.isV6 && p.proto == ipprotoTcp) f
        (attempt f (gwSteer m f (Skb.clearMarks skb) p (portNet v) foreign)) = .miss f →
      routeStage m f (Skb.clearMarks skb) p (portNet v) = .miss f → dnsQuery m skb p = true →
      m.fabricOf ⟨portNet v, p.src⟩ = some fab → Speaks m f skb p v foreign fab

/-- The endpoint behind a fabric address is the sending veth's. -/
def Bridged (m : Maps) (ifindex : U32) (fab : Addr) : Prop :=
  ∃ be l, m.bridges fab = some be ∧ localOf m be.net be.vpcIp = some l ∧ l.ifindex = ifindex

/-- The packet is a query to the resolver, and its source has a fabric address. -/
structure Asks (m : Maps) (skb : Skb) (p : Pkt) (v : U32) : Prop where
  offered : Offered m skb p v
  unblocked : routesBlocked m (portNet v) = false
  unrouted : routeOf m (portNet v) p.dst = none
  query : dnsQuery m skb p = true
  handle : (m.fabricOf ⟨portNet v, p.src⟩).isSome = true

-- ── the stages

/-- `dns_steer` records the packet under the fabric address, and rewrites its source to it if it gets
    as far as that. -/
def DnsWrites (m : Maps) (f : Flows) (skb : Skb) (p : Pkt) (net : U32) (fab : Addr) : Prop :=
  ∃ sport node,
    let f' := { f with dnsCt := Function.update f.dnsCt ⟨p.proto, sport, fab⟩ (some p.dst) }
    dnsSteer m f skb p net = .miss f' ∨ dnsSteer m f skb p net = .done (okOut f'
      { skb with frame := ((skb.frame.setSrc fab).setDst node).setDport (resolverPort m) })

theorem dnsSteer_handle (m : Maps) (f : Flows) (skb : Skb) (p : Pkt) (net : U32) :
    (∃ fab, dnsQuery m skb p = true ∧ m.fabricOf ⟨net, p.src⟩ = some fab ∧ DnsWrites m f skb p net fab) ∨
    dnsSteer m f skb p net = .miss f := by
  unfold DnsWrites
  unfold dnsSteer dnsQuery
  split
  · exact .inr rfl
  rename_i hport
  rw [bne_iff_ne.mpr hport]
  cases svcPorts skb.frame p with
  | none => exact .inr rfl
  | some ports =>
    obtain ⟨sport, dport⟩ := ports
    dsimp only
    split
    · exact .inr rfl
    rename_i hdst
    obtain ⟨hdport, hdest⟩ := not_or.mp hdst
    cases m.fabricOf ⟨net, p.src⟩ with
    | none => exact .inr rfl
    | some fab =>
      refine .inl ⟨fab, ?_, rfl, sport, if p.isV6 then m.nodeIp6 else v4To128 (cfg m cfgNodeIp), ?_⟩
      · rw [not_not.mp hdport, eq_true_of_ne_false hdest]
        rfl
      · by_cases hunset : (if p.isV6 then m.nodeIp6 == 0#128 else cfg m cfgNodeIp == 0#32) = true
        · exact .inl (if_pos hunset)
        · exact .inr (if_neg hunset)

theorem gwSteer_query (h : dnsQuery m skb p = true) (net : U32) (foreign : Bool) :
    guarded (!p.isV6 && p.proto == ipprotoTcp) f (attempt f (gwSteer m f skb p net foreign)) = .miss f := by
  obtain ⟨h, _⟩ := Bool.and_eq_true_iff.mp h
  obtain ⟨_, hports⟩ := Bool.and_eq_true_iff.mp h
  obtain ⟨⟨sport, dport⟩, hl4, hdport⟩ := (Option.any_eq_true _ _).mp hports
  have hl4' : l4Ports skb.frame = some (sport, dport) := by
    unfold svcPorts at hl4
    split at hl4
    · nomatch hl4
    split at hl4
    · nomatch hl4
    · exact hl4
  unfold guarded
  split
  · unfold gwSteer
    split
    · rfl
    rw [hl4']
    rw [show dport = 53#16 from beq_iff_eq.mp hdport]
    rfl
  · rfl

theorem gwSteer_own {net : U32} {out : Out} (h : gwSteer m f skb p net foreign = some out)
    (hact : out.act = .next) : foreign = false := by
  unfold gwSteer at h
  cases foreign with
  | false => rfl
  | true =>
    split at h
    · nomatch h
    split at h
    · nomatch h
    split at h
    · nomatch h
    cases h
    nomatch hact

theorem routeStage_miss {net : U32} :
    routeStage m f skb p net = .miss f ↔ routesBlocked m net = false ∧ routeOf m net p.dst = none := by
  unfold routeStage
  cases routesBlocked m net with
  | true => exact ⟨nofun, fun h => nomatch h.1⟩
  | false =>
    rw [if_neg nofun]
    cases routeOf m net p.dst with
    | none => exact iff_of_true rfl ⟨rfl, rfl⟩
    | some route =>
      refine ⟨fun h => ?_, fun h => nomatch h.2⟩
      dsimp only at h
      split at h
      · nomatch h
      split at h
      · nomatch h
      split at h
      · split at h
        · nomatch h
        · nomatch h
      · nomatch h

theorem fromPod_offered (hport : m.ports skb.ifindex = some v) (hup : skb.ifindex ≠ cfg m cfgUplinkIfindex)
    (hp : parseIp skb.frame = some p)
    (hauth : authenticate m ⟨some v, false⟩ skb.ifindex p = some foreign) (h : Offered m skb p v) :
    fromPod m f env skb =
      routeAndDeliver m f env (Skb.clearMarks skb) p ⟨some v, false⟩ foreign 0#32 := by
  have hframe : (Skb.clearMarks skb).frame = skb.frame := rfl
  rw [fromPod_pod (originOf_pod ⟨hport, h.notGw, hup⟩) h.live hp h.control, h.header,
    if_neg Bool.false_ne_true, hauth]
  unfold fromPodAuth
  have hsix : ∀ {b : Bool}, (b = true → (p.dst == linkLocalGw6 || p.dst == svcLoopback6 ||
      v6LinkScoped p.dst) = true) → (p.isV6 && b) = false := by
    intro b hb
    cases b with
    | false => exact Bool.and_false _
    | true => rw [← h.beyond, hb rfl]
  rw [hsix fun hb => by rw [hb]; rfl, hsix fun hb => by rw [hb, Bool.or_true]; rfl,
    hsix fun hb => by rw [hb, Bool.or_true]]
  simp only [Bool.false_eq_true, if_false, hframe, show netOf m (Origin.srcnet ⟨some v, false⟩) p.dst =
    0#32 from h.off, Bool.and_assoc, h.current, Bool.and_false]

theorem bridged_iff (hinv : Inverse m) (hfab : m.fabricOf ⟨portNet v, p.src⟩ = some fab) (ifindex : U32) :
    Bridged m ifindex fab ↔ ownsSource m ⟨some v, false⟩ ifindex p = true := by
  have hbridge := (hinv _ _ _).mp hfab
  have howns : ownsSource m ⟨some v, false⟩ ifindex p = true ↔
      ∃ l, localOf m (portNet v) p.src = some l ∧ l.ifindex = ifindex := by
    unfold ownsSource
    rw [show Origin.srcnet ⟨some v, false⟩ = portNet v from rfl]
    cases localOf m (portNet v) p.src with
    | none | some l => simp
  rw [howns]
  constructor
  · rintro ⟨be, l, hbe, hl⟩
    cases hbridge.symm.trans hbe
    exact ⟨l, hl⟩
  · rintro ⟨l, hl⟩
    exact ⟨_, l, hbridge, hl⟩

/-- An unmarked packet of an ordinary leg is the leg's own. -/
theorem authenticate_own (hgw : hasBit v portFGateway = false) {ifindex : U32}
    (h : authenticate m ⟨some v, false⟩ ifindex p = some false) :
    ownsSource m ⟨some v, false⟩ ifindex p = true := by
  unfold authenticate at h
  rw [show Origin.isGw ⟨some v, false⟩ = false from hgw, if_neg nofun] at h
  split at h
  · nomatch h
  split at h
  · assumption
  split at h
  · nomatch h
  · nomatch h

/-- **A STEERED PACKET SPEAKS FOR ITS SENDER** iff, where it asks the resolver, the sending veth owns
    its source. -/
theorem steered_own (env : Env) (hport : m.ports skb.ifindex = some v) (hup : skb.ifindex ≠ cfg m cfgUplinkIfindex)
    (hinv : Inverse m) (hp : parseIp skb.frame = some p)
    (hauth : authenticate m ⟨some v, false⟩ skb.ifindex p = some foreign) :
    (Offered m skb p v → fromPod m f env skb =
      routeAndDeliver m f env (Skb.clearMarks skb) p ⟨some v, false⟩ foreign 0#32) ∧
    (∀ net, (∃ fab, dnsQuery m skb p = true ∧ m.fabricOf ⟨net, p.src⟩ = some fab ∧
      DnsWrites m f skb p net fab) ∨ dnsSteer m f skb p net = .miss f) ∧
    ((∀ fab, Speaks m f skb p v foreign fab → Bridged m skb.ifindex fab) ↔
      (Asks m skb p v → ownsSource m ⟨some v, false⟩ skb.ifindex p = true)) := by
  refine ⟨fromPod_offered hport hup hp hauth, dnsSteer_handle m f skb p, fun h hasks => ?_, fun h fab hspeaks => ?_⟩
  · obtain ⟨fab, hfab⟩ := Option.isSome_iff_exists.mp hasks.handle
    refine (bridged_iff hinv hfab _).mp (h fab (.resolver hasks.offered ?_ ?_ hasks.query hfab))
    · have hquery : dnsQuery m (Skb.clearMarks skb) p = true := hasks.query
      exact gwSteer_query hquery _ _
    · exact routeStage_miss.mpr ⟨hasks.unblocked, hasks.unrouted⟩
  · cases hspeaks with
    | gateway hoff _ _ hsteer hact hfab =>
      rw [gwSteer_own hsteer hact] at hauth
      exact (bridged_iff hinv hfab _).mpr (authenticate_own hoff.notGw hauth)
    | resolver hoff _ hroute hquery hfab =>
      obtain ⟨hopen, hnone⟩ := routeStage_miss.mp hroute
      refine (bridged_iff hinv hfab _).mpr (h ⟨hoff, hopen, hnone, hquery, ?_⟩)
      rw [hfab]
      rfl

/-- VPC 100: 10.0.0.5 on veth 5 with the fabric address 100.64.0.5, and veth 7 with a forwarding
    grant. -/
def relayMaps : Maps := { Maps.empty with
  ports := fun i => if i = 7#32 then some (100#32 ||| portFForward) else
    if i = 5#32 then some 100#32 else none
  locals := fun k => if k = ⟨100#32, v4To128 0x0a000005#32⟩ then some ⟨5#32, 0#256⟩ else none
  fabricOf := fun k => if k = ⟨100#32, v4To128 0x0a000005#32⟩ then some (v4To128 0x64400005#32) else none
  bridges := fun a => if a = v4To128 0x64400005#32 then some ⟨100#32, v4To128 0x0a000005#32⟩ else none
  dnsIps := fun v6 => if v6 then 0#128 else v4To128 0x0a60000a#32
  params := fun i => if i = cfgResolverPort then 5353#32 else if i = cfgNodeIp then 0xc0000201#32
    else 0#32 }

/-- A DNS query from 10.0.0.5, at a veth. -/
def dnsPacket (veth : U32) : Skb :=
  ⟨.ip4 ⟨4#4, 5#4, 0#16, ipprotoUdp, 0x0a000005#32, 0x0a60000a#32⟩
    [0x30#8, 0x39#8, 0#8, 53#8, 0#8, 8#8, 0#8, 0#8], 0#32, veth, veth, none, none⟩

def dnsPkt : Pkt := ⟨false, ipprotoUdp, v4To128 0x0a000005#32, v4To128 0x0a60000a#32⟩

theorem relayMaps_inverse : Inverse relayMaps := by
  intro net ip fab
  show (if (⟨net, ip⟩ : LocalKey) = ⟨100#32, v4To128 0x0a000005#32⟩ then some (v4To128 0x64400005#32)
    else none) = some fab ↔ (if fab = v4To128 0x64400005#32 then some (⟨100#32, v4To128 0x0a000005#32⟩ :
      BridgeEp) else none) = some ⟨net, ip⟩
  constructor
  · intro h
    split at h
    · next hk =>
      cases hk
      cases h
      exact if_pos rfl
    · nomatch h
  · intro h
    split at h
    · next hf =>
      cases h
      cases hf
      exact if_pos rfl
    · nomatch h

theorem dnsPacket_offered (veth : U32) {v : U32} (hlive : v ≠ portQuarantine)
    (htenant : portNet v ≠ 0#32) (hgw : hasBit v portFGateway = false) (hoff : netOf relayMaps (portNet v) dnsPkt.dst = 0#32) :
    Offered relayMaps (dnsPacket veth) dnsPkt v :=
  ⟨hlive, htenant, hgw, rfl, rfl, rfl, rfl, hoff⟩

theorem steered_own_pod5 :
    (dnsPacket 5#32).ifindex = 5#32 ∧
    ∀ fab, Speaks relayMaps Flows.empty (dnsPacket 5#32) dnsPkt 100#32 false fab → Bridged relayMaps 5#32 fab :=
  .intro rfl <| (steered_own ⟨0#64, 0#32, true, true⟩ rfl (by decide) relayMaps_inverse rfl
    (by decide +kernel)).2.2.mpr fun _ => by decide +kernel

/-- **A RELAY SPEAKS FOR ITS NEIGHBOUR**: the query of veth 7 goes to the resolver as the address of
    veth 5. -/
theorem relay_speaks :
    authenticate relayMaps ⟨some (100#32 ||| portFForward), false⟩ 7#32 dnsPkt = some true ∧
    Speaks relayMaps Flows.empty (dnsPacket 7#32) dnsPkt (100#32 ||| portFForward) true
      (v4To128 0x64400005#32) ∧
    ¬ Bridged relayMaps 7#32 (v4To128 0x64400005#32) ∧
    (parseIp (fromPod relayMaps Flows.empty ⟨0#64, 0#32, true, true⟩ (dnsPacket 7#32)).skb.frame).map
      Pkt.src = some (v4To128 0x64400005#32) := by
  refine ⟨by decide +kernel, ?_, ?_, by decide +kernel⟩
  · refine .resolver (dnsPacket_offered 7#32 (by decide) (by decide) (by decide) rfl) rfl ?_ (by decide +kernel)
      (by decide +kernel)
    exact routeStage_miss.mpr ⟨by decide +kernel, by decide +kernel⟩
  · rw [bridged_iff (v := 100#32) (p := dnsPkt) relayMaps_inverse (by decide +kernel)]
    decide +kernel

end CozySteerId
