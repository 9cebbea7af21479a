import Cozyplane.LbStepProofs

/-!
# The LoadBalancer door, wherever the backend lives

An external client's packet reaches a VPC pod by one of two exits: `lb_ingress` delivers it
on the node that attracted it, or `encap_lb` carries it to the backend's node, where
`from_overlay` hands it to `lb_dsr`.
-/

namespace CozyDoor

open CozyPacket CozyMaps CozyDatapath CozyPolicy CozyNat CozyService
open CozyFromPod CozyReceive CozyLb

variable {C : U32 → Maps} {a t net : U32} {f : Flows} {skb : Skb} {ip : Addr}

/-- A packet entering `lb_ingress` on node `a` lands on node `t` in the pod `(net, ip)`, whatever
    the flow tables there. -/
inductive Lands (C : U32 → Maps) (a : U32) (f : Flows) (skb : Skb) :
    U32 → U32 → Addr → Prop where
  | here {net : U32} {ip : Addr} {ep : Endpoint} :
      (lbIngress (C a) f skb).act = .deliver net ip ep → Lands C a f skb a net ip
  | across {id node net : U32} {ip vip : Addr} {vport : U16} {ep : Endpoint} {f₁ : Flows}
      {skb₁ : Skb} :
      (lbIngress (C a) f skb).act = .tunnel id node (some (.lb vip vport)) →
      skb₁.frame = (lbIngress (C a) f skb).skb.frame → skb₁.tunKey = some (id, a) →
      skb₁.tunOpt = some (.lb vip vport) → tunnelVni id = cfg (C node) cfgVni →
      (cozyplaneFromOverlay (C node) f₁ skb₁).act = .deliver net ip ep →
      Lands C a f skb node net ip

/-- Every delivery into a tenant pod passed that tenant's door and its groups, on the node
    that translated the fabric address. -/
def DoorHeld (C : U32 → Maps) (a : U32) (f : Flows) (skb : Skb) : Prop :=
  ∀ t net ip, Lands C a f skb t net ip → net ≠ 0#32 →
    (C t).vpcIngress net = true ∧
      ∃ c, lbChoice (C a) f skb = some c ∧
        nsSgAdmit (C t) net ip c.p.src (cidrProto c.p.proto c.p.isV6) c.v.tport = true

variable {c : LbChoice}

/-- **THE LOCAL DOOR**: a served frame delivered here into a tenant was admitted here. -/
theorem serve_tenant {m : Maps} {ep : Endpoint} (h : (c.serve m f skb).act = .deliver net ip ep)
    (hnet : net ≠ 0#32) :
    bridgeOf m c.v.backend = some ⟨net, ip⟩ ∧ admitsAt m c net ip = true ∧
      localOf m net ip = some ep := by
  have hcase := serve_case m f skb c
  generalize c.serve m f skb = out at h hcase
  cases hcase with
  | refused hb hadm | absent hb hadm hl => nomatch h
  | bridged hb hadm hl =>
    cases h
    exact ⟨hb, hadm, hl⟩
  | fabric hb hl =>
    cases h
    exact absurd rfl hnet
  | lost hb hl | remote hr => nomatch h

theorem serve_tunnel {m : Maps} {id node : U32} {opt : Option TunOpt}
    (h : (c.serve m f skb).act = .tunnel id node opt) :
    Remote m c node ∧ id = cfg m cfgVni ∧ opt = some (.lb c.p.dst c.dport) := by
  have hcase := serve_case m f skb c
  generalize c.serve m f skb = out at h hcase
  cases hcase with
  | refused hb hadm | absent hb hadm hl | bridged hb hadm hl | fabric hb hl | lost hb hl =>
    nomatch h
  | remote hr =>
    cases h
    exact ⟨hr, rfl, rfl⟩

-- ── the remote exit

/-- The frame as the backend's node reads it: the destination is what the header can carry of the
    backend's address. -/
def LbChoice.arriving (c : LbChoice) : DsrFrame :=
  ⟨{ c.p with dst := wireAddr c.p.isV6 c.v.backend }, c.sport, c.v.tport, c.p.dst, c.dport⟩

/-- **WHAT THE TUNNEL CARRIES**: DNAT and MSS clamp leave the client and its port alone. -/
theorem dsrFrame_arriving {skb₁ : Skb} (hs : Served f skb c)
    (hframe : skb₁.frame = (c.dnat skb c.v.backend).clampMss.frame)
    (hopt : skb₁.tunOpt = some (.lb c.p.dst c.dport)) :
    dsrFrame (Skb.clearMarks skb₁) = some (LbChoice.arriving c) := by
  have hparse : parseIp skb₁.frame = some (LbChoice.arriving c).p := by
    rw [hframe]
    exact (parseIp_tcpMssClampPacket _).trans (parseIp_dnatTo _ _ _ hs.parses)
  have hports : l4Ports skb₁.frame = some (c.sport, c.v.tport) := by
    rw [hframe]
    exact (l4Ports_tcpMssClampPacket _).trans (l4Ports_dnatTo _ _ hs.ports)
  unfold dsrFrame
  simp only [show (Skb.clearMarks skb₁).tunOpt = skb₁.tunOpt from rfl, hopt,
    show (Skb.clearMarks skb₁).frame = skb₁.frame from rfl, hparse, hports]
  rw [show isTcpUdp (LbChoice.arriving c).p.proto = true from hs.tcpUdp]
  rfl

/-- The picked backend is a tenant pod on node `t` that `lb_dsr` there would deliver into:
    everything but the door. -/
structure RemoteTenant (C : U32 → Maps) (a : U32) (skb : Skb) (c : LbChoice) (t net : U32)
    (ip : Addr) : Prop where
  remote : Remote (C a) c t
  vni : tunnelVni (cfg (C a) cfgVni) = cfg (C t) cfgVni
  known : (C t).overlayNodes a = true
  header : unsupportedIpHeader skb.frame = false
  loaded : (C t).lbProg 1 = true
  bridge : bridgeOf (C t) (wireAddr c.p.isV6 c.v.backend) = some ⟨net, ip⟩
  present : (localOf (C t) net ip).isSome = true
  groups : nsSgAdmit (C t) net ip c.p.src (cidrProto c.p.proto c.p.isV6) c.v.tport = true

theorem dsrServe_tenant {m : Maps} {d : DsrFrame} {ep : Endpoint}
    (h : (d.serve m f skb).act = .deliver net ip ep) (hnet : net ≠ 0#32) :
    bridgeOf m d.p.dst = some ⟨net, ip⟩ ∧
      nsSgAdmit m net ip d.p.src (cidrProto d.p.proto d.p.isV6) d.dport = true ∧
      localOf m net ip = some ep := by
  have hcase := dsrServe_case m f skb d
  generalize d.serve m f skb = out at h hcase
  cases hcase with
  | refused hb hsg => nomatch h
  | bridged hb hsg hl =>
    cases h
    exact ⟨hb, hsg, hl⟩
  | fabric hb hl =>
    cases h
    exact absurd rfl hnet
  | absent hb hsg hl | stray hb hl => nomatch h

theorem fromOverlay_arriving {skb₁ : Skb} {f₁ : Flows} (hs : Served f skb c)
    (hframe : skb₁.frame = (c.dnat skb c.v.backend).clampMss.frame)
    (hkey : skb₁.tunKey = some (cfg (C a) cfgVni, a)) (hopt : skb₁.tunOpt = some (.lb c.p.dst c.dport))
    (hvni : tunnelVni (cfg (C a) cfgVni) = cfg (C t) cfgVni) :
    cozyplaneFromOverlay (C t) f₁ skb₁ =
      if unsupportedIpHeader skb.frame || !(C t).overlayNodes a || !(C t).lbProg 1 then
        shotOut f₁ (Skb.clearMarks skb₁)
      else (LbChoice.arriving c).serve (C t) f₁ (Skb.clearMarks skb₁) := by
  have hparse : parseIp skb₁.frame = some (LbChoice.arriving c).p := by
    rw [hframe]
    exact (parseIp_tcpMssClampPacket _).trans (parseIp_dnatTo _ _ _ hs.parses)
  have hheader : unsupportedIpHeader skb₁.frame = unsupportedIpHeader skb.frame := by
    rw [hframe]
    exact (unsupportedIpHeader_tcpMssClampPacket _).trans (unsupportedIpHeader_dnatTo _ _ _ _)
  rw [fromOverlay_lb hkey hopt hparse hvni, hheader, lbDsr_eq, dsrFrame_arriving hs hframe hopt]

/-- **WHERE A TENANT'S PACKETS COME FROM**: through the door of the attracting node, or from
    a remote backend, where no door stands. -/
theorem lands_tenant_iff (hnet : net ≠ 0#32) :
    Lands C a f skb t net ip ↔ ∃ c, lbChoice (C a) f skb = some c ∧
      ((t = a ∧ bridgeOf (C a) c.v.backend = some ⟨net, ip⟩ ∧ admitsAt (C a) c net ip = true ∧
          (localOf (C a) net ip).isSome = true) ∨
        RemoteTenant C a skb c t net ip) := by
  constructor
  · intro h
    cases h with
    | here hact =>
      obtain ⟨c, hc, hs, heq⟩ := lbIngress_served (by rw [hact]; rfl)
      rw [heq] at hact
      obtain ⟨hb, hadm, hl⟩ := serve_tenant hact hnet
      exact ⟨c, hc, .inl ⟨rfl, hb, hadm, by rw [hl]; rfl⟩⟩
    | across hact hframe hkey hopt hvni hdel =>
      obtain ⟨c, hc, hs, heq⟩ := lbIngress_served (by rw [hact]; rfl)
      rw [heq] at hact hframe
      obtain ⟨hrem, rfl, hlb⟩ := serve_tunnel hact
      cases hlb
      rw [serve_remote c hrem] at hframe
      rw [fromOverlay_arriving hs hframe hkey hopt hvni] at hdel
      cases hguard : unsupportedIpHeader skb.frame || !(C t).overlayNodes a ||
          !(C t).lbProg 1 with
      | true =>
        rw [hguard] at hdel
        nomatch hdel
      | false =>
        rw [hguard] at hdel
        simp only [Bool.or_eq_false_iff, Bool.not_eq_false'] at hguard
        obtain ⟨hb, hsg, hl⟩ := dsrServe_tenant hdel hnet
        exact ⟨c, hc, .inr ⟨hrem, hvni, hguard.1.2, hguard.1.1, hguard.2, hb,
          by rw [hl]; rfl, hsg⟩⟩
  · rintro ⟨c, hc, ⟨rfl, hb, hadm, hl⟩ | hrt⟩
    · obtain ⟨ep, hep⟩ := Option.isSome_iff_exists.mp hl
      have hact : (lbIngress (C t) f skb).act = .deliver net ip ep := by
        rw [(lbIngress_of_choice hc).2, serve_bridged c hb, if_pos hadm, hep]
        rfl
      exact .here hact
    · obtain ⟨hs, heq⟩ := lbIngress_of_choice hc
      obtain ⟨ep, hep⟩ := Option.isSome_iff_exists.mp hrt.present
      rw [serve_remote c hrt.remote] at heq
      -- any Geneve device does: take the frame as it left, with key and option attached
      let skb₁ : Skb := { (c.dnat skb c.v.backend).clampMss with
        tunKey := some (cfg (C a) cfgVni, a), tunOpt := some (.lb c.p.dst c.dport) }
      have hframe : skb₁.frame = (c.dnat skb c.v.backend).clampMss.frame := rfl
      have hdel : (cozyplaneFromOverlay (C t) f skb₁).act = .deliver net ip ep := by
        rw [fromOverlay_arriving hs hframe rfl rfl hrt.vni, hrt.header, hrt.known, hrt.loaded]
        exact dsrServe_bridged hrt.bridge hrt.groups hep
      exact .across (by rw [heq]) (by rw [heq]) rfl rfl hrt.vni hdel

/-- **THE DOOR HOLDS EXACTLY WHEN NO REMOTE TENANT POD STANDS BEHIND A CLOSED ONE.** -/
theorem doorHeld_iff (C : U32 → Maps) (a : U32) (f : Flows) (skb : Skb) :
    DoorHeld C a f skb ↔
      ∀ c, lbChoice (C a) f skb = some c → ∀ t net ip, net ≠ 0#32 →
        RemoteTenant C a skb c t net ip → (C t).vpcIngress net = true := by
  constructor
  · intro h c hc t net ip hnet hrt
    exact (h t net ip ((lands_tenant_iff hnet).mpr ⟨c, hc, .inr hrt⟩) hnet).1
  · intro h t net ip hland hnet
    obtain ⟨c, hc, ⟨rfl, hb, hadm, hl⟩ | hrt⟩ := (lands_tenant_iff hnet).mp hland
    · obtain ⟨hdoor, hsg⟩ := Bool.and_eq_true_iff.mp hadm
      exact ⟨hdoor, c, hc, hsg⟩
    · exact ⟨h c hc t net ip hnet hrt, c, hc, hrt.groups⟩

/-- Node 10.0.0.1 attracts the frontend 203.0.113.10:80. Its backend 10.200.0.5 on node 10.0.0.2 is
    the handle of VPC 100's pod 10.1.0.5 on veth 7. No door is open. -/
def closedNodes (n : U32) : Maps :=
  if n = 0x0a000001#32 then { Maps.empty with
    params := fun i => if i = cfgVni then 1#32 else if i = cfgGeneveIfindex then 4#32 else 0#32
    svcVips := fun k =>
      if k = ⟨0#32, v4To128 0xcb00710a#32, ipprotoUdp, 80#16⟩ then
        some ⟨1#32, 0#32, fun _ => ⟨v4To128 0x0ac80005#32, 8080#16⟩⟩
      else none
    remotes := [⟨160, 0#32 ++ v4To128 0x0ac80005#32, 0x0a000002#32⟩] }
  else { Maps.empty with
    params := fun i => if i = cfgVni then 1#32 else 0#32
    overlayNodes := fun r => r = 0x0a000001#32
    lbProg := fun _ => true
    ports := fun i => if i = 7#32 then some 100#32 else none
    locals := fun k =>
      if k = ⟨100#32, v4To128 0x0a010005#32⟩ then some ⟨7#32, 1#256⟩ else none
    sgMembers := fun k =>
      if k = ⟨100#32, v4To128 0x0a010005#32⟩ then some ⟨0#64, 1#256⟩ else none
    networks := [⟨136, 100#32 ++ v4To128 0x0a000000#32, 100#32⟩]
    bridges := fun x =>
      if x = v4To128 0x0ac80005#32 then some ⟨100#32, v4To128 0x0a010005#32⟩ else none }

/-- The client to the frontend. -/
def toFrontend : Skb :=
  ⟨.ip4 ⟨4#4, 5#4, 0#16, ipprotoUdp, 0xc6336409#32, 0xcb00710a#32⟩
    [0x30#8, 0x39#8, 0#8, 80#8, 0#8, 8#8, 0#8, 0#8], 0#32, 2#32, 2#32, none, none⟩

/-- The same packet as it comes out of the tunnel on node 10.0.0.2. -/
def outOfTunnel : Skb :=
  ⟨.ip4 ⟨4#4, 5#4, 0#16, ipprotoUdp, 0xc6336409#32, 0x0ac80005#32⟩
    [0x30#8, 0x39#8, 0x1f#8, 0x90#8, 0#8, 8#8, 0#8, 0#8], 0#32, 4#32, 4#32,
    some (1#32, 0x0a000001#32), some (.lb (v4To128 0xcb00710a#32) 80#16)⟩

/-- **THE CLOSED VPC IS ENTERED FROM THE OTHER NODE**: no door is open, and `to_pod` lets the packet
    in on the pin `lb_dsr` just wrote. -/
theorem lbDsr_enters_closed_vpc :
    (∀ n, (closedNodes n).vpcIngress 100#32 = false) ∧
    Lands closedNodes 0x0a000001#32 Flows.empty toFrontend 0x0a000002#32 100#32
      (v4To128 0x0a010005#32) ∧
    (let out := cozyplaneFromOverlay (closedNodes 0x0a000002#32) Flows.empty outOfTunnel
     (cozyplaneToPod (closedNodes 0x0a000002#32) out.flows ⟨0#64, 0#32, true, true⟩
       { out.skb with ifindex := 7#32 }).act = .ok) ∧
    ¬ DoorHeld closedNodes 0x0a000001#32 Flows.empty toFrontend := by
  have hclosed : ∀ n, (closedNodes n).vpcIngress 100#32 = false := by
    intro n
    unfold closedNodes
    split <;> rfl
  have hlands : Lands closedNodes 0x0a000001#32 Flows.empty toFrontend 0x0a000002#32 100#32
      (v4To128 0x0a010005#32) := by
    have htunnel : (lbIngress (closedNodes 0x0a000001#32) Flows.empty toFrontend).act =
        .tunnel 1#32 0x0a000002#32 (some (.lb (v4To128 0xcb00710a#32) 80#16)) := by
      decide +kernel
    have hframe : outOfTunnel.frame =
        (lbIngress (closedNodes 0x0a000001#32) Flows.empty toFrontend).skb.frame := by
      decide +kernel
    have hdeliver : (cozyplaneFromOverlay (closedNodes 0x0a000002#32) Flows.empty
        outOfTunnel).act = .deliver 100#32 (v4To128 0x0a010005#32) ⟨7#32, 1#256⟩ := by
      decide +kernel
    exact .across htunnel hframe rfl rfl (by decide) hdeliver
  refine ⟨hclosed, hlands, by decide +kernel, fun h => ?_⟩
  have hdoor := (h _ _ _ hlands (by decide)).1
  nomatch hdoor

end CozyDoor
