import Cozyplane.ArrivalProofs

/-!
# The LoadBalancer programs, step by step

`lb_ingress` serves a frame in two halves: it picks a backend (row, source range, pin or
hash), then it delivers or tunnels. `lb_dsr` is the receiving half on the backend's node.
-/

namespace CozyLb

open PrefixTable CozyPacket CozyMaps CozyDatapath CozyPolicy CozyNat CozyService
open CozyFromPod CozyReceive CozyArrival

variable {m : Maps} {f : Flows} {skb : Skb} {p : Pkt}

/-- A served frame: the client's packet and ports, whether `svc_fwd` pinned its flow, and
    the backend it goes to. -/
structure LbChoice where
  p : Pkt
  sport : U16
  dport : U16
  pinned : Bool
  v : SvcFwdVal
  deriving DecidableEq

/-- The frames `lb_ingress` serves. -/
def lbChoice (m : Maps) (f : Flows) (skb : Skb) : Option LbChoice :=
  match parseIp skb.frame with
  | none => none
  | some p =>
    if !isTcpUdp p.proto then none
    else if !p.isV6 && ihlNot5 skb.frame then none
    else
      match l4Ports skb.frame with
      | none => none
      | some (sport, dport) =>
        match m.svcVips ⟨0#32, p.dst, p.proto, dport⟩ with
        | none => none
        | some sv =>
          if sv.n = 0#32 then none
          else if hasBit sv.flags 2#32 && (find m.lbSrc (p.dst ++ p.src)).isNone then none
          else
            let pin := f.svcFwd ⟨0#32, p.proto, sport, p.src, p.dst, dport⟩
            some ⟨p, sport, dport, pin.isSome, svcPick sv pin p sport dport⟩

/-- The flow key of a served frame in `svc_fwd`. -/
def LbChoice.fwdKey (c : LbChoice) : SvcFwdKey :=
  ⟨0#32, c.p.proto, c.sport, c.p.src, c.p.dst, c.dport⟩

/-- The delivering half, on what was picked. -/
def LbChoice.serve (c : LbChoice) (m : Maps) (f : Flows) (skb : Skb) : Out :=
  lbToBackend m f skb c.p c.sport c.dport c.pinned c.v.backend c.v.tport

/-- What a served frame looked like. -/
structure Served (f : Flows) (skb : Skb) (c : LbChoice) : Prop where
  parses : parseIp skb.frame = some c.p
  tcpUdp : isTcpUdp c.p.proto = true
  ports : l4Ports skb.frame = some (c.sport, c.dport)
  pinned : c.pinned = (f.svcFwd c.fwdKey).isSome
  pick : ∀ v, f.svcFwd c.fwdKey = some v → c.v = v

/-- What the host firewall leaves alone: it carries a frame toward no pod and touches no
    service pin. -/
structure HostBound (f : Flows) (out : Out) : Prop where
  act : carried out.act = false
  svcFwd : out.flows.svcFwd = f.svcFwd
  svcRev : out.flows.svcRev = f.svcRev

theorem hostBound_of {f : Flows} {skb : Skb} {verdict : Act} (h : carried verdict = false) :
    HostBound f ⟨f, skb, verdict⟩ := ⟨h, rfl, rfl⟩

theorem hostBound_hfPin (proto : U8) (pod peer : Addr) (pport rport : U16) :
    HostBound f (okOut (hfPin f proto pod peer pport rport) skb) := by
  unfold hfPin
  split
  · exact ⟨rfl, rfl, rfl⟩
  · exact ⟨rfl, rfl, rfl⟩

theorem hfIngress_hostBound : HostBound f (hfIngress m f skb) := by
  unfold hfIngress
  cases parseIp skb.frame with
  | none => exact hostBound_of rfl
  | some p =>
    simp only []
    split
    · exact hostBound_of rfl
    · cases l4Ports skb.frame with
      | none => exact hostBound_of rfl
      | some ports =>
        repeat' split
        all_goals first | exact hostBound_of rfl | exact hostBound_hfPin ..

theorem hfExit_hostBound {verdict : Act} (h : carried verdict = false) :
    HostBound f (hfExit m f skb verdict) := by
  unfold hfExit
  split
  · exact hfIngress_hostBound
  · exact hostBound_of h

/-- **LB INGRESS, IN ITS TWO HALVES**: a frame it does not serve is the host's. -/
theorem lbIngress_cases (m : Maps) (f : Flows) (skb : Skb) :
    (∃ c, lbChoice m f skb = some c ∧ Served f skb c ∧ lbIngress m f skb = c.serve m f skb) ∨
      (lbChoice m f skb = none ∧ HostBound f (lbIngress m f skb)) := by
  unfold lbChoice lbIngress
  cases hp : parseIp skb.frame with
  | none => exact .inr ⟨rfl, hostBound_of rfl⟩
  | some p =>
  simp only []
  split
  · exact .inr ⟨rfl, hostBound_of rfl⟩
  rename_i hproto
  split
  · exact .inr ⟨rfl, hfExit_hostBound rfl⟩
  cases hl : l4Ports skb.frame with
  | none => exact .inr ⟨rfl, hostBound_of rfl⟩
  | some ports =>
  obtain ⟨sport, dport⟩ := ports
  simp only []
  cases hsv : m.svcVips ⟨0#32, p.dst, p.proto, dport⟩ with
  | none => exact .inr ⟨rfl, hfExit_hostBound rfl⟩
  | some sv =>
  simp only []
  split
  · exact .inr ⟨rfl, hfExit_hostBound rfl⟩
  split
  · exact .inr ⟨rfl, hostBound_of rfl⟩
  refine .inl ⟨_, rfl, ⟨hp, ?_, hl, rfl, ?_⟩, rfl⟩
  · cases ht : isTcpUdp p.proto with
    | true => rfl
    | false => rw [ht] at hproto; exact absurd rfl hproto
  · intro v hv
    show svcPick sv (f.svcFwd ⟨0#32, p.proto, sport, p.src, p.dst, dport⟩) p sport dport = v
    rw [show f.svcFwd ⟨0#32, p.proto, sport, p.src, p.dst, dport⟩ = some v from hv]
    rfl

/-- Toward a pod only what was picked goes. -/
theorem lbIngress_served (h : carried (lbIngress m f skb).act = true) :
    ∃ c, lbChoice m f skb = some c ∧ Served f skb c ∧ lbIngress m f skb = c.serve m f skb := by
  rcases lbIngress_cases m f skb with hserved | ⟨_, hhost⟩
  · exact hserved
  · rw [hhost.act] at h
    nomatch h

theorem lbIngress_of_choice {c : LbChoice} (h : lbChoice m f skb = some c) :
    Served f skb c ∧ lbIngress m f skb = c.serve m f skb := by
  rcases lbIngress_cases m f skb with ⟨c', hc', hrest⟩ | ⟨hnone, _⟩
  · rw [h] at hc'
    cases hc'
    exact hrest
  · rw [hnone] at h
    nomatch h

/-- The door of a VPC and its groups, as `lb_ingress` reads them for a bridged backend. -/
def admitsAt (m : Maps) (c : LbChoice) (net : U32) (ip : Addr) : Bool :=
  m.vpcIngress net && nsSgAdmit m net ip c.p.src (cidrProto c.p.proto c.p.isV6) c.v.tport

/-- `svc_rev`'s key for a reply of the pod that answers under `ip`. -/
def LbChoice.revKey (c : LbChoice) (ip : Addr) : SvcRevKey :=
  ⟨0#32, c.p.proto, c.sport, ip, c.p.src, c.v.tport⟩

/-- The flow tables once a new flow is pinned: forward only, or with its reply identity. -/
def LbChoice.pinFwd (c : LbChoice) (f : Flows) : Flows :=
  lbPinFwd f c.pinned c.fwdKey c.v.backend c.v.tport

def LbChoice.pinBoth (c : LbChoice) (f : Flows) (skb : Skb) (ip : Addr) : Flows :=
  lbPinRev (c.pinFwd f) c.pinned (c.revKey ip) ⟨c.p.dst, c.dport, true, skb.ingressIfindex⟩

/-- The frame toward the backend's address `ip`. -/
def LbChoice.dnat (c : LbChoice) (skb : Skb) (ip : Addr) : Skb :=
  { skb with frame := dnatTo skb.frame ip c.dport c.v.tport }

/-- The backend is an address another node answers for. -/
structure Remote (m : Maps) (c : LbChoice) (node : U32) : Prop where
  unbridged : bridgeOf m c.v.backend = none
  notHere : localOf m 0#32 c.v.backend = none
  there : remoteOf m 0#32 c.v.backend = some node
  geneve : cfg m cfgGeneveIfindex ≠ 0#32

/-- Everything the delivering half can do with a served frame. -/
inductive ServeCase (m : Maps) (f : Flows) (skb : Skb) (c : LbChoice) : Out → Prop where
  /-- a bridged backend whose VPC has no door open, or whose groups refuse the client -/
  | refused {net : U32} {ip : Addr} : bridgeOf m c.v.backend = some ⟨net, ip⟩ →
      admitsAt m c net ip = false → ServeCase m f skb c (shotOut f skb)
  /-- the pod moved away: pinned, and left to the kernel -/
  | absent {net : U32} {ip : Addr} : bridgeOf m c.v.backend = some ⟨net, ip⟩ →
      admitsAt m c net ip = true → localOf m net ip = none →
      ServeCase m f skb c (okOut (c.pinBoth f skb ip) (c.dnat skb ip))
  | bridged {net : U32} {ip : Addr} {ep : Endpoint} :
      bridgeOf m c.v.backend = some ⟨net, ip⟩ → admitsAt m c net ip = true →
      localOf m net ip = some ep →
      ServeCase m f skb c (deliverLocal (c.pinBoth f skb ip) (c.dnat skb ip) net ip ep)
  | fabric {ep : Endpoint} : bridgeOf m c.v.backend = none →
      localOf m 0#32 c.v.backend = some ep →
      ServeCase m f skb c (deliverLocal (c.pinBoth f skb c.v.backend) (c.dnat skb c.v.backend)
        0#32 c.v.backend ep)
  /-- no home for the backend, or no Geneve device to reach it by -/
  | lost {skb' : Skb} : bridgeOf m c.v.backend = none → localOf m 0#32 c.v.backend = none →
      ServeCase m f skb c (shotOut (c.pinFwd f) skb')
  | remote {node : U32} : Remote m c node →
      ServeCase m f skb c ⟨c.pinFwd f, (c.dnat skb c.v.backend).clampMss,
        .tunnel (cfg m cfgVni) node (some (.lb c.p.dst c.dport))⟩

theorem serve_bridged (c : LbChoice) {net : U32} {ip : Addr}
    (hb : bridgeOf m c.v.backend = some ⟨net, ip⟩) :
    c.serve m f skb =
      if admitsAt m c net ip then
        match localOf m net ip with
        | some l => deliverLocal (c.pinBoth f skb ip) (c.dnat skb ip) net ip l
        | none => okOut (c.pinBoth f skb ip) (c.dnat skb ip)
      else shotOut f skb := by
  unfold LbChoice.serve lbToBackend admitsAt
  rw [hb]
  simp only []
  cases hdoor : m.vpcIngress net with
  | false => rfl
  | true =>
    cases hsg : nsSgAdmit m net ip c.p.src (cidrProto c.p.proto c.p.isV6) c.v.tport with
    | false | true => rfl

theorem serve_fabric (c : LbChoice) (hb : bridgeOf m c.v.backend = none) :
    c.serve m f skb =
      match localOf m 0#32 c.v.backend with
      | some l => deliverLocal (c.pinBoth f skb c.v.backend) (c.dnat skb c.v.backend) 0#32
          c.v.backend l
      | none =>
        match remoteOf m 0#32 c.v.backend with
        | none => shotOut (c.pinFwd f) skb
        | some node => encapLb m (c.pinFwd f) (c.dnat skb c.v.backend) node c.p.dst c.dport := by
  unfold LbChoice.serve lbToBackend
  rw [hb]
  rfl

/-- **THE DELIVERING HALF DOES NOTHING ELSE.** -/
theorem serve_case (m : Maps) (f : Flows) (skb : Skb) (c : LbChoice) :
    ServeCase m f skb c (c.serve m f skb) := by
  cases hb : bridgeOf m c.v.backend with
  | some be =>
    obtain ⟨net, ip⟩ := be
    rw [serve_bridged c hb]
    cases hadm : admitsAt m c net ip with
    | false => exact .refused hb hadm
    | true =>
      cases hl : localOf m net ip with
      | none => exact .absent hb hadm hl
      | some ep => exact .bridged hb hadm hl
  | none =>
    rw [serve_fabric c hb]
    cases hl : localOf m 0#32 c.v.backend with
    | some ep => exact .fabric hb hl
    | none =>
      cases hr : remoteOf m 0#32 c.v.backend with
      | none => exact .lost hb hl
      | some node =>
        simp only [encapLb]
        split
        · exact .lost hb hl
        · rename_i hg
          exact .remote ⟨hb, hl, hr, hg⟩

theorem serve_remote (c : LbChoice) {node : U32} (h : Remote m c node) :
    c.serve m f skb = ⟨c.pinFwd f, (c.dnat skb c.v.backend).clampMss,
      .tunnel (cfg m cfgVni) node (some (.lb c.p.dst c.dport))⟩ := by
  rw [serve_fabric c h.unbridged, h.notHere]
  rw [h.there]
  simp only [encapLb]
  rw [if_neg h.geneve]

-- ── the receiving half

/-- `lb_dsr`'s reply pin for a frame to `ip`: an existing entry stays. -/
def dsrPin (f : Flows) (rk : SvcRevKey) (vip : Addr) (vport : U16) : Flows :=
  match f.svcRev rk with
  | some _ => f
  | none => { f with svcRev := Function.update f.svcRev rk (some ⟨vip, vport, true, 0#32⟩) }

/-- A DSR frame as its node reads it: packet, ports, and the frontend of the option. -/
structure DsrFrame where
  p : Pkt
  sport : U16
  dport : U16
  vip : Addr
  vport : U16
  deriving DecidableEq

/-- The frames `lb_dsr` does not drop as malformed. -/
def dsrFrame (skb : Skb) : Option DsrFrame :=
  match skb.tunOpt with
  | some (.lb vip vport) =>
    match parseIp skb.frame with
    | none => none
    | some p =>
      if !isTcpUdp p.proto then none
      else
        match l4Ports skb.frame with
        | none => none
        | some (sport, dport) => some ⟨p, sport, dport, vip, vport⟩
  | _ => none

def DsrFrame.revKey (d : DsrFrame) (ip : Addr) : SvcRevKey :=
  ⟨0#32, d.p.proto, d.sport, ip, d.p.src, d.dport⟩

def DsrFrame.pin (d : DsrFrame) (f : Flows) (ip : Addr) : Flows :=
  dsrPin f (d.revKey ip) d.vip d.vport

/-- The rest of `lb_dsr`, on a well-formed frame. The groups are consulted; the VPC's door
    is not. -/
def DsrFrame.serve (d : DsrFrame) (m : Maps) (f : Flows) (skb : Skb) : Out :=
  match bridgeOf m d.p.dst with
  | some be =>
    if !nsSgAdmit m be.net be.vpcIp d.p.src (cidrProto d.p.proto d.p.isV6) d.dport then
      shotOut f skb
    else
      match localOf m be.net be.vpcIp with
      | some l => deliverLocal (d.pin f be.vpcIp)
          { skb with frame := skb.frame.setDst be.vpcIp } be.net be.vpcIp l
      | none => okOut (d.pin f be.vpcIp) { skb with frame := skb.frame.setDst be.vpcIp }
  | none =>
    match localOf m 0#32 d.p.dst with
    | some l => deliverLocal (d.pin f d.p.dst) skb 0#32 d.p.dst l
    | none => okOut (d.pin f d.p.dst) skb

theorem lbDsr_eq (m : Maps) (f : Flows) (skb : Skb) :
    lbDsr m f skb =
      match dsrFrame skb with
      | none => shotOut f skb
      | some d => d.serve m f skb := by
  obtain ⟨frame, mark, ifindex, ingress, key, opt⟩ := skb
  cases opt with
  | none => rfl
  | some opt =>
  cases opt with
  | sg srcNet srcmap => rfl
  | lb vip vport =>
  simp only [lbDsr, dsrFrame]
  cases parseIp frame with
  | none => rfl
  | some p =>
  simp only []
  by_cases hproto : (!isTcpUdp p.proto) = true
  · rw [if_pos hproto, if_pos hproto]
  rw [if_neg hproto, if_neg hproto]
  cases l4Ports frame with
  | none | some ports => rfl

/-- Everything `lb_dsr` can do with a well-formed frame. -/
inductive DsrCase (m : Maps) (f : Flows) (skb : Skb) (d : DsrFrame) : Out → Prop where
  | refused {net : U32} {ip : Addr} : bridgeOf m d.p.dst = some ⟨net, ip⟩ →
      nsSgAdmit m net ip d.p.src (cidrProto d.p.proto d.p.isV6) d.dport = false →
      DsrCase m f skb d (shotOut f skb)
  | bridged {net : U32} {ip : Addr} {ep : Endpoint} {skb' : Skb} :
      bridgeOf m d.p.dst = some ⟨net, ip⟩ →
      nsSgAdmit m net ip d.p.src (cidrProto d.p.proto d.p.isV6) d.dport = true →
      localOf m net ip = some ep →
      DsrCase m f skb d (deliverLocal (d.pin f ip) skb' net ip ep)
  | fabric {ep : Endpoint} : bridgeOf m d.p.dst = none → localOf m 0#32 d.p.dst = some ep →
      DsrCase m f skb d (deliverLocal (d.pin f d.p.dst) skb 0#32 d.p.dst ep)
  /-- the tenant's pod moved away, or nobody here has the address: pinned, and left to the
      kernel -/
  | absent {net : U32} {ip : Addr} {skb' : Skb} :
      bridgeOf m d.p.dst = some ⟨net, ip⟩ →
      nsSgAdmit m net ip d.p.src (cidrProto d.p.proto d.p.isV6) d.dport = true →
      localOf m net ip = none → DsrCase m f skb d (okOut (d.pin f ip) skb')
  | stray : bridgeOf m d.p.dst = none → localOf m 0#32 d.p.dst = none →
      DsrCase m f skb d (okOut (d.pin f d.p.dst) skb)

/-- **THE RECEIVING HALF DOES NOTHING ELSE.** -/
theorem dsrServe_case (m : Maps) (f : Flows) (skb : Skb) (d : DsrFrame) :
    DsrCase m f skb d (d.serve m f skb) := by
  unfold DsrFrame.serve
  cases hb : bridgeOf m d.p.dst with
  | some be =>
    obtain ⟨net, ip⟩ := be
    simp only []
    cases hsg : nsSgAdmit m net ip d.p.src (cidrProto d.p.proto d.p.isV6) d.dport with
    | false => exact .refused hb hsg
    | true =>
      cases hl : localOf m net ip with
      | some ep => exact .bridged hb hsg hl
      | none => exact .absent hb hsg hl
  | none =>
    cases hl : localOf m 0#32 d.p.dst with
    | some ep => exact .fabric hb hl
    | none => exact .stray hb hl

theorem dsrServe_bridged {d : DsrFrame} {net : U32} {ip : Addr} {ep : Endpoint}
    (hb : bridgeOf m d.p.dst = some ⟨net, ip⟩)
    (hsg : nsSgAdmit m net ip d.p.src (cidrProto d.p.proto d.p.isV6) d.dport = true)
    (hl : localOf m net ip = some ep) : (d.serve m f skb).act = .deliver net ip ep := by
  unfold DsrFrame.serve
  rw [hb]
  simp only []
  rw [hsg, hl]
  rfl

theorem fromOverlay_lb {id remote : U32} {vip : Addr} {vport : U16}
    (hkey : skb.tunKey = some (id, remote)) (hopt : skb.tunOpt = some (.lb vip vport))
    (hp : parseIp skb.frame = some p) (hvni : tunnelVni id = cfg m cfgVni) :
    cozyplaneFromOverlay m f skb =
      if unsupportedIpHeader skb.frame || !m.overlayNodes remote || !m.lbProg 1 then
        shotOut f (Skb.clearMarks skb)
      else lbDsr m f (Skb.clearMarks skb) := by
  unfold cozyplaneFromOverlay overlayDefault
  have hframe : (Skb.clearMarks skb).frame = skb.frame := rfl
  have hkey' : (Skb.clearMarks skb).tunKey = some (id, remote) := hkey
  have hopt' : (Skb.clearMarks skb).tunOpt = some (.lb vip vport) := hopt
  simp only [hframe, hkey', hopt', hp, hvni, if_true]
  cases unsupportedIpHeader skb.frame with
  | true => rfl
  | false =>
    cases m.overlayNodes remote with
    | false => rfl
    | true =>
      cases m.lbProg 1 with
      | false | true => rfl

end CozyLb
