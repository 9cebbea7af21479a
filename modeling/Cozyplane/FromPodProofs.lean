import Cozyplane.BoundaryGateProofs

/-!
# `from_pod` — the source-side hook

The program at a pod's host-side veth (and at the uplink's egress), in the order of the
source:

1. `cozyplane_from_pod` — quarantine, header check, control frames, the managed boundary;
2. `from_pod` — clear the private marks, masquerade at the uplink, authenticate the source
   address (`authenticate`), then a chain of stages. A stage either decides the packet or
   declines and hands the flow tables on (`Attempt`), and `orElse` is that chaining.
-/

namespace CozyFromPod

open PrefixTable CozyPacket CozyMaps CozyDatapath CozyPolicy CozyNat CozyService CozySteer
open CozyBoundary

/-- Continue with `k` when a stage declined. -/
def orElse (a : Attempt) (k : Flows → Out) : Out :=
  match a with
  | .done o => o
  | .miss f => k f

/-- A stage that writes no flow state when it declines. -/
def attempt (f : Flows) (o : Option Out) : Attempt :=
  match o with
  | some o => .done o
  | none => .miss f

@[simp] theorem orElse_miss (f : Flows) (k : Flows → Out) : orElse (.miss f) k = k f := rfl
@[simp] theorem orElse_done (o : Out) (k : Flows → Out) : orElse (.done o) k = o := rfl

/-- `ports[ifindex]` of the veth and where the hook is attached. -/
structure Origin where
  port : Option U32
  atUplink : Bool
  deriving DecidableEq

namespace Origin

def srcnet (o : Origin) : U32 :=
  match o.port with
  | some v => portNet v
  | none => 0#32

def flag (o : Origin) (bit : U32) : Bool :=
  match o.port with
  | some v => hasBit v bit
  | none => false

def isGw (o : Origin) : Bool := o.flag portFGateway
def isFwd (o : Origin) : Bool := o.flag portFForward
def isFwdScoped (o : Origin) : Bool := o.flag portFFwdScoped

end Origin

/-- The origin of a frame. -/
def originOf (m : Maps) (skb : Skb) : Origin :=
  ⟨m.ports skb.ifindex, skb.ifindex == cfg m cfgUplinkIfindex⟩

def privateMarks : U32 := gwMark ||| sgOk ||| nsMark ||| fwdMark ||| vpcMark

def Skb.clearMarks (skb : Skb) : Skb := { skb with mark := skb.mark &&& ~~~privateMarks }

/-- The frames that may precede source authentication: RS, NS, NA with hop limit 255 and code 0, or
    a DHCPv6 client message. A load past the end of the packet leaves zero. -/
def linkControlOut (fr : Frame) (p : Pkt) : Bool :=
  match fr with
  | .ip6 h l =>
    v6LinkScoped p.dst &&
      ((p.proto == ipprotoIcmpv6 && h.hopLimit == 255#8 && (load8 l 1).getD 0#8 == 0#8 &&
          ((load8 l 0).getD 0#8 == 133#8 || (load8 l 0).getD 0#8 == 135#8 ||
            (load8 l 0).getD 0#8 == 136#8)) ||
        (p.proto == ipprotoUdp && (load16 l 0).getD 0#16 == 546#16 &&
          (load16 l 2).getD 0#16 == 547#16))
  | _ => false

/-- The forwarding right covers a source the veth does not own: any for an unscoped leg, the
    declared prefixes of a scoped one. -/
def fwdOk (m : Maps) (o : Origin) (ifindex : U32) (p : Pkt) : Bool :=
  if o.isFwd && o.isFwdScoped then
    (find m.fwdCidrs (ifindex ++ (if p.isV6 then 6#32 else 4#32) ++ p.src)).isSome
  else o.isFwd

/-- The source is one of the host-generated v4 NAT identities. -/
def hostIdentity4 (p : Pkt) : Bool :=
  !p.isV6 && (v4Of128 p.src == linkLocalGw || v4Of128 p.src == svcLoopback)

/-- `locals[{srcnet, src}]` is this veth. -/
def ownsSource (m : Maps) (o : Origin) (ifindex : U32) (p : Pkt) : Bool :=
  match localOf m o.srcnet p.src with
  | some self => self.ifindex == ifindex
  | none => false

/-- Source-address RPF. `none` drops; `some foreign` says whether the source belongs to someone
    else. Gateway legs, the uplink and interfaces without a `ports` row are not checked. -/
def authenticate (m : Maps) (o : Origin) (ifindex : U32) (p : Pkt) : Option Bool :=
  if o.port.isNone || o.isGw || o.atUplink then some false
  else if hostIdentity4 p then none
  else if ownsSource m o ifindex p then some false
  else if fwdOk m o ifindex p then some true
  else none

/-- The explicit route table, first probe. A route without a usable next hop drops. -/
def routeStage (m : Maps) (f : Flows) (skb : Skb) (p : Pkt) (srcnet : U32) : Attempt :=
  if routesBlocked m srcnet then .done (shotOut f skb)
  else
    match routeOf m srcnet p.dst with
    | none => .miss f
    | some route =>
      match routeNextHop (some route) p with
      | none => .done (shotOut f skb)
      | some rt =>
        if !nsEgressOk m skb.frame srcnet p.isV6 p.proto p.src p.dst then .done (shotOut f skb)
        else if rt.nodeIp = 0#32 then
          match localOf m srcnet rt.gwIp with
          | some rl => .done (deliverLocal f skb.clampMss srcnet rt.gwIp rl)
          | none => .done (shotOut f skb.clampMss)
        else .done (encap m f skb.clampMss srcnet rt.nodeIp 0#32)

/-- The second probe of the same table, after the floating addresses: a next hop that is
    not here yet falls through to NAT. -/
def routeAgainStage (m : Maps) (f : Flows) (skb : Skb) (p : Pkt) (srcnet : U32) : Attempt :=
  match routeNextHop (routeOf m srcnet p.dst) p with
  | none => .miss f
  | some rt =>
    if !nsEgressOk m skb.frame srcnet p.isV6 p.proto p.src p.dst then .done (shotOut f skb)
    else if rt.nodeIp = 0#32 then
      match localOf m srcnet rt.gwIp with
      | some rl => .done (deliverLocal f skb srcnet rt.gwIp rl)
      | none => .miss f
    else .done (encap m f skb srcnet rt.nodeIp 0#32)

/-- The VPC's egress gateway, the last resort. -/
def gatewayStage (m : Maps) (f : Flows) (skb : Skb) (p : Pkt) (srcnet : U32) : Out :=
  if !nsEgressOk m skb.frame srcnet p.isV6 p.proto p.src p.dst then shotOut f skb
  else
    match m.gateways srcnet with
    | none => shotOut f skb
    | some g =>
      if g.nodeIp = 0#32 then
        match localOf m srcnet g.gwIp with
        | none => shotOut f skb
        | some gl => deliverLocal f skb srcnet g.gwIp gl
      else encap m f skb srcnet g.nodeIp 0#32

/-- The default network's egress policy at a pod veth; the UDP reply pin is written only
    after admission. -/
def npEgressStage (m : Maps) (f : Flows) (skb : Skb) (p : Pkt) : Attempt :=
  match l4Ports skb.frame with
  | none => .done (shotOut f skb)
  | some (sport, dport) =>
    match (if p.proto = ipprotoTcp then (tcpFlags skb.frame).map isSyn else some true) with
    | none => .done (shotOut f skb)
    | some gate =>
      let q : NpQuery := ⟨p.src, p.dst, dport, sport, p.proto, !p.isV6⟩
      if gate && (m.npNodes p.dst).isNone && !npEgress m f q then .done (shotOut f skb)
      else if p.proto = ipprotoUdp then
        .miss { f with
          npCt := Function.update f.npCt ⟨p.src, p.dst, sport, dport, ipprotoUdp⟩ true }
      else .miss f

/-- A local destination in a VPC: mark what the destination must know, then redirect. -/
def localStage (m : Maps) (f : Flows) (skb : Skb) (p : Pkt) (isGw foreign : Bool)
    (dstnet : U32) : Attempt :=
  if dstnet = 0#32 then .miss f
  else
    match localOf m dstnet p.dst with
    | none => .miss f
    | some l =>
      let marked := if isGw then gwMark
        else if foreign then skb.mark ||| fwdMark else skb.mark
      let skb1 := { skb with mark := marked ||| vpcMark }
      let skb2 := if isGw || foreign then skb1.clampMss else skb1
      .done (deliverLocal f skb2 dstnet p.dst l)

/-- A remote destination in the same or a peered network. Node traffic goes through the host
    firewall's egress program when it is loaded. -/
def remoteStage (m : Maps) (f : Flows) (skb : Skb) (p : Pkt) (isGw foreign : Bool)
    (srcnet dstnet : U32) : Attempt :=
  match remoteOf m dstnet p.dst with
  | none => .miss f
  | some node =>
    let srcmap := if srcnet ≠ 0#32 ∧ isGw = false then sgMembership m ⟨srcnet, p.src⟩ else 0#64
    let tunflags := if isGw then tunFGateway else if foreign then tunFForward else 0#32
    if srcnet = 0#32 ∧ hfArmed m = true ∧
        (isTcpUdp p.proto = true ∨ p.proto = ipprotoSctp) ∧ m.hfSelf p.src = true ∧
        m.npNodes p.dst = none ∧ m.lbProg 3 = true then
      .done (hfEgress m f skb)
    else .done (encapSg m f skb dstnet node tunflags srcnet srcmap)

/-- A node address, for the default network only. -/
def nodeStage (m : Maps) (f : Flows) (skb : Skb) (p : Pkt) (o : Origin) : Attempt :=
  if o.srcnet = 0#32 ∧ o.atUplink = false then
    match nodeRemoteOf m p.dst with
    | some node => .done (encap m f skb 0#32 node 0#32)
    | none => .miss f
  else .miss f

/-- A local VPC pod's fabric address. -/
def bridgeStage (m : Maps) (f : Flows) (skb : Skb) (p : Pkt) : Attempt :=
  match bridgeOf m p.dst with
  | none => .miss f
  | some be =>
    match localOf m be.net be.vpcIp with
    | none => .miss f
    | some l =>
      .done (deliverLocal f { skb with mark := skb.mark ||| nsMark } be.net be.vpcIp l)

/-- The tail of `from_pod` after the isolation check. -/
def deliverTail (m : Maps) (f : Flows) (skb : Skb) (p : Pkt) (o : Origin) (foreign : Bool)
    (dstnet : U32) : Out :=
  let s := if !o.isGw && !o.atUplink then svcForward m f skb p o.srcnet dstnet else (f, skb, p)
  orElse (localStage m s.1 s.2.1 s.2.2 o.isGw foreign dstnet) fun f =>
  orElse (remoteStage m f s.2.1 s.2.2 o.isGw foreign o.srcnet dstnet) fun f =>
  orElse (nodeStage m f s.2.1 s.2.2 o) fun f =>
  orElse (bridgeStage m f s.2.1 s.2.2) fun f =>
  hfExit m f s.2.1 .ok

-- ── the chain

/-- Run a stage only under its guard. -/
def guarded (g : Bool) (f : Flows) (a : Attempt) : Attempt := if g then a else .miss f

/-- The v4 reply halves and the floating egress. -/
def v4Stage (m : Maps) (f : Flows) (skb : Skb) (p : Pkt) (srcnet dstnet : U32) : Attempt :=
  if v4Of128 p.dst = linkLocalGw then .done (bridgeReverse m f skb p srcnet)
  else if v4Of128 p.dst = svcLoopback then .done (svcHairpinReverse m f skb p srcnet)
  else if srcnet ≠ 0#32 ∧ dstnet = 0#32 then attempt f (floatingEgressSnat m f skb p srcnet)
  else .miss f

/-- From the resolved destination network on. -/
def routeAndDeliver (m : Maps) (f : Flows) (env : Env) (skb : Skb) (p : Pkt) (o : Origin)
    (foreign : Bool) (dstnet : U32) : Out :=
  let srcnet := o.srcnet
  let off := srcnet != 0#32 && dstnet == 0#32
  orElse (guarded (off && !o.isGw && !p.isV6 && p.proto == ipprotoTcp) f
    (attempt f (gwSteer m f skb p srcnet foreign))) fun f =>
  orElse (guarded (off && !o.isGw) f (routeStage m f skb p srcnet)) fun f =>
  orElse (guarded (off && !o.isGw) f (dnsSteer m f skb p srcnet)) fun f =>
  orElse (guarded (!o.isGw && dstnet == 0#32 && !o.atUplink) f
    (attempt f (lbReturn m f skb p))) fun f =>
  orElse (guarded (srcnet == 0#32 && o.port.isSome && !o.atUplink &&
    (isTcpUdp p.proto || p.proto == ipprotoSctp)) f (npEgressStage m f skb p)) fun f =>
  orElse (guarded (!p.isV6) f (v4Stage m f skb p srcnet dstnet)) fun f =>
  orElse (guarded (p.isV6 && off) f
    (attempt f (floatingEgressSnat6 m f skb p srcnet))) fun f =>
  orElse (guarded (off && !o.isGw) f (routeAgainStage m f skb p srcnet)) fun f =>
  orElse (guarded (!p.isV6 && off && !o.isGw) f (vpcNatSnat m f env skb p srcnet)) fun f =>
  orElse (guarded (p.isV6 && off && !o.isGw) f (vpcNatSnat6 m f env skb p srcnet)) fun f =>
  if !netsAllowed m srcnet dstnet then
    if srcnet = 0#32 ∨ dstnet ≠ 0#32 then shotOut f skb else gatewayStage m f skb p srcnet
  else deliverTail m f skb p o foreign dstnet

/-- After source authentication. -/
def fromPodAuth (m : Maps) (f : Flows) (env : Env) (skb : Skb) (p : Pkt) (o : Origin)
    (foreign : Bool) : Out :=
  if p.isV6 && p.dst == linkLocalGw6 then bridgeReverse6 m f skb p o.srcnet
  else if p.isV6 && p.dst == svcLoopback6 then svcHairpinReverse m f skb p o.srcnet
  else if p.isV6 && v6LinkScoped p.dst then
    (if o.srcnet ≠ 0#32 then shotOut f skb else okOut f skb)
  else if o.srcnet != 0#32 && !o.isGw && cfg m cfgSgUpdating != 0#32 &&
      (sgL4 skb.frame p.proto).isSome then shotOut f skb
  else routeAndDeliver m f env skb p o foreign (netOf m o.srcnet p.dst)

/-- The uplink's masquerade, the only stage before authentication that translates. -/
def uplinkStage (m : Maps) (f : Flows) (env : Env) (skb : Skb) (p : Pkt) : Attempt :=
  if p.isV6 then masqSnat6 m f env skb p else masqSnat m f env skb p

/-- The stages of `from_pod`, in order. -/
def fromPod (m : Maps) (f : Flows) (env : Env) (skb0 : Skb) : Out :=
  let o := originOf m skb0
  if o.port = some portQuarantine then shotOut f skb0
  else
    let skb := if o.atUplink then skb0 else Skb.clearMarks skb0
    if unsupportedIpHeader skb.frame then shotOut f skb
    else
      match parseIp skb.frame with
      | none => okOut f skb
      | some p =>
        orElse (guarded o.atUplink f (uplinkStage m f env skb p)) fun f =>
        if linkControlOut skb.frame p then okOut f skb
        else
          match authenticate m o skb.ifindex p with
          | none => shotOut f skb
          | some foreign => fromPodAuth m f env skb p o foreign

theorem fromPod_pod {m : Maps} {f : Flows} {env : Env} {skb : Skb} {p : Pkt} {v : U32}
    (ho : originOf m skb = ⟨some v, false⟩) (hlive : v ≠ portQuarantine)
    (hp : parseIp skb.frame = some p) (hctl : linkControlOut skb.frame p = false) :
    fromPod m f env skb =
      if unsupportedIpHeader skb.frame then shotOut f (Skb.clearMarks skb)
      else
        match authenticate m ⟨some v, false⟩ skb.ifindex p with
        | none => shotOut f (Skb.clearMarks skb)
        | some foreign => fromPodAuth m f env (Skb.clearMarks skb) p ⟨some v, false⟩ foreign := by
  have hframe : (Skb.clearMarks skb).frame = skb.frame := rfl
  unfold fromPod
  simp only [ho, hlive, Option.some.injEq, Bool.false_eq_true, if_false, hframe, hp, guarded,
    orElse_miss, hctl]
  rfl

/-- `cozyplane_from_pod_continue`: at the uplink a pass continues the tcx chain. -/
def fromPodContinue (m : Maps) (f : Flows) (env : Env) (skb : Skb) : Out :=
  let out := fromPod m f env skb
  if out.act = .ok ∧ skb.ifindex = cfg m cfgUplinkIfindex then { out with act := .next } else out

/-- Destinations the boundary leaves to the later stages: the link-local gateways, the
    resolver and the organisation Gateway. -/
def boundaryPlumbing (m : Maps) (fr : Frame) (p : Pkt) (net peer : U32) : Bool :=
  let port := (boundaryL4 fr p).map Prod.snd
  p.dst == v4To128 linkLocalGw || p.dst == linkLocalGw6 ||
    (p.isV6 && v6LinkScoped p.dst) ||
    (peer == 0#32 && cfg m cfgResolverPort != 0#32 && dnsDestination m p &&
      isTcpUdp p.proto && port == some 53#16) ||
    (peer == 0#32 && !p.isV6 && p.proto == ipprotoTcp &&
      (port == some 80#16 || port == some 443#16) && m.orgGw ⟨net, p.dst⟩)

def boundaryKey (net peer : U32) (p : Pkt) (hook : Bool) : BoundaryFlow :=
  ⟨p.src, p.dst, net, peer, 0#16, 0#16, 0#8, hook⟩

/-- The boundary decision of the `from_pod` wrapper. -/
def boundaryEgress (m : Maps) (f : Flows) (env : Env) (skb : Skb) : Flows × Bool :=
  let o := originOf m skb
  let net := o.srcnet
  match parseIp skb.frame with
  | none => (f, true)
  | some p =>
    if net = 0#32 then (f, true)
    else
      let peer := netOf m net p.dst
      match m.boundaryPolicy net with
      | none => (f, (m.boundaryPolicy peer).isNone)
      | some _ =>
        if o.isGw then (f, true)
        else
          let authentic := match localOf m net p.src with
            | some self => self.ifindex == skb.ifindex
            | none => vpnApplianceSource m net p.src skb.ifindex
          if !authentic then (f, false)
          else if boundaryPlumbing m skb.frame p net peer then (f, true)
          else boundaryGate m f env skb.frame p (boundaryKey net peer p false)

/-- The boundary decision before `from_pod`. -/
def cozyplaneFromPod (m : Maps) (f : Flows) (env : Env) (skb : Skb) : Out :=
  if m.ports skb.ifindex = some portQuarantine then shotOut f skb
  else if unsupportedIpHeader skb.frame then shotOut f skb
  else if skb.frame == .arp || boundaryNeighborDiscovery skb.frame ||
      boundaryGuestConfig skb.frame then okOut f skb
  else
    let b := boundaryEgress m f env skb
    if !b.2 then shotOut b.1 skb
    else if m.lbProg 4 then fromPodContinue m b.1 env skb
    else shotOut b.1 skb

end CozyFromPod
