import Cozyplane.FromPodProofs

/-!
# The receiving hooks — `to_pod`, `from_overlay`, `from_uplink`

* `to_pod` runs for every delivery into a pod's veth, whatever path brought the packet there; it is
  where ingress policy lives. Its sanctioned early exits (resolver reply, Gateway reply, bridge,
  floating address, gateway source, link control, ServiceVIP reply, LoadBalancer pin) are separate
  definitions, in the source's order.
* `from_overlay` demultiplexes a decapsulated packet by its tunnel id.
* `from_uplink` is the entry of off-cluster traffic.
-/

namespace CozyReceive

open CozyPacket CozyMaps CozyDatapath CozyPolicy CozyNat CozyService CozySteer
open CozyBoundary CozyFromPod

-- ── to_pod

/-- The link control messages a pod accepts from its link: RA, NS, NA with hop limit 255
    and code 0, and DHCPv6 server replies. A load past the end of the packet leaves zero. -/
def linkControlIn (fr : Frame) (p : Pkt) : Bool :=
  match fr with
  | .ip6 h l =>
    (p.proto == ipprotoIcmpv6 && h.hopLimit == 255#8 && (load8 l 1).getD 0#8 == 0#8 &&
        ((load8 l 0).getD 0#8 == 134#8 || (load8 l 0).getD 0#8 == 135#8 ||
          (load8 l 0).getD 0#8 == 136#8)) ||
      (p.proto == ipprotoUdp && (load16 l 0).getD 0#16 == 547#16 &&
        (load16 l 2).getD 0#16 == 546#16)
  | _ => false

/-- An LB pin under network 0 names this packet's flow. -/
def lbPinned (f : Flows) (fr : Frame) (p : Pkt) : Bool :=
  isTcpUdp p.proto &&
    match l4Ports fr with
    | none => false
    | some (sport, dport) =>
      match f.svcRev ⟨0#32, p.proto, sport, p.dst, p.src, dport⟩ with
      | some rv => rv.lb
      | none => false

/-- SecurityGroups on a packet a tenant forwarder brought: judged as north-south. -/
def fwdGroupsRefuse (m : Maps) (fr : Frame) (p : Pkt) (dstnet mark : U32) : Bool :=
  dstnet != 0#32 && hasBit mark fwdMark &&
    match sgL4 fr p.proto with
    | some dport => !nsSgAdmit m dstnet p.dst p.src (cidrProto p.proto p.isV6) dport
    | none => false

/-- SecurityGroups on east-west traffic. -/
def groupsRefuse (m : Maps) (fr : Frame) (p : Pkt) (srcnet dstnet mark : U32) : Bool :=
  dstnet != 0#32 && netOf m dstnet p.dst != 0#32 &&
    !hasBit mark (gwMark ||| sgOk ||| fwdMark) &&
    match sgL4 fr p.proto with
    | some dport =>
      let srcmap := sgMembership m ⟨srcnet, p.src⟩
      let dstmap := sgMembership m ⟨dstnet, p.dst⟩
      !(sgAdmit m ⟨dstnet, p.dst⟩ srcnet srcmap dport p.proto &&
        sgEgressAdmit m srcnet dstnet srcmap dstmap dport p.proto)
    | none => false

/-- The delivery tail: marks consumed, packet into the pod. -/
def admitToPod (f : Flows) (skb : Skb) : Out :=
  okOut f { skb with mark := skb.mark &&& ~~~(gwMark ||| sgOk ||| nsMark ||| fwdMark) }

/-- NetworkPolicy on the default network. -/
def npStage (m : Maps) (f : Flows) (skb : Skb) (p : Pkt) : Out :=
  match sgL4 skb.frame p.proto with
  | none => admitToPod f skb
  | some dport =>
    let sport := if p.proto = ipprotoUdp then (load16 skb.frame.l4 0).getD 0#16 else 0#16
    let q : NpQuery := ⟨p.src, p.dst, dport, sport, p.proto, !p.isV6⟩
    if !npIngress m f q || !npEgress m f q then shotOut f skb
    else if p.proto = ipprotoUdp ∧ hfArmed m = true then admitToPod (hfPinLocal m f q) skb
    else admitToPod f skb

/-- Isolation and policy, for a packet no sanctioned exit claimed. -/
def judge (m : Maps) (f : Flows) (skb : Skb) (p : Pkt) (dstnet : U32) : Out :=
  let srcnet := netOf m dstnet p.src
  let isolated := !netsAllowed m srcnet dstnet
  if isolated && (srcnet == 0#32 && dstnet != 0#32 && lbPinned f skb.frame p) then okOut f skb
  else if isolated && !hasBit skb.mark fwdMark &&
      !(srcnet == 0#32 && dstnet != 0#32 && skb.mark == gwMark) then shotOut f skb
  else if fwdGroupsRefuse m skb.frame p dstnet skb.mark then shotOut f skb
  else if groupsRefuse m skb.frame p srcnet dstnet skb.mark then shotOut f skb
  else if dstnet = 0#32 then npStage m f skb p
  else admitToPod f skb

/-- The sanctioned v4 exits: bridge, floating address, the two host identities. -/
def toPodV4 (m : Maps) (f : Flows) (env : Env) (skb : Skb) (p : Pkt) (native : Bool) :
    Option Out :=
  match (if native then none else bridgeOf m p.dst) with
  | some be => some (bridgeForward m f env skb p be.net be.vpcIp)
  | none =>
    match (if native then none else floatOf m p.dst) with
    | some fe => some (floatingForward m f skb p fe.net fe.vpcIp)
    | none =>
      if v4Of128 p.src = linkLocalGw ∨ v4Of128 p.src = svcLoopback then some (okOut f skb)
      else none

/-- The sanctioned v6 exits: floating address, bridge. -/
def toPodV6 (m : Maps) (f : Flows) (env : Env) (skb : Skb) (p : Pkt) (native : Bool) :
    Option Out :=
  if native then none
  else
    match floatOf m p.dst with
    | some fe => some (floatingForward6 m f skb p fe.net fe.vpcIp)
    | none =>
      match bridgeOf m p.dst with
      | some be => some (bridgeForward6 m f env skb p be.net be.vpcIp)
      | none => none

/-- The platform replies of a packet that did not come over a native VPC path. -/
def toPodReplies (m : Maps) (f : Flows) (skb : Skb) (p : Pkt) (native : Bool) : Option Out :=
  if native then none
  else
    match dnsReturn m f skb p with
    | some out => some out
    | none =>
      match gwReturn m f skb p with
      | some skb' => some (okOut f skb')
      | none => none

/-- A packet whose source is link-scoped: control messages in, everything else out. -/
def linkStage (f : Flows) (skb : Skb) (p : Pkt) : Out :=
  if addrByte0 p.src = 0xff#8 then shotOut f skb
  else if linkControlIn skb.frame p then okOut f skb
  else shotOut f skb

/-- `cozyplane_to_pod_continue`. -/
def toPodContinue (m : Maps) (f : Flows) (env : Env) (skb0 : Skb) : Out :=
  let o := originOf m skb0
  if o.port = some portQuarantine then shotOut f skb0
  else if unsupportedIpHeader skb0.frame then shotOut f skb0
  else
    match parseIp skb0.frame with
    | none => okOut f skb0
    | some p =>
      if !receivingOwner m skb0 o.srcnet p.dst then shotOut f skb0
      else
        let native := hasBit skb0.mark vpcMark
        let skb := { skb0 with mark := skb0.mark &&& ~~~vpcMark }
        orElse (attempt f (toPodReplies m f skb p native)) fun f =>
        orElse (guarded (!p.isV6) f (attempt f (toPodV4 m f env skb p native))) fun f =>
        orElse (guarded p.isV6 f (attempt f (toPodV6 m f env skb p native))) fun f =>
        orElse (guarded (p.isV6 && v6LinkScoped p.src) f (.done (linkStage f skb p))) fun f =>
        orElse (attempt f (svcReturn f skb p o.srcnet)) fun f =>
        judge m f skb p o.srcnet

/-- The boundary decision of the `to_pod` wrapper. -/
def boundaryIngress (m : Maps) (f : Flows) (env : Env) (skb : Skb) : Flows × Bool :=
  let net := (originOf m skb).srcnet
  match parseIp skb.frame with
  | none => (f, true)
  | some p =>
    if net = 0#32 then (f, true)
    else if (m.boundaryPolicy net).isSome && hasBit skb.mark fwdMark &&
        (vpnRoute m net p.src).isNone then (f, false)
    else boundaryGate m f env skb.frame p (boundaryKey net (netOf m net p.src) p true)

/-- The boundary decision before `to_pod`. -/
def cozyplaneToPod (m : Maps) (f : Flows) (env : Env) (skb : Skb) : Out :=
  if m.ports skb.ifindex = some portQuarantine then shotOut f skb
  else if unsupportedIpHeader skb.frame then shotOut f skb
  else
    let b := boundaryIngress m f env skb
    if !b.2 then shotOut b.1 skb
    else if m.lbProg 5 then toPodContinue m b.1 env skb
    else shotOut b.1 skb

/-- The network part of a tunnel id. -/
def tunnelVni (id : U32) : U32 := id &&& ~~~(tunFGateway ||| tunFForward)

/-- Default-network traffic: LoadBalancer DSR, a local VPC pod's fabric address, else the
    kernel behind the host firewall. -/
def overlayDefault (m : Maps) (f : Flows) (skb : Skb) (p : Pkt) : Out :=
  match skb.tunOpt with
  | some (.lb _ _) => if m.lbProg 1 then lbDsr m f skb else shotOut f skb
  | _ =>
    orElse (bridgeStage m f skb p) fun f => hfExit m f skb .ok

/-- The source's authoritative groups, from the identity option, refuse the packet. -/
def tlvRefuses (m : Maps) (fr : Frame) (p : Pkt) (vni srcNet : U32) (srcmap : U64) : Bool :=
  match sgL4 fr p.proto with
  | some dport =>
    !(sgAdmit m ⟨vni, p.dst⟩ srcNet srcmap dport p.proto &&
      sgEgressAdmit m srcNet vni srcmap (sgMembership m ⟨vni, p.dst⟩) dport p.proto)
  | none => false

/-- A tunnelled packet whose endpoint is here. -/
def overlayLocal (m : Maps) (f : Flows) (skb : Skb) (p : Pkt) (id vni : U32)
    (ep : Endpoint) : Out :=
  let into (mark : U32) : Out := deliverLocal f { skb with mark := mark ||| vpcMark } vni p.dst ep
  if hasBit id tunFGateway then into gwMark
  else if hasBit id tunFForward then into (skb.mark ||| fwdMark)
  else
    match skb.tunOpt with
    | some (.sg srcNet srcmap) =>
      if tlvRefuses m skb.frame p vni srcNet srcmap then shotOut f skb
      else into (skb.mark ||| sgOk)
    | _ => into skb.mark

/-- A VPC NAT reply of either family. -/
def natReverse (m : Maps) (f : Flows) (skb : Skb) (p : Pkt) : Option Out :=
  if p.isV6 then vpcNatReverse6 m f skb p else vpcNatReverse m f skb p

/-- A floating address whose pod is here. -/
def overlayFloating (m : Maps) (f : Flows) (skb : Skb) (p : Pkt) (vni : U32) : Option Out :=
  match floatOf m p.dst with
  | none => none
  | some fe =>
    if fe.net ≠ vni then none
    else
      match localOf m fe.net fe.vpcIp with
      | some ep => some (deliverLocal f skb fe.net fe.vpcIp ep)
      | none => none

/-- An explicit route or the default gateway hosted here, for an off-VPC destination. -/
def overlayRoute (m : Maps) (f : Flows) (skb : Skb) (p : Pkt) (id vni : U32) : Option Out :=
  if netOf m vni p.dst ≠ 0#32 then none
  else if hasBit id tunFGateway = false ∧ routesBlocked m vni = true then some (shotOut f skb)
  else
    match routeOf m vni p.dst with
    | some route =>
      match routeNextHop (some route) p with
      | none => some (shotOut f skb)
      | some rt =>
        if rt.nodeIp ≠ 0#32 then some (shotOut f skb)
        else
          match localOf m vni rt.gwIp with
          | some rep => some (deliverLocal f skb vni rt.gwIp rep)
          | none => some (shotOut f skb)
    | none =>
      match m.gateways vni with
      | none => none
      | some g =>
        if g.nodeIp ≠ 0#32 then none
        else
          match localOf m vni g.gwIp with
          | some gep => some (deliverLocal f skb vni g.gwIp gep)
          | none => none

/-- VPC traffic: the delivery step for tunnel network `vni`. -/
def overlayVpc (m : Maps) (f : Flows) (skb : Skb) (p : Pkt) (id vni : U32) : Out :=
  match localOf m vni p.dst with
  | some ep => overlayLocal m f skb p id vni ep
  | none =>
    orElse (attempt f (natReverse m f skb p)) fun f =>
    orElse (attempt f (overlayFloating m f skb p vni)) fun f =>
    orElse (attempt f (overlayRoute m f skb p id vni)) fun f =>
    match m.migrateFwd ⟨vni, p.dst⟩ with
    | some tgt => encap m f skb vni tgt 0#32
    | none => okOut f skb

/-- `cozyplane_from_overlay`. `tunKey` is (tunnel id, remote endpoint). -/
def cozyplaneFromOverlay (m : Maps) (f : Flows) (skb0 : Skb) : Out :=
  let skb := Skb.clearMarks skb0
  if unsupportedIpHeader skb.frame then shotOut f skb
  else
    match skb.tunKey with
    | none => shotOut f skb
    | some (id, remote) =>
      if !m.overlayNodes remote then shotOut f skb
      else
        match parseIp skb.frame with
        | none => okOut f skb
        | some p =>
          if tunnelVni id = cfg m cfgVni then overlayDefault m f skb p
          else overlayVpc m f skb p id (tunnelVni id)

/-- A floating address at the uplink: into the local pod, or over the overlay to the pod's
    node. -/
def uplinkFloating (m : Maps) (f : Flows) (skb : Skb) (p : Pkt) : Option Out :=
  match floatOf m p.dst with
  | none => none
  | some fe =>
    match localOf m fe.net fe.vpcIp with
    | some l => some (deliverLocal f skb fe.net fe.vpcIp l)
    | none =>
      match remoteOf m fe.net fe.vpcIp with
      | some node => some (encap m f skb fe.net node 0#32)
      -- v4 leaves an address without a live target to the kernel, v6 goes on
      | none => if p.isV6 then none else some (okOut f skb)

def cozyplaneFromUplink (m : Maps) (f : Flows) (skb : Skb) : Out :=
  if unsupportedIpHeader skb.frame then shotOut f skb
  else
    match parseIp skb.frame with
    | none => hfExit m f skb .next
    | some p =>
      orElse (attempt f (if p.isV6 then masqReverse6 m f skb p else masqReverse m f skb p)) fun f =>
      orElse (attempt f (natReverse m f skb p)) fun f =>
      orElse (attempt f (uplinkFloating m f skb p)) fun f =>
      if !p.isV6 && m.lbProg 0 then lbIngress m f skb else hfExit m f skb .next

variable {m : Maps} {f : Flows} {skb : Skb} {p : Pkt} {id remote vni : U32} {out : Out}

theorem tunnelVni_plain (h : id &&& (tunFGateway ||| tunFForward) = 0#32) : tunnelVni id = id :=
  calc tunnelVni id
      = (id &&& (tunFGateway ||| tunFForward)) ||| tunnelVni id := by rw [h, BitVec.zero_or]
    _ = id &&& ((tunFGateway ||| tunFForward) ||| ~~~(tunFGateway ||| tunFForward)) :=
      BitVec.and_or_distrib_left.symm
    _ = id := by rw [BitVec.or_not_self, BitVec.and_allOnes]

theorem fromOverlay_tenant (skb : Skb) (hplain : unsupportedIpHeader skb.frame = false)
    (hparse : parseIp skb.frame = some p) (htun : skb.tunKey = some (id, remote))
    (hknown : m.overlayNodes remote = true) (hvni : tunnelVni id ≠ cfg m cfgVni) :
    cozyplaneFromOverlay m f skb = overlayVpc m f (Skb.clearMarks skb) p id (tunnelVni id) := by
  show (if unsupportedIpHeader skb.frame then _ else match skb.tunKey with
    | none => _
    | some (id, remote) => if !m.overlayNodes remote then _ else match parseIp skb.frame with
      | none => _
      | some p => _) = _
  rw [hplain, htun]
  dsimp only
  rw [hknown, hparse]
  exact if_neg hvni

theorem overlayFloating_some (h : overlayFloating m f skb p vni = some out) :
    ∃ ip ep, localOf m vni ip = some ep ∧ out = deliverLocal f skb vni ip ep := by
  unfold overlayFloating at h
  split at h
  · nomatch h
  split at h
  · nomatch h
  next hnet =>
  split at h
  · next ep hl =>
    obtain rfl := not_not.mp hnet
    exact ⟨_, ep, hl, (Option.some.inj h).symm⟩
  · nomatch h

theorem overlayRoute_some (h : overlayRoute m f skb p id vni = some out) :
    out = shotOut f skb ∨ ∃ ip ep, localOf m vni ip = some ep ∧ out = deliverLocal f skb vni ip ep := by
  unfold overlayRoute at h
  repeat' split at h
  all_goals
    first
    | exact .inl (Option.some.inj h).symm
    | exact .inr ⟨_, _, by assumption, (Option.some.inj h).symm⟩
    | nomatch h

end CozyReceive
