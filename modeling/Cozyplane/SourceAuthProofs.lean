import Cozyplane.ArrivalProofs

/-!
# Source authentication — what a pod may send, and who believes it

`from_pod` authenticates the source of every packet that is not link control: the veth owns
it, or holds a forwarding right that covers it. `to_pod` in turn admits router
advertisements, neighbour messages and DHCPv6 replies on the strength of a LINK-SCOPED
SOURCE alone, which is safe only as long as no pod can send one to another pod.
-/

namespace CozySource

open CozyPacket CozyMaps CozyDatapath CozyPolicy CozyNat CozyService CozySteer
open CozyFromPod CozyReceive CozyArrival

variable {m : Maps} {f g : Flows} {env : Env} {skb : Skb} {p : Pkt} {v : U32}

/-- A pod's veth with a `ports` entry and no gateway flag. -/
structure PodVeth (m : Maps) (skb : Skb) (v : U32) : Prop where
  port : m.ports skb.ifindex = some v
  notGw : hasBit v portFGateway = false
  notUplink : skb.ifindex ≠ cfg m cfgUplinkIfindex

theorem originOf_pod (hv : PodVeth m skb v) : originOf m skb = ⟨some v, false⟩ := by
  simp [originOf, hv.port, hv.notUplink]

variable {srcnet : U32} {foreign : Bool}

/-- The entry a bridge reply is restored from. -/
def bridgeRestores (k : Family) (f : Flows) (fr : Frame) (p : Pkt) (net : U32) :
    Option CtRevVal :=
  if p.proto = k.icmp then
    match icmpEcho fr with
    | none => none
    | some (type, gwId) =>
      if k.isErr type then
        match embLoad k fr with
        | none => none
        | some e =>
          if !isTcpUdp e.proto || e.saddr != k.gw || e.daddr != p.src then none
          else f.ctRev ⟨e.proto, e.sport, net, e.daddr, e.dport⟩
      else if type ≠ k.echoReply then none
      else f.ctRev ⟨p.proto, gwId, net, p.src, 0#16⟩
  else if !isTcpUdp p.proto then none
  else
    match l4Ports fr with
    | none => none
    | some (pport, gwPort) => f.ctRev ⟨p.proto, gwPort, net, p.src, pport⟩

/-- What the reply half of a hairpin goes on as: its source port is restored as well. -/
def hairpinRestores (f : Flows) (fr : Frame) (p : Pkt) (net : U32) : Option Face :=
  match svcPorts fr p with
  | none => none
  | some (sport, dport) =>
    (f.svcRev ⟨net, p.proto, dport, p.src, p.src, sport⟩).map fun rv =>
      ⟨rv.vip, controlFrame (snatTo fr rv.vip sport rv.vport)⟩

/-- The packet names a service whose chosen backend is its own source. -/
def svcHairpin (m : Maps) (f : Flows) (fr : Frame) (p : Pkt) (srcnet dstnet : U32) : Bool :=
  match svcPorts fr p with
  | none => false
  | some (sport, dport) =>
    match m.svcVips ⟨dstnet, p.dst, p.proto, dport⟩ with
    | none => false
    | some sv =>
      sv.n != 0#32 &&
        (svcPick sv (f.svcFwd ⟨srcnet, p.proto, sport, p.src, p.dst, dport⟩) p sport dport).hairpin

/-- The service stage is reached: the networks may talk, and no explicit route of the VPC
    took an off-VPC destination first. -/
def reachesServices (m : Maps) (p : Pkt) (srcnet dstnet : U32) : Bool :=
  netsAllowed m srcnet dstnet &&
    (srcnet == 0#32 || dstnet != 0#32 || (routeOf m srcnet p.dst).isNone)

/-- The face a v6 packet is sent on with. -/
def emitted (m : Maps) (f : Flows) (fr : Frame) (p : Pkt) (net : U32) : Face :=
  if p.dst = linkLocalGw6 then
    match bridgeRestores family6 f fr p net with
    | some rv => ⟨rv.fabricIp, controlFrame fr⟩
    | none => ⟨p.src, controlFrame fr⟩
  else if p.dst = svcLoopback6 then
    match hairpinRestores f fr p net with
    | some x => x
    | none => ⟨p.src, controlFrame fr⟩
  else if reachesServices m p net (netOf m net p.dst) &&
      svcHairpin m f fr p net (netOf m net p.dst) then ⟨svcLoopback6, controlFrame fr⟩
  else ⟨p.src, controlFrame fr⟩

variable {s : Option Face}

variable {net : U32} {out : Out} {dstnet : U32}

section Stages

variable {s : Option Face}

section

variable (hf : f.svcFwd = g.svcFwd) (hs : face skb.frame = s)

include hf hs

end

end Stages

end CozySource
