import Cozyplane.SteeringProofs

/-!
# The managed VPC boundary — gate and flow table

`boundary_gate` runs at both pod hooks, before any NAT or service path. Between two bounded
VPCs a packet is admitted by a live tracked flow, by an ICMP error that quotes one, or — when
it may open a flow — by a pair of rules, one of each VPC's own revision. An admission writes
the flow and, where the protocol defines one, its reply.
-/

namespace CozyBoundary

open PrefixTable CozyPacket CozyMaps CozyDatapath CozyNat

/-- `boundary_l4`: the ports of the flow key; for ICMP, identifier and type with code. A v4 header
    with options or a fragment is refused. -/
def boundaryL4 (fr : Frame) (p : Pkt) : Option (U16 × U16) :=
  let plain := match fr with
    | .ip4 h _ => h.version == 4#4 && h.ihl == 5#4 && h.fragOff &&& 0x3fff#16 == 0#16
    | _ => true
  if !plain then none
  else if isTcpUdp p.proto then l4Ports fr
  else if p.proto = ipprotoIcmp ∨ p.proto = ipprotoIcmpv6 then
    match load16 fr.l4 0, load16 fr.l4 4 with
    | some typeCode, some id => some (id, typeCode)
    | _, _ => none
  else none

/-- How a message relates to a tracked flow: not an error, an error the formats exclude, or
    an error of a defined format. -/
inductive ErrorKind where
  | notError
  | malformed
  | quoting
  deriving DecidableEq

/-- The type and code table of `boundary_related_error`. -/
def errorKind (proto : U8) (isV6 : Bool) (typeCode : U16) : ErrorKind :=
  let type := typeCode.extractLsb' 8 8
  let code := typeCode.extractLsb' 0 8
  if proto = ipprotoIcmp ∧ isV6 = false then
    if type ≠ 3#8 ∧ type ≠ 11#8 ∧ type ≠ 12#8 then .notError
    else if (type = 3#8 ∧ 15#8 < code) ∨ (type = 11#8 ∧ 1#8 < code) ∨
        (type = 12#8 ∧ 2#8 < code) then .malformed
    else .quoting
  else if proto = ipprotoIcmpv6 ∧ isV6 = true then
    if 128#8 ≤ type then .notError
    else if type < 1#8 ∨ 4#8 < type ∨ (type = 1#8 ∧ 6#8 < code) ∨ (type = 2#8 ∧ code ≠ 0#8) ∨
        (type = 3#8 ∧ 1#8 < code) ∨ (type = 4#8 ∧ 2#8 < code) then .malformed
    else .quoting
  else .notError

/-- Addresses and protocol of the quoted packet, and the offset of its L4 header. -/
def quotedHeader (isV6 : Bool) (l : List U8) : Option (Addr × Addr × U8 × Nat) :=
  if isV6 then
    match load8 l 8, load8 l 14, load128 l 16, load128 l 32 with
    | some ver, some proto, some src, some dst =>
      if ver >>> 4 ≠ 6#8 then none else some (src, dst, proto, 48)
    | _, _, _, _ => none
  else
    match load8 l 8, load16 l 14, load8 l 17, load32 l 20, load32 l 24 with
    | some vihl, some frag, some proto, some src, some dst =>
      if vihl ≠ 0x45#8 ∨ frag &&& 0x3fff#16 ≠ 0#16 then none
      else some (v4To128 src, v4To128 dst, proto, 28)
    | _, _, _, _, _ => none

/-- Ports of the quoted packet as a flow key holds them: TCP and UDP ports, or the id and
    type/code of an echo message. -/
def quotedPorts (isV6 : Bool) (proto : U8) (l : List U8) (off : Nat) : Option (U16 × U16) :=
  -- eight bytes of L4 must be quoted
  match load64 l off, load16 l off, load16 l (off + 2), load16 l (off + 4) with
  | some _, some w0, some w2, some w4 =>
    if isTcpUdp proto then some (w0, w2)
    else if (isV6 = false ∧ proto = ipprotoIcmp ∧ (w0 = 0x0800#16 ∨ w0 = 0#16)) ∨
        (isV6 = true ∧ proto = ipprotoIcmpv6 ∧ (w0 = 0x8000#16 ∨ w0 = 0x8100#16)) then
      some (w4, w0)
    else none
  | _, _, _, _ => none

/-- The tracked flow an ICMP error is about: the quoted packet, sent by the error's addressee, keyed
    at the OPPOSITE hook. -/
def quotedFlow (fr : Frame) (p : Pkt) (key : BoundaryFlow) : Option BoundaryFlow :=
  match quotedHeader p.isV6 fr.l4 with
  | none => none
  | some (src, dst, proto, off) =>
    if src ≠ p.dst then none
    else
      match quotedPorts p.isV6 proto fr.l4 off with
      | none => none
      | some (sport, dport) =>
        some { key with src := src, dst := dst, sport := sport, dport := dport
                        proto := proto, hook := !key.hook }

/-- The policies of both sides as a flow entry stores them. -/
structure Revisions where
  localRev : U64
  peerRev : U64
  localId : U64
  peerId : U64
  deriving DecidableEq

def BoundaryFlowValue.revs (v : BoundaryFlowValue) : Revisions :=
  ⟨v.localRev, v.peerRev, v.localId, v.peerId⟩

/-- A flow entry written under these revisions that has not expired. -/
def liveUnder (ct : Option BoundaryFlowValue) (r : Revisions) (now : U64) : Bool :=
  match ct with
  | some v => BoundaryFlowValue.revs v == r && decide (now < v.expires)
  | none => false

/-- Thirty seconds in nanoseconds. -/
def flowLifetime : U64 := 30000000000#64

def flowValue (r : Revisions) (now : U64) : BoundaryFlowValue :=
  ⟨r.localRev, r.peerRev, r.localId, r.peerId, now + flowLifetime⟩

/-- SYN without ACK, RST or FIN. -/
def bareSyn (fr : Frame) : Bool :=
  match tcpFlags fr with
  | some flags => flags &&& 0x02#8 != 0#8 && flags &&& 0x15#8 == 0#8
  | none => false

/-- The reply of a flow at the opposite hook; `none` where no reply is defined. -/
def replyFlow (key : BoundaryFlow) : Option BoundaryFlow :=
  let back := { key with src := key.dst, dst := key.src, hook := !key.hook }
  if isTcpUdp key.proto then some { back with sport := key.dport, dport := key.sport }
  else if key.proto = ipprotoIcmp ∧ key.dport = 0x0800#16 then some { back with dport := 0#16 }
  else if key.proto = ipprotoIcmpv6 ∧ key.dport = 0x8000#16 then
    some { back with dport := 0x8100#16 }
  else none

/-- The two rules a new flow needs: the local network's in the hook's direction, the peer's in the
    opposite one. -/
def localRule (key : BoundaryFlow) (r : Revisions) : BoundaryRule :=
  ⟨r.localRev, key.loc, key.peer, key.dport, key.proto, key.hook⟩

def peerRule (key : BoundaryFlow) (r : Revisions) : BoundaryRule :=
  ⟨r.peerRev, key.peer, key.loc, key.dport, key.proto, !key.hook⟩

/-- The two flow entries of a new flow. A refused update refuses the packet; when it is the
    reply's, the flow's own entry stays. -/
def trackFlow (f : Flows) (env : Env) (key : BoundaryFlow) (v : BoundaryFlowValue) :
    Flows × Bool :=
  if !env.flowStored then (f, false)
  else
    let f1 := { f with boundaryCt := Function.update f.boundaryCt key (some v) }
    match replyFlow key with
    | none => (f1, true)
    | some back =>
      if env.replyStored then
        ({ f1 with boundaryCt := Function.update f1.boundaryCt back (some v) }, true)
      else (f1, false)

/-- The part of `boundary_gate` for two bounded VPCs, once the revisions are known. -/
def gateBetween (m : Maps) (f : Flows) (env : Env) (fr : Frame) (p : Pkt)
    (key : BoundaryFlow) (r : Revisions) : Flows × Bool :=
  match errorKind key.proto p.isV6 key.dport with
  | .malformed => (f, false)
  | .quoting =>
    match quotedFlow fr p key with
    | none => (f, false)
    | some q => (f, liveUnder (f.boundaryCt q) r env.now)
  | .notError =>
    if liveUnder (f.boundaryCt key) r env.now then
      ({ f with boundaryCt := Function.update f.boundaryCt key (some (flowValue r env.now)) },
        true)
    else if key.proto = ipprotoTcp ∧ bareSyn fr = false then (f, false)
    else if !m.boundaryRules (localRule key r) || !m.boundaryRules (peerRule key r) then
      (f, false)
    else trackFlow f env key (flowValue r env.now)

/-- `boundary_gate`. `key` arrives with networks, addresses and hook filled in. -/
def boundaryGate (m : Maps) (f : Flows) (env : Env) (fr : Frame) (p : Pkt)
    (key0 : BoundaryFlow) : Flows × Bool :=
  match m.boundaryPolicy key0.loc, m.boundaryPolicy key0.peer with
  | none, none => (f, true)
  | none, some _ => (f, false)
  | some loc, peer? =>
    if loc.revision = 0#64 then (f, false)
    else if key0.loc = key0.peer then (f, true)
    else
      match boundaryL4 fr p with
      | none => (f, false)
      | some (sport, dport) =>
        let key := { key0 with sport := sport, dport := dport, proto := p.proto }
        if key.peer = 0#32 then
          -- north-south: inbound keeps its own gates, outbound needs the Internet grant
          if key.hook then (f, true)
          else if (find m.boundaryCidrs p.dst).isSome then (f, false)
          else if (vpnRoute m key.loc p.dst).isSome then (f, true)
          else (f, loc.internet && m.boundaryPrimary ⟨key.loc, p.src⟩)
        else
          match peer? with
          | none => (f, false)
          | some peer =>
            if peer.revision = 0#64 then (f, false)
            else
              gateBetween m f env fr p key
                ⟨loc.revision, peer.revision, loc.identity, peer.identity⟩

/-- `boundary_neighbor_discovery`: NS/NA control frames of the pod's own link. -/
def boundaryNeighborDiscovery (fr : Frame) : Bool :=
  match fr with
  | .ip6 h l =>
    h.nexthdr == ipprotoIcmpv6 && h.hopLimit == 255#8 && h.version == 6#4 &&
      decide (24 ≤ h.payloadLen.toNat) && decide (h.payloadLen.toNat ≤ l.length) &&
      v6LinkScoped h.daddr &&
      !(addrByte0 h.daddr == 0xff#8 && addrByte1 h.daddr &&& 0x0f#8 != 2#8) &&
      (load16 l 0 == some 0x8700#16 || load16 l 0 == some 0x8800#16) &&
      (match load8 l 8 with
        | some b => b != 0xff#8
        | none => false)
  | _ => false

/-- `fe80::/10`. -/
def linkLocal6 (a : Addr) : Bool := addrByte0 a == 0xfe#8 && addrByte1 a &&& 0xc0#8 == 0x80#8

def allRouters6 : Addr := 0xff020000000000000000000000000002#128
def allDhcpServers6 : Addr := 0xff020000000000000000000000010002#128

/-- `boundary_guest_config`: router solicitations and DHCPv6 client frames. -/
def boundaryGuestConfig (fr : Frame) : Bool :=
  match fr with
  | .ip6 h l =>
    decide (h.payloadLen.toNat ≤ l.length) &&
      (if h.nexthdr = ipprotoIcmpv6 then
        (linkLocal6 h.saddr || h.saddr == 0#128) &&
          (h.daddr == allRouters6 || h.daddr == linkLocalGw6) &&
          decide (8 ≤ h.payloadLen.toNat) && h.hopLimit == 255#8 &&
          load16 l 0 == some 0x8500#16
      else if h.nexthdr = ipprotoUdp ∧ linkLocal6 h.saddr = true then
        (h.daddr == allDhcpServers6 || h.daddr == linkLocalGw6) &&
          decide (12 ≤ h.payloadLen.toNat) &&
          load16 l 0 == some 546#16 && load16 l 2 == some 547#16 &&
          load16 l 4 == some h.payloadLen
      else false)
  | _ => false

end CozyBoundary
