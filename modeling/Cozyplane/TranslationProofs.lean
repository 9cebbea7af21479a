import Cozyplane.PolicyGateProofs

/-!
# Address translation — bridge, masquerade, VPC NAT, floating addresses

Every stateful translation of the datapath uses one mechanism: a forward table `ct_fwd`
from the flow as its initiator sees it to a masquerade port, and a reverse table `ct_rev`
from the reply tuple to the addresses to restore. `alloc_gw_port_in` owns a port by
inserting the reverse entry with `BPF_NOEXIST`.

`ctPort` is that mechanism (the four call sites of the source differ only in their keys and
port range). The v4 and v6 programs are one definition over a `Family`, which holds the
numbers the twins differ in; each program keeps its own name and its own guards.

A program that declines a packet still returns the flow tables, since a port allocated as 0
leaves its reverse entry behind.
-/

namespace CozyNat

open CozyPacket CozyMaps CozyDatapath CozyPolicy

/-- A program that may decline. -/
inductive Attempt where
  | miss (f : Flows)
  | done (o : Out)

/-- What the v4 and v6 twins differ in. -/
structure Family where
  isV6 : Bool
  icmp : U8
  echoReq : U8
  echoReply : U8
  isErr : U8 → Bool
  gw : Addr

/-- `icmp_v4_err`: destination unreachable, time exceeded, parameter problem. -/
def icmpV4Err (type : U8) : Bool := type == 3#8 || type == 11#8 || type == 12#8

def icmp6Err (type : U8) : Bool := decide (type < 128#8)

def family4 : Family := ⟨false, ipprotoIcmp, 8#8, 0#8, icmpV4Err, v4To128 linkLocalGw⟩
def family6 : Family := ⟨true, ipprotoIcmpv6, 128#8, 129#8, icmp6Err, linkLocalGw6⟩

/-- `ip->ihl != 5`; the v6 programs have no such check. -/
def ihlNot5 : Frame → Bool
  | .ip4 h _ => h.ihl != 5#4
  | _ => false

def isTcpUdp (proto : U8) : Bool := proto == ipprotoTcp || proto == ipprotoUdp

/-- `struct emb` / `struct emb6`, addresses as 128-bit keys. -/
structure Emb where
  proto : U8
  saddr : Addr
  daddr : Addr
  sport : U16
  dport : U16
  deriving DecidableEq

/-- `emb_load` (offsets from the outer L4 header). -/
def embLoad4 (l : List U8) : Option Emb := do
  let vihl ← load8 l 8
  if vihl ≠ 0x45#8 then none
  else
    let proto ← load8 l 17
    let saddr ← load32 l 20
    let daddr ← load32 l 24
    let sport ← load16 l 28
    let dport ← load16 l 30
    -- the UDP checksum is loaded too: a quotation that stops before it fails
    if proto = ipprotoUdp ∧ load16 l 34 = none then none
    else pure ⟨proto, v4To128 saddr, v4To128 daddr, sport, dport⟩

/-- `emb6_load`. -/
def embLoad6 (l : List U8) : Option Emb := do
  let ver ← load8 l 8
  if ver >>> 4 ≠ 6#8 then none
  else
    let proto ← load8 l 14
    let saddr ← load128 l 16
    let daddr ← load128 l 32
    let sport ← load16 l 48
    let dport ← load16 l 50
    if proto = ipprotoUdp ∧ load16 l 54 = none then none
    else pure ⟨proto, saddr, daddr, sport, dport⟩

def embLoad (k : Family) (fr : Frame) : Option Emb :=
  if k.isV6 then embLoad6 fr.l4 else embLoad4 fr.l4

/-- Which embedded port `emb_rewrite` replaces. -/
inductive EmbPort where
  | sport
  | dport

/-- `emb_rewrite` / `emb6_rewrite`: both embedded addresses, and a port unless the new one
    is 0. -/
def embRewrite (k : Family) (fr : Frame) (nsaddr ndaddr : Addr) (which : EmbPort)
    (nport : U16) : Frame :=
  let l := fr.l4
  let addrs :=
    if k.isV6 then store128 (store128 l 16 nsaddr) 32 ndaddr
    else store32 (store32 l 20 (v4Of128 nsaddr)) 24 (v4Of128 ndaddr)
  let off := (if k.isV6 then 48 else 28) + (match which with | .sport => 0 | .dport => 2)
  fr.setL4 (if nport = 0#16 then addrs else store16 addrs off nport)

/-- The `i`-th port `alloc_gw_port_in` probes. A zero span leaves the sum unreduced, as
    the BPF modulo does. -/
def gwCandidate (env : Env) (base span : U32) (i : Nat) : U16 :=
  (base + (env.prandom + BitVec.ofNat 32 i) % span).setWidth 16

/-- `alloc_gw_port_in`: the first of sixteen candidates whose reverse key is free (`BPF_NOEXIST`),
    or 0. -/
def allocFrom (f : Flows) (env : Env) (rk : U16 → CtRevKey) (rv : CtRevVal)
    (base span : U32) : Nat → Nat → Flows × U16
  | 0, _ => (f, 0#16)
  | n + 1, i =>
    let p := gwCandidate env base span i
    match f.ctRev (rk p) with
    | none => ({ f with ctRev := Function.update f.ctRev (rk p) (some rv) }, p)
    | some _ => allocFrom f env rk rv base span n (i + 1)

def allocGwPortIn (f : Flows) (env : Env) (proto : U8) (net : U32) (vpcIp : Addr)
    (podPort : U16) (rv : CtRevVal) (base span : U32) : Flows × U16 :=
  allocFrom f env (fun p => ⟨proto, p, net, vpcIp, podPort⟩) rv base span 16 0

/-- The masquerade port of a flow: the one `ct_fwd` holds, or a fresh one if the packet may open a
    flow. -/
def ctPort (f : Flows) (env : Env) (fk : CtFwdKey) (vpcIp : Addr) (rv : CtRevVal)
    (base span : U32) (mayOpen : Bool) : Flows × Option U16 :=
  match f.ctFwd fk with
  | some g => (f, some g)
  | none =>
    if !mayOpen then (f, none)
    else
      let a := allocGwPortIn f env fk.proto fk.net vpcIp fk.podPort rv base span
      if a.2 = 0#16 then (a.1, none)
      else ({ a.1 with ctFwd := Function.update a.1.ctFwd fk (some a.2) }, some a.2)

/-- `bridge_forward_icmp_err` / `bridge_forward6_icmp_err`. -/
def bridgeForwardIcmpErr (k : Family) (f : Flows) (skb : Skb) (p : Pkt) (net : U32)
    (vpcIp : Addr) : Out :=
  match embLoad k skb.frame with
  | none => shotOut f skb
  | some e =>
    if !isTcpUdp e.proto || e.saddr != p.dst then shotOut f skb
    else
      match f.ctFwd ⟨e.proto, net, e.daddr, e.saddr, e.dport, e.sport⟩ with
      | none => shotOut f skb
      | some g =>
        okOut f { skb with
          frame := embRewrite k ((skb.frame.setDst vpcIp).setSrc k.gw) vpcIp k.gw .dport g }

/-- The body `bridge_forward` and `bridge_forward6` share: fabric → VPC on the destination,
    client → gateway on the source. -/
def bridgeForwardOf (k : Family) (m : Maps) (f : Flows) (env : Env) (skb : Skb) (p : Pkt)
    (net : U32) (vpcIp : Addr) : Out :=
  if p.proto = k.icmp then
    match icmpEcho skb.frame with
    | none => shotOut f skb
    | some (type, id) =>
      if k.isErr type then bridgeForwardIcmpErr k f skb p net vpcIp
      else if type ≠ k.echoReq then shotOut f skb
      else
        match ctPort f env ⟨p.proto, net, p.src, p.dst, id, 0#16⟩ vpcIp ⟨p.dst, p.src, id⟩
            1024#32 64000#32 true with
        | (f', none) => shotOut f' skb
        | (f', some g) =>
          okOut f' { skb with
            frame := ((skb.frame.setDst vpcIp).setSrc k.gw).setIcmpId g }
  else if !isTcpUdp p.proto then shotOut f skb
  else
    match l4Ports skb.frame with
    | none => shotOut f skb
    | some (cport, pport) =>
      if hasBit skb.mark nsMark &&
          !nsSgAdmit m net vpcIp p.src (cidrProto p.proto k.isV6) pport then shotOut f skb
      else
        match ctPort f env ⟨p.proto, net, p.src, p.dst, cport, pport⟩ vpcIp
            ⟨p.dst, p.src, cport⟩ 1024#32 64000#32 true with
        | (f', none) => shotOut f' skb
        | (f', some g) =>
          okOut f' { skb with
            frame := ((skb.frame.setDst vpcIp).setSrc k.gw).setSport g }

def bridgeForward (m : Maps) (f : Flows) (env : Env) (skb : Skb) (p : Pkt) (net : U32)
    (vpcIp : Addr) : Out :=
  if ihlNot5 skb.frame then shotOut f skb
  else bridgeForwardOf family4 m f env skb p net vpcIp

def bridgeForward6 (m : Maps) (f : Flows) (env : Env) (skb : Skb) (p : Pkt) (net : U32)
    (vpcIp : Addr) : Out :=
  bridgeForwardOf family6 m f env skb p net vpcIp

/-- What a reverse program does with a packet it has no state for. -/
def noState (f : Flows) (skb : Skb) (drop : Bool) : Out :=
  if drop then shotOut f skb else okOut f skb

/-- `bridge_reverse_icmp_err` / `bridge_reverse6_icmp_err`: a miss passes in both
    families. -/
def bridgeReverseIcmpErr (k : Family) (m : Maps) (f : Flows) (skb : Skb) (p : Pkt)
    (net : U32) : Out :=
  match embLoad k skb.frame with
  | none => okOut f skb
  | some e =>
    if !isTcpUdp e.proto || e.saddr != k.gw || e.daddr != p.src then okOut f skb
    else
      match f.ctRev ⟨e.proto, e.sport, net, e.daddr, e.dport⟩ with
      | none => okOut f skb
      | some rv =>
        deliverNet0 m f { skb with
          frame := embRewrite k ((skb.frame.setSrc rv.fabricIp).setDst rv.clientIp)
            rv.clientIp rv.fabricIp .sport rv.clientPort } rv.clientIp

/-- The body `bridge_reverse` and `bridge_reverse6` share; `drop` is the verdict on a
    packet without state. -/
def bridgeReverseOf (k : Family) (drop : Bool) (m : Maps) (f : Flows) (skb : Skb) (p : Pkt)
    (net : U32) : Out :=
  if p.proto = k.icmp then
    match icmpEcho skb.frame with
    | none => noState f skb drop
    | some (type, gwId) =>
      if k.isErr type then bridgeReverseIcmpErr k m f skb p net
      else if type ≠ k.echoReply then noState f skb drop
      else
        match f.ctRev ⟨p.proto, gwId, net, p.src, 0#16⟩ with
        | none => noState f skb drop
        | some rv =>
          deliverNet0 m f { skb with
            frame := ((skb.frame.setSrc rv.fabricIp).setDst rv.clientIp).setIcmpId
              rv.clientPort } rv.clientIp
  else if !isTcpUdp p.proto then noState f skb drop
  else
    match l4Ports skb.frame with
    | none => noState f skb drop
    | some (pport, gwPort) =>
      match f.ctRev ⟨p.proto, gwPort, net, p.src, pport⟩ with
      | none => noState f skb drop
      | some rv =>
        deliverNet0 m f { skb with
          frame := ((skb.frame.setSrc rv.fabricIp).setDst rv.clientIp).setDport
            rv.clientPort } rv.clientIp

/-- `bridge_reverse`: no state is left to the kernel, which has no route for the
    gateway. -/
def bridgeReverse (m : Maps) (f : Flows) (skb : Skb) (p : Pkt) (net : U32) : Out :=
  if ihlNot5 skb.frame then okOut f skb
  else bridgeReverseOf family4 false m f skb p net

/-- `bridge_reverse6`: no state drops for a VPC pod. -/
def bridgeReverse6 (m : Maps) (f : Flows) (skb : Skb) (p : Pkt) (net : U32) : Out :=
  bridgeReverseOf family6 (net != 0#32) m f skb p net

/-- The body `floating_forward` and `floating_forward6` share: a stateless DNAT
    public → VPC behind the north-south group gate. -/
def floatingForwardOf (k : Family) (m : Maps) (f : Flows) (skb : Skb) (p : Pkt) (net : U32)
    (vpcIp : Addr) : Out :=
  let dnat := { skb with frame := skb.frame.setDst vpcIp }
  if p.proto = k.icmp then
    match icmpEcho skb.frame with
    | none => shotOut f skb
    | some (type, _) =>
      if k.isErr type then
        match embLoad k skb.frame with
        | none => shotOut f skb
        | some e =>
          if e.saddr != p.dst then shotOut f skb
          else okOut f { skb with
            frame := embRewrite k (skb.frame.setDst vpcIp) vpcIp e.daddr .sport 0#16 }
      else if type ≠ k.echoReq ∧ type ≠ k.echoReply then shotOut f skb
      else okOut f dnat
  else if !isTcpUdp p.proto then shotOut f skb
  else
    match sgL4 skb.frame p.proto, l4Ports skb.frame with
    | some _, some (_, dp) =>
      if nsSgAdmit m net vpcIp p.src (cidrProto p.proto k.isV6) dp then okOut f dnat
      else shotOut f skb
    | _, _ => okOut f dnat

def floatingForward (m : Maps) (f : Flows) (skb : Skb) (p : Pkt) (net : U32) (vpcIp : Addr) :
    Out :=
  if ihlNot5 skb.frame then shotOut f skb
  else floatingForwardOf family4 m f skb p net vpcIp

def floatingForward6 (m : Maps) (f : Flows) (skb : Skb) (p : Pkt) (net : U32) (vpcIp : Addr) :
    Out :=
  floatingForwardOf family6 m f skb p net vpcIp

/-- The quoted destination of a pod-emitted ICMP error is turned back into the public
    address before a floating SNAT. -/
def floatingErrFix (k : Family) (fr : Frame) (p : Pkt) (pub : Addr) : Frame :=
  if p.proto = k.icmp then
    match icmpEcho fr with
    | some (type, _) =>
      if k.isErr type then
        match embLoad k fr with
        | some e => if e.daddr = p.src then embRewrite k fr e.saddr pub .sport 0#16 else fr
        | none => fr
      else fr
    | none => fr
  else fr

/-- `floating_egress_snat`; `none` is `FLOAT_MISS`. A peer's floating address is reached
    directly, past the physical link. -/
def floatingEgressSnat (m : Maps) (f : Flows) (skb : Skb) (p : Pkt) (net : U32) : Option Out :=
  if ihlNot5 skb.frame then none
  else if !(isTcpUdp p.proto || p.proto == ipprotoIcmp) then none
  else
    match floatingEgressOf m net p.src with
    | none => none
    | some pub =>
      if isInternal m p.dst && (floatOf m p.dst).isNone then none
      else if !nsEgressOk m skb.frame net false p.proto p.src p.dst then some (shotOut f skb)
      else
        let xl := extLinkOf m pub
        let uplink := match xl with
          | some x => x.ifindex
          | none => cfg m cfgUplinkIfindex
        if uplink = 0#32 then none
        else
          let skb' := { skb with frame := (floatingErrFix family4 skb.frame p pub).setSrc pub }
          match floatOf m p.dst with
          | some peer =>
            match localOf m peer.net peer.vpcIp with
            | some l => some (deliverLocal f skb' peer.net peer.vpcIp l)
            | none =>
              match remoteOf m peer.net peer.vpcIp with
              | some node => some (encap m f skb' peer.net node 0#32)
              | none => some (shotOut f skb')
          | none =>
            match xl with
            | some x => some (extRedirect f skb' uplink x.nh x.base x.mask)
            | none => some (extRedirect f skb' uplink 0#32 0#32 0#32)

/-- The uplink of a v6 egress identity: its own link, else the floating uplink, else the
    default one. -/
def uplink6 (m : Maps) (ip : Addr) : U32 :=
  let first := match extLinkOf m ip with
    | some x => x.ifindex
    | none => cfg m cfgFloatIfindex
  if first = 0#32 then cfg m cfgUplinkIfindex else first

def floatingEgressSnat6 (m : Maps) (f : Flows) (skb : Skb) (p : Pkt) (net : U32) : Option Out :=
  if !(isTcpUdp p.proto || p.proto == ipprotoIcmpv6) then none
  else
    match floatingEgressOf m net p.src with
    | none => none
    | some pub =>
      if isInternal m p.dst then none
      else if !nsEgressOk m skb.frame net true p.proto p.src p.dst then some (shotOut f skb)
      else if uplink6 m pub = 0#32 then none
      else
        some ⟨f, { skb with frame := (floatingErrFix family6 skb.frame p pub).setSrc pub },
          .neigh (uplink6 m pub) none⟩

-- ── masquerade and VPC NAT

/-- The source translation masquerade and VPC NAT share. `needSyn` is the masquerade's rule that a
    TCP segment without state must open the connection. -/
def snatFlow (k : Family) (needSyn : Bool) (f : Flows) (env : Env) (fr : Frame) (p : Pkt)
    (net : U32) (natIp : Addr) (base span : U32) : Flows × Option Frame :=
  if p.proto = k.icmp then
    match icmpEcho fr with
    | none => (f, none)
    | some (type, id) =>
      if type ≠ k.echoReq then (f, none)
      else
        match ctPort f env ⟨p.proto, net, p.src, p.dst, id, 0#16⟩ p.dst ⟨p.src, p.src, id⟩
            base span true with
        | (f', none) => (f', none)
        | (f', some g) => (f', some ((fr.setSrc natIp).setIcmpId g))
  else if !isTcpUdp p.proto then (f, none)
  else
    match l4Ports fr with
    | none => (f, none)
    | some (sport, dport) =>
      let opens := match tcpFlags fr with
        | some flags => isSyn flags
        | none => false
      match ctPort f env ⟨p.proto, net, p.src, p.dst, sport, dport⟩ p.dst
          ⟨p.src, p.src, sport⟩ base span (!(needSyn && p.proto == ipprotoTcp && !opens)) with
      | (f', none) => (f', none)
      | (f', some g) => (f', some ((fr.setSrc natIp).setSport g))

/-- `masq_snat`, at the uplink egress. -/
def masqSnat (m : Maps) (f : Flows) (env : Env) (skb : Skb) (p : Pkt) : Attempt :=
  if !isMasqSrc m p.src || isInternal m p.dst || cfg m cfgMasqIp == 0#32 ||
      ihlNot5 skb.frame then .miss f
  else
    match snatFlow family4 true f env skb.frame p 0#32 (v4To128 (cfg m cfgMasqIp))
        16384#32 13616#32 with
    | (f', none) => .miss f'
    | (f', some fr) => .done (okOut f' { skb with frame := fr })

/-- `masq_snat6`. A zero `node_ip6` disables it. -/
def masqSnat6 (m : Maps) (f : Flows) (env : Env) (skb : Skb) (p : Pkt) : Attempt :=
  if !isMasqSrc m p.src || isInternal m p.dst || v6LinkScoped p.dst || m.nodeIp6 == 0#128 then
    .miss f
  else
    match snatFlow family6 true f env skb.frame p 0#32 m.nodeIp6 16384#32 13616#32 with
    | (f', none) => .miss f'
    | (f', some fr) => .done (okOut f' { skb with frame := fr })

def inMasqRange (h : U16) : Bool := decide (16384#16 ≤ h) && decide (h < 30000#16)

/-- The body `masq_reverse` and `masq_reverse6` share, for a packet addressed to the
    masquerade address. -/
def masqReverseOf (k : Family) (f : Flows) (skb : Skb) (p : Pkt) : Option Out :=
  if isTcpUdp p.proto then
    match l4Ports skb.frame with
    | none => none
    | some (sport, dport) =>
      if !inMasqRange dport then none
      else
        match f.ctRev ⟨p.proto, dport, 0#32, p.src, sport⟩ with
        | none => none
        | some rv =>
          some (okOut f { skb with frame := (skb.frame.setDst rv.fabricIp).setDport rv.clientPort })
  else if p.proto ≠ k.icmp then none
  else
    match icmpEcho skb.frame with
    | none => none
    | some (type, id) =>
      if type = k.echoReply then
        if !inMasqRange id then none
        else
          match f.ctRev ⟨p.proto, id, 0#32, p.src, 0#16⟩ with
          | none => none
          | some rv =>
            some (okOut f { skb with
              frame := (skb.frame.setDst rv.fabricIp).setIcmpId rv.clientPort })
      else if !k.isErr type then none
      else
        match embLoad k skb.frame with
        | none => none
        | some e =>
          if !isTcpUdp e.proto || e.saddr != p.dst || !inMasqRange e.sport then none
          else
            match f.ctRev ⟨e.proto, e.sport, 0#32, e.daddr, e.dport⟩ with
            | none => none
            | some rv =>
              some (okOut f { skb with
                frame := embRewrite k (skb.frame.setDst rv.fabricIp) rv.fabricIp e.daddr
                  .sport rv.clientPort })

def masqReverse (m : Maps) (f : Flows) (skb : Skb) (p : Pkt) : Option Out :=
  if cfg m cfgMasqIp == 0#32 || v4Of128 p.dst != cfg m cfgMasqIp || ihlNot5 skb.frame then none
  else masqReverseOf family4 f skb p

def masqReverse6 (m : Maps) (f : Flows) (skb : Skb) (p : Pkt) : Option Out :=
  if m.nodeIp6 == 0#128 || p.dst != m.nodeIp6 then none
  else masqReverseOf family6 f skb p

def vpcNatSnat (m : Maps) (f : Flows) (env : Env) (skb : Skb) (p : Pkt) (net : U32) : Attempt :=
  match m.vpcNat net with
  | none => .miss f
  | some nat =>
    if isInternal m p.dst || p.isV6 || !(isTcpUdp p.proto || p.proto == ipprotoIcmp) then .miss f
    else if !nsEgressOk m skb.frame net false p.proto p.src p.dst then .done (shotOut f skb)
    else if ihlNot5 skb.frame then .miss f
    else
      let xl := extLinkOf m nat.ip
      let uplink := match xl with
        | some x => x.ifindex
        | none => cfg m cfgUplinkIfindex
      if uplink = 0#32 then .miss f
      else
        match snatFlow family4 false f env skb.frame p net nat.ip nat.portBase nat.portSpan with
        | (f', none) => .miss f'
        | (f', some fr) =>
          match xl with
          | some x => .done (extRedirect f' { skb with frame := fr } uplink x.nh x.base x.mask)
          | none => .done (extRedirect f' { skb with frame := fr } uplink 0#32 0#32 0#32)

def vpcNatSnat6 (m : Maps) (f : Flows) (env : Env) (skb : Skb) (p : Pkt) (net : U32) : Attempt :=
  match m.vpcNat net with
  | none => .miss f
  | some nat =>
    if nat.ip6 == 0#128 || isInternal m p.dst || v6LinkScoped p.dst ||
        !(isTcpUdp p.proto || p.proto == ipprotoIcmpv6) then .miss f
    else if !nsEgressOk m skb.frame net true p.proto p.src p.dst then .done (shotOut f skb)
    else if uplink6 m nat.ip6 = 0#32 then .miss f
    else
      match snatFlow family6 false f env skb.frame p net nat.ip6 nat.portBase nat.portSpan with
      | (f', none) => .miss f'
      | (f', some fr) =>
        .done ⟨f', { skb with frame := fr }, .neigh (uplink6 m nat.ip6) none⟩

/-- The port (or echo id) a reply names its flow by, and the peer's port. -/
def replyPorts (k : Family) (fr : Frame) (proto : U8) : Option (U16 × U16) :=
  if isTcpUdp proto then
    match l4Ports fr with
    | none => none
    | some (sport, dport) => some (dport, sport)
  else if proto = k.icmp then
    match icmpEcho fr with
    | some (type, id) => if type = k.echoReply then some (id, 0#16) else none
    | none => none
  else none

/-- The body `vpc_nat_reverse` and `vpc_nat_reverse6` share; a port owned by another node is
    encapsulated there under the network `nat_of` names. -/
def vpcNatReverseOf (k : Family) (m : Maps) (f : Flows) (skb : Skb) (p : Pkt) : Option Out :=
  match m.natOf p.dst with
  | none => none
  | some net =>
    match replyPorts k skb.frame p.proto with
    | none => none
    | some (gwPort, sport) =>
      if gwPort < 1024#16 then none
      else
        match m.natOwner ⟨p.dst, (gwPort - 1024#16) / 4032#16⟩ with
        | none => none
        | some owner =>
          if owner ≠ cfg m cfgNodeIp then some (encap m f skb net owner 0#32)
          else
            match f.ctRev ⟨p.proto, gwPort, net, p.src, sport⟩ with
            | none => none
            | some rv =>
              match localOf m net rv.fabricIp with
              | none => none
              | some l =>
                let fr := skb.frame.setDst rv.fabricIp
                let fr' := if p.proto = k.icmp then fr.setIcmpId rv.clientPort
                  else fr.setDport rv.clientPort
                some (deliverLocal f { skb with frame := fr', mark := gwMark } net rv.fabricIp l)

def vpcNatReverse (m : Maps) (f : Flows) (skb : Skb) (p : Pkt) : Option Out :=
  if ihlNot5 skb.frame then none else vpcNatReverseOf family4 m f skb p

def vpcNatReverse6 (m : Maps) (f : Flows) (skb : Skb) (p : Pkt) : Option Out :=
  vpcNatReverseOf family6 m f skb p

theorem vpcNatReverseOf_some {k : Family} {m : Maps} {f : Flows} {skb : Skb} {p : Pkt} {out : Out}
    (h : vpcNatReverseOf k m f skb p = some out) :
    ∃ net g peer owner, m.natOf p.dst = some net ∧ replyPorts k skb.frame p.proto = some (g, peer) ∧
      ¬ g < 1024#16 ∧ m.natOwner ⟨p.dst, (g - 1024#16) / 4032#16⟩ = some owner ∧
      ((owner ≠ cfg m cfgNodeIp ∧ out = encap m f skb net owner 0#32) ∨
        (owner = cfg m cfgNodeIp ∧ ∃ (rv : CtRevVal) (l : Endpoint), localOf m net rv.fabricIp = some l ∧
          out = deliverLocal f { skb with
            frame := if p.proto = k.icmp then (skb.frame.setDst rv.fabricIp).setIcmpId rv.clientPort
              else (skb.frame.setDst rv.fabricIp).setDport rv.clientPort
            mark := gwMark } net rv.fabricIp l)) := by
  unfold vpcNatReverseOf at h
  split at h
  · nomatch h
  next net hnat =>
  split at h
  · nomatch h
  next g peer hports =>
  split at h
  · nomatch h
  next hlow =>
  split at h
  · nomatch h
  next owner howner =>
  refine ⟨net, g, peer, owner, hnat, hports, hlow, howner, ?_⟩
  split at h
  · next haway => exact .inl ⟨haway, (Option.some.inj h).symm⟩
  next hhere =>
  split at h
  · nomatch h
  next rv hrev =>
  split at h
  · nomatch h
  next l hl => exact .inr ⟨not_not.mp hhere, rv, l, hl, (Option.some.inj h).symm⟩

end CozyNat
