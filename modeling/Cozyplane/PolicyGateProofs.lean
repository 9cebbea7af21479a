import Cozyplane.DatapathProofs

/-!
# Policy gates — SecurityGroups, NetworkPolicy, HostFirewall

The three policy engines a delivery can meet, as the programs evaluate them:

* **SecurityGroups** (`sg_membership`, `sg_admit`, `sg_egress_admit`, `ns_sg_admit`,
  `ns_egress_ok`) — group bitmaps and rule bitmaps, default-deny for grouped endpoints;
* **NetworkPolicy** on the default network (`np_ingress`, `np_egress`) — identity rows in one LPM
  over the port, ipBlock rows in another over the address;
* **HostFirewall** (`hf_gate`) — exact port first, then the any-port row.

While a whole-snapshot update is in progress the gates refuse.
-/

namespace CozyPolicy

open PrefixTable CozyPacket CozyMaps CozyDatapath

/-- `sg_membership`: the group bitmap of an endpoint. A registered local VPC endpoint without a
    member row, or with another Port's, reads as bit 0, which no rule grants. -/
def sgMembership (m : Maps) (key : LocalKey) : U64 :=
  let groups := ((m.sgMembers key).map SgMember.groups).getD 0#64
  if key.net = 0#32 then groups
  else
    match m.locals key with
    | none => groups
    | some ep =>
      match m.sgMembers key with
      | none => 1#64
      | some member =>
        if ep.sgOwner = 0#256 ∨ ep.sgOwner ≠ member.owner then 1#64 else member.groups

/-- The union of the rule bitmaps of every group `1 .. 62` in `groups`, exact port and
    any port. -/
def sgAllowed (rules : SgRuleKey → Option U64) (subject other : U32) (groups : U64)
    (proto : U8) (port : U16) : U64 :=
  (List.range' 1 62).foldl (fun acc g =>
    if groups.getLsbD g then
      acc ||| (rules ⟨subject, other, g, port, proto⟩).getD 0#64
          ||| (rules ⟨subject, other, g, 0#16, proto⟩).getD 0#64
    else acc) 0#64

/-- `sg_admit`: an ungrouped destination admits; otherwise a rule of one of its groups
    must name a group of the source. -/
def sgAdmit (m : Maps) (dst : LocalKey) (srcNet : U32) (srcmap : U64) (dport : U16)
    (proto : U8) : Bool :=
  if m.params cfgSgUpdating != 0#32 then false
  else
    let dstmap := sgMembership m dst
    if dstmap = 0#64 then true
    else sgAllowed m.sgRules dst.net srcNet dstmap proto dport &&& srcmap != 0#64

/-- `sg_egress_admit`: the mirror, over the source's groups. -/
def sgEgressAdmit (m : Maps) (srcNet dstNet : U32) (srcmap dstmap : U64) (dport : U16)
    (proto : U8) : Bool :=
  if m.params cfgSgUpdating != 0#32 then false
  else if srcmap = 0#64 then true
  else sgAllowed m.sgEgress srcNet dstNet srcmap proto dport &&& dstmap != 0#64

/-- `sg_l4`: the destination port of a packet that is to be gated: a TCP SYN, any UDP or SCTP. -/
def sgL4 (fr : Frame) (proto : U8) : Option U16 :=
  if proto = ipprotoTcp then
    match load16 fr.l4 2, tcpFlags fr with
    | some dport, some flags => if isSyn flags then some dport else none
    | _, _ => none
  else if proto = ipprotoUdp ∨ proto = ipprotoSctp then load16 fr.l4 2
  else none

/-- `cidr_proto`: family in the high byte. -/
def cidrProto (proto : U8) (isV6 : Bool) : U16 := (if isV6 then 6#8 else 4#8) ++ proto

/-- The bit of the reserved pseudo-group `SG_WORLD` (63). -/
def sgWorld : U64 := 1#64 <<< 63

/-- A row of a CIDR rule table for exactly this port, then for any port, whose groups meet
    `groups`. -/
def cidrRuleHit (t : Table (32 + 16 + 16 + 128) U64) (net : U32) (port proto : U16)
    (addr : Addr) (groups : U64) : Bool :=
  let hit (p : U16) : Bool :=
    match find t (net ++ p ++ proto ++ addr) with
    | some b => b &&& groups != 0#64
    | none => false
  hit port || hit 0#16

/-- `ns_sg_admit` with `ns_sg_check`: north-south ingress to a VPC pod. `proto` carries
    the family in its high byte. -/
def nsSgAdmit (m : Maps) (net : U32) (vpcIp client : Addr) (proto dport : U16) : Bool :=
  if m.params cfgSgUpdating != 0#32 then false
  else
    sgAdmit m ⟨net, vpcIp⟩ net sgWorld dport (proto.setWidth 8) ||
      cidrRuleHit m.sgCidr net dport proto client (sgMembership m ⟨net, vpcIp⟩)

/-- `ns_egress_ok`: off-VPC egress of a VPC pod. -/
def nsEgressOk (m : Maps) (fr : Frame) (srcnet : U32) (isV6 : Bool) (proto : U8)
    (src dst : Addr) : Bool :=
  if m.params cfgSgUpdating != 0#32 then (sgL4 fr proto).isNone
  else
    let srcmap := sgMembership m ⟨srcnet, src⟩
    if srcmap = 0#64 then true
    else
      match sgL4 fr proto with
      | none => true
      | some dport => cidrRuleHit m.sgEgressCidr srcnet dport (cidrProto proto isV6) dst srcmap

/-- `struct np_query`: the packet as the policy sees it; `isV4` is the actual family. -/
structure NpQuery where
  src : Addr
  dst : Addr
  dport : U16
  sport : U16
  proto : U8
  isV4 : Bool
  deriving DecidableEq

def npIngIsolated : U32 := 1#32
def npEgIsolated : U32 := 2#32
def npDirIn : U8 := 0#8
def npDirEg : U8 := 1#8
def npSrcAny : U64 := 0#64
def npSrcAnyPod : U64 := 1#64
def npSrcNodes : U64 := 2#64
def npSrcLocalPods : U64 := 3#64
def npSrcLocalNode : U64 := 4#64

/-- `NP_NODE_LOCAL` is set in the node's row. -/
def npNodeLocal (m : Maps) (a : Addr) : Bool :=
  match m.npNodes a with
  | some v => v &&& 1#8 != 0#8
  | none => false

/-- One probe of `np_allow`. -/
def npAllowHit (m : Maps) (dir proto : U8) (dstId srcId : U64) (port : U16) : Bool :=
  (find m.npAllow (dir ++ proto ++ dstId ++ srcId ++ port)).isSome

/-- The direction byte of `np_cidr` with its family tag. -/
def npCidrDir (dir : U8) (isV4 : Bool) : U8 := dir ||| (if isV4 then 0x40#8 else 0x80#8)

/-- `np_cidr_check`: the exact-port rows decide if one covers the address, else the any-port rows.
    -/
def npCidrCheck (m : Maps) (q : NpQuery) (dir : U8) (self : U64) (addr : Addr) : Bool :=
  match find m.npCidr (npCidrDir dir q.isV4 ++ q.proto ++ q.dport ++ self ++ addr) with
  | some v => v
  | none =>
    (find m.npCidr (npCidrDir dir q.isV4 ++ q.proto ++ 0#16 ++ self ++ addr)).getD false

/-- `np_pin_check`: the destination asked first (UDP only). -/
def npPinCheck (f : Flows) (q : NpQuery) : Bool :=
  q.proto == ipprotoUdp && f.npCt ⟨q.dst, q.src, q.dport, q.sport, ipprotoUdp⟩

/-- The identity probes of `np_ingress`: the source pod, any pod, a pod of this node, a
    cluster node, anything. -/
def npIngressIds (m : Maps) (q : NpQuery) (dstId : U64) : Bool :=
  let hit (srcId : U64) := npAllowHit m npDirIn q.proto dstId srcId q.dport
  (match m.npIdent q.src with
    | some si => hit si.id || hit npSrcAnyPod ||
        ((m.locals ⟨0#32, q.src⟩).isSome && hit npSrcLocalPods)
    | none => false) ||
  ((m.npNodes q.src).isSome && hit npSrcNodes) || hit npSrcAny

def npIngress (m : Maps) (f : Flows) (q : NpQuery) : Bool :=
  if m.params cfgNpUpdating != 0#32 then npNodeLocal m q.src || npPinCheck f q
  else
    match m.npIdent q.dst with
    | none => true
    | some di =>
      if !hasBit di.flags npIngIsolated then true
      else if npNodeLocal m q.src then true
      else if npIngressIds m q di.id then true
      else if npCidrCheck m q npDirIn di.id q.src then true
      else npPinCheck f q

/-- The identity probes of `np_egress`. -/
def npEgressIds (m : Maps) (q : NpQuery) (srcId : U64) : Bool :=
  let hit (dstId : U64) := npAllowHit m npDirEg q.proto dstId srcId q.dport
  (match m.npIdent q.dst with
    | some di => hit di.id || hit npSrcAnyPod ||
        ((m.locals ⟨0#32, q.dst⟩).isSome && hit npSrcLocalPods)
    | none => false) || hit npSrcAny

/-- `np_egress_impl`. -/
def npEgress (m : Maps) (f : Flows) (q : NpQuery) : Bool :=
  if m.params cfgNpUpdating != 0#32 then npNodeLocal m q.src || npPinCheck f q
  else
    match m.npIdent q.src with
    | none => true
    | some si =>
      if !hasBit si.flags npEgIsolated then true
      else if npEgressIds m q si.id then true
      else if npCidrCheck m q npDirEg si.id q.dst then true
      else npPinCheck f q

/-- `hf_gate`: a row for the exact port decides, allow or deny; only without one does the
    any-port row. -/
def hfGate (rules : Table (8 + 8 + 16 + 128) Bool) (proto : U8) (port : U16) (addr : Addr)
    (isV6 : Bool) : Bool :=
  let family : U8 := if isV6 then 6#8 else 4#8
  match find rules (proto ++ family ++ port ++ addr) with
  | some v => v
  | none => (find rules (proto ++ family ++ 0#16 ++ addr)).getD false

/-- `hf_pin_local`: the reply pin of node-originated UDP to a local pod. -/
def hfPinLocal (m : Maps) (f : Flows) (q : NpQuery) : Flows :=
  if m.hfSelf q.src then
    { f with hfCt := Function.update f.hfCt ⟨q.src, q.dst, q.sport, q.dport, ipprotoUdp⟩ true }
  else f

end CozyPolicy
