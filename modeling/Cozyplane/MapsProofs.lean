import Cozyplane.PrefixTableProofs
import Cozyplane.PacketProofs

/-!
# The BPF maps of one node, and the lookups every hook shares

Two records hold the maps of `bpf/overlay.c`: **`Maps`**, what the agent, the CNI and kpr write and
a program only reads, and **`Flows`**, the LRU tables the programs write themselves.

Hash maps are partial functions, LPM tries are `PrefixTable`s. A trie whose key starts with
a scope (network id, interface, protocol …) always spells that scope out in full, so the
key is `scope ++ addr`. Arrays are total functions: every index the programs use exists.
Counters, flow events and per-CPU scratch cells are left out — no verdict depends on them.
-/

namespace CozyMaps

open PrefixTable CozyPacket

/-- `struct local_key`. -/
structure LocalKey where
  net : U32
  ip : Addr
  deriving DecidableEq

/-- `struct endpoint`: the host-side veth and the owner digest of the Port. -/
structure Endpoint where
  ifindex : U32
  sgOwner : BitVec 256
  deriving DecidableEq

/-- `struct peer_key`. -/
structure PeerKey where
  srcNet : U32
  dstNet : U32
  deriving DecidableEq

/-- `struct gw_entry`; `nodeIp = 0` means the gateway is on this node. -/
structure GwEntry where
  gwIp : Addr
  nodeIp : U32
  deriving DecidableEq

/-- `struct route_entry`: up to two next hops, `flags` bit 0 is `ROUTE_F_VPN`. -/
structure RouteEntry where
  hop0 : GwEntry
  hop1 : GwEntry
  count : U8
  flags : U8
  deriving DecidableEq

/-- `struct bridge_ep`. -/
structure BridgeEp where
  net : U32
  vpcIp : Addr
  deriving DecidableEq

/-- `struct vpc_nat`: the VPC's egress identities and this node's port shard. -/
structure VpcNat where
  ip : Addr
  ip6 : Addr
  portBase : U32
  portSpan : U32
  deriving DecidableEq

/-- `struct nat_shard_key`. -/
structure NatShardKey where
  ip : Addr
  shard : U16
  deriving DecidableEq

/-- `struct ext_egress`. -/
structure ExtEgress where
  ifindex : U32
  nh : U32
  base : U32
  mask : U32
  deriving DecidableEq

/-- `struct sg_member`. -/
structure SgMember where
  groups : U64
  owner : BitVec 256
  deriving DecidableEq

/-- `struct sg_rule_key` and `struct sg_egress_key`: `subject` is the ruled net, `other` the
    opposite one. -/
structure SgRuleKey where
  subject : U32
  other : U32
  group : Nat
  port : U16
  proto : U8
  deriving DecidableEq

/-- `struct np_ident_val`. -/
structure NpIdentVal where
  id : U64
  flags : U32
  deriving DecidableEq

/-- `struct np_ct_key`. -/
structure NpCtKey where
  pod : Addr
  peer : Addr
  pport : U16
  rport : U16
  proto : U8
  deriving DecidableEq

/-- `struct ct_fwd_key`, `ct_rev_key` and `ct_rev_val`. -/
structure CtFwdKey where
  proto : U8
  net : U32
  clientIp : Addr
  fabricIp : Addr
  clientPort : U16
  podPort : U16
  deriving DecidableEq

/-- `struct ct_rev_key`. -/
structure CtRevKey where
  proto : U8
  gwPort : U16
  net : U32
  vpcIp : Addr
  podPort : U16
  deriving DecidableEq

/-- `struct ct_rev_val`. -/
structure CtRevVal where
  fabricIp : Addr
  clientIp : Addr
  clientPort : U16
  deriving DecidableEq

/-- `struct dns_ct_key`. -/
structure DnsCtKey where
  proto : U8
  sport : U16
  fabric : Addr
  deriving DecidableEq

/-- `struct org_gw_ct_key` and `struct org_gw_addr`. -/
structure OrgGwCtKey where
  fabric : Addr
  gw : Addr
  sport : U16
  dport : U16
  deriving DecidableEq

/-- `struct org_gw_addr`. -/
structure OrgGwAddr where
  addr : Addr
  port : U16
  deriving DecidableEq

/-- `struct svc_key`, `svc_backend`, `svc_val`. -/
structure SvcKey where
  net : U32
  vip : Addr
  proto : U8
  port : U16
  deriving DecidableEq

/-- `struct svc_backend`. -/
structure SvcBackend where
  ip : Addr
  port : U16
  deriving DecidableEq

/-- `be` is the fixed array of `SVC_MAX_BACKENDS` rows, `n` of them in use. -/
structure SvcVal where
  n : U32
  flags : U32
  be : Fin 16 → SvcBackend

/-- `struct svc_fwd_key`, `svc_fwd_val`, `svc_rev_key`, `svc_rev_val`. -/
structure SvcFwdKey where
  net : U32
  proto : U8
  cport : U16
  client : Addr
  vip : Addr
  vport : U16
  deriving DecidableEq

/-- `struct svc_fwd_val`. -/
structure SvcFwdVal where
  backend : Addr
  tport : U16
  hairpin : Bool
  deriving DecidableEq

/-- `struct svc_rev_key`. -/
structure SvcRevKey where
  net : U32
  proto : U8
  cport : U16
  backend : Addr
  client : Addr
  tport : U16
  deriving DecidableEq

/-- `struct svc_rev_val`. -/
structure SvcRevVal where
  vip : Addr
  vport : U16
  lb : Bool
  ifindex : U32
  deriving DecidableEq

/-- `struct boundary_policy`, `boundary_rule`, `boundary_flow`, `boundary_flow_value`. -/
structure BoundaryPolicy where
  revision : U64
  identity : U64
  internet : Bool
  deriving DecidableEq

/-- `struct boundary_rule`. -/
structure BoundaryRule where
  revision : U64
  net : U32
  peer : U32
  port : U16
  proto : U8
  direction : Bool
  deriving DecidableEq

/-- `hook` is false at `from_pod`, true at `to_pod`. -/
structure BoundaryFlow where
  src : Addr
  dst : Addr
  loc : U32
  peer : U32
  sport : U16
  dport : U16
  proto : U8
  hook : Bool
  deriving DecidableEq

/-- `struct boundary_flow_value`. -/
structure BoundaryFlowValue where
  localRev : U64
  peerRev : U64
  localId : U64
  peerId : U64
  expires : U64
  deriving DecidableEq

/-- The maps programs only read. -/
structure Maps where
  params : Nat → U32
  hfModes : Nat → U32
  ports : U32 → Option U32
  locals : LocalKey → Option Endpoint
  remotes : Table (32 + 128) U32
  nodeRemotes : Addr → Option U32
  overlayNodes : U32 → Bool
  networks : Table (32 + 128) U32
  peers : PeerKey → Bool
  gateways : U32 → Option GwEntry
  vpcRoutes : Table (32 + 128) RouteEntry
  routeGuard : U32
  routeScopes : Nat → Bool
  fwdCidrs : Table (32 + 32 + 128) Unit
  bridges : Addr → Option BridgeEp
  floating : Addr → Option BridgeEp
  floatingEgress : LocalKey → Option Addr
  vpcNat : U32 → Option VpcNat
  natOf : Addr → Option U32
  natOwner : NatShardKey → Option U32
  vpcIngress : U32 → Bool
  internal : Table (32 + 128) Unit
  masqSrcs : Table (32 + 128) Unit
  extLinks : Table (32 + 128) ExtEgress
  nodeIp6 : Addr
  migrateFwd : LocalKey → Option U32
  sgMembers : LocalKey → Option SgMember
  sgRules : SgRuleKey → Option U64
  sgEgress : SgRuleKey → Option U64
  sgCidr : Table (32 + 16 + 16 + 128) U64
  sgEgressCidr : Table (32 + 16 + 16 + 128) U64
  npIdent : Addr → Option NpIdentVal
  npAllow : Table (8 + 8 + 64 + 64 + 16) Unit
  npCidr : Table (8 + 8 + 16 + 64 + 128) Bool
  npNodes : Addr → Option U8
  hfSelf : Addr → Bool
  hfAllow : Table (8 + 8 + 16 + 128) Bool
  hfEallow : Table (8 + 8 + 16 + 128) Bool
  dnsIps : Bool → Addr
  fabricOf : LocalKey → Option Addr
  orgGw : LocalKey → Bool
  orgGwBe : OrgGwAddr → Option OrgGwAddr
  svcVips : SvcKey → Option SvcVal
  lbSrc : Table (128 + 128) Unit
  boundaryPolicy : U32 → Option BoundaryPolicy
  boundaryRules : BoundaryRule → Bool
  boundaryPrimary : LocalKey → Bool
  boundaryCidrs : Table 128 Unit
  lbProg : Nat → Bool

/-- The LRU tables programs write. -/
structure Flows where
  ctFwd : CtFwdKey → Option U16
  ctRev : CtRevKey → Option CtRevVal
  npCt : NpCtKey → Bool
  hfCt : NpCtKey → Bool
  dnsCt : DnsCtKey → Option Addr
  orgGwCt : OrgGwCtKey → Option U32
  svcFwd : SvcFwdKey → Option SvcFwdVal
  svcRev : SvcRevKey → Option SvcRevVal
  boundaryCt : BoundaryFlow → Option BoundaryFlowValue

/-- The maps of a node nobody has configured yet. -/
def Maps.empty : Maps where
  params _ := 0#32
  hfModes _ := 0#32
  ports _ := none
  locals _ := none
  remotes := []
  nodeRemotes _ := none
  overlayNodes _ := false
  networks := []
  peers _ := false
  gateways _ := none
  vpcRoutes := []
  routeGuard := 0#32
  routeScopes _ := false
  fwdCidrs := []
  bridges _ := none
  floating _ := none
  floatingEgress _ := none
  vpcNat _ := none
  natOf _ := none
  natOwner _ := none
  vpcIngress _ := false
  internal := []
  masqSrcs := []
  extLinks := []
  nodeIp6 := 0#128
  migrateFwd _ := none
  sgMembers _ := none
  sgRules _ := none
  sgEgress _ := none
  sgCidr := []
  sgEgressCidr := []
  npIdent _ := none
  npAllow := []
  npCidr := []
  npNodes _ := none
  hfSelf _ := false
  hfAllow := []
  hfEallow := []
  dnsIps _ := 0#128
  fabricOf _ := none
  orgGw _ := false
  orgGwBe _ := none
  svcVips _ := none
  lbSrc := []
  boundaryPolicy _ := none
  boundaryRules _ := false
  boundaryPrimary _ := false
  boundaryCidrs := []
  lbProg _ := false

/-- No flow is tracked. -/
def Flows.empty : Flows where
  ctFwd _ := none
  ctRev _ := none
  npCt _ := false
  hfCt _ := false
  dnsCt _ := none
  orgGwCt _ := none
  svcFwd _ := none
  svcRev _ := none
  boundaryCt _ := none

/-- What the kernel contributes to one run: `bpf_ktime_get_ns`, `bpf_get_prandom_u32`, and whether
    it accepts the two `boundary_ct` updates of a new flow. -/
structure Env where
  now : U64
  prandom : U32
  flowStored : Bool
  replyStored : Bool
  deriving DecidableEq

end CozyMaps
