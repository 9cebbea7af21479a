import Cozyplane.MapsProofs

/-!
# Shared datapath helpers — configuration, lookups, delivery

The helpers of `bpf/overlay.c` that every hook calls: the scoped lookups, the VPN-route
predicates, and the two ways a frame leaves a hook toward a pod: `deliver_local` (redirect into
a veth of this node) and `encap` (Geneve toward another node).

Helpers that write the frame are taken to succeed (`bpf_skb_store_bytes` on a header that
was just parsed); the one delivery failure the source can reach from configuration — no
Geneve device — is kept, and it drops.
-/

namespace CozyDatapath

open PrefixTable CozyPacket CozyMaps

/-- A Geneve option: the security-group identity TLV or the LoadBalancer DSR option. -/
inductive TunOpt where
  | sg (srcNet : U32) (srcmap : U64)
  | lb (vip : Addr) (vport : U16)
  deriving DecidableEq

/-- `struct __sk_buff`, with the tunnel key and option of the Geneve device (a reader of the other
    type sees none). -/
structure Skb where
  frame : Frame
  mark : U32
  ifindex : U32
  ingressIfindex : U32
  tunKey : Option (U32 × U32)
  tunOpt : Option TunOpt
  deriving DecidableEq

/-- A tc verdict: `deliver` redirects into the veth of the row `locals[net, ip]`, `tunnel` to the
    Geneve device under a tunnel key; `neigh` is `bpf_redirect_neigh`. -/
inductive Act where
  | shot
  | ok
  | next
  | deliver (net : U32) (ip : Addr) (ep : Endpoint)
  | tunnel (id : U32) (node : U32) (opt : Option TunOpt)
  | neigh (link : U32) (nh : Option U32)
  deriving DecidableEq

/-- What a program leaves: flow tables, frame and verdict. -/
structure Out where
  flows : Flows
  skb : Skb
  act : Act

def portFGateway : U32 := 0x80000000#32
def portFForward : U32 := 0x40000000#32
def portFFwdScoped : U32 := 0x20000000#32
def portQuarantine : U32 := 0xffffffff#32

def portNet (v : U32) : U32 := v &&& ~~~(portFGateway ||| portFForward ||| portFFwdScoped)

def gwMark : U32 := 0x100000#32
def sgOk : U32 := 0x200000#32
def vpcMark : U32 := 0x040000#32
def nsMark : U32 := 0x400000#32
def fwdMark : U32 := 0x080000#32

def tunFGateway : U32 := 0x800000#32
def tunFForward : U32 := 0x400000#32

/-- Some bit of `mask` is set in `v`. -/
def hasBit (v mask : U32) : Bool := v &&& mask != 0#32

theorem hasBit_or (a b g : U32) : hasBit (a ||| b) g = (hasBit a g || hasBit b g) := by
  have hdist : (a ||| b) &&& g = (a &&& g) ||| (b &&& g) := BitVec.and_or_distrib_right
  unfold hasBit
  rw [hdist]
  by_cases ha : a &&& g = 0#32
  · simp [ha]
  · have hor : (a &&& g) ||| (b &&& g) ≠ 0#32 := fun h => ha (BitVec.or_eq_zero_iff.mp h).1
    rw [bne_iff_ne.mpr hor, bne_iff_ne.mpr ha, Bool.true_or]

abbrev cfgGeneveIfindex : Nat := 0
abbrev cfgVni : Nat := 1
abbrev cfgUplinkIfindex : Nat := 2
abbrev cfgNodeIp : Nat := 3
abbrev cfgResolverPort : Nat := 4
abbrev cfgMasqIp : Nat := 5
abbrev cfgFloatIfindex : Nat := 6
abbrev cfgGenevePort : Nat := 8
abbrev cfgHfEnabled : Nat := 9
abbrev cfgHfEgEnabled : Nat := 10
abbrev cfgNpUpdating : Nat := 12
abbrev cfgSgUpdating : Nat := 13

/-- `cfg`: the two host-firewall modes live in their own map. -/
def cfg (m : Maps) (idx : Nat) : U32 :=
  if idx = cfgHfEnabled ∨ idx = cfgHfEgEnabled then m.hfModes (idx - cfgHfEnabled)
  else m.params idx

def hfArmed (m : Maps) : Bool := cfg m cfgHfEnabled != 0#32 || cfg m cfgHfEgEnabled != 0#32

/-- `nets_allowed`: same network, or two peered ones. -/
def netsAllowed (m : Maps) (src dst : U32) : Bool :=
  src == dst || m.peers ⟨src, dst⟩

/-- `net_of` on `networks`; absent is 0, the default network. -/
def netOf (m : Maps) (scope : U32) (addr : Addr) : U32 :=
  (find m.networks (scope ++ addr)).getD 0#32

def remoteOf (m : Maps) (scope : U32) (addr : Addr) : Option U32 :=
  find m.remotes (scope ++ addr)

def routeOf (m : Maps) (scope : U32) (addr : Addr) : Option RouteEntry :=
  find m.vpcRoutes (scope ++ addr)

def nodeRemoteOf (m : Maps) (addr : Addr) : Option U32 := m.nodeRemotes addr

def localOf (m : Maps) (net : U32) (ip : Addr) : Option Endpoint := m.locals ⟨net, ip⟩

def isInternal (m : Maps) (addr : Addr) : Bool := (find m.internal (0#32 ++ addr)).isSome

def isMasqSrc (m : Maps) (addr : Addr) : Bool := (find m.masqSrcs (0#32 ++ addr)).isSome

def bridgeOf (m : Maps) (fabric : Addr) : Option BridgeEp := m.bridges fabric

def floatOf (m : Maps) (pub : Addr) : Option BridgeEp := m.floating pub

def floatingEgressOf (m : Maps) (net : U32) (vpcIp : Addr) : Option Addr :=
  m.floatingEgress ⟨net, vpcIp⟩

def extLinkOf (m : Maps) (src : Addr) : Option ExtEgress := find m.extLinks (0#32 ++ src)

/-- `vpn_route`: a usable route a VPN gateway published. -/
def vpnRoute (m : Maps) (net : U32) (addr : Addr) : Option RouteEntry :=
  match routeOf m net addr with
  | none => none
  | some r =>
    if r.flags &&& 1#8 = 0#8 ∨ r.count = 0#8 ∨ 2#8 < r.count then none else some r

/-- `vpn_appliance_source`: `src` belongs to a VPN prefix routed to a leg whose veth is
    `ifindex`. -/
def vpnApplianceSource (m : Maps) (net : U32) (src : Addr) (ifindex : U32) : Bool :=
  match vpnRoute m net src with
  | none => false
  | some r =>
    let legIs (h : GwEntry) : Bool :=
      match localOf m net h.gwIp with
      | some leg => leg.ifindex == ifindex
      | none => false
    legIs r.hop0 || (1#8 < r.count && legIs r.hop1)

/-- A 32-bit word read from memory in network order by a little-endian CPU. -/
def swab32 (v : U32) : U32 :=
  v.extractLsb' 0 8 ++ v.extractLsb' 8 8 ++ v.extractLsb' 16 8 ++ v.extractLsb' 24 8

def swab16 (v : U16) : U16 := v.extractLsb' 0 8 ++ v.extractLsb' 8 8

/-- `route_next_hop`: one of at most two next hops, by a hash of the inner packet. -/
def routeNextHop (route : Option RouteEntry) (p : Pkt) : Option GwEntry :=
  match route with
  | none => none
  | some r =>
    if r.count = 0#8 ∨ 2#8 < r.count then none
    else
      let src := swab32 (v4Of128 p.src)
      let dst := swab32 (v4Of128 p.dst)
      let h0 := (src ^^^ (dst <<< 1) ^^^ p.proto.setWidth 32) * 2654435761#32
      let h := h0 ^^^ (h0 >>> 16)
      if r.count = 1#8 ∨ h &&& 1#32 = 0#32 then some r.hop0 else some r.hop1

/-- `routes_blocked`: the global guard, then the scope's bit; a scope outside the 22-bit bitmap is
    blocked. -/
def routesBlocked (m : Maps) (scope : U32) : Bool :=
  m.routeGuard != 0#32 || decide (1024 ≤ (scope >>> 12).toNat) || m.routeScopes scope.toNat

/-- `receiving_owner`: the veth is not known to belong to someone else. Without `VPC_MARK` a global
    alias of the destination is projected onto its owner first. -/
def receivingOwner (m : Maps) (skb : Skb) (net : U32) (dst : Addr) : Bool :=
  let check (ip : Addr) : Bool :=
    match m.locals ⟨net, ip⟩ with
    | none => true
    | some ep => ep.ifindex == skb.ifindex
  if hasBit skb.mark vpcMark then check dst
  else
    match (m.bridges dst).or (m.floating dst) with
    | none => check dst
    | some owner => if owner.net != net then false else check owner.vpcIp

-- ── delivery

def shotOut (f : Flows) (skb : Skb) : Out := ⟨f, skb, .shot⟩
def okOut (f : Flows) (skb : Skb) : Out := ⟨f, skb, .ok⟩

/-- `deliver_local` with the key its endpoint was found under. -/
def deliverLocal (f : Flows) (skb : Skb) (net : U32) (ip : Addr) (ep : Endpoint) : Out :=
  ⟨f, skb, .deliver net ip ep⟩

def Skb.clampMss (skb : Skb) : Skb := { skb with frame := tcpMssClampPacket skb.frame }

/-- The tunnel id of a destination network: the default network travels under its own
    VNI. -/
def tunnelId (m : Maps) (dstnet tunflags : U32) : U32 :=
  (if dstnet != 0#32 then dstnet else cfg m cfgVni) ||| tunflags

theorem tunnelId_vpc {m : Maps} {net : U32} (h : net ≠ 0#32) : tunnelId m net 0#32 = net := by
  unfold tunnelId
  rw [if_pos (bne_iff_ne.mpr h), BitVec.or_zero]

/-- `encap_sg`: the identity option only for a grouped source. -/
def encapSg (m : Maps) (f : Flows) (skb : Skb) (dstnet nodeIp tunflags srcnet : U32)
    (srcmap : U64) : Out :=
  if cfg m cfgGeneveIfindex = 0#32 then shotOut f skb.clampMss
  else
    ⟨f, skb.clampMss, .tunnel (tunnelId m dstnet tunflags) nodeIp
      (if srcmap != 0#64 then some (.sg srcnet srcmap) else none)⟩

/-- `encapSg` with no source groups. -/
def encap (m : Maps) (f : Flows) (skb : Skb) (dstnet nodeIp tunflags : U32) : Out :=
  encapSg m f skb dstnet nodeIp tunflags 0#32 0#64

/-- `deliver_net0`: a default-network packet to `dst`, on this node, on another, or by the
    kernel. -/
def deliverNet0 (m : Maps) (f : Flows) (skb : Skb) (dst : Addr) : Out :=
  match localOf m 0#32 dst with
  | some l => deliverLocal f skb 0#32 dst l
  | none =>
    match remoteOf m 0#32 dst with
    | some node => encap m f skb 0#32 node 0#32
    | none =>
      match nodeRemoteOf m dst with
      | some node => encap m f skb 0#32 node 0#32
      | none => okOut f skb

/-- `ext_redirect`: on the link's subnet, or with no router known, the FIB answers. -/
def extRedirect (f : Flows) (skb : Skb) (uplink nh base mask : U32) : Out :=
  let dip := match skb.frame with
    | .ip4 h _ => h.daddr
    | _ => 0#32
  if nh = 0#32 then ⟨f, skb, .neigh uplink none⟩
  else if mask ≠ 0#32 ∧ dip &&& mask = base then ⟨f, skb, .neigh uplink none⟩
  else ⟨f, skb, .neigh uplink (some nh)⟩

variable (m : Maps) (f : Flows) (skb : Skb)

theorem extRedirect_skb (uplink nh base mask : U32) :
    (extRedirect f skb uplink nh base mask).skb = skb ∧
      (extRedirect f skb uplink nh base mask).flows = f := by
  unfold extRedirect
  simp only []
  repeat' split
  all_goals exact ⟨rfl, rfl⟩

variable (dstnet nodeIp tunflags : U32)

/-- **ENCAP**: dropped for want of a Geneve device, or tunnelled under the network's id, whatever
    the flow tables. -/
theorem encapSg_act (srcnet : U32) (srcmap : U64) :
    (encapSg m f skb dstnet nodeIp tunflags srcnet srcmap).act =
      if cfg m cfgGeneveIfindex = 0#32 then .shot
      else .tunnel (tunnelId m dstnet tunflags) nodeIp
        (if srcmap != 0#64 then some (.sg srcnet srcmap) else none) := by
  unfold encapSg; split <;> rfl

theorem encap_act :
    (encap m f skb dstnet nodeIp tunflags).act =
      if cfg m cfgGeneveIfindex = 0#32 then .shot
      else .tunnel (tunnelId m dstnet tunflags) nodeIp none :=
  encapSg_act ..

@[simp] theorem encapSg_flows (srcnet : U32) (srcmap : U64) :
    (encapSg m f skb dstnet nodeIp tunflags srcnet srcmap).flows = f := by
  unfold encapSg; split <;> rfl

@[simp] theorem encap_flows :
    (encap m f skb dstnet nodeIp tunflags).flows = f :=
  encapSg_flows ..

end CozyDatapath
