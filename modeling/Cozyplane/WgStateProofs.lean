import Cozyplane.VniAllocProofs

/-!
# WireGuard client addresses — the allocation document

All client gateways of a namespace keep their reservations in one document. A gateway's record
holds the UIDs of the VPCs it may still reach, its address POOLS, and for each reserved client
the pools it selects with one address of each. A pool that was dropped from the gateway stays
recorded while a client uses it, and a VPC that was dropped stays until the new configuration is
confirmed.

This module is the code between the read and the write.
-/

namespace CozyWgState

open Accumulate KernelMap CozyCidr
open CozyVniAlloc (Err errorf)

/-- `wgClientReservation`. -/
structure ClientReservation where
  name : String
  pools : List String
  addresses : List String
  deriving DecidableEq

/-- `wgClientGatewayReservation`. -/
structure GatewayReservation where
  name : String
  vpcs : List String
  pools : KMap String String
  clients : KMap String ClientReservation
  podUIDs : List String
  portUIDs : KMap String String

/-- `wgClientState`: the records by gateway UID. -/
structure State where
  gateways : KMap String GatewayReservation

def State.empty : State := ⟨∅⟩

/-- A declared pool. -/
structure AddressPool where
  name : String
  cidr : String
  deriving DecidableEq

/-- The fields of a VPNGateway the allocator reads; `refs` are the names in `vpcRef` and
    `additionalVPCRefs`. -/
structure Gateway where
  uid : String
  name : String
  refs : List String
  pools : List AddressPool
  deriving DecidableEq

def Gateway.declares (gw : Gateway) (name : String) : Bool := gw.pools.any fun p => p.name == name

/-- A served VPC. -/
structure VPC where
  name : String
  uid : String
  mtu : Int
  deriving DecidableEq

/-- `vpnlimits.WireGuardPeer`. -/
structure Peer where
  publicKey : String
  publicKeys : List String
  endpoint : String
  endpoints : List String
  keepalive : Int
  deriving DecidableEq

/-- The client part of a connection. -/
structure ClientSpec where
  vpcRefs : List String
  addressPools : List String
  deriving DecidableEq

/-- The WireGuard part of a connection. -/
structure WireGuardSpec where
  peer : Peer
  client : Option ClientSpec
  deriving DecidableEq

/-- A VPNConnection; the last two fields are the ones an allocation fills in. -/
structure Conn where
  name : String
  uid : String
  wireGuard : Option WireGuardSpec
  ipsec : Bool
  remoteCIDRs : List String
  assignedAddresses : List String
  deriving DecidableEq

/-- `netip`, the name and peer checks of `vpnlimits`, and the length and equality of `encoding/json`
    texts. -/
structure Env where
  parsePrefix : String → Option NetPrefix
  prefixString : NetPrefix → String
  parseAddr : String → Option Ip
  addrString : Ip → String
  objectName : String → Bool
  clientProblem : Peer → List String → List String → List String → String
  size : State → Nat
  sameBytes : State → State → Bool
  parseAddr_addrString : ∀ ip, parseAddr (addrString ip) = some ip

def wgClientStateBytes : Nat := 512 * 2 ^ 10

def wgClientStateRecords : Nat := 4096

def wgClientRetainedPools : Nat := 2 * 128

def wgClientPortWitnesses : Nat := 640

def routePrefixBytes : Nat := 64

def failIf (c : Bool) (text : String) : Except Err Unit :=
  if c then .error (errorf text) else .ok ()

theorem failIf_ok {c : Bool} {text : String} (h : failIf c text = .ok ()) : c = false := by
  cases c with
  | true => nomatch h
  | false => rfl

section Load

variable (X : Env)

/-- An identity that is empty or too long. -/
def badUID (uid : String) : Bool := uid == "" || decide (253 < uid.utf8ByteSize)

def badPrefix (cidr : String) : Bool :=
  match X.parsePrefix cidr with
  | none => true
  | some p => (match p with | .v4 _ _ => false | .v6 a _ => is4In6 a) || p != p.masked

def badAddress (a : String) (used : List String) : Bool :=
  match X.parseAddr a with
  | none => true
  | some ip =>
    (match ip with | .v4 _ => false | .v6 v => is4In6 v) || a != X.addrString ip || used.contains a

/-- `ParsePrefix` of the text and then `Contains`. -/
def outside (cidr : Option String) (a : String) : Bool :=
  match cidr.bind X.parsePrefix, X.parseAddr a with
  | some p, some ip => !p.contains ip
  | _, _ => true

def checkAddress (pools : KMap String String) (pa : String × String) (used : List String) :
    Except Err (List String) := do
  failIf (decide (64 < pa.2.utf8ByteSize)) "invalid WireGuard client allocation address"
  failIf (badAddress X pa.2 used) "invalid or duplicate WireGuard client allocation address"
  failIf (outside X (pools.lookup pa.1) pa.2) "WireGuard allocation is outside its pool"
  pure (pa.2 :: used)

def checkClient (pools : KMap String String) (e : Sigma fun _ : String => ClientReservation)
    (used : List String) : Except Err (List String) := do
  failIf (badUID e.1 || !X.objectName e.2.name || decide (e.2.addresses.length < 1) ||
    decide (2 < e.2.addresses.length) || e.2.pools.length != e.2.addresses.length)
    "invalid WireGuard client allocation"
  forEach (e.2.pools.zip e.2.addresses) (checkAddress X pools) used

def checkGateway (e : Sigma fun _ : String => GatewayReservation) (count : Nat) :
    Except Err Nat := do
  failIf (badUID e.1 || !X.objectName e.2.name || decide (20 < e.2.vpcs.length) ||
    decide (64 < e.2.podUIDs.length) || decide (wgClientPortWitnesses < e.2.portUIDs.keys.length) ||
    decide (wgClientRetainedPools < e.2.pools.keys.length)) "invalid WireGuard allocation gateway"
  forEach e.2.vpcs (fun v _ => failIf (badUID v) "invalid WireGuard allocation VPC identity") ()
  forEach e.2.podUIDs (fun v _ => failIf (badUID v) "invalid WireGuard allocation pod identity") ()
  forEach e.2.portUIDs.entries (fun p _ => failIf (!X.objectName p.1 || badUID p.2)
    "invalid WireGuard allocation Port identity") ()
  forEach e.2.pools.entries (fun p _ => do
    failIf (!X.objectName p.1 || decide (routePrefixBytes < p.2.utf8ByteSize))
      "invalid WireGuard allocation pool"
    failIf (badPrefix X p.2) "invalid WireGuard allocation pool prefix") ()
  failIf (decide (wgClientStateRecords < count + e.2.clients.keys.length))
    "WireGuard allocation clients exceed budget"
  let _ ← forEach e.2.clients.entries (checkClient X e.2.pools) []
  pure (count + e.2.clients.keys.length)

/-- The checks of `loadWGClientState` on a state it has decoded. -/
def checkState (state : State) : Except Err Unit := do
  failIf (decide (wgClientStateRecords < state.gateways.keys.length))
    "invalid WireGuard allocation gateway count"
  let _ ← forEach state.gateways.entries (checkGateway X) 0
  pure ()

end Load

-- ── allocation

section Allocate

variable (X : Env)

/-- The loop of `nextWGClientAddress`. -/
def searchAddress (p : NetPrefix) (used : List String) : Nat → Option Ip → Except Err String
  | _, none => .error (errorf "WireGuard client address pool exhausted")
  | 0, some _ => .error (errorf "WireGuard client address pool exhausted")
  | n + 1, some addr =>
    if p.contains addr = false then .error (errorf "WireGuard client address pool exhausted")
    -- the last IPv4 address of a pool is its broadcast address
    else if addr.isV4 ∧ addr.next.any p.contains = false then
      .error (errorf "WireGuard client address pool exhausted")
    else if X.addrString addr ∉ used then .ok (X.addrString addr)
    else searchAddress p used n addr.next

/-- `nextWGClientAddress`; a prefix that did not parse has no addresses. -/
def nextWGClientAddress (pfx : Option NetPrefix) (used : List String) : Except Err String :=
  match pfx with
  | none => .error (errorf "WireGuard client address pool exhausted")
  | some p => searchAddress X p used (used.length + 2) p.masked.addr.next

/-- `tunnelMTU` for the WireGuard backend. -/
def tunnelMTU (vpcMTU : Int) : Int := if vpcMTU ≤ 80 then 0 else vpcMTU - 80

/-- `wgClientTunnelMTU`; there is always a served VPC when it is asked for. -/
def wgClientTunnelMTU : List VPC → Int
  | [] => 1280
  | first :: rest =>
    rest.foldl (fun mtu vpc => if 0 < vpc.mtu then min mtu vpc.mtu else mtu)
      (if first.mtu ≠ 0 then tunnelMTU first.mtu else 1280)

/-- Some client selects the pool. -/
def poolUsed (clients : KMap String ClientReservation) (name : String) : Bool :=
  clients.entries.any fun c => c.2.pools.contains name

def poolCIDR (pool : AddressPool) : String :=
  match X.parsePrefix pool.cidr with
  | some p => X.prefixString p.masked
  | none => "invalid Prefix"

/-- Record one declared pool. -/
def setPool (clients : KMap String ClientReservation) (pool : AddressPool)
    (pools : KMap String String) : Except Err (KMap String String) := do
  failIf ((pools.lookup pool.name).any (· != poolCIDR X pool) && poolUsed clients pool.name)
    "WireGuard pool CIDR cannot change while addresses are reserved"
  pure (pools.insert pool.name (poolCIDR X pool))

def shared (vpcs others : List String) : Bool := vpcs.any others.contains

/-- Some pool of one record overlaps some pool of the other. -/
def poolsOverlap (pools others : KMap String String) : Bool :=
  pools.entries.any fun c => others.entries.any fun d =>
    match X.parsePrefix c.2, X.parsePrefix d.2 with
    | some p, some q => p.overlaps q
    | _, _ => false

/-- The pools a client selects are declared, at most one of each family. -/
def checkPool (gw : Gateway) (pools : KMap String String) (name : String) (families : List Bool) :
    Except Err (List Bool) :=
  match pools.lookup name with
  | none => .error (errorf "WireGuard client pool is not declared")
  | some cidr => do
    failIf (!gw.declares name) "WireGuard client pool has been removed"
    let is4 := (X.parsePrefix cidr).any NetPrefix.isV4
    failIf (families.contains is4) "WireGuard client selects multiple pools of one family"
    pure (is4 :: families)

/-- The checks on one connection; `keys` are the public keys seen so far. -/
def checkConn (gw : Gateway) (vpcs : List VPC) (pools : KMap String String) (keys : List String)
    (c : Conn) : Except Err (Peer × ClientSpec) :=
  match c.wireGuard with
  | none => .error (errorf "WireGuard client gateway only accepts client peers")
  | some wg =>
    match wg.client with
    | none => .error (errorf "WireGuard client gateway only accepts client peers")
    | some cl => do
      failIf c.ipsec "WireGuard client gateway only accepts client peers"
      failIf (decide (cl.vpcRefs.length < 1) || decide (10 < cl.vpcRefs.length) ||
        decide (cl.addressPools.length < 1) || decide (2 < cl.addressPools.length))
        "WireGuard client reference collections exceed budget"
      failIf (cl.vpcRefs.any fun ref => !vpcs.any fun vpc => vpc.name == ref)
        "WireGuard client references a VPC outside its gateway"
      let problem := X.clientProblem wg.peer cl.addressPools cl.vpcRefs c.remoteCIDRs
      failIf (problem != "") ("invalid WireGuard client: " ++ problem)
      failIf (c.uid == "" || keys.contains wg.peer.publicKey)
        "WireGuard clients require distinct public keys and nonempty UIDs"
      let families ← forEach cl.addressPools (checkPool X gw pools) []
      failIf (families.contains false && decide (wgClientTunnelMTU vpcs < 1280))
        "WireGuard IPv6 clients require a tunnel MTU of at least 1280"
      pure (wg.peer, cl)

/-- The clients, the addresses in use, the public keys seen, and the connections with their
    addresses filled in. -/
structure Leases where
  clients : KMap String ClientReservation
  used : List String
  keys : List String
  conns : List Conn

/-- One more address, from the named pool. -/
def leaseAddress (pools : KMap String String) (pool : String) (acc : List String × List String) :
    Except Err (List String × List String) := do
  let addr ← nextWGClientAddress X ((pools.lookup pool).bind X.parsePrefix) acc.2
  pure (acc.1 ++ [addr], acc.2.insert addr)

def hostCIDR (a : String) : String :=
  match X.parseAddr a with
  | some (.v4 ip) => X.prefixString (.v4 ip 32)
  | some (.v6 ip) => X.prefixString (.v6 ip 128)
  | none => "invalid Prefix"

def assign (c : Conn) (a : ClientReservation) : Conn :=
  { c with remoteCIDRs := a.addresses.map (hostCIDR X), assignedAddresses := a.addresses }

def reserveConn (gw : Gateway) (vpcs : List VPC) (pools : KMap String String) (c : Conn)
    (l : Leases) : Except Err Leases := do
  let (peer, cl) ← checkConn X gw vpcs pools l.keys c
  match l.clients.lookup c.uid with
  | some a =>
    failIf (a.name != c.name || a.pools != cl.addressPools)
      "WireGuard client allocation identity or pools changed"
    pure { l with keys := peer.publicKey :: l.keys, conns := l.conns ++ [assign X c a] }
  | none =>
    let (addresses, used) ← forEach cl.addressPools (leaseAddress X pools) ([], l.used)
    let a : ClientReservation := ⟨c.name, cl.addressPools, addresses⟩
    pure ⟨l.clients.insert c.uid a, used, peer.publicKey :: l.keys, l.conns ++ [assign X c a]⟩

def usedAddresses (clients : KMap String ClientReservation) : List String :=
  (clients.entries.flatMap fun c => c.2.addresses).dedup

/-- The record an allocation starts from. -/
def openRecord (gw : Gateway) (state : State) : GatewayReservation :=
  (state.gateways.lookup gw.uid).getD ⟨gw.name, [], ∅, ∅, [], ∅⟩

def addScopes (scopes vpcs : List String) : List String :=
  scopes.foldl (fun vs v => if vs.contains v then vs else vs ++ [v]) vpcs

/-- The pools recorded before the declared ones are set: those declared or in use. -/
def keptPools (gw : Gateway) (record : GatewayReservation) : KMap String String :=
  restrict (fun name => gw.declares name || poolUsed record.clients name) record.pools

/-- `allocateWGClients` from the point where the record's scopes and witnesses are known. -/
def allocateRecord (gw : Gateway) (vpcs : List VPC) (conns : List Conn) (state : State)
    (record : GatewayReservation) : Except Err (State × List Conn) := do
  let pools ← forEach gw.pools (setPool X record.clients) (keptPools gw record)
  forEach state.gateways.entries (fun other _ =>
    failIf (other.1 != gw.uid && shared record.vpcs other.2.vpcs &&
      poolsOverlap X pools other.2.pools)
      "WireGuard pools overlap another gateway serving the same VPC") ()
  let l ← forEach conns (reserveConn X gw vpcs pools)
    ⟨record.clients, usedAddresses record.clients, [], []⟩
  let gateways := state.gateways.insert gw.uid { record with pools := pools, clients := l.clients }
  failIf (decide (wgClientRetainedPools < pools.keys.length) ||
    decide (wgClientStateRecords < gateways.keys.length))
    "WireGuard allocation records exceed budget"
  failIf (decide (wgClientStateRecords < (gateways.entries.map fun g => g.2.clients.keys.length).sum))
    "WireGuard client reservations exceed budget"
  pure (⟨gateways⟩, l.conns)

end Allocate

/-- The clients a release goes over stay only if they are active and the gateway is not being
    deleted. -/
def stays (active : List String) (deleting : Bool) (uid : String) : Bool :=
  !deleting && active.contains uid

def releasedRecord (gw : Gateway) (clients : KMap String ClientReservation) (scopes : List String)
    (pods : List String) (ports : KMap String String) (record : GatewayReservation) :
    GatewayReservation :=
  { record with clients := clients, vpcs := scopes, podUIDs := pods, portUIDs := ports,
                pools := restrict gw.declares record.pools }

variable {gw : Gateway} {pools : KMap String String} {clients : KMap String ClientReservation}
  {vpcs : List VPC} {s : State} {pool : String} {active : List String} {conns : List Conn}
  {uid : String} {out : List Conn} {g : GatewayReservation} {c : ClientReservation} {a : String}
  {record : GatewayReservation}

section Good

variable (X : Env)

/-- The text parses to an address of the pool recorded under the name. -/
def InPool (pools : KMap String String) (pool a : String) : Prop :=
  ∃ cidr p ip, pools.lookup pool = some cidr ∧ X.parsePrefix cidr = some p ∧
    X.parseAddr a = some ip ∧ p.contains ip = true

/-- The reservations of one record. -/
structure GoodClients (pools : KMap String String) (clients : KMap String ClientReservation) :
    Prop where
  inPool : ∀ uid c, clients.lookup uid = some c → List.Forall₂ (InPool X pools) c.pools c.addresses
  nodup : ∀ uid c, clients.lookup uid = some c → c.addresses.Nodup
  disjoint : ∀ uid uid' c c', uid ≠ uid' → clients.lookup uid = some c →
    clients.lookup uid' = some c' → c.addresses.Disjoint c'.addresses

def Apart (pools others : KMap String String) : Prop :=
  ∀ name name' cidr cidr' p q, pools.lookup name = some cidr → others.lookup name' = some cidr' →
    X.parsePrefix cidr = some p → X.parsePrefix cidr' = some q → p.overlaps q = false

/-- The records serve a VPC in common. -/
def Meet (vpcs others : List String) : Prop := ∃ v, v ∈ vpcs ∧ v ∈ others

/-- The addresses of a record are distinct and lie in its pools, and the pools of two records that
    share a VPC UID do not overlap. -/
structure Good (s : State) : Prop where
  clients : ∀ id g, s.gateways.lookup id = some g → GoodClients X g.pools g.clients
  pools : ∀ id id' g g', id ≠ id' → s.gateways.lookup id = some g →
    s.gateways.lookup id' = some g' → Meet g.vpcs g'.vpcs → Apart X g.pools g'.pools

/-- A reservation that is on both sides is the same on both. -/
def Steady (s s' : State) : Prop :=
  ∀ id g g' uid c c', s.gateways.lookup id = some g → s'.gateways.lookup id = some g' →
    g.clients.lookup uid = some c → g'.clients.lookup uid = some c' → c' = c

variable {X}

theorem good_empty : Good X State.empty where
  clients := fun _ _ h => nomatch h
  pools := fun _ _ _ _ _ h => nomatch h

variable {others : KMap String String}

theorem Apart.symm (h : Apart X pools others) : Apart X others pools := by
  intro name name' cidr cidr' p q hl hl' hp hq
  cases hov : p.overlaps q with
  | false => rfl
  | true => exact absurd (NetPrefix.overlaps_symm hov) (by rw [h _ _ _ _ _ _ hl' hl hq hp]; decide)

theorem Meet.symm {vpcs others : List String} (h : Meet vpcs others) : Meet others vpcs := by
  obtain ⟨v, hv, hv'⟩ := h
  exact ⟨v, hv', hv⟩

theorem GoodClients.located (h : GoodClients X pools clients) (hc : clients.lookup uid = some c)
    (ha : a ∈ c.addresses) :
    ∃ pool ∈ c.pools, InPool X pools pool a := by
  obtain ⟨i, hi, rfl⟩ := List.mem_iff_getElem.mp ha
  have hforall := List.forall₂_iff_get.mp (h.inPool uid c hc)
  have hi' : i < c.pools.length := hforall.1 ▸ hi
  exact ⟨c.pools.get ⟨i, hi'⟩, List.get_mem _ _, hforall.2 i hi' hi⟩

/-- **NO ADDRESS TWICE**: of two clients that records sharing a VPC reserve, no address of one is
    an address of the other. -/
theorem Good.apart (h : Good X s) {id id' uid' : String} {g' : GatewayReservation}
    {c' : ClientReservation} (hg : s.gateways.lookup id = some g)
    (hg' : s.gateways.lookup id' = some g') (hmeet : Meet g.vpcs g'.vpcs)
    (hc : g.clients.lookup uid = some c) (hc' : g'.clients.lookup uid' = some c')
    (hne : (id, uid) ≠ (id', uid')) : c.addresses.Disjoint c'.addresses := by
  by_cases hid : id = id'
  · subst hid
    obtain rfl : g = g' := Option.some.inj (hg.symm.trans hg')
    exact (h.clients id g hg).disjoint uid uid' c c' (fun huid => hne (huid ▸ rfl)) hc hc'
  · intro a ha ha'
    obtain ⟨_, _, cidr, p, ip, hl, hp, hip, hin⟩ := (h.clients id g hg).located hc ha
    obtain ⟨_, _, cidr', q, ip', hl', hq, hip', hin'⟩ := (h.clients id' g' hg').located hc' ha'
    obtain rfl : ip = ip' := Option.some.inj (hip.symm.trans hip')
    have hover := NetPrefix.overlaps_of_contains hin hin'
    rw [h.pools id id' g g' hid hg hg' hmeet _ _ _ _ _ _ hl hl' hp hq] at hover
    nomatch hover

theorem Good.insert (h : Good X s) {id : String} (hg : GoodClients X g.pools g.clients)
    (hpools : ∀ id' g', id' ≠ id → s.gateways.lookup id' = some g' → Meet g.vpcs g'.vpcs →
      Apart X g.pools g'.pools) : Good X ⟨s.gateways.insert id g⟩ where
  clients := by
    intro id' g' hg'
    rcases lookup_insert_some.mp hg' with ⟨rfl, rfl⟩ | ⟨-, hg'⟩
    · exact hg
    · exact h.clients id' g' hg'
  pools := by
    intro id₁ id₂ g₁ g₂ hne h₁ h₂ hmeet
    rcases lookup_insert_some.mp h₁ with ⟨rfl, rfl⟩ | ⟨hid₁, hold⟩
    · exact hpools id₂ g₂ (Ne.symm hne) ((AList.lookup_insert_ne (Ne.symm hne)).symm.trans h₂) hmeet
    rcases lookup_insert_some.mp h₂ with ⟨rfl, rfl⟩ | ⟨-, h₂⟩
    · exact (hpools id₁ g₁ hid₁ hold hmeet.symm).symm
    · exact h.pools id₁ id₂ g₁ g₂ hne hold h₂ hmeet

theorem Good.erase (h : Good X s) (id : String) : Good X ⟨s.gateways.erase id⟩ := by
  refine ⟨fun id' g hg => h.clients id' g (lookup_erase_some.mp hg).2, fun id₁ id₂ g₁ g₂ hne h₁ h₂ => ?_⟩
  exact h.pools id₁ id₂ g₁ g₂ hne (lookup_erase_some.mp h₁).2 (lookup_erase_some.mp h₂).2

-- ── an allocation keeps a good state

theorem searchAddress_ok {p : NetPrefix} {used : List String} {n : Nat} {start : Option Ip}
    (h : searchAddress X p used n start = .ok a) :
    ∃ ip, a = X.addrString ip ∧ p.contains ip = true ∧ a ∉ used := by
  induction n generalizing start with
  | zero =>
    cases start with
    | none | some addr => nomatch h
  | succ n ih =>
    cases start with
    | none => nomatch h
    | some addr =>
      unfold searchAddress at h
      split at h
      · nomatch h
      rename_i hin
      split at h
      · nomatch h
      split at h
      · rename_i hfree
        cases h
        exact ⟨addr, rfl, Bool.eq_true_of_not_eq_false hin, hfree⟩
      · exact ih h

variable {acc' acc : List String × List String}

theorem leaseAddress_ok (h : leaseAddress X pools pool acc = .ok acc') :
    ∃ a, acc' = (acc.1 ++ [a], acc.2.insert a) ∧ InPool X pools pool a ∧ a ∉ acc.2 := by
  obtain ⟨a, hnext, hacc⟩ := bind_ok h
  refine ⟨a, (Except.ok.inj hacc).symm, ?_⟩
  cases hl : pools.lookup pool with
  | none =>
    rw [hl] at hnext
    nomatch hnext
  | some cidr =>
    rw [hl] at hnext
    cases hp : X.parsePrefix cidr with
    | none =>
      change nextWGClientAddress X (X.parsePrefix cidr) acc.2 = .ok a at hnext
      rw [hp] at hnext
      nomatch hnext
    | some p =>
      change nextWGClientAddress X (X.parsePrefix cidr) acc.2 = .ok a at hnext
      rw [hp] at hnext
      obtain ⟨ip, rfl, hin, hfree⟩ := searchAddress_ok hnext
      exact ⟨⟨cidr, p, ip, hl, hp, X.parseAddr_addrString ip, hin⟩, hfree⟩

/-- The addresses of a new client: one of each pool, all free and distinct. Induction on the
    pools. -/
theorem leaseAddresses_ok {names : List String}
    (h : forEach names (leaseAddress X pools) acc = .ok acc') :
    ∃ new, acc'.1 = acc.1 ++ new ∧ List.Forall₂ (InPool X pools) names new ∧ new.Nodup ∧
      (∀ a ∈ new, a ∉ acc.2) ∧ ∀ a, a ∈ acc'.2 ↔ a ∈ new ∨ a ∈ acc.2 := by
  induction names generalizing acc with
  | nil =>
    cases h
    exact ⟨[], (List.append_nil _).symm, .nil, List.nodup_nil, nofun, fun a => by simp⟩
  | cons name names ih =>
    unfold forEach at h
    split at h
    · rename_i hstep
      obtain ⟨a, rfl, hin, hfree⟩ := leaseAddress_ok hstep
      obtain ⟨new, hacc, hall, hnodup, hnew, hused⟩ := ih h
      have ha : a ∉ new := fun hmem => hnew a hmem (List.mem_insert_self)
      refine ⟨a :: new, ?_, .cons hin hall, List.nodup_cons.mpr ⟨ha, hnodup⟩, ?_, ?_⟩
      · rw [hacc, List.append_assoc]
        rfl
      · intro b hb
        rcases List.mem_cons.mp hb with rfl | hb
        · exact hfree
        · exact fun hmem => hnew b hb (List.mem_insert_of_mem hmem)
      · intro b
        rw [hused, List.mem_insert_iff, List.mem_cons]
        exact ⟨fun h => by tauto, fun h => by tauto⟩
    · nomatch h

theorem reserveConn_cases {c : Conn} {l l' : Leases} (h : reserveConn X gw vpcs pools c l = .ok l') :
    (l'.clients = l.clients ∧ l'.used = l.used) ∨
      ∃ a : ClientReservation, l.clients.lookup c.uid = none ∧
        l'.clients = l.clients.insert c.uid a ∧
        forEach a.pools (leaseAddress X pools) ([], l.used) = .ok (a.addresses, l'.used) := by
  obtain ⟨⟨peer, cl⟩, -, h⟩ := bind_ok h
  cases hl : l.clients.lookup c.uid with
  | some a =>
    rw [hl] at h
    obtain ⟨_, -, h⟩ := bind_ok h
    cases h
    exact .inl ⟨rfl, rfl⟩
  | none =>
    rw [hl] at h
    obtain ⟨⟨addresses, used⟩, hlease, h⟩ := bind_ok h
    cases h
    exact .inr ⟨⟨c.name, cl.addressPools, addresses⟩, rfl, rfl, hlease⟩

variable (X) in
/-- What the loop over the connections keeps. -/
structure GoodLeases (pools : KMap String String) (l : Leases) : Prop where
  clients : GoodClients X pools l.clients
  used : ∀ uid c, l.clients.lookup uid = some c → ∀ a ∈ c.addresses, a ∈ l.used

theorem GoodLeases.lease {l l' : Leases} {a : ClientReservation} (h : GoodLeases X pools l)
    (hl' : l'.clients = l.clients.insert uid a)
    (hlease : forEach a.pools (leaseAddress X pools) ([], l.used) = .ok (a.addresses, l'.used)) :
    GoodLeases X pools l' := by
  obtain ⟨new, hnew, hin, hnodup, hfree, hused⟩ := leaseAddresses_ok hlease
  obtain rfl : a.addresses = new := hnew
  -- a client of the new map is the new one, or an old one with addresses in use
  have hcases : ∀ uid' c, l'.clients.lookup uid' = some c →
      (uid' = uid ∧ a = c) ∨ (uid' ≠ uid ∧ l.clients.lookup uid' = some c) :=
    fun _ _ hc => lookup_insert_some.mp (hl' ▸ hc)
  have hapart : ∀ uid' c, l.clients.lookup uid' = some c → a.addresses.Disjoint c.addresses :=
    fun uid' c hc b hb hb' => hfree b hb (h.used uid' c hc b hb')
  refine ⟨⟨?_, ?_, ?_⟩, ?_⟩
  · intro uid' c hc
    rcases hcases uid' c hc with ⟨_, rfl⟩ | ⟨_, hold⟩
    · exact hin
    · exact h.clients.inPool uid' c hold
  · intro uid' c hc
    rcases hcases uid' c hc with ⟨_, rfl⟩ | ⟨_, hold⟩
    · exact hnodup
    · exact h.clients.nodup uid' c hold
  · intro uid₁ uid₂ c₁ c₂ hne h₁ h₂
    rcases hcases uid₁ c₁ h₁ with ⟨hu₁, rfl⟩ | ⟨_, hold₁⟩
    · rcases hcases uid₂ c₂ h₂ with ⟨hu₂, rfl⟩ | ⟨_, hold₂⟩
      · exact absurd (hu₁.trans hu₂.symm) hne
      · exact hapart uid₂ c₂ hold₂
    · rcases hcases uid₂ c₂ h₂ with ⟨_, rfl⟩ | ⟨_, hold₂⟩
      · exact (hapart uid₁ c₁ hold₁).symm
      · exact h.clients.disjoint uid₁ uid₂ c₁ c₂ hne hold₁ hold₂
  · intro uid' c hc b hb
    rcases hcases uid' c hc with ⟨_, rfl⟩ | ⟨_, hold⟩
    · exact (hused b).mpr (.inl hb)
    · exact (hused b).mpr (.inr (h.used uid' c hold b hb))

theorem reserveConn_keeps {c : Conn} {l l' : Leases} (h : reserveConn X gw vpcs pools c l = .ok l') :
    (GoodLeases X pools l → GoodLeases X pools l') ∧
      ∀ uid r, l.clients.lookup uid = some r → l'.clients.lookup uid = some r := by
  rcases reserveConn_cases h with ⟨hclients, hused⟩ | ⟨a, hl, hclients, hlease⟩
  · refine ⟨fun hgood => ⟨?_, ?_⟩, ?_⟩
    · rw [hclients]
      exact hgood.clients
    · rw [hclients, hused]
      exact hgood.used
    · rw [hclients]
      exact fun _ _ hr => hr
  · refine ⟨fun hgood => hgood.lease hclients hlease, fun uid r hr => ?_⟩
    rw [hclients]
    refine lookup_insert_stays hr ?_
    rintro rfl
    nomatch hl.symm.trans hr

theorem poolUsed_of_mem (hc : clients.lookup uid = some c) (hpool : pool ∈ c.pools) :
    poolUsed clients pool = true := by
  refine List.any_eq_true.mpr ⟨⟨uid, c⟩, AList.mem_lookup_iff.mp hc, ?_⟩
  exact List.contains_iff_mem.mpr hpool

theorem setPools_keeps
    (h : forEach gw.pools (setPool X record.clients) (keptPools gw record) = .ok pools)
    {name cidr : String} (hused : poolUsed record.clients name = true)
    (hl : record.pools.lookup name = some cidr) : pools.lookup name = some cidr := by
  refine forEach_keeps (I := fun m => m.lookup name = some cidr) ?_ ?_ h
  · intro pool _ m m' hm hstep
    obtain ⟨_, hfail, hins⟩ := bind_ok hstep
    cases hins
    by_cases hname : name = pool.name
    · subst hname
      have hsame := failIf_ok hfail
      rw [hm, hused, Bool.and_true] at hsame
      have hcidr : cidr = poolCIDR X pool := by simpa using hsame
      rw [hcidr]
      exact AList.lookup_insert _
    · exact (AList.lookup_insert_ne hname).trans hm
  · refine lookup_restrict_some.mpr ⟨?_, hl⟩
    rw [hused, Bool.or_true]

variable {pools' : KMap String String}

theorem InPool.mono (h : InPool X pools pool a)
    (hl : ∀ cidr, pools.lookup pool = some cidr → pools'.lookup pool = some cidr) :
    InPool X pools' pool a := by
  obtain ⟨cidr, p, ip, hcidr, hrest⟩ := h
  exact ⟨cidr, p, ip, hl cidr hcidr, hrest⟩

theorem GoodClients.mono (h : GoodClients X pools clients)
    (hl : ∀ uid c, clients.lookup uid = some c → ∀ pool ∈ c.pools, ∀ cidr,
      pools.lookup pool = some cidr → pools'.lookup pool = some cidr) :
    GoodClients X pools' clients where
  inPool := by
    intro uid c hc
    refine List.forall₂_iff_get.mpr ?_
    have hforall := List.forall₂_iff_get.mp (h.inPool uid c hc)
    refine ⟨hforall.1, fun i hi hi' => (hforall.2 i hi hi').mono ?_⟩
    exact hl uid c hc _ (List.get_mem _ _)
  nodup := h.nodup
  disjoint := h.disjoint

theorem apart_of_poolsOverlap (h : poolsOverlap X pools others = false) : Apart X pools others := by
  intro name name' cidr cidr' p q hl hl' hp hq
  have hrow := List.any_eq_false.mp h ⟨name, cidr⟩ (AList.mem_lookup_iff.mp hl)
  rw [Bool.not_eq_true] at hrow
  have hcell := List.any_eq_false.mp hrow ⟨name', cidr'⟩ (AList.mem_lookup_iff.mp hl')
  rw [Bool.not_eq_true] at hcell
  rw [hp, hq] at hcell
  exact hcell

theorem shared_of_meet {vpcs others : List String} (h : Meet vpcs others) :
    shared vpcs others = true := by
  obtain ⟨v, hv, hv'⟩ := h
  exact List.any_eq_true.mpr ⟨v, hv, List.contains_iff_mem.mpr hv'⟩

theorem allocateRecord_ok {s' : State} (h : allocateRecord X gw vpcs conns s record = .ok (s', out)) :
    ∃ pools l, forEach gw.pools (setPool X record.clients) (keptPools gw record) = .ok pools ∧
      (∀ id g, id ≠ gw.uid → s.gateways.lookup id = some g → Meet record.vpcs g.vpcs →
        Apart X pools g.pools) ∧
      forEach conns (reserveConn X gw vpcs pools)
        ⟨record.clients, usedAddresses record.clients, [], []⟩ = .ok l ∧
      s' = ⟨s.gateways.insert gw.uid { record with pools := pools, clients := l.clients }⟩ := by
  obtain ⟨pools, hpools, h⟩ := bind_ok h
  obtain ⟨_, hothers, h⟩ := bind_ok h
  obtain ⟨l, hl, h⟩ := bind_ok h
  obtain ⟨_, _, h⟩ := bind_ok h
  obtain ⟨_, _, h⟩ := bind_ok h
  refine ⟨pools, l, hpools, ?_, hl, (congrArg Prod.fst (Except.ok.inj h)).symm⟩
  intro id g hid hg hmeet
  have hcheck := failIf_ok (forEach_passed hothers ⟨id, g⟩ (AList.mem_lookup_iff.mp hg))
  have hne : (id != gw.uid) = true := bne_iff_ne.mpr hid
  rw [hne, shared_of_meet hmeet, Bool.true_and, Bool.true_and] at hcheck
  exact apart_of_poolsOverlap hcheck

theorem mem_usedAddresses (hc : clients.lookup uid = some c) (ha : a ∈ c.addresses) :
    a ∈ usedAddresses clients := by
  refine List.mem_dedup.mpr (List.mem_flatMap.mpr ⟨⟨uid, c⟩, ?_, ha⟩)
  exact AList.mem_lookup_iff.mp hc

/-- **AN ALLOCATION KEEPS A GOOD STATE**: pools in use keep their prefixes, new addresses are free,
    and pools of records that share a VPC were compared. -/
theorem allocateRecord_good {s' : State} (hgood : Good X s)
    (hrecord : GoodClients X record.pools record.clients)
    (h : allocateRecord X gw vpcs conns s record = .ok (s', out)) : Good X s' := by
  obtain ⟨pools, l, hpools, hothers, hl, rfl⟩ := allocateRecord_ok h
  have hkept : GoodClients X pools record.clients := by
    refine hrecord.mono fun uid c hc pool hpool cidr hcidr => ?_
    exact setPools_keeps hpools (poolUsed_of_mem hc hpool) hcidr
  have hleases : GoodLeases X pools l := by
    refine forEach_keeps (fun c _ l l' hgood hstep => (reserveConn_keeps hstep).1 hgood) ?_ hl
    exact ⟨hkept, fun uid c hc a ha => mem_usedAddresses hc ha⟩
  exact hgood.insert hleases.clients hothers

theorem steady_insert {id : String}
    (h : ∀ g₀, s.gateways.lookup id = some g₀ → ∀ uid c c', g₀.clients.lookup uid = some c →
      g.clients.lookup uid = some c' → c' = c) : Steady s ⟨s.gateways.insert id g⟩ := by
  intro id' g₁ g₂ uid c c' h₁ h₂ hc hc'
  rcases lookup_insert_some.mp h₂ with ⟨rfl, rfl⟩ | ⟨-, h₂⟩
  · exact h g₁ h₁ uid c c' hc hc'
  · cases h₁.symm.trans h₂
    exact Option.some.inj (hc'.symm.trans hc)

theorem steady_erase (s : State) (id : String) : Steady s ⟨s.gateways.erase id⟩ := by
  intro id' g₁ g₂ uid c c' h₁ h₂ hc hc'
  cases h₁.symm.trans (lookup_erase_some.mp h₂).2
  exact Option.some.inj (hc'.symm.trans hc)

theorem allocateRecord_steady {s' : State}
    (hrecord : ∀ g, s.gateways.lookup gw.uid = some g → record.clients = g.clients)
    (h : allocateRecord X gw vpcs conns s record = .ok (s', out)) : Steady s s' := by
  obtain ⟨pools, l, _, _, hl, rfl⟩ := allocateRecord_ok h
  refine steady_insert fun g hg uid c c' hc hc' => ?_
  have hkept : l.clients.lookup uid = some c := by
    refine forEach_keeps (I := fun l => l.clients.lookup uid = some c)
      (fun _ _ _ _ hm hstep => (reserveConn_keeps hstep).2 uid c hm) ?_ hl
    rw [hrecord g hg]
    exact hc
  exact Option.some.inj (hc'.symm.trans hkept)

variable (X) in
/-- A release of a live gateway keeps its clients' pools and takes on no VPC of another gateway with
    an overlapping pool. -/
structure Fits (s : State) (gw : Gateway) (active scopes : List String)
    (record : GatewayReservation) : Prop where
  pools : ∀ uid c, record.clients.lookup uid = some c → uid ∈ active →
    ∀ pool ∈ c.pools, gw.declares pool = true
  scopes : ∀ id g, id ≠ gw.uid → s.gateways.lookup id = some g → Meet scopes g.vpcs →
    Apart X (restrict gw.declares record.pools) g.pools

theorem lookup_stays :
    (restrict (stays active false) clients).lookup uid = some c ↔
      uid ∈ active ∧ clients.lookup uid = some c := by
  rw [lookup_restrict_some]
  exact and_congr_left fun _ => List.contains_iff_mem

theorem releasedRecord_steady {scopes pods : List String} {ports : KMap String String}
    (hrecord : s.gateways.lookup gw.uid = some record) :
    Steady s ⟨s.gateways.insert gw.uid (releasedRecord gw (restrict (stays active false)
      record.clients) scopes pods ports record)⟩ := by
  refine steady_insert fun g hg uid c c' hc hc' => ?_
  obtain rfl : record = g := Option.some.inj (hrecord.symm.trans hg)
  exact Option.some.inj ((lookup_stays.mp hc').2.symm.trans hc)

/-- **WHEN A RELEASE KEEPS A GOOD STATE**: exactly when it fits. -/
theorem releasedRecord_good_iff (hgood : Good X s) {scopes pods : List String}
    {ports : KMap String String} (hrecord : s.gateways.lookup gw.uid = some record) :
    Good X ⟨s.gateways.insert gw.uid (releasedRecord gw (restrict (stays active false)
      record.clients) scopes pods ports record)⟩ ↔ Fits X s gw active scopes record := by
  have hclients := hgood.clients gw.uid record hrecord
  constructor
  · intro hafter
    have hnew := hafter.clients gw.uid _ (AList.lookup_insert _)
    refine ⟨fun uid c hc hactive pool hpool => ?_, fun id g hid hg hmeet => ?_⟩
    · -- the pool of a kept client is still recorded, so it is declared
      have hforall := hnew.inPool uid c (lookup_stays.mpr ⟨hactive, hc⟩)
      obtain ⟨i, hi, rfl⟩ := List.mem_iff_getElem.mp hpool
      obtain ⟨hlen, hin⟩ := List.forall₂_iff_get.mp hforall
      obtain ⟨cidr, _, _, hl, _⟩ := hin i hi (hlen ▸ hi)
      exact (lookup_restrict_some.mp hl).1
    · exact hafter.pools gw.uid id _ g (Ne.symm hid) (AList.lookup_insert _)
        ((AList.lookup_insert_ne hid).trans hg) hmeet
  · intro hfits
    refine hgood.insert ⟨?_, ?_, ?_⟩ hfits.scopes
    · intro uid c hc
      obtain ⟨hactive, hold⟩ := lookup_stays.mp hc
      have hforall := List.forall₂_iff_get.mp (hclients.inPool uid c hold)
      refine List.forall₂_iff_get.mpr ⟨hforall.1, fun i hi hi' => (hforall.2 i hi hi').mono ?_⟩
      intro cidr hcidr
      exact lookup_restrict_some.mpr ⟨hfits.pools uid c hold hactive _ (List.get_mem _ _), hcidr⟩
    · intro uid c hc
      exact hclients.nodup uid c (lookup_stays.mp hc).2
    · intro uid uid' c c' hne hc hc'
      exact hclients.disjoint uid uid' c c' hne (lookup_stays.mp hc).2 (lookup_stays.mp hc').2

end Good

end CozyWgState
