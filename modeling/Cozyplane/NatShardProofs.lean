import Cozyplane.KernelMapProofs
import Cozyplane.TranslationProofs
import Cozyplane.BoundaryCompileProofs

/-!
# Sharded VPC NAT — the port says which node holds the flow

Every VPC has one address per family to leave by, and every node translates its own pods
behind it with ports from its own range (`NATShardFor`). A reply may arrive at any node; the
port's range names the node whose connection table has the flow (`nat_owner`).
-/

namespace CozyShard

open PrefixTable KernelMap Accumulate CozyPacket CozyMaps CozyCidr
open CozyBoundaryCompile

def natPortBase : Nat := 1024
def natShardSpan : Nat := 4032
def natShards : Nat := 16

/-- `NATShardFor`: the port range of the node with that index. -/
def natShardFor (nodeIndex : Int) : Option (U32 × U32) :=
  if nodeIndex < 0 ∨ natShards ≤ nodeIndex then none
  else some (BitVec.ofNat 32 (natPortBase + nodeIndex.toNat * natShardSpan),
    BitVec.ofNat 32 natShardSpan)

/-- Port `g` is in the range of node `i`. -/
def InShard (i : Nat) (g : U16) : Prop :=
  natPortBase + i * natShardSpan ≤ g.toNat ∧ g.toNat < natPortBase + (i + 1) * natShardSpan

/-- `net.IP.To4`. -/
def to4 (ip : Addr) : Option U32 := if is4In6 ip then some (ip.extractLsb' 0 32) else none

/-- `NATIdentity`; an empty text is a family the VPC does not leave by. -/
structure NATIdentity where
  v4 : String
  v6 : String
  deriving DecidableEq

/-- The three maps of VPC NAT. -/
structure NatTables where
  natOf : KMap Addr U32
  natOwner : KMap NatShardKey U32
  vpcNat : KMap U32 VpcNat

def natOfEntries : Nat := 4096
def natOwnerEntries : Nat := 65536

/-- The desired reverse maps under construction. -/
structure Want where
  networks : KMap Addr U32
  owners : KMap NatShardKey U32

/-- One node of the list and the shard it stands for; no endpoint, no routing authority. -/
def addShard (key : Addr) (node : Option Addr × Nat) (w : Want) : Except String Want :=
  match node.1 with
  | none => .ok w
  | some ip =>
    match to4 ip with
    | none => .error ("NAT shard " ++ toString node.2 ++ " node endpoint is not IPv4")
    | some v4 =>
      match putDesired natOwnerEntries w.owners ⟨key, BitVec.ofNat 16 node.2⟩ v4 with
      | .error e => .error e
      | .ok owners => .ok { w with owners := owners }

def badAddress (isV4 : Bool) (address : String) : String :=
  "invalid NAT family " ++ (if isV4 then "0" else "1") ++ " address " ++ address.quote

/-- One address of an identity. -/
def addAddress (P : Platform) (nodes : List (Option Addr)) (netID : U32) (isV4 : Bool)
    (address : String) (w : Want) : Except String Want :=
  if address = "" then .ok w
  else
    match P.parseIP address with
    | none => .error (badAddress isV4 address)
    | some ip =>
      if isV4 ≠ (to4 ip).isSome then .error (badAddress isV4 address)
      else if (w.networks.lookup (addr128 ip)).any (· ≠ netID) then
        .error ("NAT address " ++ address ++ " belongs to multiple VPCs")
      else
        match putDesired natOfEntries w.networks (addr128 ip) netID with
        | .error e => .error e
        | .ok networks =>
          forEach ((nodes.take natShards).zipIdx) (addShard (addr128 ip))
            { w with networks := networks }

def addIdentity (P : Platform) (nodes : List (Option Addr))
    (e : Sigma fun _ : U32 => NATIdentity) (w : Want) : Except String Want :=
  if e.1 = 0#32 then .error "NAT identity cannot belong to default network"
  else andThen (addAddress P nodes e.1 true e.2.v4) (addAddress P nodes e.1 false e.2.v6) w

/-- The preflight of `SyncNATReverse`: both desired maps, before either is touched. -/
def wantNATReverse (P : Platform) (ids : KMap U32 NATIdentity) (nodes : List (Option Addr)) :
    Except String Want :=
  forEach ids.entries (addIdentity P nodes) ⟨∅, ∅⟩

/-- `SyncNATReverse`, without kernel errors. -/
def syncNATReverse (P : Platform) (t : NatTables) (ids : KMap U32 NATIdentity)
    (nodes : List (Option Addr)) : NatTables × Option String :=
  match wantNATReverse P ids nodes with
  | .error e => (t, some e)
  | .ok w => ({ t with
      natOwner := applyAll t.natOwner (syncOps t.natOwner w.owners)
      natOf := applyAll t.natOf (syncOps t.natOf w.networks) }, none)

def optAddr128 (P : Platform) (s : String) : Option Addr :=
  if s = "" then some 0#128 else (P.parseIP s).map addr128

/-- `delNATReverseOwner`: never an address another VPC has taken over. -/
def delNATReverseOwner (t : NatTables) (ip : Addr) (netID : U32) : NatTables :=
  if t.natOf.lookup ip = some netID then { t with natOf := t.natOf.erase ip } else t

/-- `DelVPCNAT`, of the addresses it was told. -/
def delVPCNAT (t : NatTables) (netID : U32) (ips : List Addr) : NatTables :=
  ips.foldl (fun t ip => delNATReverseOwner t ip netID) { t with vpcNat := t.vpcNat.erase netID }

/-- `nat_of` of an address the VPC leaves by. -/
def putNatOf (t : NatTables) (on : Bool) (ip : Addr) (netID : U32) : NatTables :=
  if on then { t with natOf := t.natOf.insert ip netID } else t

/-- `SetVPCNAT`: the new row, then the reverse rows of addresses it no longer has. -/
def setVPCNAT (P : Platform) (t : NatTables) (netID : U32) (id : NATIdentity)
    (portBase portSpan : U32) : NatTables × Option String :=
  match optAddr128 P id.v4, optAddr128 P id.v6 with
  | some ip4, some ip6 =>
    let previous := (t.vpcNat.lookup netID).getD ⟨0#128, 0#128, 0#32, 0#32⟩
    let t := putNatOf (putNatOf t (id.v4 ≠ "") ip4 netID) (id.v6 ≠ "") ip6 netID
    let t := { t with vpcNat := t.vpcNat.insert netID ⟨ip4, ip6, portBase, portSpan⟩ }
    ([previous.ip, previous.ip6].foldl (fun t old =>
      if old ≠ 0#128 ∧ old ≠ ip4 ∧ old ≠ ip6 then delNATReverseOwner t old netID else t) t, none)
  | _, _ => (t, some "nat address")

/-- `indexOf`: -1 when the name is not listed. -/
def indexOf (names : List String) (self : String) : Int :=
  match names.findIdx? (· = self) with
  | some i => i
  | none => -1

/-- The sharded nodes; the agent knows its own. -/
def shardNodes (order : List String) (self : String) (selfIP : Option Addr)
    (nodeIPs : String → Option Addr) : List (Option Addr) :=
  (order.take natShards).map fun name => if name = self then selfIP else nodeIPs name

/-- Retire an identity that is no longer wanted, or that this node has no shard for. -/
def retireNAT (ids : KMap U32 NATIdentity) (sharded : Bool) (t : NatTables)
    (e : Sigma fun _ : U32 => VpcNat) : NatTables :=
  if e.1 ∈ ids then if sharded then t else delVPCNAT t e.1 []
  else delVPCNAT t e.1 ([e.2.ip, e.2.ip6].filter (· ≠ 0#128))

/-- Publish an identity with this node's range. -/
def publishNAT (P : Platform) (selfShard : Int) (t : NatTables)
    (e : Sigma fun _ : U32 => NATIdentity) : NatTables :=
  match natShardFor selfShard with
  | none => t
  | some (base, span) => (setVPCNAT P t e.1 e.2 base span).1

/-- The NAT part of the `watchVPCGateways` resync. -/
def resyncNAT (P : Platform) (t : NatTables) (ids : KMap U32 NATIdentity) (order : List String)
    (self : String) (selfIP : Option Addr) (nodeIPs : String → Option Addr) :
    NatTables × Option String :=
  let selfShard := indexOf order self
  match syncNATReverse P t ids (shardNodes order self selfIP nodeIPs) with
  | (t₁, some e) => (t₁, some e)
  | (t₁, none) =>
    let t₂ := t.vpcNat.entries.foldl (retireNAT ids (natShardFor selfShard).isSome) t₁
    (ids.entries.foldl (publishNAT P selfShard) t₂, none)

def identityKeys (P : Platform) (id : NATIdentity) : List Addr :=
  ([id.v4, id.v6].filter (· ≠ "")).filterMap fun s => (P.parseIP s).map addr128

/-- The endpoint of a shard. -/
def shardOwner (nodes : List (Option Addr)) (shard : U16) : Option U32 :=
  (((nodes.take natShards)[shard.toNat]?).join).bind to4

/-- Rows of a network's own addresses and shard owners. -/
structure Justified (P : Platform) (ids : KMap U32 NATIdentity) (nodes : List (Option Addr))
    (w : Want) : Prop where
  networks : ∀ k n, w.networks.lookup k = some n →
    n ≠ 0#32 ∧ ∃ id, ids.lookup n = some id ∧ k ∈ identityKeys P id
  owners : ∀ k sh a, w.owners.lookup ⟨k, sh⟩ = some a → shardOwner nodes sh = some a

/-- Rows only get more. -/
def Grows (w w' : Want) : Prop :=
  (∀ k n, w.networks.lookup k = some n → w'.networks.lookup k = some n) ∧
    ∀ k a, w.owners.lookup k = some a → w'.owners.lookup k = some a

theorem Grows.refl (w : Want) : Grows w w := ⟨fun _ _ h => h, fun _ _ h => h⟩

theorem Grows.trans (a b c : Want) (h : Grows a b) (h' : Grows b c) : Grows a c :=
  ⟨fun k n hk => h'.1 k n (h.1 k n hk), fun k n hk => h'.2 k n (h.2 k n hk)⟩

def HasShard (key : Addr) (node : Option Addr × Nat) (w : Want) : Prop :=
  ∀ ip v4, node.1 = some ip → to4 ip = some v4 →
    w.owners.lookup ⟨key, BitVec.ofNat 16 node.2⟩ = some v4

variable {P : Platform} {ids : KMap U32 NATIdentity} {nodes : List (Option Addr)}

variable {w : Want} {n : U32} {address : String} {id : NATIdentity} {t : NatTables} {w' : Want}

/-- A row that is what the shard's owner says fits what is there already. -/
theorem addShard_ok {key : Addr} {node : Option Addr × Nat} (hin : node ∈ (nodes.take natShards).zipIdx)
    (hj : Justified P ids nodes w) (h : addShard key node w = .ok w') :
    Justified P ids nodes w' ∧ Grows w w' ∧ HasShard key node w' := by
  obtain ⟨endpoint, shard⟩ := node
  have hat : (nodes.take natShards)[shard]? = some endpoint := by
    simpa using List.mem_zipIdx_iff_getElem?.mp hin
  unfold addShard at h
  cases endpoint with
  | none =>
    cases h
    exact ⟨hj, Grows.refl _, fun _ _ hip _ => nomatch hip⟩
  | some ip =>
  simp only [] at h
  split at h
  · nomatch h
  rename_i v4 h4
  split at h
  · nomatch h
  rename_i hput
  cases h
  obtain rfl := putDesired_ok hput
  have hlt : shard < natShards := by
    have hlen := (List.getElem?_eq_some_iff.mp hat).1
    rw [List.length_take] at hlen
    omega
  have howner : shardOwner nodes (BitVec.ofNat 16 shard) = some v4 := by
    unfold shardOwner
    rw [BitVec.toNat_ofNat, Nat.mod_eq_of_lt (by unfold natShards at hlt; omega), hat]
    exact h4
  have hsound : ∀ k sh a, (w.owners.insert ⟨key, BitVec.ofNat 16 shard⟩ v4).lookup ⟨k, sh⟩ =
      some a → shardOwner nodes sh = some a := by
    intro k sh a hk
    rcases lookup_insert_some.mp hk with ⟨heq, rfl⟩ | ⟨-, hk⟩
    · rw [(NatShardKey.mk.inj heq).2, howner]
    · exact hj.owners k sh a hk
  refine ⟨⟨hj.networks, hsound⟩, ⟨fun _ _ hk => hk, fun k a hk => ?_⟩, fun ip' v4' hip h4' => ?_⟩
  · refine lookup_insert_stays hk ?_
    rintro rfl
    exact Option.some.inj (howner.symm.trans (hj.owners _ _ a hk))
  · cases hip
    rw [h4] at h4'
    rw [AList.lookup_insert]
    exact h4'

def HasAddress (P : Platform) (nodes : List (Option Addr)) (netID : U32) (address : String)
    (w : Want) : Prop :=
  address ≠ "" → ∃ ip, P.parseIP address = some ip ∧
    w.networks.lookup (addr128 ip) = some netID ∧
    ∀ node ∈ (nodes.take natShards).zipIdx, HasShard (addr128 ip) node w

theorem HasShard.grows {key : Addr} {node : Option Addr × Nat} (hg : Grows w w')
    (h : HasShard key node w) : HasShard key node w' :=
  fun ip v4 hip h4 => hg.2 _ _ (h ip v4 hip h4)

theorem HasAddress.grows {netID : U32} (hg : Grows w w') (h : HasAddress P nodes netID address w) :
    HasAddress P nodes netID address w' := by
  intro hne
  obtain ⟨ip, hip, hnet, hall⟩ := h hne
  exact ⟨ip, hip, hg.1 _ _ hnet, fun node hnode => (hall node hnode).grows hg⟩

theorem addAddress_ok {netID : U32} {isV4 : Bool} (hnet : netID ≠ 0#32)
    (hid : ids.lookup netID = some id) (hmem : address ∈ [id.v4, id.v6]) (hj : Justified P ids nodes w)
    (h : addAddress P nodes netID isV4 address w = .ok w') :
    Justified P ids nodes w' ∧ Grows w w' ∧ HasAddress P nodes netID address w' := by
  unfold addAddress at h
  split at h
  · rename_i hempty
    cases h
    exact ⟨hj, Grows.refl _, fun hne => absurd hempty hne⟩
  rename_i hempty
  split at h
  · nomatch h
  rename_i ip hip
  split at h
  · nomatch h
  split at h
  · nomatch h
  rename_i hother
  split at h
  · nomatch h
  rename_i networks hput
  obtain rfl := putDesired_ok hput
  -- the address was free, or this network's already
  have hfree : ∀ n, w.networks.lookup (addr128 ip) = some n → n = netID := by
    intro n hn
    by_contra hne
    rw [hn] at hother
    exact hother (decide_eq_true hne)
  have hkey : addr128 ip ∈ identityKeys P id := by
    refine List.mem_filterMap.mpr ⟨address, List.mem_filter.mpr ⟨hmem, by simpa using hempty⟩, ?_⟩
    rw [hip]
    rfl
  have hj₁ : Justified P ids nodes { w with networks := w.networks.insert (addr128 ip) netID } := by
    refine ⟨fun k n hk => ?_, hj.owners⟩
    rcases lookup_insert_some.mp hk with ⟨rfl, rfl⟩ | ⟨-, hk⟩
    · exact ⟨hnet, id, hid, hkey⟩
    · exact hj.networks k n hk
  have hg₁ : Grows w { w with networks := w.networks.insert (addr128 ip) netID } := by
    refine ⟨fun k n hk => lookup_insert_stays hk ?_, fun _ _ hk => hk⟩
    rintro rfl
    exact (hfree n hk).symm
  obtain ⟨hj', hg₂, hall⟩ := @forEach_establishes _ _ _ _ _ (Justified P ids nodes) Grows
    (HasShard (addr128 ip)) Grows.refl Grows.trans (fun _ _ _ hg hs => hs.grows hg)
    (fun _ hnode _ _ hs hstep => addShard_ok hnode hs hstep) _ _ hj₁ h
  refine ⟨hj', Grows.trans _ _ _ hg₁ hg₂, fun _ => ⟨ip, hip, hg₂.1 _ _ ?_, hall⟩⟩
  exact AList.lookup_insert _

/-- Both addresses of a VPC's identity. -/
def HasIdentity (P : Platform) (nodes : List (Option Addr))
    (e : Sigma fun _ : U32 => NATIdentity) (w : Want) : Prop :=
  HasAddress P nodes e.1 e.2.v4 w ∧ HasAddress P nodes e.1 e.2.v6 w

theorem addIdentity_ok {e : Sigma fun _ : U32 => NATIdentity} (he : ids.lookup e.1 = some e.2)
    (hj : Justified P ids nodes w) (h : addIdentity P nodes e w = .ok w') :
    Justified P ids nodes w' ∧ Grows w w' ∧ HasIdentity P nodes e w' := by
  unfold addIdentity at h
  split at h
  · nomatch h
  rename_i hnet
  obtain ⟨w₁, h₁, h₂⟩ := andThen_ok h
  obtain ⟨hj₁, hg₁, ha₁⟩ := addAddress_ok hnet he (by simp) hj h₁
  obtain ⟨hj₂, hg₂, ha₂⟩ := addAddress_ok hnet he (by simp) hj₁ h₂
  exact ⟨hj₂, Grows.trans _ _ _ hg₁ hg₂, ha₁.grows hg₂, ha₂⟩

/-- **THE PREFLIGHT** wants every address of every identity, with every shard that has an
    endpoint, and nothing else. -/
theorem wantNATReverse_ok (h : wantNATReverse P ids nodes = .ok w) :
    Justified P ids nodes w ∧
      ∀ n id, ids.lookup n = some id → HasIdentity P nodes ⟨n, id⟩ w := by
  have hempty : Justified P ids nodes ⟨∅, ∅⟩ := by
    constructor
    · intro k n hk
      nomatch hk
    · intro k sh a hk
      nomatch hk
  obtain ⟨hj, -, hall⟩ := @forEach_establishes _ _ _ _ _ (Justified P ids nodes) Grows
    (HasIdentity P nodes) Grows.refl Grows.trans
    (fun _ _ _ hg hid => ⟨hid.1.grows hg, hid.2.grows hg⟩)
    (fun _ he _ _ hs hstep => addIdentity_ok (AList.mem_lookup_iff.mpr he) hs hstep) _ _ hempty h
  exact ⟨hj, fun n id hid => hall ⟨n, id⟩ (AList.mem_lookup_iff.mp hid)⟩

-- ── what a resync leaves

/-- The reverse maps hold exactly the wanted rows. -/
def Reverse (w : Want) (t : NatTables) : Prop :=
  (∀ k, t.natOf.lookup k = w.networks.lookup k) ∧ ∀ k, t.natOwner.lookup k = w.owners.lookup k

theorem syncNATReverse_ok {t' : NatTables} (h : syncNATReverse P t ids nodes = (t', none)) :
    ∃ w, wantNATReverse P ids nodes = .ok w ∧ Reverse w t' := by
  unfold syncNATReverse at h
  cases hw : wantNATReverse P ids nodes with
  | error e =>
    rw [hw] at h
    nomatch (Prod.mk.inj h).2
  | ok w =>
    rw [hw] at h
    obtain rfl := (Prod.mk.inj h).1
    exact ⟨w, rfl, fun k => (syncOps_syncs _ _).lookup k, fun k => (syncOps_syncs _ _).lookup k⟩

/-- An address of another network, or of none, stays. -/
theorem delNATReverseOwner_other {ip : Addr} (h : t.natOf.lookup ip ≠ some n) :
    delNATReverseOwner t ip n = t := if_neg h

theorem delVPCNAT_other {ips : List Addr} (h : ∀ ip ∈ ips, t.natOf.lookup ip ≠ some n) :
    delVPCNAT t n ips = { t with vpcNat := t.vpcNat.erase n } := by
  induction ips with
  | nil => rfl
  | cons ip ips ih =>
    have hhead : delNATReverseOwner { t with vpcNat := t.vpcNat.erase n } ip n =
        { t with vpcNat := t.vpcNat.erase n } :=
      delNATReverseOwner_other (h ip (.head _))
    unfold delVPCNAT at ih ⊢
    rw [List.foldl_cons, hhead]
    exact ih fun ip' hip' => h ip' (List.mem_cons_of_mem ip hip')

/-- Retiring an identity leaves the reverse maps alone: an address that is still wanted belongs
    to a network that is. -/
theorem retireNAT_eq (hj : Justified P ids nodes w) (ht : Reverse w t) (sharded : Bool)
    (e : Sigma fun _ : U32 => VpcNat) :
    retireNAT ids sharded t e =
      if e.1 ∈ ids ∧ sharded = true then t else { t with vpcNat := t.vpcNat.erase e.1 } := by
  unfold retireNAT
  split
  · rename_i hwanted
    split
    · rename_i hsharded
      rw [if_pos ⟨hwanted, hsharded⟩]
    rename_i hsharded
    rw [if_neg fun hc => hsharded hc.2]
    rfl
  · rename_i hwanted
    rw [if_neg fun hc => hwanted hc.1]
    refine delVPCNAT_other fun ip _ hip => hwanted ?_
    rw [ht.1] at hip
    obtain ⟨-, id, hid, -⟩ := hj.networks ip e.1 hip
    exact mem_iff_lookup.mpr ⟨_, hid⟩

theorem mem_identityKeys {k : Addr} (h : k ∈ identityKeys P id) :
    (id.v4 ≠ "" ∧ optAddr128 P id.v4 = some k) ∨ (id.v6 ≠ "" ∧ optAddr128 P id.v6 = some k) := by
  obtain ⟨s, hs, hk⟩ := List.mem_filterMap.mp h
  obtain ⟨hmem, hne⟩ := List.mem_filter.mp hs
  have hne' : s ≠ "" := by simpa using hne
  have hopt : optAddr128 P s = some k := (if_neg hne').trans hk
  rcases List.mem_cons.mp hmem with rfl | hmem
  · exact .inl ⟨hne', hopt⟩
  · obtain rfl := List.mem_singleton.mp hmem
    exact .inr ⟨hne', hopt⟩

theorem putNatOf_reverse (ht : Reverse w t) (on : Bool) (ip : Addr) (n : U32)
    (h : on = true → w.networks.lookup ip = some n) :
    Reverse w (putNatOf t on ip n) ∧ (putNatOf t on ip n).vpcNat = t.vpcNat := by
  cases on with
  | false => exact ⟨ht, rfl⟩
  | true =>
    refine ⟨⟨fun k => ?_, ht.2⟩, rfl⟩
    by_cases hk : k = ip
    · subst hk
      exact (AList.lookup_insert _).trans (h rfl).symm
    · exact (AList.lookup_insert_ne hk).trans (ht.1 k)

theorem optAddr128_wanted {ip : Addr} (h : HasAddress P nodes n address w)
    (hopt : optAddr128 P address = some ip) (hne : address ≠ "") : w.networks.lookup ip = some n := by
  obtain ⟨raw, hraw, hnet, -⟩ := h hne
  unfold optAddr128 at hopt
  rw [if_neg hne, hraw] at hopt
  cases hopt
  exact hnet

theorem optAddr128_some (h : HasAddress P nodes n address w) :
    ∃ ip, optAddr128 P address = some ip := by
  unfold optAddr128
  by_cases hne : address = ""
  · exact ⟨_, if_pos hne⟩
  · obtain ⟨raw, hraw, -⟩ := h hne
    exact ⟨addr128 raw, by rw [if_neg hne, hraw]; rfl⟩

theorem setVPCNAT_eq (hj : Justified P ids nodes w) (ht : Reverse w t) (hid : ids.lookup n = some id)
    (hhas : HasIdentity P nodes ⟨n, id⟩ w) {ip4 ip6 : Addr} (h4 : optAddr128 P id.v4 = some ip4)
    (h6 : optAddr128 P id.v6 = some ip6) (base span : U32) :
    Reverse w (setVPCNAT P t n id base span).1 ∧
      (setVPCNAT P t n id base span).1.vpcNat = t.vpcNat.insert n ⟨ip4, ip6, base, span⟩ := by
  unfold setVPCNAT
  rw [h4, h6]
  simp only []
  have ht₁ := putNatOf_reverse ht (decide (id.v4 ≠ "")) ip4 n fun hon =>
    optAddr128_wanted hhas.1 h4 (of_decide_eq_true hon)
  have ht₂ := putNatOf_reverse ht₁.1 (decide (id.v6 ≠ "")) ip6 n fun hon =>
    optAddr128_wanted hhas.2 h6 (of_decide_eq_true hon)
  generalize putNatOf (putNatOf t (decide (id.v4 ≠ "")) ip4 n) (decide (id.v6 ≠ "")) ip6 n = t₂
    at ht₂
  have hrow : t₂.vpcNat = t.vpcNat := ht₂.2.trans ht₁.2
  -- an address the identity no longer has is not this network's in the wanted map
  have hold : ∀ old, old ≠ ip4 → old ≠ ip6 → w.networks.lookup old ≠ some n := by
    intro old hne4 hne6 hnet
    obtain ⟨-, id', hid', hkey⟩ := hj.networks old n hnet
    rw [hid] at hid'
    cases hid'
    rcases mem_identityKeys hkey with ⟨-, hk⟩ | ⟨-, hk⟩
    · rw [h4] at hk
      exact hne4 (Option.some.inj hk).symm
    · rw [h6] at hk
      exact hne6 (Option.some.inj hk).symm
  have hstep : ∀ old, (if old ≠ 0#128 ∧ old ≠ ip4 ∧ old ≠ ip6 then
      delNATReverseOwner { t₂ with vpcNat := t₂.vpcNat.insert n ⟨ip4, ip6, base, span⟩ } old n
      else { t₂ with vpcNat := t₂.vpcNat.insert n ⟨ip4, ip6, base, span⟩ }) =
        { t₂ with vpcNat := t₂.vpcNat.insert n ⟨ip4, ip6, base, span⟩ } := by
    intro old
    split
    · rename_i hne
      refine delNATReverseOwner_other fun hnet => hold old hne.2.1 hne.2.2 ?_
      exact (ht₂.1.1 old).symm.trans hnet
    · rfl
  simp only [List.foldl_cons, List.foldl_nil, hstep]
  exact ⟨ht₂.1, by rw [hrow]⟩

/-- The identities are retired one by one: induction on those found. -/
theorem retire_all (hj : Justified P ids nodes w) (sharded : Bool)
    (es : List (Sigma fun _ : U32 => VpcNat)) (ht : Reverse w t) :
    Reverse w (es.foldl (retireNAT ids sharded) t) ∧
      ∀ n, (n ∉ ids ∨ sharded = false) → (t.vpcNat.lookup n = none ∨ ∃ e ∈ es, e.1 = n) →
        (es.foldl (retireNAT ids sharded) t).vpcNat.lookup n = none := by
  induction es generalizing t with
  | nil =>
    refine ⟨ht, fun n _ hn => ?_⟩
    rcases hn with hnone | ⟨e, he, -⟩
    · exact hnone
    · nomatch he
  | cons e es ih =>
    rw [List.foldl_cons, retireNAT_eq hj ht]
    split
    · rename_i hkeep
      refine ⟨(ih ht).1, fun n hgone hn => (ih ht).2 n hgone ?_⟩
      rcases hn with hnone | ⟨e', he', rfl⟩
      · exact .inl hnone
      rcases List.mem_cons.mp he' with rfl | hin
      · rcases hgone with hnot | hfalse
        · exact absurd hkeep.1 hnot
        · nomatch hkeep.2.symm.trans hfalse
      · exact .inr ⟨e', hin, rfl⟩
    · have ht' : Reverse w { t with vpcNat := t.vpcNat.erase e.1 } := ht
      refine ⟨(ih ht').1, fun n hgone hn => (ih ht').2 n hgone ?_⟩
      rcases hn with hnone | ⟨e', he', rfl⟩
      · rw [Option.eq_none_iff_forall_ne_some]
        exact .inl fun v hv => nomatch hnone.symm.trans (lookup_erase_some.mp hv).2
      rcases List.mem_cons.mp he' with rfl | hin
      · exact .inl (AList.lookup_erase _ _)
      · exact .inr ⟨e', hin, rfl⟩

/-- The row of an identity on a node with that range. -/
def vpcNatRow (P : Platform) (id : NATIdentity) (base span : U32) : VpcNat :=
  ⟨(optAddr128 P id.v4).getD 0#128, (optAddr128 P id.v6).getD 0#128, base, span⟩

theorem publish_all (hj : Justified P ids nodes w)
    (hhas : ∀ n id, ids.lookup n = some id → HasIdentity P nodes ⟨n, id⟩ w) {shard : Int}
    {base span : U32} (hshard : natShardFor shard = some (base, span))
    (es : List (Sigma fun _ : U32 => NATIdentity)) (hes : ∀ e ∈ es, ids.lookup e.1 = some e.2)
    (ht : Reverse w t) :
    Reverse w (es.foldl (publishNAT P shard) t) ∧
      (∀ n id, ids.lookup n = some id →
        (t.vpcNat.lookup n = some (vpcNatRow P id base span) ∨ ∃ e ∈ es, e.1 = n) →
        (es.foldl (publishNAT P shard) t).vpcNat.lookup n = some (vpcNatRow P id base span)) ∧
      ∀ n, n ∉ ids → (es.foldl (publishNAT P shard) t).vpcNat.lookup n = t.vpcNat.lookup n := by
  induction es generalizing t with
  | nil =>
    refine ⟨ht, fun n id _ hn => ?_, fun _ _ => rfl⟩
    rcases hn with hrow | ⟨e, he, -⟩
    · exact hrow
    · nomatch he
  | cons e es ih =>
    have hid : ids.lookup e.1 = some e.2 := hes e (.head _)
    have hone : HasIdentity P nodes ⟨e.1, e.2⟩ w := hhas e.1 e.2 hid
    obtain ⟨ip4, h4⟩ := optAddr128_some hone.1
    obtain ⟨ip6, h6⟩ := optAddr128_some hone.2
    have hset := setVPCNAT_eq hj ht hid hone h4 h6 base span
    have hpub : publishNAT P shard t e = (setVPCNAT P t e.1 e.2 base span).1 := by
      unfold publishNAT
      rw [hshard]
    have hrow : vpcNatRow P e.2 base span = ⟨ip4, ip6, base, span⟩ := by
      unfold vpcNatRow
      rw [h4, h6]
      rfl
    rw [List.foldl_cons, hpub]
    obtain ⟨hrev, hrows, hothers⟩ := ih (fun e' he' => hes e' (List.mem_cons_of_mem e he')) hset.1
    refine ⟨hrev, fun n id hn hwhere => hrows n id hn ?_, fun n hn => ?_⟩
    · rw [hset.2]
      have hown : n = e.1 → ⟨ip4, ip6, base, span⟩ = vpcNatRow P id base span := by
        rintro rfl
        rw [← hrow, Option.some.inj (hid.symm.trans hn)]
      rcases hwhere with hold | ⟨e', he', rfl⟩
      · exact .inl (lookup_insert_stays hold hown)
      rcases List.mem_cons.mp he' with rfl | hin
      · exact .inl ((AList.lookup_insert _).trans (congrArg some (hown rfl)))
      · exact .inr ⟨e', hin, rfl⟩
    · rw [hothers n hn, hset.2]
      refine AList.lookup_insert_ne fun hne => hn ?_
      rw [hne]
      exact mem_iff_lookup.mpr ⟨_, hid⟩

/-- **A RESYNC** leaves the wanted reverse rows and the VPCs' rows with this node's range, or none
    without a shard. -/
theorem resyncNAT_spec {t' : NatTables} {order : List String} {self : String} {selfIP : Option Addr}
    {nodeIPs : String → Option Addr} (h : resyncNAT P t ids order self selfIP nodeIPs = (t', none)) :
    ∃ w, wantNATReverse P ids (shardNodes order self selfIP nodeIPs) = .ok w ∧ Reverse w t' ∧
      ∀ n, t'.vpcNat.lookup n = match natShardFor (indexOf order self), ids.lookup n with
        | some (base, span), some id => some (vpcNatRow P id base span)
        | _, _ => none := by
  unfold resyncNAT at h
  cases hsync : syncNATReverse P t ids (shardNodes order self selfIP nodeIPs) with
  | mk t₁ err =>
  rw [hsync] at h
  cases err with
  | some e => nomatch (Prod.mk.inj h).2
  | none =>
  obtain rfl := (Prod.mk.inj h).1
  obtain ⟨w, hw, hrev⟩ := syncNATReverse_ok hsync
  obtain ⟨hj, hhas⟩ := wantNATReverse_ok hw
  have hrows : t₁.vpcNat = t.vpcNat := by
    have hone : (syncNATReverse P t ids (shardNodes order self selfIP nodeIPs)).1.vpcNat =
        t.vpcNat := by
      unfold syncNATReverse
      rw [hw]
    rw [hsync] at hone
    exact hone
  -- every row there was is met by the loop that retires
  have hmet : ∀ n, t₁.vpcNat.lookup n = none ∨ ∃ e ∈ t.vpcNat.entries, e.1 = n := by
    intro n
    rw [hrows]
    cases hn : t.vpcNat.lookup n with
    | none => exact .inl rfl
    | some v => exact .inr ⟨⟨n, v⟩, AList.mem_lookup_iff.mp hn, rfl⟩
  cases hshard : natShardFor (indexOf order self) with
  | none =>
    obtain ⟨hrev₂, hgone⟩ := retire_all hj false t.vpcNat.entries hrev
    have hpub : ∀ es, ∀ t₂ : NatTables,
        List.foldl (publishNAT P (indexOf order self)) t₂ es = t₂ := by
      intro es
      induction es with
      | nil => exact fun _ => rfl
      | cons e es ih =>
        intro t₂
        rw [List.foldl_cons, ih]
        unfold publishNAT
        rw [hshard]
    rw [hpub]
    exact ⟨w, hw, hrev₂, fun n => hgone n (.inr rfl) (hmet n)⟩
  | some range =>
    obtain ⟨hrev₂, hgone⟩ := retire_all hj true t.vpcNat.entries hrev
    obtain ⟨hrev₃, hset, hother⟩ := publish_all hj hhas hshard ids.entries
      (fun e he => AList.mem_lookup_iff.mpr he) hrev₂
    refine ⟨w, hw, hrev₃, fun n => ?_⟩
    cases hid : ids.lookup n with
    | none =>
      have hn : n ∉ ids := AList.lookup_eq_none.mp hid
      exact (hother n hn).trans (hgone n (.inl hn) (hmet n))
    | some id => exact hset n id hid (.inr ⟨⟨n, id⟩, AList.mem_lookup_iff.mp hid, rfl⟩)

end CozyShard
