import Cozyplane.FamilyMixProofs
import Cozyplane.PeerLinkProofs
import Cozyplane.SharedMapProofs

/-!
# Scoped address resolution — own networks and peers in one map

The map `networks` holds, in the scope of each VPC, its own CIDRs and those of its peers. Two
resyncs write it, one for each kind of row, and each compiles the rows of ALL VPCs and applies them
all or not at all.
-/

namespace CozyNetworkSync

open PrefixTable KernelMap RangePolicy SharedMap Accumulate
open CozyPacket CozyMaps CozyDatapath CozyCidr CozyCidrOverlap CozyFamilyMix CozyPeerLink
open CozyRoutes (lpmKey lpmKey_ok)
open CozyBoundaryCompile (VPCRef validVNI validVNI_iff vniOf)

abbrev Networks := KMap (RowKey (32 + 128)) U32

abbrev NetworkOp := Op (RowKey (32 + 128)) U32

section

variable (X : CozyPeerLink.Texts)

/-- `key.ScopeNet`. -/
def scopeNet (k : RowKey (32 + 128)) : U32 := k.key.extractLsb' 128 32

def ownRow (k : RowKey (32 + 128)) (net : U32) : Bool := scopeNet k == net

def networksEntries : Nat := 1024

def networkInputs : Nat := 65536

/-- One entry of the desired rows. -/
def wantNetwork (own : Bool) (entry : PeerNet) (want : Networks) : Except String Networks :=
  if (entry.scope == entry.net) != own then .error "network entry belongs to the other partition"
  else if 64 < entry.cidr.utf8ByteSize then .error "network CIDR exceeds text budget"
  else
    match lpmKey (texts X.parseAddr) entry.scope entry.cidr with
    | .error _ => .error "invalid network CIDR"
    | .ok key =>
      if (want.lookup key).any (· != entry.net) then .error "conflicting scoped network destinations"
      else putDesired networksEntries want key entry.net

def wantNetworks (own : Bool) (desired : List PeerNet) : Except String Networks :=
  if networkInputs < desired.length then .error "network snapshot exceeds input work budget"
  else forEach desired (wantNetwork X own) ∅

/-- `syncNetworkPartition`, where no kernel operation fails. -/
def syncNetworkPartition (m : Networks) (desired : List PeerNet) (own : Bool) :
    Except String Networks :=
  match wantNetworks X own desired with
  | .error e => .error e
  | .ok want =>
    if collides ownRow own m want then .error "network entry collides with the other partition"
    else if exceeds ownRow networksEntries own m want then
      .error "network partitions exceed shared map capacity"
    else .ok (written ownRow own m want)

def maxOwnNetworkInputs : Nat := 65536

/-- What `compileOwnNetworks` has spent and collected. -/
structure OwnState where
  work : Nat
  desired : List PeerNet

/-- The VPC is passed over without charge. -/
def skipped (v : VPC) : Bool :=
  v.deleting || decide (v.vni ≤ 0) || decide (4194304 ≤ v.vni) ||
    decide (maxVPCCIDRs < v.cidrs.length)

def ownNets (v : VPC) : List PeerNet :=
  v.cidrs.map fun cidr => ⟨BitVec.ofInt 32 v.vni, cidr, BitVec.ofInt 32 v.vni⟩

def ownStep : Option VPC → OwnState → Except String OwnState
  | none, st => .ok st
  | some v, st =>
    if skipped v then .ok st
    else if maxOwnNetworkInputs - st.work < v.cidrs.length then
      .error "own network snapshot exceeds input work budget"
    else if (validateVPCCIDRs X.parseAddr v.cidrs).isOk then
      .ok ⟨st.work + v.cidrs.length, st.desired ++ ownNets v⟩
    else .ok ⟨st.work + v.cidrs.length, st.desired⟩

/-- `compileOwnNetworks`, where the context is not cancelled. -/
def compileOwnNetworks (vpcs : List (Option VPC)) : Except String (List PeerNet) :=
  if maxOwnNetworkInputs < vpcs.length then .error "own network snapshot exceeds object budget"
  else
    match forEach vpcs (ownStep X) ⟨vpcs.length, []⟩ with
    | .error e => .error e
    | .ok st => .ok st.desired

def resyncOwn (vpcs : List (Option VPC)) (m : Networks) : Networks :=
  match compileOwnNetworks X vpcs with
  | .error _ => m
  | .ok desired =>
    match syncNetworkPartition X m desired true with
    | .error _ => m
    | .ok m' => m'

/-- The peering resync; it reruns the other one. -/
def resyncPeerings (vpcs : List (Option VPC)) (links : List PeerLink) (m : Networks) : Networks :=
  match syncNetworkPartition X m (desiredPeerNetworks links) false with
  | .error _ => m
  | .ok m' => resyncOwn X vpcs m'

/-- Both, the own networks first. -/
def resync (vpcs : List (Option VPC)) (links : List PeerLink) (m : Networks) : Networks :=
  resyncPeerings X vpcs links (resyncOwn X vpcs m)

end

variable {X : CozyPeerLink.Texts}

-- ── the wanted rows

def keyOf (X : CozyPeerLink.Texts) (n : PeerNet) : Option (RowKey (32 + 128)) :=
  (lpmKey (texts X.parseAddr) n.scope n.cidr).toOption

variable {links : List PeerLink} {desired : List PeerNet} {own : Bool} {m : Networks} {n : PeerNet}
  {want : Networks} {k : RowKey (32 + 128)}

theorem keyOf_eq :
    keyOf X n = some k ↔ lpmKey (texts X.parseAddr) n.scope n.cidr = .ok k := by
  unfold keyOf
  cases lpmKey (texts X.parseAddr) n.scope n.cidr with
  | error e => exact ⟨(nomatch ·), (nomatch ·)⟩
  | ok j => exact ⟨fun h => congrArg _ (Option.some.inj h), fun h => congrArg _ (Except.ok.inj h)⟩

def rowKeys (X : CozyPeerLink.Texts) (desired : List PeerNet) : List (RowKey (32 + 128)) :=
  (desired.filterMap (keyOf X)).dedup

theorem mem_rowKeys :
    k ∈ rowKeys X desired ↔ ∃ n ∈ desired, keyOf X n = some k := by
  unfold rowKeys
  rw [List.mem_dedup, List.mem_filterMap]

/-- Entries a partition takes: of its kind, with a CIDR, and one destination for a key. -/
structure Acceptable (X : CozyPeerLink.Texts) (own : Bool) (desired : List PeerNet) : Prop where
  budget : desired.length ≤ networkInputs
  side : ∀ n ∈ desired, (n.scope == n.net) = own
  bytes : ∀ n ∈ desired, n.cidr.utf8ByteSize ≤ 64
  parses : ∀ n ∈ desired, ∃ k, keyOf X n = some k
  single : ∀ n ∈ desired, ∀ n' ∈ desired, ∀ k, keyOf X n = some k → keyOf X n' = some k →
    n.net = n'.net

/-- The map holds the rows of the entries. -/
def Collects (X : CozyPeerLink.Texts) (desired : List PeerNet) (want : Networks) : Prop :=
  ∀ k v, want.lookup k = some v ↔ ∃ n ∈ desired, keyOf X n = some k ∧ n.net = v

/-- Every row of the map is an entry's. -/
def Sound (X : CozyPeerLink.Texts) (desired : List PeerNet) (want : Networks) : Prop :=
  ∀ k v, want.lookup k = some v → ∃ n ∈ desired, keyOf X n = some k ∧ n.net = v

theorem Sound.keys (h : Sound X desired want) :
    ∀ k ∈ want.keys, k ∈ rowKeys X desired := by
  intro k hk
  obtain ⟨v, hv⟩ := mem_iff_lookup.mp hk
  obtain ⟨n, hn, hkey, -⟩ := h k v hv
  exact mem_rowKeys.mpr ⟨n, hn, hkey⟩

theorem Sound.length (h : Sound X desired want) :
    want.keys.length ≤ (rowKeys X desired).length :=
  (List.subperm_of_subset want.keys_nodup h.keys).length_le

theorem Sound.insert (h : Sound X desired want) (hn : n ∈ desired) (hk : keyOf X n = some k) :
    Sound X desired (want.insert k n.net) := by
  intro j v hj
  rcases lookup_insert_some.mp hj with ⟨rfl, hv⟩ | ⟨-, hj⟩
  · exact ⟨n, hn, hk, hv⟩
  · exact h j v hj

theorem wantNetwork_some {want' : Networks} (h : wantNetwork X own n want = .ok want') :
    (n.scope == n.net) = own ∧ ∃ k, keyOf X n = some k ∧ want' = want.insert k n.net ∧
      ∀ v, want.lookup k = some v → v = n.net := by
  unfold wantNetwork at h
  split at h
  · nomatch h
  next hside =>
  split at h
  · nomatch h
  split at h
  · nomatch h
  next k hk =>
  split at h
  · nomatch h
  next hsame =>
  refine ⟨of_not_not fun hne => hside (bne_iff_ne.mpr hne), k, keyOf_eq.mpr hk, putDesired_ok h, ?_⟩
  intro v hv
  rw [hv] at hsame
  exact of_not_not fun hne => hsame (bne_iff_ne.mpr hne)

/-- **THE WANTED ROWS** of a list of entries that is taken. -/
theorem wantNetworks_some (h : wantNetworks X own desired = .ok want) :
    Collects X desired want ∧ ∀ n ∈ desired, (n.scope == n.net) = own := by
  unfold wantNetworks at h
  split at h
  · nomatch h
  -- Rows stay as they were put.
  obtain ⟨hsound, -, hall⟩ := @forEach_establishes _ _ _ desired (wantNetwork X own) (Sound X desired)
    (fun s s' => ∀ k v, s.lookup k = some v → s'.lookup k = some v)
    (fun n s => (n.scope == n.net) = own ∧ ∀ k, keyOf X n = some k → s.lookup k = some n.net)
    (fun s k v hk => hk) (fun a b c hab hbc k v hk => hbc k v (hab k v hk))
    (fun n s s' hle hp => ⟨hp.1, fun k hk => hle k _ (hp.2 k hk)⟩)
    (fun n hn s s' hs hstep => by
      obtain ⟨hside, k, hk, rfl, hsame⟩ := wantNetwork_some hstep
      refine ⟨hs.insert hn hk, fun j v hj => lookup_insert_stays hj ?_, hside, fun j hj => ?_⟩
      · rintro rfl
        exact (hsame v hj).symm
      · cases hk.symm.trans hj
        exact AList.lookup_insert s)
    ∅ want (fun k v hk => nomatch hk) h
  refine ⟨fun k v => ⟨hsound k v, ?_⟩, fun n hn => (hall n hn).1⟩
  rintro ⟨n, hn, hk, rfl⟩
  exact (hall n hn).2 k hk

theorem wantNetwork_ok (h : Acceptable X own desired)
    (hroom : (rowKeys X desired).length ≤ networksEntries) (hn : n ∈ desired)
    (hs : Sound X desired want) :
    ∃ want', wantNetwork X own n want = .ok want' ∧ Sound X desired want' := by
  obtain ⟨k, hk⟩ := h.parses n hn
  have hany : (want.lookup k).any (· != n.net) = false := by
    cases hv : want.lookup k with
    | none => rfl
    | some v =>
      obtain ⟨n', hn', hk', rfl⟩ := hs k v hv
      rw [h.single n' hn' n hn k hk' hk]
      exact bne_self_eq_false n.net
  have hput : putDesired networksEntries want k n.net = .ok (want.insert k n.net) := by
    refine if_neg ?_
    rintro ⟨hnew, hfull⟩
    -- A new key and all present ones are among the row keys.
    have hsub : (k :: want.keys).Subperm (rowKeys X desired) := by
      refine List.subperm_of_subset (List.nodup_cons.mpr ⟨hnew, want.keys_nodup⟩) ?_
      intro j hj
      rcases List.mem_cons.mp hj with rfl | hj
      · exact mem_rowKeys.mpr ⟨n, hn, hk⟩
      · exact hs.keys j hj
    have hlen := hsub.length_le
    rw [List.length_cons] at hlen
    omega
  refine ⟨want.insert k n.net, ?_, hs.insert hn hk⟩
  unfold wantNetwork
  rw [h.side n hn, bne_self_eq_false, if_neg Bool.false_ne_true,
    if_neg (Nat.not_lt.mpr (h.bytes n hn)), keyOf_eq.mp hk]
  show (if (want.lookup k).any (· != n.net) = true then _ else _) = _
  rw [hany, if_neg Bool.false_ne_true, hput]

theorem wantNetworks_ok (h : Acceptable X own desired)
    (hroom : (rowKeys X desired).length ≤ networksEntries) :
    ∃ want, wantNetworks X own desired = .ok want ∧ Collects X desired want := by
  obtain ⟨want, hwant, -⟩ := forEach_succeeds (fun n hn _ hs => wantNetwork_ok h hroom hn hs) ∅
    (fun k v hk => nomatch hk)
  have hok : wantNetworks X own desired = .ok want := by
    unfold wantNetworks
    rw [if_neg (Nat.not_lt.mpr h.budget), hwant]
  exact ⟨want, hok, (wantNetworks_some hok).1⟩

/-- What a VPC costs the compilation. -/
def charge : Option VPC → Nat
  | none => 0
  | some v => if skipped v then 0 else v.cidrs.length

def owned (X : CozyPeerLink.Texts) (v : VPC) : Bool :=
  !skipped v && (validateVPCCIDRs X.parseAddr v.cidrs).isOk

def ownNetworks (X : CozyPeerLink.Texts) (vpcs : List (Option VPC)) : List PeerNet :=
  vpcs.flatMap fun o => match o with
    | none => []
    | some v => if owned X v then ownNets v else []

theorem ownNetworks_cons (o : Option VPC) (vpcs : List (Option VPC)) :
    ownNetworks X (o :: vpcs) = ownNetworks X [o] ++ ownNetworks X vpcs := by
  unfold ownNetworks
  rw [List.flatMap_cons, List.flatMap_singleton]

theorem ownStep_ok (o : Option VPC) {st : OwnState} (h : st.work + charge o ≤ maxOwnNetworkInputs) :
    ownStep X o st = .ok ⟨st.work + charge o, st.desired ++ ownNetworks X [o]⟩ := by
  cases o with
  | none =>
    show Except.ok st = .ok ⟨st.work + 0, st.desired ++ []⟩
    rw [Nat.add_zero, List.append_nil]
  | some v =>
    have hnets : ownNetworks X [some v] = if owned X v then ownNets v else [] :=
      List.flatMap_singleton _ _
    rw [hnets]
    unfold ownStep owned
    unfold charge at h ⊢
    cases hskip : skipped v with
    | true =>
      simp only [hskip, Bool.not_true, Bool.false_and, Bool.false_eq_true, if_false, if_true,
        Nat.add_zero, List.append_nil]
    | false =>
      simp only [hskip, Bool.false_eq_true, if_false] at h
      have hpaid : ¬ maxOwnNetworkInputs - st.work < v.cidrs.length := by omega
      cases hvalid : (validateVPCCIDRs X.parseAddr v.cidrs).isOk with
      | true =>
        simp only [hskip, hvalid, Bool.not_false, Bool.true_and, Bool.false_eq_true, if_false,
          if_true, if_neg hpaid]
      | false =>
        simp only [hskip, hvalid, Bool.not_false, Bool.and_false, Bool.false_eq_true, if_false,
          if_neg hpaid, List.append_nil]

variable {vpcs : List (Option VPC)}

/-- **THE OWN ROWS**, within the work budget. Induction on the VPCs that are left. -/
theorem compileOwnNetworks_ok (h : vpcs.length + (vpcs.map charge).sum ≤ maxOwnNetworkInputs) :
    compileOwnNetworks X vpcs = .ok (ownNetworks X vpcs) := by
  have hrun : ∀ (rest : List (Option VPC)) (st : OwnState),
      st.work + (rest.map charge).sum ≤ maxOwnNetworkInputs →
      forEach rest (ownStep X) st =
        .ok ⟨st.work + (rest.map charge).sum, st.desired ++ ownNetworks X rest⟩ := by
    intro rest
    induction rest with
    | nil =>
      intro st _
      show Except.ok st = .ok ⟨st.work + 0, st.desired ++ []⟩
      rw [Nat.add_zero, List.append_nil]
    | cons o rest ih =>
      intro st hst
      rw [List.map_cons, List.sum_cons] at hst ⊢
      unfold forEach
      rw [ownStep_ok o (by omega)]
      show forEach rest (ownStep X) _ = _
      rw [ih _ (by show st.work + charge o + _ ≤ _; omega)]
      rw [ownNetworks_cons o rest, Nat.add_assoc, List.append_assoc]
  unfold compileOwnNetworks
  rw [if_neg (by omega), hrun vpcs ⟨vpcs.length, []⟩ h]
  rfl

theorem mem_ownNetworks :
    n ∈ ownNetworks X vpcs ↔ ∃ v, some v ∈ vpcs ∧ owned X v = true ∧ ∃ cidr ∈ v.cidrs,
      n = ⟨BitVec.ofInt 32 v.vni, cidr, BitVec.ofInt 32 v.vni⟩ := by
  unfold ownNetworks
  rw [List.mem_flatMap]
  constructor
  · rintro ⟨o, ho, hn⟩
    cases o with
    | none => nomatch hn
    | some v =>
      by_cases hown : owned X v = true
      · simp only [if_pos hown] at hn
        obtain ⟨cidr, hc, rfl⟩ := List.mem_map.mp hn
        exact ⟨v, ho, hown, cidr, hc, rfl⟩
      · simp only [if_neg hown] at hn
        nomatch hn
  · rintro ⟨v, hv, hown, cidr, hc, rfl⟩
    refine ⟨some v, hv, ?_⟩
    simp only [if_pos hown]
    exact List.mem_map_of_mem hc

theorem syncNetworkPartition_eq (h : wantNetworks X own desired = .ok want) :
    (∃ e, fits ownRow networksEntries own m want = false ∧
      syncNetworkPartition X m desired own = .error e) ∨
    fits ownRow networksEntries own m want = true ∧
      syncNetworkPartition X m desired own = .ok (written ownRow own m want) := by
  unfold syncNetworkPartition fits
  rw [h]
  dsimp only
  cases collides ownRow own m want with
  | true => exact .inl ⟨_, rfl, rfl⟩
  | false =>
    cases exceeds ownRow networksEntries own m want with
    | true => exact .inl ⟨_, rfl, rfl⟩
    | false => exact .inr ⟨rfl, rfl⟩

theorem resync_eq {wantA wantB : Networks}
    (hbudget : vpcs.length + (vpcs.map charge).sum ≤ maxOwnNetworkInputs)
    (hA : wantNetworks X true (ownNetworks X vpcs) = .ok wantA)
    (hB : wantNetworks X false (desiredPeerNetworks links) = .ok wantB) :
    resync X vpcs links m = settle ownRow networksEntries m wantA wantB := by
  have hown : ∀ m, resyncOwn X vpcs m = attempt ownRow networksEntries true m wantA := by
    intro m
    unfold resyncOwn attempt
    rw [compileOwnNetworks_ok hbudget]
    dsimp only
    rcases syncNetworkPartition_eq (m := m) hA with ⟨e, hfits, hsync⟩ | ⟨hfits, hsync⟩
    · rw [hsync, hfits]
      rfl
    · rw [hsync, hfits]
      rfl
  unfold resync resyncPeerings settle
  rw [hown]
  dsimp only
  rcases syncNetworkPartition_eq (m := attempt ownRow networksEntries true m wantA) hB with
    ⟨e, hfits, hsync⟩ | ⟨hfits, hsync⟩
  · rw [hsync, hfits]
    rfl
  · rw [hsync, hfits]
    exact hown _

theorem scopeNet_append (scope : U32) (a : Addr) (n : Nat) : scopeNet ⟨n, scope ++ a⟩ = scope := by
  unfold scopeNet
  ext i hi
  rw [BitVec.getElem_extractLsb', BitVec.getLsbD_append]
  simp
  rfl

theorem Collects.ownRows (h : Collects X desired want) (hside : ∀ n ∈ desired, (n.scope == n.net) = own) :
    OwnRows ownRow own want := by
  intro k v hk
  obtain ⟨n, hn, hkey, rfl⟩ := (h k v).mp hk
  obtain ⟨c, -, rfl⟩ := lpmKey_ok _ (keyOf_eq.mp hkey)
  show (scopeNet _ == n.net) = own
  rw [scopeNet_append]
  exact hside n hn

theorem Collects.length (h : Collects X desired want) :
    want.keys.length ≤ (rowKeys X desired).length :=
  Sound.length fun k v hk => (h k v).mp hk

theorem Collects.mem (h : Collects X desired want) : k ∈ want ↔ ∃ n ∈ desired, keyOf X n = some k := by
  rw [mem_iff_lookup]
  constructor
  · rintro ⟨v, hv⟩
    obtain ⟨n, hn, hk, -⟩ := (h k v).mp hv
    exact ⟨n, hn, hk⟩
  · rintro ⟨n, hn, hk⟩
    exact ⟨n.net, (h k n.net).mpr ⟨n, hn, hk, rfl⟩⟩

/-- A call of `syncNetworkPartition`. -/
structure Call where
  own : Bool
  desired : List PeerNet

/-- The call gets past its checks, to operations in some order of the two iterations. -/
def Call.Plans (X : CozyPeerLink.Texts) (c : Call) (m : Networks) (ops : List NetworkOp) : Prop :=
  ∃ want, wantNetworks X c.own c.desired = .ok want ∧ fits ownRow networksEntries c.own m want = true ∧
    Shares ownRow c.own m want ops

/-- The operations of a call, and its answer. One that fails has no effect and is the last. -/
inductive Call.Does (X : CozyPeerLink.Texts) (c : Call) (m : Networks) :
    List NetworkOp → Except String Unit → Prop
  | refused {e : String} (h : syncNetworkPartition X m c.desired c.own = .error e) :
      Does X c m [] (.error e)
  | unread (e : String) : Does X c m [] (.error ("iterate networks: " ++ e))
  | stopped {ops rest : List NetworkOp} {o : NetworkOp} (h : c.Plans X m (ops ++ o :: rest)) (e : String) :
      Does X c m ops (.error ((match o with
        | .del _ => "delete stale network: "
        | .put .. => "put network entry: ") ++ e))
  | finished {ops : List NetworkOp} (h : c.Plans X m ops) : Does X c m ops (.ok ())

variable {c : Call} {ops : List NetworkOp} {r : Except String Unit}

theorem Call.Plans.ok (h : c.Plans X m ops) :
    ∃ m', syncNetworkPartition X m c.desired c.own = .ok m' := by
  obtain ⟨want, hwant, hfits, -⟩ := h
  rcases syncNetworkPartition_eq hwant with ⟨e, hnot, -⟩ | ⟨-, hok⟩
  · nomatch hfits.symm.trans hnot
  · exact ⟨_, hok⟩

theorem Call.Does.planned (h : c.Does X m ops r) :
    (ops = [] ∧ r ≠ .ok ()) ∨
      ∃ all i, c.Plans X m all ∧ ops = all.take i ∧ (r = .ok () → ops = all) := by
  cases h with
  | refused _ | unread _ => exact .inl ⟨rfl, nofun⟩
  | @stopped ops rest o h e => exact .inr ⟨_, ops.length, h, List.take_left.symm, nofun⟩
  | finished h => exact .inr ⟨_, _, h, List.take_length.symm, fun _ => rfl⟩

theorem Call.Does.point (h : c.Does X m ops r) (hm : m.keys.length ≤ networksEntries) (i : Nat) :
    (∀ k v, ownRow k v ≠ c.own →
      ((applyAll m (ops.take i)).lookup k = some v ↔ m.lookup k = some v)) ∧
    (applyAll m (ops.take i)).keys.length ≤ networksEntries := by
  rcases h.planned with ⟨rfl, -⟩ | ⟨all, j, ⟨want, hwant, hfits, hops⟩, rfl, -⟩
  · rw [List.take_nil]
    exact ⟨fun _ _ _ => Iff.rfl, hm⟩
  obtain ⟨hcollects, hside⟩ := wantNetworks_some hwant
  rw [fits, Bool.and_eq_true, Bool.not_eq_true', Bool.not_eq_true'] at hfits
  rw [List.take_take]
  exact ⟨fun k v => hops.frame (hcollects.ownRows hside) hfits.1 _, hops.length_le hfits.2 hm _⟩

/-- **THE PARTITIONS SHARE THE MAP**: wherever calls stop, none touches a row of the other partition
    or overfills the map; a successful one leaves exactly its desired rows, and a refused one
    changes nothing. -/
theorem partition_preserved (X : CozyPeerLink.Texts) {m₀ m : Networks}
    (hm : m₀.keys.length ≤ networksEntries)
    (hrun : Relation.ReflTransGen
      (fun m m' => ∃ (c : Call) (ops : _) (r : _), c.Does X m ops r ∧ m' = applyAll m ops) m₀ m)
    (h : c.Does X m ops r) :
    (∀ i, (∀ k v, ownRow k v ≠ c.own →
        ((applyAll m (ops.take i)).lookup k = some v ↔ m.lookup k = some v)) ∧
      (applyAll m (ops.take i)).keys.length ≤ networksEntries) ∧
    (r = .ok () → ∀ k v, (applyAll m ops).lookup k = some v ∧ ownRow k v = c.own ↔
      ∃ n ∈ c.desired, keyOf X n = some k ∧ n.net = v) ∧
    ((∃ e, syncNetworkPartition X m c.desired c.own = .error e) → ops = [] ∧ r ≠ .ok ()) := by
  have hcap : m.keys.length ≤ networksEntries := by
    -- Induction on the calls: the last point of a call is its end.
    clear h
    induction hrun with
    | refl => exact hm
    | tail _ hcall ih =>
      obtain ⟨c, ops, r, hdoes, rfl⟩ := hcall
      have hend := (hdoes.point ih ops.length).2
      rwa [List.take_length] at hend
  refine ⟨h.point hcap, fun hr => ?_, fun ⟨e, he⟩ => ?_⟩
  · rcases h.planned with ⟨-, hne⟩ | ⟨all, i, ⟨want, hwant, -, hops⟩, -, hall⟩
    · exact absurd hr hne
    obtain ⟨hcollects, hside⟩ := wantNetworks_some hwant
    obtain rfl := hall hr
    exact fun k v => (hops.holds (hcollects.ownRows hside) k v).trans (hcollects k v)
  · rcases h.planned with hnone | ⟨all, i, hplan, -⟩
    · exact hnone
    · obtain ⟨m', hok⟩ := hplan.ok
      nomatch he.symm.trans hok

/-- The addresses of the networks, and names of any form. -/
def rivalTexts : CozyPeerLink.Texts where
  namespaceName _ := true
  objectName _ := true
  parseAddr
    | "10.0.0.0" => some (.v4 0x0a000000#32)
    | "10.1.0.0" => some (.v4 0x0a010000#32)
    | "10.1.2.0" => some (.v4 0x0a010200#32)
    | "10.2.0.0" => some (.v4 0x0a020000#32)
    | "10.3.0.0" => some (.v4 0x0a030000#32)
    | "10.4.0.0" => some (.v4 0x0a040000#32)
    | _ => none

/-- The key of a /16 in scope 100. -/
def rivalKey (a : U32) : RowKey (32 + 128) := ⟨32 + (96 + 16), 100#32 ++ v4To128 a⟩

/-- A call for one /16 in scope 100, of its own or of a peer. -/
def oneNet (net : U32) (cidr : String) : Call := ⟨100#32 == net, [⟨100#32, cidr, net⟩]⟩

/-- What a call for 10.0.0.0/16 and a peer's for 10.1.0.0/16 leave. -/
def twoRows : Networks :=
  applyAll (applyAll ∅ [.put (rivalKey 0x0a000000#32) 100#32]) [.put (rivalKey 0x0a010000#32) 200#32]

/-- A third call, for 10.2.0.0/16 in place of 10.0.0.0/16, is cut between its deletion and its put. -/
theorem partition_preserved_cut :
    (oneNet 100#32 "10.2.0.0/16").Does rivalTexts twoRows [.del (rivalKey 0x0a000000#32)]
      (.error "put network entry: no memory") ∧
    (applyAll twoRows [.del (rivalKey 0x0a000000#32)]).lookup (rivalKey 0x0a000000#32) = none ∧
    (applyAll twoRows [.del (rivalKey 0x0a000000#32)]).lookup (rivalKey 0x0a010000#32) = some 200#32 ∧
    (applyAll twoRows [.del (rivalKey 0x0a000000#32)]).keys.length ≤ networksEntries := by
  have hown : (oneNet 100#32 "10.0.0.0/16").Does rivalTexts ∅ _ (.ok ()) :=
    .finished ⟨_, rfl, by decide +kernel, [], [⟨rivalKey 0x0a000000#32, 100#32⟩], rfl,
      by decide +kernel, by decide +kernel⟩
  have hpeer : (oneNet 200#32 "10.1.0.0/16").Does rivalTexts
      (applyAll ∅ [.put (rivalKey 0x0a000000#32) 100#32]) _ (.ok ()) :=
    .finished ⟨_, rfl, by decide +kernel, [], [⟨rivalKey 0x0a010000#32, 200#32⟩], rfl,
      by decide +kernel, by decide +kernel⟩
  have hcut : (oneNet 100#32 "10.2.0.0/16").Does rivalTexts twoRows [.del (rivalKey 0x0a000000#32)]
      (.error "put network entry: no memory") :=
    .stopped (o := .put (rivalKey 0x0a020000#32) 100#32)
      ⟨_, rfl, by decide +kernel, [rivalKey 0x0a000000#32], [⟨rivalKey 0x0a020000#32, 100#32⟩], rfl,
        by decide +kernel, by decide +kernel⟩ "no memory"
  have hpoint := (partition_preserved rivalTexts (show (∅ : Networks).keys.length ≤ _ by decide)
    (.tail (.single ⟨_, _, _, hown, rfl⟩) ⟨_, _, _, hpeer, rfl⟩) hcut).1 1
  exact ⟨hcut, by decide +kernel,
    (hpoint.1 (rivalKey 0x0a010000#32) 200#32 (by decide)).mpr (by decide +kernel), hpoint.2⟩

/-- The entry is of the scope and its prefix holds the address. -/
def Hits (X : CozyPeerLink.Texts) (n : PeerNet) (scope : U32) (x : Addr) : Prop :=
  n.scope = scope ∧ ∃ c, parseCIDR X.parseAddr n.cidr = some c ∧ (cidrRange c).contains x = true

theorem keyOf_cidr : keyOf X n = some k ↔
    ∃ c, parseCIDR X.parseAddr n.cidr = some c ∧
      k = ⟨32 + (cidrRange c).plen, n.scope ++ (cidrRange c).addr⟩ := by
  rw [keyOf_eq]
  constructor
  · intro h
    exact lpmKey_ok _ h
  · rintro ⟨c, hc, rfl⟩
    unfold lpmKey
    rw [show (texts X.parseAddr).parseCIDR n.cidr = some c from hc]

theorem same_key {n' : PeerNet} (h : keyOf X n = some k) (h' : keyOf X n' = some k) :
    n.scope = n'.scope ∧ ∃ x, Hits X n n.scope x ∧ Hits X n' n.scope x := by
  obtain ⟨c, hc, rfl⟩ := keyOf_cidr.mp h
  obtain ⟨d, hd, heq⟩ := keyOf_cidr.mp h'
  obtain ⟨hlen, hkey⟩ := RowKey.mk.inj heq
  obtain ⟨hscope, haddr⟩ := append_inj.mp hkey
  have hself : ∀ r : Range 128, r.contains r.addr = true := fun r => agree_refl r.le _
  refine ⟨hscope, (cidrRange c).addr, ⟨rfl, c, hc, hself _⟩, hscope.symm, d, hd, ?_⟩
  rw [haddr]
  exact hself _

theorem find_rows {nets : List PeerNet}
    (h : ∀ k v, m.lookup k = some v ↔ ∃ n ∈ nets, keyOf X n = some k ∧ n.net = v) (scope : U32)
    (x : Addr) :
    (find (mapTable m) (scope ++ x) = none → ∀ n ∈ nets, ¬ Hits X n scope x) ∧
      ∀ v, find (mapTable m) (scope ++ x) = some v → ∃ n ∈ nets, Hits X n scope x ∧ n.net = v := by
  constructor
  · rintro hnone n hn ⟨rfl, c, hc, hin⟩
    have hmiss := lookup_eq_none.mp (Option.map_eq_none_iff.mp hnone)
      ⟨32 + (cidrRange c).plen, n.scope ++ (cidrRange c).addr, n.net⟩
      (mem_mapTable.mpr ((h _ _).mpr ⟨n, hn, keyOf_cidr.mpr ⟨c, hc, rfl⟩, rfl⟩))
    have hcov : agree (32 + (cidrRange c).plen) (n.scope ++ (cidrRange c).addr) (n.scope ++ x) = true :=
      (agree_append _ _ _ _).mpr ⟨rfl, hin⟩
    exact Bool.false_ne_true (hmiss.symm.trans hcov)
  · intro v hv
    obtain ⟨e, he, rfl⟩ := Option.map_eq_some_iff.mp hv
    obtain ⟨hmem, hcov, -⟩ := lookup_spec he
    obtain ⟨n, hn, hkey, hnet⟩ := (h _ _).mp (mem_mapTable.mp hmem)
    obtain ⟨c, hc, hk⟩ := keyOf_cidr.mp hkey
    obtain ⟨hlen, haddr⟩ := RowKey.mk.inj hk
    have hcov : agree e.plen e.key (scope ++ x) = true := hcov
    rw [hlen, haddr] at hcov
    obtain ⟨hscope, hin⟩ := (agree_append _ _ _ _).mp hcov
    exact ⟨n, hn, ⟨hscope, c, hc, hin⟩, hnet⟩

variable {S : Snapshot X} {π : Type} [DecidableEq π] {deref : π → VPCPeering}
  {peerings : List (Option π)} {vpcs : List (Option VPC)} {r s : VPCRef} {v w : VPC}

theorem vniOf_eq (h : validVNI v.vni = true) : vniOf v.vni = BitVec.ofInt 32 v.vni := by
  obtain ⟨hlow, hhigh⟩ := validVNI_iff.mp h
  exact if_neg (by omega)

theorem owned_iff : owned X v = true ↔
    v.deleting = false ∧ (0 < v.vni ∧ v.vni < 4194304) ∧ validateVPCCIDRs X.parseAddr v.cidrs = .ok () := by
  unfold owned skipped
  simp only [Bool.and_eq_true, Bool.not_eq_true', Bool.or_eq_false_iff, decide_eq_false_iff_not, isOk_iff,
    not_le, and_assoc]
  refine and_congr_right fun _ => and_congr_right fun _ => and_congr_right fun _ => and_iff_right_of_imp ?_
  intro hok hmany
  unfold validateVPCCIDRs at hok
  rw [if_pos hmany] at hok
  nomatch hok

theorem owned_of_eligible (h : eligible X v = true) : owned X v = true := by
  obtain ⟨hlive, hvni, hok⟩ := eligible_iff.mp h
  obtain ⟨hlow, hhigh⟩ := validVNI_iff.mp hvni
  exact owned_iff.mpr ⟨hlive, by omega, hok⟩

theorem owned_unique (hr : S.vpc r = some v) (hs : S.vpc s = some w) (hev : eligible X v = true)
    (hown : owned X w = true) (h : BitVec.ofInt 32 w.vni = vniOf v.vni) : w = v := by
  obtain ⟨hlive, hrange, hok⟩ := owned_iff.mp hown
  obtain ⟨hlow, hhigh⟩ := validVNI_iff.mp (eligible_vni hev)
  rw [vniOf_eq (eligible_vni hev), ← BitVec.toNat_inj, BitVec.toNat_ofInt, BitVec.toNat_ofInt] at h
  have heq : w.vni = v.vni := by omega
  have hew : eligible X w = true := eligible_iff.mpr ⟨hlive, validVNI_iff.mpr (by omega), hok⟩
  obtain rfl := S.distinct hs hr hew hev heq
  exact Option.some.inj (hs.symm.trans hr)

theorem own_hits (hlist : ∀ v, some v ∈ vpcs ↔ ∃ r, S.vpc r = some v) (hr : S.vpc r = some v)
    (hev : eligible X v = true) {x : Addr} :
    (∃ n ∈ ownNetworks X vpcs, Hits X n (vniOf v.vni) x) ↔ Held X.parseAddr v.cidrs x := by
  constructor
  · rintro ⟨n, hn, hscope, c, hc, hin⟩
    obtain ⟨w, hw, hown, cidr, hcidr, rfl⟩ := mem_ownNetworks.mp hn
    obtain ⟨s, hs⟩ := (hlist w).mp hw
    obtain rfl := owned_unique hr hs hev hown hscope
    exact ⟨cidr, hcidr, c, hc, hin⟩
  · rintro ⟨cidr, hcidr, c, hc, hin⟩
    refine ⟨⟨BitVec.ofInt 32 v.vni, cidr, BitVec.ofInt 32 v.vni⟩, mem_ownNetworks.mpr
      ⟨v, (hlist v).mpr ⟨r, hr⟩, owned_of_eligible hev, cidr, hcidr, rfl⟩, ?_, c, hc, hin⟩
    exact (vniOf_eq (eligible_vni hev)).symm

theorem own_net (hn : n ∈ ownNetworks X vpcs) : n.net = n.scope := by
  obtain ⟨w, -, -, cidr, -, rfl⟩ := mem_ownNetworks.mp hn
  rfl

theorem mem_linkNetworks :
    n ∈ desiredPeerNetworks [linkOf v w] ↔
      (n.scope = vniOf v.vni ∧ n.net = vniOf w.vni ∧ n.cidr ∈ w.cidrs) ∨
        n.scope = vniOf w.vni ∧ n.net = vniOf v.vni ∧ n.cidr ∈ v.cidrs := by
  have hmem : ∀ (a b : U32) (cidrs : List String),
      n ∈ cidrs.map (fun cidr => (⟨a, cidr, b⟩ : PeerNet)) ↔
        n.scope = a ∧ n.net = b ∧ n.cidr ∈ cidrs := by
    intro a b cidrs
    rw [List.mem_map]
    constructor
    · rintro ⟨cidr, hc, rfl⟩
      exact ⟨rfl, rfl, hc⟩
    · rintro ⟨rfl, rfl, hc⟩
      exact ⟨n.cidr, hc, rfl⟩
  unfold desiredPeerNetworks
  rw [List.flatMap_singleton, List.mem_append, hmem, hmem]
  unfold linkOf
  split
  · exact Or.comm
  · exact Iff.rfl

theorem mem_desiredPeerNetworks :
    n ∈ desiredPeerNetworks links ↔ ∃ l ∈ links, n ∈ desiredPeerNetworks [l] := by
  unfold desiredPeerNetworks
  rw [List.mem_flatMap]
  simp only [List.flatMap_singleton]

/-- `w` is a peer of `v`. -/
def PeerOf (S : Snapshot X) (links : List PeerLink) (v : VPC) (s : VPCRef) (w : VPC) : Prop :=
  S.vpc s = some w ∧ eligible X w = true ∧ Linked links (vniOf v.vni) (vniOf w.vni)

def PeerEntries (S : Snapshot X) (links : List PeerLink) : Prop :=
  ∀ n, n ∈ desiredPeerNetworks links ↔ ∃ r v s w, S.vpc r = some v ∧ eligible X v = true ∧
    PeerOf S links v s w ∧ n.scope = vniOf v.vni ∧ n.net = vniOf w.vni ∧ n.cidr ∈ w.cidrs

/-- **THE PEER ENTRIES** of the links of a snapshot. -/
theorem peer_entries : PeerEntries S (desiredPeerLinks X deref S.vpc peerings) := by
  intro n
  rw [mem_desiredPeerNetworks]
  constructor
  · rintro ⟨l, hl, hn⟩
    obtain ⟨r, s, v, w, hcons, hr, hs, hlink, rfl⟩ := mem_desiredPeerLinks.mp hl
    obtain ⟨hev, hew, -⟩ := linkable_iff.mp hlink
    have hpair := linkOf_pair v w
    rcases mem_linkNetworks.mp hn with h | h
    · exact ⟨r, v, s, w, hr, hev, ⟨hs, hew, _, hl, hpair⟩, h⟩
    · exact ⟨s, w, r, v, hs, hew, ⟨hr, hev, _, hl, hpair.symm⟩, h⟩
  · rintro ⟨r, v, s, w, hr, hev, ⟨hs, hew, hlinked⟩, hn⟩
    obtain ⟨r', s', v', w', hr', hs', hv, hw, hmut, hlink⟩ := linked_iff.mp hlinked
    obtain ⟨hev', hew', -⟩ := linkable_iff.mp hlink
    obtain ⟨rfl, rfl⟩ := S.same hr hr' hev hev' hv
    obtain ⟨rfl, rfl⟩ := S.same hs hs' hew hew' hw
    exact ⟨linkOf v w, mem_desiredPeerLinks.mpr
      ⟨_, _, v, w, (consent_iff hr hs).mpr hmut, hr, hs, hlink, rfl⟩, mem_linkNetworks.mpr (.inl hn)⟩

/-- In the scope of an eligible VPC its own addresses resolve to it, a peer's to the peer, and no
    other address resolves. -/
def Resolves (S : Snapshot X) (links : List PeerLink) (m : Networks) : Prop :=
  ∀ r v, S.vpc r = some v → eligible X v = true → ∀ (maps : Maps) (x : Addr),
    (Held X.parseAddr v.cidrs x →
      netOf { maps with networks := mapTable m } (vniOf v.vni) x = vniOf v.vni) ∧
    (∀ s w, PeerOf S links v s w → Held X.parseAddr w.cidrs x →
      netOf { maps with networks := mapTable m } (vniOf v.vni) x = vniOf w.vni) ∧
    (¬ Held X.parseAddr v.cidrs x → (∀ s w, PeerOf S links v s w → ¬ Held X.parseAddr w.cidrs x) →
      netOf { maps with networks := mapTable m } (vniOf v.vni) x = 0#32)

/-- No VPC shares an address with a peer, and no two peers of a VPC share one. -/
def Apart (S : Snapshot X) (links : List PeerLink) : Prop :=
  ∀ r v, S.vpc r = some v → eligible X v = true → ∀ s w, PeerOf S links v s w →
    (r ≠ s → ¬ ∃ x, Held X.parseAddr v.cidrs x ∧ Held X.parseAddr w.cidrs x) ∧
    ∀ t u, PeerOf S links v t u → s ≠ t →
      ¬ ∃ x, Held X.parseAddr w.cidrs x ∧ Held X.parseAddr u.cidrs x

theorem Resolves.apart (h : Resolves S links m) :
    Apart S links := by
  intro r v hr hev s w hpeer
  refine ⟨?_, ?_⟩
  · rintro hne ⟨x, hv, hw⟩
    obtain ⟨hown, hpeers, -⟩ := h r v hr hev Maps.empty x
    exact hne (S.ref_eq hr hpeer.1 hev hpeer.2.1 ((hown hv).symm.trans (hpeers s w hpeer hw)))
  · rintro t u hpeer' hne ⟨x, hw, hu⟩
    obtain ⟨-, hpeers, -⟩ := h r v hr hev Maps.empty x
    exact hne (S.ref_eq hpeer.1 hpeer'.1 hpeer.2.1 hpeer'.2.1
      ((hpeers s w hpeer hw).symm.trans (hpeers t u hpeer' hu)))

/-- A VPC to which an address may resolve in the scope of `v`. -/
def Answers (S : Snapshot X) (links : List PeerLink) (v : VPC) (x : Addr) (u : U32) : Prop :=
  (u = vniOf v.vni ∧ Held X.parseAddr v.cidrs x) ∨
    ∃ s w, PeerOf S links v s w ∧ u = vniOf w.vni ∧ Held X.parseAddr w.cidrs x

theorem Apart.answers (h : Apart S links) (hr : S.vpc r = some v) (hev : eligible X v = true) {x : Addr}
    {u u' : U32} (hu : Answers S links v x u) (hu' : Answers S links v x u') : u = u' := by
  have hown : ∀ s w, PeerOf S links v s w → Held X.parseAddr v.cidrs x → Held X.parseAddr w.cidrs x →
      vniOf v.vni = vniOf w.vni := by
    intro s w hpeer hv hw
    by_cases hrs : r = s
    · subst hrs
      rw [Option.some.inj (hr.symm.trans hpeer.1)]
    · exact absurd ⟨x, hv, hw⟩ ((h r v hr hev s w hpeer).1 hrs)
  rcases hu with ⟨rfl, hv⟩ | ⟨s, w, hpeer, rfl, hw⟩
  · rcases hu' with ⟨rfl, -⟩ | ⟨s, w, hpeer, rfl, hw⟩
    · rfl
    · exact hown s w hpeer hv hw
  rcases hu' with ⟨rfl, hv⟩ | ⟨t, w', hpeer', rfl, hw'⟩
  · exact (hown s w hpeer hv hw).symm
  by_cases hst : s = t
  · subst hst
    rw [Option.some.inj (hpeer.1.symm.trans hpeer'.1)]
  · exact absurd ⟨x, hw, hw'⟩ ((h r v hr hev s w hpeer).2 t w' hpeer' hst)

-- ── the resyncs of a snapshot

/-- No row of the other resync is in the way. -/
def Begins (X : CozyPeerLink.Texts) (own : Bool) (m : Networks) (nets : List PeerNet) : Prop :=
  (∀ e ∈ others ownRow own m, e.1 ∉ rowKeys X nets) ∧
    (rowKeys X nets).length + (others ownRow own m).length ≤ networksEntries

/-- A snapshot whose rows fit, within the work budgets, without a link of a VPC to itself; and one
    of the resyncs can begin. -/
structure Admissible (S : Snapshot X) (vpcs : List (Option VPC)) (links : List PeerLink)
    (m : Networks) : Prop where
  listed : ∀ v, some v ∈ vpcs ↔ ∃ r, S.vpc r = some v
  ownWork : vpcs.length + (vpcs.map charge).sum ≤ maxOwnNetworkInputs
  peerWork : (desiredPeerNetworks links).length ≤ networkInputs
  room : (rowKeys X (ownNetworks X vpcs)).length +
    (rowKeys X (desiredPeerNetworks links)).length ≤ networksEntries
  noSelf : ∀ l ∈ links, l.a ≠ l.b
  begin : Begins X true m (ownNetworks X vpcs) ∨ Begins X false m (desiredPeerNetworks links)

theorem Begins.fits {nets : List PeerNet} (h : Begins X own m nets) (hw : Collects X nets want) :
    fits ownRow networksEntries own m want = true := by
  unfold SharedMap.fits collides exceeds
  rw [Bool.and_eq_true, Bool.not_eq_true', Bool.not_eq_true', List.any_eq_false,
    decide_eq_false_iff_not]
  refine ⟨fun e he hin => h.1 e he (mem_rowKeys.mpr (hw.mem.mp (of_decide_eq_true hin))), ?_⟩
  have hlen := hw.length
  have hroom := h.2
  omega

theorem ownNetworks_length (vpcs : List (Option VPC)) :
    (ownNetworks X vpcs).length ≤ (vpcs.map charge).sum := by
  induction vpcs with
  | nil => exact Nat.le_refl 0
  | cons o vpcs ih =>
    have hone : (ownNetworks X [o]).length ≤ charge o := by
      unfold ownNetworks
      rw [List.flatMap_singleton]
      cases o with
      | none => exact Nat.le_refl 0
      | some v =>
        show (if owned X v then ownNets v else []).length ≤ if skipped v then 0 else v.cidrs.length
        unfold owned
        cases skipped v with
        | true => exact Nat.le_refl 0
        | false =>
          cases (validateVPCCIDRs X.parseAddr v.cidrs).isOk with
          | true => exact (List.length_map _).le
          | false => exact Nat.zero_le _
    rw [ownNetworks_cons, List.length_append, List.map_cons, List.sum_cons]
    omega

theorem validated_entry {cidrs : List String} (hok : validateVPCCIDRs X.parseAddr cidrs = .ok ())
    (hn : n.cidr ∈ cidrs) : n.cidr.utf8ByteSize ≤ 64 ∧ ∃ k, keyOf X n = some k := by
  obtain ⟨hshort, c, hc⟩ := validateVPCCIDRs_ok hok _ hn
  exact ⟨hshort, _, keyOf_cidr.mpr ⟨c, hc, rfl⟩⟩

theorem own_acceptable
    (hwork : vpcs.length + (vpcs.map charge).sum ≤ maxOwnNetworkInputs) :
    Acceptable X true (ownNetworks X vpcs) := by
  have hone : ∀ n ∈ ownNetworks X vpcs, n.cidr.utf8ByteSize ≤ 64 ∧ ∃ k, keyOf X n = some k := by
    intro n hn
    obtain ⟨v, -, hown, cidr, hcidr, rfl⟩ := mem_ownNetworks.mp hn
    exact validated_entry (owned_iff.mp hown).2.2 hcidr
  refine ⟨?_, fun n hn => ?_, fun n hn => (hone n hn).1, fun n hn => (hone n hn).2, ?_⟩
  · have hlen := ownNetworks_length (X := X) vpcs
    exact hlen.trans ((Nat.le_add_left _ _).trans hwork)
  · rw [own_net hn]
    exact beq_self_eq_true _
  · intro n hn n' hn' k hk hk'
    rw [own_net hn, own_net hn']
    exact (same_key hk hk').1

theorem PeerOf.ne (h : PeerOf S links v s w) (hself : ∀ l ∈ links, l.a ≠ l.b) :
    vniOf v.vni ≠ vniOf w.vni := by
  obtain ⟨-, -, l, hl, ⟨ha, hb⟩ | ⟨ha, hb⟩⟩ := h
  · exact fun heq => hself l hl (ha.trans (heq.trans hb.symm))
  · exact fun heq => hself l hl (ha.trans (heq.symm.trans hb.symm))

section

variable (hentries : PeerEntries S links)
include hentries

theorem peer_hits (hr : S.vpc r = some v) (hev : eligible X v = true)
    (hn : n ∈ desiredPeerNetworks links) {x : Addr} (hhit : Hits X n (vniOf v.vni) x) :
    ∃ s w, PeerOf S links v s w ∧ n.net = vniOf w.vni ∧ Held X.parseAddr w.cidrs x := by
  obtain ⟨hscope, c, hc, hin⟩ := hhit
  obtain ⟨r', v', s, w, hr', hev', hpeer, hscope', hnet, hcidr⟩ := (hentries n).mp hn
  obtain ⟨rfl, rfl⟩ := S.same hr hr' hev hev' (hscope'.symm.trans hscope)
  exact ⟨s, w, hpeer, hnet, n.cidr, hcidr, c, hc, hin⟩

/-- **RESOLUTION** in a map that holds exactly the own and the peer rows. -/
theorem resolves_of_rows (hlist : ∀ v, some v ∈ vpcs ↔ ∃ r, S.vpc r = some v) (hapart : Apart S links)
    (hm : ∀ k v, m.lookup k = some v ↔ ∃ n ∈ ownNetworks X vpcs ++ desiredPeerNetworks links,
      keyOf X n = some k ∧ n.net = v) :
    Resolves S links m := by
  intro r v hr hev maps x
  obtain ⟨hmiss, hhit⟩ := find_rows hm (vniOf v.vni) x
  have hanswers : ∀ u, find (mapTable m) (vniOf v.vni ++ x) = some u → Answers S links v x u := by
    intro u hu
    obtain ⟨n, hn, hhits, rfl⟩ := hhit u hu
    rcases List.mem_append.mp hn with hn | hn
    · exact .inl ⟨(own_net hn).trans hhits.1, (own_hits hlist hr hev).mp ⟨n, hn, hhits⟩⟩
    · exact .inr (peer_hits hentries hr hev hn hhits)
  have hentry : ∀ u, Answers S links v x u → find (mapTable m) (vniOf v.vni ++ x) ≠ none := by
    rintro u (⟨-, hheld⟩ | ⟨s, w, hpeer, -, cidr, hcidr, c, hc, hin⟩) hnone
    · obtain ⟨n, hn, hhits⟩ := (own_hits hlist hr hev).mpr hheld
      exact hmiss hnone n (List.mem_append_left _ hn) hhits
    · exact hmiss hnone ⟨vniOf v.vni, cidr, vniOf w.vni⟩ (List.mem_append_right _
        ((hentries _).mpr ⟨r, v, s, w, hr, hev, hpeer, rfl, rfl, hcidr⟩)) ⟨rfl, c, hc, hin⟩
  have hfind : ∀ u, Answers S links v x u → netOf { maps with networks := mapTable m } (vniOf v.vni) x = u := by
    intro u hu
    show (find (mapTable m) (vniOf v.vni ++ x)).getD 0#32 = u
    cases hf : find (mapTable m) (vniOf v.vni ++ x) with
    | none => exact absurd hf (hentry u hu)
    | some u' => exact hapart.answers hr hev (hanswers u' hf) hu
  refine ⟨fun hheld => hfind _ (.inl ⟨rfl, hheld⟩),
    fun s w hpeer hheld => hfind _ (.inr ⟨s, w, hpeer, rfl, hheld⟩), fun hnot hnone => ?_⟩
  show (find (mapTable m) (vniOf v.vni ++ x)).getD 0#32 = _
  cases hu : find (mapTable m) (vniOf v.vni ++ x) with
  | none => rfl
  | some u =>
    rcases hanswers u hu with ⟨-, hv⟩ | ⟨s, w, hpeer, -, hw⟩
    · exact absurd hv hnot
    · exact absurd hw (hnone s w hpeer)

/-- The peer entries name each key once when no two peers of a VPC share an address. -/
theorem peer_acceptable (hapart : Apart S links)
    (hwork : (desiredPeerNetworks links).length ≤ networkInputs) (hself : ∀ l ∈ links, l.a ≠ l.b) :
    Acceptable X false (desiredPeerNetworks links) := by
  have hone : ∀ n ∈ desiredPeerNetworks links,
      n.cidr.utf8ByteSize ≤ 64 ∧ ∃ k, keyOf X n = some k := by
    intro n hn
    obtain ⟨r, v, s, w, -, -, ⟨-, hew, -⟩, -, -, hcidr⟩ := (hentries n).mp hn
    exact validated_entry (eligible_cidrs hew) hcidr
  refine ⟨hwork, fun n hn => ?_, fun n hn => (hone n hn).1, fun n hn => (hone n hn).2, ?_⟩
  · obtain ⟨r, v, s, w, -, -, hpeer, hscope, hnet, -⟩ := (hentries n).mp hn
    rw [hscope, hnet, beq_eq_false_iff_ne]
    exact hpeer.ne hself
  · intro n hn n' hn' k hk hk'
    obtain ⟨hscope, x, hx, hx'⟩ := same_key hk hk'
    obtain ⟨r, v, -, -, hr, hev, -, hv, -, -⟩ := (hentries n).mp hn
    rw [hv] at hx hx'
    exact hapart.answers hr hev (.inr (peer_hits hentries hr hev hn hx))
      (.inr (peer_hits hentries hr hev hn' hx'))

theorem keys_apart (hlist : ∀ v, some v ∈ vpcs ↔ ∃ r, S.vpc r = some v) (hapart : Apart S links)
    (hself : ∀ l ∈ links, l.a ≠ l.b) {n' : PeerNet} (hn : n ∈ ownNetworks X vpcs)
    (hn' : n' ∈ desiredPeerNetworks links) (hk : keyOf X n = some k) : keyOf X n' ≠ some k := by
  intro hk'
  obtain ⟨hscope, x, hx, hx'⟩ := same_key hk hk'
  obtain ⟨r, v, -, -, hr, hev, -, hv, -, -⟩ := (hentries n').mp hn'
  rw [hscope, hv] at hx hx'
  have hheld := (own_hits hlist hr hev).mp ⟨n, hn, hx⟩
  obtain ⟨s, w, hpeer, hheld'⟩ := peer_hits hentries hr hev hn' hx'
  exact hpeer.ne hself (hapart.answers hr hev (.inl ⟨rfl, hheld⟩) (.inr ⟨s, w, hpeer, rfl, hheld'.2⟩))

/-- **BOTH RESYNCS TOGETHER** leave exactly the own rows and the peer rows. -/
theorem resync_lookup (h : Admissible S vpcs links m) (hapart : Apart S links) (k : RowKey (32 + 128))
    (v : U32) :
    (resync X vpcs links m).lookup k = some v ↔
      ∃ n ∈ ownNetworks X vpcs ++ desiredPeerNetworks links, keyOf X n = some k ∧ n.net = v := by
  have hroom := h.room
  have hownOk := own_acceptable (X := X) h.ownWork
  have hpeerOk := peer_acceptable hentries hapart h.peerWork h.noSelf
  obtain ⟨wantA, hA, hcollA⟩ := wantNetworks_ok hownOk (by omega)
  obtain ⟨wantB, hB, hcollB⟩ := wantNetworks_ok hpeerOk (by omega)
  have hdisj : ∀ k, k ∈ wantA → k ∉ wantB := by
    intro k ha hb
    obtain ⟨n, hn, hk⟩ := hcollA.mem.mp ha
    obtain ⟨n', hn', hk'⟩ := hcollB.mem.mp hb
    exact keys_apart hentries h.listed hapart h.noSelf hn hn' hk hk'
  have hsize : wantA.keys.length + wantB.keys.length ≤ networksEntries := by
    have hlenA := hcollA.length
    have hlenB := hcollB.length
    omega
  have hstart : fits ownRow networksEntries true m wantA = true ∨
      fits ownRow networksEntries false m wantB = true :=
    h.begin.imp (fun hb => hb.fits hcollA) fun hb => hb.fits hcollB
  rw [resync_eq h.ownWork hA hB, settle_lookup (hcollA.ownRows hownOk.side)
    (hcollB.ownRows hpeerOk.side) hdisj hsize hstart, Option.or_eq_some_iff]
  simp only [List.mem_append, or_and_right, exists_or]
  refine or_congr (hcollA k v) ?_
  rw [hcollB k v]
  constructor
  · exact fun hb => hb.2
  · rintro ⟨n, hn, hk, hv⟩
    refine ⟨AList.lookup_eq_none.mpr fun ha => ?_, n, hn, hk, hv⟩
    exact hdisj k ha (hcollB.mem.mpr ⟨n, hn, hk⟩)

end

/-- **SCOPED RESOLUTION.** An address of two VPCs of one scope cannot resolve to both; and where the
    resyncs can work, nothing else is needed. -/
theorem resolution_scoped (X : CozyPeerLink.Texts) (S : Snapshot X) (π : Type) [DecidableEq π]
    (deref : π → VPCPeering) (peerings : List (Option π)) (vpcs : List (Option VPC)) (m : Networks) :
    (Resolves S (desiredPeerLinks X deref S.vpc peerings) m →
      Apart S (desiredPeerLinks X deref S.vpc peerings)) ∧
    (Admissible S vpcs (desiredPeerLinks X deref S.vpc peerings) m →
      (Resolves S (desiredPeerLinks X deref S.vpc peerings)
          (resync X vpcs (desiredPeerLinks X deref S.vpc peerings) m) ↔
        Apart S (desiredPeerLinks X deref S.vpc peerings))) := by
  refine ⟨Resolves.apart, fun h => ⟨Resolves.apart, fun hapart => ?_⟩⟩
  exact resolves_of_rows peer_entries h.listed hapart (resync_lookup peer_entries h hapart)

/-- VPCs `a` to `e`; the CIDR of `c` is to be chosen. -/
def rivalVpcs (cidr : String) : List (VPCRef × VPC) :=
  [(⟨"t", "a"⟩, ⟨false, ["10.0.0.0/16"], 100⟩), (⟨"t", "b"⟩, ⟨false, ["10.1.0.0/16"], 200⟩),
   (⟨"t", "c"⟩, ⟨false, [cidr], 300⟩), (⟨"t", "d"⟩, ⟨false, ["10.2.0.0/16"], 400⟩),
   (⟨"t", "e"⟩, ⟨false, ["10.3.0.0/16"], 500⟩)]

def rivalSnapshot (cidr : String) : Snapshot rivalTexts where
  vpc r := ((rivalVpcs cidr).find? fun p => p.1 = r).map Prod.snd
  named _ := ⟨rfl, rfl⟩
  distinct {r s v w} hr hs _ _ hvni := by
    obtain ⟨p, hp, rfl⟩ := Option.map_eq_some_iff.mp hr
    obtain ⟨q, hq, rfl⟩ := Option.map_eq_some_iff.mp hs
    have hpr := List.find?_some hp
    have hqs := List.find?_some hq
    rw [decide_eq_true_eq] at hpr hqs
    rw [← hpr, ← hqs]
    have hpm := List.mem_of_find?_eq_some hp
    have hqm := List.mem_of_find?_eq_some hq
    simp only [rivalVpcs, List.mem_cons, List.not_mem_nil, or_false] at hpm hqm
    rcases hpm with rfl | rfl | rfl | rfl | rfl <;> rcases hqm with rfl | rfl | rfl | rfl | rfl
    all_goals first
      | rfl
      | (dsimp only at hvni; omega)

/-- The halves of a–b, a–c and d–e. -/
def rivalPeering : Fin 6 → VPCPeering
  | 0 => ⟨"t", "a", ⟨"t", "b"⟩, false⟩
  | 1 => ⟨"t", "b", ⟨"t", "a"⟩, false⟩
  | 2 => ⟨"t", "a", ⟨"t", "c"⟩, false⟩
  | 3 => ⟨"t", "c", ⟨"t", "a"⟩, false⟩
  | 4 => ⟨"t", "d", ⟨"t", "e"⟩, false⟩
  | _ => ⟨"t", "e", ⟨"t", "d"⟩, false⟩

def rivalLinks (cidr : String) : List PeerLink :=
  desiredPeerLinks rivalTexts rivalPeering (rivalSnapshot cidr).vpc
    [some 0, some 1, some 2, some 3, some 4, some 5]

/-- The VPCs of the snapshot, as they are listed. -/
def rivalList (cidr : String) : List (Option VPC) := (rivalVpcs cidr).map fun p => some p.2

/-- The network of an address after both resyncs. -/
def rivalNet (cidr : String) (scope a : U32) : U32 :=
  netOf { Maps.empty with networks := mapTable (resync rivalTexts (rivalList cidr) (rivalLinks cidr) ∅) }
    scope (v4To128 a)

/-- With 10.4.0.0/16 for the third VPC no address is in two of them, and every one resolves. -/
theorem resolution_scoped_rivals :
    Admissible (rivalSnapshot "10.4.0.0/16") (rivalList "10.4.0.0/16") (rivalLinks "10.4.0.0/16") ∅ ∧
    Apart (rivalSnapshot "10.4.0.0/16") (rivalLinks "10.4.0.0/16") ∧
    Resolves (rivalSnapshot "10.4.0.0/16") (rivalLinks "10.4.0.0/16")
      (resync rivalTexts (rivalList "10.4.0.0/16") (rivalLinks "10.4.0.0/16") ∅) := by
  have hmem : ∀ {r v}, (rivalSnapshot "10.4.0.0/16").vpc r = some v →
      (r, v) ∈ rivalVpcs "10.4.0.0/16" := by
    intro r v hr
    obtain ⟨p, hp, rfl⟩ := Option.map_eq_some_iff.mp hr
    have hpr := List.find?_some hp
    rw [decide_eq_true_eq] at hpr
    exact hpr ▸ List.mem_of_find?_eq_some hp
  have hdisjoint : ∀ {r s v w}, (rivalSnapshot "10.4.0.0/16").vpc r = some v →
      (rivalSnapshot "10.4.0.0/16").vpc s = some w → r ≠ s →
      ¬ ∃ x, Held rivalTexts.parseAddr v.cidrs x ∧ Held rivalTexts.parseAddr w.cidrs x := by
    have hpairs : ∀ p ∈ rivalVpcs "10.4.0.0/16", ∀ q ∈ rivalVpcs "10.4.0.0/16", p.1 ≠ q.1 →
        ∀ x ∈ p.2.cidrs, ∀ y ∈ q.2.cidrs, ∀ c ∈ parseCIDR rivalTexts.parseAddr x,
        ∀ d ∈ parseCIDR rivalTexts.parseAddr y,
        agree (min (cidrRange c).plen (cidrRange d).plen) (cidrRange c).addr (cidrRange d).addr =
          false := by decide +kernel
    intro r s v w hr hs hne hboth
    obtain ⟨x, hx, y, hy, c, d, hc, hd, hag⟩ := (held_iff _ _).mp hboth
    have hnot := hpairs _ (hmem hr) _ (hmem hs) hne x hx y hy c hc d hd
    exact Bool.false_ne_true (hnot.symm.trans hag)
  have hadm : Admissible (rivalSnapshot "10.4.0.0/16") (rivalList "10.4.0.0/16")
      (rivalLinks "10.4.0.0/16") ∅ := by
    refine ⟨fun v => ⟨fun hv => ?_, fun ⟨r, hr⟩ => ?_⟩, by decide +kernel, by decide +kernel,
      by decide +kernel, by decide +kernel, .inl ⟨nofun, by decide +kernel⟩⟩
    · obtain ⟨p, hp, hpv⟩ := List.mem_map.mp hv
      cases hpv
      have hfound : ∀ p ∈ rivalVpcs "10.4.0.0/16",
          (rivalSnapshot "10.4.0.0/16").vpc p.1 = some p.2 := by decide +kernel
      exact ⟨p.1, hfound p hp⟩
    · exact List.mem_map.mpr ⟨_, hmem hr, rfl⟩
  have hapart : Apart (rivalSnapshot "10.4.0.0/16") (rivalLinks "10.4.0.0/16") :=
    fun r v hr _ s w hw => ⟨hdisjoint hr hw.1, fun t u hu => hdisjoint hw.1 hu.1⟩
  exact ⟨hadm, hapart, ((resolution_scoped rivalTexts (rivalSnapshot "10.4.0.0/16") _ rivalPeering _ _
    ∅).2 hadm).mpr hapart⟩

theorem resolution_rivals :
    (rivalLinks "10.1.0.0/16").map (fun l => (l.a, l.b)) =
      [(100#32, 200#32), (100#32, 300#32), (400#32, 500#32)] ∧
    rivalNet "10.1.0.0/16" 100#32 0x0a010001#32 = 0#32 ∧
    rivalNet "10.1.0.0/16" 400#32 0x0a030001#32 = 0#32 ∧
    Held rivalTexts.parseAddr ["10.3.0.0/16"] (v4To128 0x0a030001#32) ∧
    (rivalLinks "10.1.2.0/24").map (fun l => (l.a, l.b)) =
      [(100#32, 200#32), (100#32, 300#32), (400#32, 500#32)] ∧
    Held rivalTexts.parseAddr ["10.1.0.0/16"] (v4To128 0x0a010203#32) ∧
    rivalNet "10.1.2.0/24" 100#32 0x0a010203#32 = 300#32 := by
  refine ⟨by decide +kernel, by decide +kernel, by decide +kernel, ?_, by decide +kernel, ?_,
    by decide +kernel⟩
  · exact ⟨_, List.mem_singleton_self _, .mask4 0x0a030000#32 16, by decide +kernel, by decide +kernel⟩
  · exact ⟨_, List.mem_singleton_self _, .mask4 0x0a010000#32 16, by decide +kernel, by decide +kernel⟩

end CozyNetworkSync
