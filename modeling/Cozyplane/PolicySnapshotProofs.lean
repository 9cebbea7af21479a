import Cozyplane.NpSyncProofs
import Cozyplane.SnapshotGuardProofs

/-!
# Policy snapshots — NetworkPolicy and SecurityGroups behind their update guards

`ApplyNetworkPolicy` rewrites three maps and `ApplySecurityGroups` five, each behind a cell of
`params` that makes the datapath drop what the layer would judge. Both are instances of a
guarded layer.
-/

namespace CozyPolicySnapshot

open PrefixTable Accumulate KernelMap Phased Run SnapshotGuard
open CozyPacket CozyMaps CozyDatapath CozyPolicy CozyCidr CozyNpCompile CozyNpSync

/-- The maps of NetworkPolicy. -/
inductive NpMap where
  | ident | allow | cidr
  deriving DecidableEq

def NpKey : NpMap → Type
  | .ident => RowKey 128
  | .allow => RowKey (8 + 8 + 64 + 64 + 16)
  | .cidr => RowKey (8 + 8 + 16 + 64 + 128)

def NpVal : NpMap → Type
  | .ident => NpIdentVal
  | .allow => Unit
  | .cidr => Bool

instance : ∀ i, DecidableEq (NpKey i)
  | .ident => inferInstanceAs (DecidableEq (RowKey 128))
  | .allow => inferInstanceAs (DecidableEq (RowKey (8 + 8 + 64 + 64 + 16)))
  | .cidr => inferInstanceAs (DecidableEq (RowKey (8 + 8 + 16 + 64 + 128)))

instance : ∀ i, DecidableEq (NpVal i)
  | .ident => inferInstanceAs (DecidableEq NpIdentVal)
  | .allow => inferInstanceAs (DecidableEq Unit)
  | .cidr => inferInstanceAs (DecidableEq Bool)

def npRows (c : NpCompiled) : ∀ i, Except String (KMap (NpKey i) (NpVal i))
  | .ident => (syncNPIdents c.idents).map tableMap
  | .allow => (syncNPAllows c.allows).map tableMap
  | .cidr => (syncNPCidrs c.cidrs).map tableMap

/-- `ApplyNetworkPolicy`, with `cfgNPUpdating` as guard and `cfgNPInitialized` as ready cell. -/
def npLayer : Layer NpCompiled NpKey NpVal where
  order := [.ident, .allow, .cidr]
  nodup := by decide
  complete i := by cases i <;> decide
  rows := npRows

-- ── SecurityGroups

/-- `SGMember`. An address `net.ParseIP` refused is `none`. -/
structure SGMember where
  net : U32
  ip : Option Addr
  groups : U64
  owner : BitVec 256
  deriving DecidableEq

/-- `datapath.SGRule`. -/
structure SGRule where
  net : U32
  srcNet : U32
  group : U16
  proto : U8
  port : U16
  allowed : U64
  deriving DecidableEq

/-- `datapath.SGCidr`. -/
structure SGCidr where
  net : U32
  proto : U8
  port : U16
  cidr : Option IPNet
  allowedGroups : U64
  deriving DecidableEq

/-- `datapath.SGEgress`. -/
structure SGEgress where
  srcNet : U32
  dstNet : U32
  group : U16
  proto : U8
  port : U16
  allowed : U64
  deriving DecidableEq

/-- `datapath.SGEgressCidr`. -/
structure SGEgressCidr where
  srcNet : U32
  proto : U8
  port : U16
  cidr : Option IPNet
  allowedGroups : U64
  deriving DecidableEq

def sgMembersEntries : Nat := 65536
def sgRulesEntries : Nat := 65536
def sgCidrEntries : Nat := 16384
def sgEgressEntries : Nat := 65536
def sgEgressCidrEntries : Nat := 16384

/-- `SyncSGMembers`: its wanted rows. -/
def syncSGMembers (members : List SGMember) : Except String (KMap LocalKey SgMember) :=
  forEach members (fun mem want =>
    match mem.ip with
    | none => .error "sg member IP: invalid IP \"<nil>\""
    | some ip => putDesired sgMembersEntries want ⟨mem.net, addr128 ip⟩ ⟨mem.groups, mem.owner⟩) ∅

/-- `putDesired(…, key, want[key]|groups)`. -/
def orDesired {κ : Type} [DecidableEq κ] (cap : Nat) (want : KMap κ U64) (k : κ) (groups : U64) :
    Except String (KMap κ U64) :=
  putDesired cap want k ((want.lookup k).getD 0#64 ||| groups)

def syncSGRules (rules : List SGRule) : Except String (KMap SgRuleKey U64) :=
  forEach rules (fun r want => orDesired sgRulesEntries want
    ⟨r.net, r.srcNet, r.group.toNat, r.port, r.proto⟩ r.allowed) ∅

def syncSGEgress (rules : List SGEgress) : Except String (KMap SgRuleKey U64) :=
  forEach rules (fun r want => orDesired sgEgressEntries want
    ⟨r.srcNet, r.dstNet, r.group.toNat, r.port, r.proto⟩ r.allowed) ∅

/-- A CIDR rule of either direction. -/
structure CidrGroup where
  scope : U32
  proto : U8
  port : U16
  cidr : Option IPNet
  groups : U64
  deriving DecidableEq

/-- `prefixKey`. -/
structure TierKey where
  scope : U32
  proto : U8
  port : U16
  range : NetPrefix
  deriving DecidableEq

def CidrGroup.tier (g : CidrGroup) (p : NetPrefix) : TierKey := ⟨g.scope, g.proto, g.port, p⟩

/-- `index[key] |= item.groups` over items with a CIDR. -/
def tierIndex (items : List CidrGroup) : KMap TierKey U64 :=
  items.foldl (fun index g =>
    match g.cidr with
    | none => index
    | some c =>
      let key := g.tier (normalizedCIDR c).masked
      index.insert key ((index.lookup key).getD 0#64 ||| g.groups)) ∅

theorem shorter4 (bits : Nat) (n : Fin 33) : min bits n.val < 33 := by omega

theorem shorter6 (bits : Nat) (n : Fin 129) : min bits n.val < 129 := by omega

/-- `netip.PrefixFrom(addr, bits).Masked()`, for `bits` up to the prefix's own. -/
def NetPrefix.shorten (bits : Nat) : NetPrefix → NetPrefix
  | .v4 a n => (NetPrefix.v4 a ⟨min bits n.val, shorter4 bits n⟩).masked
  | .v6 a n => (NetPrefix.v6 a ⟨min bits n.val, shorter6 bits n⟩).masked

/-- `unionContaining`: the groups of every rule of the item's tier whose CIDR contains the
    item's. -/
def unionContaining (items : List CidrGroup) : List U64 :=
  let index := tierIndex items
  items.map fun g =>
    match g.cidr with
    | none => 0#64
    | some c =>
      let p := (normalizedCIDR c).masked
      (List.range (p.bits + 1)).foldl
        (fun out bits => out ||| (index.lookup (g.tier (NetPrefix.shorten bits p))).getD 0#64) 0#64

/-- The key of a CIDR row: scope, port, and the protocol with the family in its high byte. -/
def cidrGroupKey (g : CidrGroup) (c : IPNet) : RowKey (32 + 16 + 16 + 128) :=
  ⟨64 + (cidrRange c).plen,
    g.scope ++ g.port ++ cidrProto g.proto (!cidrIsV4 c) ++ (cidrRange c).addr⟩

/-- The body that `SyncSGCidr` and `SyncSGEgressCidr` share. -/
def syncCidrGroups (cap : Nat) (items : List CidrGroup) :
    Except String (KMap (RowKey (32 + 16 + 16 + 128)) U64) :=
  forEach (items.zip (unionContaining items)) (fun (g, groups) want =>
    match g.cidr with
    | none => .ok want
    | some c => orDesired cap want (cidrGroupKey g c) groups) ∅

def syncSGCidr (entries : List SGCidr) : Except String (KMap (RowKey (32 + 16 + 16 + 128)) U64) :=
  syncCidrGroups sgCidrEntries
    (entries.map fun e => ⟨e.net, e.proto, e.port, e.cidr, e.allowedGroups⟩)

def syncSGEgressCidr (entries : List SGEgressCidr) :
    Except String (KMap (RowKey (32 + 16 + 16 + 128)) U64) :=
  syncCidrGroups sgEgressCidrEntries
    (entries.map fun e => ⟨e.srcNet, e.proto, e.port, e.cidr, e.allowedGroups⟩)

/-- The arguments of `ApplySecurityGroups`. -/
structure SgCompiled where
  members : List SGMember
  rules : List SGRule
  cidrs : List SGCidr
  egress : List SGEgress
  egressCIDRs : List SGEgressCidr

/-- The maps of SecurityGroups. -/
inductive SgMap where
  | members | rules | cidr | egress | egressCidr
  deriving DecidableEq

def SgKey : SgMap → Type
  | .members => LocalKey
  | .rules | .egress => SgRuleKey
  | .cidr | .egressCidr => RowKey (32 + 16 + 16 + 128)

def SgVal : SgMap → Type
  | .members => SgMember
  | _ => U64

instance : ∀ i, DecidableEq (SgKey i)
  | .members => inferInstanceAs (DecidableEq LocalKey)
  | .rules | .egress => inferInstanceAs (DecidableEq SgRuleKey)
  | .cidr | .egressCidr => inferInstanceAs (DecidableEq (RowKey (32 + 16 + 16 + 128)))

instance : ∀ i, DecidableEq (SgVal i)
  | .members => inferInstanceAs (DecidableEq SgMember)
  | .rules | .cidr | .egress | .egressCidr => inferInstanceAs (DecidableEq U64)

def sgRows (c : SgCompiled) : ∀ i, Except String (KMap (SgKey i) (SgVal i))
  | .members => syncSGMembers c.members
  | .rules => syncSGRules c.rules
  | .cidr => syncSGCidr c.cidrs
  | .egress => syncSGEgress c.egress
  | .egressCidr => syncSGEgressCidr c.egressCIDRs

/-- `ApplySecurityGroups`, with `cfgSGUpdating` as guard and `cfgSGInitialized` as ready cell. -/
def sgLayer : Layer SgCompiled SgKey SgVal where
  order := [.members, .rules, .cidr, .egress, .egressCidr]
  nodup := by decide
  complete i := by cases i <;> decide
  rows := sgRows

theorem map_ok {α β : Type} {f : α → β} {x : Except String α} {b : β} (h : x.map f = .ok b) :
    ∃ a, x = .ok a ∧ b = f a := by
  cases x with
  | error e => nomatch h
  | ok a => exact ⟨a, rfl, (Except.ok.inj h).symm⟩

theorem applyNetworkPolicy_ok (m : Maps) {c : NpCompiled} {idents allows cidrs}
    (hi : syncNPIdents c.idents = .ok idents) (ha : syncNPAllows c.allows = .ok allows)
    (hc : syncNPCidrs c.cidrs = .ok cidrs) : ∃ m', applyNetworkPolicy m c = (m', none) := by
  unfold applyNetworkPolicy
  simp only [hi, ha, hc]
  exact ⟨_, rfl⟩

/-- The pinned maps hold the tables of the datapath's maps. -/
structure Mirrors (s : Pinned NpKey NpVal) (m : Maps) : Prop where
  guard : s.armed = false ↔ m.params cfgNpUpdating = 0#32
  ident : ∃ t, m.npIdent = find t ∧ ∀ k, (s.tables .ident).lookup k = (tableMap t).lookup k
  allow : ∀ k, (s.tables .allow).lookup k = (tableMap m.npAllow).lookup k
  cidr : ∀ k, (s.tables .cidr).lookup k = (tableMap m.npCidr).lookup k

/-- **THE TWO MODELS AGREE**: a call that made all its writes leaves the maps that
    `applyNetworkPolicy` computes in one go. -/
theorem apply_refines (m : Maps) {c : NpCompiled} {s : Pinned NpKey NpVal}
    {ws : List (Write NpKey NpVal)} (h : Completes Pinned.write (applyPhases npLayer c) s ws) :
    ∃ m', applyNetworkPolicy m c = (m', none) ∧ Mirrors (exec Pinned.write s ws) m' := by
  obtain ⟨hdisarmed, hholds⟩ := apply_completes h
  obtain ⟨_, hirows, hident⟩ := hholds .ident
  obtain ⟨_, harows, hallow⟩ := hholds .allow
  obtain ⟨_, hcrows, hcidr⟩ := hholds .cidr
  obtain ⟨idents, hi, rfl⟩ := map_ok hirows
  obtain ⟨allows, ha, rfl⟩ := map_ok harows
  obtain ⟨cidrs, hc, rfl⟩ := map_ok hcrows
  obtain ⟨m', hm'⟩ := applyNetworkPolicy_ok m hi ha hc
  have hinst := applyNetworkPolicy_installed hm'
  refine ⟨m', hm', iff_of_true hdisarmed hinst.guard, ?_, ?_, ?_⟩
  · obtain ⟨t, ht, hfind⟩ := hinst.idents
    cases hi.symm.trans ht
    exact ⟨idents, hfind, hident⟩
  · rw [← Except.ok.inj (ha.symm.trans hinst.allows)]
    exact hallow
  · rw [← Except.ok.inj (hc.symm.trans hinst.cidrs)]
    exact hcidr

/-- Any pod may reach the pods of identity 9. -/
def oneRule : NpCompiled := ⟨[], [⟨9#64, 1#64, 0#8, 0#8, 0#16, 0#16⟩], []⟩

def oneRow : RowKey (8 + 8 + 64 + 64 + 16) := ⟨144, 0#8 ++ 0#8 ++ 9#64 ++ 1#64 ++ 0#16⟩

/-- After the first load: nothing installed, the guard armed. -/
def bootWorld : World NpCompiled NpKey NpVal := ⟨⟨true, false, fun _ => ∅⟩, none, false⟩

def installed : Event NpCompiled NpKey NpVal :=
  ⟨.apply oneRule, [.arm, .row .allow (.put oneRow ()), .ready, .disarm], true⟩

theorem installed_valid : installed.valid npLayer bootWorld := by
  have hident : syncPhase npLayer oneRule .ident (bootWorld.pinned.write .arm) [] :=
    ⟨∅, [], rfl, syncOps_syncs _ _, rfl⟩
  have hallow : syncPhase npLayer oneRule .allow (bootWorld.pinned.write .arm)
      [.row .allow (.put oneRow ())] :=
    ⟨tableMap [⟨144, oneRow.key, ()⟩], [.put oneRow ()], by rfl, syncOps_syncs _ _, rfl⟩
  have hcidr : syncPhase npLayer oneRule .cidr
      ((bootWorld.pinned.write .arm).write (.row .allow (.put oneRow ()))) [] :=
    ⟨∅, [], rfl, syncOps_syncs _ _, rfl⟩
  show Completes Pinned.write (applyPhases npLayer oneRule) bootWorld.pinned
    ([.arm] ++ ([] ++ ([.row .allow (.put oneRow ())] ++ ([] ++ ([.ready] ++ ([.disarm] ++ []))))))
  exact .cons rfl (.cons hident (.cons hallow (.cons hcidr (.cons rfl (.cons rfl .nil)))))

theorem apply_refines_oneRule : ∃ m', applyNetworkPolicy Maps.empty oneRule = (m', none) ∧
    Mirrors (exec Pinned.write bootWorld.pinned installed.writes) m' :=
  apply_refines Maps.empty installed_valid

/-- **POLICY SNAPSHOTS ARE WHOLE BEHIND A DISARMED GUARD**, at every point of every run whose arming
    writes take effect and whose loads recreate nothing behind a disarmed guard. -/
theorem policySnapshots_whole (w : World NpCompiled NpKey NpVal) (v : World SgCompiled SgKey SgVal) :
    (Reaches World.step (fun w e => Event.valid npLayer w e ∧ Event.guarded w e)
        (fun w => w.pinned.armed = true) w →
      Snapshot npLayer w ∧
        ∀ c ws, RestartSafe w c → Ongoing npLayer w c ws → Snapshot npLayer (w.after ws)) ∧
    (Reaches World.step (fun w e => Event.valid sgLayer w e ∧ Event.guarded w e)
        (fun w => w.pinned.armed = true) v →
      Snapshot sgLayer v ∧
        ∀ c ws, RestartSafe v c → Ongoing sgLayer v c ws → Snapshot sgLayer (v.after ws)) :=
  ⟨snapshot_throughout, snapshot_throughout⟩

theorem policySnapshots_oneRule :
    (bootWorld.step installed).pinned.armed = false ∧ Snapshot npLayer (bootWorld.step installed) :=
  ⟨rfl, ((policySnapshots_whole _ ⟨⟨true, false, fun _ => ∅⟩, none, false⟩).1 (.next (.start rfl)
    ⟨installed_valid, trivial, .inl (List.cons_ne_nil _ _)⟩)).1⟩

/-- **A LOST ARMING WRITE, A LOAD THAT DIED.** A `BlockNetworkPolicy` whose only write fails leaves
    the old snapshot enforced. And a load that recreates `np_allow` and dies leaves an empty map
    that the next load does not notice. -/
theorem policySnapshot_lost :
    (∃ w, Reaches World.step (Event.valid npLayer) (fun w => w.pinned.armed = true) w ∧
      w.pinned.armed = false ∧ w.clean = false) ∧
    ∃ w, Reaches World.step (Event.valid npLayer) (fun w => w.pinned.armed = true) w ∧
      w.pinned.armed = false ∧ w.last = some oneRule ∧ w.clean = true ∧
      ¬ Holds npLayer w.pinned.tables oneRule := by
  have hup : Reaches World.step (Event.valid npLayer) (fun w => w.pinned.armed = true)
      (bootWorld.step installed) := .next (.start rfl) installed_valid
  constructor
  · have hblock : Event.valid npLayer (bootWorld.step installed) ⟨.block, [], false⟩ := by
      refine ⟨.idle, fun h => ?_⟩
      nomatch completes_once.mp h
    exact ⟨_, .next hup hblock, rfl, rfl⟩
  · -- the load recreates the map and ends
    have hdied : Event.valid npLayer (bootWorld.step installed)
        ⟨.restart [some .allow], [.fresh .allow], false⟩ := by
      refine ⟨.within rfl List.prefix_rfl, fun h => ?_⟩
      nomatch restart_completes (List.cons_ne_nil _ _) h
    have hagain : Event.valid npLayer ((bootWorld.step installed).step
        ⟨.restart [some .allow], [.fresh .allow], false⟩) ⟨.restart [], [], true⟩ := by
      show Completes Pinned.write (restartPhases []) _ ([] ++ ([] ++ []))
      exact .cons rfl (.cons rfl .nil)
    refine ⟨_, .next (.next hup hdied) hagain, rfl, rfl, rfl, fun h => ?_⟩
    obtain ⟨w, hrows, hsame⟩ := h .allow
    cases hrows
    have hmiss : (none : Option Unit) = some () := hsame oneRow
    nomatch hmiss

end CozyPolicySnapshot
