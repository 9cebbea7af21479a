import Cozyplane.BoundaryCompileProofs
import Cozyplane.BoundaryGateProofs
import Cozyplane.KernelMapProofs

/-!
# Publishing VPC boundaries — preflight, staged writes, and the managed VPCs left open

`SyncBoundaries` first checks everything it was given (`preflight`), then writes in phases: close
what is new or changed, close what is gone, stage the rules, sync the address maps, publish the
revisions, retire the unmanaged, prune the rules. A phase reads the maps as the phases before it
left them, and an error stops between phases. BEFORE the first phase nothing is written at all, and
both the compiler and the preflight stop there for a fault of ANY VPC.
-/

namespace CozyBoundarySync

open PrefixTable Accumulate CozyPacket CozyMaps CozyCidr CozyBoundary CozyBoundaryCompile
open KernelMap (mem_iff_lookup)

/-- A finite map, in the order an iteration meets its keys. -/
abbrev KMap (κ ν : Type) := AList fun _ : κ => ν

/-- The boundary maps as the agent sees them. -/
structure Tables where
  policy : KMap U32 BoundaryPolicy
  rules : KMap BoundaryRule U8
  primary : KMap LocalKey U8
  cidrs : KMap (Nat × Addr) U8

/-- One map operation. -/
inductive Write where
  | putPolicy (n : U32) (p : BoundaryPolicy)
  | delPolicy (n : U32)
  | putRule (k : BoundaryRule) (v : U8)
  | delRule (k : BoundaryRule)
  | putPrimary (k : LocalKey) (v : U8)
  | delPrimary (k : LocalKey)
  | putCidr (k : Nat × Addr) (v : U8)
  | delCidr (k : Nat × Addr)

def Tables.write (t : Tables) : Write → Tables
  | .putPolicy n p => { t with policy := t.policy.insert n p }
  | .delPolicy n => { t with policy := t.policy.erase n }
  | .putRule k v => { t with rules := t.rules.insert k v }
  | .delRule k => { t with rules := t.rules.erase k }
  | .putPrimary k v => { t with primary := t.primary.insert k v }
  | .delPrimary k => { t with primary := t.primary.erase k }
  | .putCidr k v => { t with cidrs := t.cidrs.insert k v }
  | .delCidr k => { t with cidrs := t.cidrs.erase k }

/-- The tables in the datapath. -/
def Tables.install (t : Tables) (m : Maps) : Maps :=
  { m with boundaryPolicy := fun n => t.policy.lookup n
           boundaryRules := fun k => (t.rules.lookup k).isSome
           boundaryPrimary := fun k => (t.primary.lookup k).isSome
           boundaryCidrs := t.cidrs.entries.map fun e => ⟨e.1.1, e.1.2, ()⟩ }

/-- What the checked boundaries amount to. -/
structure Desired where
  policies : KMap U32 BoundaryPolicy
  rules : KMap BoundaryRule U8
  cidrs : KMap (Nat × Addr) U8

def policyOf (b : Boundary) : BoundaryPolicy := ⟨b.revision, b.identity, b.internet⟩

def ruleKey (b : Boundary) (r : RuleSpec) : BoundaryRule :=
  ⟨b.revision, b.net, r.peer, r.port, r.protocol, r.ingress⟩

/-- The prefix length a CIDR is stored with: 96 more for an IPv4 address, mapped ones included. -/
def cidrBits : IPNet → Nat
  | .mask4 _ ones => ones.val + 96
  | .mask16 ip ones => if is4In6 ip then ones.val + 96 else ones.val

def cidrKey (c : IPNet) : Nat × Addr :=
  (cidrBits c, match c with
    | .mask4 ip _ => v4To128 ip
    | .mask16 ip _ => addr128 ip)

def addRule (b : Boundary) (r : RuleSpec) (d : Desired) : Except String Desired :=
  if r.peer = 0#32 ∨ r.peer = b.net then .error "invalid boundary peer"
  else .ok { d with rules := d.rules.insert (ruleKey b r) 1#8 }

def addCidr (c : IPNet) (d : Desired) : Except String Desired :=
  if 128 < cidrBits c then .error "invalid boundary CIDR prefix"
  else .ok { d with cidrs := d.cidrs.insert (cidrKey c) 1#8 }

def addBoundary (b : Boundary) (d : Desired) : Except String Desired :=
  if b.net = 0#32 ∨ b.revision = 0#64 ∨ b.identity = 0#64 then
    .error "invalid boundary identity or revision"
  else if b.net ∈ d.policies then .error "duplicate boundary VNI"
  else
    andThen (forEach b.rules (addRule b)) (forEach b.cidrs addCidr)
      { d with policies := d.policies.insert b.net (policyOf b) }

/-- The checks of `SyncBoundaries` before its first write. -/
def preflight (desired : List Boundary) (primary : List PrimaryPort) : Except String Desired :=
  match forEach desired addBoundary ⟨∅, ∅, ∅⟩ with
  | .error e => .error e
  | .ok d =>
    if 16384 < d.policies.keys.length ∨ 65536 < d.rules.keys.length ∨
        32768 < d.cidrs.keys.length ∨ 65536 < primary.length then
      .error "boundary map capacity exceeded"
    else .ok d

/-- A phase reads the maps and decides its writes. -/
abbrev Phase := Tables → Except String (List Write)

/-- Phases in order; an error leaves the maps as the phases before it made them. -/
def runPhases : List Phase → Tables → Tables × Option String
  | [], t => (t, none)
  | ph :: rest, t =>
    match ph t with
    | .error e => (t, some e)
    | .ok ws => runPhases rest (ws.foldl Tables.write t)

def closed (identity : U64) : BoundaryPolicy := ⟨0#64, identity, false⟩

/-- A VNI without an entry, or with that of another policy, is closed first. -/
def closeWrite (t : Tables) (e : Sigma fun _ : U32 => BoundaryPolicy) : Option Write :=
  match t.policy.lookup e.1 with
  | none => some (.putPolicy e.1 (closed e.2.identity))
  | some old =>
    if old.identity = e.2.identity then none
    else some (.putPolicy e.1 (closed e.2.identity))

def closeChanged (d : Desired) : Phase := fun t => .ok (d.policies.entries.filterMap (closeWrite t))

/-- A VNI no VPC uses any more is closed. -/
def closeUnknown (known : List U32) : Phase := fun t =>
  .ok (t.policy.entries.filterMap fun e =>
    if e.1 ∉ known ∧ (e.2.revision ≠ 0#64 ∨ e.2.internet = true) then
      some (.putPolicy e.1 { e.2 with revision := 0#64, internet := false })
    else none)

/-- The rule belongs to the revision its network's entry points at. -/
def liveRule (t : Tables) (k : BoundaryRule) : Bool :=
  match t.policy.lookup k.net with
  | none => false
  | some p => p.revision == k.revision

/-- New rules are written beside the live ones; other leftovers go first. -/
def stageRules (d : Desired) : Phase := fun t =>
  let live := t.rules.keys.filter (liveRule t)
  if 131072 < (live.filter fun k => k ∉ d.rules).length + d.rules.keys.length then
    .error "boundary staging map capacity exceeded"
  else
    .ok ((t.rules.keys.filter fun k => !liveRule t k && k ∉ d.rules).map .delRule ++
      (d.rules.entries.filter fun e => t.rules.lookup e.1 ≠ some e.2).map fun e =>
        .putRule e.1 e.2)

/-- `syncMap`: delete what is not wanted, put what differs. -/
def syncMap {κ ν : Type} [DecidableEq κ] [DecidableEq ν] (cap : Nat) (old want : KMap κ ν)
    (del : κ → Write) (put : κ → ν → Write) : Except String (List Write) :=
  if cap < want.keys.length then
    .error ("desired state exceeds map capacity " ++ toString cap)
  else
    .ok ((old.keys.filter fun k => k ∉ want).map del ++
      (want.entries.filter fun e => old.lookup e.1 ≠ some e.2).map fun e => put e.1 e.2)

def primaryMap (primary : List PrimaryPort) : KMap LocalKey U8 :=
  primary.foldl (fun m p => m.insert ⟨p.net, addr128 p.ip⟩ 1#8) ∅

def syncPrimary (primary : List PrimaryPort) : Phase := fun t =>
  syncMap 65536 t.primary (primaryMap primary) .delPrimary .putPrimary

def syncCidrs (d : Desired) : Phase := fun t => syncMap 32768 t.cidrs d.cidrs .delCidr .putCidr

/-- The new revisions. -/
def publish (d : Desired) : Phase := fun t =>
  .ok ((d.policies.entries.filter fun e => t.policy.lookup e.1 ≠ some e.2).map fun e =>
    .putPolicy e.1 e.2)

/-- A live VPC without boundary loses its entry. -/
def retire (d : Desired) (known : List U32) : Phase := fun t =>
  .ok ((t.policy.keys.filter fun n => n ∈ known ∧ n ∉ d.policies).map .delPolicy)

def pruneRules (d : Desired) : Phase := fun t =>
  syncMap 131072 t.rules d.rules .delRule .putRule

/-- The phases of `SyncBoundaries`. -/
def syncBoundaries (t : Tables) (desired : List Boundary) (known : List U32)
    (primary : List PrimaryPort) : Tables × Option String :=
  match preflight desired primary with
  | .error e => (t, some e)
  | .ok d =>
    runPhases [closeChanged d, closeUnknown known, stageRules d, syncPrimary primary, syncCidrs d,
      publish d, retire d known, pruneRules d] t

/-- One attempt of the boundary worker. -/
def resync (P : Platform) (t : Tables) (vpcs : List VPC) (ports : List VPCPort) :
    Tables × Option String :=
  match compileBoundaries P vpcs ports with
  | .error e => (t, some e)
  | .ok c => syncBoundaries t c.desired c.known c.primary

-- ── what the preflight accepts

/-- The checks on one boundary. -/
structure BoundaryFits (b : Boundary) : Prop where
  identity : b.net ≠ 0#32 ∧ b.revision ≠ 0#64 ∧ b.identity ≠ 0#64
  peers : ∀ r ∈ b.rules, r.peer ≠ 0#32 ∧ r.peer ≠ b.net
  prefixes : ∀ c ∈ b.cidrs, cidrBits c ≤ 128

def ruleKeys (desired : List Boundary) : List BoundaryRule :=
  desired.flatMap fun b => b.rules.map (ruleKey b)

def cidrKeys (desired : List Boundary) : List (Nat × Addr) :=
  desired.flatMap fun b => b.cidrs.map cidrKey

/-- The boundaries fit: each is proper, no VNI is used twice, and the maps hold them all. -/
structure Fits (desired : List Boundary) (primary : List PrimaryPort) : Prop where
  each : ∀ b ∈ desired, BoundaryFits b
  distinct : (desired.map Boundary.net).Nodup
  policies : desired.length ≤ 16384
  rules : (ruleKeys desired).toFinset.card ≤ 65536
  cidrs : (cidrKeys desired).toFinset.card ≤ 32768
  primary : primary.length ≤ 65536

def merged (d : Desired) (b : Boundary) : Desired where
  policies := d.policies.insert b.net (policyOf b)
  rules := b.rules.foldl (fun m r => m.insert (ruleKey b r) 1#8) d.rules
  cidrs := b.cidrs.foldl (fun m c => m.insert (cidrKey c) 1#8) d.cidrs

variable {α : Type} (desired : List Boundary)

theorem addRules_ok_iff (b : Boundary) (rs : List RuleSpec) (d d' : Desired) :
    forEach rs (addRule b) d = .ok d' ↔ (∀ r ∈ rs, ¬ (r.peer = 0#32 ∨ r.peer = b.net)) ∧
      d' = { d with rules := rs.foldl (fun m r => m.insert (ruleKey b r) 1#8) d.rules } :=
  forEach_into (fun m => { d with rules := m }) (fun _ _ => rfl) d.rules d'

theorem addCidrs_ok_iff (cs : List IPNet) (d d' : Desired) :
    forEach cs addCidr d = .ok d' ↔ (∀ c ∈ cs, ¬ 128 < cidrBits c) ∧
      d' = { d with cidrs := cs.foldl (fun m c => m.insert (cidrKey c) 1#8) d.cidrs } :=
  forEach_into (fun m => { d with cidrs := m }) (fun _ _ => rfl) d.cidrs d'

/-- One boundary passes exactly if it is proper and its VNI is new. -/
theorem addBoundary_ok_iff (b : Boundary) (d d' : Desired) :
    addBoundary b d = .ok d' ↔ BoundaryFits b ∧ b.net ∉ d.policies ∧ d' = merged d b := by
  unfold addBoundary
  split
  · rename_i hid
    refine iff_of_false nofun fun h => ?_
    rcases hid with hz | hz | hz
    · exact h.1.identity.1 hz
    · exact h.1.identity.2.1 hz
    · exact h.1.identity.2.2 hz
  · rename_i hid
    split
    · rename_i hdup
      exact iff_of_false nofun fun h => h.2.1 hdup
    rename_i hdup
    constructor
    · intro h
      obtain ⟨t, ht, hd'⟩ := andThen_ok h
      obtain ⟨hpeers, rfl⟩ := (addRules_ok_iff ..).mp ht
      obtain ⟨hbits, rfl⟩ := (addCidrs_ok_iff ..).mp hd'
      obtain ⟨h₁, h₂⟩ := not_or.mp hid
      exact ⟨⟨⟨h₁, not_or.mp h₂⟩, fun r hr => not_or.mp (hpeers r hr),
        fun c hc => Nat.not_lt.mp (hbits c hc)⟩, hdup, rfl⟩
    · rintro ⟨hfit, -, rfl⟩
      unfold andThen
      rw [(addRules_ok_iff ..).mpr ⟨fun r hr => not_or.mpr (hfit.peers r hr), rfl⟩]
      exact (addCidrs_ok_iff ..).mpr ⟨fun c hc => Nat.not_lt.mpr (hfit.prefixes c hc), rfl⟩

theorem addBoundaries_ok_iff (d d' : Desired) :
    forEach desired addBoundary d = .ok d' ↔
      ((∀ b ∈ desired, BoundaryFits b) ∧ (desired.map Boundary.net).Nodup ∧
        ∀ b ∈ desired, b.net ∉ d.policies) ∧ d' = desired.foldl merged d := by
  induction desired generalizing d with
  | nil =>
    unfold forEach
    simp [eq_comm]
  | cons b rest ih =>
    unfold forEach
    have hnets : ∀ c : Boundary, c.net ∉ (merged d b).policies ↔
        c.net ≠ b.net ∧ c.net ∉ d.policies := by
      intro c
      unfold merged
      rw [AList.mem_insert, not_or]
    cases hb : addBoundary b d with
    | error e =>
      refine iff_of_false (by rintro ⟨⟩) ?_
      rintro ⟨⟨hfit, -, hnew⟩, -⟩
      have hok := (addBoundary_ok_iff b d (merged d b)).mpr
        ⟨hfit b (.head _), hnew b (.head _), rfl⟩
      rw [hb] at hok
      cases hok
    | ok t =>
      obtain ⟨hfit, hnew, rfl⟩ := (addBoundary_ok_iff b d t).mp hb
      rw [ih, List.foldl_cons]
      refine and_congr_left fun _ => ?_
      simp only [hnets, List.mem_cons, forall_eq_or_imp, List.map_cons, List.nodup_cons,
        List.mem_map, not_exists, not_and, hfit, hnew, true_and, not_false_iff]
      constructor
      · rintro ⟨hf, hn, hne⟩
        exact ⟨hf, ⟨fun c hc => (hne c hc).1, hn⟩, fun c hc => (hne c hc).2⟩
      · rintro ⟨hf, ⟨hne, hn⟩, hnew⟩
        exact ⟨hf, hn, fun c hc => ⟨hne c hc, hnew c hc⟩⟩

variable {Q : Tables → Prop} {d : Desired} {κ : Type} {known : List U32} {ν : Type}

theorem mem_foldl_insert [DecidableEq κ] (key : α → κ) (v : ν) (xs : List α) (m : KMap κ ν) (k : κ) :
    k ∈ xs.foldl (fun m x => m.insert (key x) v) m ↔ k ∈ m ∨ k ∈ xs.map key := by
  induction xs generalizing m with
  | nil => simp
  | cons x xs ih =>
    rw [List.foldl_cons, ih, AList.mem_insert, List.map_cons, List.mem_cons]
    tauto

theorem mem_foldl_merged {field : Desired → KMap κ U8} {keys : Boundary → List κ}
    (h : ∀ d b k, k ∈ field (merged d b) ↔ k ∈ field d ∨ k ∈ keys b) (desired : List Boundary)
    (d : Desired) (k : κ) :
    k ∈ field (desired.foldl merged d) ↔ k ∈ field d ∨ k ∈ desired.flatMap keys := by
  induction desired generalizing d with
  | nil => simp
  | cons b rest ih => rw [List.foldl_cons, ih, h, List.flatMap_cons, List.mem_append, or_assoc]

theorem mem_merged_rules (d : Desired) (k : BoundaryRule) :
    k ∈ (desired.foldl merged d).rules ↔ k ∈ d.rules ∨ k ∈ ruleKeys desired :=
  mem_foldl_merged (fun _ _ _ => mem_foldl_insert ..) desired d k

theorem mem_merged_cidrs (d : Desired) (k : Nat × Addr) :
    k ∈ (desired.foldl merged d).cidrs ↔ k ∈ d.cidrs ∨ k ∈ cidrKeys desired :=
  mem_foldl_merged (fun _ _ _ => mem_foldl_insert ..) desired d k

theorem lookup_merged (d : Desired) (hd : (desired.map Boundary.net).Nodup) (n : U32) :
    (∀ b ∈ desired, b.net = n →
      (desired.foldl merged d).policies.lookup n = some (policyOf b)) ∧
    ((∀ b ∈ desired, b.net ≠ n) →
      (desired.foldl merged d).policies.lookup n = d.policies.lookup n) := by
  induction desired generalizing d with
  | nil => exact ⟨nofun, fun _ => rfl⟩
  | cons b rest ih =>
    rw [List.map_cons, List.nodup_cons] at hd
    obtain ⟨hin, hout⟩ := ih (merged d b) hd.2
    rw [List.foldl_cons]
    constructor
    · intro c hc hn
      rcases List.mem_cons.mp hc with rfl | hc
      · have hnot : ∀ e ∈ rest, e.net ≠ n := fun e he h =>
          hd.1 (List.mem_map.mpr ⟨e, he, h.trans hn.symm⟩)
        rw [hout hnot, ← hn]
        exact AList.lookup_insert _
      · exact hin c hc hn
    · intro hnot
      rw [hout fun e he => hnot e (.tail _ he)]
      exact AList.lookup_insert_ne (hnot b (.head _)).symm

theorem length_merged (d : Desired) (hd : (desired.map Boundary.net).Nodup)
    (hnew : ∀ b ∈ desired, b.net ∉ d.policies) :
    (desired.foldl merged d).policies.keys.length = d.policies.keys.length + desired.length := by
  induction desired generalizing d with
  | nil => rfl
  | cons b rest ih =>
    rw [List.map_cons, List.nodup_cons] at hd
    have hb := hnew b (.head _)
    have hrest : ∀ c ∈ rest, c.net ∉ (merged d b).policies := by
      intro c hc hmem
      rcases (AList.mem_insert _).mp hmem with h | h
      · exact hd.1 (List.mem_map.mpr ⟨c, hc, h⟩)
      · exact hnew c (.tail _ hc) h
    rw [List.foldl_cons, ih _ hd.2 hrest]
    unfold merged
    rw [AList.keys_insert, List.length_cons, List.length_cons,
      List.erase_of_not_mem (by rwa [← AList.mem_keys])]
    omega

theorem keys_length_eq_card [DecidableEq κ] {m : KMap κ ν} {xs : List κ} (h : ∀ k, k ∈ m ↔ k ∈ xs) :
    m.keys.length = xs.toFinset.card := by
  rw [← List.toFinset_card_of_nodup m.keys_nodup]
  congr 1
  ext k
  rw [List.mem_toFinset, List.mem_toFinset, ← AList.mem_keys, h]

/-- **THE PREFLIGHT** passes exactly what fits. -/
theorem preflight_ok_iff (primary : List PrimaryPort) (d : Desired) :
    preflight desired primary = .ok d ↔
      Fits desired primary ∧ d = desired.foldl merged ⟨∅, ∅, ∅⟩ := by
  have hall := addBoundaries_ok_iff desired ⟨∅, ∅, ∅⟩
  have hnew : ∀ b ∈ desired, b.net ∉ (∅ : KMap U32 BoundaryPolicy) :=
    fun b _ => AList.notMem_empty _
  have hrules : (desired.foldl merged ⟨∅, ∅, ∅⟩).rules.keys.length =
      (ruleKeys desired).toFinset.card :=
    keys_length_eq_card fun k => by
      rw [mem_merged_rules]
      exact or_iff_right (AList.notMem_empty k)
  have hcidrs : (desired.foldl merged ⟨∅, ∅, ∅⟩).cidrs.keys.length =
      (cidrKeys desired).toFinset.card :=
    keys_length_eq_card fun k => by
      rw [mem_merged_cidrs]
      exact or_iff_right (AList.notMem_empty k)
  have hlen : (desired.map Boundary.net).Nodup →
      (desired.foldl merged ⟨∅, ∅, ∅⟩).policies.keys.length = desired.length := by
    intro hd
    rw [length_merged desired _ hd hnew]
    exact Nat.zero_add _
  unfold preflight
  constructor
  · intro h
    cases hf : forEach desired addBoundary ⟨∅, ∅, ∅⟩ with
    | error e => rw [hf] at h; nomatch h
    | ok t =>
      rw [hf] at h
      obtain ⟨⟨hfit, hd, -⟩, rfl⟩ := (hall t).mp hf
      simp only [] at h
      split at h
      · nomatch h
      rename_i hcap
      cases h
      rw [hlen hd, hrules, hcidrs] at hcap
      exact ⟨⟨hfit, hd, by omega, by omega, by omega, by omega⟩, rfl⟩
  · rintro ⟨hfit, rfl⟩
    rw [(hall _).mpr ⟨⟨hfit.each, hfit.distinct, hnew⟩, rfl⟩]
    simp only []
    rw [hlen hfit.distinct, hrules, hcidrs, if_neg]
    have h₁ := hfit.policies
    have h₂ := hfit.rules
    have h₃ := hfit.cidrs
    have h₄ := hfit.primary
    omega

/-- The network whose entry a write sets or deletes. -/
def Write.net? : Write → Option U32
  | .putPolicy n _ => some n
  | .delPolicy n => some n
  | _ => none

variable {n : U32}

variable {k : BoundaryRule} {ph : Phase} {ws : List Write}

variable {t : Tables}

theorem foldl_keeps (hw : ∀ w ∈ ws, ∀ t, Q t → Q (t.write w)) (ht : Q t) :
    Q (ws.foldl Tables.write t) := by
  induction ws generalizing t with
  | nil => exact ht
  | cons w ws ih =>
    exact ih (fun x hx => hw x (.tail _ hx)) (hw w (.head _) t ht)

/-- **THE LAST WRITE DECIDES** what `obs` reads, among those that hit it. Induction on the writes.
    -/
theorem last_write {β : Sort*} (obs : Tables → β) (hits : Write → Prop)
    (hmiss : ∀ w t, ¬ hits w → obs (t.write w) = obs t) (ws : List Write) (t : Tables) :
    ((∀ w ∈ ws, ¬ hits w) ∧ obs (ws.foldl Tables.write t) = obs t) ∨
      ∃ w ∈ ws, hits w ∧ ∃ t' : Tables, obs (ws.foldl Tables.write t) = obs (t'.write w) := by
  induction ws generalizing t with
  | nil => exact .inl ⟨nofun, rfl⟩
  | cons w ws ih =>
    rcases ih (t.write w) with ⟨hnone, hsame⟩ | ⟨x, hx, hhit, t', hlast⟩
    · by_cases hw : hits w
      · exact .inr ⟨w, .head _, hw, t, hsame⟩
      · exact .inl ⟨List.forall_mem_cons.mpr ⟨hw, hnone⟩, hsame.trans (hmiss w t hw)⟩
    · exact .inr ⟨x, List.mem_cons_of_mem w hx, hhit, t', hlast⟩

variable {w : Write}

theorem write_policy_of_ne (h : w.net? ≠ some n) (t : Tables) :
    (t.write w).policy.lookup n = t.policy.lookup n := by
  cases w with
  | putPolicy k p => exact AList.lookup_insert_ne fun hk => h (congrArg some hk.symm)
  | delPolicy k => exact AList.lookup_erase_ne fun hk => h (congrArg some hk.symm)
  | _ => rfl

theorem policy_written (n : U32) (ws : List Write) (t : Tables) :
    ((∀ w ∈ ws, w.net? ≠ some n) ∧
      (ws.foldl Tables.write t).policy.lookup n = t.policy.lookup n) ∨
    (∃ p, .putPolicy n p ∈ ws ∧ (ws.foldl Tables.write t).policy.lookup n = some p) ∨
    (.delPolicy n ∈ ws ∧ (ws.foldl Tables.write t).policy.lookup n = none) := by
  refine (last_write (fun t => t.policy.lookup n) (fun w => w.net? = some n)
    (fun w t h => write_policy_of_ne h t) ws t).imp_right ?_
  rintro ⟨w, hw, hhit, t', hlast⟩
  cases w with
  | putPolicy k p =>
    cases hhit
    exact .inl ⟨p, hw, hlast.trans (AList.lookup_insert _)⟩
  | delPolicy k =>
    cases hhit
    exact .inr ⟨hw, hlast.trans (AList.lookup_erase _ _)⟩
  | _ => nomatch hhit

def Write.rule? : Write → Option BoundaryRule
  | .putRule k _ => some k
  | .delRule k => some k
  | _ => none

theorem write_rules_of_ne (h : w.rule? ≠ some k) (t : Tables) :
    k ∈ (t.write w).rules ↔ k ∈ t.rules := by
  cases w with
  | putRule j v =>
    exact (AList.mem_insert t.rules).trans (or_iff_right fun hk => h (congrArg some hk.symm))
  | delRule j =>
    exact AList.mem_erase.trans (and_iff_right fun hk => h (congrArg some hk.symm))
  | _ => exact Iff.rfl

theorem rule_written (k : BoundaryRule) (ws : List Write) (t : Tables) :
    ((∀ w ∈ ws, w.rule? ≠ some k) ∧ (k ∈ (ws.foldl Tables.write t).rules ↔ k ∈ t.rules)) ∨
    (∃ v, .putRule k v ∈ ws ∧ k ∈ (ws.foldl Tables.write t).rules) ∨
    (.delRule k ∈ ws ∧ k ∉ (ws.foldl Tables.write t).rules) := by
  refine (last_write (fun t => k ∈ t.rules) (fun w => w.rule? = some k)
    (fun w t h => propext (write_rules_of_ne h t)) ws t).imp (fun h => ⟨h.1, h.2.to_iff⟩) ?_
  rintro ⟨w, hw, hhit, t', hlast⟩
  cases w with
  | putRule j v =>
    cases hhit
    exact .inl ⟨v, hw, hlast.mpr ((AList.mem_insert _).mpr (.inl rfl))⟩
  | delRule j =>
    cases hhit
    exact .inr ⟨hw, fun h => (AList.mem_erase.mp (hlast.mp h)).1 rfl⟩
  | _ => nomatch hhit

def Keeps (Q : Tables → Prop) (ph : Phase) : Prop :=
  ∀ t ws, Q t → ph t = .ok ws → Q (ws.foldl Tables.write t)

/-- **PHASES KEEP WHAT EACH KEEPS**, wherever they stop. -/
theorem runPhases_keeps {phs : List Phase} (h : ∀ ph ∈ phs, Keeps Q ph) (ht : Q t) :
    Q (runPhases phs t).1 := by
  induction phs generalizing t with
  | nil => exact ht
  | cons ph phs ih =>
    unfold runPhases
    cases hp : ph t with
    | error e => exact ht
    | ok ws =>
      exact ih (fun x hx => h x (.tail _ hx))
        (h ph (.head _) t ws ht hp)

theorem runPhases_cons (ph : Phase) (rest : List Phase) (t : Tables) :
    runPhases (ph :: rest) t =
      match ph t with
      | .error e => (t, some e)
      | .ok ws => runPhases rest (ws.foldl Tables.write t) := rfl

theorem runPhases_append (as bs : List Phase) (t : Tables) :
    runPhases (as ++ bs) t =
      match runPhases as t with
      | (t', none) => runPhases bs t'
      | (t', some e) => (t', some e) := by
  induction as generalizing t with
  | nil => rfl
  | cons ph as ih =>
    rw [List.cons_append, runPhases_cons, runPhases_cons]
    cases ph t with
    | error e => rfl
    | ok ws => exact ih _

theorem runPhases_establishes (as : List Phase) {bs : List Phase}
    (hph : ∀ t ws, ph t = .ok ws → Q (ws.foldl Tables.write t)) (hbs : ∀ x ∈ bs, Keeps Q x)
    {t' : Tables} (h : runPhases (as ++ ph :: bs) t = (t', none)) : Q t' := by
  rw [runPhases_append] at h
  rcases hr : runPhases as t with ⟨t₁, e₁⟩
  rw [hr] at h
  cases e₁ with
  | some e => nomatch (Prod.mk.inj h).2
  | none =>
    simp only [runPhases_cons] at h
    split at h
    · nomatch (Prod.mk.inj h).2
    rename_i ws hp
    have hQ := runPhases_keeps hbs (hph t₁ ws hp)
    have hrun : runPhases bs (ws.foldl Tables.write t₁) = (t', none) := h
    rw [hrun] at hQ
    exact hQ

/-- The network's entry is the previous one, or closed. -/
def PreviousOrClosed (prev : Option BoundaryPolicy) (n : U32) (t : Tables) : Prop :=
  ∃ e, t.policy.lookup n = some e ∧ (prev = some e ∨ e.revision = 0#64)

theorem foldl_policy (h : ∀ w ∈ ws, w.net? = none) (t : Tables) :
    (ws.foldl Tables.write t).policy = t.policy := by
  refine foldl_keeps (Q := fun t' => t'.policy = t.policy) (fun w hw t' ht' => ?_) rfl
  have hnone := h w hw
  cases w with
  | putPolicy n p | delPolicy n => nomatch hnone
  | _ => exact ht'

theorem keeps_of_policy_alone (hQ : ∀ t t' : Tables, t'.policy = t.policy → Q t → Q t')
    (h : ∀ t ws, ph t = .ok ws → ∀ w ∈ ws, w.net? = none) : Keeps Q ph := by
  intro t ws ht hph
  exact hQ t _ (foldl_policy (h t ws hph) t) ht

theorem closeWrite_some {e : Sigma fun _ : U32 => BoundaryPolicy} (h : closeWrite t e = some w) :
    w = .putPolicy e.1 (closed e.2.identity) ∧
      ∀ old, t.policy.lookup e.1 = some old → old.identity ≠ e.2.identity := by
  unfold closeWrite at h
  cases hl : t.policy.lookup e.1 with
  | none =>
    rw [hl] at h
    exact ⟨(Option.some.inj h).symm, nofun⟩
  | some old =>
    rw [hl] at h
    simp only [] at h
    split at h
    · nomatch h
    rename_i hne
    refine ⟨(Option.some.inj h).symm, fun old' ho => ?_⟩
    rwa [← Option.some.inj ho]

-- ── what each phase writes

theorem mem_closeChanged (h : closeChanged d t = .ok ws) :
    w ∈ ws ↔ ∃ n p, d.policies.lookup n = some p ∧ w = .putPolicy n (closed p.identity) ∧
      ∀ old, t.policy.lookup n = some old → old.identity ≠ p.identity := by
  cases h
  rw [List.mem_filterMap]
  constructor
  · rintro ⟨⟨n, p⟩, he, hw⟩
    exact ⟨n, p, AList.mem_lookup_iff.mpr he, closeWrite_some hw⟩
  · rintro ⟨n, p, hp, rfl, hno⟩
    refine ⟨⟨n, p⟩, AList.mem_lookup_iff.mp hp, ?_⟩
    unfold closeWrite
    cases hl : t.policy.lookup n with
    | none => rfl
    | some old =>
      simp only []
      rw [if_neg (hno old hl)]

theorem mem_closeUnknown (h : closeUnknown known t = .ok ws) :
    w ∈ ws ↔ ∃ n p, t.policy.lookup n = some p ∧
      (n ∉ known ∧ (p.revision ≠ 0#64 ∨ p.internet = true)) ∧
      w = .putPolicy n { p with revision := 0#64, internet := false } := by
  cases h
  rw [List.mem_filterMap]
  constructor
  · rintro ⟨⟨n, p⟩, he, hw⟩
    split at hw
    · rename_i hcond
      exact ⟨n, p, AList.mem_lookup_iff.mpr he, hcond, (Option.some.inj hw).symm⟩
    · nomatch hw
  · rintro ⟨n, p, hp, hcond, rfl⟩
    exact ⟨⟨n, p⟩, AList.mem_lookup_iff.mp hp, if_pos hcond⟩

variable {old : KMap κ ν}

theorem mem_puts [DecidableEq κ] [DecidableEq ν] {want : KMap κ ν} {put : κ → ν → Write} :
    w ∈ (want.entries.filter fun e => old.lookup e.1 ≠ some e.2).map (fun e => put e.1 e.2) ↔
      ∃ k v, w = put k v ∧ want.lookup k = some v ∧ old.lookup k ≠ some v := by
  rw [List.mem_map]
  constructor
  · rintro ⟨⟨k, v⟩, he, rfl⟩
    obtain ⟨hmem, hcond⟩ := List.mem_filter.mp he
    exact ⟨k, v, rfl, AList.mem_lookup_iff.mpr hmem, of_decide_eq_true hcond⟩
  · rintro ⟨k, v, rfl, hmem, hcond⟩
    exact ⟨⟨k, v⟩, List.mem_filter.mpr ⟨AList.mem_lookup_iff.mp hmem, decide_eq_true hcond⟩, rfl⟩

theorem mem_dels [DecidableEq κ] {del : κ → Write} {cond : κ → Bool} :
    w ∈ (old.keys.filter cond).map del ↔ ∃ k, w = del k ∧ k ∈ old ∧ cond k = true := by
  rw [List.mem_map]
  constructor
  · rintro ⟨k, hk, rfl⟩
    exact ⟨k, rfl, List.mem_filter.mp hk⟩
  · rintro ⟨k, rfl, hk⟩
    exact ⟨k, List.mem_filter.mpr hk, rfl⟩

theorem mem_stageRules (h : stageRules d t = .ok ws) :
    w ∈ ws ↔ (∃ k, w = .delRule k ∧ k ∈ t.rules ∧ liveRule t k = false ∧ k ∉ d.rules) ∨
      ∃ k v, w = .putRule k v ∧ d.rules.lookup k = some v ∧ t.rules.lookup k ≠ some v := by
  unfold stageRules at h
  simp only [] at h
  split at h
  · nomatch h
  cases h
  rw [List.mem_append, mem_dels, mem_puts]
  simp only [Bool.and_eq_true, Bool.not_eq_true', decide_eq_true_eq]

theorem mem_syncMap [DecidableEq κ] [DecidableEq ν] {cap : Nat} {want : KMap κ ν} {del : κ → Write}
    {put : κ → ν → Write} (h : syncMap cap old want del put = .ok ws) :
    w ∈ ws ↔ (∃ k, w = del k ∧ k ∈ old ∧ k ∉ want) ∨
      ∃ k v, w = put k v ∧ want.lookup k = some v ∧ old.lookup k ≠ some v := by
  unfold syncMap at h
  split at h
  · nomatch h
  cases h
  rw [List.mem_append, mem_dels, mem_puts]
  simp only [decide_eq_true_eq]

theorem mem_publish (h : publish d t = .ok ws) :
    w ∈ ws ↔ ∃ n p, w = .putPolicy n p ∧ d.policies.lookup n = some p ∧
      t.policy.lookup n ≠ some p := by
  cases h
  exact mem_puts

theorem mem_retire (h : retire d known t = .ok ws) :
    w ∈ ws ↔ ∃ n, w = .delPolicy n ∧ n ∈ t.policy ∧ n ∈ known ∧ n ∉ d.policies := by
  cases h
  rw [mem_dels]
  simp only [decide_eq_true_eq]

theorem policy_alone (d : Desired) (primary : List PrimaryPort)
    (hph : ph = stageRules d ∨ ph = syncPrimary primary ∨ ph = syncCidrs d ∨ ph = pruneRules d)
    (t : Tables) (ws : List Write) (h : ph t = .ok ws) : ∀ w ∈ ws, w.net? = none := by
  intro w hw
  rcases hph with rfl | rfl | rfl | rfl
  · rcases (mem_stageRules h).mp hw with ⟨k, rfl, -⟩ | ⟨k, v, rfl, -⟩ <;> rfl
  · rcases (mem_syncMap h).mp hw with ⟨k, rfl, -⟩ | ⟨k, v, rfl, -⟩ <;> rfl
  · rcases (mem_syncMap h).mp hw with ⟨k, rfl, -⟩ | ⟨k, v, rfl, -⟩ <;> rfl
  · rcases (mem_syncMap h).mp hw with ⟨k, rfl, -⟩ | ⟨k, v, rfl, -⟩ <;> rfl

variable {p : BoundaryPolicy}

/-- **THE FIRST PHASE COVERS EVERY MANAGED NETWORK.** -/
theorem closeChanged_covers (hp : d.policies.lookup n = some p) (h : closeChanged d t = .ok ws) :
    PreviousOrClosed (t.policy.lookup n) n (ws.foldl Tables.write t) := by
  rcases policy_written n ws t with ⟨hnone, hsame⟩ | ⟨q, hq, hl⟩ | ⟨hdel, -⟩
  · -- no write for this network: it has an entry of the same policy
    cases hold : t.policy.lookup n with
    | none =>
      have hput := (mem_closeChanged h).mpr ⟨n, p, hp, rfl, fun old ho => nomatch hold.symm.trans ho⟩
      exact absurd rfl (hnone _ hput)
    | some old => exact ⟨old, hsame.trans hold, .inl rfl⟩
  · obtain ⟨_, _, -, heq, -⟩ := (mem_closeChanged h).mp hq
    cases heq
    exact ⟨_, hl, .inr rfl⟩
  · obtain ⟨_, _, -, heq, -⟩ := (mem_closeChanged h).mp hdel
    nomatch heq

theorem closeUnknown_keeps (known : List U32) (prev : Option BoundaryPolicy) (n : U32) :
    Keeps (PreviousOrClosed prev n) (closeUnknown known) := by
  intro t ws ht h
  rcases policy_written n ws t with ⟨-, hsame⟩ | ⟨q, hq, hl⟩ | ⟨hdel, -⟩
  · unfold PreviousOrClosed
    rwa [hsame]
  · obtain ⟨_, _, -, -, heq⟩ := (mem_closeUnknown h).mp hq
    cases heq
    exact ⟨_, hl, .inr rfl⟩
  · obtain ⟨_, _, -, -, heq⟩ := (mem_closeUnknown h).mp hdel
    nomatch heq

theorem publish_sets (hp : d.policies.lookup n = some p)
    (h : publish d t = .ok ws) : (ws.foldl Tables.write t).policy.lookup n = some p := by
  rcases policy_written n ws t with ⟨hnone, hsame⟩ | ⟨q, hq, hl⟩ | ⟨hdel, -⟩
  · by_contra hno
    exact hnone _ ((mem_publish h).mpr ⟨n, p, rfl, hp, fun hl => hno (hsame.trans hl)⟩) rfl
  · obtain ⟨_, _, heq, hnew, -⟩ := (mem_publish h).mp hq
    cases heq
    exact hl.trans (hnew.symm.trans hp)
  · obtain ⟨_, _, heq, -⟩ := (mem_publish h).mp hdel
    nomatch heq

theorem retire_keeps (d : Desired) (known : List U32) (hp : d.policies.lookup n = some p) :
    Keeps (fun t => t.policy.lookup n = some p) (retire d known) := by
  intro t ws ht h
  rcases policy_written n ws t with ⟨-, hsame⟩ | ⟨q, hq, -⟩ | ⟨hdel, -⟩
  · exact hsame.trans ht
  · obtain ⟨_, heq, -⟩ := (mem_retire h).mp hq
    nomatch heq
  · obtain ⟨_, heq, -, -, hno⟩ := (mem_retire h).mp hdel
    cases heq
    exact absurd (mem_iff_lookup.mpr ⟨_, hp⟩) hno

theorem rule_spared (known : List U32) (primary : List PrimaryPort) (hk : k ∈ d.rules)
    (hph : ph = stageRules d ∨ ph = syncPrimary primary ∨ ph = syncCidrs d ∨ ph = publish d ∨
      ph = retire d known ∨ ph = pruneRules d) (h : ph t = .ok ws) : .delRule k ∉ ws := by
  intro hw
  rcases hph with rfl | rfl | rfl | rfl | rfl | rfl
  · rcases (mem_stageRules h).mp hw with ⟨x, hx, -, -, hnot⟩ | ⟨x, v, hx, -⟩
    · cases hx
      exact hnot hk
    · nomatch hx
  · rcases (mem_syncMap h).mp hw with ⟨x, hx, -⟩ | ⟨x, v, hx, -⟩ <;> nomatch hx
  · rcases (mem_syncMap h).mp hw with ⟨x, hx, -⟩ | ⟨x, v, hx, -⟩ <;> nomatch hx
  · obtain ⟨_, _, hx, -⟩ := (mem_publish h).mp hw
    nomatch hx
  · obtain ⟨_, hx, -⟩ := (mem_retire h).mp hw
    nomatch hx
  · rcases (mem_syncMap h).mp hw with ⟨x, hx, -, hnot⟩ | ⟨x, v, hx, -⟩
    · cases hx
      exact hnot hk
    · nomatch hx

theorem rule_survives (known : List U32) (primary : List PrimaryPort) (hk : k ∈ d.rules)
    (hph : ph = syncPrimary primary ∨ ph = syncCidrs d ∨ ph = publish d ∨ ph = retire d known ∨
      ph = pruneRules d) : Keeps (fun t => k ∈ t.rules) ph := by
  intro t ws ht h
  rcases rule_written k ws t with ⟨-, hsame⟩ | ⟨v, -, hin⟩ | ⟨hdel, -⟩
  · exact hsame.mpr ht
  · exact hin
  · exact absurd hdel (rule_spared known primary hk (.inr hph) h)

theorem stageRules_stages (hk : k ∈ d.rules) (t : Tables) (ws : List Write)
    (h : stageRules d t = .ok ws) : k ∈ (ws.foldl Tables.write t).rules := by
  rcases rule_written k ws t with ⟨hnone, hsame⟩ | ⟨v, -, hin⟩ | ⟨hdel, -⟩
  · by_contra hno
    obtain ⟨v, hv⟩ := mem_iff_lookup.mp hk
    have hold : t.rules.lookup k ≠ some v := fun hl =>
      hno (hsame.mpr (mem_iff_lookup.mpr ⟨_, hl⟩))
    exact hnone _ ((mem_stageRules h).mpr (.inr ⟨k, v, rfl, hv, hold⟩)) rfl
  · exact hin
  · exact absurd hdel (rule_spared [] [] hk (.inl rfl) h)

/-- A managed network has an entry: the previous one, a closed one, or its new revision with
    all of its rules. -/
def Covered (pre post : Tables) (b : Boundary) : Prop :=
  ∃ e, post.policy.lookup b.net = some e ∧
    (pre.policy.lookup b.net = some e ∨ e.revision = 0#64 ∨
      (e = policyOf b ∧ ∀ r ∈ b.rules, ruleKey b r ∈ post.rules))

theorem prepare_keeps (d : Desired) (known : List U32) (primary : List PrimaryPort)
    (prev : Option BoundaryPolicy) (n : U32) :
    ∀ ph ∈ [closeUnknown known, stageRules d, syncPrimary primary, syncCidrs d],
      Keeps (PreviousOrClosed prev n) ph := by
  have halone : ∀ ph, (ph = stageRules d ∨ ph = syncPrimary primary ∨ ph = syncCidrs d ∨
      ph = pruneRules d) → Keeps (PreviousOrClosed prev n) ph := by
    intro ph hph
    refine keeps_of_policy_alone (fun t₀ t₁ heq => ?_) (policy_alone d primary hph)
    rintro ⟨e, he, hrest⟩
    exact ⟨e, by rw [heq]; exact he, hrest⟩
  intro ph hph
  simp only [List.mem_cons, List.not_mem_nil, or_false] at hph
  rcases hph with rfl | rfl | rfl | rfl
  · exact closeUnknown_keeps known prev n
  · exact halone _ (.inl rfl)
  · exact halone _ (.inr (.inl rfl))
  · exact halone _ (.inr (.inr (.inl rfl)))

theorem prepare_stages {primary : List PrimaryPort} (hk : k ∈ d.rules) {t' : Tables}
    (h : runPhases [closeUnknown known, stageRules d, syncPrimary primary, syncCidrs d] t =
      (t', none)) : k ∈ t'.rules := by
  refine runPhases_establishes [closeUnknown known] (Q := fun t' => k ∈ t'.rules)
    (stageRules_stages hk) (fun ph hph => ?_) h
  simp only [List.mem_cons, List.not_mem_nil, or_false] at hph
  rcases hph with rfl | rfl
  · exact rule_survives known primary hk (.inl rfl)
  · exact rule_survives known primary hk (.inr (.inl rfl))

/-- Publication gives a network its new entry, and keeps every wanted rule. -/
theorem publication (known : List U32) (hp : d.policies.lookup n = some p) (t : Tables) :
    (runPhases [publish d, retire d known, pruneRules d] t).1.policy.lookup n = some p ∧
      ∀ k ∈ d.rules, k ∈ t.rules →
        k ∈ (runPhases [publish d, retire d known, pruneRules d] t).1.rules := by
  constructor
  · obtain ⟨ws, hws⟩ : ∃ ws, publish d t = .ok ws := ⟨_, rfl⟩
    rw [runPhases_cons, hws]
    refine runPhases_keeps (Q := fun t' => t'.policy.lookup n = some p) (fun ph hph => ?_)
      (publish_sets hp hws)
    simp only [List.mem_cons, List.not_mem_nil, or_false] at hph
    rcases hph with rfl | rfl
    · exact retire_keeps d known hp
    · exact keeps_of_policy_alone (fun t₀ t₁ heq h => by rw [heq]; exact h)
        (policy_alone d [] (.inr (.inr (.inr rfl))))
  · intro k hk hin
    refine runPhases_keeps (Q := fun t' => k ∈ t'.rules) (fun ph hph => ?_) hin
    refine rule_survives known [] hk (.inr (.inr ?_))
    simpa only [List.mem_cons, List.not_mem_nil, or_false] using hph

/-- **FROM THE FIRST PHASE ON, EVERY MANAGED NETWORK IS COVERED**, wherever the phases stop. -/
theorem runPhases_covered {primary : List PrimaryPort} {b : Boundary}
    (hp : d.policies.lookup b.net = some (policyOf b)) (hr : ∀ r ∈ b.rules, ruleKey b r ∈ d.rules)
    (t : Tables) :
    Covered t (runPhases [closeChanged d, closeUnknown known, stageRules d, syncPrimary primary,
      syncCidrs d, publish d, retire d known, pruneRules d] t).1 b := by
  obtain ⟨ws, hws⟩ : ∃ ws, closeChanged d t = .ok ws := ⟨_, rfl⟩
  have hstart := closeChanged_covers hp hws
  have hmid := runPhases_keeps (prepare_keeps d known primary (t.policy.lookup b.net) b.net) hstart
  rw [runPhases_cons, hws]
  show Covered t (runPhases ([closeUnknown known, stageRules d, syncPrimary primary, syncCidrs d] ++
    [publish d, retire d known, pruneRules d]) (ws.foldl Tables.write t)).1 b
  rw [runPhases_append]
  rcases hrun : runPhases [closeUnknown known, stageRules d, syncPrimary primary, syncCidrs d]
      (ws.foldl Tables.write t) with ⟨t₂, err⟩
  rw [hrun] at hmid
  cases err with
  | some e =>
    obtain ⟨x, hx, hprev | hzero⟩ := hmid
    · exact ⟨x, hx, .inl hprev⟩
    · exact ⟨x, hx, .inr (.inl hzero)⟩
  | none =>
    obtain ⟨hpol, hrules⟩ := publication known hp t₂
    exact ⟨policyOf b, hpol, .inr (.inr ⟨rfl, fun r hmem =>
      hrules _ (hr r hmem) (prepare_stages (hr r hmem) hrun)⟩)⟩

/-- Every managed VPC is covered after the attempt. -/
def AllCovered (P : Platform) (vpcs : List VPC) (pre post : Tables) : Prop :=
  ∀ v bd, (v, bd) ∈ managed vpcs → Covered pre post (boundaryOf P vpcs v bd)

/-- **EXACTLY WHEN A RESYNC COVERS EVERY MANAGED VPC**: the snapshot is valid and fits, or every
    managed VPC had an entry before. -/
theorem resync_covered_iff (P : Platform) (t : Tables) (vpcs : List VPC) (ports : List VPCPort) :
    AllCovered P vpcs t (resync P t vpcs ports).1 ↔
      (SnapshotValid P vpcs ports ∧ Fits (boundariesOf P vpcs) (primariesOf P vpcs ports)) ∨
        ∀ v bd, (v, bd) ∈ managed vpcs → (t.policy.lookup (vniOf v.vni)).isSome = true := by
  -- nothing written: a VPC is covered iff it had an entry
  have huntouched : AllCovered P vpcs t t ↔
      ∀ v bd, (v, bd) ∈ managed vpcs → (t.policy.lookup (vniOf v.vni)).isSome = true := by
    refine forall₃_congr fun v bd _ => ?_
    rw [Option.isSome_iff_exists]
    exact ⟨fun ⟨e, he, _⟩ => ⟨e, he⟩, fun ⟨e, he⟩ => ⟨e, he, .inl he⟩⟩
  unfold resync
  by_cases hvalid : SnapshotValid P vpcs ports
  · rw [(compileBoundaries_ok_iff P vpcs ports _).mpr ⟨hvalid, rfl⟩]
    simp only []
    unfold syncBoundaries
    by_cases hfit : Fits (boundariesOf P vpcs) (primariesOf P vpcs ports)
    · rw [(preflight_ok_iff _ _ _).mpr ⟨hfit, rfl⟩]
      refine iff_of_true (fun v bd hm => ?_) (.inl ⟨hvalid, hfit⟩)
      have hmem : boundaryOf P vpcs v bd ∈ boundariesOf P vpcs :=
        List.mem_map.mpr ⟨(v, bd), hm, rfl⟩
      refine runPhases_covered ((lookup_merged _ _ hfit.distinct _).1 _ hmem rfl)
        (fun r hr => ?_) t
      exact (mem_merged_rules _ _ _).mpr
        (.inr (List.mem_flatMap.mpr ⟨_, hmem, List.mem_map.mpr ⟨r, hr, rfl⟩⟩))
    · cases hpre : preflight (boundariesOf P vpcs) (primariesOf P vpcs ports) with
      | ok d => exact absurd ((preflight_ok_iff _ _ _).mp hpre).1 hfit
      | error e =>
        simp only [hfit, and_false, false_or]
        exact huntouched
  · cases hc : compileBoundaries P vpcs ports with
    | ok c => exact absurd ((compileBoundaries_ok_iff P vpcs ports c).mp hc).1 hvalid
    | error e =>
      simp only [hvalid, false_and, false_or]
      exact huntouched

section Gate

variable {t : Tables} {m : Maps} {f : Flows} {env : Env} {fr : Frame} {p : Pkt}
variable {key : BoundaryFlow}

theorem absent_admits (hloc : t.policy.lookup key.loc = none)
    (hpeer : t.policy.lookup key.peer = none) :
    boundaryGate (t.install m) f env fr p key = (f, true) := by
  have h₁ : (t.install m).boundaryPolicy key.loc = none := hloc
  have h₂ : (t.install m).boundaryPolicy key.peer = none := hpeer
  unfold boundaryGate
  rw [h₁, h₂]

end Gate

def demoPlatform : Platform where
  parseCIDR text := if text = "10.0.0.0/16" then some (.mask4 0x0a000000#32 16) else none
  parseIP _ := none
  parsePrefix text := if text = "10.0.0.0/16" then some (.v4 0x0a000000#32 16) else none
  policyHash uid _ _ := if uid = "uid-a" then 0xaf29bcc9c9abb7fd#64 else 0#64

/-- A boundary without peers and without Internet. -/
def isolatedVPC : VPC :=
  ⟨⟨"a", "a"⟩, "uid-a", ["10.0.0.0/16"], some ⟨1#64, false, []⟩, 100⟩

/-- A boundary whose revision is not positive. -/
def brokenVPC : VPC := ⟨⟨"b", "b"⟩, "uid-b", [], some ⟨0#64, false, []⟩, 101⟩

def firstTables : Tables := ⟨∅, ∅, ∅, ∅⟩

/-- **ANOTHER VPC'S FAULT LEAVES A MANAGED VPC OPEN**: VNI 101's boundary is invalid, and after the
    resync every packet of VNI 100 to the Internet passes the gate. -/
theorem resync_leaves_managed_open :
    (isolatedVPC, ⟨1#64, false, []⟩) ∈ managed [isolatedVPC, brokenVPC] ∧
    BoundaryValid demoPlatform [isolatedVPC, brokenVPC] isolatedVPC ⟨1#64, false, []⟩ ∧
    (resync demoPlatform firstTables [isolatedVPC, brokenVPC] []).2 =
      some "invalid boundary revision" ∧
    ¬ AllCovered demoPlatform [isolatedVPC, brokenVPC] firstTables
      (resync demoPlatform firstTables [isolatedVPC, brokenVPC] []).1 ∧
    ∀ (m : Maps) (f : Flows) (env : Env) (fr : Frame) (p : Pkt) (key : BoundaryFlow),
      key.loc = 100#32 → key.peer = 0#32 →
      boundaryGate ((resync demoPlatform firstTables [isolatedVPC, brokenVPC] []).1.install m) f
        env fr p key = (f, true) := by
  have hrun : resync demoPlatform firstTables [isolatedVPC, brokenVPC] [] =
      (firstTables, some "invalid boundary revision") := rfl
  have hm : (isolatedVPC, ⟨1#64, false, []⟩) ∈ managed [isolatedVPC, brokenVPC] :=
    mem_managed.mpr ⟨.head _, rfl, rfl⟩
  have hempty : ∀ n, firstTables.policy.lookup n = none := fun n => AList.lookup_empty n
  have hcidr : ∀ text ∈ isolatedVPC.cidrs, ∃ c, demoPlatform.parseCIDR text = some c := by
    intro text ht
    rw [List.mem_singleton.mp ht]
    exact ⟨_, rfl⟩
  rw [hrun]
  refine ⟨hm, ⟨by decide, hcidr, nofun⟩, rfl, fun hall => ?_, fun m f env fr p key _ _ => ?_⟩
  · obtain ⟨e, he, -⟩ := hall _ _ hm
    nomatch he
  · exact absent_admits (hempty _) (hempty _)

end CozyBoundarySync
