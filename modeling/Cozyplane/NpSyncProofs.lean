import Cozyplane.RangeCoverProofs
import Cozyplane.NpCompileProofs

/-!
# Installing NetworkPolicies — the three tables and the update guard

`applyNetworkPolicy` arms the update guard, replaces `np_ident`, `np_allow` and `np_cidr`, and
only then disarms the guard. A sync that does not fit its map stops there, with the guard still
armed.
-/

namespace CozyNpSync

open PrefixTable RangePolicy RangeCover Accumulate CozyPacket CozyMaps CozyDatapath CozyPolicy
open CozyCidr CozyNpCompile

/-- `npPortPrefixes`: port 0 to 0 is the any-port rule. -/
def npPortPrefixes (lo hi : U16) : List (Prefix 16) :=
  if lo = 0#16 ∧ hi = 0#16 then [⟨0#16, 0⟩]
  else cover 16 hi.toNat (hi.toNat + 1 - lo.toNat) lo.toNat

/-- The prefixes `SyncNPAllows` writes for a rule's port fields. -/
def rulePrefixes (port endPort : U16) : List (Prefix 16) :=
  let hi := if endPort = 0#16 then port else endPort
  npPortPrefixes port (if port = 0#16 then 0#16 else hi)

def npIdentEntries : Nat := 65536
def npAllowEntries : Nat := 524288
def npCidrEntries : Nat := 65536

def identEntry (r : NPIdent) : Entry 128 NpIdentVal := ⟨128, r.ip, ⟨r.id, r.flags⟩⟩

/-- `SyncNPIdents`. The map is a hash map: a row covers its own key only. -/
def syncNPIdents (idents : List NPIdent) : Except String (Table 128 NpIdentVal) :=
  forEach idents (fun r => putDesired npIdentEntries (identEntry r)) []

/-- The row of one port prefix of a rule. (The source's prefix length counts two padding bytes
    that every key holds as zero.) -/
def allowEntry (r : NPAllow) (p : Prefix 16) : Entry (8 + 8 + 64 + 64 + 16) Unit :=
  ⟨144 + p.bits, r.dir ++ r.proto ++ r.dstID ++ r.srcID ++ p.base, ()⟩

def syncNPAllows (allows : List NPAllow) : Except String (Table (8 + 8 + 64 + 64 + 16) Unit) :=
  forEach allows (fun r =>
    forEach (rulePrefixes r.port r.endPort) fun p => putDesired npAllowEntries (allowEntry r p)) []

def cidrEntry (c : NPCidr) : Entry (8 + 8 + 16 + 64 + 128) Bool :=
  ⟨96 + (cidrRange c.cidr).plen,
    npCidrDir c.dir (cidrIsV4 c.cidr) ++ c.proto ++ c.port ++ c.id ++ (cidrRange c.cidr).addr,
    c.allow⟩

def syncNPCidrs (cidrs : List NPCidr) : Except String (Table (8 + 8 + 16 + 64 + 128) Bool) :=
  putRanges npCidrEntries (cidrs.map cidrEntry)

abbrev cfgNpInitialized : Nat := 14

def putParam (m : Maps) (i : Nat) (v : U32) : Maps :=
  { m with params := Function.update m.params i v }

/-- `ApplyNetworkPolicy`: the maps it leaves, and its error. -/
def applyNetworkPolicy (m : Maps) (c : NpCompiled) : Maps × Option String :=
  let m := putParam m cfgNpUpdating 1#32
  match syncNPIdents c.idents with
  | .error e => (m, some e)
  | .ok idents =>
    let m := { m with npIdent := find idents }
    match syncNPAllows c.allows with
    | .error e => (m, some e)
    | .ok allows =>
      let m := { m with npAllow := allows }
      match syncNPCidrs c.cidrs with
      | .error e => (m, some e)
      | .ok cidrs =>
        let m := { m with npCidr := cidrs }
        (putParam (putParam m cfgNpInitialized 1#32) cfgNpUpdating 0#32, none)

/-- What a successful installation left. -/
structure Installed (m : Maps) (c : NpCompiled) (m' : Maps) : Prop where
  idents : ∃ t, syncNPIdents c.idents = .ok t ∧ m'.npIdent = find t
  allows : syncNPAllows c.allows = .ok m'.npAllow
  cidrs : syncNPCidrs c.cidrs = .ok m'.npCidr
  guard : m'.params cfgNpUpdating = 0#32
  nodes : m'.npNodes = m.npNodes
  locals : m'.locals = m.locals

variable {P : Platform} {nss : List Namespace} {m : Maps} {reg : Registry} {m' : Maps} {c : NpCompiled}

theorem applyNetworkPolicy_installed (h : applyNetworkPolicy m c = (m', none)) : Installed m c m' := by
  unfold applyNetworkPolicy at h
  split at h
  · nomatch (Prod.mk.inj h).2
  rename_i idents hi
  split at h
  · nomatch (Prod.mk.inj h).2
  rename_i allows hw
  split at h
  · nomatch (Prod.mk.inj h).2
  rename_i cidrs hr
  cases h
  exact ⟨⟨idents, hi, rfl⟩, hw, hr, rfl, rfl, rfl⟩

/-- The port fields of a rule admit the port. -/
def Serves (port endPort q : U16) : Prop :=
  port = 0#16 ∨ (port.toNat ≤ q.toNat ∧
    q.toNat ≤ (if endPort = 0#16 then port else endPort).toNat)

theorem rulePrefixes_iff (port endPort q : U16) :
    (∃ p ∈ rulePrefixes port endPort, p.holds q = true) ↔ Serves port endPort q := by
  unfold rulePrefixes Serves npPortPrefixes
  simp only []
  by_cases hport : port = 0#16
  · subst hport
    simp [Prefix.holds, agree_zero]
  · rw [if_neg hport, if_neg fun h => hport h.1, cover_iff (BitVec.isLt _) _ _ (Nat.le_refl _)]
    simp only [hport, false_or]

-- ── identity probes

def DistinctAddresses (P : Platform) (pods : List Pod) : Prop :=
  ∀ a ∈ pods, ∀ b ∈ pods, ∀ ip, a.owns P ip → b.owns P ip → a = b

theorem identEntry_covers {r : NPIdent} {a : Addr} :
    (identEntry r).covers a = true ↔ r.ip = a := agree_full

/-- **AN ADDRESS HAS ITS POD'S IDENTITY.** -/
theorem npIdent_iff {pods : List Pod} {flags : U64 → U32} (hin : Installed m c m')
    (hd : DistinctAddresses P pods) (hsound : ∀ r ∈ c.idents, ∃ pod ∈ pods, IdentOf P flags pod r)
    (hall : ∀ pod ∈ pods, ∀ a, pod.owns P a → ∃ r ∈ c.idents, r.ip = a) (a : Addr) (v : NpIdentVal) :
    m'.npIdent a = some v ↔
      ∃ pod ∈ pods, pod.owns P a ∧ v = ⟨pod.id P, flags (pod.id P)⟩ := by
  obtain ⟨t, ht, hm⟩ := hin.idents
  obtain ⟨hfrom, hput⟩ := putAll_spec ht
  -- a hit is the row of some pod that owns the address
  have hhit : ∀ v, find t a = some v →
      ∃ pod ∈ pods, pod.owns P a ∧ v = ⟨pod.id P, flags (pod.id P)⟩ := by
    intro v hv
    obtain ⟨e, he, rfl⟩ := Option.map_eq_some_iff.mp hv
    obtain ⟨hmem, hcov, -⟩ := lookup_spec he
    obtain ⟨r, hr, rfl⟩ := hfrom e hmem
    obtain ⟨pod, hpod, hown, hid, hflags⟩ := hsound r hr
    rw [identEntry_covers.mp hcov] at hown
    refine ⟨pod, hpod, hown, ?_⟩
    show (⟨r.id, r.flags⟩ : NpIdentVal) = _
    rw [hid, hflags]
  rw [hm]
  constructor
  · exact hhit v
  · rintro ⟨pod, hpod, hown, rfl⟩
    obtain ⟨r, hr, hip⟩ := hall pod hpod a hown
    obtain ⟨e, he, hsame⟩ := hput r hr
    obtain ⟨hn, hk⟩ := sameKey_iff.mp hsame
    have hcov : e.covers a = true := by
      unfold Entry.covers
      rw [← hn, ← hk]
      exact identEntry_covers.mpr hip
    obtain ⟨l, hl⟩ := lookup_isSome.mpr ⟨e, he, hcov⟩
    have hfind : find t a = some l.val := by rw [find, hl]; rfl
    obtain ⟨pod', hpod', hown', hv⟩ := hhit l.val hfind
    rw [hfind, hv, hd pod hpod pod' hpod' a hown hown']

theorem mem_syncNPAllows {allows : List NPAllow} {t : Table (8 + 8 + 64 + 64 + 16) Unit}
    (h : syncNPAllows allows = .ok t) (e : Entry (8 + 8 + 64 + 64 + 16) Unit) :
    e ∈ t ↔ ∃ r ∈ allows, ∃ p ∈ rulePrefixes r.port r.endPort, e = allowEntry r p := by
  have hadds := Adds.forEach allows fun r _ =>
    Adds.forEach (rulePrefixes r.port r.endPort) fun p _ =>
      putDesired_adds npAllowEntries (allowEntry r p)
  have hrow := hadds [] t h e
  simpa using hrow

theorem allowEntry_covers {r : NPAllow} {p : Prefix 16} {dir proto : U8} {dstId srcId : U64}
    {q : U16} :
    (allowEntry r p).covers (dir ++ proto ++ dstId ++ srcId ++ q) = true ↔
      (r.dir = dir ∧ r.proto = proto ∧ r.dstID = dstId ∧ r.srcID = srcId) ∧ p.holds q = true := by
  show agree (8 + 8 + 64 + 64 + p.bits) (r.dir ++ r.proto ++ r.dstID ++ r.srcID ++ p.base)
    (dir ++ proto ++ dstId ++ srcId ++ q) = true ↔ _
  rw [agree_append, append_inj, append_inj, append_inj]
  simp only [and_assoc]
  rfl

theorem allows_lookup {allows : List NPAllow} {t : Table (8 + 8 + 64 + 64 + 16) Unit}
    (h : syncNPAllows allows = .ok t) (dir proto : U8) (dstId srcId : U64) (q : U16) :
    (find t (dir ++ proto ++ dstId ++ srcId ++ q)).isSome = true ↔
      ∃ r ∈ allows, (r.dir = dir ∧ r.proto = proto ∧ r.dstID = dstId ∧ r.srcID = srcId) ∧
        Serves r.port r.endPort q := by
  have hhit : (find t (dir ++ proto ++ dstId ++ srcId ++ q)).isSome = true ↔
      ∃ e ∈ t, e.covers (dir ++ proto ++ dstId ++ srcId ++ q) = true := by
    rw [← lookup_isSome]
    unfold find
    rw [Option.isSome_map, Option.isSome_iff_exists]
  rw [hhit]
  constructor
  · rintro ⟨e, he, hcov⟩
    obtain ⟨r, hr, p, hp, rfl⟩ := (mem_syncNPAllows h e).mp he
    obtain ⟨hfields, hq⟩ := allowEntry_covers.mp hcov
    exact ⟨r, hr, hfields, (rulePrefixes_iff _ _ _).mp ⟨p, hp, hq⟩⟩
  · rintro ⟨r, hr, hfields, hserves⟩
    obtain ⟨p, hp, hq⟩ := (rulePrefixes_iff _ _ _).mpr hserves
    exact ⟨allowEntry r p, (mem_syncNPAllows h _).mpr ⟨r, hr, p, hp, rfl⟩,
      allowEntry_covers.mpr ⟨hfields, hq⟩⟩

/-- **AN IDENTITY PROBE HITS EXACTLY ON A RULE THAT SERVES THE PORT.** -/
theorem npAllowHit_iff (hin : Installed m c m') (dir proto : U8) (dstId srcId : U64) (q : U16) :
    npAllowHit m' dir proto dstId srcId q = true ↔
      ∃ r ∈ c.allows, (r.dir = dir ∧ r.proto = proto ∧ r.dstID = dstId ∧ r.srcID = srcId) ∧
        Serves r.port r.endPort q := allows_lookup hin.allows dir proto dstId srcId q

/-- **PORT RANGES ARE DECOMPOSED EXACTLY**, into at most 31 aligned blocks from left to right; a
    lookup therefore succeeds on the ports of the rules and on no others. -/
theorem portRange_exact (lo hi : U16) (hany : ¬ (lo = 0#16 ∧ hi = 0#16)) :
    ((npPortPrefixes lo hi).length ≤ 31 ∧
      (∀ n, cover 16 hi.toNat (hi.toNat + 1 - lo.toNat + n) lo.toNat = npPortPrefixes lo hi) ∧
      (∀ p ∈ npPortPrefixes lo hi, p.bits ≤ 16 ∧ p.size ∣ p.base.toNat ∧ ∀ q, p.holds q = true ↔
        p.base.toNat ≤ q.toNat ∧ q.toNat < p.base.toNat + p.size) ∧
      ((npPortPrefixes lo hi).Pairwise fun p q => p.base.toNat + p.size ≤ q.base.toNat) ∧
      ∀ q : U16, (∃ p ∈ npPortPrefixes lo hi, p.holds q = true) ↔
        lo.toNat ≤ q.toNat ∧ q.toNat ≤ hi.toNat) ∧
    ∀ (allows : List NPAllow) (t : Table (8 + 8 + 64 + 64 + 16) Unit), syncNPAllows allows = .ok t →
      ∀ (dir proto : U8) (dstId srcId : U64) (q : U16),
        (find t (dir ++ proto ++ dstId ++ srcId ++ q)).isSome = true ↔
          ∃ r ∈ allows, (r.dir = dir ∧ r.proto = proto ∧ r.dstID = dstId ∧ r.srcID = srcId) ∧
            Serves r.port r.endPort q := by
  refine ⟨?_, fun _ _ h => allows_lookup h⟩
  have hhi : hi.toNat < 2 ^ 16 := hi.isLt
  unfold npPortPrefixes
  rw [if_neg hany]
  obtain ⟨hblocks, hpairs⟩ := cover_blocks hhi (hi.toNat + 1 - lo.toNat) lo.toNat
  refine ⟨cover_length (by decide) hhi _ _ 0 (Nat.one_dvd _) (.inl rfl),
    fun n => cover_fuel _ n _ (Nat.le_refl _), fun p hp => ?_, hpairs,
    cover_iff hhi _ _ (Nat.le_refl _)⟩
  obtain ⟨hb, hd, -⟩ := hblocks p hp
  exact ⟨hb, hd, p.holds_iff hb hd⟩

theorem portRange_exact_low : (npPortPrefixes 1#16 6#16).map (fun p => (p.base, p.size)) =
      [(1#16, 1), (2#16, 2), (4#16, 2), (6#16, 1)] ∧ (npPortPrefixes 1#16 6#16).length ≤ 31 :=
  ⟨by decide, (portRange_exact 1#16 6#16 (by decide)).1.1⟩

/-- Everything of a range row's key in front of the address. -/
def npScope (dir : U8) (isV4 : Bool) (proto : U8) (port : U16) (id : U64) :
    BitVec (8 + 8 + 16 + 64) :=
  npCidrDir dir isV4 ++ proto ++ port ++ id

def npRange (dir proto : U8) (port : U16) (id : U64) (c : IPNet) :
    ScopedRange (8 + 8 + 16 + 64) 128 :=
  ⟨cidrRange c, npScope dir (cidrIsV4 c) proto port id⟩

/-- An ipBlock with its own exceptions, for one subject and port. -/
def npBlock (P : Platform) (self : U64) (dir : U8) (p : NpPort) (cidr : IPNet) (b : IPBlock) :
    Block (8 + 8 + 16 + 64) 128 :=
  ⟨npRange dir p.proto p.port self cidr,
    (b.except.filterMap P.parseCIDR).map (npRange dir p.proto p.port self)⟩

def ruleNpBlocks (P : Platform) (dir : U8) (self : U64) (rule : Rule) :
    Set (Block (8 + 8 + 16 + 64) 128) :=
  { x | ∃ b ∈ ruleBlocks rule, ∃ cidr, P.parseCIDR b.cidr = some cidr ∧
      ∃ p ∈ expandPorts (npCompilePorts rule.ports), x = npBlock P self dir p cidr b }

def policyNpBlocks (P : Platform) (reg : Registry) (np : NetworkPolicy) :
    Set (Block (8 + 8 + 16 + 64) 128) :=
  { x | ∃ holds, P.selector np.podSelector = some holds ∧ ∃ self ∈ subjectsOf reg holds np,
      (hasIngress np = true ∧ ∃ rule ∈ np.ingress, x ∈ ruleNpBlocks P npDirIn self rule) ∨
      (hasEgress np = true ∧ ∃ rule ∈ np.egress.getD [], x ∈ ruleNpBlocks P npDirEg self rule) }

def npBlocks (P : Platform) (reg : Registry) (nps : List NetworkPolicy) :
    Set (Block (8 + 8 + 16 + 64) 128) :=
  { x | ∃ np ∈ nps, x ∈ policyNpBlocks P reg np }

variable {e : Entry (8 + 8 + 16 + 64 + 128) Bool}

theorem mem_npBlock_rows {self : U64} {dir : U8} {p : NpPort} {cidr : IPNet} {b : IPBlock} :
    e ∈ (npBlock P self dir p cidr b).rows ↔
      e = cidrEntry ⟨self, dir, p.proto, p.port, cidr, true⟩ ∨
        ∃ text ∈ b.except, ∃ ex, P.parseCIDR text = some ex ∧
          e = cidrEntry ⟨self, dir, p.proto, p.port, ex, false⟩ := by
  unfold npBlock Block.rows
  rw [List.mem_cons]
  refine or_congr Iff.rfl ?_
  simp only [List.map_map, List.mem_map, List.mem_filterMap]
  constructor
  · rintro ⟨ex, ⟨text, ht, hex⟩, rfl⟩
    exact ⟨text, ht, ex, hex, rfl⟩
  · rintro ⟨text, ht, ex, hex, rfl⟩
    exact ⟨ex, ⟨text, ht, hex⟩, rfl⟩

theorem ruleRows_cidr {ns : String} {dir : U8} {self : U64} {rule : Rule} :
    (∃ d, RuleRows P nss reg ns dir self rule (.cidr d) ∧ cidrEntry d = e) ↔
      ∃ x ∈ ruleNpBlocks P dir self rule, e ∈ x.rows := by
  constructor
  · rintro ⟨d, ⟨peer, -, p, -, h⟩ | ⟨b, hb, cidr, hc, p, hp, h⟩, rfl⟩
    · nomatch h
    · refine ⟨_, ⟨b, hb, cidr, hc, p, hp, rfl⟩, mem_npBlock_rows.mpr ?_⟩
      rcases h with h | ⟨text, ht, ex, hex, h⟩
      · exact .inl (congrArg cidrEntry (NpRow.cidr.inj h))
      · exact .inr ⟨text, ht, ex, hex, congrArg cidrEntry (NpRow.cidr.inj h)⟩
  · rintro ⟨x, ⟨b, hb, cidr, hc, p, hp, rfl⟩, he⟩
    rcases mem_npBlock_rows.mp he with rfl | ⟨text, ht, ex, hex, rfl⟩
    · exact ⟨_, .inr ⟨b, hb, cidr, hc, p, hp, .inl rfl⟩, rfl⟩
    · exact ⟨_, .inr ⟨b, hb, cidr, hc, p, hp, .inr ⟨text, ht, ex, hex, rfl⟩⟩, rfl⟩

theorem cidrs_flatten {nps : List NetworkPolicy} {cidrs : List NPCidr}
    (h : ∀ d, d ∈ cidrs ↔ ∃ np ∈ nps, PolicyRows P nss reg np (.cidr d)) :
    Flattens (cidrs.map cidrEntry) (npBlocks P reg nps) := by
  intro e
  rw [List.mem_map]
  constructor
  · rintro ⟨d, hd, he⟩
    obtain ⟨np, hnp, holds, hsel, self, hself, hrow⟩ := (h d).mp hd
    rcases hrow with ⟨hdir, ⟨g, hg, -⟩ | ⟨rule, hr, hrow⟩⟩ | ⟨hdir, ⟨g, hg, -⟩ | ⟨rule, hr, hrow⟩⟩
    · nomatch hg
    · obtain ⟨x, hx, hex⟩ := ruleRows_cidr.mp ⟨d, hrow, he⟩
      exact ⟨x, ⟨np, hnp, holds, hsel, self, hself, .inl ⟨hdir, rule, hr, hx⟩⟩, hex⟩
    · nomatch hg
    · obtain ⟨x, hx, hex⟩ := ruleRows_cidr.mp ⟨d, hrow, he⟩
      exact ⟨x, ⟨np, hnp, holds, hsel, self, hself, .inr ⟨hdir, rule, hr, hx⟩⟩, hex⟩
  · rintro ⟨x, ⟨np, hnp, holds, hsel, self, hself, ⟨hdir, rule, hr, hx⟩ | ⟨hdir, rule, hr, hx⟩⟩, hex⟩
    · obtain ⟨d, hrow, he⟩ := ruleRows_cidr.mpr ⟨x, hx, hex⟩
      exact ⟨d, (h d).mpr ⟨np, hnp, holds, hsel, self, hself,
        Or.inl ⟨hdir, .inr ⟨rule, hr, hrow⟩⟩⟩, he⟩
    · obtain ⟨d, hrow, he⟩ := ruleRows_cidr.mpr ⟨x, hx, hex⟩
      exact ⟨d, (h d).mpr ⟨np, hnp, holds, hsel, self, hself,
        Or.inr ⟨hdir, .inr ⟨rule, hr, hrow⟩⟩⟩, he⟩

/-- **THE RANGE PROBE IS THE TWO-SCOPE QUESTION**: the exact port, then any port. -/
theorem npCidrCheck_iff {nps : List NetworkPolicy} (hin : Installed m c m')
    (h : ∀ d, d ∈ c.cidrs ↔ ∃ np ∈ nps, PolicyRows P nss reg np (.cidr d)) (q : NpQuery) (dir : U8)
    (self : U64) (a : Addr) :
    npCidrCheck m' q dir self a = true ↔
      Decided (npBlocks P reg nps) (npScope dir q.isV4 q.proto q.dport self)
        (npScope dir q.isV4 q.proto 0#16 self) a :=
  twoLevel_blocks hin.cidrs (cidrs_flatten h) _ _ a

end CozyNpSync
