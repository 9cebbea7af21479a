import Cozyplane.PolicySnapshotProofs

/-!
# SecurityGroup CIDR rows — the longest match carries the union

A lookup in `sg_cidr` returns ONE row, that of the longest prefix. `unionContaining` therefore puts
into every row the groups of all rules of its tier (network, protocol, port) whose CIDR contains the
row's. The rules that contain an address are all ancestors of the longest one, so that one row says it
all.
-/

namespace CozySgCidr

open PrefixTable KernelMap RangePolicy Accumulate CozyPacket CozyPolicy CozyCidr
open CozyPolicySnapshot

/-- The union of group bitmaps. -/
def unions (l : List U64) : U64 := l.foldl (fun acc b => acc ||| b) 0#64

theorem or_bit {α : Type} (f : α → U64) (l : List α) (acc : U64) (i : Nat) :
    (l.foldl (fun acc a => acc ||| f a) acc).getLsbD i = true ↔
      acc.getLsbD i = true ∨ ∃ a ∈ l, (f a).getLsbD i = true := by
  induction l generalizing acc with
  | nil => exact ⟨.inl, fun h => h.resolve_right fun ⟨a, ha, _⟩ => nomatch ha⟩
  | cons a l ih =>
    rw [List.foldl_cons, ih, BitVec.getLsbD_or, Bool.or_eq_true, or_assoc, List.exists_mem_cons_iff]

theorem unions_bit (l : List U64) (i : Nat) :
    (unions l).getLsbD i = true ↔ ∃ b ∈ l, b.getLsbD i = true := by
  unfold unions
  rw [or_bit]
  exact or_iff_right (by simp)

section

variable {κ : Type} [DecidableEq κ]

/-- A bit of the value under a key; no value has no bits. -/
def HasBit (m : KMap κ U64) (k : κ × Nat) : Prop := ((m.lookup k.1).getD 0#64).getLsbD k.2 = true

theorem hasBit_insert (m : KMap κ U64) (k : κ) (groups : U64) (r : κ × Nat) :
    HasBit (m.insert k ((m.lookup k).getD 0#64 ||| groups)) r ↔
      HasBit m r ∨ r.1 = k ∧ groups.getLsbD r.2 = true := by
  unfold HasBit
  by_cases hk : r.1 = k
  · rw [hk, AList.lookup_insert, Option.getD_some, BitVec.getLsbD_or, Bool.or_eq_true]
    exact or_congr_right ⟨fun h => ⟨rfl, h⟩, fun h => h.2⟩
  · rw [AList.lookup_insert_ne hk]
    exact (or_iff_left fun h => hk h.1).symm

theorem orDesired_adds (cap : Nat) (k : κ) (groups : U64) :
    Adds HasBit (fun want => orDesired cap want k groups) fun r => r.1 = k ∧ groups.getLsbD r.2 = true := by
  intro want want' h r
  rw [putDesired_ok h]
  exact hasBit_insert ..

theorem orDesired_keys (cap : Nat) (k : κ) (groups : U64) :
    Adds (fun (want : KMap κ U64) j => j ∈ want) (fun want => orDesired cap want k groups) (· = k) := by
  intro want want' h j
  show j ∈ want' ↔ j ∈ want ∨ j = k
  rw [putDesired_ok h, AList.mem_insert]
  exact Or.comm

end

theorem shorten_contains {p : NetPrefix} {s : Ip} (h : p.contains s = true) (bits : Nat) :
    (NetPrefix.shorten bits p).contains s = true := by
  cases p with
  | v4 a n =>
    show (NetPrefix.v4 a ⟨min bits n.val, _⟩).masked.contains s = true
    rw [masked_contains]
    cases s with
    | v4 b => exact agree_mono (min_le_right bits n.val) h
    | v6 b => nomatch h
  | v6 a n =>
    show (NetPrefix.v6 a ⟨min bits n.val, _⟩).masked.contains s = true
    rw [masked_contains]
    cases s with
    | v4 b => nomatch h
    | v6 b => exact agree_mono (min_le_right bits n.val) h

theorem masked_bits (p : NetPrefix) : p.masked.bits = p.bits := by
  cases p <;> rfl

/-- **ANCESTORS**: of two prefixes that contain an address the shorter is the longer one shortened. -/
theorem shorten_eq {p q : NetPrefix} {s : Ip} (hp : p.contains s = true) (hq : q.contains s = true)
    (hle : q.bits ≤ p.bits) : NetPrefix.shorten q.bits p = q.masked := by
  have hcut : ∀ {w : Nat} {a b c : BitVec w} {n m : Nat}, m ≤ n → n ≤ w → agree n a c = true →
      agree m b c = true → (a >>> (w - m)) <<< (w - m) = (b >>> (w - m)) <<< (w - m) := by
    intro w a b c n m hmn hn ha hb
    refine Range.addr_eq (r := Range.around m (by omega) a) (s := Range.around m (by omega) b) rfl ?_
    have hone : ∀ x : BitVec w, agree m x c = true →
        agree m ((x >>> (w - m)) <<< (w - m)) c = true :=
      fun x hx => (Range.around_contains (by omega) x c).trans hx
    exact agree_trans (hone a (agree_mono hmn ha)) (agree_symm (hone b hb))
  cases s with
  | v4 c =>
    cases p with
    | v6 a n => nomatch hp
    | v4 a n =>
      cases q with
      | v6 b m => nomatch hq
      | v4 b m =>
        have hle : m.val ≤ n.val := hle
        have hmin : (⟨min m.val n.val, by omega⟩ : Fin 33) = m := Fin.ext (min_eq_left hle)
        show (NetPrefix.v4 a ⟨min m.val n.val, _⟩).masked = _
        rw [hmin]
        show NetPrefix.v4 _ m = .v4 _ m
        rw [hcut hle (Nat.le_of_lt_succ n.isLt) hp hq]
  | v6 c =>
    cases p with
    | v4 a n => nomatch hp
    | v6 a n =>
      cases q with
      | v4 b m => nomatch hq
      | v6 b m =>
        have hle : m.val ≤ n.val := hle
        have hmin : (⟨min m.val n.val, by omega⟩ : Fin 129) = m := Fin.ext (min_eq_left hle)
        show (NetPrefix.v6 a ⟨min m.val n.val, _⟩).masked = _
        rw [hmin]
        show NetPrefix.v6 _ m = .v6 _ m
        rw [hcut hle (Nat.le_of_lt_succ n.isLt) hp hq]

-- ── the rows

/-- The rule is of the tier and contains the address. -/
def Matches (scope : U32) (proto : U8) (port : U16) (s : Ip) (g : CidrGroup) : Prop :=
  g.scope = scope ∧ g.proto = proto ∧ g.port = port ∧ ∃ c, g.cidr = some c ∧ c.contains s = true

theorem tierIndex_bit (items : List CidrGroup) (k : TierKey) (i : Nat) :
    HasBit (tierIndex items) (k, i) ↔ ∃ g ∈ items, ∃ c, g.cidr = some c ∧
      k = g.tier (normalizedCIDR c).masked ∧ g.groups.getLsbD i = true := by
  induction items using List.reverseRecOn with
  | nil => exact ⟨fun h => absurd h (by simp [HasBit, tierIndex]), fun ⟨g, hg, _⟩ => nomatch hg⟩
  | append_singleton items g ih =>
    have hlast : (∃ g' ∈ items ++ [g], ∃ c, g'.cidr = some c ∧
        k = g'.tier (normalizedCIDR c).masked ∧ g'.groups.getLsbD i = true) ↔
        HasBit (tierIndex items) (k, i) ∨ ∃ c, g.cidr = some c ∧
          k = g.tier (normalizedCIDR c).masked ∧ g.groups.getLsbD i = true := by
      rw [ih]
      simp only [List.mem_append, List.mem_singleton, or_and_right, exists_or, exists_eq_left]
    rw [hlast]
    unfold tierIndex
    rw [List.foldl_append, List.foldl_cons, List.foldl_nil]
    cases hc : g.cidr with
    | none => exact (or_iff_left fun ⟨c, hc', _⟩ => nomatch hc').symm
    | some c =>
      refine (hasBit_insert _ _ _ _).trans (or_congr_right ⟨fun h => ⟨c, rfl, h⟩, ?_⟩)
      rintro ⟨c', hc', h⟩
      cases hc'
      exact h

/-- The groups `unionContaining` gives a rule. -/
def containing (items : List CidrGroup) (g : CidrGroup) (c : IPNet) : U64 :=
  (List.range ((normalizedCIDR c).masked.bits + 1)).foldl (fun out bits => out |||
    ((tierIndex items).lookup (g.tier (NetPrefix.shorten bits (normalizedCIDR c).masked))).getD 0#64) 0#64

theorem containing_bit (items : List CidrGroup) (g : CidrGroup) (c : IPNet) (i : Nat) :
    (containing items g c).getLsbD i = true ↔ ∃ bits ≤ (normalizedCIDR c).masked.bits, ∃ g' ∈ items,
      ∃ c', g'.cidr = some c' ∧ g.tier (NetPrefix.shorten bits (normalizedCIDR c).masked) =
        g'.tier (normalizedCIDR c').masked ∧ g'.groups.getLsbD i = true := by
  unfold containing
  rw [or_bit, or_iff_right (by simp)]
  refine exists_congr fun bits => and_congr ?_ (tierIndex_bit ..)
  rw [List.mem_range, Nat.lt_succ_iff]

variable {items : List CidrGroup} {want : KMap (RowKey (32 + 16 + 16 + 128)) U64}

section
variable {ρ : Type} {cap : Nat} {view : KMap (RowKey (32 + 16 + 16 + 128)) U64 → ρ → Prop}
  {rows : RowKey (32 + 16 + 16 + 128) → U64 → ρ → Prop}
  (hput : ∀ k groups, Adds view (fun want => orDesired cap want k groups) (rows k groups))
include hput

theorem cidrRow_adds (g : CidrGroup) (groups : U64) :
    Adds view (fun want => match g.cidr with
      | none => .ok want
      | some c => orDesired cap want (cidrGroupKey g c) groups)
      (fun r => ∃ c, g.cidr = some c ∧ rows (cidrGroupKey g c) groups r) := by
  intro want want' h r
  cases hc : g.cidr with
  | none =>
    rw [hc] at h
    cases h
    simp
  | some c =>
    rw [hc] at h
    refine (hput _ _ _ _ h r).trans (or_congr_right ⟨fun hr => ⟨c, rfl, hr⟩, ?_⟩)
    rintro ⟨c', hc', hr⟩
    cases hc'
    exact hr

/-- What the loop puts: a row for every rule with a CIDR, with the rule's union. -/
theorem syncCidrGroups_adds (h : syncCidrGroups cap items = .ok want) (r : ρ) :
    view want r ↔ view ∅ r ∨
      ∃ g ∈ items, ∃ c, g.cidr = some c ∧ rows (cidrGroupKey g c) (containing items g c) r := by
  unfold syncCidrGroups unionContaining at h
  rw [← List.map_prod_left_eq_zip] at h
  refine (Adds.forEach _ (fun x _ => cidrRow_adds hput x.1 x.2) _ _ h r).trans
    (or_congr_right ⟨?_, ?_⟩)
  · rintro ⟨x, hx, c, hc, hr⟩
    obtain ⟨g, hg, rfl⟩ := List.mem_map.mp hx
    rw [hc] at hr
    exact ⟨g, hg, c, hc, hr⟩
  · rintro ⟨g, hg, c, hc, hr⟩
    refine ⟨_, List.mem_map_of_mem hg, c, hc, ?_⟩
    rw [hc]
    exact hr

end

/-- A row covers an address of the query's tier iff its rule matches. -/
theorem cidrGroupKey_covers {g : CidrGroup} {c : IPNet} (scope : U32) (proto : U8) (port : U16) (s : Ip) :
    agree (cidrGroupKey g c).plen (cidrGroupKey g c).key
        (scope ++ port ++ cidrProto proto (!s.isV4) ++ s.key) = true ↔
      g.scope = scope ∧ g.proto = proto ∧ g.port = port ∧ c.contains s = true := by
  rw [← cidrRange_contains]
  refine (agree_append (v := 32 + 16 + 16) ..).trans ?_
  have hfam : ∀ a b : Bool, (if !a then 6#8 else 4#8) = (if !b then 6#8 else 4#8) ↔ a = b := by decide
  have hproto : cidrProto g.proto (!cidrIsV4 c) = cidrProto proto (!s.isV4) ↔
      g.proto = proto ∧ cidrIsV4 c = s.isV4 := by
    rw [cidrProto, cidrProto, append_inj, hfam, and_comm]
  rw [append_inj, append_inj, hproto]
  constructor
  · rintro ⟨⟨⟨h₁, h₂⟩, h₃, h₄⟩, h₅⟩
    exact ⟨h₁, h₃, h₂, h₄, h₅⟩
  · rintro ⟨h₁, h₂, h₃, h₄, h₅⟩
    exact ⟨⟨⟨h₁, h₃⟩, h₂, h₄⟩, h₅⟩

/-- Of two CIDRs of one family the row of the longer prefix is the longer one. -/
theorem bits_le {c c' : IPNet} {s : Ip} (h : c.contains s = true) (h' : c'.contains s = true)
    (hle : (cidrRange c').plen ≤ (cidrRange c).plen) :
    (normalizedCIDR c').masked.bits ≤ (normalizedCIDR c).masked.bits := by
  unfold IPNet.contains at h h'
  unfold cidrRange at hle
  revert h h' hle
  cases normalizedCIDR c with
  | v4 a n =>
    cases normalizedCIDR c' with
    | v4 b m => exact fun _ _ => Nat.le_of_add_le_add_left
    | v6 b m =>
      cases s with
      | v4 _ => exact fun _ h' => nomatch h'
      | v6 _ => exact nofun
  | v6 a n =>
    cases normalizedCIDR c' with
    | v4 b m =>
      cases s with
      | v4 _ => exact nofun
      | v6 _ => exact fun _ h' => nomatch h'
    | v6 b m => exact fun _ _ hle => hle

/-- **ONE ROW CARRIES THE UNION** of its tier. -/
theorem tier_bit {cap : Nat} (h : syncCidrGroups cap items = .ok want) (scope : U32) (proto : U8)
    (port : U16) (s : Ip) (i : Nat) :
    ((find (mapTable want) (scope ++ port ++ cidrProto proto (!s.isV4) ++ s.key)).getD 0#64).getLsbD i =
      true ↔ ∃ g ∈ items, Matches scope proto port s g ∧ g.groups.getLsbD i = true := by
  have hkeys := fun k => (syncCidrGroups_adds (orDesired_keys cap) h k).trans
    (or_iff_right (AList.notMem_empty k))
  have hbits : ∀ k i, HasBit want (k, i) ↔ ∃ g ∈ items, ∃ c, g.cidr = some c ∧ k = cidrGroupKey g c ∧
      (containing items g c).getLsbD i = true := fun k i =>
    (syncCidrGroups_adds (orDesired_adds cap) h (k, i)).trans (or_iff_right (by simp [HasBit]))
  unfold find
  cases hfind : lookup (mapTable want) (scope ++ port ++ cidrProto proto (!s.isV4) ++ s.key) with
  | none =>
    refine iff_of_false (by simp) ?_
    rintro ⟨g, hg, ⟨hs, hp, hq, c, hc, hin⟩, -⟩
    obtain ⟨v, hv⟩ := mem_iff_lookup.mp ((hkeys _).mpr ⟨g, hg, c, hc, rfl⟩)
    have hcov := (cidrGroupKey_covers scope proto port s).mpr ⟨hs, hp, hq, hin⟩
    have hnone := lookup_eq_none.mp hfind ⟨_, _, v⟩ (mem_mapTable.mpr hv)
    nomatch hcov.symm.trans hnone
  | some e =>
    obtain ⟨he, hcov, hlongest⟩ := lookup_spec hfind
    have hrow := mem_mapTable.mp he
    have hbit : (e.val.getLsbD i = true) ↔ HasBit want (rowKey e, i) := by
      unfold HasBit
      rw [hrow]
      rfl
    show e.val.getLsbD i = true ↔ _
    rw [hbit, hbits]
    constructor
    · rintro ⟨g, hg, c, hc, hk, hcontaining⟩
      have hcov' : agree (rowKey e).plen (rowKey e).key _ = true := hcov
      rw [hk] at hcov'
      obtain ⟨rfl, rfl, rfl, hin⟩ := (cidrGroupKey_covers scope proto port s).mp hcov'
      obtain ⟨bits, _, g', hg', c', hc', htier, hgroup⟩ := (containing_bit ..).mp hcontaining
      obtain ⟨hs, hp, hq, hpre⟩ := TierKey.mk.inj htier
      refine ⟨g', hg', ⟨hs.symm, hp.symm, hq.symm, c', hc', ?_⟩, hgroup⟩
      have hshort := shorten_contains (p := (normalizedCIDR c).masked) (s := s)
        ((masked_contains ..).trans hin) bits
      rw [hpre, masked_contains] at hshort
      exact hshort
    · rintro ⟨g', hg', ⟨hs, hp, hq, c', hc', hin'⟩, hgroup⟩
      obtain ⟨g, hg, c, hc, hk⟩ := (hkeys _).mp (mem_iff_lookup.mpr ⟨_, hrow⟩)
      have hcov' : agree (rowKey e).plen (rowKey e).key _ = true := hcov
      rw [hk] at hcov'
      obtain ⟨hs₁, hp₁, hq₁, hin⟩ := (cidrGroupKey_covers scope proto port s).mp hcov'
      have hrows : (cidrRange c').plen ≤ (cidrRange c).plen := by
        obtain ⟨v, hv⟩ := mem_iff_lookup.mp ((hkeys _).mpr ⟨g', hg', c', hc', rfl⟩)
        have hle := hlongest ⟨_, _, v⟩ (mem_mapTable.mpr hv)
          ((cidrGroupKey_covers scope proto port s).mpr ⟨hs, hp, hq, hin'⟩)
        have hplen : e.plen = 64 + (cidrRange c).plen := congrArg RowKey.plen hk
        rw [hplen] at hle
        exact Nat.le_of_add_le_add_left hle
      refine ⟨g, hg, c, hc, hk, (containing_bit ..).mpr
        ⟨_, bits_le hin hin' hrows, g', hg', c', hc', ?_, hgroup⟩⟩
      · rw [CidrGroup.tier, CidrGroup.tier, hs, hs₁, hp, hp₁, hq, hq₁]
        have hshort := shorten_eq ((masked_contains _ s).trans hin) hin'
          ((masked_bits (normalizedCIDR c')).symm.le.trans (bits_le hin hin' hrows))
        rw [masked_bits, hshort]

/-- What the datapath reads for one packet: the row for its port and the row for any port. -/
def cidrGroups (t : Table (32 + 16 + 16 + 128) U64) (net : U32) (port proto : U16) (addr : Addr) : U64 :=
  (find t (net ++ port ++ proto ++ addr)).getD 0#64 ||| (find t (net ++ 0#16 ++ proto ++ addr)).getD 0#64

theorem rowHit_iff (groups : U64) (o : Option U64) :
    (match o with | some b => b &&& groups != 0#64 | none => false) = true ↔
      o.getD 0#64 &&& groups ≠ 0#64 := by
  cases o with
  | none => simp
  | some b => exact bne_iff_ne

theorem cidrRuleHit_iff (t : Table (32 + 16 + 16 + 128) U64) (net : U32) (port proto : U16) (addr : Addr)
    (groups : U64) :
    cidrRuleHit t net port proto addr groups = true ↔
      cidrGroups t net port proto addr &&& groups ≠ 0#64 := by
  have hor : ∀ a b : U64, (a ||| b) &&& groups ≠ 0#64 ↔ a &&& groups ≠ 0#64 ∨ b &&& groups ≠ 0#64 := by
    intro a b
    have hdist : (a ||| b) &&& groups = (a &&& groups) ||| (b &&& groups) := by
      ext i
      simp [Bool.and_or_distrib_right]
    rw [hdist, ne_eq, BitVec.or_eq_zero_iff, not_and_or]
  unfold cidrRuleHit cidrGroups
  rewrite [hor, ← rowHit_iff, ← rowHit_iff, ← Bool.or_eq_true]
  rfl

theorem cidrGroups_bit {cap : Nat} (h : syncCidrGroups cap items = .ok want) (net : U32) (proto : U8)
    (port : U16) (s : Ip) (i : Nat) :
    (cidrGroups (mapTable want) net port (cidrProto proto (!s.isV4)) s.key).getLsbD i = true ↔
      ∃ g ∈ items, (g.scope = net ∧ g.proto = proto ∧ (g.port = port ∨ g.port = 0#16) ∧
        ∃ c, g.cidr = some c ∧ c.contains s = true) ∧ g.groups.getLsbD i = true := by
  unfold cidrGroups
  rw [BitVec.getLsbD_or, Bool.or_eq_true, tier_bit h, tier_bit h]
  constructor
  · rintro (⟨g, hg, ⟨hs, hp, hq, hc⟩, hi⟩ | ⟨g, hg, ⟨hs, hp, hq, hc⟩, hi⟩)
    · exact ⟨g, hg, ⟨hs, hp, .inl hq, hc⟩, hi⟩
    · exact ⟨g, hg, ⟨hs, hp, .inr hq, hc⟩, hi⟩
  · rintro ⟨g, hg, ⟨hs, hp, hq, hc⟩, hi⟩
    exact hq.imp (fun hq => ⟨g, hg, ⟨hs, hp, hq, hc⟩, hi⟩) fun hq => ⟨g, hg, ⟨hs, hp, hq, hc⟩, hi⟩

theorem eq_unions {α : Type} {b : U64} {l : List α} {keep : α → Bool} {f : α → U64}
    (h : ∀ i, b.getLsbD i = true ↔ ∃ a ∈ l, keep a = true ∧ (f a).getLsbD i = true) :
    b = unions ((l.filter keep).map f) := by
  refine BitVec.eq_of_getLsbD_eq fun i _ => Bool.eq_iff_iff.mpr ((h i).trans ?_)
  rw [unions_bit]
  constructor
  · rintro ⟨a, ha, hk, hi⟩
    exact ⟨f a, List.mem_map_of_mem (List.mem_filter.mpr ⟨ha, hk⟩), hi⟩
  · rintro ⟨_, hb, hi⟩
    obtain ⟨a, ha, rfl⟩ := List.mem_map.mp hb
    obtain ⟨hmem, hk⟩ := List.mem_filter.mp ha
    exact ⟨a, hmem, hk, hi⟩

/-- The rule is of the network, the protocol and the port or any port, and its CIDR contains `s`. -/
def matching (net : U32) (proto : U8) (port : U16) (s : Ip) (scope : U32) (proto' : U8) (port' : U16)
    (cidr : Option IPNet) : Bool :=
  scope = net && proto' = proto && (port' = port || port' = 0#16) && cidr.any (·.contains s)

/-- **THE ROWS ARE THE UNION**: exact port and any port together give the groups of ALL rules whose
    CIDR contains the address, both ways. -/
theorem sg_cidr_union (net : U32) (proto : U8) (port : U16) (s : Ip) :
    (∀ (entries : List SGCidr) want, syncSGCidr entries = .ok want →
      cidrGroups (mapTable want) net port (cidrProto proto (!s.isV4)) s.key =
        unions ((entries.filter fun e => matching net proto port s e.net e.proto e.port e.cidr).map
          (·.allowedGroups))) ∧
    (∀ (entries : List SGEgressCidr) want, syncSGEgressCidr entries = .ok want →
      cidrGroups (mapTable want) net port (cidrProto proto (!s.isV4)) s.key =
        unions ((entries.filter fun e => matching net proto port s e.srcNet e.proto e.port e.cidr).map
          (·.allowedGroups))) := by
  have hmatch : ∀ scope proto' port' (cidr : Option IPNet),
      matching net proto port s scope proto' port' cidr = true ↔ scope = net ∧ proto' = proto ∧
        (port' = port ∨ port' = 0#16) ∧ ∃ c, cidr = some c ∧ c.contains s = true := by
    intro scope proto' port' cidr
    simp [matching, Option.any_eq_true, and_assoc]
  -- the same for both tables
  constructor
  all_goals
    intro entries want h
    refine eq_unions fun i => (cidrGroups_bit h net proto port s i).trans ?_
    simp only [List.mem_map, exists_exists_and_eq_and]
    exact exists_congr fun e => and_congr_right fun _ => and_congr_left fun _ => (hmatch ..).symm

/-- Two nested CIDRs of one tier, and one for any port. -/
def nestedRules : List SGCidr :=
  [⟨7#32, 6#8, 80#16, some (.mask4 0x0a010000#32 16), 2#64⟩,
    ⟨7#32, 6#8, 80#16, some (.mask4 0x0a000000#32 8), 1#64⟩,
    ⟨7#32, 6#8, 0#16, some (.mask4 0#32 0), 4#64⟩]

/-- The row of the longer CIDR has the groups of both. -/
theorem sg_cidr_union_nested :
    ∃ want, syncSGCidr nestedRules = .ok want ∧
      find (mapTable want) (7#32 ++ 80#16 ++ cidrProto 6#8 false ++ (Ip.v4 0x0a010203#32).key) =
        some 3#64 ∧
      cidrGroups (mapTable want) 7#32 80#16 (cidrProto 6#8 false) (Ip.v4 0x0a010203#32).key = 7#64 :=
  ⟨_, rfl, by decide +kernel,
    ((sg_cidr_union 7#32 6#8 80#16 (.v4 0x0a010203#32)).1 nestedRules _ rfl).trans (by decide +kernel)⟩

end CozySgCidr
