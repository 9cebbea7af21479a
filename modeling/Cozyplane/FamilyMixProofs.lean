import Cozyplane.CidrOverlapProofs

/-!
# Address families in the routing tables

The routing tables `networks` and `vpc_routes` are keyed by a scope and a 128-bit address, with
IPv4 in the NAT64 range 64:ff9b::/96. Unlike the policy tables they carry NO FAMILY TAG: an IPv6
prefix that reaches into the NAT64 range holds IPv4 keys, and an IPv6 packet to an address of that
range finds the IPv4 rows.

A packet's answer depends only on the prefixes of its family if every prefix of the other family
that holds its key is SHADOWED by one of its own at least as long.
-/

namespace CozyFamilyMix

open PrefixTable KernelMap RangePolicy CozyPacket CozyMaps CozyDatapath CozyCidr CozyCidrOverlap
open CozyRoutes (lpmKey lpmKey_ok)

section

/- `netip.ParseAddr`. -/
variable (parseAddr : String → Option Ip)

/-- A CIDR of a scope: the key part of a `PeerNet` or of a route. -/
structure Scoped where
  scope : U32
  cidr : String
  deriving DecidableEq

/-- The texts `lpmKey` reads. -/
def texts : CozyRoutes.Texts := ⟨parseCIDR parseAddr, fun _ => ""⟩

variable {ν : Type}

/-- The row of a CIDR; `val` says what each key stands for. -/
def rowOf (val : RowKey (32 + 128) → ν) (d : Scoped) : Option (Entry (32 + 128) ν) :=
  match lpmKey (texts parseAddr) d.scope d.cidr with
  | .error _ => none
  | .ok k => some ⟨k.plen, k.key, val k⟩

def rowsOf (desired : List Scoped) (val : RowKey (32 + 128) → ν) : Table (32 + 128) ν :=
  desired.filterMap (rowOf parseAddr val)

/-- The CIDR is of the packet's family. -/
def own (s : Ip) (d : Scoped) : Bool :=
  (parseCIDR parseAddr d.cidr).any fun c => cidrIsV4 c == s.isV4

/-- The CIDR is one of the scope and its datapath prefix, of that length, holds the packet's key. -/
def HoldsKey (scope : U32) (s : Ip) (d : Scoped) (n : Nat) : Prop :=
  d.scope = scope ∧ ∃ c, parseCIDR parseAddr d.cidr = some c ∧ (cidrRange c).plen = n ∧
    (cidrRange c).contains s.key = true

/-- The CIDRs of the scope that are of the packet's family. -/
def ownOf (desired : List Scoped) (scope : U32) (s : Ip) : List Scoped :=
  desired.filter fun d => d.scope == scope && own parseAddr s d

/-- A prefix of the other family that holds the key is no longer than one of the packet's own. -/
def Shadowed (desired : List Scoped) (scope : U32) (s : Ip) : Prop :=
  ∀ d ∈ desired, own parseAddr s d = false → ∀ n, HoldsKey parseAddr scope s d n →
    ∃ o ∈ desired, own parseAddr s o = true ∧ ∃ m, HoldsKey parseAddr scope s o m ∧ n ≤ m

/-- Some CIDR of the list has a datapath prefix that holds the key. -/
def Held (cidrs : List String) (k : Addr) : Prop :=
  ∃ x ∈ cidrs, ∃ c, parseCIDR parseAddr x = some c ∧ (cidrRange c).contains k = true

/-- The datapath prefixes agree as far as both are fixed. -/
def Clash (x y : String) : Prop :=
  ∃ c d, parseCIDR parseAddr x = some c ∧ parseCIDR parseAddr y = some d ∧
    agree (min (cidrRange c).plen (cidrRange d).plen) (cidrRange c).addr (cidrRange d).addr = true

/-- What `CIDRsOverlap` compares: two entries written plainly, of one family. -/
def Comparable (x y : String) : Prop :=
  ∃ p q, readCidr parseAddr x = some (p, true) ∧ readCidr parseAddr y = some (q, true) ∧
    (overlapPrefix p).isV4 = (overlapPrefix q).isV4

end

variable {parseAddr : String → Option Ip} {ν : Type} {desired : List Scoped} {scope : U32} {s : Ip}

-- ── rows and prefixes

theorem mem_rowsOf (val : RowKey (32 + 128) → ν) {e : Entry (32 + 128) ν} :
    e ∈ rowsOf parseAddr desired val ∧ e.covers (scope ++ s.key) = true ↔
      ∃ d ∈ desired, ∃ n, HoldsKey parseAddr scope s d n ∧ ∃ c, parseCIDR parseAddr d.cidr = some c ∧
        e = ⟨32 + n, scope ++ (cidrRange c).addr, val ⟨32 + n, scope ++ (cidrRange c).addr⟩⟩ := by
  unfold rowsOf rowOf
  rw [List.mem_filterMap]
  constructor
  · rintro ⟨⟨d, hd, hrow⟩, hcov⟩
    split at hrow
    · nomatch hrow
    rename_i hk
    cases hrow
    obtain ⟨c, hc, rfl⟩ := lpmKey_ok _ hk
    obtain ⟨rfl, hin⟩ := (agree_append _ _ _ _).mp hcov
    exact ⟨d, hd, _, ⟨rfl, c, hc, rfl, hin⟩, c, hc, rfl⟩
  · rintro ⟨d, hd, n, ⟨rfl, c, hc, rfl, hin⟩, c', hc', rfl⟩
    cases hc.symm.trans hc'
    refine ⟨⟨d, hd, ?_⟩, (agree_append _ _ _ _).mpr ⟨rfl, hin⟩⟩
    have hk : lpmKey (texts parseAddr) d.scope d.cidr =
        .ok ⟨32 + (cidrRange c).plen, d.scope ++ (cidrRange c).addr⟩ := by
      unfold lpmKey
      rw [show (texts parseAddr).parseCIDR d.cidr = some c from hc]
    rw [hk]

/-- Prefixes of one length that hold one key are one prefix. -/
theorem range_unique {c c' : IPNet} (hlen : (cidrRange c).plen = (cidrRange c').plen) {k : Addr}
    (h : (cidrRange c).contains k = true) (h' : (cidrRange c').contains k = true) :
    (cidrRange c).addr = (cidrRange c').addr := by
  unfold Range.contains at h h'
  rw [hlen] at h
  exact Range.addr_eq hlen (agree_trans h (agree_symm h'))

theorem mem_ownOf {d : Scoped} {n : Nat} (hd : d ∈ desired)
    (hown : own parseAddr s d = true) (hk : HoldsKey parseAddr scope s d n) :
    d ∈ ownOf parseAddr desired scope s :=
  List.mem_filter.mpr ⟨hd, by rw [hown, hk.1, beq_self_eq_true, Bool.and_true]⟩

theorem of_mem_ownOf {d : Scoped} (h : d ∈ ownOf parseAddr desired scope s) :
    d ∈ desired ∧ own parseAddr s d = true :=
  ⟨(List.mem_filter.mp h).1, (Bool.and_eq_true_iff.mp (List.mem_filter.mp h).2).2⟩

/-- **SHADOWED IS ENOUGH**: the rows of the other family change no answer. -/
theorem find_own (h : Shadowed parseAddr desired scope s) (val : RowKey (32 + 128) → ν) :
    find (rowsOf parseAddr desired val) (scope ++ s.key) =
      find (rowsOf parseAddr (ownOf parseAddr desired scope s) val) (scope ++ s.key) := by
  have hsub : ∀ {e}, e ∈ rowsOf parseAddr (ownOf parseAddr desired scope s) val →
      e.covers (scope ++ s.key) = true → e ∈ rowsOf parseAddr desired val := by
    intro e he hcov
    obtain ⟨d, hd, n, hk, c, hc, rfl⟩ := (mem_rowsOf val).mp ⟨he, hcov⟩
    exact ((mem_rowsOf val).mpr ⟨d, (of_mem_ownOf hd).1, n, hk, c, hc, rfl⟩).1
  unfold find
  congr 1
  cases hfull : lookup (rowsOf parseAddr desired val) (scope ++ s.key) with
  | none =>
    symm
    rw [lookup_eq_none] at hfull ⊢
    intro e he
    by_contra hcov
    rw [Bool.not_eq_false] at hcov
    rw [hfull e (hsub he hcov)] at hcov
    nomatch hcov
  | some e =>
    obtain ⟨hmem, hcov, hmax⟩ := lookup_spec hfull
    obtain ⟨d, hd, n, hk, c, hc, rfl⟩ := (mem_rowsOf val).mp ⟨hmem, hcov⟩
    -- A prefix of the packet's own, at least as long as the one found.
    obtain ⟨o, ho, m, hko, hnm⟩ : ∃ o ∈ ownOf parseAddr desired scope s, ∃ m,
        HoldsKey parseAddr scope s o m ∧ n ≤ m := by
      cases hown : own parseAddr s d with
      | true => exact ⟨d, mem_ownOf hd hown hk, n, hk, Nat.le_refl n⟩
      | false =>
        obtain ⟨o, ho, hoown, m, hko, hnm⟩ := h d hd hown n hk
        exact ⟨o, mem_ownOf ho hoown hko, m, hko, hnm⟩
    obtain ⟨co, hco, -, -⟩ := hko.2
    obtain ⟨horow, hocov⟩ := (mem_rowsOf val).mpr ⟨o, ho, m, hko, co, hco, rfl⟩
    obtain ⟨f, hf⟩ := lookup_isSome.mpr ⟨_, horow, hocov⟩
    obtain ⟨hfmem, hfcov, hfmax⟩ := lookup_spec hf
    have hge : 32 + m ≤ f.plen := hfmax _ horow hocov
    have hle : f.plen ≤ 32 + n := hmax f (hsub hfmem hfcov) hfcov
    obtain ⟨d', hd', n', hk', c', hc', rfl⟩ := (mem_rowsOf val).mp ⟨hfmem, hfcov⟩
    obtain rfl : n' = n := by
      have hge : 32 + m ≤ 32 + n' := hge
      have hle : 32 + n' ≤ 32 + n := hle
      omega
    obtain ⟨-, x, hx, hxlen, hxin⟩ := hk
    cases hc.symm.trans hx
    obtain ⟨-, y, hy, hylen, hyin⟩ := hk'
    cases hc'.symm.trans hy
    rw [hf, range_unique (hxlen.trans hylen.symm) hxin hyin]

/-- **SHADOWED IS NEEDED**: with a longer prefix of the other family some assignment gives a value
    of none of its own prefixes. -/
theorem find_mixed (h : ¬ Shadowed parseAddr desired scope s) (v₀ v₁ : ν) :
    ∃ val : RowKey (32 + 128) → ν,
      find (rowsOf parseAddr desired val) (scope ++ s.key) = some v₁ ∧
      (find (rowsOf parseAddr (ownOf parseAddr desired scope s) val) (scope ++ s.key) = none ∨
        find (rowsOf parseAddr (ownOf parseAddr desired scope s) val) (scope ++ s.key) = some v₀) := by
  unfold Shadowed at h
  push Not at h
  obtain ⟨d, hd, hother, n, hk, hlonger⟩ := h
  -- Keys from the foreign prefix's length on get the new value.
  let val : RowKey (32 + 128) → ν := fun k => if 32 + n ≤ k.plen then v₁ else v₀
  refine ⟨val, ?_, ?_⟩
  · obtain ⟨c, hc, -, -⟩ := hk.2
    obtain ⟨hrow, hcov⟩ := (mem_rowsOf val).mpr ⟨d, hd, n, hk, c, hc, rfl⟩
    obtain ⟨f, hf⟩ := lookup_isSome.mpr ⟨_, hrow, hcov⟩
    obtain ⟨hfmem, hfcov, hfmax⟩ := lookup_spec hf
    have hge : 32 + n ≤ f.plen := hfmax _ hrow hcov
    obtain ⟨_, _, m, _, c', _, rfl⟩ := (mem_rowsOf val).mp ⟨hfmem, hfcov⟩
    unfold find
    rw [hf]
    exact congrArg some (if_pos hge)
  · unfold find
    cases hf : lookup (rowsOf parseAddr (ownOf parseAddr desired scope s) val) (scope ++ s.key) with
    | none => exact .inl rfl
    | some f =>
      obtain ⟨hfmem, hfcov, -⟩ := lookup_spec hf
      obtain ⟨o, ho, m, hko, c', _, rfl⟩ := (mem_rowsOf val).mp ⟨hfmem, hfcov⟩
      have hlt : m < n := hlonger o (of_mem_ownOf ho).1 (of_mem_ownOf ho).2 m hko
      refine .inr (congrArg some (if_neg ?_))
      show ¬ 32 + n ≤ 32 + m
      omega

theorem find_iff (v₀ v₁ : ν) (hne : v₀ ≠ v₁) :
    (∀ val : RowKey (32 + 128) → ν, find (rowsOf parseAddr desired val) (scope ++ s.key) =
      find (rowsOf parseAddr (ownOf parseAddr desired scope s) val) (scope ++ s.key)) ↔
      Shadowed parseAddr desired scope s := by
  refine ⟨fun h => ?_, find_own⟩
  by_contra hnot
  obtain ⟨val, hfull, hown⟩ := find_mixed hnot v₀ v₁
  rw [← h val, hfull] at hown
  rcases hown with hown | hown
  · nomatch hown
  · exact hne (Option.some.inj hown).symm

theorem held_iff (a b : List String) :
    (∃ k, Held parseAddr a k ∧ Held parseAddr b k) ↔ ∃ x ∈ a, ∃ y ∈ b, Clash parseAddr x y := by
  constructor
  · rintro ⟨k, ⟨x, hx, c, hc, hck⟩, y, hy, d, hd, hdk⟩
    exact ⟨x, hx, y, hy, c, d, hc, hd, Range.meet_iff.mp ⟨k, hck, hdk⟩⟩
  · rintro ⟨x, hx, y, hy, c, d, hc, hd, hag⟩
    obtain ⟨k, hck, hdk⟩ := Range.meet_iff.mpr hag
    exact ⟨k, ⟨x, hx, c, hc, hck⟩, y, hy, d, hd, hdk⟩

/-- A key of an IPv4 prefix is the key of an IPv4 address. -/
theorem key_of_v4 {c : IPNet} (hc : cidrIsV4 c = true) {k : Addr} (h : (cidrRange c).contains k = true) :
    ∃ b, k = (Ip.v4 b).key := by
  unfold cidrIsV4 at hc
  unfold cidrRange at h
  cases hn : normalizedCIDR c with
  | v6 a n =>
    rw [hn] at hc
    nomatch hc
  | v4 a n =>
    rw [hn] at h
    have hag : agree (96 + n.val) (v4To128 a) k = true := (Range.around_contains _ _ _).symm.trans h
    refine ⟨k.extractLsb' 0 32, ?_⟩
    rw [addr_halves k] at hag ⊢
    obtain ⟨hhead, -⟩ := (agree_append ..).mp hag
    rw [← hhead, BitVec.extractLsb'_append_eq_right]
    rfl

/-- A key that two prefixes of one family hold is the key of an address of that family. -/
theorem common_address {c d : IPNet} (hfam : cidrIsV4 c = cidrIsV4 d) {k : Addr}
    (hc : (cidrRange c).contains k = true) (hd : (cidrRange d).contains k = true) :
    ∃ s : Ip, c.contains s = true ∧ d.contains s = true := by
  obtain ⟨s, hs, rfl⟩ : ∃ s : Ip, cidrIsV4 c = s.isV4 ∧ k = s.key := by
    cases hv : cidrIsV4 c with
    | true =>
      obtain ⟨b, hb⟩ := key_of_v4 hv hc
      exact ⟨.v4 b, rfl, hb⟩
    | false => exact ⟨.v6 k, rfl, rfl⟩
  exact ⟨s, (cidrRange_contains c s).mp ⟨hs, hc⟩, (cidrRange_contains d s).mp ⟨hfam ▸ hs, hd⟩⟩

/-- **WITHIN A FAMILY NOTHING IS MISSED**: of two comparable entries `CIDRsOverlap` sees the overlap
    where their datapath prefixes share an address, IPv4 in 64:ff9b::/96 as in its own space. -/
theorem sees_of_clash {x y : String} (h : Comparable parseAddr x y) (hclash : Clash parseAddr x y) :
    Sees parseAddr x y := by
  obtain ⟨p, q, hp, hq, hfam⟩ := h
  obtain ⟨c, d, hc, hd, hag⟩ := hclash
  obtain rfl : ipNetOf p = c := by
    unfold parseCIDR at hc
    rw [hp] at hc
    exact Option.some.inj hc
  obtain rfl : ipNetOf q = d := by
    unfold parseCIDR at hd
    rw [hq] at hd
    exact Option.some.inj hd
  obtain ⟨k, hck, hdk⟩ := Range.meet_iff.mpr hag
  have hsame : cidrIsV4 (ipNetOf p) = cidrIsV4 (ipNetOf q) := by
    unfold cidrIsV4
    rw [normalizedCIDR_ipNetOf, normalizedCIDR_ipNetOf, hfam]
  obtain ⟨s, hps, hqs⟩ := common_address hsame hck hdk
  unfold IPNet.contains at hps hqs
  rw [normalizedCIDR_ipNetOf] at hps hqs
  exact ⟨p, q, hp, hq, NetPrefix.overlaps_of_contains hps hqs⟩

/-- **WHEN THE FAMILIES STAY APART.** What a packet resolves to depends on the prefixes of its own
    family alone iff the others are shadowed; and two lists that `CIDRsOverlap` lets pass have no
    common address iff no entry clashes with one of the other family, or with one that either of the
    two does not write plainly. -/
theorem families_mix (parseAddr : String → Option Ip) :
    (∀ (m : Maps) (desired : List Scoped) (scope : U32) (s : Ip),
      (∀ val : RowKey (32 + 128) → U32,
        netOf { m with networks := rowsOf parseAddr desired val } scope s.key =
          netOf { m with networks := rowsOf parseAddr (ownOf parseAddr desired scope s) val }
            scope s.key) ↔
        Shadowed parseAddr desired scope s) ∧
    (∀ (m : Maps) (desired : List Scoped) (scope : U32) (s : Ip),
      (∀ val : RowKey (32 + 128) → RouteEntry,
        routeOf { m with vpcRoutes := rowsOf parseAddr desired val } scope s.key =
          routeOf { m with vpcRoutes := rowsOf parseAddr (ownOf parseAddr desired scope s) val }
            scope s.key) ↔
        Shadowed parseAddr desired scope s) ∧
    ∀ a b : List String,
      (cidrsOverlapText parseAddr a b = false → ¬ ∃ k, Held parseAddr a k ∧ Held parseAddr b k) ↔
        (∃ x ∈ a, ∃ y ∈ b, Sees parseAddr x y) ∨
          ∀ x ∈ a, ∀ y ∈ b, ¬ Comparable parseAddr x y → ¬ Clash parseAddr x y := by
  refine ⟨fun m desired scope s => ⟨fun h => ?_, fun h val => ?_⟩,
    fun m desired scope s => ?_, fun a b => ?_⟩
  · by_contra hnot
    obtain ⟨val, hfull, hown⟩ := find_mixed hnot (0 : U32) 1
    have hval : (find (rowsOf parseAddr desired val) (scope ++ s.key)).getD 0 =
        (find (rowsOf parseAddr (ownOf parseAddr desired scope s) val) (scope ++ s.key)).getD 0 :=
      h val
    rw [hfull] at hval
    rcases hown with hown | hown
    · rw [hown] at hval
      exact absurd hval (by decide)
    · rw [hown] at hval
      exact absurd hval (by decide)
  · exact congrArg (·.getD 0#32) (find_own h val)
  · exact find_iff ⟨⟨0, 0⟩, ⟨0, 0⟩, 0, 0⟩ ⟨⟨0, 0⟩, ⟨0, 0⟩, 1, 0⟩ (by decide)
  · rw [held_iff, ← cidrsOverlapText_iff]
    cases hov : cidrsOverlapText parseAddr a b with
    | true => exact ⟨fun _ => .inl rfl, fun _ h => nomatch h⟩
    | false =>
      constructor
      · intro h
        exact .inr fun x hx y hy _ hclash => h rfl ⟨x, hx, y, hy, hclash⟩
      · rintro (h | h) _ ⟨x, hx, y, hy, hclash⟩
        · nomatch h
        · by_cases hcomp : Comparable parseAddr x y
          · have hseen := (cidrsOverlapText_iff a b).mpr ⟨x, hx, y, hy, sees_of_clash hcomp hclash⟩
            exact Bool.false_ne_true (hov.symm.trans hseen)
          · exact h x hx y hy hcomp hclash

/-- `netip.ParseAddr` on two addresses. -/
def sampleAddr : String → Option Ip
  | "10.0.0.0" => some (.v4 0x0a000000#32)
  | "::" => some (.v6 0#128)
  | _ => none

/-- VPC 100 has 10.0.0.0/8, its peer 200 has ::/0. -/
def sampleNets : List Scoped := [⟨100#32, "10.0.0.0/8"⟩, ⟨100#32, "::/0"⟩]

def sampleVal (k : RowKey (32 + 128)) : U32 := if k.plen = 32 then 200#32 else 100#32

/-- The table of these rows. -/
def sampleMaps (nets : List Scoped) : Maps :=
  { Maps.empty with networks := rowsOf sampleAddr nets sampleVal }

/-- The two VPCs may be peered, 192.168.1.1 resolves to the IPv6 VPC and 64:ff9b::a00:1 to the
    IPv4 one; and `10.0.0.0/08` does not overlap `10.0.0.0/8`. -/
theorem families_mix_default :
    validateVPCCIDRs sampleAddr ["10.0.0.0/8"] = .ok () ∧
    validateVPCCIDRs sampleAddr ["::/0"] = .ok () ∧
    cidrsOverlapText sampleAddr ["10.0.0.0/8"] ["::/0"] = false ∧
    (∃ k, Held sampleAddr ["10.0.0.0/8"] k ∧ Held sampleAddr ["::/0"] k) ∧
    netOf (sampleMaps sampleNets) 100#32 (Ip.v4 0xc0a80101#32).key = 200#32 ∧
    netOf (sampleMaps (ownOf sampleAddr sampleNets 100#32 (.v4 0xc0a80101#32))) 100#32
      (Ip.v4 0xc0a80101#32).key = 0#32 ∧
    netOf (sampleMaps sampleNets) 100#32 (Ip.v6 0x0064ff9b00000000000000000a000001#128).key =
      100#32 ∧
    validateVPCCIDRs sampleAddr ["10.0.0.0/08"] = .ok () ∧
    cidrsOverlapText sampleAddr ["10.0.0.0/8"] ["10.0.0.0/08"] = false ∧
    ∃ k, Held sampleAddr ["10.0.0.0/8"] k ∧ Held sampleAddr ["10.0.0.0/08"] k := by
  have hsome : ∀ x y c d, parseCIDR sampleAddr x = some c → parseCIDR sampleAddr y = some d →
      agree (min (cidrRange c).plen (cidrRange d).plen) (cidrRange c).addr (cidrRange d).addr = true →
      ∃ k, Held sampleAddr [x] k ∧ Held sampleAddr [y] k := by
    intro x y c d hc hd hag
    exact (held_iff [x] [y]).mpr ⟨x, List.mem_singleton_self x, y, List.mem_singleton_self y,
      c, d, hc, hd, hag⟩
  refine ⟨by decide +kernel, by decide +kernel, by decide +kernel,
    hsome _ _ (.mask4 0x0a000000#32 8) (.mask16 0#128 0) (by decide +kernel) (by decide +kernel)
      (by decide +kernel),
    by decide +kernel, by decide +kernel, by decide +kernel, by decide +kernel, by decide +kernel,
    hsome _ _ (.mask4 0x0a000000#32 8) (.mask4 0x0a000000#32 8) (by decide +kernel)
      (by decide +kernel) (by decide +kernel)⟩

end CozyFamilyMix
