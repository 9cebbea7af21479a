import Cozyplane.LaminarProofs
import Cozyplane.RangeCoverProofs
import Cozyplane.ClaimNameProofs

/-!
# Overlapping CIDR lists — what `CIDRsOverlap` decides

`CIDRsOverlap` sorts the prefixes of one list, sweeps out those inside an earlier one, and asks by
binary search for each prefix of the other list. As intervals of address ranks, masked prefixes
are LAMINAR, so the sweep and the search are exact.

The texts are another matter. `ValidateVPCCIDRs` and the datapath read a CIDR with
`net.ParseCIDR`, `CIDRsOverlap` with `netip.ParsePrefix`, and the second refuses a mask length
written with a leading zero. An entry it refuses is ignored.
-/

namespace CozyCidrOverlap

open PrefixTable CozyPacket CozyCidr Laminar

/-- The number of address bits below a prefix. -/
def NetPrefix.free : NetPrefix → Nat
  | .v4 _ n => 32 - n.val
  | .v6 _ n => 128 - n.val

def first (p : NetPrefix) : Nat := p.addr.rank

def last (p : NetPrefix) : Nat := p.addr.rank + 2 ^ NetPrefix.free p - 1

/-- The address has no bits below the mask. -/
def Masked : NetPrefix → Prop
  | .v4 a n => 2 ^ (32 - n.val) ∣ a.toNat
  | .v6 a n => 2 ^ (128 - n.val) ∣ a.toNat

theorem agree_iff_interval {w n : Nat} (hn : n ≤ w) {a : BitVec w} (ha : 2 ^ (w - n) ∣ a.toNat)
    (s : BitVec w) :
    agree n a s = true ↔ a.toNat ≤ s.toNat ∧ s.toNat ≤ a.toNat + 2 ^ (w - n) - 1 := by
  have hpos : 0 < 2 ^ (w - n) := Nat.two_pow_pos _
  have hdiv := RangeCover.agree_iff_div (Nat.sub_le w n) a s
  rw [Nat.sub_sub_self hn, RangeCover.div_eq_iff_of_dvd hpos ha] at hdiv
  rw [hdiv]
  omega

theorem rank_v4_lt (a : U32) : (Ip.v4 a).rank < 2 ^ 32 := a.isLt

theorem rank_v6_ge (a : Addr) : 2 ^ 32 ≤ (Ip.v6 a).rank := Nat.le_add_right _ _

variable {p : NetPrefix}

/-- **A MASKED PREFIX IS AN INTERVAL** of ranks, and the families do not meet. -/
theorem contains_iff (hp : Masked p) (s : Ip) :
    p.contains s = true ↔ first p ≤ s.rank ∧ s.rank ≤ last p := by
  cases p with
  | v4 a n =>
    cases s with
    | v4 b => exact agree_iff_interval (Nat.lt_succ_iff.mp n.isLt) hp b
    | v6 b =>
      have hge := rank_v6_ge b
      have hend := Laminar.dyadic_nested (a := 0) (b := a.toNat) (i := 32) (j := 32 - n.val)
        (Nat.dvd_zero _) hp (Nat.zero_le _) (by simpa using a.isLt) (fun _ => Nat.sub_le _ _)
      refine ⟨(nomatch ·), fun h => ?_⟩
      have hlast : last (.v4 a n) = a.toNat + 2 ^ (32 - n.val) - 1 := rfl
      omega
  | v6 a n =>
    cases s with
    | v4 b =>
      have hlt := rank_v4_lt b
      have hge : 2 ^ 32 ≤ first (.v6 a n) := rank_v6_ge a
      refine ⟨(nomatch ·), fun h => ?_⟩
      omega
    | v6 b =>
      have h := agree_iff_interval (Nat.lt_succ_iff.mp n.isLt) hp b
      show agree n.val a b = true ↔ _
      rw [h]
      have hfirst : first (.v6 a n) = 2 ^ 32 + a.toNat := rfl
      have hrank : (Ip.v6 b).rank = 2 ^ 32 + b.toNat := rfl
      have hlast : last (.v6 a n) = 2 ^ 32 + a.toNat + 2 ^ (128 - n.val) - 1 := rfl
      have hpos : 0 < 2 ^ (128 - n.val) := Nat.two_pow_pos _
      omega

theorem first_le_last (p : NetPrefix) : first p ≤ last p := by
  have hpos : 0 < 2 ^ NetPrefix.free p := Nat.two_pow_pos _
  unfold first last
  omega

theorem contains_addr (p : NetPrefix) : p.contains p.addr = true := by
  cases p with
  | v4 a n | v6 a n => exact agree_refl (Nat.lt_succ_iff.mp n.isLt) a

theorem overlaps_iff_contains {q : NetPrefix} :
    p.overlaps q = true ↔ p.contains q.addr = true ∨ q.contains p.addr = true := by
  have hmin : ∀ {w n m : Nat} {a b : BitVec w}, agree (min n m) a b = true →
      agree n a b = true ∨ agree m b a = true := by
    intro w n m a b h
    rcases le_total n m with hle | hle
    · exact .inl (min_eq_left hle ▸ h)
    · exact .inr (agree_symm (min_eq_right hle ▸ h))
  refine ⟨fun h => ?_, ?_⟩
  · cases p with
    | v4 a n =>
      cases q with
      | v6 b m => nomatch h
      | v4 b m => exact hmin h
    | v6 a n =>
      cases q with
      | v4 b m => nomatch h
      | v6 b m => exact hmin h
  · rintro (h | h)
    · exact NetPrefix.overlaps_of_contains h (contains_addr q)
    · exact NetPrefix.overlaps_of_contains (contains_addr p) h

theorem overlaps_iff {q : NetPrefix} (hp : Masked p) (hq : Masked q) :
    p.overlaps q = true ↔ Meets first last (first p) (last p) q := by
  rw [overlaps_iff_contains, contains_iff hp, contains_iff hq]
  have hp' := first_le_last p
  have hq' := first_le_last q
  show (first p ≤ first q ∧ first q ≤ last p) ∨ (first q ≤ first p ∧ first p ≤ last q) ↔
    first p ≤ last q ∧ first q ≤ last p
  omega

theorem keepDisjoint_eq : keepDisjoint = keep fun q p => q.contains p.addr := by
  funext kept p
  unfold keepDisjoint keep
  cases kept.getLast? with
  | none | some q => rfl

theorem laws : Laws first last (fun q p => q.contains p.addr) Masked where
  inside_iff q p hq _ := contains_iff hq p.addr
  proper p _ := first_le_last p
  nested q p hq hp hbefore hin := by
    have hstart : first q ≤ first p := by
      rcases hbefore with hlt | heq
      · exact hlt.le
      · exact heq.1.le
    rcases hbefore with hlt | heq
    · cases q with
      | v4 a n =>
        cases p with
        | v4 b m =>
          have hnest := dyadic_nested hq hp hstart
            (show b.toNat < a.toNat + 2 ^ (32 - n.val) by
              have hin : b.toNat ≤ a.toNat + 2 ^ (32 - n.val) - 1 := hin
              have hpos : 0 < 2 ^ (32 - n.val) := Nat.two_pow_pos _
              omega)
            (fun h => absurd h (Nat.ne_of_lt hlt))
          show b.toNat + 2 ^ (32 - m.val) - 1 ≤ a.toNat + 2 ^ (32 - n.val) - 1
          omega
        | v6 b m =>
          have hin' := (contains_iff hq (.v6 b)).mpr ⟨hstart, hin⟩
          nomatch hin'
      | v6 a n =>
        cases p with
        | v4 b m =>
          have hin' := (contains_iff hq (.v4 b)).mpr ⟨hstart, hin⟩
          nomatch hin'
        | v6 b m =>
          have hstart' : a.toNat ≤ b.toNat := Nat.le_of_add_le_add_left hstart
          have hlt' : a.toNat < b.toNat := Nat.lt_of_add_lt_add_left hlt
          have hnest := dyadic_nested hq hp hstart'
            (show b.toNat < a.toNat + 2 ^ (128 - n.val) by
              have hin : 2 ^ 32 + b.toNat ≤ 2 ^ 32 + a.toNat + 2 ^ (128 - n.val) - 1 := hin
              omega)
            (fun h => absurd h (Nat.ne_of_lt hlt'))
          show 2 ^ 32 + b.toNat + 2 ^ (128 - m.val) - 1 ≤
            2 ^ 32 + a.toNat + 2 ^ (128 - n.val) - 1
          omega
    · exact heq.2

theorem dvd_shift {w : Nat} (k : Nat) (a : BitVec w) : 2 ^ k ∣ ((a >>> k) <<< k).toNat := by
  rw [BitVec.toNat_shiftLeft, BitVec.toNat_ushiftRight, Nat.shiftLeft_eq]
  rcases Nat.lt_or_ge w k with hlt | hge
  · rw [Nat.shiftRight_eq_div_pow,
      Nat.div_eq_of_lt (a.isLt.trans (Nat.pow_lt_pow_right (by decide) hlt)), Nat.zero_mul,
      Nat.zero_mod]
    exact Nat.dvd_zero _
  · exact (Nat.dvd_mod_iff (Nat.pow_dvd_pow 2 hge)).mpr (Nat.dvd_mul_left _ _)

theorem overlapPrefix_masked (p : NetPrefix) : Masked (overlapPrefix p) := by
  cases p with
  | v4 a n => exact dvd_shift _ a
  | v6 a n =>
    show Masked (if _ then _ else _)
    split
    · rename_i hmapped
      show 2 ^ (32 - (n.val - 96)) ∣ (BitVec.extractLsb' 0 32 _).toNat
      have hfree : 32 - (n.val - 96) = 128 - n.val := by omega
      rw [hfree, BitVec.extractLsb'_toNat, Nat.shiftRight_zero]
      exact (Nat.dvd_mod_iff (Nat.pow_dvd_pow 2 (by omega))).mpr (dvd_shift _ a)
    · exact dvd_shift _ a

theorem before_of_sorted {q : NetPrefix} (h : p.before q = true) : Before first last p q := by
  unfold NetPrefix.before at h
  rw [Bool.or_eq_true, decide_eq_true_eq, Bool.and_eq_true, beq_iff_eq, decide_eq_true_eq] at h
  rcases h with hlt | ⟨heq, hbits⟩
  · exact .inl hlt
  refine .inr ⟨heq, ?_⟩
  have hfree : NetPrefix.free q ≤ NetPrefix.free p := by
    cases p with
    | v4 a n =>
      cases q with
      | v4 b m => exact Nat.sub_le_sub_left hbits 32
      | v6 b m =>
        have := rank_v4_lt a
        have := rank_v6_ge b
        exact absurd heq (by show (Ip.v4 a).rank ≠ (Ip.v6 b).rank; omega)
    | v6 a n =>
      cases q with
      | v6 b m => exact Nat.sub_le_sub_left hbits 128
      | v4 b m =>
        have := rank_v6_ge a
        have := rank_v4_lt b
        exact absurd heq (by show (Ip.v6 a).rank ≠ (Ip.v4 b).rank; omega)
  have hpow := Nat.pow_le_pow_right (n := 2) (by decide) hfree
  unfold last
  omega

instance : Std.Total (fun p q : NetPrefix => p.before q = true) where
  total p q := by
    unfold NetPrefix.before
    simp only [Bool.or_eq_true, decide_eq_true_eq, Bool.and_eq_true, beq_iff_eq]
    omega

instance : IsTrans NetPrefix (fun p q => p.before q = true) where
  trans p q r := by
    unfold NetPrefix.before
    simp only [Bool.or_eq_true, decide_eq_true_eq, Bool.and_eq_true, beq_iff_eq]
    omega

/-- The prefixes of the second list after the sweep. -/
def disjointOf (b : List NetPrefix) : List NetPrefix :=
  ((b.map overlapPrefix).insertionSort fun p q => p.before q = true).foldl keepDisjoint []

theorem disjointOf_spec (b : List NetPrefix) :
    Apart first last (disjointOf b) ∧ (∀ q ∈ disjointOf b, Masked q) ∧
      ∀ x y, (∃ q ∈ disjointOf b, Meets first last x y q) ↔
        ∃ q ∈ b, Meets first last x y (overlapPrefix q) := by
  have hmem : ∀ q, q ∈ (b.map overlapPrefix).insertionSort (fun p q => p.before q = true) ↔
      ∃ p ∈ b, overlapPrefix p = q := by
    intro q
    rw [List.mem_insertionSort, List.mem_map]
  have hmasked : ∀ q ∈ (b.map overlapPrefix).insertionSort (fun p q => p.before q = true),
      Masked q := by
    intro q hq
    obtain ⟨p, _, rfl⟩ := (hmem q).mp hq
    exact overlapPrefix_masked p
  have hsorted := (List.pairwise_insertionSort (fun p q : NetPrefix => p.before q = true)
    (b.map overlapPrefix)).imp before_of_sorted
  obtain ⟨happart, hmeets⟩ := sweep_spec laws hmasked hsorted
  unfold disjointOf
  rw [keepDisjoint_eq]
  refine ⟨happart, fun q hq => ?_, fun x y => (hmeets x y).trans ⟨?_, ?_⟩⟩
  · rcases sweep_mem hq with h | h
    · nomatch h
    · exact hmasked q h
  · rintro ⟨q, hq, hm⟩
    obtain ⟨p, hp, rfl⟩ := (hmem q).mp hq
    exact ⟨p, hp, hm⟩
  · rintro ⟨p, hp, hm⟩
    exact ⟨_, (hmem _).mpr ⟨p, hp, rfl⟩, hm⟩

theorem candidates_iff (hp : Masked p) {l : List NetPrefix} (hmasked : ∀ q ∈ l, Masked q) (i : Nat)
    (hfirst : ∀ q, l[i]? = some q → first p ≤ first q)
    (hlast : 0 < i → ∀ q, l[i - 1]? = some q → first q ≤ first p) :
    ((l[i]?.any fun q => p.contains q.addr) ||
      (decide (0 < i) && l[i - 1]?.any fun q => q.contains p.addr)) = true ↔
      (∃ q, l[i]? = some q ∧ first q ≤ last p) ∨
        0 < i ∧ ∃ q, l[i - 1]? = some q ∧ first p ≤ last q := by
  simp only [Bool.or_eq_true, Bool.and_eq_true, decide_eq_true_eq, Option.any_eq_true]
  refine or_congr (exists_congr fun q => and_congr_right fun hq => ?_)
    (and_congr_right fun hi => exists_congr fun q => and_congr_right fun hq => ?_)
  · rw [contains_iff hp]
    exact and_iff_right (hfirst q hq)
  · rw [contains_iff (hmasked q (List.mem_of_getElem? hq))]
    exact and_iff_right (hlast hi q hq)

/-- **`CIDRsOverlap` IS EXACT**: some prefix of the one list and some prefix of the other have an
    address in common. -/
theorem cidrsOverlap_iff (a b : List NetPrefix) :
    cidrsOverlap a b = true ↔
      ∃ p ∈ a, ∃ q ∈ b, (overlapPrefix p).overlaps (overlapPrefix q) = true := by
  obtain ⟨happart, hmasked, hmeets⟩ := disjointOf_spec b
  show ((a.map overlapPrefix).any fun an => _) = true ↔ _
  rw [List.any_map, List.any_eq_true]
  refine exists_congr fun p => and_congr_right fun _ => ?_
  have hp := overlapPrefix_masked p
  have hsearch := search_spec happart (fun q _ => first_le_last q) (first_le_last (overlapPrefix p))
  rw [hmeets] at hsearch
  have hright : (∃ q ∈ b, (overlapPrefix p).overlaps (overlapPrefix q) = true) ↔
      ∃ q ∈ b, Meets first last (first (overlapPrefix p)) (last (overlapPrefix p)) (overlapPrefix q) :=
    exists_congr fun q => and_congr_right fun _ => overlaps_iff hp (overlapPrefix_masked q)
  rw [hright, hsearch]
  refine candidates_iff hp hmasked _ (fun q hq => ?_) fun hpos q hq => ?_
  · obtain ⟨hi, rfl⟩ := List.getElem?_eq_some_iff.mp hq
    exact of_decide_eq_true (List.findIdx_getElem (w := hi))
  · obtain ⟨hi, rfl⟩ := List.getElem?_eq_some_iff.mp hq
    have hnot := List.not_of_lt_findIdx (Nat.sub_lt hpos Nat.one_pos)
    exact (Nat.not_le.mp (of_decide_eq_false hnot)).le

-- ── texts

variable {cidrs : List String}

section

/- `netip.ParseAddr` for an address without zone; a mapped address is an IPv6 one. -/
variable (parseAddr : String → Option Ip)

/-- `strings.Cut(s, "/")`. No address holds a slash, so it is the only one of a CIDR. -/
def cutSlash (s : String) : Option (String × List Char) :=
  match s.toList.dropWhile (· ≠ '/') with
  | [] => none
  | _ :: mask => some (String.ofList (s.toList.takeWhile (· ≠ '/')), mask)

def maskLength (mask : List Char) : Option Nat :=
  if mask = [] then none else CozyRouteCompile.parseDigits mask

/-- The digits have no leading zero. -/
def plain (mask : List Char) : Bool := mask.length == 1 || mask.head? != some '0'

/-- Address, mask length, and whether it is written plainly. -/
def readCidr (s : String) : Option (NetPrefix × Bool) :=
  match cutSlash s with
  | none => none
  | some (addr, mask) =>
    match parseAddr addr, maskLength mask with
    | some (.v4 a), some n => if h : n < 33 then some (.v4 a ⟨n, h⟩, plain mask) else none
    | some (.v6 a), some n => if h : n < 129 then some (.v6 a ⟨n, h⟩, plain mask) else none
    | _, _ => none

def ipNetOf (p : NetPrefix) : IPNet :=
  match p.masked with
  | .v4 a n => .mask4 a n
  | .v6 a n => .mask16 a n

/-- `net.ParseCIDR`: leading zeros of the mask length do not matter. -/
def parseCIDR (s : String) : Option IPNet := (readCidr parseAddr s).map fun r => ipNetOf r.1

/-- `netip.ParsePrefix`: they are refused. -/
def parsePrefix (s : String) : Option NetPrefix :=
  ((readCidr parseAddr s).filter fun r => r.2).map Prod.fst

def maxVPCCIDRs : Nat := 1024

def maxVPCCIDRBytes : Nat := 64

/-- The checks of one entry of `ValidateVPCCIDRs`. -/
def validateCIDR (i : Nat) (cidr : String) : Except String Unit :=
  if maxVPCCIDRBytes < cidr.utf8ByteSize then
    .error ("VPC CIDR at index " ++ toString i ++ " exceeds " ++ toString maxVPCCIDRBytes ++ " bytes")
  else if (parseCIDR parseAddr cidr).isNone then
    .error ("VPC CIDR at index " ++ toString i ++ " is not a valid IP CIDR")
  else .ok ()

def validateFrom (i : Nat) : List String → Except String Unit
  | [] => .ok ()
  | cidr :: cidrs =>
    match validateCIDR parseAddr i cidr with
    | .error e => .error e
    | .ok () => validateFrom (i + 1) cidrs

def validateVPCCIDRs (cidrs : List String) : Except String Unit :=
  if maxVPCCIDRs < cidrs.length then
    .error ("VPC exceeds " ++ toString maxVPCCIDRs ++ " input CIDRs")
  else validateFrom parseAddr 0 cidrs

/-- `CIDRsOverlap`: entries that do not parse are ignored. -/
def cidrsOverlapText (a b : List String) : Bool :=
  cidrsOverlap (a.filterMap (parsePrefix parseAddr)) (b.filterMap (parsePrefix parseAddr))

variable {parseAddr}

theorem validateFrom_ok {i : Nat} (h : validateFrom parseAddr i cidrs = .ok ()) :
    ∀ x ∈ cidrs, x.utf8ByteSize ≤ maxVPCCIDRBytes ∧ ∃ c, parseCIDR parseAddr x = some c := by
  induction cidrs generalizing i with
  | nil => exact nofun
  | cons cidr cidrs ih =>
    unfold validateFrom at h
    split at h
    · nomatch h
    rename_i hone
    intro x hx
    rcases List.mem_cons.mp hx with rfl | hx
    · unfold validateCIDR at hone
      split at hone
      · nomatch hone
      split at hone
      · nomatch hone
      next hlong hsome =>
      refine ⟨Nat.not_lt.mp hlong, Option.isSome_iff_exists.mp ?_⟩
      rwa [Option.isNone_iff_eq_none, ← ne_eq, Option.ne_none_iff_isSome] at hsome
    · exact ih h x hx

theorem validateVPCCIDRs_ok (h : validateVPCCIDRs parseAddr cidrs = .ok ()) :
    ∀ x ∈ cidrs, x.utf8ByteSize ≤ maxVPCCIDRBytes ∧ ∃ c, parseCIDR parseAddr x = some c := by
  unfold validateVPCCIDRs at h
  split at h
  · nomatch h
  · exact validateFrom_ok h

/-- The two parsers agree on the prefix of an entry that both accept. -/
theorem normalizedCIDR_ipNetOf (p : NetPrefix) : normalizedCIDR (ipNetOf p) = overlapPrefix p := by
  cases p with
  | v4 a n | v6 a n => rfl

theorem mem_filterMap_parsePrefix {a : List String} :
    p ∈ a.filterMap (parsePrefix parseAddr) ↔ ∃ x ∈ a, readCidr parseAddr x = some (p, true) := by
  rw [List.mem_filterMap]
  refine exists_congr fun x => and_congr_right fun _ => ?_
  unfold parsePrefix
  rw [Option.map_eq_some_iff]
  constructor
  · rintro ⟨r, hr, rfl⟩
    obtain ⟨hread, hplain⟩ := Option.filter_eq_some_iff.mp hr
    rw [hread, ← hplain]
  · intro hread
    exact ⟨(p, true), Option.filter_eq_some_iff.mpr ⟨hread, rfl⟩, rfl⟩

/-- The entries are written plainly, are of one family, and have an address in common. -/
def Sees (parseAddr : String → Option Ip) (x y : String) : Prop :=
  ∃ p q, readCidr parseAddr x = some (p, true) ∧ readCidr parseAddr y = some (q, true) ∧
    (overlapPrefix p).overlaps (overlapPrefix q) = true

/-- **WHAT `CIDRsOverlap` SEES.** -/
theorem cidrsOverlapText_iff (a b : List String) :
    cidrsOverlapText parseAddr a b = true ↔ ∃ x ∈ a, ∃ y ∈ b, Sees parseAddr x y := by
  unfold cidrsOverlapText
  rw [cidrsOverlap_iff]
  constructor
  · rintro ⟨p, hp, q, hq, hov⟩
    obtain ⟨x, hx, hxp⟩ := mem_filterMap_parsePrefix.mp hp
    obtain ⟨y, hy, hyq⟩ := mem_filterMap_parsePrefix.mp hq
    exact ⟨x, hx, y, hy, p, q, hxp, hyq, hov⟩
  · rintro ⟨x, hx, y, hy, p, q, hxp, hyq, hov⟩
    exact ⟨p, mem_filterMap_parsePrefix.mpr ⟨x, hx, hxp⟩, q,
      mem_filterMap_parsePrefix.mpr ⟨y, hy, hyq⟩, hov⟩

/-- The addresses that a prefix stands for as it is written: those equal to it as far as it is fixed.
    A mapped prefix of /96 or longer stands for IPv4 addresses, and for no other. -/
def Spans : NetPrefix → Ip → Prop
  | .v4 a n, .v4 b => agree n.val a b = true
  | .v4 _ _, .v6 _ => False
  | .v6 a n, .v4 b => 96 ≤ n.val ∧ agree n.val a (0xffff#96 ++ b) = true
  | .v6 a n, .v6 b => ¬ (96 ≤ n.val ∧ is4In6 a = true) ∧ agree n.val a b = true

/-- An address cut after its first 96 bits. -/
theorem addr_halves (a : Addr) : a = a.extractLsb' 32 96 ++ a.extractLsb' 0 32 := by
  rw [BitVec.extractLsb'_append_extractLsb'_eq_extractLsb' (by omega)]
  exact (BitVec.extractLsb'_eq_self ..).symm

/-- Prefixes of /96 and longer agree on the first 96 bits, and then on the last 32. -/
theorem agree_halves {n : Nat} (hn : 96 ≤ n) (a b : Addr) :
    agree n a b = true ↔ a.extractLsb' 32 96 = b.extractLsb' 32 96 ∧
      agree (n - 96) (a.extractLsb' 0 32) (b.extractLsb' 0 32) = true := by
  obtain ⟨m, rfl⟩ := Nat.exists_eq_add_of_le hn
  rw [Nat.add_sub_cancel_left, ← agree_append, ← addr_halves, ← addr_halves]

/-- **NORMALISING KEEPS THE ADDRESSES**, a mapped one being its IPv4 address. -/
theorem overlapPrefix_contains (p : NetPrefix) (s : Ip) :
    (overlapPrefix p).contains s = true ↔ Spans p s := by
  cases p with
  | v4 a n =>
    cases s with
    | v4 b => exact Bool.eq_iff_iff.mp (masked_contains (.v4 a n) (.v4 b))
    | v6 b => exact ⟨nofun, nofun⟩
  | v6 a n =>
    have hmask : ∀ b, agree n.val ((a >>> (128 - n.val)) <<< (128 - n.val)) b = agree n.val a b :=
      fun b => masked_contains (.v6 a n) (.v6 b)
    have hself := (hmask _).symm.trans (agree_refl (Nat.le_of_lt_succ n.isLt) _)
    unfold overlapPrefix NetPrefix.masked
    dsimp only
    by_cases hn : 96 ≤ n.val
    · -- masking leaves the first 96 bits alone
      obtain ⟨hhead, -⟩ := (agree_halves hn _ _).mp hself
      have hmapped : is4In6 ((a >>> (128 - n.val)) <<< (128 - n.val)) = is4In6 a := by
        unfold is4In6
        rw [hhead]
      cases s with
      | v4 b =>
        show _ ↔ 96 ≤ n.val ∧ agree n.val a (0xffff#96 ++ b) = true
        rw [and_iff_right hn, ← hmask, agree_halves hn, BitVec.extractLsb'_append_eq_left]
        cases hm : is4In6 a with
        | true =>
          rw [if_pos ⟨hmapped.trans hm, hn⟩]
          have h96 := beq_iff_eq.mp (hmapped.trans hm)
          rw [h96, BitVec.extractLsb'_append_eq_right]
          exact (and_iff_right rfl).symm
        | false =>
          rw [if_neg fun h => Bool.false_ne_true ((hmapped.trans hm).symm.trans h.1)]
          refine ⟨nofun, fun h => absurd (beq_iff_eq.mpr h.1) ?_⟩
          exact fun h => Bool.false_ne_true ((hmapped.trans hm).symm.trans h)
      | v6 b =>
        show _ ↔ ¬ (96 ≤ n.val ∧ is4In6 a = true) ∧ agree n.val a b = true
        rw [← hmapped]
        split
        · rename_i h
          exact ⟨nofun, fun hs => absurd ⟨h.2, h.1⟩ hs.1⟩
        · rename_i h
          exact (Bool.eq_iff_iff.mp (hmask b)).trans (and_iff_right fun hs => h ⟨hs.2, hs.1⟩).symm
    · rw [if_neg fun h => hn h.2]
      cases s with
      | v4 b => exact ⟨nofun, fun h => absurd h.1 hn⟩
      | v6 b => exact (Bool.eq_iff_iff.mp (hmask b)).trans (and_iff_right fun h => hn h.1).symm

/-- Two entries parse, and an address is one of both. -/
def Common (parseAddr : String → Option Ip) (x y : String) : Prop :=
  ∃ p q s, parsePrefix parseAddr x = some p ∧ parsePrefix parseAddr y = some q ∧ Spans p s ∧ Spans q s

/-- **THE TEST IS EXACT**, symmetric, and a function of the two sets of entries. -/
theorem cidrsOverlap_exact (parseAddr : String → Option Ip) (a b : List String) :
    (cidrsOverlapText parseAddr a b = true ↔ ∃ x ∈ a, ∃ y ∈ b, Common parseAddr x y) ∧
    cidrsOverlapText parseAddr a b = cidrsOverlapText parseAddr b a ∧
    ∀ a' b', a' ⊆ a → a ⊆ a' → b' ⊆ b → b ⊆ b' →
      cidrsOverlapText parseAddr a' b' = cidrsOverlapText parseAddr a b := by
  have hexact : ∀ a b, cidrsOverlapText parseAddr a b = true ↔
      ∃ x ∈ a, ∃ y ∈ b, Common parseAddr x y := by
    intro a b
    unfold cidrsOverlapText
    rw [cidrsOverlap_iff]
    constructor
    · rintro ⟨p, hp, q, hq, hov⟩
      obtain ⟨x, hx, hxp⟩ := List.mem_filterMap.mp hp
      obtain ⟨y, hy, hyq⟩ := List.mem_filterMap.mp hq
      obtain ⟨s, hps, hqs⟩ : ∃ s, (overlapPrefix p).contains s = true ∧
          (overlapPrefix q).contains s = true := by
        rcases overlaps_iff_contains.mp hov with hin | hin
        · exact ⟨_, hin, contains_addr _⟩
        · exact ⟨_, contains_addr _, hin⟩
      exact ⟨x, hx, y, hy, p, q, s, hxp, hyq, (overlapPrefix_contains p s).mp hps,
        (overlapPrefix_contains q s).mp hqs⟩
    · rintro ⟨x, hx, y, hy, p, q, s, hxp, hyq, hps, hqs⟩
      exact ⟨p, List.mem_filterMap.mpr ⟨x, hx, hxp⟩, q, List.mem_filterMap.mpr ⟨y, hy, hyq⟩,
        NetPrefix.overlaps_of_contains ((overlapPrefix_contains p s).mpr hps)
          ((overlapPrefix_contains q s).mpr hqs)⟩
  refine ⟨hexact a b, ?_, fun a' b' ha ha' hb hb' => ?_⟩
  · have hswap : ∀ {a b : List String}, (∃ x ∈ a, ∃ y ∈ b, Common parseAddr x y) →
        ∃ y ∈ b, ∃ x ∈ a, Common parseAddr y x := by
      rintro a b ⟨x, hx, y, hy, p, q, s, hp, hq, hps, hqs⟩
      exact ⟨y, hy, x, hx, q, p, s, hq, hp, hqs, hps⟩
    rw [Bool.eq_iff_iff, hexact, hexact]
    exact ⟨hswap, hswap⟩
  · rw [Bool.eq_iff_iff, hexact, hexact]
    constructor
    · rintro ⟨x, hx, y, hy, h⟩
      exact ⟨x, ha hx, y, hb hy, h⟩
    · rintro ⟨x, hx, y, hy, h⟩
      exact ⟨x, ha' hx, y, hb' hy, h⟩

end

end CozyCidrOverlap
