import Cozyplane.PacketProofs
import Cozyplane.RangePolicyProofs

/-!
# CIDRs — from the API's masks to the ranges of the policy tables

Every policy table is keyed by 128-bit addresses, IPv4 in its NAT64 form, and tags its rows
with the address family. `cidrRange` is the one conversion from a parsed CIDR to such a range.
-/

namespace CozyCidr

open PrefixTable RangePolicy CozyPacket

/-- An address with its family, as a packet shows it. -/
inductive Ip where
  | v4 (a : U32)
  | v6 (a : Addr)
  deriving DecidableEq

/-- The map form of an address. -/
def Ip.key : Ip → Addr
  | .v4 a => v4To128 a
  | .v6 a => a

def Ip.isV4 : Ip → Bool
  | .v4 _ => true
  | .v6 _ => false

instance ones4_neZero : NeZero 33 := ⟨by decide⟩

instance ones6_neZero : NeZero 129 := ⟨by decide⟩

/-- A `*net.IPNet` as `net.ParseCIDR` returns it: a 4-byte or a 16-byte mask with its
    number of ones. -/
inductive IPNet where
  | mask4 (ip : U32) (ones : Fin 33)
  | mask16 (ip : Addr) (ones : Fin 129)
  deriving DecidableEq

/-- `netip.Prefix` of either family. -/
inductive NetPrefix where
  | v4 (addr : U32) (ones : Fin 33)
  | v6 (addr : Addr) (ones : Fin 129)
  deriving DecidableEq

/-- `Addr.Is4In6`: ::ffff:a.b.c.d. -/
def is4In6 (a : Addr) : Bool := a.extractLsb' 32 96 == 0xffff#96

/-- `normalizedCIDR`: a mapped mask of /96 or longer is an IPv4 one. -/
def normalizedCIDR : IPNet → NetPrefix
  | .mask4 ip ones => .v4 ip ones
  | .mask16 ip ones =>
    if is4In6 ip ∧ 96 ≤ ones.val then
      .v4 (ip.extractLsb' 0 32) ⟨ones.val - 96, by omega⟩
    else .v6 ip ones

/-- `Prefix.Contains`: families are kept apart. -/
def NetPrefix.contains : NetPrefix → Ip → Bool
  | .v4 a n, .v4 s => agree n.val a s
  | .v6 a n, .v6 s => agree n.val a s
  | _, _ => false

/-- The CIDR contains the address. -/
def IPNet.contains (c : IPNet) (s : Ip) : Bool := (normalizedCIDR c).contains s

def NetPrefix.isV4 : NetPrefix → Bool
  | .v4 _ _ => true
  | .v6 _ _ => false

/-- The range of `cidrPolicyPrefix`: an IPv4 mask is 96 bits longer in the NAT64 form. -/
def cidrRange (c : IPNet) : Range 128 :=
  match normalizedCIDR c with
  | .v4 a n => Range.around (96 + n.val) (by omega) (v4To128 a)
  | .v6 a n => Range.around n.val (by omega) a

/-- The family of `cidrPolicyPrefix`. -/
def cidrIsV4 (c : IPNet) : Bool := (normalizedCIDR c).isV4

/-- `addr128`: a v4 or mapped address goes to its NAT64 form. -/
def addr128 (ip : Addr) : Addr :=
  if is4In6 ip then v4To128 (ip.extractLsb' 0 32) else ip

/-- **THE CONVERSION IS EXACT**: the range of the address's own family contains its map form
    iff the CIDR contains it. -/
theorem cidrRange_contains (c : IPNet) (s : Ip) :
    cidrIsV4 c = s.isV4 ∧ (cidrRange c).contains s.key = true ↔ c.contains s = true := by
  unfold cidrIsV4 cidrRange IPNet.contains
  cases normalizedCIDR c with
  | v4 a n =>
    cases s with
    | v4 b =>
      simp only [NetPrefix.isV4, Ip.isV4, true_and, NetPrefix.contains, Ip.key,
        Range.around_contains]
      unfold v4To128
      rw [agree_append]
      simp
    | v6 b => simp [NetPrefix.isV4, Ip.isV4, NetPrefix.contains]
  | v6 a n =>
    cases s with
    | v4 b => simp [NetPrefix.isV4, Ip.isV4, NetPrefix.contains]
    | v6 b =>
      simp [NetPrefix.isV4, Ip.isV4, NetPrefix.contains, Ip.key, Range.around_contains]

/-- `Addr.Next`: the last address of a family has none. -/
def Ip.next : Ip → Option Ip
  | .v4 a => if a + 1 = 0 then none else some (.v4 (a + 1))
  | .v6 a => if a + 1 = 0 then none else some (.v6 (a + 1))

/-- `Prefix.Overlaps`: of one family, and equal as far as both are fixed. -/
def NetPrefix.overlaps : NetPrefix → NetPrefix → Bool
  | .v4 a n, .v4 b m => agree (min n.val m.val) a b
  | .v6 a n, .v6 b m => agree (min n.val m.val) a b
  | _, _ => false

theorem NetPrefix.overlaps_symm {p q : NetPrefix} (h : p.overlaps q = true) :
    q.overlaps p = true := by
  cases p with
  | v4 a n =>
    cases q with
    | v4 b m =>
      show agree (min m.val n.val) b a = true
      rw [min_comm]
      exact agree_symm h
    | v6 b m => nomatch h
  | v6 a n =>
    cases q with
    | v4 b m => nomatch h
    | v6 b m =>
      show agree (min m.val n.val) b a = true
      rw [min_comm]
      exact agree_symm h

theorem NetPrefix.overlaps_of_contains {p q : NetPrefix} {s : Ip} (hp : p.contains s = true)
    (hq : q.contains s = true) : p.overlaps q = true := by
  cases p with
  | v4 a n =>
    cases s with
    | v6 s => nomatch hp
    | v4 s =>
      cases q with
      | v6 b m => nomatch hq
      | v4 b m =>
        exact agree_trans (agree_mono (min_le_left _ _) hp)
          (agree_symm (agree_mono (min_le_right _ _) hq))
  | v6 a n =>
    cases s with
    | v4 s => nomatch hp
    | v6 s =>
      cases q with
      | v4 b m => nomatch hq
      | v6 b m =>
        exact agree_trans (agree_mono (min_le_left _ _) hp)
          (agree_symm (agree_mono (min_le_right _ _) hq))

/-- `Addr.Compare` as a number: every IPv4 address is below every IPv6 one. -/
def Ip.rank : Ip → Nat
  | .v4 a => a.toNat
  | .v6 a => 2 ^ 32 + a.toNat

def NetPrefix.addr : NetPrefix → Ip
  | .v4 a _ => .v4 a
  | .v6 a _ => .v6 a

def NetPrefix.bits : NetPrefix → Nat
  | .v4 _ n => n.val
  | .v6 _ n => n.val

/-- `Prefix.Masked`. -/
def NetPrefix.masked : NetPrefix → NetPrefix
  | .v4 a n => .v4 ((a >>> (32 - n.val)) <<< (32 - n.val)) n
  | .v6 a n => .v6 ((a >>> (128 - n.val)) <<< (128 - n.val)) n

theorem masked_contains (p : NetPrefix) (s : Ip) : p.masked.contains s = p.contains s := by
  cases p with
  | v4 a n =>
    cases s with
    | v4 b => exact Range.around_contains (Nat.le_of_lt_succ n.isLt) a b
    | v6 b => rfl
  | v6 a n =>
    cases s with
    | v4 b => rfl
    | v6 b => exact Range.around_contains (Nat.le_of_lt_succ n.isLt) a b

/-- `overlapPrefix`, once the text is parsed: a mapped prefix of /96 or longer is IPv4. -/
def overlapPrefix (p : NetPrefix) : NetPrefix :=
  match p.masked with
  | .v4 a n => .v4 a n
  | .v6 a n =>
    if is4In6 a ∧ 96 ≤ n.val then .v4 (a.extractLsb' 0 32) ⟨n.val - 96, by omega⟩ else .v6 a n

/-- The sort order: by address, a containing prefix first. -/
def NetPrefix.before (p q : NetPrefix) : Bool :=
  p.addr.rank < q.addr.rank || (p.addr.rank == q.addr.rank && p.bits ≤ q.bits)

/-- Drop a prefix that lies within the last one kept. -/
def keepDisjoint (kept : List NetPrefix) (p : NetPrefix) : List NetPrefix :=
  match kept.getLast? with
  | none => [p]
  | some q => if q.contains p.addr then kept else kept ++ [p]

/-- `CIDRsOverlap`, on the entries that parse; the search finds the first kept prefix that does not
    start before the given one. -/
def cidrsOverlap (a b : List NetPrefix) : Bool :=
  let disjoint := ((b.map overlapPrefix).insertionSort fun p q => p.before q = true).foldl
    keepDisjoint []
  (a.map overlapPrefix).any fun an =>
    let i := disjoint.findIdx fun p => an.addr.rank ≤ p.addr.rank
    (disjoint[i]?.any fun p => an.contains p.addr) ||
      (decide (0 < i) && disjoint[i - 1]?.any fun p => p.contains an.addr)

end CozyCidr
