import Cozyplane.AccumulateProofs
import Cozyplane.CidrProofs

/-!
# The IPsec filter — what a decrypted packet may reach

`vpn_ipsec_ingress` sits on an XFRM interface. It passes packets for the served prefixes and drops
those for the appliance's own addresses, before the kernel routes them. One trie and one hash map
hold both families, IPv4 in its NAT64 form; the family is part of the key.
-/

namespace CozyIpsec

open PrefixTable RangePolicy CozyPacket CozyCidr

/-- `netip.ParsePrefix` and `Addr.IsGlobalUnicast`. -/
structure Platform where
  parsePrefix : String → Option NetPrefix
  isGlobalUnicast : Ip → Bool

def family : Ip → U32
  | .v4 _ => 4#32
  | .v6 _ => 6#32

/-- `addressKey`; a mapped address has none. -/
def addressKey (a : Ip) : Except String (U32 × Addr) :=
  match a with
  | .v4 _ => .ok (family a, a.key)
  | .v6 b => if is4In6 b then .error "invalid address family" else .ok (family a, a.key)

/-- Lengths count the field of the family, and 96 bits in front of an IPv4 address. -/
def prefixLen : NetPrefix → Nat
  | .v4 _ n => 32 + (96 + n.val)
  | .v6 _ n => 32 + n.val

def destinationRow (P : Platform) (raw : String) : Except String (Entry 160 Unit) :=
  if 64 < raw.utf8ByteSize then .error "IPsec destination exceeds size budget"
  else
    match P.parsePrefix raw with
    | none => .error "invalid IPsec destination"
    | some net =>
      if P.isGlobalUnicast net.masked.addr = false ∨ net.masked.bits = 0 then
        .error "IPsec destination must be a VPC prefix"
      else (addressKey net.masked.addr).map fun k => ⟨prefixLen net.masked, k.1 ++ k.2, ()⟩

/-- What the filter refuses and lets out. -/
structure Rules where
  denied : List (U32 × Addr)
  destinations : Table 160 Unit

def compile (P : Platform) (destinations : List String) (own : List Ip) : Except String Rules :=
  if destinations = [] ∨ 4096 < destinations.length ∨ 1024 < own.length then
    .error "IPsec policy capacity exceeded"
  else do
    let denied ← own.mapM addressKey
    let rows ← destinations.mapM (destinationRow P)
    .ok ⟨denied, rows⟩

def number (bs : List U8) : Nat := bs.foldl (fun n b => 256 * n + b.toNat) 0

/-- The destination of a packet, read from its network header on. -/
def destinationOf (pkt : List U8) : Option Ip :=
  match pkt with
  | [] => none
  | version :: _ =>
    if version >>> 4 = 4#8 then
      if pkt.length < 20 ∨ version &&& 15#8 < 5#8 then none
      else some (.v4 (BitVec.ofNat 32 (number ((pkt.drop 16).take 4))))
    else if version >>> 4 = 6#8 then
      if pkt.length < 40 then none
      else some (.v6 (BitVec.ofNat 128 (number ((pkt.drop 24).take 16))))
    else none

/-- `vpn_ipsec_ingress`: whether the packet passes. -/
def vpnIpsecIngress (r : Rules) (pkt : List U8) : Bool :=
  match destinationOf pkt with
  | none => false
  | some dst => decide ((family dst, dst.key) ∉ r.denied) &&
      (lookup r.destinations (family dst ++ dst.key)).isSome

/-- What a loop that maps has made of its list. Induction on the list. -/
theorem mapM_ok {α β ε : Type} {f : α → Except ε β} {xs : List α} {ys : List β}
    (h : xs.mapM f = .ok ys) : ys.length = xs.length ∧ (∀ x ∈ xs, ∃ y ∈ ys, f x = .ok y) ∧
      ∀ y ∈ ys, ∃ x ∈ xs, f x = .ok y := by
  induction xs generalizing ys with
  | nil =>
    cases h
    simp
  | cons x xs ih =>
    rw [List.mapM_cons] at h
    obtain ⟨y, hy, h⟩ := Accumulate.bind_ok h
    obtain ⟨zs, hzs, h⟩ := Accumulate.bind_ok h
    cases h
    obtain ⟨hlen, hto, hfrom⟩ := ih hzs
    refine ⟨by simp [hlen], fun x' hx' => ?_, fun y' hy' => ?_⟩
    · rcases List.mem_cons.mp hx' with rfl | hx'
      · exact ⟨y, .head _, hy⟩
      · obtain ⟨z, hz, hf⟩ := hto x' hx'
        exact ⟨z, .tail _ hz, hf⟩
    · rcases List.mem_cons.mp hy' with rfl | hy'
      · exact ⟨x, .head _, hy⟩
      · obtain ⟨x', hx', hf⟩ := hfrom y' hy'
        exact ⟨x', .tail _ hx', hf⟩

theorem addressKey_ok {a : Ip} {k : U32 × Addr} (h : addressKey a = .ok k) : k = (family a, a.key) := by
  cases a with
  | v4 a => exact (Except.ok.inj h).symm
  | v6 a =>
    rw [addressKey] at h
    split at h
    · cases h
    · exact (Except.ok.inj h).symm

theorem key_inj {a b : Ip} (h : (family a, a.key) = (family b, b.key)) : a = b := by
  obtain ⟨hf, hk⟩ := Prod.mk.inj h
  cases a with
  | v4 a =>
    cases b with
    | v4 b =>
      have hb := congrArg v4Of128 hk
      rw [Ip.key, Ip.key, v4Of128_v4To128, v4Of128_v4To128] at hb
      rw [hb]
    | v6 b => cases hf
  | v6 a =>
    cases b with
    | v4 b => cases hf
    | v6 b => exact congrArg Ip.v6 hk

/-- **A ROW COVERS ITS PREFIX**, within its family. -/
theorem row_covers (net : NetPrefix) (dst : Ip) :
    agree (prefixLen net) (family net.addr ++ net.addr.key) (family dst ++ dst.key) = true ↔
      net.contains dst = true := by
  cases net with
  | v4 a n =>
    rw [prefixLen, agree_append]
    cases dst with
    | v4 b =>
      show 4#32 = 4#32 ∧ agree (96 + n.val) (v4To128 a) (v4To128 b) = true ↔ agree n.val a b = true
      rw [v4To128, v4To128, agree_append]
      simp
    | v6 b => exact iff_of_false (fun h => absurd h.1 (show 4#32 ≠ 6#32 by decide)) Bool.false_ne_true
  | v6 a n =>
    rw [prefixLen, agree_append]
    cases dst with
    | v4 b => exact iff_of_false (fun h => absurd h.1 (show 6#32 ≠ 4#32 by decide)) Bool.false_ne_true
    | v6 b => exact and_iff_right rfl

theorem destinationRow_ok {P : Platform} {raw : String} {e : Entry 160 Unit}
    (h : destinationRow P raw = .ok e) : ∃ net, P.parsePrefix raw = some net ∧
      e = ⟨prefixLen net.masked, family net.masked.addr ++ net.masked.addr.key, ()⟩ := by
  rw [destinationRow] at h
  split at h
  · cases h
  split at h
  · cases h
  · rename_i net hnet
    split at h
    · cases h
    cases hkey : addressKey net.masked.addr with
    | error e =>
      rw [hkey] at h
      cases h
    | ok k =>
      rw [hkey] at h
      cases h
      rw [addressKey_ok hkey]
      exact ⟨net, hnet, rfl⟩

/-- The hash map holds the appliance's addresses. -/
theorem denied_iff {own : List Ip} {denied : List (U32 × Addr)} (h : own.mapM addressKey = .ok denied)
    (dst : Ip) : (family dst, dst.key) ∈ denied ↔ dst ∈ own := by
  obtain ⟨-, hto, hfrom⟩ := mapM_ok h
  constructor
  · intro hmem
    obtain ⟨a, ha, hkey⟩ := hfrom _ hmem
    rw [key_inj (addressKey_ok hkey)]
    exact ha
  · intro hmem
    obtain ⟨k, hk, hkey⟩ := hto dst hmem
    rw [← addressKey_ok hkey]
    exact hk

/-- The trie answers for the served prefixes. -/
theorem served_iff {P : Platform} {destinations : List String} {rows : Table 160 Unit}
    (h : destinations.mapM (destinationRow P) = .ok rows) (dst : Ip) :
    (lookup rows (family dst ++ dst.key)).isSome = true ↔
      ∃ raw ∈ destinations, ∃ net, P.parsePrefix raw = some net ∧ net.contains dst = true := by
  obtain ⟨-, hto, hfrom⟩ := mapM_ok h
  rw [Option.isSome_iff_exists, lookup_isSome]
  constructor
  · rintro ⟨e, he, hcov⟩
    obtain ⟨raw, hraw, hrow⟩ := hfrom e he
    obtain ⟨net, hnet, rfl⟩ := destinationRow_ok hrow
    have hin := (row_covers net.masked dst).mp hcov
    rw [masked_contains] at hin
    exact ⟨raw, hraw, net, hnet, hin⟩
  · rintro ⟨raw, hraw, net, hnet, hin⟩
    obtain ⟨e, he, hrow⟩ := hto raw hraw
    obtain ⟨net', hnet', rfl⟩ := destinationRow_ok hrow
    cases hnet.symm.trans hnet'
    rw [← masked_contains] at hin
    exact ⟨_, he, (row_covers net.masked dst).mpr hin⟩

/-- **THE FILTER IS EXACT**: an accepted policy fits its maps, and a packet passes iff its destination
    lies in a served prefix of its own family and is not an address of the appliance. -/
theorem ingress_exact {P : Platform} {destinations : List String} {own : List Ip} {r : Rules}
    (h : compile P destinations own = .ok r) :
    r.denied.length ≤ 1024 ∧ r.destinations.length ≤ 4096 ∧
    ∀ pkt, vpnIpsecIngress r pkt = true ↔ ∃ dst, destinationOf pkt = some dst ∧ dst ∉ own ∧
      ∃ raw ∈ destinations, ∃ net, P.parsePrefix raw = some net ∧ net.contains dst = true := by
  rw [compile] at h
  split at h
  · cases h
  obtain ⟨denied, hdenied, h⟩ := Accumulate.bind_ok h
  obtain ⟨rows, hrows, h⟩ := Accumulate.bind_ok h
  cases h
  have hdlen := (mapM_ok hdenied).1
  have hrlen := (mapM_ok hrows).1
  refine ⟨show denied.length ≤ 1024 by omega, show rows.length ≤ 4096 by omega, fun pkt => ?_⟩
  rw [vpnIpsecIngress]
  cases hdst : destinationOf pkt with
  | none => simp
  | some dst =>
    rw [Bool.and_eq_true, decide_eq_true_eq, denied_iff hdenied, served_iff hrows]
    constructor
    · intro hpass
      exact ⟨dst, rfl, hpass⟩
    · rintro ⟨dst', hdst', hpass⟩
      cases hdst'
      exact hpass

/-- One served prefix, 10.0.0.0/8, on an appliance with 10.0.0.1. -/
def demoPlatform : Platform :=
  ⟨fun _ => some (.v4 0x0a000000#32 8), fun _ => true⟩

/-- A packet to 10.1.2.3. -/
def demoPacket : List U8 := 0x45#8 :: List.replicate 15 0#8 ++ [10#8, 1#8, 2#8, 3#8]

theorem ingress_exact_ten : (compile demoPlatform ["10.0.0.0/8"] [.v4 0x0a000001#32]).isOk = true ∧
    ∀ r, compile demoPlatform ["10.0.0.0/8"] [.v4 0x0a000001#32] = .ok r →
      vpnIpsecIngress r demoPacket = true :=
  ⟨by decide, fun r h => ((ingress_exact h).2.2 demoPacket).mpr
    ⟨.v4 0x0a010203#32, by decide, by decide, "10.0.0.0/8", .head _, _, rfl, by decide⟩⟩

end CozyIpsec
