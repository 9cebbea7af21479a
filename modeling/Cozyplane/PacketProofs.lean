import Mathlib

/-!
# Packets — addresses, frames and header access (`bpf/overlay.c`, `bpf/address128.h`)

The datapath reads a frame through fixed offsets and hands every family-agnostic stage a
`pkt`: family, protocol and two 128-bit addresses, IPv4 in its NAT64 form `64:ff9b::a.b.c.d`.

* **`Addr`** is `struct addr128` as one big-endian number.
* **`Frame`** is what the programs can tell apart: an IPv4 or IPv6 packet, an ARP frame, any other
  EtherType, and a frame too short for the header its EtherType announces.
* `load8` … `load128` are `bpf_skb_load_bytes` on the bytes after the fixed header: they fail past
  the end of the packet. Ports and ids are the big-endian number on the wire.
* Header rewrites (`nat_addr`, `nat_port`, …) are field updates. Checksums and MAC addresses are
  not part of the model: no verdict reads them.
-/

namespace CozyPacket

abbrev U8 := BitVec 8
abbrev U16 := BitVec 16
abbrev U32 := BitVec 32
abbrev U64 := BitVec 64

/-- `struct addr128`: a 128-bit address in network byte order. -/
abbrev Addr := BitVec 128

/-- `NAT64_PREFIX`, the well-known prefix `64:ff9b::/96`. -/
def nat64Prefix : BitVec 96 := 0x0064ff9b0000000000000000#96

/-- `v4_to_128`: an IPv4 address in its NAT64-mapped form. -/
def v4To128 (v4 : U32) : Addr := nat64Prefix ++ v4

/-- `v4_of_128`: the low 32 bits. Meaningful only where the family is known to be v4. -/
def v4Of128 (a : Addr) : U32 := a.extractLsb' 0 32

/-- `b[0]` and `b[1]` of an address. -/
def addrByte0 (a : Addr) : U8 := a.extractLsb' 120 8
def addrByte1 (a : Addr) : U8 := a.extractLsb' 112 8

/-- `v6_link_scoped`: multicast `ff00::/8` or link-local `fe80::/10`. -/
def v6LinkScoped (a : Addr) : Bool :=
  addrByte0 a == 0xff#8 || (addrByte0 a == 0xfe#8 && addrByte1 a &&& 0xc0#8 == 0x80#8)

/-- `LINK_LOCAL_GW` 169.254.1.1 and its v6 twin `fe80::1`: the masquerade gateway. -/
def linkLocalGw : U32 := 0xA9FE0101#32
def linkLocalGw6 : Addr := 0xfe800000000000000000000000000001#128

/-- `SVC_LOOPBACK` 169.254.42.1: the hairpin loopback. -/
def svcLoopback : U32 := 0xA9FE2A01#32

/-- `SVC_LOOPBACK6`, which overlay.c spells as the bytes of fe80::2a01. -/
def svcLoopback6 : Addr := 0xfe800000000000000000000000002a01#128

@[simp] theorem v4Of128_v4To128 (v4 : U32) : v4Of128 (v4To128 v4) = v4 := by
  refine BitVec.eq_of_getLsbD_eq fun i hi => ?_
  have hbit : (nat64Prefix ++ v4).getLsbD i = v4.getLsbD i := by
    rw [BitVec.getLsbD_append, if_pos hi]
  simpa [v4Of128, v4To128, hi] using hbit

def ipprotoIcmp : U8 := 1#8
def ipprotoTcp : U8 := 6#8
def ipprotoUdp : U8 := 17#8
def ipprotoIcmpv6 : U8 := 58#8
def ipprotoSctp : U8 := 132#8

/-- The fields of `struct iphdr` the programs read. -/
structure Ip4 where
  version : BitVec 4
  ihl : BitVec 4
  fragOff : U16
  protocol : U8
  saddr : U32
  daddr : U32
  deriving DecidableEq

/-- The fields of `struct ipv6hdr` the programs read. -/
structure Ip6 where
  version : BitVec 4
  payloadLen : U16
  nexthdr : U8
  hopLimit : U8
  saddr : Addr
  daddr : Addr
  deriving DecidableEq

/-- A frame as the parsers see it. `l4` holds the bytes behind the FIXED header, which is where
    `L4_OFF` and `L4_OFF6` point. -/
inductive Frame where
  | ip4 (hdr : Ip4) (l4 : List U8)
  | ip6 (hdr : Ip6) (l4 : List U8)
  | arp
  | other
  | runt
  deriving DecidableEq

/-- `bpf_skb_load_bytes` of one, two, four or sixteen bytes behind the fixed header. -/
def load8 (l : List U8) (off : Nat) : Option U8 := l[off]?

def load16 (l : List U8) (off : Nat) : Option U16 := do
  let hi ← load8 l off
  let lo ← load8 l (off + 1)
  pure (hi ++ lo)

def load32 (l : List U8) (off : Nat) : Option U32 := do
  let hi ← load16 l off
  let lo ← load16 l (off + 2)
  pure (hi ++ lo)

def load64 (l : List U8) (off : Nat) : Option U64 := do
  let hi ← load32 l off
  let lo ← load32 l (off + 4)
  pure (hi ++ lo)

def load128 (l : List U8) (off : Nat) : Option Addr := do
  let hi ← load64 l off
  let lo ← load64 l (off + 8)
  pure (hi ++ lo)

/-- `bpf_skb_store_bytes` of two, four or sixteen bytes. -/
def store16 (l : List U8) (off : Nat) (v : U16) : List U8 :=
  (l.set off (v.extractLsb' 8 8)).set (off + 1) (v.extractLsb' 0 8)

def store32 (l : List U8) (off : Nat) (v : U32) : List U8 :=
  store16 (store16 l off (v.extractLsb' 16 16)) (off + 2) (v.extractLsb' 0 16)

def store64 (l : List U8) (off : Nat) (v : U64) : List U8 :=
  store32 (store32 l off (v.extractLsb' 32 32)) (off + 4) (v.extractLsb' 0 32)

def store128 (l : List U8) (off : Nat) (v : Addr) : List U8 :=
  store64 (store64 l off (v.extractLsb' 64 64)) (off + 8) (v.extractLsb' 0 64)

namespace Frame

/-- The bytes behind the fixed IP header. -/
def l4 : Frame → List U8
  | ip4 _ b => b
  | ip6 _ b => b
  | _ => []

def setL4 (b : List U8) : Frame → Frame
  | ip4 h _ => ip4 h b
  | ip6 h _ => ip6 h b
  | f => f

/-- `nat_addr` / `nat_addr6` on the source or destination address. -/
def setSrc (a : Addr) : Frame → Frame
  | ip4 h b => ip4 { h with saddr := v4Of128 a } b
  | ip6 h b => ip6 { h with saddr := a } b
  | f => f

def setDst (a : Addr) : Frame → Frame
  | ip4 h b => ip4 { h with daddr := v4Of128 a } b
  | ip6 h b => ip6 { h with daddr := a } b
  | f => f

/-- `nat_port` / `nat_port6` at the source or destination port, `nat_icmp_id` at the echo
    identifier. -/
def setSport (p : U16) (f : Frame) : Frame := f.setL4 (store16 f.l4 0 p)
def setDport (p : U16) (f : Frame) : Frame := f.setL4 (store16 f.l4 2 p)
def setIcmpId (p : U16) (f : Frame) : Frame := f.setL4 (store16 f.l4 4 p)

end Frame

/-- `struct pkt`. -/
structure Pkt where
  isV6 : Bool
  proto : U8
  src : Addr
  dst : Addr
  deriving DecidableEq

/-- `parse_ip`: anything that is neither v4 nor v6 is left to the caller. -/
def parseIp : Frame → Option Pkt
  | .ip4 h _ => some ⟨false, h.protocol, v4To128 h.saddr, v4To128 h.daddr⟩
  | .ip6 h _ => some ⟨true, h.nexthdr, h.saddr, h.daddr⟩
  | _ => none

/-- `unsupported_ip_header`: options, fragments, a wrong version, a truncated header or an
    extension chain. -/
def unsupportedIpHeader : Frame → Bool
  | .ip4 h _ => h.version != 4#4 || h.ihl != 5#4 || h.fragOff &&& 0x3fff#16 != 0#16
  | .ip6 h _ =>
    h.version != 6#4 || h.nexthdr == 0#8 || h.nexthdr == 43#8 || h.nexthdr == 44#8 ||
      h.nexthdr == 51#8 || h.nexthdr == 60#8 || h.nexthdr == 135#8
  | .runt => true
  | .arp => false
  | .other => false

/-- `l4_ports` / `l4_ports6`: source and destination port. -/
def l4Ports (f : Frame) : Option (U16 × U16) := do
  let s ← load16 f.l4 0
  let d ← load16 f.l4 2
  pure (s, d)

/-- `icmp_echo` / `icmp6_echo`: type and identifier; the 8-byte ICMP header must be
    there in full. -/
def icmpEcho (f : Frame) : Option (U8 × U16) :=
  if f.l4.length < 8 then none
  else do
    let t ← load8 f.l4 0
    let id ← load16 f.l4 4
    pure (t, id)

/-- The TCP flag byte. -/
def tcpFlags (f : Frame) : Option U8 := load8 f.l4 13

/-- SYN without ACK: what opens a TCP connection. -/
def isSyn (flags : U8) : Bool :=
  flags &&& 0x02#8 != 0#8 && flags &&& 0x10#8 == 0#8

variable {f : Frame}

theorem parseIp_isV4 {p : Pkt} (h : parseIp f = some p) (hv : p.isV6 = false) :
    ∃ h4 b, f = .ip4 h4 b ∧
      p = ⟨false, h4.protocol, v4To128 h4.saddr, v4To128 h4.daddr⟩ := by
  cases f with
  | ip4 h4 b => exact ⟨h4, b, rfl, (Option.some.inj h).symm⟩
  | ip6 h6 b => cases h; nomatch hv
  | arp | other | runt => nomatch h

/-- The option walk of `tcp_mss_clamp_packet`: at most `fuel` options (40 in the source), lowering
    an MSS option above 1200 in place. A load past the packet ends it. -/
def mssWalk : Nat → List U8 → Nat → Nat → List U8
  | 0, l, _, _ => l
  | fuel + 1, l, off, stop =>
    if stop ≤ off then l
    else
      match load32 l off with
      | none => l
      | some opt =>
        let kind := opt.extractLsb' 24 8
        let len := (opt.extractLsb' 16 8).toNat
        if kind = 0#8 then l
        else if kind = 1#8 then mssWalk fuel l (off + 1) stop
        else if len < 2 ∨ stop < off + len then l
        else if kind = 2#8 ∧ len = 4 then
          if opt.extractLsb' 0 16 ≤ 1200#16 then l else store16 l (off + 2) 1200#16
        else mssWalk fuel l (off + len) stop

/-- The clamp on a TCP segment. -/
def mssClamp (l : List U8) (l4off : Nat) : List U8 :=
  if l.length < l4off + 20 then l
  else
    match load8 l (l4off + 12), load8 l (l4off + 13) with
    | some d, some flags =>
      let doff := (d >>> 4).toNat
      let stop := l4off + doff * 4
      if doff < 5 ∨ isSyn flags = false ∨ l.length < stop then l
      else mssWalk 40 l (l4off + 20) stop
    | _, _ => l

/-- `tcp_mss_clamp_packet`: only a TCP SYN is touched; v4 options are skipped by `ihl`. -/
def tcpMssClampPacket : Frame → Frame
  | .ip4 h b =>
    if h.version ≠ 4#4 ∨ h.ihl.toNat < 5 ∨ h.protocol ≠ ipprotoTcp then .ip4 h b
    else .ip4 h (mssClamp b (h.ihl.toNat * 4 - 20))
  | .ip6 h b => if h.nexthdr ≠ ipprotoTcp then .ip6 h b else .ip6 h (mssClamp b 0)
  | f => f

@[simp] theorem parseIp_tcpMssClampPacket (f : Frame) :
    parseIp (tcpMssClampPacket f) = parseIp f := by
  cases f with
  | ip4 h b | ip6 h b => simp only [tcpMssClampPacket]; split <;> rfl
  | arp | other | runt => rfl

-- ── what a rewrite leaves alone

/-- The address a header carries once `a` is written into it: a v4 header has room for the
    low 32 bits only. -/
def wireAddr (isV6 : Bool) (a : Addr) : Addr := if isV6 then a else v4To128 (v4Of128 a)

theorem load16_eq_some {l : List U8} {off : Nat} {v : U16} (h : load16 l off = some v) :
    off + 1 < l.length := by
  unfold load16 load8 at h
  cases hhi : l[off]? with
  | none => rw [hhi] at h; nomatch h
  | some hi =>
    cases hlo : l[off + 1]? with
    | none => rw [hhi, hlo] at h; nomatch h
    | some lo => exact (List.getElem?_eq_some_iff.mp hlo).1

theorem load16_store16 {l : List U8} {off : Nat} (v : U16) (h : off + 1 < l.length) :
    load16 (store16 l off v) off = some v := by
  have hhi : load8 (store16 l off v) off = some (v.extractLsb' 8 8) := by
    unfold load8 store16
    rw [List.getElem?_set_ne (by omega), List.getElem?_set_self (by omega)]
  have hlo : load8 (store16 l off v) (off + 1) = some (v.extractLsb' 0 8) := by
    unfold load8 store16
    rw [List.getElem?_set_self (by rw [List.length_set]; exact h)]
  have hjoin : v.extractLsb' 8 8 ++ v.extractLsb' 0 8 = v :=
    (BitVec.extractLsb'_append_extractLsb'_eq_extractLsb' rfl).trans BitVec.extractLsb'_eq_self
  unfold load16
  rw [hhi, hlo]
  exact congrArg some hjoin

variable {i : Nat}

theorem load8_store16_ne {l : List U8} {off : Nat} (v : U16) (h : i ≠ off) (h' : i ≠ off + 1) :
    load8 (store16 l off v) i = load8 l i := by
  unfold load8 store16
  rw [List.getElem?_set_ne (Ne.symm h'), List.getElem?_set_ne (Ne.symm h)]

theorem load8_mssWalk (fuel : Nat) (l : List U8) (off stop : Nat) (hi : i < off) :
    load8 (mssWalk fuel l off stop) i = load8 l i := by
  induction fuel generalizing off with
  | zero => rfl
  | succ fuel ih =>
    unfold mssWalk
    split
    · rfl
    split
    · rfl
    simp only []
    split
    · rfl
    split
    · exact ih (off + 1) (by omega)
    split
    · rfl
    split
    · split
      · rfl
      · exact load8_store16_ne _ (by omega) (by omega)
    · exact ih _ (by omega)

/-- The clamp leaves the first twenty bytes of the TCP header alone. -/
theorem load8_mssClamp (l : List U8) (l4off : Nat) (hi : i < 20) :
    load8 (mssClamp l l4off) i = load8 l i := by
  unfold mssClamp
  split
  · rfl
  split
  · simp only []
    split
    · rfl
    · exact load8_mssWalk 40 l _ _ (by omega)
  · rfl

theorem l4Ports_load16 {sport dport : U16} (h : l4Ports f = some (sport, dport)) :
    load16 f.l4 0 = some sport ∧ load16 f.l4 2 = some dport := by
  unfold l4Ports at h
  cases hs : load16 f.l4 0 with
  | none => rw [hs] at h; nomatch h
  | some s =>
    cases hd : load16 f.l4 2 with
    | none => rw [hs, hd] at h; nomatch h
    | some d =>
      rw [hs, hd] at h
      cases h
      exact ⟨rfl, rfl⟩

theorem l4Ports_congr {g : Frame} (h : ∀ i < 4, load8 f.l4 i = load8 g.l4 i) :
    l4Ports f = l4Ports g := by
  unfold l4Ports load16
  rw [h 0 (by omega), h 1 (by omega), h 2 (by omega), h 3 (by omega)]

theorem load8_tcpMssClampPacket (f : Frame) (hi : i < 20) :
    load8 (tcpMssClampPacket f).l4 i = load8 f.l4 i := by
  cases f with
  | ip4 h b | ip6 h b =>
    simp only [tcpMssClampPacket]
    split
    · rfl
    · exact load8_mssClamp b _ hi
  | arp | other | runt => rfl

@[simp] theorem l4Ports_tcpMssClampPacket (f : Frame) :
    l4Ports (tcpMssClampPacket f) = l4Ports f :=
  l4Ports_congr fun _ hi => load8_tcpMssClampPacket f (by omega)

@[simp] theorem tcpFlags_tcpMssClampPacket (f : Frame) :
    tcpFlags (tcpMssClampPacket f) = tcpFlags f :=
  load8_tcpMssClampPacket f (by omega)

@[simp] theorem unsupportedIpHeader_tcpMssClampPacket (f : Frame) :
    unsupportedIpHeader (tcpMssClampPacket f) = unsupportedIpHeader f := by
  cases f with
  | ip4 h b | ip6 h b => simp only [tcpMssClampPacket]; split <;> rfl
  | arp | other | runt => rfl

@[simp] theorem l4_setDst (a : Addr) (f : Frame) : (f.setDst a).l4 = f.l4 := by
  cases f <;> rfl

@[simp] theorem parseIp_setL4 (b : List U8) (f : Frame) : parseIp (f.setL4 b) = parseIp f := by
  cases f <;> rfl

@[simp] theorem unsupportedIpHeader_setL4 (b : List U8) (f : Frame) :
    unsupportedIpHeader (f.setL4 b) = unsupportedIpHeader f := by
  cases f <;> rfl

@[simp] theorem unsupportedIpHeader_setDst (a : Addr) (f : Frame) :
    unsupportedIpHeader (f.setDst a) = unsupportedIpHeader f := by
  cases f <;> rfl

/-- Only the destination changes, and it changes to what the header can carry. -/
theorem parseIp_setDst {p : Pkt} (a : Addr) (h : parseIp f = some p) :
    parseIp (f.setDst a) = some { p with dst := wireAddr p.isV6 a } := by
  cases f with
  | ip4 h4 b | ip6 h6 b => cases h; rfl
  | arp | other | runt => nomatch h

theorem l4Ports_setDport {sport dport : U16} (t : U16) (h : l4Ports f = some (sport, dport)) :
    l4Ports (f.setDport t) = some (sport, t) := by
  obtain ⟨hs, hd⟩ := l4Ports_load16 h
  have hlen := load16_eq_some hd
  have hset : (f.setDport t).l4 = store16 f.l4 2 t := by
    cases f with
    | ip4 h4 b | ip6 h6 b => rfl
    | arp | other | runt => exact absurd hlen (by decide)
  have hs' : load16 (store16 f.l4 2 t) 0 = some sport := by
    unfold load16
    rw [load8_store16_ne t (by decide) (by decide), load8_store16_ne t (by decide) (by decide)]
    exact hs
  unfold l4Ports
  rw [hset, hs', load16_store16 t hlen]
  rfl

end CozyPacket
