import Cozyplane.CidrProofs
import Cozyplane.MapsProofs

/-!
# Compiling VPC boundaries — the whole snapshot or nothing

`compileBoundaries` reads every VPC and Port of a snapshot and returns the boundaries of the
managed VPCs, the VNIs in use and the primary ports. It returns an error on the first thing
that is not valid, in whichever VPC it finds it.
-/

namespace CozyBoundaryCompile

open Accumulate CozyPacket CozyCidr

/-- A namespace and a name. -/
structure VPCRef where
  ns : String
  name : String
  deriving DecidableEq

/-- The direction of a peer rule. -/
inductive Direction where
  | ingress
  | egress
  | other (name : String)
  deriving DecidableEq

/-- The protocol of a peer rule. -/
inductive BoundaryProtocol where
  | tcp
  | udp
  | icmp
  | other (name : String)
  deriving DecidableEq

/-- A peer rule of the spec. -/
structure VPCBoundaryRule where
  peerRef : VPCRef
  direction : Direction
  protocol : BoundaryProtocol
  ports : List Int
  icmpType : Option Int
  icmpCode : Option Int
  deriving DecidableEq

/-- `VPCBoundary`. The revision is a signed 64-bit number. -/
structure VPCBoundary where
  revision : U64
  internet : Bool
  peers : List VPCBoundaryRule
  deriving DecidableEq

/-- The fields of a VPC the compiler reads. -/
structure VPC where
  ref : VPCRef
  uid : String
  cidrs : List String
  boundary : Option VPCBoundary
  vni : Int
  deriving DecidableEq

/-- The fields of a Port the compiler reads. -/
structure VPCPort where
  vpcRef : VPCRef
  ip : String
  primary : Bool
  deleting : Bool
  deriving DecidableEq

/-- `net.ParseCIDR`, `net.ParseIP` (16-byte form), `netip.ParsePrefix`, and the first 64 bits of
    the SHA-256 of UID, CIDRs and policy. -/
structure Platform where
  parseCIDR : String → Option IPNet
  parseIP : String → Option Addr
  parsePrefix : String → Option NetPrefix
  policyHash : String → List String → VPCBoundary → U64

/-- `netid.ValidVNI`. -/
def validVNI (v : Int) : Bool := decide (100 ≤ v) && decide (v ≤ 4194303)

theorem validVNI_iff {v : Int} : validVNI v = true ↔ 100 ≤ v ∧ v ≤ 4194303 := by
  unfold validVNI
  rw [Bool.and_eq_true, decide_eq_true_eq, decide_eq_true_eq]

/-- `netid.VNI`. -/
def vniOf (v : Int) : U32 := if v < 100 ∨ 4194303 < v then 0#32 else BitVec.ofInt 32 v

/-- `datapath.BoundaryRule`. -/
structure RuleSpec where
  peer : U32
  ingress : Bool
  protocol : U8
  port : U16
  deriving DecidableEq

/-- `datapath.Boundary`. -/
structure Boundary where
  net : U32
  identity : U64
  revision : U64
  internet : Bool
  cidrs : List IPNet
  rules : List RuleSpec
  deriving DecidableEq

/-- `datapath.PrimaryPort`. -/
structure PrimaryPort where
  net : U32
  ip : Addr
  deriving DecidableEq

/-- `byRef`: realized VPCs by name, the last listed one. -/
def byRef (vpcs : List VPC) (r : VPCRef) : Option VPC :=
  (vpcs.filter fun v => validVNI v.vni).reverse.find? fun v => v.ref == r

/-- A VPC's CIDRs as `CIDRsOverlap` reads them. -/
def overlapCidrs (P : Platform) (v : VPC) : List NetPrefix := v.cidrs.filterMap P.parsePrefix

/-- The rules of a peer rule whose fields are valid: one for each port, or one for each
    family's ICMP. -/
def emitRules (peer : VPC) (r : VPCBoundaryRule) : List RuleSpec :=
  let base := fun protocol port =>
    (⟨vniOf peer.vni, r.direction == .ingress, protocol, port⟩ : RuleSpec)
  match r.protocol with
  | .tcp => r.ports.map fun p => base 6#8 (BitVec.ofInt 16 p)
  | .udp => r.ports.map fun p => base 17#8 (BitVec.ofInt 16 p)
  | .icmp =>
    let port := BitVec.ofInt 16 (r.icmpType.getD 0) <<< 8 ||| BitVec.ofInt 16 (r.icmpCode.getD 0)
    [base 1#8 port, base 58#8 port]
  | .other _ => []

def checkProtocol (r : VPCBoundaryRule) : Except String Unit :=
  let ports :=
    if r.ports.length = 0 ∨ 32 < r.ports.length ∨ r.icmpType.isSome ∨ r.icmpCode.isSome then
      .error "invalid boundary ports"
    else if r.ports.any fun p => p < 1 ∨ 65535 < p then .error "invalid boundary port"
    else .ok ()
  match r.protocol with
  | .tcp => ports
  | .udp => ports
  | .icmp =>
    match r.ports, r.icmpType, r.icmpCode with
    | [], some t, some c =>
      if t < 0 ∨ 255 < t ∨ c < 0 ∨ 255 < c then .error "invalid boundary ICMP" else .ok ()
    | _, _, _ => .error "invalid boundary ICMP"
  | .other _ => .error "unsupported boundary protocol"

def compilePeer (P : Platform) (vpcs : List VPC) (v : VPC) (r : VPCBoundaryRule) (b : Boundary) :
    Except String Boundary :=
  match byRef vpcs r.peerRef with
  | none => .error "boundary peer not realized"
  | some peer =>
    if !validVNI peer.vni then .error "boundary peer not realized"
    else if peer = v ∨ cidrsOverlap (overlapCidrs P v) (overlapCidrs P peer) = true then
      .error "invalid boundary peer address space"
    else if r.direction ≠ .ingress ∧ r.direction ≠ .egress then
      .error "invalid boundary direction"
    else
      match checkProtocol r with
      | .error e => .error e
      | .ok _ => .ok { b with rules := b.rules ++ emitRules peer r }

def compileCidr (P : Platform) (text : String) (b : Boundary) : Except String Boundary :=
  match P.parseCIDR text with
  | none => .error "invalid VPC CIDR"
  | some c => .ok { b with cidrs := b.cidrs ++ [c] }

/-- The identity of a policy; zero is reserved. -/
def policyIdentity (P : Platform) (v : VPC) (bd : VPCBoundary) : U64 :=
  let id := P.policyHash v.uid v.cidrs bd
  if id = 0#64 then 1#64 else id

def compileBoundary (P : Platform) (vpcs : List VPC) (v : VPC) (bd : VPCBoundary) :
    Except String Boundary :=
  if bd.revision.toInt < 1 then .error "invalid boundary revision"
  else
    andThen (forEach v.cidrs (compileCidr P)) (forEach bd.peers (compilePeer P vpcs v))
      ⟨vniOf v.vni, policyIdentity P v bd, bd.revision, bd.internet, [], []⟩

/-- A VPC of the snapshot; a managed one gets its boundary. -/
def compileVPC (P : Platform) (vpcs : List VPC) (v : VPC) (out : List Boundary) :
    Except String (List Boundary) :=
  if !validVNI v.vni then .ok out
  else
    match v.boundary with
    | none => .ok out
    | some bd =>
      match compileBoundary P vpcs v bd with
      | .error e => .error e
      | .ok b => .ok (out ++ [b])

def compilePrimary (P : Platform) (vpcs : List VPC) (p : VPCPort) (prim : List PrimaryPort) :
    Except String (List PrimaryPort) :=
  match byRef vpcs p.vpcRef with
  | none => .ok prim
  | some v =>
    if !p.primary || p.deleting then .ok prim
    else if !validVNI v.vni then .error "primary VPC not realized"
    else
      match P.parseIP p.ip with
      | none => .error "invalid primary Port address"
      | some ip => .ok (prim ++ [⟨vniOf v.vni, ip⟩])

/-- What `compileBoundaries` returns. -/
structure Compiled where
  desired : List Boundary
  known : List U32
  primary : List PrimaryPort
  deriving DecidableEq

/-- The boundaries of a snapshot, or an error. -/
def compileBoundaries (P : Platform) (vpcs : List VPC) (ports : List VPCPort) :
    Except String Compiled :=
  if vpcs.any fun v => v.vni ≠ 0 && !validVNI v.vni then .error "invalid VPC VNI"
  else
    match forEach vpcs (compileVPC P vpcs) [] with
    | .error e => .error e
    | .ok desired =>
      match forEach ports (compilePrimary P vpcs) [] with
      | .error e => .error e
      | .ok primary =>
        .ok ⟨desired, (vpcs.filter fun v => validVNI v.vni).map fun v => vniOf v.vni, primary⟩

/-- The protocol fields of a peer rule. -/
def ProtocolValid (r : VPCBoundaryRule) : Prop :=
  match r.protocol with
  | .tcp | .udp =>
    (1 ≤ r.ports.length ∧ r.ports.length ≤ 32 ∧ r.icmpType = none ∧ r.icmpCode = none) ∧
      ∀ p ∈ r.ports, 1 ≤ p ∧ p ≤ 65535
  | .icmp =>
    r.ports = [] ∧ ∃ t c, r.icmpType = some t ∧ r.icmpCode = some c ∧
      0 ≤ t ∧ t ≤ 255 ∧ 0 ≤ c ∧ c ≤ 255
  | .other _ => False

/-- A peer rule: a realized VPC other than this one, with its own addresses, and proper fields. -/
def PeerValid (P : Platform) (vpcs : List VPC) (v : VPC) (r : VPCBoundaryRule) : Prop :=
  ∃ peer, byRef vpcs r.peerRef = some peer ∧ peer ≠ v ∧
    cidrsOverlap (overlapCidrs P v) (overlapCidrs P peer) = false ∧
    (r.direction = .ingress ∨ r.direction = .egress) ∧ ProtocolValid r

def BoundaryValid (P : Platform) (vpcs : List VPC) (v : VPC) (bd : VPCBoundary) : Prop :=
  1 ≤ bd.revision.toInt ∧ (∀ text ∈ v.cidrs, ∃ c, P.parseCIDR text = some c) ∧
    ∀ r ∈ bd.peers, PeerValid P vpcs v r

/-- The managed VPCs of a snapshot: realized, with a boundary. -/
def managed (vpcs : List VPC) : List (VPC × VPCBoundary) :=
  vpcs.filterMap fun v => if validVNI v.vni then v.boundary.map fun bd => (v, bd) else none

variable {P : Platform} {vpcs : List VPC} {v : VPC}

theorem mem_managed {bd : VPCBoundary} :
    (v, bd) ∈ managed vpcs ↔ v ∈ vpcs ∧ validVNI v.vni = true ∧ v.boundary = some bd := by
  unfold managed
  rw [List.mem_filterMap]
  constructor
  · rintro ⟨w, hw, h⟩
    split at h
    · rename_i hvni
      obtain ⟨bd', hbd, heq⟩ := Option.map_eq_some_iff.mp h
      cases heq
      exact ⟨hw, hvni, hbd⟩
    · nomatch h
  · rintro ⟨hv, hvni, hbd⟩
    exact ⟨v, hv, by rw [if_pos hvni, hbd]; rfl⟩

/-- A Port that the primary list must hold. -/
def IsPrimary (vpcs : List VPC) (p : VPCPort) : Prop :=
  (byRef vpcs p.vpcRef).isSome = true ∧ p.primary = true ∧ p.deleting = false

/-- The snapshot passes every check. -/
structure SnapshotValid (P : Platform) (vpcs : List VPC) (ports : List VPCPort) : Prop where
  vnis : ∀ v ∈ vpcs, v.vni = 0 ∨ validVNI v.vni = true
  boundaries : ∀ v bd, (v, bd) ∈ managed vpcs → BoundaryValid P vpcs v bd
  primaries : ∀ p ∈ ports, IsPrimary vpcs p → ∃ ip, P.parseIP p.ip = some ip

-- ── what is returned

def peerRules (vpcs : List VPC) (r : VPCBoundaryRule) : List RuleSpec :=
  match byRef vpcs r.peerRef with
  | none => []
  | some peer => emitRules peer r

def boundaryOf (P : Platform) (vpcs : List VPC) (v : VPC) (bd : VPCBoundary) : Boundary :=
  ⟨vniOf v.vni, policyIdentity P v bd, bd.revision, bd.internet, v.cidrs.filterMap P.parseCIDR,
    bd.peers.flatMap (peerRules vpcs)⟩

theorem byRef_valid {r : VPCRef} (h : byRef vpcs r = some v) :
    v ∈ vpcs ∧ validVNI v.vni = true ∧ v.ref = r := by
  have hmem := List.mem_of_find?_eq_some h
  have href := List.find?_some h
  rw [List.mem_reverse, List.mem_filter] at hmem
  exact ⟨hmem.1, hmem.2, by simpa using href⟩

variable {r : VPCBoundaryRule}

theorem checkProtocol_ok :
    (∃ u, checkProtocol r = .ok u) ↔ ProtocolValid r := by
  have hports : (∃ u, (if r.ports.length = 0 ∨ 32 < r.ports.length ∨ r.icmpType.isSome ∨
        r.icmpCode.isSome then (.error "invalid boundary ports" : Except String Unit)
      else if r.ports.any fun p => p < 1 ∨ 65535 < p then .error "invalid boundary port"
      else .ok ()) = .ok u) ↔
      (1 ≤ r.ports.length ∧ r.ports.length ≤ 32 ∧ r.icmpType = none ∧ r.icmpCode = none) ∧
        ∀ p ∈ r.ports, 1 ≤ p ∧ p ≤ 65535 := by
    split_ifs with hn hp
    · refine iff_of_false nofun ?_
      rintro ⟨⟨h₁, h₂, h₃, h₄⟩, -⟩
      simp only [h₃, h₄, Option.isSome_none, Bool.false_eq_true, or_false] at hn
      omega
    · refine iff_of_false nofun ?_
      rintro ⟨-, hall⟩
      obtain ⟨p, hmem, hbad⟩ := List.any_eq_true.mp hp
      have hin := hall p hmem
      simp only [decide_eq_true_eq] at hbad
      omega
    · simp only [not_or, Bool.not_eq_true, Option.isSome_eq_false_iff, Option.isNone_iff_eq_none] at hn
      refine iff_of_true ⟨(), rfl⟩ ⟨⟨by omega, by omega, hn.2.2⟩, fun p hmem => ?_⟩
      by_contra hbad
      refine hp (List.any_eq_true.mpr ⟨p, hmem, ?_⟩)
      simp only [decide_eq_true_eq]
      omega
  unfold checkProtocol ProtocolValid
  cases hproto : r.protocol with
  | tcp | udp => exact hports
  | other name => exact iff_of_false nofun id
  | icmp =>
    cases hl : r.ports with
    | cons p ps => simp
    | nil =>
      cases ht : r.icmpType with
      | none => simp
      | some t =>
        cases hc : r.icmpCode with
        | none => simp
        | some c =>
          dsimp only
          split_ifs with hr
          · refine iff_of_false nofun ?_
            rintro ⟨-, t', c', ht', hc', hin⟩
            cases ht'
            cases hc'
            omega
          · exact iff_of_true ⟨(), rfl⟩ ⟨rfl, t, c, rfl, rfl, by omega⟩

def emitPeer (P : Platform) (vpcs : List VPC) (v : VPC) (r : VPCBoundaryRule) :
    Except String (List RuleSpec) :=
  match compilePeer P vpcs v r ⟨0#32, 0#64, 0#64, false, [], []⟩ with
  | .ok b => .ok b.rules
  | .error e => .error e

theorem compilePeer_collecting (P : Platform) (vpcs : List VPC) (v : VPC) :
    Collecting (fun (b : Boundary) rs => { b with rules := b.rules ++ rs })
      (compilePeer P vpcs v) (emitPeer P vpcs v) where
  nil s := by simp
  app s a b := by simp
  step r s := by
    unfold emitPeer compilePeer
    cases byRef vpcs r.peerRef with
    | none => rfl
    | some peer =>
      cases checkProtocol r with
      | error e | ok u =>
        dsimp only
        split_ifs <;> rfl

theorem emitPeer_ok :
    (∃ rs, emitPeer P vpcs v r = .ok rs) ↔ PeerValid P vpcs v r := by
  unfold emitPeer compilePeer PeerValid
  cases hp : byRef vpcs r.peerRef with
  | none => simp
  | some peer =>
    have hvalid : (!validVNI peer.vni) = false := by rw [(byRef_valid hp).2.1]; rfl
    simp only [hvalid, Bool.false_eq_true, if_false, Option.some.injEq, exists_eq_left']
    rw [← checkProtocol_ok]
    split_ifs with h₂ h₃
    · refine iff_of_false nofun ?_
      rintro ⟨hne, hov, -⟩
      nomatch hov.symm.trans (h₂.resolve_left hne)
    · exact iff_of_false nofun fun h => h.2.2.1.elim h₃.1 h₃.2
    · obtain ⟨hne, hov⟩ := not_or.mp h₂
      have hdir : r.direction = .ingress ∨ r.direction = .egress := by
        by_contra hno
        exact h₃ (not_or.mp hno)
      simp only [hne, hdir, not_false_iff, true_and, eq_false_of_ne_true hov, ne_eq]
      cases checkProtocol r with
      | error e | ok u => simp

theorem emitted_emitPeer (h : PeerValid P vpcs v r) :
    emitted (emitPeer P vpcs v r) = peerRules vpcs r := by
  obtain ⟨peer, hp, hne, hov, hdir, hproto⟩ := h
  obtain ⟨u, hu⟩ := checkProtocol_ok.mpr hproto
  have hvalid : (!validVNI peer.vni) = false := by rw [(byRef_valid hp).2.1]; rfl
  have h₂ : ¬ (peer = v ∨ cidrsOverlap (overlapCidrs P v) (overlapCidrs P peer) = true) := by
    rw [hov]
    simpa using hne
  have h₃ : ¬ (r.direction ≠ .ingress ∧ r.direction ≠ .egress) := by
    rcases hdir with hd | hd <;> simp [hd]
  unfold emitPeer compilePeer peerRules
  simp only [hp, hvalid, Bool.false_eq_true, if_false, if_neg h₂, if_neg h₃, hu, List.nil_append]
  rfl

theorem compileCidr_collecting (P : Platform) :
    Collecting (fun (b : Boundary) cs => { b with cidrs := b.cidrs ++ cs }) (compileCidr P)
      (fun text => match P.parseCIDR text with
        | some c => .ok [c]
        | none => .error "invalid VPC CIDR") where
  nil s := by simp
  app s a b := by simp
  step text s := by
    unfold compileCidr
    cases P.parseCIDR text with
    | none | some c => rfl

/-- **ONE BOUNDARY**: compiled exactly if valid. -/
theorem compileBoundary_ok_iff (P : Platform) (vpcs : List VPC) (v : VPC) (bd : VPCBoundary)
    (b : Boundary) :
    compileBoundary P vpcs v bd = .ok b ↔
      BoundaryValid P vpcs v bd ∧ b = boundaryOf P vpcs v bd := by
  have hcidrs : (∀ text ∈ v.cidrs, ∃ ys : List IPNet, (match P.parseCIDR text with
      | some c => .ok [c]
      | none => .error "invalid VPC CIDR" : Except String (List IPNet)) = .ok ys) ↔
      ∀ text ∈ v.cidrs, ∃ c, P.parseCIDR text = some c := by
    refine forall₂_congr fun text _ => ?_
    cases P.parseCIDR text with
    | none | some c => simp
  have hflat : v.cidrs.flatMap (fun text => emitted (match P.parseCIDR text with
      | some c => .ok [c]
      | none => .error "invalid VPC CIDR" : Except String (List IPNet))) =
      v.cidrs.filterMap P.parseCIDR := by
    rw [List.filterMap_eq_flatMap_toList]
    congr 1
    funext text
    cases P.parseCIDR text with
    | none | some c => rfl
  unfold compileBoundary BoundaryValid
  split
  · refine iff_of_false nofun ?_
    rintro ⟨⟨h, -⟩, -⟩
    omega
  have hpeers : ∀ rs : List VPCBoundaryRule, (∀ r ∈ rs, PeerValid P vpcs v r) →
      rs.flatMap (fun r => emitted (emitPeer P vpcs v r)) = rs.flatMap (peerRules vpcs) := by
    intro rs hrs
    exact List.flatMap_congr fun r hr => emitted_emitPeer (hrs r hr)
  constructor
  · intro h
    obtain ⟨t, ht, hb⟩ := andThen_ok h
    obtain ⟨hc, rfl⟩ := ((compileCidr_collecting P).forEach_ok_iff _ _ _).mp ht
    obtain ⟨hp, rfl⟩ := ((compilePeer_collecting P vpcs v).forEach_ok_iff _ _ _).mp hb
    have hvalid : ∀ r ∈ bd.peers, PeerValid P vpcs v r := fun r hr => emitPeer_ok.mp (hp r hr)
    refine ⟨⟨by omega, hcidrs.mp hc, hvalid⟩, ?_⟩
    rw [hflat, hpeers _ hvalid]
    rfl
  · rintro ⟨⟨-, hc, hvalid⟩, rfl⟩
    unfold andThen
    rw [((compileCidr_collecting P).forEach_ok_iff _ _ _).mpr ⟨hcidrs.mpr hc, rfl⟩]
    refine ((compilePeer_collecting P vpcs v).forEach_ok_iff _ _ _).mpr
      ⟨fun r hr => emitPeer_ok.mpr (hvalid r hr), ?_⟩
    rw [hflat, hpeers _ hvalid]
    rfl

def emitVPC (P : Platform) (vpcs : List VPC) (v : VPC) : Except String (List Boundary) :=
  compileVPC P vpcs v []

theorem compileVPC_collecting (P : Platform) (vpcs : List VPC) :
    Collecting (fun (out : List Boundary) bs => out ++ bs) (compileVPC P vpcs)
      (emitVPC P vpcs) where
  nil s := List.append_nil s
  app s a b := List.append_assoc s a b
  step v s := by
    unfold emitVPC compileVPC
    split_ifs
    · simp
    cases v.boundary with
    | none => simp
    | some bd =>
      dsimp only
      cases compileBoundary P vpcs v bd with
      | error e | ok b => rfl

theorem emitVPC_ok :
    (∃ bs, emitVPC P vpcs v = .ok bs) ↔
      (validVNI v.vni = true → ∀ bd, v.boundary = some bd → BoundaryValid P vpcs v bd) := by
  unfold emitVPC compileVPC
  cases hvni : validVNI v.vni with
  | false => simp
  | true =>
    cases hb : v.boundary with
    | none => simp
    | some bd =>
      have hiff := compileBoundary_ok_iff P vpcs v bd
      simp only [Bool.not_true, Bool.false_eq_true, if_false, forall_const,
        Option.some.injEq, forall_eq']
      cases hc : compileBoundary P vpcs v bd with
      | error e =>
        exact iff_of_false nofun fun hvalid => nomatch hc.symm.trans ((hiff _).mpr ⟨hvalid, rfl⟩)
      | ok b => exact iff_of_true ⟨_, rfl⟩ ((hiff b).mp hc).1

/-- The boundaries of a snapshot. -/
def boundariesOf (P : Platform) (vpcs : List VPC) : List Boundary :=
  (managed vpcs).map fun e => boundaryOf P vpcs e.1 e.2

theorem emitted_emitVPC (h : ∃ bs, emitVPC P vpcs v = .ok bs) :
    emitted (emitVPC P vpcs v) =
      ((if validVNI v.vni then v.boundary.map fun bd => (v, bd) else none).map
        fun e => boundaryOf P vpcs e.1 e.2).toList := by
  have hvalid := emitVPC_ok.mp h
  unfold emitVPC compileVPC
  cases hvni : validVNI v.vni with
  | false => rfl
  | true =>
    cases hb : v.boundary with
    | none => rfl
    | some bd =>
      have hc := (compileBoundary_ok_iff P vpcs v bd _).mpr ⟨hvalid hvni bd hb, rfl⟩
      simp only [Bool.not_true, Bool.false_eq_true, if_false, hc]
      rfl

def emitPrimary (P : Platform) (vpcs : List VPC) (p : VPCPort) : Except String (List PrimaryPort) :=
  compilePrimary P vpcs p []

theorem compilePrimary_collecting (P : Platform) (vpcs : List VPC) :
    Collecting (fun (out : List PrimaryPort) ps => out ++ ps) (compilePrimary P vpcs)
      (emitPrimary P vpcs) where
  nil s := List.append_nil s
  app s a b := List.append_assoc s a b
  step p s := by
    unfold emitPrimary compilePrimary
    cases byRef vpcs p.vpcRef with
    | none => simp
    | some v =>
      dsimp only
      split_ifs
      · simp
      · rfl
      · cases P.parseIP p.ip with
        | none | some ip => rfl

theorem emitPrimary_ok {p : VPCPort} :
    (∃ ps, emitPrimary P vpcs p = .ok ps) ↔
      (IsPrimary vpcs p → ∃ ip, P.parseIP p.ip = some ip) := by
  unfold emitPrimary compilePrimary IsPrimary
  cases hv : byRef vpcs p.vpcRef with
  | none => simp
  | some v =>
    have hvalid : (!validVNI v.vni) = false := by rw [(byRef_valid hv).2.1]; rfl
    simp only [hvalid, Bool.false_eq_true, if_false, Option.isSome_some, true_and]
    cases hp : p.primary with
    | false => simp
    | true =>
      cases hd : p.deleting with
      | true => simp
      | false =>
        cases P.parseIP p.ip with
        | none | some ip => simp

def primariesOf (P : Platform) (vpcs : List VPC) (ports : List VPCPort) : List PrimaryPort :=
  ports.flatMap fun p => emitted (emitPrimary P vpcs p)

def knownOf (vpcs : List VPC) : List U32 :=
  (vpcs.filter fun v => validVNI v.vni).map fun v => vniOf v.vni

/-- **THE WHOLE SNAPSHOT OR NOTHING**: compilation succeeds exactly on a valid snapshot. -/
theorem compileBoundaries_ok_iff (P : Platform) (vpcs : List VPC) (ports : List VPCPort)
    (c : Compiled) :
    compileBoundaries P vpcs ports = .ok c ↔ SnapshotValid P vpcs ports ∧
      c = ⟨boundariesOf P vpcs, knownOf vpcs, primariesOf P vpcs ports⟩ := by
  have hvnis : (vpcs.any fun v => v.vni ≠ 0 && !validVNI v.vni) = false ↔
      ∀ v ∈ vpcs, v.vni = 0 ∨ validVNI v.vni = true := by
    simp only [List.any_eq_false, Bool.and_eq_true, decide_eq_true_eq, Bool.not_eq_true', not_and,
      Bool.not_eq_false]
    refine forall₂_congr fun v _ => ?_
    tauto
  have hflat : (∀ v ∈ vpcs, ∃ bs, emitVPC P vpcs v = .ok bs) →
      vpcs.flatMap (fun v => emitted (emitVPC P vpcs v)) = boundariesOf P vpcs := by
    intro hok
    unfold boundariesOf managed
    rw [List.map_filterMap, List.filterMap_eq_flatMap_toList]
    exact List.flatMap_congr fun v hv => emitted_emitVPC (hok v hv)
  have hbound : (∀ v ∈ vpcs, ∃ bs, emitVPC P vpcs v = .ok bs) ↔
      ∀ v bd, (v, bd) ∈ managed vpcs → BoundaryValid P vpcs v bd := by
    constructor
    · intro hok v bd hm
      obtain ⟨hv, hvni, hbd⟩ := mem_managed.mp hm
      exact emitVPC_ok.mp (hok v hv) hvni bd hbd
    · intro hok v hv
      exact emitVPC_ok.mpr fun hvni bd hbd => hok v bd (mem_managed.mpr ⟨hv, hvni, hbd⟩)
  have hloop := (compileVPC_collecting P vpcs).forEach_ok_iff vpcs []
  have hprim := (compilePrimary_collecting P vpcs).forEach_ok_iff ports []
  constructor
  · intro h
    unfold compileBoundaries at h
    split at h
    · nomatch h
    rename_i hany
    split at h
    · nomatch h
    rename_i desired hd
    split at h
    · nomatch h
    rename_i primary hp
    cases h
    obtain ⟨hok, rfl⟩ := (hloop desired).mp hd
    obtain ⟨hpok, rfl⟩ := (hprim primary).mp hp
    refine ⟨⟨hvnis.mp (eq_false_of_ne_true hany), hbound.mp hok,
      fun p hmem => emitPrimary_ok.mp (hpok p hmem)⟩, ?_⟩
    rw [List.nil_append, hflat hok, List.nil_append]
    rfl
  · rintro ⟨hvalid, rfl⟩
    have hok := hbound.mpr hvalid.boundaries
    unfold compileBoundaries
    rw [hvnis.mpr hvalid.vnis, if_neg Bool.false_ne_true, (hloop _).mpr ⟨hok, rfl⟩]
    rw [(hprim _).mpr ⟨fun p hmem => emitPrimary_ok.mpr (hvalid.primaries p hmem), rfl⟩]
    simp only [List.nil_append, hflat hok]
    rfl

end CozyBoundaryCompile
