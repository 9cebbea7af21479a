import Cozyplane.NpSyncProofs

/-!
# NetworkPolicy ingress — what the gate admits, and the union it should be

The API's meaning of ingress (`SelectorAdmits`, `BlockAdmits`): a policy that selects the pod
has a rule whose ports admit the connection and one of whose peers matches the source. An
ipBlock matches on its own: inside its CIDR and outside its own exceptions.

For ipBlocks the installed tables do not keep it: all ranges and exceptions of one pod identity
and port share a longest-prefix table.
-/

namespace CozyNp

open PrefixTable RangePolicy CozyPacket CozyMaps CozyDatapath CozyPolicy CozyCidr
open CozyNpCompile CozyNpSync

/-- The protocol of a port entry, TCP by default. -/
def ProtocolIs (p : Option Protocol) (proto : U8) : Prop :=
  match p with
  | none => proto = ipprotoTcp
  | some .tcp => proto = ipprotoTcp
  | some .udp => proto = ipprotoUdp
  | some (.other _) => False

/-- A port entry admits a port: any port, one port, or a range of ports. Named ports and other
    protocols are not served. -/
def PortAdmits (p : PolicyPort) (proto : U8) (q : U16) : Prop :=
  ProtocolIs p.protocol proto ∧
    match p.port, p.endPort with
    | none, e => e = none
    | some (.str _), _ => False
    | some (.int v), none => 1 ≤ v ∧ v = q.toNat
    | some (.int v), some e => 1 ≤ v ∧ v ≤ q.toNat ∧ q.toNat ≤ e ∧ e ≤ 65535

/-- The ports of a rule; none listed is every port. -/
def RuleAdmitsPort (rule : Rule) (proto : U8) (q : U16) : Prop :=
  if rule.ports = [] then proto = ipprotoTcp ∨ proto = ipprotoUdp
  else ∃ p ∈ rule.ports, PortAdmits p proto q

def SelectorHolds (P : Platform) (sel : LabelSelector) (l : Labels) : Prop :=
  ∃ holds, P.selector sel = some holds ∧ holds l = true

/-- A peer without ipBlock matches a pod. `isLocal` is "on this node", for the one entity peer
    that pods can match. -/
def PeerSelectsPod (P : Platform) (nss : List Namespace) (policyNs : String) (isLocal : Bool)
    (peer : Peer) (pod : Pod) : Prop :=
  match npEntityPeer peer with
  | some name => name = "local-pods" ∧ isLocal = true
  | none =>
    match peer.namespaceSelector, peer.podSelector with
    | none, none => False
    | none, some sel => pod.ns = policyNs ∧ SelectorHolds P sel pod.info.lbls
    | some nsSel, podSel =>
      (podSel = none ∧ nsSel.matchLabels = [] ∧ nsSel.matchExpressions = []) ∨
        (∃ l, nsLabels nss pod.ns = some l ∧ SelectorHolds P nsSel l) ∧
          ∀ sel, podSel = some sel → SelectorHolds P sel pod.info.lbls

/-- An ipBlock matches an address: of its family, in its CIDR, in none of its exceptions. -/
def BlockMatches (P : Platform) (b : IPBlock) (s : Ip) : Prop :=
  ∃ cidr, P.parseCIDR b.cidr = some cidr ∧ cidr.contains s = true ∧
    ∀ text ∈ b.except, ∀ ex, P.parseCIDR text = some ex → ex.contains s = false

def IngressRule (P : Platform) (pd : Pod) (np : NetworkPolicy) (rule : Rule) : Prop :=
  np.ns = pd.ns ∧ SelectorHolds P np.podSelector pd.info.lbls ∧ hasIngress np = true ∧
    rule ∈ np.ingress

section Meaning

variable (P : Platform) (pods : List Pod) (nss : List Namespace) (nps : List NetworkPolicy)
variable (isLocal : Bool) (pd : Pod) (s : Ip) (proto : U8) (q : U16)

/-- Some rule admits the source without ipBlock: it names no peers, or a peer selects the pod
    at the source address. -/
def SelectorAdmits : Prop :=
  ∃ np ∈ nps, ∃ rule, IngressRule P pd np rule ∧ RuleAdmitsPort rule proto q ∧
    (rule.peers = [] ∨ ∃ peer ∈ rule.peers, peer.ipBlock = none ∧
      ∃ pod ∈ pods, pod.owns P s.key ∧ PeerSelectsPod P nss np.ns isLocal peer pod)

def BlockAdmits : Prop :=
  ∃ np ∈ nps, ∃ rule, IngressRule P pd np rule ∧ RuleAdmitsPort rule proto q ∧
    ∃ peer ∈ rule.peers, ∃ b, peer.ipBlock = some b ∧ BlockMatches P b s

/-- The ipBlocks of the pod's ingress rules, by port. -/
def ingressBlocks : Set (Block (8 + 8 + 16 + 64) 128) :=
  { x | ∃ np ∈ nps, ∃ rule, IngressRule P pd np rule ∧
      x ∈ ruleNpBlocks P npDirIn (pd.id P) rule }

end Meaning

def IngressIsolated (P : Platform) (nps : List NetworkPolicy) (pd : Pod) : Prop :=
  ∃ np ∈ nps, np.ns = pd.ns ∧ SelectorHolds P np.podSelector pd.info.lbls ∧ hasIngress np = true

/-- Port ranges of rules with ipBlocks span at most 64 ports. -/
def RangesServed (nps : List NetworkPolicy) : Prop :=
  ∀ np ∈ nps, ∀ rule ∈ np.ingress, (∃ peer ∈ rule.peers, peer.ipBlock.isSome = true) →
    ∀ p ∈ rule.ports, ∀ v e, p.port = some (.int v) → p.endPort = some e → e - v < 64

variable {proto : U8}

theorem npProto_iff {p : Option Protocol} : npProto p = some proto ↔ ProtocolIs p proto := by
  match p with
  | none | some .tcp | some .udp =>
    exact ⟨fun h => (Option.some.inj h).symm, fun h => congrArg some (Eq.symm h)⟩
  | some (.other _) => exact ⟨nofun, nofun⟩

theorem ofInt_toNat {v : Int} (h₁ : 1 ≤ v) (h₂ : v ≤ 65535) :
    ((BitVec.ofInt 16 v).toNat : Int) = v ∧ BitVec.ofInt 16 v ≠ 0#16 := by
  have hval : ((BitVec.ofInt 16 v).toNat : Int) = v := by
    rw [BitVec.toNat_ofInt]
    omega
  refine ⟨hval, fun h => ?_⟩
  rw [h] at hval
  simp at hval
  omega

theorem npCompilePort_iff (p : PolicyPort) (proto : U8) (q : U16) :
    (∃ c, npCompilePort p = some c ∧ c.proto = proto ∧ Serves c.port c.endPort q) ↔
      PortAdmits p proto q := by
  unfold npCompilePort PortAdmits
  rw [← npProto_iff]
  cases hproto : npProto p.protocol with
  | none => simp
  | some pr =>
    cases hport : p.port with
    | none =>
      cases hend : p.endPort with
      | none => simp [Serves]
      | some e => simp
    | some port =>
      cases port with
      | str t => simp
      | int v =>
        simp only []
        split
        · cases p.endPort with
          | none | some e => simp only [reduceCtorEq, false_and, exists_false, false_iff]; omega
        obtain ⟨hvn, hv0⟩ := ofInt_toNat (v := v) (by omega) (by omega)
        cases p.endPort with
        | none =>
          simp only [Option.some.injEq, exists_eq_left', Serves, hv0, false_or, if_pos]
          refine and_congr_right fun _ => ?_
          omega
        | some e =>
          simp only []
          split
          · simp only [reduceCtorEq, false_and, exists_false, false_iff]
            omega
          obtain ⟨hen, he0⟩ := ofInt_toNat (v := e) (by omega) (by omega)
          simp only [Option.some.injEq, exists_eq_left', Serves, hv0, false_or, he0,
            if_false]
          refine and_congr_right fun _ => ?_
          omega

theorem npCompilePorts_iff (rule : Rule) (proto : U8) (q : U16) :
    (∃ c ∈ npCompilePorts rule.ports, c.proto = proto ∧ Serves c.port c.endPort q) ↔
      RuleAdmitsPort rule proto q := by
  unfold npCompilePorts RuleAdmitsPort
  by_cases hnil : rule.ports = []
  · simp [hnil, Serves, @eq_comm _ proto]
  rw [if_neg (by simpa using hnil), if_neg hnil]
  simp only [← npCompilePort_iff, List.mem_filterMap]
  constructor
  · rintro ⟨c, ⟨p, hp, hpc⟩, hrest⟩
    exact ⟨p, hp, c, hpc, hrest⟩
  · rintro ⟨p, hp, c, hpc, hrest⟩
    exact ⟨c, ⟨p, hp, hpc⟩, hrest⟩

theorem expandPorts_iff {ps : List NpPort}
    (hserved : ∀ c ∈ ps, c.endPort ≠ 0#16 → c.endPort.toNat - c.port.toNat < 64) (proto : U8)
    (q : U16) :
    (∃ p ∈ expandPorts ps, p.proto = proto ∧ (p.port = q ∨ p.port = 0#16)) ↔
      ∃ c ∈ ps, c.proto = proto ∧ Serves c.port c.endPort q := by
  have hone : ∀ c ∈ ps, (∃ p ∈ expandPorts [c], p.proto = proto ∧ (p.port = q ∨ p.port = 0#16)) ↔
      c.proto = proto ∧ Serves c.port c.endPort q := by
    intro c hc
    unfold expandPorts Serves
    rw [List.flatMap_singleton]
    split
    · rename_i hend
      simp only [List.mem_singleton, exists_eq_left]
      have heq : c.port = q ↔ c.port.toNat ≤ q.toNat ∧ q.toNat ≤ c.port.toNat := by
        rw [← BitVec.toNat_inj]
        omega
      rw [or_comm, heq]
    · rename_i hend
      rw [if_neg (Nat.not_le.mpr (hserved c hc hend))]
      simp only [List.mem_map, List.mem_range'_1]
      constructor
      · rintro ⟨p, ⟨n, hn, rfl⟩, hpr, hport⟩
        refine ⟨hpr, ?_⟩
        simp only [← BitVec.toNat_inj, BitVec.toNat_ofNat] at hport ⊢
        omega
      · rintro ⟨hpr, hport⟩
        rcases hport with hzero | ⟨hlo, hhi⟩
        · refine ⟨⟨c.proto, 0#16, 0#16⟩, ⟨0, ?_, rfl⟩, hpr, .inr rfl⟩
          rw [hzero]
          simp
        · refine ⟨⟨c.proto, q, 0#16⟩, ⟨q.toNat, by omega, ?_⟩, hpr, .inl rfl⟩
          rw [BitVec.ofNat_toNat, BitVec.setWidth_eq]
  have hsplit : ∀ p, p ∈ expandPorts ps ↔ ∃ c ∈ ps, p ∈ expandPorts [c] := by
    intro p
    unfold expandPorts
    simp only [List.mem_flatMap, List.flatMap_singleton]
  constructor
  · rintro ⟨p, hp, hrest⟩
    obtain ⟨c, hc, hpc⟩ := (hsplit p).mp hp
    exact ⟨c, hc, (hone c hc).mp ⟨p, hpc, hrest⟩⟩
  · rintro ⟨c, hc, hrest⟩
    obtain ⟨p, hpc, hp⟩ := (hone c hc).mpr hrest
    exact ⟨p, (hsplit p).mpr ⟨c, hc, hpc⟩, hp⟩

variable {reg : Registry} {self : U64} {ns : String} {dir : U8} {rule : Rule}

theorem npCompilePorts_served
    (h : ∀ p ∈ rule.ports, ∀ v e, p.port = some (.int v) → p.endPort = some e → e - v < 64) :
    ∀ c ∈ npCompilePorts rule.ports, c.endPort ≠ 0#16 →
      c.endPort.toNat - c.port.toNat < 64 := by
  intro c hc hne
  unfold npCompilePorts at hc
  split at hc
  · -- the any-port entries are no ranges
    rcases List.mem_cons.mp hc with rfl | hc
    · exact absurd rfl hne
    · rw [List.mem_singleton.mp hc] at hne
      exact absurd rfl hne
  · obtain ⟨p, hp, hpc⟩ := List.mem_filterMap.mp hc
    have hserved := h p hp
    unfold npCompilePort at hpc
    repeat' split at hpc
    all_goals first
      | (cases hpc; exact absurd rfl hne)
      | (simp only [reduceCtorEq] at hpc)
      | skip
    rename_i v hv hrange hnil e hend hle
    cases hpc
    have hdiff := hserved v e hv hend
    obtain ⟨hvn, -⟩ := ofInt_toNat (v := v) (by omega) (by omega)
    obtain ⟨hen, -⟩ := ofInt_toNat (v := e) (by omega) (by omega)
    show (BitVec.ofInt 16 e).toNat - (BitVec.ofInt 16 v).toNat < 64
    omega

theorem npCidrDir_inj {a b : Bool} : npCidrDir npDirIn a = npCidrDir npDirIn b ↔ a = b := by
  revert a b
  decide

variable {id : U64} {port : U16}

variable {s : Ip}

theorem npRange_holds {proto' : U8} {port' : U16} {c : IPNet} :
    (npRange npDirIn proto port id c).holds (npScope npDirIn s.isV4 proto' port' id) s.key = true ↔
      (proto = proto' ∧ port = port') ∧ c.contains s = true := by
  unfold ScopedRange.holds npRange npScope
  rw [Bool.and_eq_true, beq_iff_eq, append_inj, append_inj, append_inj, npCidrDir_inj,
    ← cidrRange_contains c s]
  tauto

variable {P : Platform} {cidr : IPNet} {b : IPBlock}

theorem npBlock_admits {p : NpPort} :
    (npBlock P self npDirIn p cidr b).admits (npScope npDirIn s.isV4 proto port self) s.key = true ↔
      (p.proto = proto ∧ p.port = port) ∧ cidr.contains s = true ∧
        ∀ text ∈ b.except, ∀ ex, P.parseCIDR text = some ex → ex.contains s = false := by
  unfold npBlock
  rw [Block.admits_iff fun c => npRange_holds (c := c)]
  refine and_congr_right fun _ => and_congr_right fun _ => ?_
  simp only [List.mem_filterMap]
  exact ⟨fun h text ht ex hex => h ex ⟨text, ht, hex⟩, fun h ex ⟨text, ht, hex⟩ => h text ht ex hex⟩

theorem npBlock_union {p : NpPort} :
    (npBlock P self npDirIn p cidr b).admits (npScope npDirIn s.isV4 proto port self) s.key = true ∨
        (npBlock P self npDirIn p cidr b).admits (npScope npDirIn s.isV4 proto 0#16 self) s.key =
          true ↔
      (p.proto = proto ∧ (p.port = port ∨ p.port = 0#16)) ∧ cidr.contains s = true ∧
        ∀ text ∈ b.except, ∀ ex, P.parseCIDR text = some ex → ex.contains s = false := by
  rw [npBlock_admits, npBlock_admits, ← or_and_right, ← and_or_left]

theorem mem_ruleBlocks :
    b ∈ ruleBlocks rule ↔ ∃ peer ∈ rule.peers, peer.ipBlock = some b := List.mem_filterMap

/-- **THE UNION OF THE BLOCKS IS WHAT IPBLOCK PEERS ADMIT.** -/
theorem union_blockAdmits {nps : List NetworkPolicy} (hserved : RangesServed nps) (pd : Pod)
    (s : Ip) (proto : U8) (q : U16) :
    Union (ingressBlocks P nps pd) (npScope npDirIn s.isV4 proto q (pd.id P))
        (npScope npDirIn s.isV4 proto 0#16 (pd.id P)) s.key ↔
      BlockAdmits P nps pd s proto q := by
  have hports : ∀ np ∈ nps, ∀ rule ∈ np.ingress, ∀ b ∈ ruleBlocks rule,
      ((∃ p ∈ expandPorts (npCompilePorts rule.ports),
        p.proto = proto ∧ (p.port = q ∨ p.port = 0#16)) ↔ RuleAdmitsPort rule proto q) := by
    intro np hnp rule hr b hb
    obtain ⟨peer, hpeer, hblk⟩ := mem_ruleBlocks.mp hb
    have hlim := hserved np hnp rule hr ⟨peer, hpeer, by rw [hblk]; rfl⟩
    rw [expandPorts_iff (npCompilePorts_served hlim), npCompilePorts_iff]
  constructor
  · rintro ⟨x, ⟨np, hnp, rule, hrule, b, hb, cidr, hcidr, p, hp, rfl⟩, hadm⟩
    obtain ⟨hport, hmatch⟩ := npBlock_union.mp hadm
    obtain ⟨peer, hpeer, hblk⟩ := mem_ruleBlocks.mp hb
    have hadmPort := (hports np hnp rule hrule.2.2.2 b hb).mp ⟨p, hp, hport⟩
    exact ⟨np, hnp, rule, hrule, hadmPort, peer, hpeer, b, hblk, cidr, hcidr, hmatch⟩
  · rintro ⟨np, hnp, rule, hrule, hadmPort, peer, hpeer, b, hblk, cidr, hcidr, hmatch⟩
    have hb : b ∈ ruleBlocks rule := mem_ruleBlocks.mpr ⟨peer, hpeer, hblk⟩
    obtain ⟨p, hp, hport⟩ := (hports np hnp rule hrule.2.2.2 b hb).mpr hadmPort
    exact ⟨_, ⟨np, hnp, rule, hrule, b, hb, cidr, hcidr, p, hp, rfl⟩,
      npBlock_union.mpr ⟨hport, hmatch⟩⟩

-- ── selector peers

def Covers (isLocal : Bool) (info : IdentInfo) : PeerSel → Prop
  | .nothing => False
  | .reserved id => id = npSrcAnyPod ∨ (id = npSrcLocalPods ∧ isLocal = true)
  | .pods matching => matching info = true

theorem npEntityID_covers (name : String) (isLocal : Bool) (info : IdentInfo) :
    Covers isLocal info (match npEntityID name npDirIn with
      | some id => .reserved id
      | none => .nothing) ↔ name = "local-pods" ∧ isLocal = true := by
  unfold npEntityID
  by_cases hn : name = "nodes"
  · subst hn
    simp [Covers, npSrcNodes, npSrcAnyPod, npSrcLocalPods]
  by_cases hl : name = "local-node"
  · subst hl
    simp [Covers, npSrcLocalNode, npSrcAnyPod, npSrcLocalPods]
  by_cases hp : name = "local-pods"
  · subst hp
    simp [Covers, npSrcLocalPods, npSrcAnyPod]
  · simp [Covers, hn, hl, hp]

theorem peerSel_covers (P : Platform) (nss : List Namespace) (policyNs : String) (isLocal : Bool)
    (peer : Peer) (pod : Pod) :
    Covers isLocal pod.info (peerSel P nss policyNs npDirIn peer) ↔
      PeerSelectsPod P nss policyNs isLocal peer pod := by
  unfold peerSel PeerSelectsPod
  cases npEntityPeer peer with
  | some name => exact npEntityID_covers name isLocal pod.info
  | none =>
    cases hns : peer.namespaceSelector with
    | none =>
      cases hsel : peer.podSelector with
      | none => simp [Covers]
      | some sel =>
        cases hP : P.selector sel with
        | none => simp [Covers, SelectorHolds, hP]
        | some holds => simp [Covers, SelectorHolds, hP, Pod.info]
    | some nsSel =>
      simp only []
      split
      · rename_i hall
        have hempty : peer.podSelector = none ∧ nsSel.matchLabels = [] ∧
            nsSel.matchExpressions = [] := by
          simpa [and_assoc] using hall
        simp [Covers, hempty]
      · rename_i hall
        have hnot : ¬ (peer.podSelector = none ∧ nsSel.matchLabels = [] ∧
            nsSel.matchExpressions = []) := by
          simpa [and_assoc] using hall
        rw [or_iff_right hnot]
        cases hP : P.selector nsSel with
        | none => simp [Covers, SelectorHolds, hP]
        | some nsHolds =>
          cases hsel : peer.podSelector with
          | none =>
            cases hl : nsLabels nss pod.ns with
            | none => simp [Covers, podSelOf, Pod.info, hl]
            | some l => simp [Covers, podSelOf, Pod.info, hl, SelectorHolds, hP]
          | some sel =>
            cases hQ : P.selector sel with
            | none => simp [Covers, podSelOf, SelectorHolds, hQ]
            | some holds =>
              cases hl : nsLabels nss pod.ns with
              | none => simp [Covers, podSelOf, Pod.info, hl, hQ]
              | some l =>
                simp [Covers, podSelOf, Pod.info, hl, SelectorHolds, hP, hQ]

theorem npEntityID_reserved {name : String} (h : npEntityID name npDirIn = some id) :
    id ≠ npSrcAny ∧ id < npFirstRealID := by
  unfold npEntityID at h
  repeat' split at h
  all_goals first
    | (cases h; decide)
    | nomatch h

theorem peerSel_reserved {nss : List Namespace} {peer : Peer}
    (h : peerSel P nss ns npDirIn peer = .reserved id) : id ≠ npSrcAny ∧ id < npFirstRealID := by
  unfold peerSel at h
  split at h
  · rename_i name _
    split at h
    · rename_i hid
      cases h
      exact npEntityID_reserved hid
    nomatch h
  repeat' split at h
  all_goals first
    | (cases h; decide)
    | nomatch h

section Identities

variable {P : Platform} {pods : List Pod}

theorem registryOf_real (hc : NoCollision P pods) {info : IdentInfo}
    (h : (id, info) ∈ registryOf P pods) : npFirstRealID ≤ id := by
  obtain ⟨pod, -, -, rfl, -⟩ := (mem_registryOf hc).mp h
  exact npIdentityOf_real P _ _

theorem mem_ids_iff (hc : NoCollision P pods) {pod : Pod} (hpod : pod ∈ pods)
    (helig : pod.eligible = true) (matching : IdentInfo → Bool) :
    pod.id P ∈ ((registryOf P pods).filter fun e => matching e.2).map Prod.fst ↔
      matching pod.info = true := by
  rw [List.mem_map]
  constructor
  · rintro ⟨⟨id, info⟩, he, hid⟩
    obtain ⟨hreg, hm⟩ := List.mem_filter.mp he
    obtain ⟨pod', hpod', -, hid', rfl⟩ := (mem_registryOf hc).mp hreg
    rw [hc pod hpod pod' hpod' (by rw [hid']; exact hid.symm)]
    exact hm
  · intro hm
    exact ⟨(pod.id P, pod.info), List.mem_filter.mpr
      ⟨(mem_registryOf hc).mpr ⟨pod, hpod, helig, rfl, rfl⟩, hm⟩, rfl⟩

variable {pd : Pod}

theorem mem_subjectsOf (hc : NoCollision P pods) (hpd : pd ∈ pods) (helig : pd.eligible = true)
    (holds : Labels → Bool) (np : NetworkPolicy) :
    pd.id P ∈ subjectsOf (registryOf P pods) holds np ↔
      np.ns = pd.ns ∧ holds pd.info.lbls = true := by
  have h := mem_ids_iff hc hpd helig fun info => info.ns == np.ns && holds info.lbls
  unfold subjectsOf
  rw [h, Bool.and_eq_true, beq_iff_eq, eq_comm]
  rfl

/-- The identities a gate probes for a pod. -/
def podNames (id : U64) (isLocal : Bool) : List U64 :=
  id :: npSrcAnyPod :: if isLocal then [npSrcLocalPods] else []

/-- The identities a gate probes for an address. -/
def peerNames (m : Maps) (dir : U8) (a : Addr) : List U64 :=
  (match m.npIdent a with
    | some i => podNames i.id (m.locals ⟨0#32, a⟩).isSome
    | none => []) ++
  ((if dir = npDirIn ∧ (m.npNodes a).isSome then [npSrcNodes] else []) ++ [npSrcAny])

theorem npIngressIds_any (m : Maps) (q : NpQuery) (id : U64) :
    npIngressIds m q id =
      (peerNames m npDirIn q.src).any fun peer => npAllowHit m npDirIn q.proto id peer q.dport := by
  simp only [npIngressIds, peerNames, podNames]
  cases m.npIdent q.src <;> cases (m.locals ⟨0#32, q.src⟩).isSome <;>
    cases (m.npNodes q.src).isSome <;> simp [Bool.or_assoc]

theorem covers_iff_ids (hc : NoCollision P pods) {pod : Pod} (hpod : pod ∈ pods)
    (helig : pod.eligible = true) (isLocal : Bool) {sel : PeerSel}
    (hres : ∀ id, sel = .reserved id → id ≠ npSrcAny ∧ id < npFirstRealID) :
    (∃ id ∈ podNames (pod.id P) isLocal, id ∈ sel.ids (registryOf P pods)) ↔
      Covers isLocal pod.info sel := by
  cases sel with
  | nothing => simp [PeerSel.ids, Covers]
  | reserved id =>
    have hne : id ≠ pod.id P := by
      rintro rfl
      exact absurd (npIdentityOf_real P _ _) (BitVec.not_le.mpr (hres _ rfl).2)
    simp [PeerSel.ids, podNames, Covers, hne, and_comm]
  | pods matching =>
    have hno : ∀ r : U64, r < npFirstRealID →
        r ∉ ((registryOf P pods).filter fun e => matching e.2).map Prod.fst := by
      intro r hr hmem
      obtain ⟨⟨id, info⟩, he, rfl⟩ := List.mem_map.mp hmem
      exact absurd (registryOf_real hc (List.mem_filter.mp he).1) (BitVec.not_le.mpr hr)
    have hany := hno npSrcAnyPod (by decide)
    have hlocal := hno npSrcLocalPods (by decide)
    simp only [PeerSel.ids, Covers, podNames, List.exists_mem_cons_iff, hany, false_or]
    rw [← mem_ids_iff hc hpod helig matching]
    cases isLocal with
    | false => simp
    | true => simp only [if_true, List.exists_mem_cons_iff, hlocal, List.not_mem_nil, false_and,
        exists_false, or_false]

theorem npSrcAny_mem_ruleIDs (hc : NoCollision P pods) {nss : List Namespace} :
    npSrcAny ∈ ruleIDs P nss (registryOf P pods) ns npDirIn rule ↔ rule.peers = [] := by
  unfold ruleIDs
  constructor
  · intro h
    split at h
    · rename_i hnil
      exact List.isEmpty_iff.mp hnil
    obtain ⟨peer, -, hid⟩ := List.mem_flatMap.mp h
    split at hid
    · nomatch hid
    exfalso
    cases hsel : peerSel P nss ns npDirIn peer with
    | nothing => rw [hsel] at hid; nomatch hid
    | reserved id =>
      rw [hsel] at hid
      exact (peerSel_reserved hsel).1 (List.mem_singleton.mp hid).symm
    | pods matching =>
      rw [hsel] at hid
      obtain ⟨⟨id, info⟩, he, hany⟩ := List.mem_map.mp hid
      have hreal := registryOf_real hc (List.mem_filter.mp he).1
      rw [show id = npSrcAny from hany] at hreal
      exact absurd hreal (by decide)
  · intro h
    rw [h]
    exact List.mem_singleton.mpr rfl

end Identities

-- ── the gate

/-- The policies are compiled and installed; addresses and identity hashes tell the pods apart, and
    ipBlock port ranges are within the limit. -/
structure Enforced (P : Platform) (pods : List Pod) (nss : List Namespace)
    (nps : List NetworkPolicy) (m m' : Maps) : Prop where
  installed : ∃ c, compileNetworkPolicies P pods nss nps = .ok c ∧
    applyNetworkPolicy m c = (m', none)
  distinct : DistinctAddresses P pods
  hashes : NoCollision P pods
  served : RangesServed nps

variable {isV4 : Bool}

section Gate

variable {P : Platform} {pods : List Pod} {nss : List Namespace} {nps : List NetworkPolicy}
variable {m m' : Maps}

theorem ruleRows_allow {r : NPAllow} (h : RuleRows P nss reg ns dir self rule (.allow r)) :
    ∃ peer ∈ ruleIDs P nss reg ns dir rule, ∃ p ∈ npCompilePorts rule.ports,
      r = allowRow dir self peer p := by
  rcases h with ⟨peer, hpeer, p, hp, hrow⟩ | ⟨b, -, cidr, -, p, -, hrow | ⟨t, -, ex, -, hrow⟩⟩
  · exact ⟨peer, hpeer, p, hp, NpRow.allow.inj hrow⟩
  · nomatch hrow
  · nomatch hrow

theorem npAllowHit_rule (h : Enforced P pods nss nps m m') (hpd : pd ∈ pods)
    (helig : pd.eligible = true) (proto : U8) (srcId : U64) (q : U16) :
    npAllowHit m' npDirIn proto (pd.id P) srcId q = true ↔
      ∃ np ∈ nps, ∃ rule, IngressRule P pd np rule ∧ RuleAdmitsPort rule proto q ∧
        srcId ∈ ruleIDs P nss (registryOf P pods) np.ns npDirIn rule := by
  obtain ⟨c, hcomp, happ⟩ := h.installed
  obtain ⟨flags, -, hallow, -, -, -⟩ := compile_rows hcomp
  rw [npAllowHit_iff (applyNetworkPolicy_installed happ)]
  constructor
  · rintro ⟨r, hr, ⟨hdir, hproto, hdst, hsrc⟩, hserves⟩
    obtain ⟨np, hnp, holds, hsel, self, hself, hrow⟩ := (hallow r).mp hr
    rcases hrow with ⟨hing, ⟨g, hg, -⟩ | ⟨rule, hrule, hrow⟩⟩ | ⟨-, ⟨g, hg, -⟩ | ⟨rule, -, hrow⟩⟩
    · nomatch hg
    · obtain ⟨peer, hpeer, p, hp, rfl⟩ := ruleRows_allow hrow
      have hid : self = pd.id P := hdst
      have hsrc' : peer = srcId := hsrc
      rw [hid] at hself
      rw [hsrc'] at hpeer
      obtain ⟨hns, hholds⟩ := (mem_subjectsOf h.hashes hpd helig holds np).mp hself
      exact ⟨np, hnp, rule, ⟨hns, ⟨holds, hsel, hholds⟩, hing, hrule⟩,
        (npCompilePorts_iff rule proto q).mp ⟨p, hp, hproto, hserves⟩, hpeer⟩
    · nomatch hg
    · -- an egress row has the other direction
      obtain ⟨peer, -, p, -, rfl⟩ := ruleRows_allow hrow
      nomatch (show npDirEg = npDirIn from hdir)
  · rintro ⟨np, hnp, rule, ⟨hns, ⟨holds, hsel, hholds⟩, hing, hrule⟩, hport, hid⟩
    obtain ⟨p, hp, hproto, hserves⟩ := (npCompilePorts_iff rule proto q).mpr hport
    have hself := (mem_subjectsOf h.hashes hpd helig holds np).mpr ⟨hns, hholds⟩
    exact ⟨allowRow npDirIn (pd.id P) srcId p, (hallow _).mpr ⟨np, hnp, holds, hsel, _, hself,
      Or.inl ⟨hing, .inr ⟨rule, hrule, .inl ⟨srcId, hid, p, hp, rfl⟩⟩⟩⟩,
      ⟨rfl, hproto, rfl, rfl⟩, hserves⟩

theorem npIdent_source (h : Enforced P pods nss nps m m') (a : Addr) :
    (∃ pod ∈ pods, pod.owns P a ∧ ∃ v, m'.npIdent a = some v ∧ v.id = pod.id P) ∨
      ((∀ pod ∈ pods, ¬ pod.owns P a) ∧ m'.npIdent a = none) := by
  obtain ⟨c, hcomp, happ⟩ := h.installed
  obtain ⟨flags, -, -, -, hsound, hall⟩ := compile_rows hcomp
  have hident := npIdent_iff (applyNetworkPolicy_installed happ) h.distinct hsound hall a
  cases hv : m'.npIdent a with
  | some v =>
    obtain ⟨pod, hpod, hown, rfl⟩ := (hident v).mp hv
    exact .inl ⟨pod, hpod, hown, _, rfl, rfl⟩
  | none =>
    refine .inr ⟨fun pod hpod hown => ?_, rfl⟩
    rw [(hident _).mpr ⟨pod, hpod, hown, rfl⟩] at hv
    nomatch hv

theorem mem_ruleIDs_of_peers (hne : rule.peers ≠ []) :
    id ∈ ruleIDs P nss reg ns dir rule ↔
      ∃ peer ∈ rule.peers, peer.ipBlock = none ∧ id ∈ (peerSel P nss ns dir peer).ids reg := by
  unfold ruleIDs
  rw [if_neg (by simpa using hne), List.mem_flatMap]
  refine exists_congr fun peer => and_congr_right fun _ => ?_
  cases hb : peer.ipBlock with
  | none | some b => simp

theorem mem_ruleIDs_of_nil (hnil : rule.peers = []) :
    id ∈ ruleIDs P nss reg ns dir rule ↔ id = npSrcAny := by
  unfold ruleIDs
  rw [hnil]
  exact List.mem_singleton

theorem ruleIDs_pod (h : Enforced P pods nss nps m m') {pod : Pod} (hpod : pod ∈ pods)
    (helig : pod.eligible = true) (isLocal : Bool) (ns : String) (rule : Rule) :
    (∃ id ∈ podNames (pod.id P) isLocal, id ∈ ruleIDs P nss (registryOf P pods) ns npDirIn rule) ↔
      ∃ peer ∈ rule.peers, peer.ipBlock = none ∧ PeerSelectsPod P nss ns isLocal peer pod := by
  by_cases hnil : rule.peers = []
  · have hreal : npSrcAny ∉ podNames (pod.id P) isLocal := by
      have hid : npSrcAny ≠ pod.id P := by
        intro hz
        have hle := npIdentityOf_real P pod.ns (npFilterLabels pod.labels)
        rw [show npIdentityOf P pod.ns (npFilterLabels pod.labels) = npSrcAny from hz.symm] at hle
        exact absurd hle (by decide)
      have hother : npSrcAny ≠ npSrcAnyPod ∧ npSrcAny ≠ npSrcLocalPods := by decide
      simp [podNames, hid, hother]
    simp [mem_ruleIDs_of_nil hnil, hnil, hreal]
  · have hpeer := fun peer => (peerSel_covers P nss ns isLocal peer pod).symm.trans
      (covers_iff_ids h.hashes hpod helig isLocal fun id hid => peerSel_reserved hid).symm
    simp only [mem_ruleIDs_of_peers hnil, hpeer]
    constructor
    · rintro ⟨id, hid, peer, hp, hb, hmem⟩
      exact ⟨peer, hp, hb, id, hid, hmem⟩
    · rintro ⟨peer, hp, hb, id, hid, hmem⟩
      exact ⟨id, hid, peer, hp, hb, hmem⟩

/-- **THE IDENTITY PROBES ADMIT WHAT SELECTOR PEERS ADMIT.** -/
theorem npIngressIds_iff (h : Enforced P pods nss nps m m') (hpd : pd ∈ pods)
    (helig : pd.eligible = true) (hnode : m.npNodes s.key = none) (dst : Addr) (proto : U8)
    (dport sport : U16) :
    npIngressIds m' ⟨s.key, dst, dport, sport, proto, s.isV4⟩ (pd.id P) = true ↔
      SelectorAdmits P pods nss nps (m.locals ⟨0#32, s.key⟩).isSome pd s proto dport := by
  obtain ⟨c, hcomp, happ⟩ := h.installed
  have hin := applyNetworkPolicy_installed happ
  -- the source is a known pod, the only one at its address, or only rules without peers remain
  have hnames : ∀ ns rule, (∃ id ∈ peerNames m' npDirIn s.key,
      id ∈ ruleIDs P nss (registryOf P pods) ns npDirIn rule) ↔ rule.peers = [] ∨
        ∃ peer ∈ rule.peers, peer.ipBlock = none ∧ ∃ pod ∈ pods, pod.owns P s.key ∧
          PeerSelectsPod P nss ns (m.locals ⟨0#32, s.key⟩).isSome peer pod := by
    intro ns rule
    simp only [peerNames, hin.nodes, hnode, hin.locals, Option.isSome_none, Bool.false_eq_true,
      and_false, if_false, List.nil_append, List.mem_append, List.mem_singleton, or_and_right, exists_or,
      exists_eq_left, npSrcAny_mem_ruleIDs h.hashes]
    rw [or_comm]
    refine or_congr_right ?_
    rcases npIdent_source h s.key with ⟨pod, hpod, hown, v, hv, hid⟩ | ⟨hnone, hv⟩
    · simp only [hv, hid]
      rw [ruleIDs_pod h hpod hown.1]
      refine exists_congr fun peer => and_congr_right fun _ => and_congr_right fun _ => ?_
      constructor
      · exact fun hp => ⟨pod, hpod, hown, hp⟩
      · rintro ⟨pod', hpod', hown', hp⟩
        rwa [h.distinct pod hpod pod' hpod' _ hown hown']
    · simp only [hv, List.not_mem_nil, false_and, exists_false, false_iff]
      rintro ⟨peer, -, -, pod, hpod, hown, -⟩
      exact hnone pod hpod hown
  rw [npIngressIds_any, List.any_eq_true]
  simp only [npAllowHit_rule h hpd helig, SelectorAdmits, ← hnames]
  constructor
  · rintro ⟨id, hid, np, hnp, rule, hr, hp, hmem⟩
    exact ⟨np, hnp, rule, hr, hp, id, hid, hmem⟩
  · rintro ⟨np, hnp, rule, hr, hp, id, hid, hmem⟩
    exact ⟨id, hid, np, hnp, rule, hr, hp, hmem⟩

/-- A range under an ingress scope of a pod belongs to that pod's ingress rules. -/
theorem npRange_scope {proto' : U8} {port' : U16} {id' : U64} {c : IPNet}
    (hdir : dir = npDirIn ∨ dir = npDirEg)
    (h : (npRange dir proto port id c).scope = npScope npDirIn isV4 proto' port' id') :
    dir = npDirIn ∧ id = id' := by
  unfold npRange npScope at h
  rw [append_inj, append_inj, append_inj] at h
  refine ⟨?_, h.2⟩
  rcases hdir with rfl | rfl
  · rfl
  · have hno : ∀ a b : Bool, npCidrDir npDirEg a ≠ npCidrDir npDirIn b := by decide
    exact absurd h.1.1.1 (hno _ _)

theorem npBlock_scope {p : NpPort} (hdir : dir = npDirIn ∨ dir = npDirEg)
    (h : (npBlock P self dir p cidr b).InScope (npScope npDirIn isV4 proto port id)) :
    dir = npDirIn ∧ self = id := by
  rcases h with h | ⟨x, hx, h⟩
  · exact npRange_scope hdir h
  · obtain ⟨ex, -, rfl⟩ := List.mem_map.mp hx
    exact npRange_scope hdir h

theorem mem_npBlocks_iff (h : Enforced P pods nss nps m m') (hpd : pd ∈ pods)
    (helig : pd.eligible = true) {x : Block (8 + 8 + 16 + 64) 128}
    (hx : x.InScope (npScope npDirIn isV4 proto port (pd.id P))) :
    x ∈ npBlocks P (registryOf P pods) nps ↔ x ∈ ingressBlocks P nps pd := by
  constructor
  · rintro ⟨np, hnp, holds, hsel, self, hself, ⟨hing, rule, hr, hblk⟩ | ⟨-, rule, hr, hblk⟩⟩
    · obtain ⟨b, hb, cidr, hc, p, hp, rfl⟩ := hblk
      obtain ⟨-, rfl⟩ := npBlock_scope (.inl rfl) hx
      obtain ⟨hns, hholds⟩ := (mem_subjectsOf h.hashes hpd helig holds np).mp hself
      exact ⟨np, hnp, rule, ⟨hns, ⟨holds, hsel, hholds⟩, hing, hr⟩, b, hb, cidr, hc, p, hp, rfl⟩
    · obtain ⟨b, -, cidr, -, p, -, rfl⟩ := hblk
      nomatch (npBlock_scope (.inr rfl) hx).1
  · rintro ⟨np, hnp, rule, ⟨hns, ⟨holds, hsel, hholds⟩, hing, hr⟩, hblk⟩
    exact ⟨np, hnp, holds, hsel, _, (mem_subjectsOf h.hashes hpd helig holds np).mpr ⟨hns, hholds⟩,
      Or.inl ⟨hing, rule, hr, hblk⟩⟩

theorem npIdent_isolated (h : Enforced P pods nss nps m m') (hpd : pd ∈ pods) {dst : Addr}
    (hown : pd.owns P dst) (hiso : IngressIsolated P nps pd) :
    ∃ v, m'.npIdent dst = some v ∧ v.id = pd.id P ∧ hasBit v.flags npIngIsolated = true := by
  obtain ⟨c, hcomp, happ⟩ := h.installed
  obtain ⟨flags, hflags, -, -, hsound, hall⟩ := compile_rows hcomp
  obtain ⟨np, hnp, hns, ⟨holds, hsel, hholds⟩, hing⟩ := hiso
  refine ⟨⟨pd.id P, flags (pd.id P)⟩, ?_, rfl, ?_⟩
  · exact (npIdent_iff (applyNetworkPolicy_installed happ) h.distinct hsound hall dst _).mpr
      ⟨pd, hpd, hown, rfl⟩
  · have hself := (mem_subjectsOf h.hashes hpd hown.1 holds np).mpr ⟨hns, hholds⟩
    exact (hflags _ _).mpr ⟨np, hnp, holds, hsel, _, hself,
      Or.inl ⟨hing, .inl ⟨npIngIsolated, rfl, by decide⟩⟩⟩

theorem npIngress_eq (h : Enforced P pods nss nps m m') (hpd : pd ∈ pods) {dst : Addr}
    (hown : pd.owns P dst) (hiso : IngressIsolated P nps pd) (f : Flows) (s : Ip) (proto : U8)
    (dport sport : U16) (hnode : m.npNodes s.key = none)
    (hpin : npPinCheck f ⟨s.key, dst, dport, sport, proto, s.isV4⟩ = false) :
    npIngress m' f ⟨s.key, dst, dport, sport, proto, s.isV4⟩ = true ↔
      SelectorAdmits P pods nss nps (m.locals ⟨0#32, s.key⟩).isSome pd s proto dport ∨
        Decided (ingressBlocks P nps pd) (npScope npDirIn s.isV4 proto dport (pd.id P))
          (npScope npDirIn s.isV4 proto 0#16 (pd.id P)) s.key := by
  obtain ⟨c, hcomp, happ⟩ := h.installed
  have hin := applyNetworkPolicy_installed happ
  obtain ⟨flags, -, -, hcidr, -, -⟩ := compile_rows hcomp
  obtain ⟨v, hv, hid, hflag⟩ := npIdent_isolated h hpd hown hiso
  have hlocal : npNodeLocal m' s.key = false := by
    unfold npNodeLocal
    rw [hin.nodes, hnode]
  have hblocks := decided_congr (npScope npDirIn s.isV4 proto dport (pd.id P))
    (npScope npDirIn s.isV4 proto 0#16 (pd.id P)) (fun x hx => by
      rcases hx with hx | hx <;> exact mem_npBlocks_iff h hpd hown.1 hx) s.key
  rw [← npIngressIds_iff h hpd hown.1 hnode dst proto dport sport, ← hblocks,
    ← npCidrCheck_iff hin hcidr ⟨s.key, dst, dport, sport, proto, s.isV4⟩ npDirIn (pd.id P) s.key]
  unfold npIngress
  simp only [hin.guard, hv, hid, hflag, hlocal, hpin, bne_self_eq_false, Bool.false_eq_true,
    Bool.not_true, if_false]
  generalize npIngressIds m' _ _ = x
  generalize npCidrCheck m' _ _ _ _ = y
  cases x with
  | true => simp
  | false =>
    cases y with
    | true | false => simp

theorem npRange_port {dir' : U8} {proto' : U8} {port' : U16} {id' : U64} {isV4' : Bool} {c : IPNet}
    {a : Addr} (h : (npRange dir proto port id c).holds (npScope dir' isV4' proto' port' id') a = true) :
    port = port' := by
  have hscope := beq_iff_eq.mp (Bool.and_eq_true_iff.mp h).1
  unfold npRange npScope at hscope
  rw [append_inj, append_inj] at hscope
  exact hscope.1.2

/-- Rules without ports say nothing at an exact port. -/
theorem portless_unmentioned {bs : Set (Block (8 + 8 + 16 + 64) 128)}
    (h : ∀ x ∈ bs, ∃ self dir cidr b, ∃ p ∈ expandPorts (npCompilePorts []),
      x = npBlock P self dir p cidr b) (hport : port ≠ 0#16) {a : Addr} :
    ¬ Mentions bs (npScope dir isV4 proto port id) a := by
  have hany : ∀ p ∈ expandPorts (npCompilePorts []), p.port = 0#16 := by decide
  rintro ⟨x, hx, hholds⟩
  obtain ⟨self, dir', cidr, b, p, hp, rfl⟩ := h x hx
  rcases hholds with hholds | ⟨y, hy, hholds⟩
  · exact hport ((npRange_port hholds).symm.trans (hany p hp))
  · obtain ⟨ex, -, rfl⟩ := List.mem_map.mp hy
    exact hport ((npRange_port hholds).symm.trans (hany p hp))

/-- **INGRESS IS THE UNION OF THE RULES EXACTLY WHEN** a selector peer admits the source, or no range
    is in the way of another ipBlock's: no longer exception of another ipBlock masks the ranges that
    admit the source, none at the exact port hides what the any-port rows admit, and no range swallows
    the exceptions of those around it. -/
theorem npIngress_union_iff (h : Enforced P pods nss nps m m') {pd : Pod} (hpd : pd ∈ pods)
    {dst : Addr} (hown : pd.owns P dst) (hiso : IngressIsolated P nps pd) (f : Flows) (s : Ip)
    (proto : U8) (dport sport : U16) (hnode : m.npNodes s.key = none)
    (hpin : npPinCheck f ⟨s.key, dst, dport, sport, proto, s.isV4⟩ = false) :
    (npIngress m' f ⟨s.key, dst, dport, sport, proto, s.isV4⟩ = true ↔
      SelectorAdmits P pods nss nps (m.locals ⟨0#32, s.key⟩).isSome pd s proto dport ∨
        BlockAdmits P nps pd s proto dport) ↔
    SelectorAdmits P pods nss nps (m.locals ⟨0#32, s.key⟩).isSome pd s proto dport ∨
      Clear (ingressBlocks P nps pd) (npScope npDirIn s.isV4 proto dport (pd.id P))
        (npScope npDirIn s.isV4 proto 0#16 (pd.id P)) s.key := by
  rw [npIngress_eq h hpd hown hiso f s proto dport sport hnode hpin,
    ← union_blockAdmits h.served pd s proto dport, ← union_iff_decided]
  by_cases hsel : SelectorAdmits P pods nss nps (m.locals ⟨0#32, s.key⟩).isSome pd s proto dport
  · simp only [hsel, true_or]
  · simp only [hsel, false_or]
    exact iff_comm

end Gate

/-- The platform, on the texts used below. -/
def demoPlatform : Platform where
  selector sel :=
    if sel.matchExpressions.isEmpty then some fun l => sel.matchLabels.all fun kv => l.contains kv
    else none
  parseCIDR text :=
    if text = "10.0.0.0/8" then some (.mask4 0x0a000000#32 8)
    else if text = "10.1.0.0/16" then some (.mask4 0x0a010000#32 16)
    else if text = "10.1.2.0/24" then some (.mask4 0x0a010200#32 24)
    else none
  parseIP text := if text = "10.2.0.7" then some 0xffff0a020007#128 else none
  sum64 text := if text = "default\x00app\x00web\x00".toList then 0x49d083731f2fed1a#64 else 0#64

def webPod : Pod := ⟨"default", [("app", "web")], false, ["10.2.0.7"]⟩

/-- Every port from one ipBlock, to every pod of the namespace. -/
def blockPolicy (cidr : String) (except : List String) : NetworkPolicy :=
  ⟨"default", ⟨[], []⟩, [.ingress], [⟨[], [⟨none, none, some ⟨cidr, except⟩⟩]⟩], none⟩

def openPolicy : NetworkPolicy := blockPolicy "10.0.0.0/8" []
def guardedPolicy : NetworkPolicy := blockPolicy "10.0.0.0/8" ["10.1.0.0/16"]

/-- A part of what `guardedPolicy` excepts. -/
def officePolicy : NetworkPolicy := blockPolicy "10.1.2.0/24" []

def ingressMaps (nps : List NetworkPolicy) : Maps :=
  match compileNetworkPolicies demoPlatform [webPod] [] nps with
  | .ok c => (applyNetworkPolicy Maps.empty c).1
  | .error _ => Maps.empty

theorem ingressMaps_enforced {nps : List NetworkPolicy}
    (h : nps = [guardedPolicy, openPolicy] ∨ nps = [guardedPolicy, officePolicy]) :
    Enforced demoPlatform [webPod] [] nps Maps.empty (ingressMaps nps) where
  installed := by rcases h with rfl | rfl <;> exact ⟨_, rfl, rfl⟩
  distinct := by
    intro a ha b hb ip _ _
    rw [List.mem_singleton.mp ha, List.mem_singleton.mp hb]
  hashes := by
    intro a ha b hb _
    rw [List.mem_singleton.mp ha, List.mem_singleton.mp hb]
  served := by
    intro np hnp rule hr _ p hp
    have hports : ∀ np ∈ nps, ∀ rule ∈ np.ingress, rule.ports = [] := by
      rcases h with rfl | rfl <;> decide
    rw [hports np hnp rule hr] at hp
    nomatch hp

/-- The pod's address. -/
def webAddr : Addr := v4To128 0x0a020007#32
def exceptedClient : Ip := .v4 0x0a010203#32

theorem webPod_owns : webPod.owns demoPlatform webAddr :=
  ⟨rfl, "10.2.0.7", List.mem_singleton.mpr rfl, 0xffff0a020007#128, rfl, rfl⟩

theorem webPod_rule (cidr : String) (except : List String) :
    IngressRule demoPlatform webPod (blockPolicy cidr except)
      ⟨[], [⟨none, none, some ⟨cidr, except⟩⟩]⟩ :=
  ⟨rfl, ⟨_, rfl, rfl⟩, rfl, List.mem_singleton.mpr rfl⟩

theorem webPod_isolated {cidr : String} {except : List String} {nps : List NetworkPolicy}
    (h : blockPolicy cidr except ∈ nps) : IngressIsolated demoPlatform nps webPod :=
  have hrule := webPod_rule cidr except
  ⟨_, h, hrule.1, hrule.2.1, hrule.2.2.1⟩

/-- The /24 is longer than the exception around it, and nothing is said at an exact port. -/
theorem office_clear :
    Clear (ingressBlocks demoPlatform [guardedPolicy, officePolicy] webPod)
      (npScope npDirIn exceptedClient.isV4 ipprotoTcp 80#16 (webPod.id demoPlatform))
      (npScope npDirIn exceptedClient.isV4 ipprotoTcp 0#16 (webPod.id demoPlatform))
      exceptedClient.key := by
  have hports : ∀ np ∈ [guardedPolicy, officePolicy], ∀ rule ∈ np.ingress, rule.ports = [] := by
    decide
  have htext : ∀ np ∈ [guardedPolicy, officePolicy], ∀ rule ∈ np.ingress, ∀ b ∈ ruleBlocks rule,
      ∀ text ∈ b.except, text = "10.1.0.0/16" := by decide
  have hunasked : ¬ Mentions (ingressBlocks demoPlatform [guardedPolicy, officePolicy] webPod)
      (npScope npDirIn exceptedClient.isV4 ipprotoTcp 80#16 (webPod.id demoPlatform))
      exceptedClient.key := by
    refine portless_unmentioned (P := demoPlatform) ?_ (by decide)
    rintro x ⟨np, hnp, rule, hrule, b, -, cidr, -, p, hp, rfl⟩
    rw [hports np hnp rule hrule.2.2.2] at hp
    exact ⟨_, _, _, _, p, hp, rfl⟩
  have hb : npBlock demoPlatform (webPod.id demoPlatform) npDirIn ⟨ipprotoTcp, 0#16, 0#16⟩
      (.mask4 0x0a010200#32 24) ⟨"10.1.2.0/24", []⟩ ∈
      ingressBlocks demoPlatform [guardedPolicy, officePolicy] webPod :=
    ⟨officePolicy, .tail _ (.head _), _, webPod_rule _ _, _, .head _, _, rfl, _, .head _, rfl⟩
  refine clear_of_longest ((asked_second hunasked).mpr rfl) hb
    (npBlock_admits.mpr ⟨⟨rfl, rfl⟩, by decide, nofun⟩) ?_
  rintro c ⟨np, hnp, rule, hrule, b, hbr, cidr, -, p, -, rfl⟩ x hx -
  obtain ⟨ex, hmem, rfl⟩ := List.mem_map.mp hx
  obtain ⟨text, ht, hex⟩ := List.mem_filterMap.mp hmem
  rw [htext np hnp rule hrule.2.2.2 b hbr text ht] at hex
  obtain rfl : IPNet.mask4 0x0a010000#32 16 = ex := Option.some.inj hex
  have hlen : (cidrRange (.mask4 0x0a010000#32 16)).plen ≤
      (cidrRange (.mask4 0x0a010200#32 24)).plen := by decide
  exact hlen

theorem npIngress_union_office :
    npIngress (ingressMaps [guardedPolicy, officePolicy]) Flows.empty
        ⟨exceptedClient.key, webAddr, 80#16, 40000#16, ipprotoTcp, true⟩ = true ↔
      SelectorAdmits demoPlatform [webPod] [] [guardedPolicy, officePolicy] false webPod
          exceptedClient ipprotoTcp 80#16 ∨
        BlockAdmits demoPlatform [guardedPolicy, officePolicy] webPod exceptedClient ipprotoTcp
          80#16 :=
  (npIngress_union_iff (ingressMaps_enforced (.inr rfl)) (List.mem_singleton.mpr rfl) webPod_owns
    (webPod_isolated (.head _)) Flows.empty exceptedClient ipprotoTcp 80#16 40000#16 rfl rfl).mpr
    (.inr office_clear)

/-- **AN EXCEPTION REMOVES WHAT ANOTHER POLICY ADMITS**: a client of 10.1.0.0/16 is refused though
    10.0.0.0/8 is admitted. -/
theorem npIngress_masked_by_other_policy :
    Enforced demoPlatform [webPod] [] [guardedPolicy, openPolicy] Maps.empty
        (ingressMaps [guardedPolicy, openPolicy]) ∧
      IngressIsolated demoPlatform [guardedPolicy, openPolicy] webPod ∧
      webPod.owns demoPlatform webAddr ∧
      BlockAdmits demoPlatform [guardedPolicy, openPolicy] webPod exceptedClient ipprotoTcp 80#16 ∧
      npIngress (ingressMaps [guardedPolicy, openPolicy]) Flows.empty
        ⟨exceptedClient.key, webAddr, 80#16, 40000#16, ipprotoTcp, true⟩ = false := by
  refine ⟨ingressMaps_enforced (.inl rfl), webPod_isolated (.head _), webPod_owns, ?_,
    by decide +kernel⟩
  exact ⟨openPolicy, .tail _ (.head _), _, webPod_rule _ _, .inl rfl, _, List.mem_singleton.mpr rfl,
    _, rfl, .mask4 0x0a000000#32 8, rfl, by decide, nofun⟩

end CozyNp
