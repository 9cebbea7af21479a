import Cozyplane.CidrProofs
import Cozyplane.PolicyGateProofs

/-!
# Compiling NetworkPolicies — from API objects to identity and range rows

`compileNetworkPolicies` turns pods, namespaces and policies into three row sets: the
identity of each pod address, identity-pair allow rules, and the address ranges of ipBlocks.
An identity is a hash of a pod's namespace and filtered labels; selectors are evaluated once
per identity.

Compilation is fallible: it runs on a budget, and each step of each loop spends from it. A
failed compilation installs nothing.

What the compiler calls outside the repository and does not define itself — label-selector
parsing, `net.ParseCIDR`, `net.ParseIP`, SHA-256 — is the structure `Platform`.
-/

namespace CozyNpCompile

open Accumulate CozyPacket CozyDatapath CozyPolicy CozyCidr

/-- A label map, listed by key. -/
abbrev Labels := List (String × String)

/-- `metav1.LabelSelectorRequirement`. -/
structure Requirement where
  key : String
  op : String
  values : List String
  deriving DecidableEq

/-- `metav1.LabelSelector`. -/
structure LabelSelector where
  matchLabels : Labels
  matchExpressions : List Requirement
  deriving DecidableEq

/-- `networkingv1.IPBlock`. -/
structure IPBlock where
  cidr : String
  except : List String
  deriving DecidableEq

/-- `networkingv1.NetworkPolicyPeer`. -/
structure Peer where
  podSelector : Option LabelSelector
  namespaceSelector : Option LabelSelector
  ipBlock : Option IPBlock
  deriving DecidableEq

/-- `corev1.Protocol`. -/
inductive Protocol where
  | tcp
  | udp
  | other (name : String)
  deriving DecidableEq

/-- `intstr.IntOrString`. -/
inductive IntOrString where
  | int (v : Int)
  | str (s : String)
  deriving DecidableEq

/-- `networkingv1.NetworkPolicyPort`. -/
structure PolicyPort where
  protocol : Option Protocol
  port : Option IntOrString
  endPort : Option Int
  deriving DecidableEq

/-- An ingress (`from`) or egress (`to`) rule. -/
structure Rule where
  ports : List PolicyPort
  peers : List Peer
  deriving DecidableEq

/-- `networkingv1.PolicyType`. -/
inductive PolicyType where
  | ingress
  | egress
  | other (name : String)
  deriving DecidableEq

/-- `networkingv1.NetworkPolicy`. An absent `egress` differs from an empty one. -/
structure NetworkPolicy where
  ns : String
  podSelector : LabelSelector
  policyTypes : List PolicyType
  ingress : List Rule
  egress : Option (List Rule)
  deriving DecidableEq

/-- The fields of `corev1.Pod` the compiler reads. -/
structure Pod where
  ns : String
  labels : Labels
  hostNetwork : Bool
  podIPs : List String
  deriving DecidableEq

/-- `corev1.Namespace`. -/
structure Namespace where
  name : String
  labels : Labels
  deriving DecidableEq

/-- What the compiler calls outside the repository: `LabelSelectorAsSelector` with `Matches`,
    `net.ParseCIDR`, `net.ParseIP` and the first 64 bits of SHA-256. -/
structure Platform where
  selector : LabelSelector → Option (Labels → Bool)
  parseCIDR : String → Option IPNet
  parseIP : String → Option Addr
  sum64 : List Char → U64

-- ── identities

def npFilteredLabel (key : String) : Bool :=
  key == "pod-template-hash" || key == "controller-revision-hash" ||
    key == "statefulset.kubernetes.io/pod-name" || key == "apps.kubernetes.io/pod-index" ||
    key == "controller-uid" || key == "job-name" ||
    "batch.kubernetes.io/".toList.isPrefixOf key.toList

def npFilterLabels (l : Labels) : Labels := l.filter fun kv => !npFilteredLabel kv.1

/-- The canonical encoding the identity hashes: the namespace, then each label by key, every
    item closed by a zero. -/
def npEncode (ns : String) (filtered : Labels) : List Char :=
  ns.toList ++ [Char.ofNat 0] ++
    (filtered.insertionSort fun a b => a.1 ≤ b.1).flatMap fun kv =>
      kv.1.toList ++ [Char.ofNat 0] ++ kv.2.toList ++ [Char.ofNat 0]

def npFirstRealID : U64 := 8#64

/-- `npIdentityOf`: hashes below the first real id are moved off the reserved ids. -/
def npIdentityOf (P : Platform) (ns : String) (filtered : Labels) : U64 :=
  let id := P.sum64 (npEncode ns filtered)
  if id < npFirstRealID then id + npFirstRealID else id

/-- Identities never collide with the reserved ids. -/
theorem npIdentityOf_real (P : Platform) (ns : String) (filtered : Labels) :
    npFirstRealID ≤ npIdentityOf P ns filtered := by
  unfold npIdentityOf
  simp only []
  generalize P.sum64 (npEncode ns filtered) = id
  split
  · rename_i h
    unfold npFirstRealID at h ⊢
    rw [BitVec.le_def, BitVec.toNat_add]
    rw [BitVec.lt_def] at h
    simp only [BitVec.toNat_ofNat] at h ⊢
    omega
  · rename_i h
    exact BitVec.not_lt.mp h

/-- What an identity stands for. -/
structure IdentInfo where
  ns : String
  lbls : Labels
  deriving DecidableEq

namespace Pod

/-- Policies apply to pods with an address of their own. -/
def eligible (pod : Pod) : Bool := !pod.hostNetwork && !pod.podIPs.isEmpty

def info (pod : Pod) : IdentInfo := ⟨pod.ns, npFilterLabels pod.labels⟩

def id (P : Platform) (pod : Pod) : U64 := npIdentityOf P pod.ns (npFilterLabels pod.labels)

end Pod

abbrev Registry := List (U64 × IdentInfo)

def registryPut (reg : Registry) (id : U64) (info : IdentInfo) : Registry :=
  (id, info) :: reg.filter fun e => e.1 != id

def registryOf (P : Platform) (pods : List Pod) : Registry :=
  (pods.filter Pod.eligible).foldl (fun reg pod => registryPut reg (pod.id P) pod.info) []

/-- The identity hash does not collide on the given pods. -/
def NoCollision (P : Platform) (pods : List Pod) : Prop :=
  ∀ a ∈ pods, ∀ b ∈ pods, a.id P = b.id P → a.info = b.info

variable {pods : List Pod}

variable {P : Platform}

/-- **THE REGISTRY LISTS THE PODS' IDENTITIES**, absent collisions. -/
theorem mem_registryOf (hc : NoCollision P pods) {id : U64} {info : IdentInfo} :
    (id, info) ∈ registryOf P pods ↔
      ∃ pod ∈ pods, pod.eligible = true ∧ pod.id P = id ∧ pod.info = info := by
  have hfold : ∀ ps : List Pod, (∀ a ∈ ps, a ∈ pods) → ∀ id info,
      (id, info) ∈ ps.foldl (fun reg pod => registryPut reg (pod.id P) pod.info) [] ↔
        ∃ pod ∈ ps, pod.id P = id ∧ pod.info = info := by
    intro ps
    induction ps using List.reverseRecOn with
    | nil => simp
    | append_singleton ps pod ih =>
      intro hsub id info
      have hmem : ∀ a ∈ ps, a ∈ pods := fun a ha => hsub a (List.mem_append_left _ ha)
      rw [List.foldl_append, List.foldl_cons, List.foldl_nil, registryPut]
      simp only [List.mem_cons, Prod.mk.injEq, List.mem_filter, bne_iff_ne, ne_eq, ih hmem,
        List.mem_append, List.not_mem_nil, or_false]
      constructor
      · rintro (⟨rfl, rfl⟩ | ⟨⟨q, hq, hi, hx⟩, -⟩)
        · exact ⟨pod, .inr rfl, rfl, rfl⟩
        · exact ⟨q, .inl hq, hi, hx⟩
      · rintro ⟨q, hq | rfl, rfl, rfl⟩
        · by_cases hid : q.id P = pod.id P
          · exact .inl ⟨hid, hc q (hmem q hq) pod (hsub pod (by simp)) hid⟩
          · exact .inr ⟨⟨q, hq, rfl, rfl⟩, hid⟩
        · exact .inl ⟨rfl, rfl⟩
  unfold registryOf
  rw [hfold _ fun a ha => (List.mem_filter.mp ha).1]
  simp [List.mem_filter, and_assoc]

/-- `npPort`: port 0 is any port; a non-zero `endPort` makes it a range. -/
structure NpPort where
  proto : U8
  port : U16
  endPort : U16
  deriving DecidableEq

/-- The protocol number, TCP by default; other protocols are not served. -/
def npProto : Option Protocol → Option U8
  | none => some ipprotoTcp
  | some .tcp => some ipprotoTcp
  | some .udp => some ipprotoUdp
  | some (.other _) => none

/-- One entry of `npCompilePorts`; an entry that is not served compiles to nothing. -/
def npCompilePort (p : PolicyPort) : Option NpPort :=
  match npProto p.protocol with
  | none => none
  | some proto =>
    match p.port with
    | none => if p.endPort.isSome then none else some ⟨proto, 0#16, 0#16⟩
    | some (.str _) => none
    | some (.int v) =>
      if v < 1 ∨ 65535 < v then none
      else
        match p.endPort with
        | none => some ⟨proto, BitVec.ofInt 16 v, 0#16⟩
        | some e =>
          if e < v ∨ 65535 < e then none
          else some ⟨proto, BitVec.ofInt 16 v, BitVec.ofInt 16 e⟩

/-- `npCompilePorts`: an empty list is every port of the gated protocols. -/
def npCompilePorts (ports : List PolicyPort) : List NpPort :=
  if ports.isEmpty then [⟨ipprotoTcp, 0#16, 0#16⟩, ⟨ipprotoUdp, 0#16, 0#16⟩]
  else ports.filterMap npCompilePort

/-- `expandPorts`: an ipBlock range becomes one item for each port, up to 64 of them. -/
def expandPorts (ports : List NpPort) : List NpPort :=
  ports.flatMap fun p =>
    if p.endPort = 0#16 then [p]
    else if 64 ≤ p.endPort.toNat - p.port.toNat then []
    else (List.range' p.port.toNat (p.endPort.toNat + 1 - p.port.toNat)).map fun q =>
      ⟨p.proto, BitVec.ofNat 16 q, 0#16⟩

def npEntityLabel : String := "policy.cozyplane.io/entity"

/-- `npEntityPeer`: the reserved label as the only thing the peer says. -/
def npEntityPeer (peer : Peer) : Option String :=
  match peer.namespaceSelector with
  | none => none
  | some ns =>
    if peer.podSelector.isSome || peer.ipBlock.isSome || !ns.matchExpressions.isEmpty ||
        ns.matchLabels.length != 1 then none
    else (ns.matchLabels.find? fun kv => kv.1 == npEntityLabel).map Prod.snd

/-- `npEntityID`: nodes are ingress-only peers. -/
def npEntityID (name : String) (dir : U8) : Option U64 :=
  if name = "nodes" then if dir = npDirIn then some npSrcNodes else none
  else if name = "local-node" then if dir = npDirIn then some npSrcLocalNode else none
  else if name = "local-pods" then some npSrcLocalPods
  else none

/-- The labels `nsLabels` holds for a namespace: the last listed object of that name. -/
def nsLabels (nss : List Namespace) (name : String) : Option Labels :=
  (nss.reverse.find? fun ns => ns.name == name).map Namespace.labels

/-- What a peer without ipBlock selects. -/
inductive PeerSel where
  | nothing
  | reserved (id : U64)
  | pods (matching : IdentInfo → Bool)

/-- The pod selector beside a namespace selector; an absent one selects every pod. -/
def podSelOf (P : Platform) : Option LabelSelector → Option (Labels → Bool)
  | none => some fun _ => true
  | some sel => P.selector sel

/-- The selector part of `resolvePeers` for one peer. -/
def peerSel (P : Platform) (nss : List Namespace) (policyNs : String) (dir : U8) (peer : Peer) :
    PeerSel :=
  match npEntityPeer peer with
  | some name =>
    match npEntityID name dir with
    | some id => .reserved id
    | none => .nothing
  | none =>
    match peer.namespaceSelector with
    | none =>
      -- same-namespace pods; a nil selector selects nothing
      match peer.podSelector with
      | none => .pods fun _ => false
      | some sel =>
        match P.selector sel with
        | none => .nothing
        | some holds => .pods fun info => info.ns == policyNs && holds info.lbls
    | some nsSel =>
      if peer.podSelector.isNone && nsSel.matchLabels.isEmpty && nsSel.matchExpressions.isEmpty then
        .reserved npSrcAnyPod
      else
        match P.selector nsSel with
        | none => .nothing
        | some nsHolds =>
          match podSelOf P peer.podSelector with
          | none => .nothing
          | some podHolds =>
            .pods fun info =>
              (match nsLabels nss info.ns with
                | some l => nsHolds l
                | none => false) && podHolds info.lbls

/-- The ids `resolvePeers` returns for one peer. -/
def PeerSel.ids (reg : Registry) : PeerSel → List U64
  | .nothing => []
  | .reserved id => [id]
  | .pods matching => (reg.filter fun e => matching e.2).map Prod.fst

/-- The registry entries it walks, each of which is charged. -/
def PeerSel.walked (reg : Registry) : PeerSel → Registry
  | .pods _ => reg
  | _ => []

/-- `datapath.NPAllow`. -/
structure NPAllow where
  dstID : U64
  srcID : U64
  dir : U8
  proto : U8
  port : U16
  endPort : U16
  deriving DecidableEq

/-- `datapath.NPCidr`. -/
structure NPCidr where
  id : U64
  dir : U8
  proto : U8
  port : U16
  cidr : IPNet
  allow : Bool
  deriving DecidableEq

/-- The state the compiler threads. -/
structure Acc where
  work : Nat
  flags : U64 → U32
  allows : List NPAllow
  cidrs : List NPCidr

def npCompileLimit : Nat := 65536
def npCompileWorkLimit : Nat := 1048576

def spend (a : Acc) : Except String Acc :=
  if npCompileWorkLimit < a.work + 1 then
    .error "NetworkPolicy compilation exceeds 1048576 operations"
  else .ok { a with work := a.work + 1 }

/-- One isolation flag. -/
def addFlag (id : U64) (flag : U32) (a : Acc) : Except String Acc :=
  .ok { a with flags := Function.update a.flags id (a.flags id ||| flag) }

/-- One identity-pair rule. -/
def addAllow (key : NPAllow) (a : Acc) : Except String Acc :=
  match spend a with
  | .error e => .error e
  | .ok a =>
    if a.allows.contains key then .ok a
    else if npCompileLimit ≤ a.allows.length then
      .error "NetworkPolicy rules exceed 65536 rows"
    else .ok { a with allows := key :: a.allows }

/-- One range row; running out of either budget is one error. -/
def addCidr (c : NPCidr) (a : Acc) : Except String Acc :=
  if npCompileLimit ≤ a.cidrs.length then
    .error "NetworkPolicy CIDR expansion exceeds compilation budget"
  else
    match spend a with
    | .error _ => .error "NetworkPolicy CIDR expansion exceeds compilation budget"
    | .ok a => .ok { a with cidrs := c :: a.cidrs }

section Loops

variable (P : Platform) (nss : List Namespace) (reg : Registry)

/-- One ipBlock: rows for each port, exceptions last. -/
def compileBlock (self : U64) (dir : U8) (ports : List NpPort) (b : IPBlock) :
    Acc → Except String Acc :=
  match P.parseCIDR b.cidr with
  | none => .ok
  | some cidr =>
    andThen (forEach ports fun p => addCidr ⟨self, dir, p.proto, p.port, cidr, true⟩)
      (forEach b.except fun text =>
        match P.parseCIDR text with
        | none => .ok
        | some ex => forEach ports fun p => addCidr ⟨self, dir, p.proto, p.port, ex, false⟩)

def compileBlocks (blocks : List IPBlock) (self : U64) (dir : U8) (ports : List NpPort) :
    Acc → Except String Acc :=
  forEach blocks (compileBlock P self dir (expandPorts ports))

/-- The charges of `resolvePeers` for one peer. -/
def chargePeer (policyNs : String) (dir : U8) (peer : Peer) : Acc → Except String Acc :=
  andThen spend
    (if peer.ipBlock.isSome then .ok
      else forEach ((peerSel P nss policyNs dir peer).walked reg) fun _ => spend)

/-- The ids a rule admits; an empty peer list admits everything. -/
def ruleIDs (policyNs : String) (dir : U8) (rule : Rule) : List U64 :=
  if rule.peers.isEmpty then [npSrcAny]
  else rule.peers.flatMap fun peer =>
    if peer.ipBlock.isSome then [] else (peerSel P nss policyNs dir peer).ids reg

def ruleBlocks (rule : Rule) : List IPBlock := rule.peers.filterMap Peer.ipBlock

/-- The rule row of a subject and a peer id: the subject is the destination of an ingress
    rule and the source of an egress one. -/
def allowRow (dir : U8) (self peer : U64) (p : NpPort) : NPAllow :=
  if dir = npDirIn then ⟨self, peer, dir, p.proto, p.port, p.endPort⟩
  else ⟨peer, self, dir, p.proto, p.port, p.endPort⟩

/-- One rule of a policy, for the policy's subjects. -/
def compileRule (policyNs : String) (dir : U8) (subjects : List U64) (rule : Rule) :
    Acc → Except String Acc :=
  andThen (forEach rule.peers (chargePeer P nss reg policyNs dir))
    (if (npCompilePorts rule.ports).isEmpty then .ok
      else forEach subjects fun self =>
        andThen
          (forEach (ruleIDs P nss reg policyNs dir rule) fun peer =>
            forEach (npCompilePorts rule.ports) fun p => addAllow (allowRow dir self peer p))
          (compileBlocks P (ruleBlocks rule) self dir (npCompilePorts rule.ports)))

/-- `policyTypes`, recomputed when absent. -/
def hasIngress (np : NetworkPolicy) : Bool :=
  if np.policyTypes.isEmpty then true else np.policyTypes.contains .ingress

def hasEgress (np : NetworkPolicy) : Bool :=
  if np.policyTypes.isEmpty then np.egress.isSome else np.policyTypes.contains .egress

/-- The identities a policy selects. -/
def subjectsOf (holds : Labels → Bool) (np : NetworkPolicy) : List U64 :=
  (reg.filter fun e => e.2.ns == np.ns && holds e.2.lbls).map Prod.fst

def compilePolicy (np : NetworkPolicy) : Acc → Except String Acc :=
  match P.selector np.podSelector with
  | none => .ok
  | some holds =>
    let subjects := subjectsOf reg holds np
    andThen (forEach reg fun _ => spend) <|
    andThen (forEach subjects fun id =>
      andThen (if hasIngress np then addFlag id npIngIsolated else .ok)
        (if hasEgress np then addFlag id npEgIsolated else .ok)) <|
    andThen (if hasIngress np then
        forEach np.ingress (compileRule P nss reg np.ns npDirIn subjects) else .ok)
      (if hasEgress np then
        forEach (np.egress.getD []) (compileRule P nss reg np.ns npDirEg subjects) else .ok)

end Loops

/-- `datapath.NPIdent`, with the address in its map form. -/
structure NPIdent where
  ip : Addr
  id : U64
  flags : U32
  deriving DecidableEq

/-- The compiled rows. -/
structure NpCompiled where
  idents : List NPIdent
  allows : List NPAllow
  cidrs : List NPCidr

/-- The size of a selector. -/
def selectorWork : Option LabelSelector → Nat
  | none => 0
  | some s => s.matchLabels.length + s.matchExpressions.length +
      (s.matchExpressions.map fun e => e.values.length).sum

def peersWork (ps : List Peer) : Nat :=
  ps.length + (ps.map fun p => selectorWork p.podSelector + selectorWork p.namespaceSelector +
    match p.ipBlock with
    | some b => b.except.length + 1
    | none => 0).sum

def rulesWork (rs : List Rule) : Nat :=
  (rs.map fun r => 1 + r.ports.length + peersWork r.peers).sum

/-- Charge the input's own size. -/
def chargeInput (n work : Nat) : Except String Nat :=
  if npCompileWorkLimit < work + n then .error "NetworkPolicy input exceeds 1048576 operations"
  else .ok (work + n)

def npInputWork (pods : List Pod) (nss : List Namespace) (nps : List NetworkPolicy) :
    Except String Nat :=
  andThen (forEach pods fun p => chargeInput (p.labels.length + p.podIPs.length))
    (andThen (forEach nss fun ns => chargeInput ns.labels.length)
      (forEach nps fun np => chargeInput (selectorWork (some np.podSelector) +
        rulesWork np.ingress + rulesWork (np.egress.getD []))))
    (pods.length + nss.length + nps.length)

def identRow (P : Platform) (flags : U64 → U32) (pod : Pod) (ip : Addr) : NPIdent :=
  ⟨addr128 ip, pod.id P, flags (pod.id P)⟩

/-- One pod address; a text seen before, or one that does not parse, adds nothing. -/
def addIdent (P : Platform) (flags : U64 → U32) (pod : Pod) (text : String)
    (s : List String × List NPIdent) : Except String (List String × List NPIdent) :=
  match P.parseIP text with
  | none => .ok s
  | some ip =>
    if s.1.contains text then .ok s
    else if npCompileLimit ≤ s.2.length then
      .error "NetworkPolicy identities exceed 65536 rows"
    else .ok (text :: s.1, identRow P flags pod ip :: s.2)

def compileIdents (P : Platform) (flags : U64 → U32) (pods : List Pod) :
    Except String (List String × List NPIdent) :=
  forEach (pods.filter Pod.eligible)
    (fun pod => forEach pod.podIPs fun text => addIdent P flags pod text) ([], [])

/-- The policies as rows, within the budgets. -/
def compileNetworkPolicies (P : Platform) (pods : List Pod) (nss : List Namespace)
    (nps : List NetworkPolicy) : Except String NpCompiled :=
  if npCompileLimit < pods.length ∨ npCompileLimit < nss.length ∨ npCompileLimit < nps.length then
    .error "NetworkPolicy input exceeds 65536 objects per kind"
  else
    match npInputWork pods nss nps with
    | .error e => .error e
    | .ok work =>
      match forEach nps (compilePolicy P nss (registryOf P pods))
          ⟨work, fun _ => 0#32, [], []⟩ with
      | .error e => .error e
      | .ok acc =>
        match compileIdents P acc.flags pods with
        | .error e => .error e
        | .ok rows => .ok ⟨rows.2, acc.allows, acc.cidrs⟩

-- ── what a compilation emits

/-- Everything the accumulator collects. -/
inductive NpRow where
  | isolated (id : U64) (flag : U32)
  | allow (a : NPAllow)
  | cidr (c : NPCidr)

def Acc.view (a : Acc) : NpRow → Prop
  | .isolated id flag => hasBit (a.flags id) flag = true
  | .allow k => k ∈ a.allows
  | .cidr c => c ∈ a.cidrs

theorem spend_ok {a a' : Acc} (h : spend a = .ok a') : a' = { a with work := a.work + 1 } := by
  unfold spend at h
  split at h
  · nomatch h
  · exact (Except.ok.inj h).symm

theorem spend_adds : Adds Acc.view spend (fun _ => False) := by
  refine .silent fun a a' h r => ?_
  rw [spend_ok h]
  cases r <;> rfl

theorem spends_adds {α : Type} (xs : List α) :
    Adds Acc.view (forEach xs fun _ => spend) (fun _ => False) := by
  have h : Adds Acc.view (forEach xs fun _ => spend) (fun _ => ∃ x ∈ xs, False) :=
    Adds.forEach xs fun _ _ => spend_adds
  exact h.congr (by simp)

theorem addFlag_adds (id : U64) (flag : U32) :
    Adds Acc.view (addFlag id flag)
      (fun r => ∃ g, r = .isolated id g ∧ hasBit flag g = true) := by
  intro a a' h r
  cases h
  cases r with
  | allow k | cidr c => simp [Acc.view]
  | isolated i g =>
    show hasBit (Function.update a.flags id (a.flags id ||| flag) i) g = true ↔ _
    by_cases hi : i = id
    · subst hi
      rw [Function.update_self, hasBit_or]
      simp [Acc.view]
    · simp [Acc.view, hi]

theorem addAllow_adds (key : NPAllow) :
    Adds Acc.view (addAllow key) (fun r => r = .allow key) := by
  intro a a' h r
  unfold addAllow at h
  split at h
  · nomatch h
  rename_i b hs
  obtain rfl := spend_ok hs
  split at h
  · rename_i hin
    cases h
    have hmem : key ∈ a.allows := by simpa using hin
    cases r with
    | allow k =>
      refine ⟨.inl, fun hk => hk.elim id fun hk => ?_⟩
      rw [NpRow.allow.inj hk]
      exact hmem
    | cidr c | isolated i g => simp [Acc.view]
  · split at h
    · nomatch h
    cases h
    cases r with
    | allow k => simp [Acc.view, or_comm]
    | cidr c | isolated i g => simp [Acc.view]

theorem addCidr_adds (c : NPCidr) : Adds Acc.view (addCidr c) (fun r => r = .cidr c) := by
  intro a a' h r
  unfold addCidr at h
  split at h
  · nomatch h
  split at h
  · nomatch h
  rename_i b hs
  obtain rfl := spend_ok hs
  cases h
  cases r with
  | allow k | isolated i g => simp [Acc.view]
  | cidr d => simp [Acc.view, or_comm]

def BlockRows (P : Platform) (self : U64) (dir : U8) (ports : List NpPort) (b : IPBlock)
    (r : NpRow) : Prop :=
  ∃ cidr, P.parseCIDR b.cidr = some cidr ∧ ∃ p ∈ ports,
    r = .cidr ⟨self, dir, p.proto, p.port, cidr, true⟩ ∨
      ∃ text ∈ b.except, ∃ ex, P.parseCIDR text = some ex ∧
        r = .cidr ⟨self, dir, p.proto, p.port, ex, false⟩

theorem compileBlock_adds (P : Platform) (self : U64) (dir : U8) (ports : List NpPort)
    (b : IPBlock) :
    Adds Acc.view (compileBlock P self dir ports b) (BlockRows P self dir ports b) := by
  unfold compileBlock
  cases hb : P.parseCIDR b.cidr with
  | none => exact Adds.skip.congr (by simp [BlockRows, hb])
  | some cidr =>
    have hexcept : ∀ text ∈ b.except, Adds Acc.view
        (match P.parseCIDR text with
          | none => .ok
          | some ex => forEach ports fun p => addCidr ⟨self, dir, p.proto, p.port, ex, false⟩)
        (fun r => ∃ ex, P.parseCIDR text = some ex ∧ ∃ p ∈ ports,
          r = .cidr ⟨self, dir, p.proto, p.port, ex, false⟩) := by
      intro text _
      cases ht : P.parseCIDR text with
      | none => exact Adds.skip.congr (by simp)
      | some ex =>
        exact (Adds.forEach ports fun p _ => addCidr_adds _).congr (by simp)
    refine (Adds.seq (.forEach ports fun p _ => addCidr_adds _) (.forEach b.except hexcept)).congr
      fun r => ?_
    constructor
    · rintro (⟨p, hp, hr⟩ | ⟨text, ht, ex, hex, p, hp, hr⟩)
      · exact ⟨cidr, hb, p, hp, .inl hr⟩
      · exact ⟨cidr, hb, p, hp, .inr ⟨text, ht, ex, hex, hr⟩⟩
    · rintro ⟨c, hc, p, hp, hr | ⟨text, ht, ex, hex, hr⟩⟩
      · rw [hb] at hc
        cases hc
        exact .inl ⟨p, hp, hr⟩
      · exact .inr ⟨text, ht, ex, hex, p, hp, hr⟩

section Emission

variable (P : Platform) (nss : List Namespace) (reg : Registry)

theorem chargePeer_adds (policyNs : String) (dir : U8) (peer : Peer) :
    Adds Acc.view (chargePeer P nss reg policyNs dir peer) (fun _ => False) := by
  unfold chargePeer
  split
  · exact (Adds.seq spend_adds Adds.skip).congr (by simp)
  · exact (Adds.seq spend_adds (spends_adds _)).congr (by simp)

def RuleRows (policyNs : String) (dir : U8) (self : U64) (rule : Rule) (r : NpRow) : Prop :=
  (∃ peer ∈ ruleIDs P nss reg policyNs dir rule, ∃ p ∈ npCompilePorts rule.ports,
      r = .allow (allowRow dir self peer p)) ∨
    ∃ b ∈ ruleBlocks rule, BlockRows P self dir (expandPorts (npCompilePorts rule.ports)) b r

theorem compileRule_adds (policyNs : String) (dir : U8) (subjects : List U64) (rule : Rule) :
    Adds Acc.view (compileRule P nss reg policyNs dir subjects rule)
      (fun r => ∃ self ∈ subjects, RuleRows P nss reg policyNs dir self rule r) := by
  have hcharge : Adds Acc.view (forEach rule.peers (chargePeer P nss reg policyNs dir))
      (fun _ => False) := by
    have h : Adds Acc.view (forEach rule.peers (chargePeer P nss reg policyNs dir))
        (fun _ => ∃ x ∈ rule.peers, False) :=
      Adds.forEach rule.peers fun peer _ => chargePeer_adds P nss reg policyNs dir peer
    exact h.congr (by simp)
  unfold compileRule
  by_cases hempty : (npCompilePorts rule.ports).isEmpty = true
  · -- no port is served: nothing is emitted, and there is nothing to emit
    rw [if_pos hempty]
    have hnil : npCompilePorts rule.ports = [] := List.isEmpty_iff.mp hempty
    refine (Adds.seq hcharge Adds.skip).congr fun r => ?_
    simp [RuleRows, BlockRows, hnil, expandPorts]
  · rw [if_neg hempty]
    refine (Adds.seq hcharge (.forEach subjects fun self _ => .seq
      (.forEach _ fun peer _ => .forEach _ fun p _ => addAllow_adds _)
      (.forEach _ fun b _ => compileBlock_adds P self dir _ b))).congr fun r => ?_
    exact ⟨fun h => h.elim False.elim fun h => h, .inr⟩

def PolicyRows (np : NetworkPolicy) (r : NpRow) : Prop :=
  ∃ holds, P.selector np.podSelector = some holds ∧ ∃ self ∈ subjectsOf reg holds np,
    (hasIngress np = true ∧ ((∃ g, r = .isolated self g ∧ hasBit npIngIsolated g = true) ∨
      ∃ rule ∈ np.ingress, RuleRows P nss reg np.ns npDirIn self rule r)) ∨
    (hasEgress np = true ∧ ((∃ g, r = .isolated self g ∧ hasBit npEgIsolated g = true) ∨
      ∃ rule ∈ np.egress.getD [], RuleRows P nss reg np.ns npDirEg self rule r))

theorem adds_if {c : Bool} {step : Acc → Except String Acc} {rows : NpRow → Prop}
    (h : Adds Acc.view step rows) :
    Adds Acc.view (if c then step else .ok) (fun r => c = true ∧ rows r) := by
  cases c with
  | true => exact h.congr (by simp)
  | false => exact Adds.skip.congr (by simp)

theorem compilePolicy_adds (np : NetworkPolicy) :
    Adds Acc.view (compilePolicy P nss reg np) (PolicyRows P nss reg np) := by
  unfold compilePolicy
  cases hsel : P.selector np.podSelector with
  | none => exact Adds.skip.congr (by simp [PolicyRows, hsel])
  | some holds =>
    have hflags := Adds.forEach (subjectsOf reg holds np) fun id _ =>
      Adds.seq (adds_if (c := hasIngress np) (addFlag_adds id npIngIsolated))
        (adds_if (c := hasEgress np) (addFlag_adds id npEgIsolated))
    have hin := adds_if (c := hasIngress np) (.forEach np.ingress fun rule _ =>
      compileRule_adds P nss reg np.ns npDirIn (subjectsOf reg holds np) rule)
    have heg := adds_if (c := hasEgress np) (.forEach (np.egress.getD []) fun rule _ =>
      compileRule_adds P nss reg np.ns npDirEg (subjectsOf reg holds np) rule)
    refine (Adds.seq (spends_adds reg) (.seq hflags (.seq hin heg))).congr fun r => ?_
    constructor
    · rintro (h | ⟨self, hs, ⟨hi, h⟩ | ⟨he, h⟩⟩ | ⟨hi, rule, hr, self, hs, h⟩ |
        ⟨he, rule, hr, self, hs, h⟩)
      · exact h.elim
      · exact ⟨holds, hsel, self, hs, .inl ⟨hi, .inl h⟩⟩
      · exact ⟨holds, hsel, self, hs, .inr ⟨he, .inl h⟩⟩
      · exact ⟨holds, hsel, self, hs, .inl ⟨hi, .inr ⟨rule, hr, h⟩⟩⟩
      · exact ⟨holds, hsel, self, hs, .inr ⟨he, .inr ⟨rule, hr, h⟩⟩⟩
    · rintro ⟨holds', hsel', self, hs, hrow⟩
      rw [hsel] at hsel'
      cases hsel'
      rcases hrow with ⟨hi, h | ⟨rule, hr, h⟩⟩ | ⟨he, h | ⟨rule, hr, h⟩⟩
      · exact .inr (.inl ⟨self, hs, .inl ⟨hi, h⟩⟩)
      · exact .inr (.inr (.inl ⟨hi, rule, hr, self, hs, h⟩))
      · exact .inr (.inl ⟨self, hs, Or.inr ⟨he, h⟩⟩)
      · exact Or.inr (Or.inr (Or.inr ⟨he, rule, hr, self, hs, h⟩))

end Emission

/-- An eligible pod has the address, in its map form. -/
def Pod.owns (P : Platform) (pod : Pod) (a : Addr) : Prop :=
  pod.eligible = true ∧ ∃ text ∈ pod.podIPs, ∃ ip, P.parseIP text = some ip ∧ addr128 ip = a

/-- The row belongs to an address of the pod. -/
def IdentOf (P : Platform) (flags : U64 → U32) (pod : Pod) (r : NPIdent) : Prop :=
  pod.owns P r.ip ∧ r.id = pod.id P ∧ r.flags = flags (pod.id P)

/-- What the identity loop has built: rows of the pods read, and a row for the address of
    every text seen. -/
structure IdentsOf (P : Platform) (flags : U64 → U32) (pods : List Pod)
    (s : List String × List NPIdent) : Prop where
  sound : ∀ r ∈ s.2, ∃ pod ∈ pods, IdentOf P flags pod r
  seen : ∀ text ∈ s.1, ∀ ip, P.parseIP text = some ip → ∃ r ∈ s.2, r.ip = addr128 ip

theorem addIdent_ok {flags : U64 → U32} {pod : Pod} {text : String}
    {s s' : List String × List NPIdent} (hs : IdentsOf P flags pods s) (hpod : pod ∈ pods)
    (helig : pod.eligible = true) (ht : text ∈ pod.podIPs)
    (h : addIdent P flags pod text s = .ok s') :
    IdentsOf P flags pods s' ∧ s.1 ⊆ s'.1 ∧ ∀ ip, P.parseIP text = some ip → text ∈ s'.1 := by
  unfold addIdent at h
  split at h
  · rename_i hnone
    cases h
    exact ⟨hs, List.Subset.refl _, fun ip hip => nomatch hnone.symm.trans hip⟩
  rename_i ip hip
  split at h
  · rename_i hseen
    cases h
    exact ⟨hs, List.Subset.refl _, fun _ _ => by simpa using hseen⟩
  split at h
  · nomatch h
  cases h
  refine ⟨⟨fun r hr => ?_, fun t htext ip' hip' => ?_⟩, List.subset_cons_self _ _,
    fun _ _ => .head _⟩
  · rcases List.mem_cons.mp hr with rfl | hr
    · exact ⟨pod, hpod, ⟨helig, text, ht, ip, hip, rfl⟩, rfl, rfl⟩
    · exact hs.sound r hr
  · rcases List.mem_cons.mp htext with rfl | htext
    · cases hip.symm.trans hip'
      exact ⟨_, .head _, rfl⟩
    · obtain ⟨r, hr, he⟩ := hs.seen t htext ip' hip'
      exact ⟨r, .tail _ hr, he⟩

/-- **IDENTITY ROWS**: each belongs to an eligible pod's address, and every such address has
    one. -/
theorem compileIdents_spec {flags : U64 → U32} {rows : List String × List NPIdent}
    (h : compileIdents P flags pods = .ok rows) :
    (∀ r ∈ rows.2, ∃ pod ∈ pods, IdentOf P flags pod r) ∧
      ∀ pod ∈ pods, ∀ a, pod.owns P a → ∃ r ∈ rows.2, r.ip = a := by
  have hpod : ∀ pod ∈ pods.filter Pod.eligible, ∀ s s', IdentsOf P flags pods s →
      forEach pod.podIPs (fun text => addIdent P flags pod text) s = .ok s' →
      IdentsOf P flags pods s' ∧ s.1 ⊆ s'.1 ∧ ∀ text ∈ pod.podIPs, ∀ ip,
        P.parseIP text = some ip → text ∈ s'.1 := by
    intro pod hp
    obtain ⟨hmem, helig⟩ := List.mem_filter.mp hp
    exact forEach_establishes (fun _ => List.Subset.refl _) (fun _ _ _ => List.Subset.trans)
      (fun _ _ _ hle hseen ip hip => hle (hseen ip hip))
      fun text ht s s' hs hstep => addIdent_ok hs hmem helig ht hstep
  obtain ⟨hI, -, hall⟩ := @forEach_establishes _ _ _ _ _ (IdentsOf P flags pods)
    (fun s s' => s.1 ⊆ s'.1) (fun pod s => ∀ text ∈ pod.podIPs, ∀ ip, P.parseIP text = some ip →
      text ∈ s.1) (fun _ => List.Subset.refl _) (fun _ _ _ => List.Subset.trans)
    (fun _ _ _ hle hseen text ht ip hip => hle (hseen text ht ip hip)) hpod ([], []) rows
    ⟨nofun, nofun⟩ h
  refine ⟨hI.sound, ?_⟩
  rintro pod hp a ⟨helig, text, ht, ip, hip, rfl⟩
  exact hI.seen text (hall pod (List.mem_filter.mpr ⟨hp, helig⟩) text ht ip hip) ip hip

variable {nss : List Namespace} {nps : List NetworkPolicy}

theorem compile_ok {c : NpCompiled} (h : compileNetworkPolicies P pods nss nps = .ok c) :
    ∃ work acc rows,
      forEach nps (compilePolicy P nss (registryOf P pods)) ⟨work, fun _ => 0#32, [], []⟩ = .ok acc ∧
      compileIdents P acc.flags pods = .ok rows ∧ c = ⟨rows.2, acc.allows, acc.cidrs⟩ := by
  unfold compileNetworkPolicies at h
  split at h
  · nomatch h
  split at h
  · nomatch h
  rename_i work _
  split at h
  · nomatch h
  rename_i acc ha
  split at h
  · nomatch h
  rename_i rows hi
  exact ⟨work, acc, rows, ha, hi, (Except.ok.inj h).symm⟩

theorem flags_iff {reg : Registry} {work : Nat} {acc : Acc}
    (h : forEach nps (compilePolicy P nss reg) ⟨work, fun _ => 0#32, [], []⟩ = .ok acc) (id : U64)
    (g : U32) :
    hasBit (acc.flags id) g = true ↔ ∃ np ∈ nps, PolicyRows P nss reg np (.isolated id g) := by
  simpa [Acc.view, hasBit] using
    Adds.forEach nps (fun np _ => compilePolicy_adds P nss reg np) _ _ h (.isolated id g)

/-- **WHAT A SUCCESSFUL COMPILATION HOLDS**: the rules and ranges of the policies, and the pods'
    identity rows under their isolation flags. -/
theorem compile_rows {c : NpCompiled} (h : compileNetworkPolicies P pods nss nps = .ok c) :
    ∃ flags : U64 → U32,
      (∀ id g, hasBit (flags id) g = true ↔
        ∃ np ∈ nps, PolicyRows P nss (registryOf P pods) np (.isolated id g)) ∧
      (∀ k, k ∈ c.allows ↔ ∃ np ∈ nps, PolicyRows P nss (registryOf P pods) np (.allow k)) ∧
      (∀ d, d ∈ c.cidrs ↔ ∃ np ∈ nps, PolicyRows P nss (registryOf P pods) np (.cidr d)) ∧
      (∀ r ∈ c.idents, ∃ pod ∈ pods, IdentOf P flags pod r) ∧
      ∀ pod ∈ pods, ∀ a, pod.owns P a → ∃ r ∈ c.idents, r.ip = a := by
  obtain ⟨work, acc, rows, ha, hi, rfl⟩ := compile_ok h
  have hrows := Adds.forEach nps
    (fun np _ => compilePolicy_adds P nss (registryOf P pods) np) _ _ ha
  refine ⟨acc.flags, flags_iff ha, fun k => ?_, fun d => ?_, (compileIdents_spec hi).1,
    (compileIdents_spec hi).2⟩
  · simpa [Acc.view] using hrows (.allow k)
  · simpa [Acc.view] using hrows (.cidr d)

end CozyNpCompile
