import Cozyplane.SgCidrProofs
import Cozyplane.SgMembersProofs

/-!
# SecurityGroup ingress — which addresses a CIDR rule admits

The agent compiles an ingress rule in one of three ways. A rule from a GROUP becomes rows of `sg_rules`
with the group's bit. A rule from a CIDR becomes rows of `sg_cidr`, whose keys carry the family. The
all-address CIDRs `0.0.0.0/0` and `::/0` become rows of `sg_rules` with the bit of the pseudo-group
`SG_WORLD`, and that bit stands for every north-south client: it has NO FAMILY.
-/

namespace CozySgIngress

open PrefixTable KernelMap Accumulate CozyPacket CozyMaps CozyPolicy CozyCidr CozyPolicySnapshot
open CozySgCidr
open CozySgMembers (InRange shift_getLsbD and_ne_zero and_shift_ne_zero)
open CozyBoundaryCompile (VPCRef validVNI vniOf)

/-- The name checks of `vpnlimits` and `net.ParseCIDR`, with what it answers for no text and for the
    two all-address texts. -/
structure Texts where
  namespaceName : String → Bool
  objectName : String → Bool
  parseCIDR : String → Option IPNet
  parse_empty : parseCIDR "" = none
  parse_any4 : parseCIDR "0.0.0.0/0" = some (.mask4 0#32 0)
  parse_any6 : parseCIDR "::/0" = some (.mask16 0#128 0)

/-- `SecurityGroupPort`. -/
structure PortSpec where
  protocol : String
  port : Int
  deriving DecidableEq

/-- `SecurityGroupPeer`. -/
structure Peer where
  group : String
  vpc : Option VPCRef
  cidr : String
  deriving DecidableEq

/-- An ingress rule. -/
structure Ingress where
  peer : Peer
  ports : List PortSpec
  deriving DecidableEq

/-- What is compiled of a SecurityGroup. -/
structure SecurityGroup where
  ns : String
  name : String
  vpc : String
  deleting : Bool
  id : Int
  ingress : List Ingress
  deriving DecidableEq

def SecurityGroup.localRef (g : SecurityGroup) : VPCRef := ⟨g.ns, g.vpc⟩

/-- `netid.Group`. -/
def groupOf (v : Int) : U16 := if v < 1 ∨ 62 < v then 0#16 else BitVec.ofInt 16 v

/-- The filter of both loops over the groups. -/
def live (X : Texts) (g : SecurityGroup) : Bool :=
  !g.deleting && 0 < g.id && g.id < 63 && X.namespaceName g.ns && X.objectName g.vpc

/-- `nameID`: a later group of the same name overwrites an earlier one. -/
def nameID (X : Texts) (groups : List SecurityGroup) : VPCRef → String → Option U16 :=
  groups.foldl (fun ids g => if live X g then
    fun k name => if k = g.localRef ∧ name = g.name then some (groupOf g.id) else ids k name
    else ids) fun _ _ => none

/-- `vpnlimits.GroupReference`. -/
def groupReference (X : Texts) (group ns name : String) : Bool :=
  X.objectName group && ((ns = "" && name = "") || (X.namespaceName ns && X.objectName name))

def securityGroupPeerReference (X : Texts) (peer : Peer) : Bool :=
  match peer.vpc with
  | none => groupReference X peer.group "" ""
  | some v => X.namespaceName v.ns && groupReference X peer.group v.ns v.name

def isAnyCIDR (c : String) : Bool := c = "0.0.0.0/0" || c = "::/0"

def compileSGPort (pp : PortSpec) : Option (U8 × U16) :=
  if pp.port < 0 ∨ 65535 < pp.port then none
  else if pp.protocol = "TCP" then some (ipprotoTcp, BitVec.ofInt 16 pp.port)
  else if pp.protocol = "UDP" then some (ipprotoUdp, BitVec.ofInt 16 pp.port)
  else none

/-- The protocols and ports of a rule; none listed is any port of both. -/
def compilePorts (ports : List PortSpec) : List (U8 × U16) :=
  if ports = [] then [(ipprotoTcp, 0#16), (ipprotoUdp, 0#16)] else ports.filterMap compileSGPort

def compileRulePorts (net srcNet : U32) (group : U16) (allowed : U64) (ports : List PortSpec) :
    List SGRule :=
  (compilePorts ports).map fun x => ⟨net, srcNet, group, x.1, x.2, allowed⟩

def compileCidrPorts (net : U32) (cidr : IPNet) (allowedGroups : U64) (ports : List PortSpec) :
    List SGCidr :=
  (compilePorts ports).map fun x => ⟨net, x.1, x.2, some cidr, allowedGroups⟩

/-- `netid.VNI` of a VPC that the lister has with a valid VNI. -/
def vpcNet (vpcs : VPCRef → Option Int) (ref : VPCRef) : Option U32 :=
  match vpcs ref with
  | none => none
  | some vni => if validVNI vni then some (vniOf vni) else none

/-- The body of the loop over `sg.Spec.Ingress`. -/
def compileIngress (X : Texts) (vpcs : VPCRef → Option Int) (ids : VPCRef → String → Option U16)
    (g : SecurityGroup) (net : U32) (ing : Ingress) : List SGRule × List SGCidr :=
  if ing.peer.group ≠ "" then
    if !securityGroupPeerReference X ing.peer then ([], [])
    else
      let src := match ing.peer.vpc with
        | none => some (g.localRef, net)
        | some v => (vpcNet vpcs v).map fun srcNet => (v, srcNet)
      match src with
      | none => ([], [])
      | some (srcKey, srcNet) =>
        match ids srcKey ing.peer.group with
        | none => ([], [])
        | some id =>
          (compileRulePorts net srcNet (groupOf g.id) (1#64 <<< id.toNat) ing.ports, [])
  else if isAnyCIDR ing.peer.cidr then
    (compileRulePorts net net (groupOf g.id) sgWorld ing.ports, [])
  else if ing.peer.cidr ≠ "" then
    match X.parseCIDR ing.peer.cidr with
    | none => ([], [])
    | some c => ([], compileCidrPorts net c (1#64 <<< (groupOf g.id).toNat) ing.ports)
  else ([], [])

/-- One round of the second loop over the groups. -/
def compileGroup (X : Texts) (vpcs : VPCRef → Option Int) (ids : VPCRef → String → Option U16)
    (g : SecurityGroup) : List (List SGRule × List SGCidr) :=
  if live X g then
    match vpcNet vpcs g.localRef with
    | none => []
    | some net => g.ingress.map (compileIngress X vpcs ids g net)
  else []

/-- The ingress half of `watchSecurityGroups`' compilation. -/
def compile (X : Texts) (vpcs : VPCRef → Option Int) (groups : List SecurityGroup) :
    List SGRule × List SGCidr :=
  let rows := groups.flatMap (compileGroup X vpcs (nameID X groups))
  (rows.flatMap Prod.fst, rows.flatMap Prod.snd)

def Names (text : String) (proto : U8) : Prop :=
  text = "TCP" ∧ proto = ipprotoTcp ∨ text = "UDP" ∧ proto = ipprotoUdp

/-- The rule admits the protocol and port: it lists none, or the port, or any port. -/
def Ingress.Admits (ing : Ingress) (proto : U8) (port : U16) : Prop :=
  ing.ports = [] ∧ (proto = ipprotoTcp ∨ proto = ipprotoUdp) ∨
    ∃ pp ∈ ing.ports, Names pp.protocol proto ∧ (pp.port = port.toNat ∨ pp.port = 0)

/-- A live group of the pod's network, in its bitmap. -/
def Member (X : Texts) (vpcs : VPCRef → Option Int) (net : U32) (bitmap : U64) (g : SecurityGroup) :
    Prop :=
  live X g = true ∧ vpcNet vpcs g.localRef = some net ∧ bitmap.getLsbD g.id.toNat = true

/-- The rule is from a CIDR that contains the address. -/
def Contains (X : Texts) (s : Ip) (ing : Ingress) : Prop :=
  ing.peer.group = "" ∧ ∃ c, X.parseCIDR ing.peer.cidr = some c ∧ c.contains s = true

/-- The rule is from all addresses of the other family. -/
def OtherWorld (s : Ip) (ing : Ingress) : Prop :=
  ing.peer.group = "" ∧ ing.peer.cidr = if s.isV4 then "::/0" else "0.0.0.0/0"

/-- One of the pod's groups has a rule `R` for the port. -/
def Open (X : Texts) (vpcs : VPCRef → Option Int) (groups : List SecurityGroup) (net : U32)
    (bitmap : U64) (proto : U8) (port : U16) (R : Ingress → Prop) : Prop :=
  ∃ g ∈ groups, Member X vpcs net bitmap g ∧ ∃ ing ∈ g.ingress, R ing ∧ ing.Admits proto port

theorem compileSGPort_iff (pp : PortSpec) (proto : U8) (port : U16) :
    compileSGPort pp = some (proto, port) ↔ Names pp.protocol proto ∧ pp.port = port.toNat := by
  unfold compileSGPort Names
  by_cases hr : pp.port < 0 ∨ 65535 < pp.port
  · rw [if_pos hr]
    refine iff_of_false (nomatch ·) ?_
    rintro ⟨-, hp⟩
    omega
  have hport : BitVec.ofInt 16 pp.port = port ↔ pp.port = port.toNat := by
    rw [← BitVec.toNat_inj, BitVec.toNat_ofInt]
    omega
  rw [if_neg hr]
  split
  · rename_i htcp
    rw [htcp, ← hport]
    simp [eq_comm]
  rename_i htcp
  split
  · rename_i hudp
    rw [hudp, ← hport]
    simp [eq_comm]
  · rename_i hudp
    exact iff_of_false (nomatch ·) fun h => h.1.elim (fun h => htcp h.1) fun h => hudp h.1

theorem admits_iff (ing : Ingress) (proto : U8) (port : U16) :
    ing.Admits proto port ↔
      (proto, port) ∈ compilePorts ing.ports ∨ (proto, 0#16) ∈ compilePorts ing.ports := by
  unfold Ingress.Admits compilePorts
  split
  · rename_i hnil
    rw [hnil]
    simp only [List.mem_cons, List.not_mem_nil, or_false, Prod.mk.injEq, true_and, false_and,
      exists_false]
    constructor
    · rintro (rfl | rfl)
      · exact .inr (.inl ⟨rfl, trivial⟩)
      · exact .inr (.inr ⟨rfl, trivial⟩)
    · rintro ((h | h) | h | h)
      · exact .inl h.1
      · exact .inr h.1
      · exact .inl h.1
      · exact .inr h.1
  · rename_i hnil
    simp only [List.mem_filterMap, compileSGPort_iff, hnil, false_and, false_or]
    constructor
    · rintro ⟨pp, hpp, hn, hp | hp⟩
      · exact .inl ⟨pp, hpp, hn, hp⟩
      · exact .inr ⟨pp, hpp, hn, hp⟩
    · rintro (⟨pp, hpp, hn, hp⟩ | ⟨pp, hpp, hn, hp⟩)
      · exact ⟨pp, hpp, hn, .inl hp⟩
      · exact ⟨pp, hpp, hn, .inr hp⟩

theorem live_inRange {X : Texts} {g : SecurityGroup} (h : live X g = true) : InRange g.id := by
  simp only [live, Bool.and_eq_true, decide_eq_true_eq] at h
  exact ⟨h.1.1.1.2, h.1.1.2⟩

theorem groupOf_toNat {id : Int} (h : InRange id) : (groupOf id).toNat = id.toNat := by
  obtain ⟨hpos, hlt⟩ := h
  have hlt : id < 63 := hlt
  unfold groupOf
  rw [if_neg (by omega), BitVec.toNat_ofInt]
  omega

theorem nameID_lt {X : Texts} {groups : List SecurityGroup} {k : VPCRef} {name : String} {id : U16}
    (h : nameID X groups k name = some id) : id.toNat < 63 := by
  induction groups using List.reverseRecOn generalizing id with
  | nil => nomatch h
  | append_singleton groups g ih =>
    unfold nameID at h
    rw [List.foldl_append, List.foldl_cons, List.foldl_nil] at h
    split at h
    · next hlive =>
      dsimp only at h
      split at h
      · cases h
        have hin := live_inRange hlive
        have hlt : g.id < 63 := hin.2
        rw [groupOf_toNat hin]
        omega
      · exact ih h
    · exact ih h

section

variable {X : Texts} {vpcs : VPCRef → Option Int} {groups : List SecurityGroup}

variable {ids : VPCRef → String → Option U16}

theorem mem_compiled {x : List SGRule × List SGCidr} :
    x ∈ groups.flatMap (compileGroup X vpcs ids) ↔ ∃ g ∈ groups, live X g = true ∧
      ∃ net, vpcNet vpcs g.localRef = some net ∧ ∃ ing ∈ g.ingress,
        x = compileIngress X vpcs ids g net ing := by
  rw [List.mem_flatMap]
  refine exists_congr fun g => and_congr_right fun _ => ?_
  unfold compileGroup
  cases hlive : live X g with
  | false => exact ⟨(nomatch ·), (nomatch ·.1)⟩
  | true =>
    cases hnet : vpcNet vpcs g.localRef with
    | none => exact ⟨(nomatch ·), fun ⟨_, _, h, _⟩ => nomatch h⟩
    | some net =>
      constructor
      · intro h
        obtain ⟨ing, hing, rfl⟩ := List.mem_map.mp h
        exact ⟨rfl, net, rfl, ing, hing, rfl⟩
      · rintro ⟨-, net', hnet', ing, hing, rfl⟩
        cases hnet'
        exact List.mem_map_of_mem hing

theorem ingress_world (hids : ∀ k n id, ids k n = some id →
    id.toNat < 63) (g : SecurityGroup) (net : U32) (ing : Ingress) (r : SGRule) :
    (r ∈ (compileIngress X vpcs ids g net ing).1 ∧ r.allowed.getLsbD 63 = true) ↔
      (ing.peer.group = "" ∧ isAnyCIDR ing.peer.cidr = true) ∧ ∃ x ∈ compilePorts ing.ports,
        r = ⟨net, net, groupOf g.id, x.1, x.2, sgWorld⟩ := by
  unfold compileIngress
  by_cases hgroup : ing.peer.group = ""
  · rw [if_neg (not_not_intro hgroup)]
    split
    · rename_i hany
      constructor
      · rintro ⟨hr, -⟩
        obtain ⟨x, hx, rfl⟩ := List.mem_map.mp hr
        exact ⟨⟨hgroup, hany⟩, x, hx, rfl⟩
      · rintro ⟨-, x, hx, rfl⟩
        have hbit : sgWorld.getLsbD 63 = true := by decide
        exact ⟨List.mem_map_of_mem hx, hbit⟩
    · rename_i hany
      refine iff_of_false ?_ fun h => hany h.1.2
      split
      · split
        · exact (nomatch ·.1)
        · exact (nomatch ·.1)
      · exact (nomatch ·.1)
  · rw [if_pos hgroup]
    refine iff_of_false ?_ fun h => hgroup h.1.1
    rintro ⟨hr, hbit⟩
    split at hr
    · nomatch hr
    dsimp only at hr
    split at hr
    · nomatch hr
    split at hr
    · nomatch hr
    next id hid =>
    obtain ⟨x, -, rfl⟩ := List.mem_map.mp hr
    have hlt := hids _ _ _ hid
    have hsub : 63 - id.toNat ≠ 0 := by omega
    simp [hsub] at hbit

theorem ingress_cidr (g : SecurityGroup) (net : U32) (ing : Ingress) (e : SGCidr) :
    e ∈ (compileIngress X vpcs ids g net ing).2 ↔
      (ing.peer.group = "" ∧ isAnyCIDR ing.peer.cidr = false) ∧ ∃ c, X.parseCIDR ing.peer.cidr = some c ∧
        ∃ x ∈ compilePorts ing.ports, e = ⟨net, x.1, x.2, some c, 1#64 <<< (groupOf g.id).toNat⟩ := by
  unfold compileIngress
  by_cases hgroup : ing.peer.group = ""
  · rw [if_neg (not_not_intro hgroup)]
    split
    · rename_i hany
      exact iff_of_false (nomatch ·) fun h => nomatch hany.symm.trans h.1.2
    rename_i hany
    by_cases hcidr : ing.peer.cidr = ""
    · rw [if_neg (not_not_intro hcidr), hcidr, X.parse_empty]
      exact iff_of_false (nomatch ·) fun ⟨_, _, h, _⟩ => nomatch h
    rw [if_pos hcidr]
    cases hc : X.parseCIDR ing.peer.cidr with
    | none => exact iff_of_false (nomatch ·) fun ⟨_, _, h, _⟩ => nomatch h
    | some c =>
      constructor
      · intro he
        obtain ⟨x, hx, rfl⟩ := List.mem_map.mp he
        exact ⟨⟨hgroup, Bool.eq_false_of_not_eq_true hany⟩, c, rfl, x, hx, rfl⟩
      · rintro ⟨-, c', hc', x, hx, rfl⟩
        cases hc'
        exact List.mem_map_of_mem hx
  · rw [if_pos hgroup]
    refine iff_of_false ?_ fun h => hgroup h.1.1
    split
    · exact (nomatch ·)
    dsimp only
    split
    · exact (nomatch ·)
    split
    · exact (nomatch ·)
    · exact (nomatch ·)

-- ── the gate

theorem sgAllowed_bit (rules : SgRuleKey → Option U64) (subject other : U32) (bitmap : U64) (proto : U8)
    (port : U16) (i : Nat) :
    (sgAllowed rules subject other bitmap proto port).getLsbD i = true ↔
      ∃ g, (1 ≤ g ∧ g < 63) ∧ bitmap.getLsbD g = true ∧
        (((rules ⟨subject, other, g, port, proto⟩).getD 0#64).getLsbD i = true ∨
          ((rules ⟨subject, other, g, 0#16, proto⟩).getD 0#64).getLsbD i = true) := by
  have hstep : (fun (acc : U64) g => if bitmap.getLsbD g then
      acc ||| (rules ⟨subject, other, g, port, proto⟩).getD 0#64
          ||| (rules ⟨subject, other, g, 0#16, proto⟩).getD 0#64 else acc) =
      fun acc g => acc ||| if bitmap.getLsbD g then (rules ⟨subject, other, g, port, proto⟩).getD 0#64 |||
        (rules ⟨subject, other, g, 0#16, proto⟩).getD 0#64 else 0#64 := by
    funext acc g
    split
    · exact BitVec.or_assoc ..
    · exact BitVec.or_zero.symm
  unfold sgAllowed
  rw [hstep, or_bit, or_iff_right (by simp)]
  refine exists_congr fun g => and_congr (List.mem_range'_1) ?_
  split
  · next h => rw [BitVec.getLsbD_or, Bool.or_eq_true, and_iff_right h]
  · next h => exact iff_of_false (by simp) fun h' => h h'.1

theorem syncSGRules_bit {rules : List SGRule} {want : KMap SgRuleKey U64}
    (h : syncSGRules rules = .ok want) (k : SgRuleKey) (i : Nat) :
    ((want.lookup k).getD 0#64).getLsbD i = true ↔
      ∃ r ∈ rules, k = ⟨r.net, r.srcNet, r.group.toNat, r.port, r.proto⟩ ∧ r.allowed.getLsbD i = true :=
  (Adds.forEach rules (fun r _ => orDesired_adds sgRulesEntries
    (⟨r.net, r.srcNet, r.group.toNat, r.port, r.proto⟩ : SgRuleKey) r.allowed) _ _ h (k, i)).trans
    (or_iff_right (by simp [HasBit]))

/-- The maps hold what was compiled; the guard is down. -/
structure Applied (X : Texts) (vpcs : VPCRef → Option Int) (groups : List SecurityGroup) (m : Maps) :
    Prop where
  rules : ∃ want, syncSGRules (compile X vpcs groups).1 = .ok want ∧ m.sgRules = want.lookup
  cidrs : ∃ want, syncSGCidr (compile X vpcs groups).2 = .ok want ∧ m.sgCidr = mapTable want
  ready : m.params cfgSgUpdating = 0#32

theorem world_iff {m : Maps} (h : Applied X vpcs groups m) (net : U32) (bitmap : U64) (proto : U8)
    (port : U16) :
    sgAllowed m.sgRules net net bitmap proto port &&& sgWorld ≠ 0#64 ↔
      Open X vpcs groups net bitmap proto port fun ing =>
        ing.peer.group = "" ∧ isAnyCIDR ing.peer.cidr = true := by
  obtain ⟨want, hsync, hrules⟩ := h.rules
  have hrow : ∀ g p, ((m.sgRules ⟨net, net, g, p, proto⟩).getD 0#64).getLsbD 63 = true ↔
      ∃ sg ∈ groups, live X sg = true ∧ vpcNet vpcs sg.localRef = some net ∧ sg.id.toNat = g ∧
        ∃ ing ∈ sg.ingress, (ing.peer.group = "" ∧ isAnyCIDR ing.peer.cidr = true) ∧
          (proto, p) ∈ compilePorts ing.ports := by
    intro g p
    rw [hrules, syncSGRules_bit hsync]
    constructor
    · rintro ⟨r, hr, hk, hbit⟩
      obtain ⟨x, hx, hr⟩ := List.mem_flatMap.mp hr
      obtain ⟨sg, hsg, hlive, net', hnet, ing, hing, rfl⟩ := mem_compiled.mp hx
      obtain ⟨hany, y, hy, rfl⟩ := (ingress_world (fun _ _ _ => nameID_lt) ..).mp ⟨hr, hbit⟩
      obtain ⟨rfl, -, hg, rfl, rfl⟩ := SgRuleKey.mk.inj hk
      exact ⟨sg, hsg, hlive, hnet, (groupOf_toNat (live_inRange hlive)).symm.trans hg.symm, ing, hing, hany,
        hy⟩
    · rintro ⟨sg, hsg, hlive, hnet, rfl, ing, hing, hany, hy⟩
      obtain ⟨hr, hbit⟩ : (⟨net, net, groupOf sg.id, proto, p, sgWorld⟩ : SGRule) ∈
          (compileIngress X vpcs (nameID X groups) sg net ing).1 ∧ sgWorld.getLsbD 63 = true :=
        (ingress_world (fun _ _ _ => nameID_lt) ..).mpr ⟨hany, _, hy, rfl⟩
      refine ⟨_, List.mem_flatMap.mpr ⟨_, mem_compiled.mpr ⟨sg, hsg, hlive, net, hnet, ing, hing, rfl⟩, hr⟩,
        ?_, hbit⟩
      rw [groupOf_toNat (live_inRange hlive)]
  have hworld := and_shift_ne_zero (n := 63) (by omega)
    (sgAllowed m.sgRules net net bitmap proto port)
  refine hworld.trans ((sgAllowed_bit ..).trans ?_)
  constructor
  · rintro ⟨g, -, hbit, hfound⟩
    rw [hrow, hrow] at hfound
    rcases hfound with ⟨sg, hsg, hlive, hnet, rfl, ing, hing, hany, hp⟩ |
      ⟨sg, hsg, hlive, hnet, rfl, ing, hing, hany, hp⟩
    · exact ⟨sg, hsg, ⟨hlive, hnet, hbit⟩, ing, hing, hany, (admits_iff ..).mpr (.inl hp)⟩
    · exact ⟨sg, hsg, ⟨hlive, hnet, hbit⟩, ing, hing, hany, (admits_iff ..).mpr (.inr hp)⟩
  · rintro ⟨sg, hsg, ⟨hlive, hnet, hbit⟩, ing, hing, hany, hadm⟩
    obtain ⟨hpos, hlt⟩ := live_inRange hlive
    have hlt : sg.id < 63 := hlt
    refine ⟨sg.id.toNat, by omega, hbit, ?_⟩
    rw [hrow, hrow]
    exact ((admits_iff ..).mp hadm).imp (fun hp => ⟨sg, hsg, hlive, hnet, rfl, ing, hing, hany, hp⟩)
      fun hp => ⟨sg, hsg, hlive, hnet, rfl, ing, hing, hany, hp⟩

theorem cidr_iff {m : Maps} (h : Applied X vpcs groups m) (net : U32) (bitmap : U64) (proto : U8)
    (port : U16) (s : Ip) :
    cidrRuleHit m.sgCidr net port (cidrProto proto (!s.isV4)) s.key bitmap = true ↔
      Open X vpcs groups net bitmap proto port fun ing =>
        (ing.peer.group = "" ∧ isAnyCIDR ing.peer.cidr = false) ∧
          ∃ c, X.parseCIDR ing.peer.cidr = some c ∧ c.contains s = true := by
  obtain ⟨want, hsync, hcidrs⟩ := h.cidrs
  rw [cidrRuleHit_iff, hcidrs, and_ne_zero]
  constructor
  · rintro ⟨i, hi, hbit⟩
    obtain ⟨item, hitem, ⟨hnet, hproto, hport, c, hc, hin⟩, hgroup⟩ := (cidrGroups_bit hsync ..).mp hi
    obtain ⟨e, he, rfl⟩ := List.mem_map.mp hitem
    obtain ⟨x, hx, he⟩ := List.mem_flatMap.mp he
    obtain ⟨sg, hsg, hlive, net', hnet', ing, hing, rfl⟩ := mem_compiled.mp hx
    obtain ⟨hspec, c', hc', y, hy, rfl⟩ := (ingress_cidr ..).mp he
    obtain rfl : net' = net := hnet
    obtain rfl : y.1 = proto := hproto
    obtain rfl := Option.some.inj hc
    have hrange := live_inRange hlive
    have hid := groupOf_toNat hrange
    have hi' : i = sg.id.toNat := by
      have hone : (1#64 <<< (groupOf sg.id).toNat).getLsbD i = true := hgroup
      rw [hid, shift_getLsbD (CozySgMembers.toNat_lt hrange), decide_eq_true_eq] at hone
      exact hone
    refine ⟨sg, hsg, ⟨hlive, hnet', hi' ▸ hbit⟩, ing, hing, ⟨hspec, c', hc', hin⟩, (admits_iff ..).mpr ?_⟩
    rcases hport with hp | hp
    · exact .inl ((show y.2 = port from hp) ▸ hy)
    · exact .inr ((show y.2 = 0#16 from hp) ▸ hy)
  · rintro ⟨sg, hsg, ⟨hlive, hnet, hbit⟩, ing, hing, ⟨hspec, c, hc, hin⟩, hadm⟩
    have hrange := live_inRange hlive
    have hone : (1#64 <<< (groupOf sg.id).toNat).getLsbD sg.id.toNat = true := by
      rw [groupOf_toNat hrange, shift_getLsbD (CozySgMembers.toNat_lt hrange)]
      exact decide_eq_true rfl
    have hrow : ∀ p, (proto, p) ∈ compilePorts ing.ports →
        (⟨net, proto, p, some c, 1#64 <<< (groupOf sg.id).toNat⟩ : SGCidr) ∈ (compile X vpcs groups).2 :=
      fun p hp => List.mem_flatMap.mpr ⟨_, mem_compiled.mpr ⟨sg, hsg, hlive, net, hnet, ing, hing, rfl⟩,
        (ingress_cidr ..).mpr ⟨hspec, c, hc, _, hp, rfl⟩⟩
    refine ⟨sg.id.toNat, (cidrGroups_bit hsync ..).mpr ?_, hbit⟩
    rcases (admits_iff ..).mp hadm with hp | hp
    · exact ⟨_, List.mem_map_of_mem (hrow _ hp), ⟨rfl, rfl, .inl rfl, c, rfl, hin⟩, hone⟩
    · exact ⟨_, List.mem_map_of_mem (hrow _ hp), ⟨rfl, rfl, .inr rfl, c, rfl, hin⟩, hone⟩

theorem rule_iff (s : Ip) (ing : Ingress) :
    ((ing.peer.group = "" ∧ isAnyCIDR ing.peer.cidr = true) ∨
      (ing.peer.group = "" ∧ isAnyCIDR ing.peer.cidr = false) ∧
        ∃ c, X.parseCIDR ing.peer.cidr = some c ∧ c.contains s = true) ↔
      Contains X s ing ∨ OtherWorld s ing := by
  have hany : isAnyCIDR ing.peer.cidr = true ↔ ing.peer.cidr = "0.0.0.0/0" ∨ ing.peer.cidr = "::/0" := by
    simp [isAnyCIDR]
  by_cases hgroup : ing.peer.group = ""
  swap
  · exact iff_of_false (fun h => h.elim (fun h => hgroup h.1) fun h => hgroup h.1.1)
      fun h => h.elim (fun h => hgroup h.1) fun h => hgroup h.1
  constructor
  · rintro (⟨-, h⟩ | ⟨-, hc⟩)
    · rcases hany.mp h with h | h
      · cases s with
        | v4 a => exact .inl ⟨hgroup, .mask4 0#32 0, h ▸ X.parse_any4, agree_zero 0#32 a⟩
        | v6 a => exact .inr ⟨hgroup, h⟩
      · cases s with
        | v4 a => exact .inr ⟨hgroup, h⟩
        | v6 a => exact .inl ⟨hgroup, .mask16 0#128 0, h ▸ X.parse_any6, agree_zero 0#128 a⟩
    · exact .inl ⟨hgroup, hc⟩
  · rintro (⟨-, hc⟩ | ⟨-, h⟩)
    · cases hb : isAnyCIDR ing.peer.cidr with
      | true => exact .inl ⟨hgroup, rfl⟩
      | false => exact .inr ⟨⟨hgroup, rfl⟩, hc⟩
    · refine .inl ⟨hgroup, hany.mpr ?_⟩
      cases s with
      | v4 a => exact .inr h
      | v6 a => exact .inl h

/-- **A CIDR ADMITS ITS OWN**: the gate of a grouped pod accepts a client exactly if a rule for it is
    from a CIDR of the client's family that contains it, or from all addresses of the other family:
    `0.0.0.0/0` and `::/0` both stand for every client. -/
theorem cidr_admits_own {m : Maps} (h : Applied X vpcs groups m) {net : U32} {vpcIp : Addr}
    (hgrouped : sgMembership m ⟨net, vpcIp⟩ ≠ 0#64) (s : Ip) (proto : U8) (port : U16) :
    nsSgAdmit m net vpcIp s.key (cidrProto proto (!s.isV4)) port = true ↔
      Open X vpcs groups net (sgMembership m ⟨net, vpcIp⟩) proto port fun ing =>
        Contains X s ing ∨ OtherWorld s ing := by
  have hproto : (cidrProto proto (!s.isV4)).setWidth 8 = proto := by
    exact BitVec.setWidth_append_eq_right ..
  have hopen : ∀ {P Q : Ingress → Prop}, (Open X vpcs groups net (sgMembership m ⟨net, vpcIp⟩) proto port P ∨
      Open X vpcs groups net (sgMembership m ⟨net, vpcIp⟩) proto port Q) ↔
      Open X vpcs groups net (sgMembership m ⟨net, vpcIp⟩) proto port fun ing => P ing ∨ Q ing := by
    intro P Q
    simp only [Open, ← exists_or, ← and_or_left, or_and_right]
  unfold nsSgAdmit sgAdmit
  rw [h.ready, hproto, if_neg (by decide), if_neg (by decide), Bool.or_eq_true, cidr_iff h]
  rw [if_neg hgrouped, bne_iff_ne, world_iff h, hopen]
  simp only [rule_iff]

end

/-- Any name; only the two all-address texts parse. -/
def demoTexts : Texts where
  namespaceName _ := true
  objectName _ := true
  parseCIDR text := if text = "0.0.0.0/0" then some (.mask4 0#32 0)
    else if text = "::/0" then some (.mask16 0#128 0) else none
  parse_empty := rfl
  parse_any4 := rfl
  parse_any6 := rfl

/-- Group 1 of VPC 100 opens TCP port 80 to `::/0`. -/
def webGroup : SecurityGroup := ⟨"t", "web", "a", false, 1, [⟨⟨"", none, "::/0"⟩, [⟨"TCP", 80⟩]⟩]⟩

/-- A node with one pod of the group and the group's rows. -/
def webMaps : Maps :=
  { Maps.empty with
    sgMembers := fun k => if k = ⟨100#32, 5#128⟩ then some ⟨2#64, 0#256⟩ else none
    sgRules := fun k => match syncSGRules (compile demoTexts (fun _ => some 100) [webGroup]).1 with
      | .ok want => want.lookup k
      | .error _ => none }

theorem webMaps_applied : Applied demoTexts (fun _ => some 100) [webGroup] webMaps :=
  ⟨⟨_, rfl, rfl⟩, ⟨_, rfl, rfl⟩, rfl⟩

theorem cidr_admits_own_v6 :
    Open demoTexts (fun _ => some 100) [webGroup] 100#32 (sgMembership webMaps ⟨100#32, 5#128⟩) ipprotoTcp
        80#16 (fun ing => Contains demoTexts (.v6 9#128) ing ∨ OtherWorld (.v6 9#128) ing) ∧
      ¬Open demoTexts (fun _ => some 100) [webGroup] 100#32 (sgMembership webMaps ⟨100#32, 5#128⟩)
        ipprotoTcp 81#16 (fun ing => Contains demoTexts (.v6 9#128) ing ∨ OtherWorld (.v6 9#128) ing) := by
  have hgrouped : sgMembership webMaps ⟨100#32, 5#128⟩ ≠ 0#64 := by decide +kernel
  have hopen := cidr_admits_own webMaps_applied hgrouped (.v6 9#128) ipprotoTcp
  exact ⟨(hopen 80#16).mp (by decide +kernel), fun hno => absurd ((hopen 81#16).mpr hno) (by decide +kernel)⟩

theorem world_other_family :
    Applied demoTexts (fun _ => some 100) [webGroup] webMaps ∧
      sgMembership webMaps ⟨100#32, 5#128⟩ ≠ 0#64 ∧
      nsSgAdmit webMaps 100#32 5#128 (Ip.v4 9#32).key (cidrProto ipprotoTcp false) 80#16 = true ∧
      ¬Open demoTexts (fun _ => some 100) [webGroup] 100#32 (sgMembership webMaps ⟨100#32, 5#128⟩) ipprotoTcp
        80#16 (Contains demoTexts (.v4 9#32)) := by
  refine ⟨webMaps_applied, by decide +kernel, by decide +kernel, ?_⟩
  rintro ⟨g, hg, -, ing, hing, ⟨-, c, hc, hin⟩, -⟩
  obtain rfl := List.mem_singleton.mp hg
  obtain rfl := List.mem_singleton.mp hing
  cases demoTexts.parse_any6.symm.trans hc
  nomatch hin

end CozySgIngress
