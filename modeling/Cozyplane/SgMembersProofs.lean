import Cozyplane.PolicySnapshotProofs
import Cozyplane.RouteCompileProofs

/-!
# SecurityGroup membership — what a Port's bitmap proves

A Port's status is written by a controller, some time after the groups and the pod it speaks of
have changed. Group ids are numbers below 63 and are reused. So the agent takes no id on trust:
`NewIndex` collects the live groups of each VPC, an id that two of them carry stands for nobody,
and `Bitmap` sets the bit of an id only if the status names the current UID behind it. Whatever
it cannot prove becomes BIT 0, which no rule grants.

In the datapath a local endpoint reads the row of its address only if the row's owner, a digest
of Port UID, sandbox and interface, is its own.
-/

namespace CozySgMembers

open CozyPacket CozyMaps CozyPolicy KernelMap Function
open CozyBoundaryCompile (VPCRef)
open CozyPolicySnapshot (SGMember syncSGMembers)

/-- What the compiler calls outside it: the name checks of `vpnlimits`, `net.ParseIP` and
    SHA-256. -/
structure Texts where
  namespaceName : String → Bool
  objectName : String → Bool
  parseIP : String → Option Addr
  digest : String → BitVec 256

/-- What is indexed of a SecurityGroup. -/
structure SecurityGroup where
  ns : String
  vpc : String
  uid : String
  deleting : Bool
  id : Int
  deriving DecidableEq

def SecurityGroup.localRef (g : SecurityGroup) : VPCRef := ⟨g.ns, g.vpc⟩

/-- `SecurityGroupMembership`. -/
structure GroupRef where
  id : Int
  uid : String
  deriving DecidableEq

/-- `podUID` is the pod-uid label, `containerID` and `ifName` the sandbox annotations, and the last
    three fields the status. -/
structure Port where
  name : String
  uid : String
  vpcRef : VPCRef
  ip : String
  podUID : String
  containerID : String
  ifName : String
  groups : List Int
  groupRefs : List GroupRef
  groupPodUID : String
  deriving DecidableEq

def maxSecurityGroupsPerVPC : Int := 63

/-- `Index`: the UID behind an id of a VPC, empty where it is ambiguous. -/
abbrev Index := VPCRef → Int → Option String

def Index.add (X : Texts) (index : Index) (group : Option SecurityGroup) : Index :=
  match group with
  | none => index
  | some g =>
    if g.deleting ∨ g.id ≤ 0 ∨ maxSecurityGroupsPerVPC ≤ g.id then index
    else if X.namespaceName g.ns = false ∨ X.objectName g.vpc = false then index
    else
      update index g.localRef (update (index g.localRef) g.id
        (if (index g.localRef g.id).isSome then some "" else some g.uid))

/-- The UID behind each id of each VPC. -/
def newIndex (X : Texts) (groups : List (Option SecurityGroup)) : Index :=
  groups.foldl (Index.add X) fun _ _ => none

def bitOf (id : Int) : U64 := 1#64 <<< id.toNat

/-- The ids of the references: proven so far, and seen so far. -/
structure Scan where
  proven : U64
  seen : U64
  deriving DecidableEq

/-- One reference of the status. -/
def scanRef (index : Index) (vpc : VPCRef) (s : Scan) (ref : GroupRef) : Scan :=
  if ref.id ≤ 0 ∨ maxSecurityGroupsPerVPC ≤ ref.id then s
  else if s.seen &&& bitOf ref.id ≠ 0#64 then { s with proven := s.proven &&& ~~~bitOf ref.id }
  else if ref.uid ≠ "" ∧ (index vpc ref.id).getD "" = ref.uid then
    ⟨s.proven ||| bitOf ref.id, s.seen ||| bitOf ref.id⟩
  else ⟨s.proven, s.seen ||| bitOf ref.id⟩

def scanRefs (index : Index) (vpc : VPCRef) (refs : List GroupRef) : Scan :=
  refs.foldl (scanRef index vpc) ⟨0#64, 0#64⟩

/-- One group id of the status: its own bit if it is proven, bit 0 otherwise. -/
def addGroup (proven : U64) (acc : U64) (id : Int) : U64 :=
  if 0 < id ∧ id < maxSecurityGroupsPerVPC ∧ proven &&& bitOf id ≠ 0#64 then acc ||| bitOf id
  else acc ||| 1#64

/-- `Bitmap`: ids proven by their UIDs, else bit 0. -/
def bitmap (index : Index) (port : Port) : U64 :=
  if port.groupPodUID ≠ port.podUID then 1#64
  else if port.groups = [] then 0#64
  else if 63 < port.groups.length ∨ 63 ≤ port.groupRefs.length then 1#64
  else port.groups.foldl (addGroup (scanRefs index port.vpcRef port.groupRefs).proven) 0#64

/-- `SGMembershipBitmap`: the bits of the ids alone. -/
def sgMembershipBitmap (ids : List Int) : U64 :=
  ids.foldl (fun acc id => if 0 < id ∧ id < 63 then acc ||| bitOf id else acc ||| 1#64) 0#64

/-- What an endpoint or a Port is recognised by. -/
structure Witness where
  portUID : String
  containerID : String
  ifName : String
  deriving DecidableEq

/-- A part is missing, or the three do not fit a link alias. -/
def Witness.incomplete (w : Witness) : Bool :=
  w.portUID == "" || w.containerID == "" || w.ifName == "" ||
    decide (255 < w.portUID.utf8ByteSize) || decide (255 < w.containerID.utf8ByteSize) ||
    decide (255 < w.ifName.utf8ByteSize) ||
    decide (255 < w.portUID.utf8ByteSize + w.containerID.utf8ByteSize + w.ifName.utf8ByteSize + 2)

/-- The bytes that are hashed: the parts with a zero byte between them. -/
def Witness.text (w : Witness) : String :=
  w.portUID ++ "\x00" ++ w.containerID ++ "\x00" ++ w.ifName

def sgEndpointOwner (X : Texts) (w : Witness) : BitVec 256 :=
  if w.incomplete then 0#256 else X.digest w.text

def Port.witness (p : Port) : Witness := ⟨p.uid, p.containerID, p.ifName⟩

/-- The row of one Port. -/
def memberOf (X : Texts) (index : Index) (p : Port) : Option SGMember :=
  if p.ip = "" then none
  else
    match CozyRouteCompile.vniFromPortName p.name with
    | none => none
    | some net => some ⟨net, X.parseIP p.ip, bitmap index p, sgEndpointOwner X p.witness⟩

def securityGroupMembers (X : Texts) (ports : List Port) (groups : List (Option SecurityGroup)) :
    List SGMember :=
  ports.filterMap (memberOf X (newIndex X groups))

/-- The group is live, of this VPC, and carries the id. -/
def Carries (vpc : VPCRef) (id : Int) (group : Option SecurityGroup) : Bool :=
  group.any fun g => !g.deleting && g.localRef == vpc && g.id == id

/-- The live groups of the VPC with the id. -/
def carriers (groups : List (Option SecurityGroup)) (vpc : VPCRef) (id : Int) :
    List (Option SecurityGroup) :=
  groups.filter (Carries vpc id)

/-- The id can be indexed for the VPC at all. -/
def Indexable (X : Texts) (vpc : VPCRef) (id : Int) : Prop :=
  0 < id ∧ id < maxSecurityGroupsPerVPC ∧ X.namespaceName vpc.ns = true ∧ X.objectName vpc.name = true

/-- The entry for the groups that carry an id. -/
def entryOf : List (Option SecurityGroup) → Option String
  | [] => none
  | [g] => some (g.elim "" SecurityGroup.uid)
  | _ :: _ :: _ => some ""

variable {X : Texts} {id : Int} {vpc : VPCRef}

theorem carries_some {g : SecurityGroup} :
    Carries vpc id (some g) = true ↔ (g.deleting = false ∧ g.localRef = vpc) ∧ g.id = id := by
  simp [Carries]

variable {index : Index} {group : Option SecurityGroup}

theorem add_other (h : Carries vpc id group = false) :
    Index.add X index group vpc id = index vpc id := by
  cases group with
  | none => rfl
  | some g =>
    unfold Index.add
    dsimp only
    split
    · rfl
    rename_i hlive
    split
    · rfl
    by_cases hvpc : vpc = g.localRef
    · subst hvpc
      have hid : id ≠ g.id := by
        rintro rfl
        have hdel : g.deleting = false := Bool.eq_false_of_not_eq_true fun hd => hlive (.inl hd)
        nomatch h.symm.trans (carries_some.mpr ⟨⟨hdel, rfl⟩, rfl⟩)
      rw [update_self, update_of_ne hid]
    · rw [update_of_ne hvpc]

theorem add_carrier {g : SecurityGroup} (hi : Indexable X vpc id)
    (h : Carries vpc id (some g) = true) :
    Index.add X index (some g) vpc id =
      if (index vpc id).isSome then some "" else some g.uid := by
  obtain ⟨⟨hdel, rfl⟩, rfl⟩ := carries_some.mp h
  obtain ⟨hpos, hmax, hns, hname⟩ := hi
  have hlive : ¬(g.deleting = true ∨ g.id ≤ 0 ∨ maxSecurityGroupsPerVPC ≤ g.id) := by
    simp only [hdel, Bool.false_eq_true, false_or]
    omega
  have hnames : ¬(X.namespaceName g.ns = false ∨ X.objectName g.vpc = false) :=
    not_or.mpr ⟨(Bool.not_eq_false _).mpr hns, (Bool.not_eq_false _).mpr hname⟩
  unfold Index.add
  dsimp only
  rw [if_neg hlive, if_neg hnames, update_self, update_self]

/-- **THE INDEX** holds the UID of the one live group that carries an id, and the empty UID if
    several do. Induction on the groups. -/
theorem newIndex_eq (hi : Indexable X vpc id) (groups : List (Option SecurityGroup)) :
    newIndex X groups vpc id = entryOf (carriers groups vpc id) := by
  induction groups using List.reverseRecOn with
  | nil => rfl
  | append_singleton done group ih =>
    unfold newIndex carriers at ih ⊢
    rw [List.foldl_append, List.filter_append]
    show Index.add X _ group vpc id = _
    cases hcarries : Carries vpc id group with
    | false =>
      rw [add_other hcarries, ih, List.filter_singleton, hcarries, cond_false, List.append_nil]
    | true =>
      cases group with
      | none => nomatch hcarries
      | some g =>
        rw [add_carrier hi hcarries, ih, List.filter_singleton, hcarries, cond_true]
        cases hdone : done.filter (Carries vpc id) with
        | nil => rfl
        | cons d ds =>
          cases ds with
          | nil | cons d' ds => rfl

variable {groups : List (Option SecurityGroup)}

theorem add_indexable
    (h : Index.add X index group vpc id ≠ none) : index vpc id ≠ none ∨ Indexable X vpc id := by
  cases hcarries : Carries vpc id group with
  | false => exact .inl ((add_other hcarries).symm.trans_ne h)
  | true =>
    cases group with
    | none => exact .inl h
    | some g =>
      obtain ⟨⟨-, rfl⟩, rfl⟩ := carries_some.mp hcarries
      unfold Index.add at h
      dsimp only at h
      split at h
      · exact .inl h
      rename_i hlive
      split at h
      · exact .inl h
      rename_i hnames
      rw [not_or, not_or, Int.not_le, Int.not_le] at hlive
      rw [not_or, Bool.not_eq_false, Bool.not_eq_false] at hnames
      exact .inr ⟨hlive.2.1, hlive.2.2, hnames⟩

theorem newIndex_indexable (h : newIndex X groups vpc id ≠ none) :
    Indexable X vpc id := by
  induction groups using List.reverseRecOn with
  | nil => exact absurd rfl h
  | append_singleton done group ih =>
    unfold newIndex at ih h
    rw [List.foldl_append] at h
    exact (add_indexable h).elim ih fun hi => hi

theorem newIndex_uid {uid : String} (h : newIndex X groups vpc id = some uid) (huid : uid ≠ "") :
    ∃ g, carriers groups vpc id = [some g] ∧ g.uid = uid := by
  have hi := newIndex_indexable (X := X) (h ▸ Option.some_ne_none uid)
  rw [newIndex_eq hi] at h
  match hc : carriers groups vpc id, h with
  | [some g], h => exact ⟨g, rfl, Option.some.inj h⟩
  | [none], h | _ :: _ :: _, h => exact absurd (Option.some.inj h).symm huid

-- ── what the scan proves

/-- The id is one of a group. -/
def InRange (id : Int) : Prop := 0 < id ∧ id < maxSecurityGroupsPerVPC

theorem toNat_lt (h : InRange id) : id.toNat < 64 := by
  have hmax : id < 63 := h.2
  omega

theorem one_getLsbD {i : Nat} (h : 1 ≤ i) : (1#64).getLsbD i = false := by
  rw [BitVec.getLsbD_one, decide_eq_false (Nat.ne_of_gt h), Bool.and_false]

theorem shift_getLsbD {n : Nat} (h : n < 64) (i : Nat) : (1#64 <<< n).getLsbD i = decide (i = n) := by
  rw [BitVec.getLsbD_shiftLeft, BitVec.getLsbD_one]
  by_cases hi : i = n
  · subst hi
    simp [h]
  simp only [hi, decide_false]
  by_cases hlt : i < n
  · simp [hlt]
  · have : i - n ≠ 0 := by omega
    simp [this]

theorem bitOf_getLsbD (h : InRange id) (i : Nat) : (bitOf id).getLsbD i = decide (i = id.toNat) :=
  shift_getLsbD (toNat_lt h) i

theorem and_ne_zero {a b : U64} :
    a &&& b ≠ 0#64 ↔ ∃ i, a.getLsbD i = true ∧ b.getLsbD i = true := by
  constructor
  · intro hne
    by_contra hno
    refine hne (BitVec.eq_of_getLsbD_eq fun i _ => ?_)
    rw [BitVec.getLsbD_and, BitVec.getLsbD_zero]
    exact Bool.eq_false_of_not_eq_true fun hbit => hno ⟨i, (Bool.and_eq_true ..).mp hbit⟩
  · rintro ⟨i, ha, hb⟩ hzero
    have := congrArg (fun y => BitVec.getLsbD y i) hzero
    simp only [BitVec.getLsbD_and, ha, hb, BitVec.getLsbD_zero] at this
    nomatch this

theorem and_shift_ne_zero {n : Nat} (h : n < 64) (x : U64) :
    x &&& (1#64 <<< n) ≠ 0#64 ↔ x.getLsbD n = true := by
  rw [and_ne_zero]
  constructor
  · rintro ⟨i, hx, hi⟩
    rw [shift_getLsbD h, decide_eq_true_eq] at hi
    exact hi ▸ hx
  · intro hx
    exact ⟨n, hx, (shift_getLsbD h n).trans (decide_eq_true rfl)⟩

theorem and_bitOf_ne_zero (h : InRange id) (x : U64) :
    x &&& bitOf id ≠ 0#64 ↔ x.getLsbD id.toNat = true := and_shift_ne_zero (toNat_lt h) x

theorem toNat_ne {g : Int} (hg : InRange g) (h : g ≠ id) :
    g.toNat ≠ id.toNat := by
  have := hg.1
  omega

/-- The reference names the UID that the index has for its id. -/
def Matches (index : Index) (vpc : VPCRef) (ref : GroupRef) : Prop :=
  ref.uid ≠ "" ∧ (index vpc ref.id).getD "" = ref.uid

/-- The status has one reference for the id, and it matches. -/
def Proven (index : Index) (vpc : VPCRef) (refs : List GroupRef) (id : Int) : Prop :=
  ∃ ref, refs.filter (fun r => r.id = id) = [ref] ∧ Matches index vpc ref

theorem filter_snoc (refs : List GroupRef) (ref : GroupRef) (id : Int) :
    (refs ++ [ref]).filter (fun r => r.id = id) =
      refs.filter (fun r => r.id = id) ++ if ref.id = id then [ref] else [] := by
  by_cases h : ref.id = id <;> simp [h]

theorem scanRef_other (index : Index) (vpc : VPCRef) (s : Scan) {ref : GroupRef} (hid : InRange id)
    (h : ref.id ≠ id) :
    (scanRef index vpc s ref).seen.getLsbD id.toNat = s.seen.getLsbD id.toNat ∧
      (scanRef index vpc s ref).proven.getLsbD id.toNat = s.proven.getLsbD id.toNat := by
  unfold scanRef
  split
  · exact ⟨rfl, rfl⟩
  rename_i hout
  have hin : InRange ref.id := by
    rwa [not_or, Int.not_le, Int.not_le] at hout
  have hbit : (bitOf ref.id).getLsbD id.toNat = false := by
    rw [bitOf_getLsbD hin]
    exact decide_eq_false (toNat_ne hid (Ne.symm h))
  split_ifs <;> simp only [BitVec.getLsbD_and, BitVec.getLsbD_or, BitVec.getLsbD_not, hbit, toNat_lt hid,
    decide_true, Bool.not_false, Bool.and_true, Bool.or_false, and_self]

/-- **THE SCAN**: an id is proven if exactly one reference has it and that one matches. Induction on
    the references. -/
theorem scanRefs_proven (index : Index) (vpc : VPCRef) (refs : List GroupRef) (hid : InRange id) :
    ((scanRefs index vpc refs).seen.getLsbD id.toNat = true ↔
      refs.filter (fun r => r.id = id) ≠ []) ∧
    ((scanRefs index vpc refs).proven.getLsbD id.toNat = true ↔ Proven index vpc refs id) := by
  induction refs using List.reverseRecOn with
  | nil => simp [scanRefs, Proven]
  | append_singleton refs ref ih =>
    obtain ⟨ihSeen, ihProven⟩ := ih
    have hstep : scanRefs index vpc (refs ++ [ref]) =
        scanRef index vpc (scanRefs index vpc refs) ref := List.foldl_append
    unfold Proven at ihProven ⊢
    rw [hstep, filter_snoc]
    by_cases hother : ref.id = id
    · -- the reference is about this id
      subst hother
      rw [if_pos rfl]
      have hset : ∀ x : U64, (x ||| bitOf ref.id).getLsbD ref.id.toNat = true := fun x => by
        rw [BitVec.getLsbD_or, bitOf_getLsbD hid, decide_eq_true rfl, Bool.or_true]
      unfold scanRef
      rw [if_neg (not_or.mpr ⟨Int.not_le.mpr hid.1, Int.not_le.mpr hid.2⟩)]
      by_cases hseen : (scanRefs index vpc refs).seen.getLsbD ref.id.toNat = true
      · -- a second reference takes the bit away
        rw [if_pos ((and_bitOf_ne_zero hid _).mpr hseen)]
        refine ⟨iff_of_true hseen (by simp), iff_of_false ?_ ?_⟩
        · rw [BitVec.getLsbD_and, BitVec.getLsbD_not, bitOf_getLsbD hid, decide_eq_true rfl]
          simp
        · rintro ⟨ref', heq, _⟩
          refine ihSeen.mp hseen (List.eq_nil_of_length_eq_zero ?_)
          have := congrArg List.length heq
          simpa using this
      · rw [if_neg fun h => hseen ((and_bitOf_ne_zero hid _).mp h)]
        have hnone : refs.filter (fun r => r.id = ref.id) = [] := by
          by_contra hne
          exact hseen (ihSeen.mpr hne)
        rw [hnone, List.nil_append]
        have hnot : (scanRefs index vpc refs).proven.getLsbD ref.id.toNat = false := by
          refine Bool.eq_false_of_not_eq_true fun h => ?_
          obtain ⟨ref', heq, _⟩ := ihProven.mp h
          nomatch hnone.symm.trans heq
        split
        · rename_i hmatch
          exact ⟨iff_of_true (hset _) (List.cons_ne_nil _ _), iff_of_true (hset _) ⟨ref, rfl, hmatch⟩⟩
        rename_i hmatch
        refine ⟨iff_of_true (hset _) (List.cons_ne_nil _ _), iff_of_false (hnot ▸ Bool.false_ne_true) ?_⟩
        rintro ⟨ref', heq, hmatch'⟩
        obtain rfl := (List.cons.inj heq).1
        exact hmatch hmatch'
    · -- it is about another id, and leaves this one's bits alone
      rw [if_neg hother, List.append_nil]
      obtain ⟨hseen, hproven⟩ := scanRef_other index vpc (scanRefs index vpc refs) hid hother
      rw [hseen, hproven]
      exact ⟨ihSeen, ihProven⟩

-- ── what the bitmap holds

/-- The id gets its own bit. -/
def Granted (proven : U64) (id : Int) : Prop := InRange id ∧ proven.getLsbD id.toNat = true

variable {proven : U64}

theorem addGroup_granted {acc : U64} (h : Granted proven id) :
    addGroup proven acc id = acc ||| bitOf id := by
  unfold addGroup
  rw [if_pos ⟨h.1.1, h.1.2, (and_bitOf_ne_zero h.1 _).mpr h.2⟩]

theorem addGroup_refused {acc : U64} (h : ¬Granted proven id) :
    addGroup proven acc id = acc ||| 1#64 := by
  refine if_neg fun hc => h ⟨⟨hc.1, hc.2.1⟩, ?_⟩
  exact (and_bitOf_ne_zero ⟨hc.1, hc.2.1⟩ _).mp hc.2.2

/-- The bits above 0 are those of the granted ids. Induction on the ids. -/
theorem addGroups_bit (proven : U64) (ids : List Int) (acc : U64) {g : Nat} (hg : 1 ≤ g) :
    (ids.foldl (addGroup proven) acc).getLsbD g = true ↔
      acc.getLsbD g = true ∨ ((g : Int) ∈ ids ∧ Granted proven g) := by
  induction ids generalizing acc with
  | nil => simp
  | cons id ids ih =>
    show (ids.foldl (addGroup proven) (addGroup proven acc id)).getLsbD g = true ↔ _
    rw [ih]
    by_cases hgranted : Granted proven id
    · rw [addGroup_granted hgranted, BitVec.getLsbD_or, bitOf_getLsbD hgranted.1,
        Bool.or_eq_true, decide_eq_true_eq, List.mem_cons]
      have hid : g = id.toNat ↔ (g : Int) = id := by
        omega
      rw [hid]
      constructor
      · rintro ((hacc | heq) | ⟨hmem, hgr⟩)
        · exact .inl hacc
        · exact .inr ⟨.inl heq, heq ▸ hgranted⟩
        · exact .inr ⟨.inr hmem, hgr⟩
      · rintro (hacc | ⟨heq | hmem, hgr⟩)
        · exact .inl (.inl hacc)
        · exact .inl (.inr heq)
        · exact .inr ⟨hmem, hgr⟩
    · rw [addGroup_refused hgranted, BitVec.getLsbD_or, one_getLsbD hg, Bool.or_false, List.mem_cons]
      refine or_congr_right ⟨fun h => ⟨.inr h.1, h.2⟩, ?_⟩
      rintro ⟨heq | hmem, hgr⟩
      · exact absurd (heq ▸ hgr) hgranted
      · exact ⟨hmem, hgr⟩

theorem addGroups_granted {ids : List Int} (acc : U64) (hid : id ∈ ids)
    (h : Granted proven id) : (ids.foldl (addGroup proven) acc).getLsbD id.toNat = true := by
  have hpos := h.1.1
  have hcast : ((id.toNat : Nat) : Int) = id := Int.toNat_of_nonneg (le_of_lt hpos)
  exact (addGroups_bit proven ids acc (by omega)).mpr (.inr ⟨hcast.symm ▸ hid, hcast.symm ▸ h⟩)

theorem addGroups_zero (proven : U64) (ids : List Int) (acc : U64) :
    (ids.foldl (addGroup proven) acc).getLsbD 0 = true ↔
      acc.getLsbD 0 = true ∨ ∃ id ∈ ids, ¬Granted proven id := by
  induction ids generalizing acc with
  | nil => simp
  | cons id ids ih =>
    show (ids.foldl (addGroup proven) (addGroup proven acc id)).getLsbD 0 = true ↔ _
    rw [ih, List.exists_mem_cons_iff]
    by_cases hgranted : Granted proven id
    · have hne : ¬(0 = id.toNat) := by
        have := hgranted.1.1
        omega
      rw [addGroup_granted hgranted, BitVec.getLsbD_or, bitOf_getLsbD hgranted.1,
        decide_eq_false hne, Bool.or_false]
      exact or_congr_right (or_iff_right (not_not_intro hgranted)).symm
    · rw [addGroup_refused hgranted, BitVec.getLsbD_or]
      have hone : (1#64).getLsbD 0 = true := rfl
      rw [hone, Bool.or_true]
      exact iff_of_true (.inl rfl) (.inr (.inl hgranted))

section

variable {index : Index} {port : Port}

theorem granted_iff :
    Granted (scanRefs index port.vpcRef port.groupRefs).proven id ↔
      InRange id ∧ Proven index port.vpcRef port.groupRefs id :=
  and_congr_right fun h => (scanRefs_proven index port.vpcRef port.groupRefs h).2

/-- The status was resolved for another pod, or lists groups of which none can be proven. -/
def Unresolved (index : Index) (port : Port) : Prop :=
  port.groupPodUID ≠ port.podUID ∨ (port.groups ≠ [] ∧
    ((63 < port.groups.length ∨ 63 ≤ port.groupRefs.length) ∨
      ∀ id ∈ port.groups, ¬(InRange id ∧ Proven index port.vpcRef port.groupRefs id)))

/-- **A SET BIT IS PROVEN**. -/
theorem bitmap_proven {g : Nat} (hg : 1 ≤ g) (h : (bitmap index port).getLsbD g = true) :
    port.groupPodUID = port.podUID ∧ (g : Int) ∈ port.groups ∧
      Proven index port.vpcRef port.groupRefs g := by
  unfold bitmap at h
  split_ifs at h with hpod hnil
  · nomatch (one_getLsbD hg).symm.trans h
  · nomatch BitVec.getLsbD_zero.symm.trans h
  · nomatch (one_getLsbD hg).symm.trans h
  · rcases (addGroups_bit _ _ _ hg).mp h with hacc | ⟨hmem, hgranted⟩
    · nomatch BitVec.getLsbD_zero.symm.trans hacc
    · exact ⟨not_not.mp hpod, hmem, (granted_iff.mp hgranted).2⟩

/-- **GROUPED IS NEVER UNGROUPED**: a status that lists a group gives a bitmap with a bit. -/
theorem bitmap_ne_zero (h : port.groups ≠ []) : bitmap index port ≠ 0#64 := by
  unfold bitmap
  split_ifs
  · decide
  · decide
  · intro hzero
    obtain ⟨id, hid⟩ := List.exists_mem_of_ne_nil _ h
    by_cases hgranted : Granted (scanRefs index port.vpcRef port.groupRefs).proven id
    · have hbit := addGroups_granted 0#64 hid hgranted
      rw [hzero, BitVec.getLsbD_zero] at hbit
      nomatch hbit
    · have hbit := (addGroups_zero _ _ 0#64).mpr (.inr ⟨id, hid, hgranted⟩)
      rw [hzero, BitVec.getLsbD_zero] at hbit
      nomatch hbit

theorem bitmap_eq_projection (hpod : port.groupPodUID = port.podUID)
    (hbudget : port.groups.length ≤ 63 ∧ port.groupRefs.length < 63)
    (h : ∀ id ∈ port.groups, InRange id → Proven index port.vpcRef port.groupRefs id) :
    bitmap index port = sgMembershipBitmap port.groups := by
  have hsteps : ∀ acc : U64, ∀ id ∈ port.groups,
      addGroup (scanRefs index port.vpcRef port.groupRefs).proven acc id =
        if 0 < id ∧ id < 63 then acc ||| bitOf id else acc ||| 1#64 := by
    intro acc id hid
    split_ifs with hrange
    · exact addGroup_granted (granted_iff.mpr ⟨hrange, h id hid hrange⟩)
    · exact addGroup_refused fun hg => hrange hg.1
  unfold bitmap
  rw [if_neg (not_not_intro hpod)]
  split
  · rename_i hnil
    rw [hnil]
    rfl
  · rw [if_neg (by omega)]
    exact List.foldl_ext _ _ _ hsteps

/-- **ONLY BIT 0**: exactly when the status is unresolved. -/
theorem bitmap_eq_one_iff : bitmap index port = 1#64 ↔ Unresolved index port := by
  unfold bitmap Unresolved
  split_ifs with hpod hnil hbudget
  · exact iff_of_true rfl (.inl hpod)
  · exact iff_of_false (by decide) fun h => h.elim hpod fun h => h.1 hnil
  · exact iff_of_true rfl (.inr ⟨hnil, .inl hbudget⟩)
  rw [or_iff_right hpod, and_iff_right hnil, or_iff_right hbudget]
  constructor
  · intro heq id hid hproven
    have hpos := hproven.1.1
    have hbit := addGroups_granted 0#64 hid (granted_iff.mpr hproven)
    rw [heq, one_getLsbD (by omega)] at hbit
    nomatch hbit
  · intro hnone
    refine BitVec.eq_of_getLsbD_eq fun i _ => ?_
    by_cases hi : i = 0
    · subst hi
      obtain ⟨id, hid⟩ := List.exists_mem_of_ne_nil _ hnil
      refine ((addGroups_zero _ _ _).mpr (.inr ⟨id, hid, fun hg => ?_⟩)).trans rfl
      exact hnone id hid (granted_iff.mp hg)
    · rw [one_getLsbD (Nat.one_le_iff_ne_zero.mpr hi)]
      refine Bool.eq_false_of_not_eq_true fun hbit => ?_
      rcases (addGroups_bit _ _ _ (Nat.one_le_iff_ne_zero.mpr hi)).mp hbit with hacc | ⟨hmem, hg⟩
      · nomatch BitVec.getLsbD_zero.symm.trans hacc
      · exact hnone _ hmem (granted_iff.mp hg)

end

theorem syncSGMembers_rows {ports : List Port} {table : KMap LocalKey SgMember}
    (h : syncSGMembers (securityGroupMembers X ports groups) = .ok table) :
    ∀ key row, table.lookup key = some row → ∃ p ∈ ports,
      row = ⟨bitmap (newIndex X groups) p, sgEndpointOwner X p.witness⟩ := by
  refine Accumulate.forEach_keeps (I := fun want : KMap LocalKey SgMember => ∀ key row,
    want.lookup key = some row → ∃ p ∈ ports,
      row = ⟨bitmap (newIndex X groups) p, sgEndpointOwner X p.witness⟩) ?_
    (fun key _ hrow => nomatch (AList.lookup_empty key).symm.trans hrow) h
  intro mem hmem want want' hwant hstep key row hrow
  obtain ⟨p, hp, hpm⟩ := List.mem_filterMap.mp hmem
  split at hstep
  · nomatch hstep
  rename_i ip _
  obtain rfl := putDesired_ok hstep
  rcases lookup_insert_some.mp hrow with ⟨-, rfl⟩ | ⟨-, hrow⟩
  · refine ⟨p, hp, ?_⟩
    unfold memberOf at hpm
    split at hpm
    · nomatch hpm
    split at hpm
    · nomatch hpm
    · cases hpm
      rfl
  · exact hwant key row hrow

/-- A local VPC endpoint with the witness `w` finds the Port's row; its digest is the Port's only if
    its witness is. -/
structure Reads (X : Texts) (index : Index) (port : Port) (m : Maps) (key : LocalKey)
    (w : Witness) : Prop where
  net : key.net ≠ 0#32
  row : m.sgMembers key = some ⟨bitmap index port, sgEndpointOwner X port.witness⟩
  local_ : ∃ ep, m.locals key = some ep ∧ ep.sgOwner = sgEndpointOwner X w
  digest : sgEndpointOwner X w = sgEndpointOwner X port.witness →
    sgEndpointOwner X port.witness ≠ 0#256 → w = port.witness

theorem Reads.membership {port : Port} {m : Maps} {key : LocalKey} {w : Witness}
    (h : Reads X index port m key w) : sgMembership m key =
      if w = port.witness ∧ sgEndpointOwner X port.witness ≠ 0#256 then bitmap index port
      else 1#64 := by
  obtain ⟨ep, hep, howner⟩ := h.local_
  unfold sgMembership
  rw [if_neg h.net, hep, h.row]
  dsimp only
  rw [howner]
  split_ifs with hno hsame hsame
  · rw [hsame.1] at hno
    exact absurd rfl (hno.resolve_left hsame.2)
  · rfl
  · rfl
  · obtain ⟨hzero, heq⟩ := not_or.mp hno
    have heq := not_not.mp heq
    exact absurd ⟨h.digest heq (heq ▸ hzero), heq ▸ hzero⟩ hsame

/-- The Port's sandbox annotation is one of the pod it is labelled with, or its row grants
    nothing to anybody. -/
def Settled (X : Texts) (podOf : String → String) (index : Index) (port : Port) : Prop :=
  podOf port.containerID = port.podUID ∨ sgEndpointOwner X port.witness = 0#256 ∨
    Unresolved index port

/-- A node with the endpoint and the row of the Port. -/
def ownEndpoint (X : Texts) (index : Index) (port : Port) : Maps :=
  { Maps.empty with
    locals := fun _ => some ⟨0#32, sgEndpointOwner X port.witness⟩
    sgMembers := fun _ => some ⟨bitmap index port, sgEndpointOwner X port.witness⟩ }

theorem ownEndpoint_reads (X : Texts) (index : Index) (port : Port) :
    Reads X index port (ownEndpoint X index port) ⟨100#32, 7#128⟩ port.witness :=
  ⟨by decide, rfl, ⟨_, rfl, rfl⟩, fun _ _ => rfl⟩

/-- **MEMBERSHIP**: a bit of `1 .. 62` has one live group of the VPC behind it, which the status
    names with its UID; a listed group leaves no empty bitmap; a status for another pod gives bit 0
    only; and endpoints of other pods read bit 0 only, exactly if the Port is settled. -/
theorem membership_exact (X : Texts) (podOf : String → String)
    (groups : List (Option SecurityGroup)) (ports : List Port) :
    (∀ p (g : Nat), 1 ≤ g → g ≤ 62 → (bitmap (newIndex X groups) p).getLsbD g = true →
      ∃ sg, carriers groups p.vpcRef g = [some sg] ∧ ⟨g, sg.uid⟩ ∈ p.groupRefs) ∧
    (∀ p : Port, p.groups ≠ [] → bitmap (newIndex X groups) p ≠ 0#64) ∧
    (∀ p : Port, p.groupPodUID ≠ p.podUID → bitmap (newIndex X groups) p = 1#64) ∧
    (∀ table, syncSGMembers (securityGroupMembers X ports groups) = .ok table →
      ∀ key row, table.lookup key = some row → ∃ p ∈ ports,
        row = ⟨bitmap (newIndex X groups) p, sgEndpointOwner X p.witness⟩) ∧
    ∀ p : Port, (∀ m key w, Reads X (newIndex X groups) p m key w →
      podOf w.containerID ≠ p.podUID → sgMembership m key = 1#64) ↔
        Settled X podOf (newIndex X groups) p := by
  refine ⟨fun p g hg _ hbit => ?_, fun p => bitmap_ne_zero, fun p hpod => ?_,
    fun table => syncSGMembers_rows, fun p => ⟨fun h => ?_, ?_⟩⟩
  · obtain ⟨_, _, ref, hfilter, huid, hindex⟩ := bitmap_proven hg hbit
    have hmem : ref ∈ p.groupRefs.filter fun r => r.id = (g : Int) :=
      hfilter ▸ List.mem_cons_self
    obtain ⟨href, hid⟩ := List.mem_filter.mp hmem
    have hid := of_decide_eq_true hid
    have hentry : newIndex X groups p.vpcRef g = some ref.uid := by
      rw [← hid]
      cases hlookup : newIndex X groups p.vpcRef ref.id with rw [hlookup] at hindex
      | none => exact absurd hindex.symm huid
      | some uid => exact congrArg some hindex
    obtain ⟨sg, hcarriers, hsg⟩ := newIndex_uid hentry huid
    refine ⟨sg, hcarriers, ?_⟩
    rw [hsg, ← hid]
    exact href
  · exact bitmap_eq_one_iff.mpr (.inl hpod)
  · -- an endpoint with the Port's own witness reads the whole bitmap
    by_contra hno
    obtain ⟨hpod, hno⟩ := not_or.mp hno
    obtain ⟨howner, hresolved⟩ := not_or.mp hno
    have hreads := ownEndpoint_reads X (newIndex X groups) p
    have hread := h _ _ _ hreads hpod
    rw [hreads.membership, if_pos ⟨rfl, howner⟩] at hread
    exact hresolved (bitmap_eq_one_iff.mp hread)
  · intro hsettled m key w hreads hforeign
    rw [hreads.membership]
    split_ifs with hsame
    · rcases hsettled with hpod | howner | hunresolved
      · exact absurd (hsame.1 ▸ hpod) hforeign
      · exact absurd howner hsame.2
      · exact bitmap_eq_one_iff.mpr hunresolved
    · rfl

def anyNames : Texts := ⟨fun _ => true, fun _ => true, fun _ => none, fun _ => 7#256⟩

/-- The sandbox `c1` is of the pod `p1`, the others are of `p2`. -/
def sandboxPod (containerID : String) : String := if containerID = "c1" then "p1" else "p2"

def groupFive : SecurityGroup := ⟨"t", "a", "g5", false, 5⟩

/-- A VM's Port whose label was moved to the launcher `p2` while its annotations still record the
    sandbox of `p1`. -/
def rebinding : Port :=
  ⟨"v100.10-0-0-7", "u", ⟨"t", "a"⟩, "10.0.0.7", "p2", "c1", "eth0", [5], [⟨5, "g5"⟩], "p2"⟩

def groupNine : SecurityGroup := ⟨"t", "a", "g9", false, 9⟩

/-- Two groups that are proven, and an id out of range. -/
def twoGroups : Port := { rebinding with groups := [5, 9, 70], groupRefs := [⟨9, "g9"⟩, ⟨5, "g5"⟩] }

theorem bitmap_eq_projection_twoGroups :
    bitmap (newIndex anyNames [some groupFive, some groupNine]) twoGroups =
      sgMembershipBitmap [5, 9, 70] ∧ sgMembershipBitmap [5, 9, 70] = 0x221#64 := by
  refine ⟨bitmap_eq_projection rfl (by decide) fun id hid hrange => ?_, by decide⟩
  rcases List.mem_cons.mp hid with rfl | hid
  · exact ⟨⟨5, "g5"⟩, rfl, by decide, by decide⟩
  rcases List.mem_pair.mp hid with rfl | rfl
  · exact ⟨⟨9, "g9"⟩, rfl, by decide, by decide⟩
  · exact absurd hrange.2 (by decide)

/-- **THE OLD POD READS THE NEW POD'S GROUPS** in between: its endpoint has the recorded
    witness. -/
theorem membership_rebinding : ∃ m key w,
    Reads anyNames (newIndex anyNames [some groupFive]) rebinding m key w ∧
    sandboxPod w.containerID = "p1" ∧ rebinding.podUID = "p2" ∧
    sgMembership m key = 1#64 <<< 5 := by
  refine ⟨_, _, _, ownEndpoint_reads _ _ _, rfl, rfl, ?_⟩
  decide

end CozySgMembers
