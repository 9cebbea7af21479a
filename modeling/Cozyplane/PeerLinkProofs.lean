import Cozyplane.CidrOverlapProofs

/-!
# Peering — links from two consenting halves

A peering is two `VPCPeering` objects, one in each VPC's namespace, each naming the other side.
`desiredPeerLinks` files the usable objects under (local, peer) and then asks of each object
whether the bucket of the REVERSED key holds another one. Buckets keep the first object and
whether a distinct one followed, so a peering of a VPC with itself needs two objects.
-/

namespace CozyPeerLink

open CozyPacket CozyCidr CozyCidrOverlap Function
open CozyBoundaryCompile (VPCRef validVNI validVNI_iff vniOf)

/-- The fields of a `VPCPeering` the agent reads. -/
structure VPCPeering where
  ns : String
  vpcName : String
  peerRef : VPCRef
  deleting : Bool
  deriving DecidableEq

def VPCPeering.localRef (p : VPCPeering) : VPCRef := ⟨p.ns, p.vpcName⟩

/-- The fields of a VPC the agent reads. -/
structure VPC where
  deleting : Bool
  cidrs : List String
  vni : Int
  deriving DecidableEq

/-- `peerLink`. -/
structure PeerLink where
  a : U32
  b : U32
  cidrsA : List String
  cidrsB : List String
  deriving DecidableEq

/-- `NamespaceName`, `ObjectName` and `netip.ParseAddr`. -/
structure Texts where
  namespaceName : String → Bool
  objectName : String → Bool
  parseAddr : String → Option Ip

section

variable (X : Texts)

def peeringReferences (p : VPCPeering) : Bool :=
  X.namespaceName p.ns && X.objectName p.vpcName &&
    X.namespaceName p.peerRef.ns && X.objectName p.peerRef.name

/-- The objects both loops look at. -/
def usable (p : VPCPeering) : Bool := !p.deleting && peeringReferences X p

/-- `eligible`. (The source remembers the answer for an object it has seen.) -/
def eligible (v : VPC) : Bool :=
  !v.deleting && validVNI v.vni && (validateVPCCIDRs X.parseAddr v.cidrs).isOk

/- The lister, and what a pointer of the list points to. -/
variable {π : Type} [DecidableEq π] (deref : π → VPCPeering) (vpc : VPCRef → Option VPC)

/-- `consent`: a bucket of the index. -/
structure Bucket (π : Type) where
  first : π
  distinct : Bool
  deriving DecidableEq

/-- The index, by local and peer reference. -/
abbrev Index (π : Type) := VPCRef × VPCRef → Option (Bucket π)

/-- One more object in its bucket. -/
def Bucket.add (bucket : Option (Bucket π)) (p : π) : Bucket π :=
  match bucket with
  | none => ⟨p, false⟩
  | some b => if b.first ≠ p then { b with distinct := true } else b

/-- One round of the first loop. -/
def indexStep (index : Index π) : Option π → Index π
  | none => index
  | some p =>
    if usable X (deref p) then
      let key := ((deref p).localRef, (deref p).peerRef)
      update index key (some (Bucket.add (index key) p))
    else index

def buildIndex (peerings : List (Option π)) : Index π :=
  peerings.foldl (indexStep X deref) fun _ => none

/-- The bucket of the reversed key holds an object other than this one. -/
def reciprocated (index : Index π) (p : π) : Bool :=
  match index ((deref p).peerRef, (deref p).localRef) with
  | none => false
  | some b => !(b.first == p && !b.distinct)

/-- The link of two VPCs, the lower VNI first. -/
def linkOf (va vb : VPC) : PeerLink :=
  if vniOf vb.vni < vniOf va.vni then ⟨vniOf vb.vni, vniOf va.vni, vb.cidrs, va.cidrs⟩
  else ⟨vniOf va.vni, vniOf vb.vni, va.cidrs, vb.cidrs⟩

/-- The two VPCs of an object may be linked. -/
def linkable (va vb : VPC) : Bool :=
  eligible X va && eligible X vb && !va.cidrs.isEmpty && !vb.cidrs.isEmpty &&
    !cidrsOverlapText X.parseAddr va.cidrs vb.cidrs

/-- The checks of the second loop. -/
def candidate (index : Index π) : Option π → Option PeerLink
  | none => none
  | some p =>
    if usable X (deref p) && reciprocated deref index p then
      match vpc (deref p).localRef, vpc (deref p).peerRef with
      | some va, some vb => if linkable X va vb then some (linkOf va vb) else none
      | _, _ => none
    else none

/-- `seen` and `out`. -/
structure Kept where
  seen : List (U32 × U32)
  out : List PeerLink

/-- One round of the second loop. -/
def keepStep (st : Kept) : Option PeerLink → Kept
  | none => st
  | some l => if (l.a, l.b) ∈ st.seen then st else ⟨(l.a, l.b) :: st.seen, st.out ++ [l]⟩

/-- The links of the reciprocated peerings. -/
def desiredPeerLinks (peerings : List (Option π)) : List PeerLink :=
  ((peerings.map (candidate X deref vpc (buildIndex X deref peerings))).foldl keepStep ⟨[], []⟩).out

/-- `datapath.PeerNet`. -/
structure PeerNet where
  scope : U32
  cidr : String
  net : U32
  deriving DecidableEq

/-- The network rows of the links. -/
def desiredPeerNetworks (links : List PeerLink) : List PeerNet :=
  links.flatMap fun l =>
    (l.cidrsB.map fun cidr => ⟨l.a, cidr, l.b⟩) ++ l.cidrsA.map fun cidr => ⟨l.b, cidr, l.a⟩

end

variable {X : Texts} {π : Type} [DecidableEq π] {deref : π → VPCPeering} {vpc : VPCRef → Option VPC}

def Filed (X : Texts) (deref : π → VPCPeering) (peerings : List (Option π)) (key : VPCRef × VPCRef)
    (p : π) : Prop :=
  some p ∈ peerings ∧ usable X (deref p) = true ∧ ((deref p).localRef, (deref p).peerRef) = key

/-- What a bucket says of the objects filed under its key. -/
def Bucket.Describes (b : Option (Bucket π)) (filed : π → Prop) : Prop :=
  match b with
  | none => ∀ p, ¬ filed p
  | some b => filed b.first ∧ (b.distinct = true ↔ ∃ p, filed p ∧ p ≠ b.first)

theorem Bucket.Describes.add {b : Option (Bucket π)} {filed : π → Prop} (h : Bucket.Describes b filed) (q : π) :
    Bucket.Describes (some (Bucket.add b q)) fun p => filed p ∨ p = q := by
  cases b with
  | none =>
    refine ⟨.inr rfl, (nomatch ·), ?_⟩
    rintro ⟨p, hp | rfl, hne⟩
    · exact absurd hp (h p)
    · exact absurd rfl hne
  | some b =>
    obtain ⟨hfirst, hdistinct⟩ := h
    by_cases hq : b.first = q
    · have hsame : Bucket.add (some b) q = b := if_neg (not_not.mpr hq)
      rw [hsame]
      refine ⟨.inl hfirst, hdistinct.trans ⟨?_, ?_⟩⟩
      · rintro ⟨p, hp, hne⟩
        exact ⟨p, .inl hp, hne⟩
      · rintro ⟨p, hp | rfl, hne⟩
        · exact ⟨p, hp, hne⟩
        · exact absurd hq.symm hne
    · have hadd : Bucket.add (some b) q = { b with distinct := true } := if_pos hq
      rw [hadd]
      exact ⟨.inl hfirst, fun _ => ⟨q, .inr rfl, fun h => hq h.symm⟩, fun _ => rfl⟩

omit [DecidableEq π] in
theorem Bucket.Describes.congr {b : Option (Bucket π)} {filed filed' : π → Prop} (h : Bucket.Describes b filed)
    (heq : ∀ p, filed' p ↔ filed p) : Bucket.Describes b filed' := by
  obtain rfl : filed' = filed := funext fun p => propext (heq p)
  exact h

omit [DecidableEq π] in
theorem filed_append {seen : List (Option π)} {o : Option π} {key : VPCRef × VPCRef} {p : π} :
    Filed X deref (seen ++ [o]) key p ↔ Filed X deref seen key p ∨
      (o = some p ∧ usable X (deref p) = true ∧ ((deref p).localRef, (deref p).peerRef) = key) := by
  unfold Filed
  rw [List.mem_append, List.mem_singleton, or_and_right, eq_comm (a := some p)]

theorem indexStep_files {index : Index π} {seen : List (Option π)}
    (h : ∀ key, Bucket.Describes (index key) (Filed X deref seen key)) (o : Option π) (key : VPCRef × VPCRef) :
    Bucket.Describes (indexStep X deref index o key) (Filed X deref (seen ++ [o]) key) := by
  -- Only a usable object with this key changes what is filed here.
  have hsame : (∀ q, o = some q → usable X (deref q) = true →
      ((deref q).localRef, (deref q).peerRef) ≠ key) →
      Bucket.Describes (index key) (Filed X deref (seen ++ [o]) key) := by
    refine fun hother => (h key).congr fun p => filed_append.trans (or_iff_left ?_)
    exact fun ⟨ho, huse, hkey⟩ => hother p ho huse hkey
  cases o with
  | none => exact hsame fun q hq => nomatch hq
  | some q =>
    show Bucket.Describes ((if usable X (deref q) then update index _ _ else index) key) _
    split
    · rename_i huse
      by_cases hkey : key = ((deref q).localRef, (deref q).peerRef)
      · subst hkey
        rw [update_self]
        refine ((h _).add q).congr fun p => filed_append.trans (or_congr_right ⟨?_, ?_⟩)
        · exact fun hp => (Option.some.inj hp.1).symm
        · rintro rfl
          exact ⟨rfl, huse, rfl⟩
      · rw [update_of_ne hkey]
        refine hsame fun p hp _ hk => hkey ?_
        cases hp
        exact hk.symm
    · rename_i huse
      refine hsame fun p hp hu => ?_
      cases hp
      exact absurd hu huse

/-- **THE INDEX**: a bucket is empty iff nothing is filed under its key, and marked iff something
    other than its first object is. -/
theorem buildIndex_spec (X : Texts) (deref : π → VPCPeering) (peerings : List (Option π)) :
    ∀ key, Bucket.Describes (buildIndex X deref peerings key) (Filed X deref peerings key) := by
  induction peerings using List.reverseRecOn with
  | nil => exact fun _ _ h => nomatch h.1
  | append_singleton seen o ih =>
    unfold buildIndex at ih ⊢
    rw [List.foldl_append]
    exact indexStep_files ih o

theorem reciprocated_iff (peerings : List (Option π)) (p : π) :
    reciprocated deref (buildIndex X deref peerings) p = true ↔
      ∃ q, Filed X deref peerings ((deref p).peerRef, (deref p).localRef) q ∧ q ≠ p := by
  have hbucket := buildIndex_spec X deref peerings ((deref p).peerRef, (deref p).localRef)
  unfold reciprocated
  cases hb : buildIndex X deref peerings ((deref p).peerRef, (deref p).localRef) with
  | none =>
    rw [hb] at hbucket
    exact ⟨(nomatch ·), fun ⟨q, hq, _⟩ => absurd hq (hbucket q)⟩
  | some b =>
    rw [hb] at hbucket
    obtain ⟨hfirst, hdistinct⟩ := hbucket
    show (!(b.first == p && !b.distinct)) = true ↔ _
    rw [Bool.not_eq_true', Bool.and_eq_false_iff, beq_eq_false_iff_ne, Bool.not_eq_false']
    constructor
    · rintro (hne | hd)
      · exact ⟨b.first, hfirst, hne⟩
      · obtain ⟨q, hq, hne⟩ := hdistinct.mp hd
        by_cases hp : b.first = p
        · exact ⟨q, hq, hp ▸ hne⟩
        · exact ⟨b.first, hfirst, hp⟩
    · rintro ⟨q, hq, hne⟩
      by_cases hp : b.first = p
      · exact .inr (hdistinct.mpr ⟨q, hq, hp ▸ hne⟩)
      · exact .inl hp

/-- `seen` lists the pairs of `out`, once each. -/
structure Kept.Good (st : Kept) : Prop where
  seen : ∀ k, k ∈ st.seen ↔ ∃ l ∈ st.out, (l.a, l.b) = k
  nodup : st.out.Pairwise fun l l' => (l.a, l.b) ≠ (l'.a, l'.b)

theorem keepFold_spec (found : List (Option PeerLink)) :
    (found.foldl keepStep ⟨[], []⟩).Good ∧ (∀ l ∈ (found.foldl keepStep ⟨[], []⟩).out, some l ∈ found) ∧
      ∀ l, some l ∈ found → (l.a, l.b) ∈ (found.foldl keepStep ⟨[], []⟩).seen := by
  induction found using List.reverseRecOn with
  | nil => exact ⟨⟨fun k => by simp, List.Pairwise.nil⟩, nofun, nofun⟩
  | append_singleton found o ih =>
    rw [List.foldl_append]
    obtain ⟨hgood, hfrom, hall⟩ := ih
    generalize found.foldl keepStep ⟨[], []⟩ = st at hgood hfrom hall
    have hleft : ∀ l ∈ st.out, some l ∈ found ++ [o] := fun l hl => List.mem_append_left _ (hfrom l hl)
    -- Nothing is kept: the pair of `o`, if it is a link, was seen.
    have hsame : (∀ l, o = some l → (l.a, l.b) ∈ st.seen) →
        ∀ l, some l ∈ found ++ [o] → (l.a, l.b) ∈ st.seen := by
      intro ho l hl
      rcases List.mem_append.mp hl with hl | hl
      · exact hall l hl
      · exact ho l (List.mem_singleton.mp hl).symm
    cases o with
    | none => exact ⟨hgood, hleft, hsame nofun⟩
    | some k =>
      by_cases hseen : (k.a, k.b) ∈ st.seen
      · have heq : [some k].foldl keepStep st = st := if_pos hseen
        rw [heq]
        exact ⟨hgood, hleft, hsame fun l hl => Option.some.inj hl ▸ hseen⟩
      have heq : [some k].foldl keepStep st = ⟨(k.a, k.b) :: st.seen, st.out ++ [k]⟩ := if_neg hseen
      rw [heq]
      refine ⟨⟨fun j => ?_, List.pairwise_append.mpr ⟨hgood.nodup, List.pairwise_singleton _ _, ?_⟩⟩,
        fun l hl => ?_, fun l hl => ?_⟩
      · simp only [List.mem_cons, hgood.seen, List.mem_append, List.not_mem_nil, or_false, or_and_right,
          exists_or, exists_eq_left]
        exact or_comm.trans (or_congr_right eq_comm)
      · intro l hl l' hl' hpair
        obtain rfl := List.mem_singleton.mp hl'
        exact hseen ((hgood.seen _).mpr ⟨l, hl, hpair⟩)
      · rcases List.mem_append.mp hl with hl | hl
        · exact hleft l hl
        · exact List.mem_append_right _ (List.mem_singleton.mpr (congrArg some (List.mem_singleton.mp hl)))
      · rcases List.mem_append.mp hl with hl | hl
        · exact .tail _ (hall l hl)
        · cases List.mem_singleton.mp hl
          exact .head _

/-- Two distinct usable objects, one of each direction. -/
def Consent (X : Texts) (deref : π → VPCPeering) (peerings : List (Option π)) (r s : VPCRef) : Prop :=
  ∃ p q, Filed X deref peerings (r, s) p ∧ Filed X deref peerings (s, r) q ∧ q ≠ p

omit [DecidableEq π] in
theorem Consent.symm {peerings : List (Option π)} {r s : VPCRef} (h : Consent X deref peerings r s) :
    Consent X deref peerings s r := by
  obtain ⟨p, q, hp, hq, hne⟩ := h
  exact ⟨q, p, hq, hp, hne.symm⟩

theorem mem_candidates {peerings : List (Option π)} {l : PeerLink} :
    some l ∈ peerings.map (candidate X deref vpc (buildIndex X deref peerings)) ↔
      ∃ r s va vb, Consent X deref peerings r s ∧ vpc r = some va ∧ vpc s = some vb ∧
        linkable X va vb = true ∧ l = linkOf va vb := by
  rw [List.mem_map]
  constructor
  · rintro ⟨o, ho, hcand⟩
    cases o with
    | none => nomatch hcand
    | some p =>
      simp only [candidate] at hcand
      split at hcand
      · rename_i hok
        rw [Bool.and_eq_true, reciprocated_iff] at hok
        obtain ⟨huse, q, hq, hne⟩ := hok
        cases hva : vpc (deref p).localRef with
        | none => rw [hva] at hcand; nomatch hcand
        | some va =>
          cases hvb : vpc (deref p).peerRef with
          | none => rw [hva, hvb] at hcand; nomatch hcand
          | some vb =>
            rw [hva, hvb] at hcand
            by_cases hlink : linkable X va vb = true
            · simp only [if_pos hlink] at hcand
              exact ⟨_, _, va, vb, ⟨p, q, ⟨ho, huse, rfl⟩, hq, hne⟩, hva, hvb, hlink,
                (Option.some.inj hcand).symm⟩
            · simp only [if_neg hlink] at hcand
              nomatch hcand
      · nomatch hcand
  · rintro ⟨r, s, va, vb, ⟨p, q, ⟨hmem, huse, hkey⟩, hq, hne⟩, hva, hvb, hlink, rfl⟩
    cases hkey
    refine ⟨some p, hmem, ?_⟩
    rw [candidate, if_pos (Bool.and_eq_true_iff.mpr ⟨huse, (reciprocated_iff peerings p).mpr ⟨q, hq, hne⟩⟩),
      hva, hvb]
    exact if_pos hlink

-- ── the snapshot

/-- The VPCs of a snapshot: names the API server admits, and no VNI twice. -/
structure Snapshot (X : Texts) where
  vpc : VPCRef → Option VPC
  named : ∀ {r v}, vpc r = some v → X.namespaceName r.ns = true ∧ X.objectName r.name = true
  distinct : ∀ {r s v w}, vpc r = some v → vpc s = some w → eligible X v = true →
    eligible X w = true → v.vni = w.vni → r = s

variable {S : Snapshot X} {peerings : List (Option π)} {r s : VPCRef} {v w : VPC}

theorem isOk_iff {e : Except String Unit} : e.isOk = true ↔ e = .ok () := by
  cases e with
  | ok u => exact ⟨fun _ => rfl, fun _ => rfl⟩
  | error e => exact ⟨(nomatch ·), (nomatch ·)⟩

theorem eligible_iff : eligible X v = true ↔
    v.deleting = false ∧ validVNI v.vni = true ∧ validateVPCCIDRs X.parseAddr v.cidrs = .ok () := by
  unfold eligible
  rw [Bool.and_eq_true, Bool.and_eq_true, Bool.not_eq_true', isOk_iff, and_assoc]

theorem eligible_vni (h : eligible X v = true) : validVNI v.vni = true := (eligible_iff.mp h).2.1

theorem eligible_cidrs (h : eligible X v = true) : validateVPCCIDRs X.parseAddr v.cidrs = .ok () :=
  (eligible_iff.mp h).2.2

theorem linkable_iff : linkable X v w = true ↔
    eligible X v = true ∧ eligible X w = true ∧ v.cidrs ≠ [] ∧ w.cidrs ≠ [] ∧
      cidrsOverlapText X.parseAddr v.cidrs w.cidrs = false := by
  unfold linkable
  simp only [Bool.and_eq_true, Bool.not_eq_true', List.isEmpty_eq_false_iff, and_assoc]

theorem vniOf_inj {x y : Int} (hx : validVNI x = true) (hy : validVNI y = true)
    (h : vniOf x = vniOf y) : x = y := by
  rw [validVNI_iff] at hx hy
  unfold vniOf at h
  rw [if_neg (by omega), if_neg (by omega), ← BitVec.toNat_inj, BitVec.toNat_ofInt,
    BitVec.toNat_ofInt] at h
  omega

theorem Snapshot.ref_eq (hv : S.vpc r = some v) (hw : S.vpc s = some w) (hev : eligible X v = true)
    (hew : eligible X w = true) (h : vniOf v.vni = vniOf w.vni) : r = s :=
  S.distinct hv hw hev hew (vniOf_inj (eligible_vni hev) (eligible_vni hew) h)

theorem Snapshot.same {r' : VPCRef} {v' : VPC} (hr : S.vpc r = some v) (hr' : S.vpc r' = some v')
    (hev : eligible X v = true) (hev' : eligible X v' = true) (h : vniOf v'.vni = vniOf v.vni) :
    r = r' ∧ v = v' := by
  obtain rfl := S.ref_eq hr' hr hev' hev h
  exact ⟨rfl, Option.some.inj (hr.symm.trans hr')⟩

theorem linkOf_pair (va vb : VPC) :
    ((linkOf va vb).a = vniOf va.vni ∧ (linkOf va vb).b = vniOf vb.vni) ∨
      (linkOf va vb).a = vniOf vb.vni ∧ (linkOf va vb).b = vniOf va.vni := by
  unfold linkOf
  split
  · exact .inr ⟨rfl, rfl⟩
  · exact .inl ⟨rfl, rfl⟩

theorem linkOf_comm {va vb : VPC} (h : vniOf va.vni = vniOf vb.vni → va = vb) :
    linkOf va vb = linkOf vb va := by
  unfold linkOf
  by_cases hab : vniOf vb.vni < vniOf va.vni
  · rw [if_pos hab, if_neg (BitVec.not_lt.mpr (BitVec.le_of_lt hab))]
  by_cases hba : vniOf va.vni < vniOf vb.vni
  · rw [if_neg hab, if_pos hba]
  · obtain rfl := h (BitVec.le_antisymm (BitVec.not_lt.mp hab) (BitVec.not_lt.mp hba))
    rfl

theorem linkOf_eq {r' s' : VPCRef} {v' w' : VPC} (hr : S.vpc r = some v) (hs : S.vpc s = some w)
    (hr' : S.vpc r' = some v') (hs' : S.vpc s' = some w') (hl : linkable X v w = true)
    (hl' : linkable X v' w' = true)
    (h : ((linkOf v' w').a, (linkOf v' w').b) = ((linkOf v w).a, (linkOf v w).b)) :
    linkOf v' w' = linkOf v w := by
  obtain ⟨hev, hew, -⟩ := linkable_iff.mp hl
  obtain ⟨hev', hew', -⟩ := linkable_iff.mp hl'
  obtain ⟨ha, hb⟩ := Prod.mk.inj h
  have hself : vniOf v.vni = vniOf w.vni → v = w := fun hvni => (S.same hr hs hev hew hvni.symm).2
  -- The pairs agree straight or crossed, and then so do the references.
  have hcases : (vniOf v'.vni = vniOf v.vni ∧ vniOf w'.vni = vniOf w.vni) ∨
      vniOf v'.vni = vniOf w.vni ∧ vniOf w'.vni = vniOf v.vni := by
    rcases linkOf_pair v w with ⟨h₁, h₂⟩ | ⟨h₁, h₂⟩ <;>
      rcases linkOf_pair v' w' with ⟨h₁', h₂'⟩ | ⟨h₁', h₂'⟩ <;>
      rw [h₁, h₁'] at ha <;> rw [h₂, h₂'] at hb
    · exact .inl ⟨ha, hb⟩
    · exact .inr ⟨hb, ha⟩
    · exact .inr ⟨ha, hb⟩
    · exact .inl ⟨hb, ha⟩
  rcases hcases with ⟨hvv, hww⟩ | ⟨hvw, hwv⟩
  · rw [← (S.same hr hr' hev hev' hvv).2, ← (S.same hs hs' hew hew' hww).2]
  · rw [← (S.same hs hr' hew hev' hvw).2, ← (S.same hr hs' hev hew' hwv).2]
    exact (linkOf_comm hself).symm

/-- **THE LINKS**, without the order of the list. -/
theorem mem_desiredPeerLinks {l : PeerLink} :
    l ∈ desiredPeerLinks X deref S.vpc peerings ↔
      ∃ r s v w, Consent X deref peerings r s ∧ S.vpc r = some v ∧ S.vpc s = some w ∧
        linkable X v w = true ∧ l = linkOf v w := by
  obtain ⟨hgood, hfrom, hall⟩ :=
    keepFold_spec (peerings.map (candidate X deref S.vpc (buildIndex X deref peerings)))
  constructor
  · exact fun hl => mem_candidates.mp (hfrom l hl)
  · intro h
    obtain ⟨l', hl', heq⟩ := (hgood.seen _).mp (hall l (mem_candidates.mpr h))
    obtain ⟨r, s, v, w, -, hr, hs, hlink, rfl⟩ := h
    obtain ⟨r', s', v', w', -, hr', hs', hlink', rfl⟩ := mem_candidates.mp (hfrom l' hl')
    rw [← linkOf_eq hr hs hr' hs' hlink hlink' heq]
    exact hl'

theorem desiredPeerLinks_nodup : (desiredPeerLinks X deref S.vpc peerings).Nodup := by
  refine (keepFold_spec _).1.nodup.imp ?_
  rintro l l' hne rfl
  exact hne rfl

-- ── consent

/-- A live object of the list, owned by `r` and naming `s`. -/
def Half (deref : π → VPCPeering) (peerings : List (Option π)) (r s : VPCRef) (p : π) : Prop :=
  some p ∈ peerings ∧ (deref p).deleting = false ∧ (deref p).localRef = r ∧ (deref p).peerRef = s

/-- Two different live objects, one owned by each side. (For two VPCs they always differ.) -/
def Mutual (deref : π → VPCPeering) (peerings : List (Option π)) (r s : VPCRef) : Prop :=
  ∃ p q, Half deref peerings r s p ∧ Half deref peerings s r q ∧ q ≠ p

omit [DecidableEq π] in
/-- Objects that name VPCs of the snapshot have well-formed references. -/
theorem filed_iff (hr : S.vpc r = some v) (hs : S.vpc s = some w) {p : π} :
    Filed X deref peerings (r, s) p ↔ Half deref peerings r s p := by
  unfold Filed Half usable peeringReferences
  constructor
  · rintro ⟨hmem, huse, hkey⟩
    cases hkey
    rw [Bool.and_eq_true, Bool.not_eq_true'] at huse
    exact ⟨hmem, huse.1, rfl, rfl⟩
  · rintro ⟨hmem, hlive, rfl, rfl⟩
    obtain ⟨hns, hname⟩ := S.named hr
    obtain ⟨hpns, hpname⟩ := S.named hs
    have hns' : X.namespaceName (deref p).ns = true := hns
    have hname' : X.objectName (deref p).vpcName = true := hname
    refine ⟨hmem, ?_, rfl⟩
    rw [hlive, hns', hname', hpns, hpname]
    rfl

omit [DecidableEq π] in
theorem consent_iff (hr : S.vpc r = some v) (hs : S.vpc s = some w) :
    Consent X deref peerings r s ↔ Mutual deref peerings r s := by
  unfold Consent Mutual
  simp only [filed_iff hr hs, filed_iff hs hr]

def Overlap (parseAddr : String → Option Ip) (a b : List String) : Prop :=
  ∃ x ∈ a, ∃ y ∈ b, ∃ c d, parseCIDR parseAddr x = some c ∧ parseCIDR parseAddr y = some d ∧
    (normalizedCIDR c).overlaps (normalizedCIDR d) = true

theorem Sees.overlap {parseAddr : String → Option Ip} {a b : List String}
    (h : ∃ x ∈ a, ∃ y ∈ b, Sees parseAddr x y) : Overlap parseAddr a b := by
  obtain ⟨x, hx, y, hy, p, q, hp, hq, hov⟩ := h
  refine ⟨x, hx, y, hy, ipNetOf p, ipNetOf q, ?_, ?_, ?_⟩
  · unfold parseCIDR
    rw [hp]
    rfl
  · unfold parseCIDR
    rw [hq]
    rfl
  · rw [normalizedCIDR_ipNetOf, normalizedCIDR_ipNetOf]
    exact hov

theorem overlap_self {parseAddr : String → Option Ip} {a : List String} (hne : a ≠ [])
    (hok : validateVPCCIDRs parseAddr a = .ok ()) : Overlap parseAddr a a := by
  obtain ⟨x, hx⟩ := List.exists_mem_of_ne_nil a hne
  obtain ⟨-, c, hc⟩ := validateVPCCIDRs_ok hok x hx
  refine ⟨x, hx, x, hx, c, c, hc, hc, ?_⟩
  cases normalizedCIDR c with
  | v4 a n | v6 a n =>
    show PrefixTable.agree (min n.val n.val) a a = true
    exact PrefixTable.agree_refl (by omega) a

/-- The unordered pair is among the links. -/
def Linked (links : List PeerLink) (a b : U32) : Prop :=
  ∃ l ∈ links, (l.a = a ∧ l.b = b) ∨ l.a = b ∧ l.b = a

/-- Different eligible VPCs with CIDRs, none in common, and the consent of both. -/
def MayPeer (S : Snapshot X) (deref : π → VPCPeering) (peerings : List (Option π)) (a b : U32) :
    Prop :=
  ∃ r s v w, r ≠ s ∧ S.vpc r = some v ∧ S.vpc s = some w ∧ vniOf v.vni = a ∧ vniOf w.vni = b ∧
    eligible X v = true ∧ eligible X w = true ∧ v.cidrs ≠ [] ∧ w.cidrs ≠ [] ∧
    ¬ Overlap X.parseAddr v.cidrs w.cidrs ∧ Mutual deref peerings r s

/-- `CIDRsOverlap` sees an overlap wherever there is one between VPCs that ask to be linked. -/
def OverlapsSeen (S : Snapshot X) (deref : π → VPCPeering) (peerings : List (Option π)) : Prop :=
  ∀ r s v w, S.vpc r = some v → S.vpc s = some w → eligible X v = true → eligible X w = true →
    v.cidrs ≠ [] → w.cidrs ≠ [] → Mutual deref peerings r s →
    Overlap X.parseAddr v.cidrs w.cidrs → ∃ x ∈ v.cidrs, ∃ y ∈ w.cidrs, Sees X.parseAddr x y

/-- What the code links: consent, and no overlap that is seen. -/
theorem linked_iff {a b : U32} :
    Linked (desiredPeerLinks X deref S.vpc peerings) a b ↔
      ∃ r s v w, S.vpc r = some v ∧ S.vpc s = some w ∧ vniOf v.vni = a ∧ vniOf w.vni = b ∧
        Mutual deref peerings r s ∧
        linkable X v w = true := by
  constructor
  · rintro ⟨l, hl, hpair⟩
    obtain ⟨r, s, v, w, hcons, hr, hs, hlink, rfl⟩ := mem_desiredPeerLinks.mp hl
    -- Straight or crossed, as the link lists the pair and as the pair is asked for.
    have hab : (vniOf v.vni = a ∧ vniOf w.vni = b) ∨ vniOf v.vni = b ∧ vniOf w.vni = a := by
      rcases linkOf_pair v w with ⟨h₁, h₂⟩ | ⟨h₁, h₂⟩ <;> rw [h₁, h₂] at hpair
      · exact hpair
      · exact hpair.symm.imp And.symm And.symm
    rcases hab with ⟨ha, hb⟩ | ⟨hb, ha⟩
    · exact ⟨r, s, v, w, hr, hs, ha, hb, (consent_iff hr hs).mp hcons, hlink⟩
    refine ⟨s, r, w, v, hs, hr, ha, hb, (consent_iff hs hr).mp hcons.symm, ?_⟩
    rw [linkable_iff] at hlink ⊢
    obtain ⟨hev, hew, hnv, hnw, hov⟩ := hlink
    refine ⟨hew, hev, hnw, hnv, ?_⟩
    rw [← Bool.not_eq_true, cidrsOverlapText_iff] at hov ⊢
    rintro ⟨y, hy, x, hx, q, p, hq, hp, hqp⟩
    exact hov ⟨x, hx, y, hy, p, q, hp, hq, NetPrefix.overlaps_symm hqp⟩
  · rintro ⟨r, s, v, w, hr, hs, rfl, rfl, hmut, hlink⟩
    refine ⟨linkOf v w, mem_desiredPeerLinks.mpr ⟨r, s, v, w, (consent_iff hr hs).mpr hmut, hr, hs,
      hlink, rfl⟩, ?_⟩
    rcases linkOf_pair v w with h | h
    · exact .inl h
    · exact .inr h

theorem linked_mayPeer (h : OverlapsSeen S deref peerings) {a b : U32} :
    Linked (desiredPeerLinks X deref S.vpc peerings) a b ↔ MayPeer S deref peerings a b := by
  rw [linked_iff]
  constructor
  · rintro ⟨r, s, v, w, hr, hs, ha, hb, hmut, hlink⟩
    obtain ⟨hev, hew, hnv, hnw, hfree⟩ := linkable_iff.mp hlink
    have hno : ¬ Overlap X.parseAddr v.cidrs w.cidrs := by
      intro hov
      have hseen := h r s v w hr hs hev hew hnv hnw hmut hov
      rw [(cidrsOverlapText_iff _ _).mpr hseen] at hfree
      nomatch hfree
    refine ⟨r, s, v, w, ?_, hr, hs, ha, hb, hev, hew, hnv, hnw, hno, hmut⟩
    rintro rfl
    cases hr.symm.trans hs
    exact hno (overlap_self hnv (eligible_cidrs hev))
  · rintro ⟨r, s, v, w, -, hr, hs, ha, hb, hev, hew, hnv, hnw, hno, hmut⟩
    refine ⟨r, s, v, w, hr, hs, ha, hb, hmut, linkable_iff.mpr ⟨hev, hew, hnv, hnw, ?_⟩⟩
    rw [← Bool.not_eq_true, cidrsOverlapText_iff]
    exact fun hsees => hno (Sees.overlap hsees)

theorem overlapsSeen_of_mayPeer
    (h : ∀ a b, Linked (desiredPeerLinks X deref S.vpc peerings) a b → MayPeer S deref peerings a b) :
    OverlapsSeen S deref peerings := by
  intro r s v w hr hs hev hew hnv hnw hmut hov
  by_contra hblind
  rw [← cidrsOverlapText_iff, Bool.not_eq_true] at hblind
  obtain ⟨r', s', v', w', -, hr', hs', hv, hw, hev', hew', -, -, hno, -⟩ :=
    h _ _ (linked_iff.mpr ⟨r, s, v, w, hr, hs, rfl, rfl, hmut,
      linkable_iff.mpr ⟨hev, hew, hnv, hnw, hblind⟩⟩)
  obtain ⟨rfl, rfl⟩ := S.same hr hr' hev hev' hv
  obtain ⟨rfl, rfl⟩ := S.same hs hs' hew hew' hw
  exact hno hov

theorem not_linked (hr : S.vpc r = some v) (hs : S.vpc s = some w) (hev : eligible X v = true)
    (hew : eligible X w = true) (hgone : ∀ p, ¬ Half deref peerings r s p) :
    ¬ Linked (desiredPeerLinks X deref S.vpc peerings) (vniOf v.vni) (vniOf w.vni) := by
  rw [linked_iff]
  rintro ⟨r', s', v', w', hr', hs', hv, hw, ⟨p, q, hp, -, -⟩, hlink⟩
  obtain ⟨hev', hew', -⟩ := linkable_iff.mp hlink
  obtain rfl := S.ref_eq hr' hr hev' hev hv
  obtain rfl := S.ref_eq hs' hs hew' hew hw
  exact hgone p hp

/-- **PEERING IS CONSENSUAL AND ORDER-FREE.** The linked pairs are those that may peer iff every
    overlap is seen; the order of the list does not matter; and removing or marking one half ends
    the link. -/
theorem peering_consensual (X : Texts) (S : Snapshot X) (π : Type) [DecidableEq π]
    (deref : π → VPCPeering) (peerings : List (Option π)) :
    ((∀ a b, Linked (desiredPeerLinks X deref S.vpc peerings) a b ↔ MayPeer S deref peerings a b) ↔
      OverlapsSeen S deref peerings) ∧
    (∀ peerings', peerings.Perm peerings' →
      (desiredPeerLinks X deref S.vpc peerings).Perm (desiredPeerLinks X deref S.vpc peerings')) ∧
    ∀ r s v w, S.vpc r = some v → S.vpc s = some w → eligible X v = true → eligible X w = true →
      ∀ p, (∀ q, Half deref peerings r s q → q = p) →
        ¬ Linked (desiredPeerLinks X deref S.vpc (peerings.filter (· ≠ some p)))
          (vniOf v.vni) (vniOf w.vni) ∧
        ¬ Linked (desiredPeerLinks X (update deref p { deref p with deleting := true }) S.vpc
          peerings) (vniOf v.vni) (vniOf w.vni) := by
  refine ⟨⟨fun h => overlapsSeen_of_mayPeer fun a b => (h a b).mp, fun h a b => linked_mayPeer h⟩,
    fun peerings' hperm => ?_, fun r s v w hr hs hev hew p honly => ⟨?_, ?_⟩⟩
  · refine (List.perm_ext_iff_of_nodup desiredPeerLinks_nodup desiredPeerLinks_nodup).mpr fun l => ?_
    have hfiled : Filed X deref peerings = Filed X deref peerings' := by
      funext key p
      unfold Filed
      rw [hperm.mem_iff]
    rw [mem_desiredPeerLinks, mem_desiredPeerLinks]
    unfold Consent
    rw [hfiled]
  · refine not_linked hr hs hev hew ?_
    rintro q ⟨hmem, hlive, hloc, hpeer⟩
    obtain ⟨hin, hne⟩ := List.mem_filter.mp hmem
    exact of_decide_eq_true hne (congrArg some (honly q ⟨hin, hlive, hloc, hpeer⟩))
  · refine not_linked hr hs hev hew ?_
    rintro q ⟨hmem, hlive, hloc, hpeer⟩
    by_cases hq : q = p
    · subst hq
      rw [update_self] at hlive
      nomatch hlive
    · rw [update_of_ne hq] at hlive hloc hpeer
      exact hq (honly q ⟨hmem, hlive, hloc, hpeer⟩)

/-- One address and names of any form. -/
def sampleTexts : Texts where
  namespaceName _ := true
  objectName _ := true
  parseAddr
    | "10.0.0.0" => some (.v4 0x0a000000#32)
    | _ => none

/-- VPC `a` with 10.0.0.0/8 and VPC `b` with 10.0.0.0/08. -/
def sampleSnapshot : Snapshot sampleTexts where
  vpc
    | ⟨"t", "a"⟩ => some ⟨false, ["10.0.0.0/8"], 100⟩
    | ⟨"t", "b"⟩ => some ⟨false, ["10.0.0.0/08"], 200⟩
    | _ => none
  named _ := ⟨rfl, rfl⟩
  distinct {r s v w} hr hs _ _ hvni := by
    split at hr <;> split at hs <;> cases hr <;> cases hs
    · rfl
    · exact absurd hvni (by decide)
    · exact absurd hvni (by decide)
    · rfl

/-- The two halves, and two peerings of `b` with itself. -/
def samplePeering : Fin 4 → VPCPeering
  | 0 => ⟨"t", "a", ⟨"t", "b"⟩, false⟩
  | 1 => ⟨"t", "b", ⟨"t", "a"⟩, false⟩
  | _ => ⟨"t", "b", ⟨"t", "b"⟩, false⟩

theorem peering_unseen :
    Overlap sampleTexts.parseAddr ["10.0.0.0/8"] ["10.0.0.0/08"] ∧
    (desiredPeerLinks sampleTexts samplePeering sampleSnapshot.vpc
      [some 0, some 1, some 2, some 3]).map (fun l => (l.a, l.b)) =
      [(100#32, 200#32), (200#32, 200#32)] := by
  refine ⟨⟨_, List.mem_singleton_self _, _, List.mem_singleton_self _, .mask4 0x0a000000#32 8,
    .mask4 0x0a000000#32 8, by decide +kernel, by decide +kernel, by decide +kernel⟩,
    by decide +kernel⟩

end CozyPeerLink
