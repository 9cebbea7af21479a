import Cozyplane.OriginIsolationProofs

/-!
# SecurityGroups and placement — one node or two

The same packet from endpoint `s` to endpoint `d` meets its SecurityGroups at different places:

* ONE NODE — `from_pod` redirects it into `d`'s veth and `to_pod` looks `s`'s groups up;
* TWO NODES — `from_pod` stamps `s`'s groups into the tunnel option when there are any,
  `from_overlay` judges the stamped groups and leaves `SG_OK`, and `to_pod` skips its own check;
  without an option `to_pod` judges as on one node.

Both judge the same thing, of the same bitmaps, but not at the same MOMENT: `svc_return` comes
before the check of `to_pod` and after that of `from_overlay`.
-/

namespace CozySgPlacement

open CozyPacket CozyMaps CozyDatapath CozyPolicy CozyNat CozyService
open CozyFromPod CozyReceive CozyOrigin

/-- A redirect enters the endpoint's veth, where `to_pod` runs. -/
def enter (m : Maps) (env : Env) (out : Out) : Out :=
  match out.act with
  | .deliver _ _ ep => toPodContinue m out.flows env { out.skb with ifindex := ep.ifindex }
  | _ => out

/-- Both endpoints on one node. -/
def oneNode (m : Maps) (f : Flows) (env : Env) (skb : Skb) : Out :=
  enter m env (fromPod m f env skb)

/-- What the tunnel brings to the other node, from the node `remote`. -/
def decapsulated (m₂ : Maps) (out : Out) (id remote : U32) (opt : Option TunOpt) : Skb :=
  ⟨out.skb.frame, 0#32, cfg m₂ cfgGeneveIfindex, 0#32, some (id, remote), opt⟩

/-- The source on a node with tables `m₁`, `f₁`, the destination on one with `m₂`, `f₂`. -/
def twoNodes (m₁ : Maps) (f₁ : Flows) (m₂ : Maps) (f₂ : Flows) (env : Env) (remote : U32)
    (skb : Skb) : Out :=
  let out := fromPod m₁ f₁ env skb
  match out.act with
  | .tunnel id _ opt =>
    enter m₂ env (cozyplaneFromOverlay m₂ f₂ (decapsulated m₂ out id remote opt))
  | _ => out

/-- A packet between two VPC addresses, to network `M`. -/
structure VpcPacket (fr : Frame) (p : Pkt) (M : U32) : Prop where
  parses : parseIp fr = some p
  header : unsupportedIpHeader fr = false
  dst : platformDst p = false
  src4 : hostIdentity4 p = false
  src6 : (p.isV6 && v6LinkScoped p.src) = false
  tenant : M ≠ 0#32
  unflagged : hasBit M (tunFGateway ||| tunFForward) = false

/-- `s` sends with its own address from its own veth in `N`, and `d` is an address of `M` that names
    no service. -/
structure Leaves (m : Maps) (skb : Skb) (p : Pkt) (v N M : U32) : Prop where
  veth : TenantVeth m skb v
  net : portNet v = N
  owns : ∃ ep, m.locals ⟨N, p.src⟩ = some ep ∧ ep.ifindex = skb.ifindex
  dstNet : netOf m N p.dst = M
  allowed : netsAllowed m N M = true
  quiet : m.params cfgSgUpdating = 0#32
  noSvc : ∀ port, m.svcVips ⟨M, p.dst, p.proto, port⟩ = none

/-- The receiver's node: `d` is behind its own veth in `M`, and `s` is an address of `N`. -/
structure Enters (m : Maps) (p : Pkt) (N M : U32) (ep : Endpoint) : Prop where
  row : m.locals ⟨M, p.dst⟩ = some ep
  veth : ∃ w, m.ports ep.ifindex = some w ∧ w ≠ portQuarantine ∧ portNet w = M
  srcNet : netOf m M p.src = N
  dstNet : netOf m M p.dst = M
  allowed : netsAllowed m N M = true
  quiet : m.params cfgSgUpdating = 0#32

/-- The endpoint is here, and its owner is the one its membership row was written for. -/
def Owned (m : Maps) (k : LocalKey) : Prop :=
  ∃ ep member, m.locals k = some ep ∧ m.sgMembers k = some member ∧ ep.sgOwner = member.owner

/-- Two nodes hold the same rules and memberships. -/
structure SameGroups (m m' : Maps) : Prop where
  members : m.sgMembers = m'.sgMembers
  rules : m.sgRules = m'.sgRules
  egress : m.sgEgress = m'.sgEgress

variable {m m₁ m₂ : Maps} {f f₁ : Flows} {env : Env} {skb : Skb} {p : Pkt}
variable {v N M : U32} {ep : Endpoint}

theorem sgMembership_owned {k : LocalKey} {row : Endpoint} {member : SgMember}
    (hnet : k.net ≠ 0#32) (hrow : m.locals k = some row) (hmember : m.sgMembers k = some member)
    (howner : row.sgOwner = member.owner) :
    sgMembership m k = if member.owner = 0#256 then 1#64 else member.groups := by
  unfold sgMembership
  rw [if_neg hnet, hrow, hmember]
  simp only [howner, ne_eq, not_true_eq_false, or_false]

theorem sgMembership_same {k : LocalKey} (hnet : k.net ≠ 0#32) (ho : Owned m k)
    (ho' : Owned m₁ k) (hs : SameGroups m m₁) : sgMembership m k = sgMembership m₁ k := by
  obtain ⟨row, member, hrow, hmember, howner⟩ := ho
  obtain ⟨row', member', hrow', hmember', howner'⟩ := ho'
  have hm : member = member' := by
    rw [hs.members] at hmember
    exact Option.some.inj (hmember.symm.trans hmember')
  subst hm
  rw [sgMembership_owned hnet hrow hmember howner, sgMembership_owned hnet hrow' hmember' howner']

theorem sgMembership_elsewhere {k : LocalKey} (hnet : k.net ≠ 0#32) (ho : Owned m₁ k)
    (hzero : sgMembership m₁ k = 0#64) (hs : SameGroups m₁ m₂) (haway : m₂.locals k = none) :
    sgMembership m₂ k = 0#64 := by
  obtain ⟨row, member, hrow, hmember, howner⟩ := ho
  rw [sgMembership_owned hnet hrow hmember howner] at hzero
  have hgroups : member.groups = 0#64 := by
    split at hzero
    · exact absurd hzero (by decide)
    · exact hzero
  unfold sgMembership
  rw [if_neg hnet, haway, ← hs.members, hmember]
  exact hgroups

theorem load16_l4_clamp (fr : Frame) (i : Nat) (hi : i < 19) :
    load16 (tcpMssClampPacket fr).l4 i = load16 fr.l4 i := by
  unfold load16
  rw [load8_tcpMssClampPacket fr (by omega), load8_tcpMssClampPacket fr (by omega)]

@[simp] theorem sgL4_clamp (fr : Frame) (proto : U8) :
    sgL4 (tcpMssClampPacket fr) proto = sgL4 fr proto := by
  unfold sgL4
  rw [load16_l4_clamp fr 2 (by omega), tcpFlags_tcpMssClampPacket]

variable {fr : Frame} {mark : U32}

/-- **ONE JUDGEMENT**: without a mark, `to_pod` judges what `from_overlay` would. -/
theorem groupsRefuse_eq (hM : M ≠ 0#32) (hdst : netOf m M p.dst = M)
    (hmark : hasBit mark (gwMark ||| sgOk ||| fwdMark) = false) :
    groupsRefuse m fr p N M mark = tlvRefuses m fr p M N (sgMembership m ⟨N, p.src⟩) := by
  have hne : (M != 0#32) = true := by simpa using hM
  unfold groupsRefuse tlvRefuses
  rw [hdst, hmark, hne]
  cases sgL4 fr p.proto with
  | none | some dport => rfl

/-- The judgement is a function of the rules, the memberships and the two bitmaps. -/
theorem tlvRefuses_same {srcmap : U64} (hs : SameGroups m m₂) (hq : m.params cfgSgUpdating = 0#32)
    (hq₂ : m₂.params cfgSgUpdating = 0#32) (hd : sgMembership m ⟨M, p.dst⟩ = sgMembership m₂ ⟨M, p.dst⟩) :
    tlvRefuses m fr p M N srcmap = tlvRefuses m₂ fr p M N srcmap := by
  unfold tlvRefuses
  cases sgL4 fr p.proto with
  | none => rfl
  | some dport =>
    simp only [sgAdmit, sgEgressAdmit, hq, hq₂, hd, hs.rules, hs.egress]

/-- `svc_rev` on this node has an entry for the packet. -/
def svcHit (f : Flows) (fr : Frame) (p : Pkt) (M : U32) : Bool :=
  match svcPorts fr p with
  | none => false
  | some (sport, dport) => (f.svcRev ⟨M, p.proto, dport, p.src, p.dst, sport⟩).isSome

@[simp] theorem svcHit_clamp (fr : Frame) : svcHit f (tcpMssClampPacket fr) p M = svcHit f fr p M := by
  have hihl : ihlNot5 (tcpMssClampPacket fr) = ihlNot5 fr := by
    cases fr with
    | ip4 h b | ip6 h b => simp only [tcpMssClampPacket]; split <;> rfl
    | arp | other | runt => rfl
  unfold svcHit svcPorts
  rw [hihl, l4Ports_tcpMssClampPacket]

theorem svcReturn_hit (f : Flows) (skb : Skb) (p : Pkt) (M : U32) :
    (svcHit f skb.frame p M = true ∧ ∃ out, svcReturn f skb p M = some out ∧ out.act = .ok) ∨
      (svcHit f skb.frame p M = false ∧ svcReturn f skb p M = none) := by
  unfold svcHit svcReturn
  cases svcPorts skb.frame p with
  | none => exact .inr ⟨rfl, rfl⟩
  | some ports =>
    obtain ⟨sport, dport⟩ := ports
    simp only []
    cases f.svcRev ⟨M, p.proto, dport, p.src, p.dst, sport⟩ with
    | none => exact .inr ⟨rfl, rfl⟩
    | some rv => exact .inl ⟨rfl, _, rfl, rfl⟩

-- ── the programs on this packet

theorem hasBit_cleared {a x : U32} (hx : x &&& ~~~privateMarks = 0#32) :
    hasBit ((mark &&& ~~~privateMarks) ||| a) x = hasBit a x := by
  have h : ((mark &&& ~~~privateMarks) ||| a) &&& x = a &&& x := by
    ext i hi
    have hbit := congrArg (BitVec.getLsbD · i) hx
    simp
    grind
  unfold hasBit
  rw [h]

theorem svcForward_miss {srcnet : U32} (h : ∀ port, m.svcVips ⟨M, p.dst, p.proto, port⟩ = none) :
    svcForward m f skb p srcnet M = (f, skb, p) := by
  unfold svcForward
  cases svcPorts skb.frame p with
  | none => rfl
  | some ports =>
    obtain ⟨sport, dport⟩ := ports
    simp only [h dport]

theorem authenticate_own (h : Leaves m skb p v N M) (hp : VpcPacket skb.frame p M) :
    authenticate m ⟨some v, false⟩ skb.ifindex p = some false := by
  obtain ⟨row, hrow, hif⟩ := h.owns
  have hown : ownsSource m ⟨some v, false⟩ skb.ifindex p = true := by
    unfold ownsSource
    rw [show localOf m (Origin.srcnet ⟨some v, false⟩) p.src = some row from by
      show m.locals ⟨portNet v, p.src⟩ = some row
      rw [h.net]
      exact hrow]
    exact beq_iff_eq.mpr hif
  have hgw : Origin.isGw ⟨some v, false⟩ = false := h.veth.notGw
  unfold authenticate
  rw [hgw, hp.src4, hown]
  rfl

theorem fromPod_tail (h : Leaves m skb p v N M) (hp : VpcPacket skb.frame p M) :
    fromPod m f env skb =
      deliverTail m f (Skb.clearMarks skb) p ⟨some v, false⟩ false M := by
  have hdst : netOf m (portNet v) p.dst = M := by rw [h.net]; exact h.dstNet
  have hquiet : (cfg m cfgSgUpdating != 0#32) = false := by
    show (m.params cfgSgUpdating != 0#32) = false
    rw [h.quiet]
    rfl
  rw [fromPod_vpc h.veth hp.parses (by rw [hdst]; exact hp.tenant) hp.dst, hp.header,
    authenticate_own h hp, hquiet, hdst, h.net, h.allowed]
  rfl

theorem fromPod_here (h : Leaves m skb p v N M) (hp : VpcPacket skb.frame p M)
    (hrow : m.locals ⟨M, p.dst⟩ = some ep) :
    fromPod m f env skb =
      deliverLocal f { Skb.clearMarks skb with
        mark := (skb.mark &&& ~~~privateMarks) ||| vpcMark } M p.dst ep := by
  have hgw : Origin.isGw ⟨some v, false⟩ = false := h.veth.notGw
  rw [fromPod_tail h hp]
  unfold deliverTail
  rw [hgw]
  simp only [Bool.not_false, Bool.and_self, if_true, svcForward_miss h.noSvc]
  unfold localStage
  rw [if_neg hp.tenant, show localOf m M p.dst = some ep from hrow]
  rfl

theorem fromPod_away {node : U32} (h : Leaves m skb p v N M) (hp : VpcPacket skb.frame p M)
    (hrow : m.locals ⟨M, p.dst⟩ = none) (hremote : remoteOf m M p.dst = some node)
    (hdev : cfg m cfgGeneveIfindex ≠ 0#32) (hN : N ≠ 0#32) :
    fromPod m f env skb =
      ⟨f, (Skb.clearMarks skb).clampMss, .tunnel M node
        (if sgMembership m ⟨N, p.src⟩ != 0#64 then some (.sg N (sgMembership m ⟨N, p.src⟩))
          else none)⟩ := by
  have hgw : Origin.isGw ⟨some v, false⟩ = false := h.veth.notGw
  have hnet : Origin.srcnet ⟨some v, false⟩ = N := h.net
  have hid : tunnelId m M 0#32 = M := tunnelId_vpc hp.tenant
  rw [fromPod_tail h hp]
  unfold deliverTail
  rw [hgw]
  simp only [Bool.not_false, Bool.and_self, if_true, svcForward_miss h.noSvc]
  unfold localStage
  rw [if_neg hp.tenant, show localOf m M p.dst = none from hrow]
  simp only [orElse_miss]
  unfold remoteStage
  rw [hremote, hnet]
  have hgrouped : N ≠ 0#32 ∧ True := ⟨hN, trivial⟩
  simp only [hN, false_and, if_false, orElse_done, Bool.false_eq_true, if_pos hgrouped]
  unfold encapSg
  rw [if_neg hdev, hid]

/-- What `to_pod` goes on with. -/
abbrev unmarked (skb : Skb) : Skb := { skb with mark := skb.mark &&& ~~~vpcMark }

/-- **TO_POD ON NATIVE VPC TRAFFIC**: a service reply passes; the rest is the groups' judgement,
    unless the mark says it was made. -/
theorem toPod_native (h : Enters m p N M ep) (hp : VpcPacket skb.frame p M)
    (hif : skb.ifindex = ep.ifindex) (hvpc : hasBit skb.mark vpcMark = true)
    (hfwd : hasBit (skb.mark &&& ~~~vpcMark) fwdMark = false) :
    (toPodContinue m f env skb).act ≠ .shot ↔
      svcHit f skb.frame p M = true ∨
        groupsRefuse m skb.frame p N M (skb.mark &&& ~~~vpcMark) = false := by
  obtain ⟨w, hport, hlive, hnet⟩ := h.veth
  have hsrcnet : (originOf m skb).srcnet = M := by
    simp only [Origin.srcnet, originOf, hif, hport, hnet]
  have horigin : (originOf m skb).port = some w := by
    show m.ports skb.ifindex = some w
    rw [hif, hport]
  have howner : receivingOwner m skb M p.dst = true := by
    unfold receivingOwner
    rw [if_pos hvpc]
    simp only [h.row]
    exact beq_iff_eq.mpr hif.symm
  have hstage : toPodContinue m f env skb =
      orElse (attempt f (svcReturn f (unmarked skb) p M)) fun f =>
        judge m f (unmarked skb) p M := by
    have h4 : guarded (!p.isV6) f (attempt f (toPodV4 m f env
        (unmarked skb) p true)) = .miss f := by
      cases hv6 : p.isV6 with
      | true => rfl
      | false =>
        have hsrc := hp.src4
        simp only [hostIdentity4, hv6, Bool.not_false, Bool.true_and, Bool.or_eq_false_iff,
          beq_eq_false_iff_ne] at hsrc
        simp [guarded, attempt, toPodV4, hsrc.1, hsrc.2]
    have h6 : guarded p.isV6 f (attempt f (toPodV6 m f env
        (unmarked skb) p true)) = .miss f := by
      cases p.isV6 with
      | true | false => rfl
    show (if (originOf m skb).port = some portQuarantine then _ else _) = _
    rw [horigin, if_neg (fun h => hlive (Option.some.inj h)), hp.header, hp.parses]
    simp only [Bool.false_eq_true, if_false, hsrcnet, howner, Bool.not_true, hvpc]
    rw [show toPodReplies m f (unmarked skb) p true = none from rfl]
    simp only [show attempt f none = .miss f from rfl, orElse_miss, h4, h6, hp.src6]
    rfl
  have hjudge : judge m f (unmarked skb) p M =
      if groupsRefuse m skb.frame p N M (skb.mark &&& ~~~vpcMark) then
        shotOut f (unmarked skb)
      else admitToPod f (unmarked skb) := by
    unfold judge
    rw [h.srcNet]
    simp only [h.allowed, Bool.not_true, Bool.false_and, Bool.false_eq_true, if_false,
      fwdGroupsRefuse, hfwd, Bool.and_false, hp.tenant]
  rw [hstage]
  rcases svcReturn_hit f (unmarked skb) p M with
    ⟨hhit, out, hout, hok⟩ | ⟨hmiss, hout⟩
  · rw [hout]
    refine iff_of_true ?_ (.inl hhit)
    show out.act ≠ .shot
    rw [hok]
    rintro ⟨⟩
  · rw [hout]
    show (judge m f (unmarked skb) p M).act ≠ .shot ↔ _
    rw [hjudge, show svcHit f skb.frame p M = false from hmiss]
    cases groupsRefuse m skb.frame p N M (skb.mark &&& ~~~vpcMark) with
    | true =>
      refine iff_of_false (fun h => h rfl) ?_
      rintro (h | h)
      · cases h
      · cases h
    | false => exact iff_of_true (by rintro ⟨⟩) (.inr rfl)

theorem groupsRefuse_marked (hmark : hasBit mark (gwMark ||| sgOk ||| fwdMark) = true) :
    groupsRefuse m fr p N M mark = false := by
  unfold groupsRefuse
  rw [hmark, Bool.not_true, Bool.and_false, Bool.false_and]

/-- Bits set after the marks were cleared, as `to_pod` sees them. -/
theorem hasBit_unmarked {a x : U32} (hx : (~~~vpcMark &&& x) &&& ~~~privateMarks = 0#32) :
    hasBit (((mark &&& ~~~privateMarks) ||| a) &&& ~~~vpcMark) x = hasBit a (~~~vpcMark &&& x) := by
  rw [← hasBit_cleared hx]
  unfold hasBit
  rw [BitVec.and_assoc]

theorem vpcPacket_congr {fr' : Frame} (hp : VpcPacket fr p M) (hparse : parseIp fr' = parseIp fr)
    (hheader : unsupportedIpHeader fr' = unsupportedIpHeader fr) : VpcPacket fr' p M :=
  ⟨hparse.trans hp.parses, hheader.trans hp.header, hp.dst, hp.src4, hp.src6, hp.tenant,
    hp.unflagged⟩

/-- **ON ONE NODE** the packet passes iff it is a service reply or the groups admit it. -/
theorem oneNode_iff (h : Leaves m skb p v N M) (hr : Enters m p N M ep)
    (hp : VpcPacket skb.frame p M) :
    (oneNode m f env skb).act ≠ .shot ↔
      svcHit f skb.frame p M = true ∨
        tlvRefuses m skb.frame p M N (sgMembership m ⟨N, p.src⟩) = false := by
  have hmark : hasBit (((skb.mark &&& ~~~privateMarks) ||| vpcMark) &&& ~~~vpcMark)
      (gwMark ||| sgOk ||| fwdMark) = false := by
    rw [hasBit_unmarked (by decide)]
    decide
  have hfwd : hasBit (((skb.mark &&& ~~~privateMarks) ||| vpcMark) &&& ~~~vpcMark) fwdMark =
      false := by
    rw [hasBit_unmarked (by decide)]
    decide
  have hvpc : hasBit ((skb.mark &&& ~~~privateMarks) ||| vpcMark) vpcMark = true := by
    rw [hasBit_cleared (by decide)]
    decide
  rw [← groupsRefuse_eq hp.tenant hr.dstNet hmark]
  unfold oneNode
  rw [fromPod_here h hp hr.row]
  exact toPod_native hr hp rfl hvpc hfwd

theorem fromOverlay_vpc {remote : U32} {out : Out} {opt : Option TunOpt} (hr : Enters m p N M ep)
    (hp : VpcPacket out.skb.frame p M) (hknown : m.overlayNodes remote = true)
    (hvni : M ≠ cfg m cfgVni) :
    cozyplaneFromOverlay m f (decapsulated m out M remote opt) =
      overlayLocal m f (Skb.clearMarks (decapsulated m out M remote opt)) p M M ep := by
  have hvniM : tunnelVni M = M := tunnelVni_plain (by simpa [hasBit] using hp.unflagged)
  rw [fromOverlay_tenant (decapsulated m out M remote opt) hp.header hp.parses rfl hknown
    (by rw [hvniM]; exact hvni), hvniM]
  unfold overlayVpc
  rw [show localOf m M p.dst = some ep from hr.row]

theorem overlayLocal_native {skb' : Skb} (hp : VpcPacket skb'.frame p M) :
    overlayLocal m f skb' p M M ep =
      match skb'.tunOpt with
      | some (.sg srcNet srcmap) =>
        if tlvRefuses m skb'.frame p M srcNet srcmap then shotOut f skb'
        else deliverLocal f { skb' with mark := skb'.mark ||| sgOk ||| vpcMark } M p.dst ep
      | _ => deliverLocal f { skb' with mark := skb'.mark ||| vpcMark } M p.dst ep := by
  have hzero : M &&& (tunFGateway ||| tunFForward) = 0#32 := by simpa [hasBit] using hp.unflagged
  have hflag : ∀ x, x &&& (tunFGateway ||| tunFForward) = x → hasBit M x = false := by
    intro x hx
    have hand : M &&& x = 0#32 := by
      rw [← hx, BitVec.and_comm x, ← BitVec.and_assoc, hzero, BitVec.zero_and]
    unfold hasBit
    rw [hand]
    rfl
  unfold overlayLocal
  rewrite [hflag tunFGateway (by decide), hflag tunFForward (by decide)]
  rfl

/-- **ON TWO NODES** `from_overlay` judges a grouped source, service reply or not, and `to_pod` an
    ungrouped one. -/
theorem twoNodes_iff {node remote : U32} (h : Leaves m₁ skb p v N M) (hr : Enters m₂ p N M ep)
    (hp : VpcPacket skb.frame p M) (hN : N ≠ 0#32) (haway : m₁.locals ⟨M, p.dst⟩ = none)
    (hremote : remoteOf m₁ M p.dst = some node) (hdev : cfg m₁ cfgGeneveIfindex ≠ 0#32)
    (hknown : m₂.overlayNodes remote = true) (hvni : M ≠ cfg m₂ cfgVni) :
    (twoNodes m₁ f₁ m₂ f env remote skb).act ≠ .shot ↔
      if sgMembership m₁ ⟨N, p.src⟩ = 0#64 then
        svcHit f skb.frame p M = true ∨
          tlvRefuses m₂ skb.frame p M N (sgMembership m₂ ⟨N, p.src⟩) = false
      else tlvRefuses m₂ skb.frame p M N (sgMembership m₁ ⟨N, p.src⟩) = false := by
  have hclamp : VpcPacket (tcpMssClampPacket skb.frame) p M :=
    vpcPacket_congr hp (parseIp_tcpMssClampPacket _) (unsupportedIpHeader_tcpMssClampPacket _)
  have hrefuse : ∀ srcmap, tlvRefuses m₂ (tcpMssClampPacket skb.frame) p M N srcmap =
      tlvRefuses m₂ skb.frame p M N srcmap := by
    intro srcmap
    unfold tlvRefuses
    rw [sgL4_clamp]
  unfold twoNodes
  rw [fromPod_away h hp haway hremote hdev hN]
  show (enter m₂ env (cozyplaneFromOverlay m₂ f (decapsulated m₂ _ M remote _))).act ≠ .shot ↔ _
  rw [fromOverlay_vpc hr hclamp hknown hvni, overlayLocal_native hclamp]
  by_cases hzero : sgMembership m₁ ⟨N, p.src⟩ = 0#64
  · have hmark : hasBit (((0#32 &&& ~~~privateMarks) ||| vpcMark) &&& ~~~vpcMark)
        (gwMark ||| sgOk ||| fwdMark) = false := by decide
    have hvpc : hasBit ((0#32 &&& ~~~privateMarks) ||| vpcMark) vpcMark = true := by decide
    have hfwd : hasBit (((0#32 &&& ~~~privateMarks) ||| vpcMark) &&& ~~~vpcMark) fwdMark =
        false := by decide
    rw [hzero, if_pos rfl, ← hrefuse, ← svcHit_clamp, ← groupsRefuse_eq hp.tenant hr.dstNet hmark]
    exact toPod_native hr hclamp rfl hvpc hfwd
  · have hne : (sgMembership m₁ ⟨N, p.src⟩ != 0#64) = true := by simpa using hzero
    rw [hne, if_neg hzero, if_pos rfl, ← hrefuse]
    show (enter m₂ env (if tlvRefuses m₂ (tcpMssClampPacket skb.frame) p M N
      (sgMembership m₁ ⟨N, p.src⟩) then _ else _)).act ≠ .shot ↔ _
    cases tlvRefuses m₂ (tcpMssClampPacket skb.frame) p M N (sgMembership m₁ ⟨N, p.src⟩) with
    | true => exact iff_of_false (fun h => h rfl) nofun
    | false =>
      have hmark : hasBit (((0#32 &&& ~~~privateMarks) ||| sgOk ||| vpcMark) &&& ~~~vpcMark)
          (gwMark ||| sgOk ||| fwdMark) = true := by decide
      have hvpc : hasBit ((0#32 &&& ~~~privateMarks) ||| sgOk ||| vpcMark) vpcMark = true := by
        decide
      have hfwd : hasBit (((0#32 &&& ~~~privateMarks) ||| sgOk ||| vpcMark) &&& ~~~vpcMark)
          fwdMark = false := by decide
      refine iff_of_true ?_ rfl
      exact (toPod_native hr hclamp rfl hvpc hfwd).mpr (.inr (groupsRefuse_marked hmark))

/-- **WHEN PLACEMENT DOES NOT MATTER.** The packet passes on one node iff it passes on two, unless
    `d`'s node knows it as a ServiceVIP reply, its source is grouped, and the groups refuse it. -/
theorem sgPlacement_iff {node remote : U32} {ep₂ : Endpoint} {skb₁ : Skb} {v₁ : U32}
    (hp : VpcPacket skb.frame p M) (hframe : skb₁.frame = skb.frame) (hN : N ≠ 0#32)
    (hsend : Leaves m skb p v N M) (hrecv : Enters m p N M ep)
    (hsend₁ : Leaves m₁ skb₁ p v₁ N M) (hrecv₂ : Enters m₂ p N M ep₂)
    (haway : m₁.locals ⟨M, p.dst⟩ = none) (haway₂ : m₂.locals ⟨N, p.src⟩ = none)
    (hremote : remoteOf m₁ M p.dst = some node) (hdev : cfg m₁ cfgGeneveIfindex ≠ 0#32)
    (hknown : m₂.overlayNodes remote = true) (hvni : M ≠ cfg m₂ cfgVni)
    (hs₁ : SameGroups m m₁) (hs₂ : SameGroups m m₂)
    (hsrc : Owned m ⟨N, p.src⟩) (hsrc₁ : Owned m₁ ⟨N, p.src⟩)
    (hdst : Owned m ⟨M, p.dst⟩) (hdst₂ : Owned m₂ ⟨M, p.dst⟩) :
    ((oneNode m f env skb).act ≠ .shot ↔ (twoNodes m₁ f₁ m₂ f env remote skb₁).act ≠ .shot) ↔
      svcHit f skb.frame p M = false ∨ sgMembership m ⟨N, p.src⟩ = 0#64 ∨
        tlvRefuses m skb.frame p M N (sgMembership m ⟨N, p.src⟩) = false := by
  have hgroups : sgMembership m ⟨N, p.src⟩ = sgMembership m₁ ⟨N, p.src⟩ :=
    sgMembership_same hN hsrc hsrc₁ hs₁
  have hjudge : ∀ srcmap, tlvRefuses m skb.frame p M N srcmap =
      tlvRefuses m₂ skb.frame p M N srcmap := fun srcmap =>
    tlvRefuses_same hs₂ hrecv.quiet hrecv₂.quiet (sgMembership_same hp.tenant hdst hdst₂ hs₂)
  have hs₁₂ : SameGroups m₁ m₂ := ⟨hs₁.members.symm.trans hs₂.members,
    hs₁.rules.symm.trans hs₂.rules, hs₁.egress.symm.trans hs₂.egress⟩
  rw [oneNode_iff hsend hrecv hp, twoNodes_iff hsend₁ hrecv₂ (hframe ▸ hp) hN haway hremote hdev
    hknown hvni, hframe, ← hgroups, ← hjudge, ← hjudge]
  by_cases hzero : sgMembership m ⟨N, p.src⟩ = 0#64
  · have helse : sgMembership m₂ ⟨N, p.src⟩ = 0#64 :=
      sgMembership_elsewhere hN hsrc₁ (hgroups.symm.trans hzero) hs₁₂ haway₂
    rw [if_pos hzero, helse, hzero]
    exact iff_of_true Iff.rfl (.inr (.inl rfl))
  · rw [if_neg hzero]
    cases svcHit f skb.frame p M with
    | false => simp
    | true => simp [hzero]

def vpcServer : Addr := v4To128 0x0a000005#32
def vpcClient : Addr := v4To128 0x0a000006#32

/-- VPC 100 is 10.0.0.0/24, with the service 10.0.0.53:53. The server is in group 1, the client in
    group 2; the only rule lets the client ask on UDP 53. -/
def sgNode (server client : Bool) : Maps :=
  { Maps.empty with
    params := fun i => if i = cfgGeneveIfindex then 1#32 else if i = cfgUplinkIfindex then 2#32
      else if i = cfgVni then 7#32 else 0#32
    ports := fun i => if i = 5#32 ∧ server = true ∨ i = 6#32 ∧ client = true then some 100#32
      else none
    locals := fun k => if k = ⟨100#32, vpcServer⟩ ∧ server = true then some ⟨5#32, 1#256⟩
      else if k = ⟨100#32, vpcClient⟩ ∧ client = true then some ⟨6#32, 2#256⟩ else none
    remotes := (if server then [] else [⟨160, 100#32 ++ vpcServer, 0xac100001#32⟩]) ++
      (if client then [] else [⟨160, 100#32 ++ vpcClient, 0xac100002#32⟩])
    overlayNodes := fun _ => true
    networks := [⟨152, 100#32 ++ v4To128 0x0a000000#32, 100#32⟩]
    sgMembers := fun k => if k = ⟨100#32, vpcServer⟩ then some ⟨2#64, 1#256⟩
      else if k = ⟨100#32, vpcClient⟩ then some ⟨4#64, 2#256⟩ else none
    sgRules := fun k => if k = ⟨100#32, 100#32, 1, 53#16, ipprotoUdp⟩ then some 4#64 else none
    sgEgress := fun k => if k = ⟨100#32, 100#32, 2, 53#16, ipprotoUdp⟩ then some 2#64 else none
    svcVips := fun k => if k = ⟨100#32, v4To128 0x0a000035#32, ipprotoUdp, 53#16⟩ then
      some ⟨1#32, 0#32, fun _ => ⟨vpcServer, 53#16⟩⟩ else none }

/-- The client's query, and the server's answer. -/
def sgQuery : Skb :=
  ⟨.ip4 ⟨4#4, 5#4, 0#16, ipprotoUdp, 0x0a000006#32, 0x0a000035#32⟩
    [156#8, 64#8, 0#8, 53#8, 0#8, 8#8, 0#8, 0#8], 0#32, 6#32, 0#32, none, none⟩

def sgAnswer : Skb :=
  ⟨.ip4 ⟨4#4, 5#4, 0#16, ipprotoUdp, 0x0a000005#32, 0x0a000006#32⟩
    [0#8, 53#8, 156#8, 64#8, 0#8, 8#8, 0#8, 0#8], 0#32, 5#32, 0#32, none, none⟩

def sgEnv : Env := ⟨0#64, 0#32, true, true⟩

/-- The flow tables of the client's node after the query. -/
def sgAsked (m : Maps) : Flows := (fromPod m Flows.empty sgEnv sgQuery).flows

theorem sgAnswer_vpc : VpcPacket sgAnswer.frame ⟨false, ipprotoUdp, vpcServer, vpcClient⟩ 100#32 :=
  ⟨rfl, by decide, by decide, by decide, by decide, by decide, by decide⟩

theorem sgClient_noSvc (server client : Bool) (port : U16) :
    (sgNode server client).svcVips ⟨100#32, vpcClient, ipprotoUdp, port⟩ = none := by
  show (if (⟨100#32, vpcClient, ipprotoUdp, port⟩ : SvcKey) =
      ⟨100#32, v4To128 0x0a000035#32, ipprotoUdp, 53#16⟩ then
    some (⟨1#32, 0#32, fun _ => ⟨vpcServer, 53#16⟩⟩ : SvcVal) else none) = none
  refine if_neg fun h => ?_
  have hvip : vpcClient = v4To128 0x0a000035#32 := congrArg SvcKey.vip h
  exact absurd hvip (by decide)

theorem sgAnswer_leaves (client : Bool) : Leaves (sgNode true client) sgAnswer
    ⟨false, ipprotoUdp, vpcServer, vpcClient⟩ 100#32 100#32 100#32 where
  veth := ⟨rfl, by decide, by decide, by decide, by cases client <;> decide⟩
  net := by decide
  owns := ⟨_, rfl, rfl⟩
  dstNet := rfl
  allowed := rfl
  quiet := rfl
  noSvc := sgClient_noSvc true client

theorem sgAnswer_enters (server : Bool) : Enters (sgNode server true)
    ⟨false, ipprotoUdp, vpcServer, vpcClient⟩ 100#32 100#32 ⟨6#32, 2#256⟩ where
  row := by cases server <;> rfl
  veth := ⟨100#32, by cases server <;> rfl, by decide, by decide⟩
  srcNet := rfl
  dstNet := rfl
  allowed := rfl
  quiet := rfl

theorem sgServer_owned (client : Bool) : Owned (sgNode true client) ⟨100#32, vpcServer⟩ :=
  ⟨_, _, rfl, rfl, rfl⟩

theorem sgClient_owned (server : Bool) : Owned (sgNode server true) ⟨100#32, vpcClient⟩ :=
  ⟨⟨6#32, 2#256⟩, ⟨4#64, 2#256⟩, by cases server <;> rfl, rfl, rfl⟩

theorem sgPlacement_unsolicited :
    (oneNode (sgNode true true) Flows.empty sgEnv sgAnswer).act ≠ .shot ↔
      (twoNodes (sgNode true false) Flows.empty (sgNode false true) Flows.empty sgEnv 0xac100001#32
        sgAnswer).act ≠ .shot :=
  (sgPlacement_iff sgAnswer_vpc rfl (by decide) (sgAnswer_leaves true) (sgAnswer_enters true)
    (sgAnswer_leaves false) (sgAnswer_enters false) rfl rfl
    (show remoteOf (sgNode true false) 100#32 vpcClient = some 0xac100002#32 by decide +kernel)
    (by decide) rfl (by decide) ⟨rfl, rfl, rfl⟩ ⟨rfl, rfl, rfl⟩ (sgServer_owned true)
    (sgServer_owned false) (sgClient_owned true) (sgClient_owned false)).mpr (.inl (by decide +kernel))

/-- **THE ANSWER DEPENDS ON PLACEMENT**: on one node `svc_return` takes it before the groups are
    asked; on two `from_overlay` asks them and drops it. -/
theorem sgPlacement_differs :
    (oneNode (sgNode true true) Flows.empty sgEnv sgQuery).act = .ok ∧
    (twoNodes (sgNode false true) Flows.empty (sgNode true false) Flows.empty sgEnv 0xac100002#32
      sgQuery).act = .ok ∧
    (oneNode (sgNode true true) (sgAsked (sgNode true true)) sgEnv sgAnswer).act = .ok ∧
    (twoNodes (sgNode true false) Flows.empty (sgNode false true) (sgAsked (sgNode false true)) sgEnv
      0xac100001#32 sgAnswer).act = .shot := by
  refine ⟨?_, ?_, ?_, ?_⟩
  all_goals decide +kernel

end CozySgPlacement
