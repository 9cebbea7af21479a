import Cozyplane.NpReplyProofs

/-!
# The host firewall and UDP — who writes `hf_ct`, who reads it

`hf_ct` holds one pin per UDP flow between a node and a peer, keyed from the node's side. It is
written at four places:

* `hf_ingress`, node-originated arm (uplink egress), after the egress gate;
* `hf_egress` (node → remote pod), after the egress gate;
* `to_pod` (node → local pod), in its NetworkPolicy block;
* `hf_ingress`, host-destined arm, after the ingress gate.

It is read at ONE: the host-destined arm of `hf_ingress`. So the fourth writer has no reader:
neither egress gate looks a pin up, and the node's reply stands or falls with the egress rules.
-/

namespace CozyHfReply

open CozyPacket CozyMaps CozyDatapath CozyPolicy CozyNat CozyService
open CozyFromPod CozyReceive CozyNpReply

/-- The pin of the flow `node:x ↔ peer:y`. -/
def hfKey (node peer : Addr) (x y : U16) : NpCtKey := ⟨node, peer, x, y, ipprotoUdp⟩

/-- No pin of `f` was evicted on the way to `g`. -/
def KeepsHf (f g : Flows) : Prop := ∀ k, f.hfCt k = true → g.hfCt k = true

/-- A packet on its way to the host stack is admitted at every exit that hands it over. -/
def Admitted (m : Maps) (f : Flows) (skb : Skb) : Prop :=
  ∀ verdict, verdict ≠ Act.shot → (hfExit m f skb verdict).act ≠ .shot

variable {m : Maps} {f g : Flows} {env : Env} {skb : Skb} {v : U32}
variable {isV6 : Bool} {node peer : Addr} {x y : U16}

/-- The ingress gate opens for `peer:y → node:x`: the overlay's own port, a pin, no isolation,
    or a rule. -/
def ingressOpen (m : Maps) (f : Flows) (isV6 : Bool) (node peer : Addr) (x y : U16) : Prop :=
  (x = (cfg m cfgGenevePort).setWidth 16 ∨ f.hfCt (hfKey node peer x y) = true) ∨
    cfg m cfgHfEnabled = 0#32 ∨
    cfg m cfgHfEnabled ≠ 2#32 ∧ hfGate m.hfAllow ipprotoUdp x peer isV6 = true

theorem hfIngress_hostDestined (hself : m.hfSelf node = true) (hpeer : m.npNodes peer = none)
    (hpkt : UdpPacket skb.frame isV6 peer node y x) :
    hfIngress m f skb =
      if x = (cfg m cfgGenevePort).setWidth 16 ∨ f.hfCt (hfKey node peer x y) = true then okOut f skb
      else if cfg m cfgHfEnabled = 0#32 then okOut f skb
      else if cfg m cfgHfEnabled = 2#32 ∨ hfGate m.hfAllow ipprotoUdp x peer isV6 = false then
        shotOut f skb
      else okOut (hfPin f ipprotoUdp node peer x y) skb := by
  have hl4 : (isTcpUdp ipprotoUdp || ipprotoUdp == ipprotoSctp) = true := rfl
  have htcp : ipprotoUdp ≠ ipprotoTcp := by decide
  unfold hfIngress
  rw [hpkt.parses, hpkt.ports]
  simp only [hl4, htcp, hself, hpeer, Bool.not_true, Bool.false_eq_true, if_false,
    Option.isSome_none, false_and, true_and, hfKey]
  rfl

theorem hfIngress_inbound (hself : m.hfSelf node = true) (hpeer : m.npNodes peer = none)
    (hpkt : UdpPacket skb.frame isV6 peer node y x) :
    (hfIngress m f skb).act ≠ .shot ↔ ingressOpen m f isV6 node peer x y := by
  rw [hfIngress_hostDestined hself hpeer hpkt]
  split
  · rename_i hpin
    exact iff_of_true nofun (.inl hpin)
  rename_i hpin
  split
  · rename_i hoff
    exact iff_of_true nofun (.inr (.inl hoff))
  rename_i hoff
  split
  · rename_i hshot
    refine iff_of_false (fun h => h rfl) ?_
    rintro (h | h | ⟨h2, hg⟩)
    · exact hpin h
    · exact hoff h
    · rcases hshot with h | h
      · exact h2 h
      · rw [hg] at h
        nomatch h
  · rename_i hshot
    obtain ⟨h2, hg⟩ := not_or.mp hshot
    exact iff_of_true nofun (.inr (.inr ⟨h2, eq_true_of_ne_false hg⟩))

/-- **INBOUND**: the packet is admitted iff the firewall is off, not loaded, or open for it. -/
theorem admitted_iff (hself : m.hfSelf node = true) (hpeer : m.npNodes peer = none)
    (hpkt : UdpPacket skb.frame isV6 peer node y x) :
    Admitted m f skb ↔
      (hfArmed m && m.lbProg 2) = false ∨ ingressOpen m f isV6 node peer x y := by
  rw [← hfIngress_inbound hself hpeer hpkt]
  unfold Admitted hfExit
  cases hfArmed m && m.lbProg 2 with
  | false =>
    refine iff_of_true ?_ (.inl rfl)
    intro verdict hne
    exact hne
  | true =>
    constructor
    · intro h
      exact .inr (h .ok nofun)
    · rintro (h | h) verdict -
      · nomatch h
      · exact h

/-- The egress gates open for `node:x → peer:y`: no isolation, or a rule. No pin is asked. -/
def egressOpen (m : Maps) (isV6 : Bool) (peer : Addr) (y : U16) : Prop :=
  cfg m cfgHfEgEnabled = 0#32 ∨
    cfg m cfgHfEgEnabled ≠ 2#32 ∧ hfGate m.hfEallow ipprotoUdp y peer isV6 = true

theorem hfEgressRefuses_iff (fr : Frame) (src : Addr) :
    hfEgressRefuses m fr ⟨isV6, ipprotoUdp, src, peer⟩ y = false ↔ egressOpen m isV6 peer y := by
  have hproto : (ipprotoUdp != ipprotoTcp || isSyn (tcpFlagsOr0 fr)) = true := rfl
  unfold hfEgressRefuses egressOpen
  simp only [hproto, Bool.and_true, Bool.and_eq_false_iff, Bool.or_eq_false_iff,
    bne_eq_false_iff_eq, beq_eq_false_iff_ne, Bool.not_eq_false', ne_eq]

theorem hfIngress_outbound (hself : m.hfSelf node = true) (hfar : m.hfSelf peer = false)
    (hpeer : m.npNodes peer = none) (hpkt : UdpPacket skb.frame isV6 node peer x y) :
    hfIngress m f skb =
      if hfEgressRefuses m skb.frame ⟨isV6, ipprotoUdp, node, peer⟩ y then shotOut f skb
      else okOut (hfPin f ipprotoUdp node peer x y) skb := by
  unfold hfIngress
  rw [hpkt.parses, hpkt.ports]
  simp only [hself, hfar, hpeer]
  rfl

theorem hfEgress_outbound (hpkt : UdpPacket skb.frame isV6 node peer x y) :
    hfEgress m f skb =
      if hfEgressRefuses m skb.frame ⟨isV6, ipprotoUdp, node, peer⟩ y then shotOut f skb
      else
        match remoteOf m 0#32 peer with
        | none => okOut (hfPin f ipprotoUdp node peer x y) skb
        | some n => encap m (hfPin f ipprotoUdp node peer x y) skb 0#32 n 0#32 := by
  unfold hfEgress
  rewrite [hpkt.parses, hpkt.ports]
  rfl

theorem hfPin_self : (hfPin f ipprotoUdp node peer x y).hfCt (hfKey node peer x y) = true :=
  Function.update_self ..

theorem hfIngress_outbound_iff (hself : m.hfSelf node = true) (hfar : m.hfSelf peer = false)
    (hpeer : m.npNodes peer = none) (hpkt : UdpPacket skb.frame isV6 node peer x y) :
    (hfIngress m f skb).act ≠ .shot ↔ egressOpen m isV6 peer y := by
  rw [← hfEgressRefuses_iff skb.frame node, hfIngress_outbound hself hfar hpeer hpkt]
  cases hfEgressRefuses m skb.frame ⟨isV6, ipprotoUdp, node, peer⟩ y with
  | true => exact iff_of_false (fun h => h rfl) nofun
  | false => exact iff_of_true nofun rfl

theorem hfEgress_outbound_iff (hdev : cfg m cfgGeneveIfindex ≠ 0#32)
    (hpkt : UdpPacket skb.frame isV6 node peer x y) :
    (hfEgress m f skb).act ≠ .shot ↔ egressOpen m isV6 peer y := by
  rw [← hfEgressRefuses_iff skb.frame node, hfEgress_outbound hpkt]
  cases hfEgressRefuses m skb.frame ⟨isV6, ipprotoUdp, node, peer⟩ y with
  | true => exact iff_of_false (fun h => h rfl) nofun
  | false =>
    refine iff_of_true ?_ rfl
    show (match remoteOf m 0#32 peer with | none => _ | some n => _ : Out).act ≠ .shot
    cases remoteOf m 0#32 peer with
    | none => exact nofun
    | some n =>
      show (encap m _ skb 0#32 n 0#32).act ≠ .shot
      rw [encap_act, if_neg hdev]
      exact nofun

-- ── delivery to a local pod

/-- The frame as the stages of `to_pod` see it. -/
def unmarked (skb : Skb) : Skb := { skb with mark := skb.mark &&& ~~~vpcMark }

/-- An exit of `to_pod` in front of the policy block takes the packet. -/
def translated (m : Maps) (f : Flows) (env : Env) (skb : Skb) (p : Pkt) : Prop :=
  let native := hasBit skb.mark vpcMark
  toPodReplies m f (unmarked skb) p native ≠ none ∨
    (if p.isV6 then toPodV6 m f env (unmarked skb) p native ≠ none ∨ v6LinkScoped p.src = true
      else toPodV4 m f env (unmarked skb) p native ≠ none) ∨
    svcReturn f (unmarked skb) p 0#32 ≠ none

/-- On the default network the last word is isolation's or the policy block's. -/
theorem judge_default (m : Maps) (f : Flows) (skb : Skb) (p : Pkt) :
    judge m f skb p 0#32 = npStage m f skb p ∨ judge m f skb p 0#32 = shotOut f skb := by
  unfold judge
  simp only [fwdGroupsRefuse, groupsRefuse, bne_self_eq_false, Bool.false_and, Bool.and_false,
    Bool.false_eq_true, if_false, if_true]
  split
  · exact .inr rfl
  · exact .inl rfl

/-- **TO_POD ON THE DEFAULT NETWORK**: a packet that no earlier exit takes and that is let
    through went through the policy block. -/
theorem toPodContinue_default {p : Pkt} (hv : PodVeth m skb v) (hp : parseIp skb.frame = some p)
    (ht : ¬ translated m f env skb p) (hpass : (toPodContinue m f env skb).act ≠ .shot) :
    toPodContinue m f env skb = npStage m f (unmarked skb) p := by
  obtain ⟨hreplies, hfam, hsvc⟩ : toPodReplies m f (unmarked skb) p (hasBit skb.mark vpcMark) = none ∧
      (if p.isV6 then toPodV6 m f env (unmarked skb) p (hasBit skb.mark vpcMark) = none ∧
          v6LinkScoped p.src = false
        else toPodV4 m f env (unmarked skb) p (hasBit skb.mark vpcMark) = none) ∧
      svcReturn f (unmarked skb) p 0#32 = none := by
    obtain ⟨h1, h23⟩ := not_or.mp ht
    obtain ⟨h2, h3⟩ := not_or.mp h23
    refine ⟨not_not.mp h1, ?_, not_not.mp h3⟩
    split at h2
    · rw [if_pos (by assumption)]
      obtain ⟨h6, hl⟩ := not_or.mp h2
      exact ⟨not_not.mp h6, Bool.not_eq_true _ ▸ hl⟩
    · rw [if_neg (by assumption)]
      exact not_not.mp h2
  have hnet : Origin.srcnet ⟨some v, false⟩ = 0#32 := hv.default
  have hrun : toPodContinue m f env skb = shotOut f skb ∨
      toPodContinue m f env skb = judge m f (unmarked skb) p 0#32 := by
    unfold toPodContinue
    rw [originOf_pod hv]
    simp only [hv.live, Option.some.injEq, if_false, hnet]
    split
    · exact .inl rfl
    rw [hp]
    simp only []
    split
    · exact .inl rfl
    refine .inr ?_
    show orElse (attempt f (toPodReplies m f (unmarked skb) p (hasBit skb.mark vpcMark))) _ = _
    rw [hreplies]
    simp only [attempt, orElse_miss]
    have hsvc' : svcReturn f { skb with mark := skb.mark &&& ~~~vpcMark } p 0#32 = none := hsvc
    cases hv6 : p.isV6 with
    | false =>
      rw [hv6] at hfam
      have h4 : toPodV4 m f env { skb with mark := skb.mark &&& ~~~vpcMark } p
          (hasBit skb.mark vpcMark) = none := hfam
      simp only [guarded, Bool.not_false, if_true, h4, orElse_miss, Bool.false_eq_true,
        if_false, Bool.false_and, hsvc']
      rfl
    | true =>
      rw [hv6] at hfam
      have h6 : toPodV6 m f env { skb with mark := skb.mark &&& ~~~vpcMark } p
          (hasBit skb.mark vpcMark) = none := hfam.1
      have hl : v6LinkScoped p.src = false := hfam.2
      simp only [guarded, Bool.not_true, Bool.false_eq_true, if_false, if_true, h6, orElse_miss,
        hl, Bool.and_false, hsvc']
      rfl
  rcases hrun with hrun | hrun
  · exact absurd (by rw [hrun]; rfl) hpass
  rcases judge_default m f (unmarked skb) p with hj | hj
  · exact hrun.trans hj
  · exact absurd (by rw [hrun, hj]; rfl) hpass

theorem cozyplaneToPod_default {p : Pkt} (hv : PodVeth m skb v) (hp : parseIp skb.frame = some p)
    (hpass : (cozyplaneToPod m f env skb).act ≠ .shot) :
    cozyplaneToPod m f env skb = toPodContinue m f env skb := by
  have hnet : (originOf m skb).srcnet = 0#32 := by rw [originOf_pod hv]; exact hv.default
  have hboundary : boundaryIngress m f env skb = (f, true) := by
    unfold boundaryIngress
    rw [hp]
    simp only [hnet, if_true]
  revert hpass
  unfold cozyplaneToPod
  rw [if_neg (by rw [hv.port]; exact fun h => hv.live (Option.some.inj h)), hboundary]
  split
  · intro h
    exact absurd rfl h
  split
  · intro _
    rfl
  · intro h
    exact absurd rfl h

theorem npStage_pins (hself : m.hfSelf node = true) (harmed : hfArmed m = true)
    (hpkt : UdpPacket skb.frame isV6 node peer x y)
    (hpass : (npStage m f skb ⟨isV6, ipprotoUdp, node, peer⟩).act ≠ .shot) :
    (npStage m f skb ⟨isV6, ipprotoUdp, node, peer⟩).flows.hfCt (hfKey node peer x y) = true := by
  obtain ⟨hs, hd⟩ := l4Ports_load16 hpkt.ports
  have hl4 : sgL4 skb.frame ipprotoUdp = some y := hd
  have hpin : ∀ isV4, (hfPinLocal m f ⟨node, peer, y, x, ipprotoUdp, isV4⟩).hfCt
      (hfKey node peer x y) = true := by
    intro isV4
    unfold hfPinLocal
    rw [if_pos hself]
    exact Function.update_self ..
  revert hpass
  unfold npStage
  rw [hl4, hs]
  simp only [if_true, Option.getD_some, harmed, and_self]
  split
  · intro h
    exact absurd rfl h
  · intro _
    exact hpin _

/-- An outgoing packet of the node that was let through, and the flow tables after it. -/
inductive Sent (m : Maps) (f : Flows) (env : Env) (skb : Skb) (p : Pkt) : Flows → Prop where
  /-- At the uplink, by the node-originated arm of `hf_ingress`. -/
  | uplink : (hfIngress m f skb).act ≠ .shot → Sent m f env skb p (hfIngress m f skb).flows
  /-- To a remote pod, by `hf_egress`. -/
  | remote : (hfEgress m f skb).act ≠ .shot → Sent m f env skb p (hfEgress m f skb).flows
  /-- To a local pod, by the policy block of `to_pod`. -/
  | local (v : U32) : PodVeth m skb v → ¬ translated m f env skb p →
      (cozyplaneToPod m f env skb).act ≠ .shot →
      Sent m f env skb p (cozyplaneToPod m f env skb).flows

/-- **EVERY WRITER ON THE WAY OUT LEAVES THE PIN** — unless the firewall is off. -/
theorem sent_pins {f' : Flows} (hself : m.hfSelf node = true) (hfar : m.hfSelf peer = false)
    (hpeer : m.npNodes peer = none) (harmed : hfArmed m = true)
    (hpkt : UdpPacket skb.frame isV6 node peer x y)
    (h : Sent m f env skb ⟨isV6, ipprotoUdp, node, peer⟩ f') :
    f'.hfCt (hfKey node peer x y) = true := by
  cases h with
  | uplink hact =>
    rw [hfIngress_outbound hself hfar hpeer hpkt] at hact ⊢
    split at hact
    · exact absurd rfl hact
    · rw [if_neg (by assumption)]
      exact hfPin_self
  | remote hact =>
    rw [hfEgress_outbound hpkt] at hact ⊢
    split at hact
    · exact absurd rfl hact
    rw [if_neg (by assumption)]
    cases remoteOf m 0#32 peer with
    | none => exact hfPin_self
    | some n =>
      show (encap m _ skb 0#32 n 0#32).flows.hfCt _ = true
      rw [encap_flows]
      exact hfPin_self
  | «local» v hv ht hact =>
    have hwrap := cozyplaneToPod_default hv hpkt.parses hact
    rw [hwrap] at hact ⊢
    have hblock := toPodContinue_default hv hpkt.parses ht hact
    rw [hblock] at hact ⊢
    exact npStage_pins hself harmed hpkt hact

/-- **HOST-FIREWALL UDP, BOTH WAYS**, with no pin evicted in between. What the node sent is
    answered; a delivery that an earlier exit of `to_pod` took leaves no pin; and what the ingress
    gate admitted is not sanctioned on the way out. -/
theorem hfUdp_iff {out back : Skb} (hself : m.hfSelf node = true) (hfar : m.hfSelf peer = false)
    (hpeer : m.npNodes peer = none) (hdev : cfg m cfgGeneveIfindex ≠ 0#32)
    (hout : UdpPacket out.frame isV6 node peer x y)
    (hback : UdpPacket back.frame isV6 peer node y x) :
    (∀ f', Sent m f env out ⟨isV6, ipprotoUdp, node, peer⟩ f' → KeepsHf f' g →
      Admitted m g back) ∧
    (∀ v, PodVeth m out v → translated m f env out ⟨isV6, ipprotoUdp, node, peer⟩ →
      (cozyplaneToPod m f env out).act ≠ .shot →
      KeepsHf (cozyplaneToPod m f env out).flows g →
      (Admitted m g back ↔
        (hfArmed m && m.lbProg 2) = false ∨ ingressOpen m g isV6 node peer x y)) ∧
    ((hfIngress m f back).act ≠ .shot → KeepsHf (hfIngress m f back).flows g →
      ((hfIngress m g out).act ≠ .shot ∧ (hfEgress m g out).act ≠ .shot ↔
        egressOpen m isV6 peer y)) := by
  refine ⟨?_, ?_, ?_⟩
  · intro f' hsent hkeep
    rw [admitted_iff hself hpeer hback]
    cases harmed : hfArmed m with
    | false => exact .inl rfl
    | true =>
      have hpin := sent_pins hself hfar hpeer harmed hout hsent
      exact .inr (.inl (.inr (hkeep _ hpin)))
  · intro v _ _ _ _
    exact admitted_iff hself hpeer hback
  · intro _ _
    rw [hfIngress_outbound_iff hself hfar hpeer hout, hfEgress_outbound_iff hdev hout, and_self]

def hfNodeAddr : Addr := v4To128 0x0a000001#32
def hfPodAddr : Addr := v4To128 0x0a010002#32
def hfClient : Addr := v4To128 0xc6336409#32

/-- Both directions isolated; inbound UDP 53 allowed when `dns`. A local pod behind veth 6, and a
    ClusterIP 10.96.0.10:53 served by the node. -/
def hfMaps (dns : Bool) : Maps :=
  { Maps.empty with
    params := fun i => if i = cfgGeneveIfindex then 1#32 else if i = cfgUplinkIfindex then 2#32
      else if i = cfgGenevePort then 6081#32 else 0#32
    hfModes := fun _ => 1#32
    ports := fun i => if i = 6#32 then some 0#32 else none
    locals := fun k => if k = ⟨0#32, hfPodAddr⟩ then some ⟨6#32, 2#256⟩ else none
    hfSelf := fun a => a == hfNodeAddr
    npNodes := fun a => if a = hfNodeAddr then some 1#8 else none
    hfAllow := if dns then [⟨32, ipprotoUdp ++ 4#8 ++ 53#16 ++ 0#128, true⟩] else []
    svcVips := fun k => if k = ⟨0#32, v4To128 0x0a60000a#32, ipprotoUdp, 53#16⟩ then
      some ⟨1#32, 0#32, fun _ => ⟨hfNodeAddr, 53#16⟩⟩ else none
    lbProg := fun i => i == 2 || i == 3 || i == 4 || i == 5 }

/-- A UDP frame; the ports are given by their four bytes. -/
def hfFrame (src dst : U32) (ports : List U8) (ifindex : U32) : Skb :=
  ⟨.ip4 ⟨4#4, 5#4, 0#16, ipprotoUdp, src, dst⟩ (ports ++ [0#8, 8#8, 0#8, 0#8]), 0#32, ifindex,
    0#32, none, none⟩

/-- `client:5353 → node:53` and the node's answer. -/
def hfQuery : Skb := hfFrame 0xc6336409#32 0x0a000001#32 [20#8, 233#8, 0#8, 53#8] 2#32
def hfAnswer : Skb := hfFrame 0x0a000001#32 0xc6336409#32 [0#8, 53#8, 20#8, 233#8] 2#32

/-- `node:53 → pod:40000`, `pod:40000 → node:53`, and `pod:40000` to the ClusterIP. -/
def hfToPod : Skb := hfFrame 0x0a000001#32 0x0a010002#32 [0#8, 53#8, 156#8, 64#8] 6#32
def hfFromPod : Skb := hfFrame 0x0a010002#32 0x0a000001#32 [156#8, 64#8, 0#8, 53#8] 6#32
def hfToVip : Skb := hfFrame 0x0a010002#32 0x0a60000a#32 [156#8, 64#8, 0#8, 53#8] 6#32

/-- The flow tables after the pod asked the ClusterIP. -/
def hfAsked : Flows := (cozyplaneFromPod (hfMaps false) Flows.empty npEnv hfToVip).flows

/-- The node answers the pod and the pod may ask again, though nothing allows it in. -/
theorem hfUdp_local_pod :
    (cozyplaneToPod (hfMaps false) Flows.empty npEnv hfToPod).act = .ok ∧
    Admitted (hfMaps false) (cozyplaneToPod (hfMaps false) Flows.empty npEnv hfToPod).flows
      hfFromPod := by
  have hveth : PodVeth (hfMaps false) hfToPod 0#32 := ⟨rfl, by decide, by decide, by decide⟩
  have hok : (cozyplaneToPod (hfMaps false) Flows.empty npEnv hfToPod).act = .ok := by
    decide +kernel
  have hsent : Sent (hfMaps false) Flows.empty npEnv hfToPod
      ⟨false, ipprotoUdp, hfNodeAddr, hfPodAddr⟩
      (cozyplaneToPod (hfMaps false) Flows.empty npEnv hfToPod).flows := by
    refine .local 0#32 hveth ?_ (by rw [hok]; exact nofun)
    unfold translated
    decide +kernel
  exact ⟨hok, (hfUdp_iff (f := Flows.empty) (x := 53#16) (y := 40000#16) (by decide) (by decide)
    rfl (by decide) ⟨rfl, rfl⟩ ⟨rfl, rfl⟩).1 _ hsent fun _ h => h⟩

/-- **STATEFULNESS IS NOT SYMMETRIC.** The node admits a query by a rule, and both egress points
    drop its answer. And a packet that `to_pod` translates back leaves no pin: its answer is
    dropped. -/
theorem hfUdp_reply_dropped :
    ((cozyplaneFromUplink (hfMaps true) Flows.empty hfQuery).act = .ok ∧
      (cozyplaneFromUplink (hfMaps true) Flows.empty hfQuery).flows.hfCt
        (hfKey hfNodeAddr hfClient 53#16 5353#16) = true ∧
      (cozyplaneFromPod (hfMaps true) (cozyplaneFromUplink (hfMaps true) Flows.empty hfQuery).flows
        npEnv hfAnswer).act = .shot ∧
      (hfEgress (hfMaps true) (cozyplaneFromUplink (hfMaps true) Flows.empty hfQuery).flows
        hfAnswer).act = .shot) ∧
    ((cozyplaneToPod (hfMaps false) hfAsked npEnv hfToPod).act = .ok ∧
      (cozyplaneFromPod (hfMaps false) (cozyplaneToPod (hfMaps false) hfAsked npEnv hfToPod).flows
        npEnv hfFromPod).act = .shot) := by
  refine ⟨⟨?_, ?_, ?_, ?_⟩, ?_, ?_⟩
  all_goals decide +kernel

end CozyHfReply
