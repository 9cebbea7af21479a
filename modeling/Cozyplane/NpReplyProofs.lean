import Cozyplane.OriginIsolationProofs

/-!
# NetworkPolicy and UDP — whose node remembers the flow

NetworkPolicy is stateless for TCP (only SYNs are judged) and keeps one pin per UDP flow in
`np_ct`, a map of its own on every node. The pin is written at ONE place, by `from_pod` on the
sender's node, and read at three:

* `from_pod` of the reply, on the RESPONDER's node;
* the ingress gate of `to_pod` of the reply, on the sender's node;
* the egress gate of `to_pod` of the reply, on the sender's node.

The gate of `from_pod` on the responder's node consults a map the pin was not written in, unless
the pods share the node.
-/

namespace CozyNpReply

open CozyPacket CozyMaps CozyDatapath CozyPolicy CozyNat CozyService Function
open CozyFromPod CozyReceive CozyOrigin

/-- The frame sits on the veth of a pod of the default network. -/
structure PodVeth (m : Maps) (skb : Skb) (v : U32) : Prop where
  port : m.ports skb.ifindex = some v
  live : v ≠ portQuarantine
  default : portNet v = 0#32
  notUplink : skb.ifindex ≠ cfg m cfgUplinkIfindex

/-- The frame is the UDP packet `src:sport → dst:dport`. -/
structure UdpPacket (fr : Frame) (isV6 : Bool) (src dst : Addr) (sport dport : U16) : Prop where
  parses : parseIp fr = some ⟨isV6, ipprotoUdp, src, dst⟩
  ports : l4Ports fr = some (sport, dport)

/-- The pin of the UDP flow `src:sport → dst:dport`. -/
def npPin (src dst : Addr) (sport dport : U16) : NpCtKey := ⟨src, dst, sport, dport, ipprotoUdp⟩

/-- No pin of `f` was evicted on the way to `g`. -/
def KeepsPins (f g : Flows) : Prop := ∀ k, f.npCt k = true → g.npCt k = true

variable {m : Maps} {f : Flows} {env : Env} {skb : Skb} {p : Pkt} {v : U32}

theorem hfOnly_npCt {f g : Flows} (h : HfOnly f g) : g.npCt = f.npCt := by
  rw [show g = { f with hfCt := g.hfCt } from h]

theorem svcForward_npCt (srcnet dstnet : U32) :
    (svcForward m f skb p srcnet dstnet).1.npCt = f.npCt := by
  unfold svcForward
  cases svcPorts skb.frame p with
  | none => rfl
  | some ports =>
  obtain ⟨sport, dport⟩ := ports
  simp only []
  cases m.svcVips ⟨dstnet, p.dst, p.proto, dport⟩ with
  | none => rfl
  | some sv =>
  simp only []
  split
  · rfl
  · cases f.svcFwd ⟨srcnet, p.proto, sport, p.src, p.dst, dport⟩ with
    | none | some pin => rfl

/-- A stage leaves the pins as they were. -/
def KeepsNp (f : Flows) (a : Attempt) : Prop :=
  match a with
  | .done out => out.flows.npCt = f.npCt
  | .miss g => g.npCt = f.npCt

theorem orElse_npCt {a : Attempt} {k : Flows → Out} (ha : KeepsNp f a)
    (hk : ∀ g, g.npCt = f.npCt → (k g).flows.npCt = f.npCt) :
    (orElse a k).flows.npCt = f.npCt := by
  cases a with
  | done out => exact ha
  | miss g => exact hk g ha

theorem localStage_keepsNp (isGw foreign : Bool) (dstnet : U32) :
    KeepsNp f (localStage m f skb p isGw foreign dstnet) := by
  unfold localStage
  split
  · rfl
  · cases localOf m dstnet p.dst with
    | none | some l => rfl

theorem remoteStage_keepsNp (isGw foreign : Bool) (srcnet dstnet : U32) :
    KeepsNp f (remoteStage m f skb p isGw foreign srcnet dstnet) := by
  unfold remoteStage
  cases remoteOf m dstnet p.dst with
  | none => rfl
  | some node =>
    simp only []
    split
    · exact hfOnly_npCt (hfEgress_only m f skb)
    · show (encapSg ..).flows.npCt = f.npCt
      rw [encapSg_flows]

theorem nodeStage_keepsNp (o : Origin) : KeepsNp f (nodeStage m f skb p o) := by
  unfold nodeStage
  split
  · cases nodeRemoteOf m p.dst with
    | none => rfl
    | some node =>
      show (encap m f skb 0#32 node 0#32).flows.npCt = f.npCt
      rw [encap_flows]
  · rfl

theorem bridgeStage_keepsNp : KeepsNp f (bridgeStage m f skb p) := by
  unfold bridgeStage
  cases bridgeOf m p.dst with
  | none => rfl
  | some be =>
    simp only []
    cases localOf m be.net be.vpcIp with
    | none | some l => rfl

theorem deliverTail_npCt (o : Origin) (foreign : Bool) (dstnet : U32) :
    (deliverTail m f skb p o foreign dstnet).flows.npCt = f.npCt := by
  unfold deliverTail
  have hs : ∀ s : Flows × Skb × Pkt,
      s = (if !o.isGw && !o.atUplink then svcForward m f skb p o.srcnet dstnet
        else (f, skb, p)) → s.1.npCt = f.npCt := by
    rintro s rfl
    split
    · exact svcForward_npCt o.srcnet dstnet
    · rfl
  generalize hgen : (if !o.isGw && !o.atUplink then svcForward m f skb p o.srcnet dstnet
    else (f, skb, p)) = s
  rw [← hs s hgen.symm]
  refine orElse_npCt (localStage_keepsNp ..) fun g₁ h₁ => ?_
  rw [← h₁]
  refine orElse_npCt (remoteStage_keepsNp ..) fun g₂ h₂ => ?_
  rw [← h₂]
  refine orElse_npCt (nodeStage_keepsNp o) fun g₃ h₃ => ?_
  rw [← h₃]
  refine orElse_npCt bridgeStage_keepsNp fun g₄ h₄ => ?_
  rw [← h₄]
  exact hfOnly_npCt (hfExit_only m g₄ s.2.1 .ok)

-- ── from_pod of a default-network pod

theorem originOf_pod (hv : PodVeth m skb v) : originOf m skb = ⟨some v, false⟩ := by
  simp [originOf, hv.port, hv.notUplink]

/-- After authentication: the LoadBalancer reply, the NetworkPolicy gate, isolation, the delivery
    tail. -/
theorem routeAndDeliver_default {foreign : Bool} {dstnet : U32} (hv : portNet v = 0#32)
    (hudp : p.proto = ipprotoUdp) (hd : platformDst p = false)
    (hlb : lbReturn m f skb p = none) :
    routeAndDeliver m f env skb p ⟨some v, false⟩ foreign dstnet =
      orElse (npEgressStage m f skb p) fun g =>
        if netsAllowed m 0#32 dstnet then deliverTail m g skb p ⟨some v, false⟩ foreign dstnet
        else shotOut g skb := by
  have hs : Origin.srcnet ⟨some v, false⟩ = 0#32 := hv
  have hnp : (isTcpUdp p.proto || p.proto == ipprotoSctp) = true := by rw [hudp]; rfl
  have hlbm : guarded (!(Origin.isGw ⟨some v, false⟩) && dstnet == 0#32 && !false) f
      (attempt f (lbReturn m f skb p)) = .miss f := by
    rw [hlb]
    unfold guarded
    split
    · rfl
    · rfl
  unfold routeAndDeliver
  simp only [hs, bne_self_eq_false, Bool.false_and, Bool.and_false, guarded, Bool.false_eq_true,
    if_false, orElse_miss] at hlbm ⊢
  rw [hlbm]
  simp only [orElse_miss, beq_self_eq_true, Option.isSome_some, Bool.not_false, Bool.and_self,
    hnp, if_true]
  cases npEgressStage m f skb p with
  | done out => rfl
  | miss g =>
    have hv4 : guarded (!p.isV6) g (v4Stage m g skb p 0#32 dstnet) = .miss g :=
      v4Stage_miss hd (.inl rfl)
    simp only [guarded] at hv4
    simp only [orElse_miss, hv4]
    cases netsAllowed m 0#32 dstnet with
    | true | false => rfl

variable {src : Addr} {isV6 : Bool} {dst : Addr} {sport dport : U16}

/-- The gate of `from_pod`: a node address, the egress policy or a pin admits, and then the packet's
    own pin is in place. -/
theorem npEgressStage_udp (hports : l4Ports skb.frame = some (sport, dport)) :
    npEgressStage m f skb ⟨isV6, ipprotoUdp, src, dst⟩ =
      if (m.npNodes dst).isNone && !npEgress m f ⟨src, dst, dport, sport, ipprotoUdp, !isV6⟩ then
        .done (shotOut f skb)
      else .miss { f with npCt := update f.npCt (npPin src dst sport dport) true } := by
  unfold npEgressStage
  rw [hports]
  rfl

/-- **THE PIN IS WRITTEN** by a UDP packet of a default-network pod that `from_pod` lets through and
    does not answer as a LoadBalancer reply, and no pin is lost. -/
theorem fromPod_pins (hv : PodVeth m skb v) (hpkt : UdpPacket skb.frame isV6 src dst sport dport)
    (hd : platformDst ⟨isV6, ipprotoUdp, src, dst⟩ = false)
    (hlb : lbReturn m f (Skb.clearMarks skb) ⟨isV6, ipprotoUdp, src, dst⟩ = none)
    (hpass : (fromPod m f env skb).act ≠ .shot) :
    (fromPod m f env skb).flows.npCt =
      update f.npCt (npPin src dst sport dport) true := by
  revert hpass
  rw [fromPod_pod (originOf_pod hv) hv.live hpkt.parses
    (linkControlOut_false hpkt.parses (platformDst_unscoped hd))]
  split
  · intro h
    exact absurd rfl h
  cases authenticate m ⟨some v, false⟩ skb.ifindex ⟨isV6, ipprotoUdp, src, dst⟩ with
  | none =>
    intro h
    exact absurd rfl h
  | some foreign =>
    have hs : Origin.srcnet ⟨some v, false⟩ = 0#32 := hv.default
    have hports : l4Ports (Skb.clearMarks skb).frame = some (sport, dport) := hpkt.ports
    simp only [fromPodAuth_eq (platformDst_unscoped hd), hs, bne_self_eq_false, Bool.false_and,
      Bool.false_eq_true, if_false, routeAndDeliver_default hv.default rfl hd hlb,
      npEgressStage_udp hports]
    split
    · intro h
      exact absurd rfl h
    split
    · intro _
      exact deliverTail_npCt ..
    · intro h
      exact absurd rfl h

theorem cozyplaneFromPod_pins (hv : PodVeth m skb v)
    (hpkt : UdpPacket skb.frame isV6 src dst sport dport)
    (hd : platformDst ⟨isV6, ipprotoUdp, src, dst⟩ = false)
    (hlb : lbReturn m f (Skb.clearMarks skb) ⟨isV6, ipprotoUdp, src, dst⟩ = none)
    (hpass : (cozyplaneFromPod m f env skb).act ≠ .shot) :
    (cozyplaneFromPod m f env skb).flows.npCt =
      update f.npCt (npPin src dst sport dport) true := by
  have hnet : (originOf m skb).srcnet = 0#32 := by rw [originOf_pod hv]; exact hv.default
  have hboundary : boundaryEgress m f env skb = (f, true) := by
    unfold boundaryEgress
    rw [hpkt.parses]
    simp only [hnet, if_true]
  have hcontinue : fromPodContinue m f env skb = fromPod m f env skb := by
    exact if_neg fun h => hv.notUplink h.2
  revert hpass
  unfold cozyplaneFromPod
  rw [if_neg (by rw [hv.port]; exact fun h => hv.live (Option.some.inj h)),
    controlFrame_false hpkt.parses (platformDst_unscoped hd), hboundary]
  split
  · intro h
    exact absurd rfl h
  simp only [Bool.false_eq_true, if_false, Bool.not_true, hcontinue]
  split
  · exact fromPod_pins hv hpkt hd hlb
  · intro h
    exact absurd rfl h

/-- What the egress policy of the source says without any pin. -/
def egressPolicy (m : Maps) (q : NpQuery) : Bool :=
  match m.npIdent q.src with
  | none => true
  | some si => !hasBit si.flags npEgIsolated || npEgressIds m q si.id ||
      npCidrCheck m q npDirEg si.id q.dst

theorem npEgress_iff {q : NpQuery} (hguard : m.params cfgNpUpdating = 0#32) :
    npEgress m f q = true ↔ egressPolicy m q = true ∨ npPinCheck f q = true := by
  unfold npEgress egressPolicy
  rw [hguard]
  cases m.npIdent q.src with
  | none => simp
  | some si =>
    simp only [bne_self_eq_false, Bool.false_eq_true, if_false]
    cases hasBit si.flags npEgIsolated with
    | false => simp
    | true =>
      cases npEgressIds m q si.id with
      | true => simp
      | false =>
        cases npCidrCheck m q npDirEg si.id q.dst with
        | true | false => simp

/-- A pin sanctions the packet at the egress gate, in every state of the policy. -/
theorem npEgress_of_pin {q : NpQuery} (h : npPinCheck f q = true) : npEgress m f q = true := by
  unfold npEgress
  repeat' split
  all_goals first | rfl | exact h | (rw [h]; exact Bool.or_true _)

theorem npIngress_of_pin {q : NpQuery} (h : npPinCheck f q = true) : npIngress m f q = true := by
  unfold npIngress
  repeat' split
  all_goals first | rfl | exact h | (rw [h]; exact Bool.or_true _)

theorem npPinCheck_reply {isV4 : Bool} :
    npPinCheck f ⟨dst, src, sport, dport, ipprotoUdp, isV4⟩ = f.npCt (npPin src dst sport dport) := by
  rfl

/-- **TO_POD ON THE SENDER'S NODE**: with the pin there, both gates admit the reply, whoever is
    isolated. -/
theorem npStage_of_pin (hpkt : UdpPacket skb.frame isV6 dst src dport sport)
    (hpin : f.npCt (npPin src dst sport dport) = true) :
    (npStage m f skb ⟨isV6, ipprotoUdp, dst, src⟩).act ≠ .shot := by
  obtain ⟨hs, hd⟩ := l4Ports_load16 hpkt.ports
  have hl4 : sgL4 skb.frame ipprotoUdp = some sport := hd
  have hcheck : npPinCheck f ⟨dst, src, sport, dport, ipprotoUdp, !isV6⟩ = true :=
    npPinCheck_reply.trans hpin
  unfold npStage
  rw [hl4, hs]
  simp only [if_true, Option.getD_some, npIngress_of_pin hcheck, npEgress_of_pin hcheck,
    Bool.not_true, Bool.or_self, Bool.false_eq_true, if_false]
  split
  · exact nofun
  · exact nofun

/-- The NetworkPolicy gates let a reply through: `from_pod` on the responder's node, `to_pod` on the
    sender's. -/
def ReplyPasses (mb : Maps) (gb : Flows) (ma : Maps) (ga : Flows) (skb : Skb) (p : Pkt) : Prop :=
  (∃ g, npEgressStage mb gb skb p = .miss g) ∧ (npStage ma ga skb p).act ≠ .shot

/-- **WHEN THE REPLY PASSES.** `from_pod` let `A:x → B:y` through, and no pin was evicted since. The
    reply passes the NetworkPolicy gates iff the pods share the node, `A` is a node address, `B`'s
    own egress policy admits it, or `B`'s node holds the pin from elsewhere. -/
theorem udpReply_iff {ν : Type} [DecidableEq ν] {m : ν → Maps} {f : ν → Flows} {a b : ν}
    {req rep : Skb} {isV6 : Bool} {A B : Addr} {x y : U16} {ga gb : Flows}
    (hv : PodVeth (m a) req v) (hreq : UdpPacket req.frame isV6 A B x y)
    (hd : platformDst ⟨isV6, ipprotoUdp, A, B⟩ = false)
    (hlb : lbReturn (m a) (f a) (Skb.clearMarks req) ⟨isV6, ipprotoUdp, A, B⟩ = none)
    (hpass : (cozyplaneFromPod (m a) (f a) env req).act ≠ .shot)
    (hga : KeepsPins (cozyplaneFromPod (m a) (f a) env req).flows ga)
    (hgb : KeepsPins (update f a (cozyplaneFromPod (m a) (f a) env req).flows b) gb)
    (hguard : (m b).params cfgNpUpdating = 0#32) (hrep : UdpPacket rep.frame isV6 B A y x) :
    ReplyPasses (m b) gb (m a) ga rep ⟨isV6, ipprotoUdp, B, A⟩ ↔
      a = b ∨ ((m b).npNodes A).isSome = true ∨
        egressPolicy (m b) ⟨B, A, x, y, ipprotoUdp, !isV6⟩ = true ∨
        gb.npCt (npPin A B x y) = true := by
  have hpin : (cozyplaneFromPod (m a) (f a) env req).flows.npCt (npPin A B x y) = true := by
    rw [cozyplaneFromPod_pins hv hreq hd hlb hpass]
    exact update_self ..
  have hto : (npStage (m a) ga rep ⟨isV6, ipprotoUdp, B, A⟩).act ≠ .shot :=
    npStage_of_pin hrep (hga _ hpin)
  have hgate : npEgress (m b) gb ⟨B, A, x, y, ipprotoUdp, !isV6⟩ = true ↔
      egressPolicy (m b) ⟨B, A, x, y, ipprotoUdp, !isV6⟩ = true ∨
        gb.npCt (npPin A B x y) = true := by
    rw [npEgress_iff hguard, npPinCheck_reply]
  have hfrom : (∃ g, npEgressStage (m b) gb rep ⟨isV6, ipprotoUdp, B, A⟩ = .miss g) ↔
      ((m b).npNodes A).isSome = true ∨
        npEgress (m b) gb ⟨B, A, x, y, ipprotoUdp, !isV6⟩ = true := by
    rw [npEgressStage_udp hrep.ports]
    cases (m b).npNodes A with
    | some flags => simp
    | none =>
      cases npEgress (m b) gb ⟨B, A, x, y, ipprotoUdp, !isV6⟩ with
      | true | false => simp
  constructor
  · rintro ⟨hout, -⟩
    exact .inr (by rw [← hgate]; exact hfrom.mp hout)
  · intro h
    refine ⟨hfrom.mpr ?_, hto⟩
    rcases h with rfl | h
    · -- on one node, the pin of the request is the pin the reply's gate looks up
      refine .inr (hgate.mpr (.inr (hgb _ ?_)))
      rw [update_self]
      exact hpin
    · rw [hgate]
      exact h

def podA : Addr := v4To128 0x0a010001#32
def podB : Addr := v4To128 0x0a010002#32

/-- `A` may receive from no one, `B` send to no one. -/
def isolateBoth (a : Addr) : Option NpIdentVal :=
  if a = podA then some ⟨1#64, npIngIsolated⟩
  else if a = podB then some ⟨2#64, npEgIsolated⟩
  else none

/-- `A` behind veth 5 of node 1, `B` behind veth 6 of node 2. -/
def npNode (second : Bool) : Maps :=
  { Maps.empty with
    params := fun i => if i = cfgGeneveIfindex then 1#32 else if i = cfgUplinkIfindex then 2#32
      else if i = cfgVni then 100#32 else 0#32
    ports := fun i => if i = 5#32 ∧ second = false ∨ i = 6#32 ∧ second = true then some 0#32
      else none
    locals := fun k => if k = ⟨0#32, podA⟩ ∧ second = false then some ⟨5#32, 1#256⟩
      else if k = ⟨0#32, podB⟩ ∧ second = true then some ⟨6#32, 2#256⟩ else none
    remotes := if second then [⟨160, 0#32 ++ podA, 0x0a000001#32⟩]
      else [⟨160, 0#32 ++ podB, 0x0a000002#32⟩]
    npIdent := isolateBoth
    lbProg := fun i => i == 4 || i == 5 }

def npSharedNode : Maps :=
  { npNode false with
    ports := fun i => if i = 5#32 ∨ i = 6#32 then some 0#32 else none
    locals := fun k => if k = ⟨0#32, podA⟩ then some ⟨5#32, 1#256⟩
      else if k = ⟨0#32, podB⟩ then some ⟨6#32, 2#256⟩ else none
    remotes := [] }

/-- `A:40000 → B:53`, at veth `ifindex`. -/
def npRequest (ifindex : U32) : Skb :=
  ⟨.ip4 ⟨4#4, 5#4, 0#16, ipprotoUdp, 0x0a010001#32, 0x0a010002#32⟩
    [156#8, 64#8, 0#8, 53#8, 0#8, 8#8, 0#8, 0#8], 0#32, ifindex, 0#32, none, none⟩

/-- `B:53 → A:40000`, at veth `ifindex`. -/
def npAnswer (ifindex : U32) : Skb :=
  ⟨.ip4 ⟨4#4, 5#4, 0#16, ipprotoUdp, 0x0a010002#32, 0x0a010001#32⟩
    [0#8, 53#8, 156#8, 64#8, 0#8, 8#8, 0#8, 0#8], 0#32, ifindex, 0#32, none, none⟩

def npEnv : Env := ⟨0#64, 0#32, true, true⟩

theorem npRequest_udp (ifindex : U32) :
    UdpPacket (npRequest ifindex).frame false podA podB 40000#16 53#16 := ⟨rfl, rfl⟩

theorem npAnswer_udp (ifindex : U32) :
    UdpPacket (npAnswer ifindex).frame false podB podA 53#16 40000#16 := ⟨rfl, rfl⟩

theorem udpReply_shared_node :
    ReplyPasses npSharedNode
      (cozyplaneFromPod npSharedNode Flows.empty npEnv (npRequest 5#32)).flows npSharedNode
      (cozyplaneFromPod npSharedNode Flows.empty npEnv (npRequest 5#32)).flows (npAnswer 6#32)
      ⟨false, ipprotoUdp, podB, podA⟩ :=
  (udpReply_iff (m := fun _ : Unit => npSharedNode) (f := fun _ => Flows.empty) (a := ())
    (b := ()) (v := 0#32) ⟨rfl, by decide, by decide, by decide⟩ (npRequest_udp 5#32)
    (by decide +kernel) (by decide +kernel) (by decide +kernel) (fun _ h => h)
    (fun _ h => h) rfl (npAnswer_udp 6#32)).mpr (.inl rfl)

/-- **THE ANSWER DEPENDS ON PLACEMENT**: `from_pod` on `B`'s node drops it, for its `np_ct` never
    saw the query. -/
theorem udpReply_dropped :
    (npNode false).npIdent = (npNode true).npIdent ∧
    (npNode false).npAllow = (npNode true).npAllow ∧
    (npNode false).npCidr = (npNode true).npCidr ∧
    (cozyplaneFromPod (npNode false) Flows.empty npEnv (npRequest 5#32)).act =
      .tunnel 100#32 0x0a000002#32 none ∧
    (cozyplaneToPod (npNode true) Flows.empty npEnv (npRequest 6#32)).act = .ok ∧
    ¬ ReplyPasses (npNode true)
      (cozyplaneToPod (npNode true) Flows.empty npEnv (npRequest 6#32)).flows (npNode false)
      (cozyplaneFromPod (npNode false) Flows.empty npEnv (npRequest 5#32)).flows (npAnswer 6#32)
      ⟨false, ipprotoUdp, podB, podA⟩ ∧
    (cozyplaneFromPod (npNode true)
      (cozyplaneToPod (npNode true) Flows.empty npEnv (npRequest 6#32)).flows npEnv
      (npAnswer 6#32)).act = .shot := by
  refine ⟨rfl, rfl, rfl, by decide +kernel, by decide +kernel, ?_, by decide +kernel⟩
  rintro ⟨⟨g, hg⟩, -⟩
  rw [npEgressStage_udp (npAnswer_udp 6#32).ports, if_pos (by decide +kernel)] at hg
  nomatch hg

end CozyNpReply
