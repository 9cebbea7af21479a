import Cozyplane.RunProofs
import Cozyplane.LbStepProofs

/-!
# LoadBalancer replies — whose frontend a pod answers as

`svc_rev` holds one reply pin for each flow key (protocol, client, client port, pod address,
target port), under network 0 whatever network the pod is in. `lb_ingress` and `lb_dsr`
write it, under different overwrite rules; `lb_return` and `to_pod` read it.
-/

namespace CozyReply

open CozyPacket CozyMaps CozyDatapath CozyPolicy CozyService Function
open CozyFromPod CozyReceive CozyArrival CozyLb Run

variable {m : Maps} {f : Flows} {skb : Skb} {p : Pkt}

-- ── one packet, either program

/-- An LB packet that got past the gates: its pod's network, the flow key, the pin it asks for,
    whether the reverse table is left as it is, and whether the pod is here. -/
structure Arrival where
  net : U32
  key : SvcRevKey
  rv : SvcRevVal
  keep : Bool
  here : Bool
  deriving DecidableEq

/-- The pod `lb_ingress` pins and delivers to, if it does either. -/
def target (m : Maps) (c : LbChoice) : Option (U32 × Addr) :=
  match bridgeOf m c.v.backend with
  | some be => if admitsAt m c be.net be.vpcIp then some (be.net, be.vpcIp) else none
  | none =>
    if (localOf m 0#32 c.v.backend).isSome then some (0#32, c.v.backend) else none

/-- `lb_ingress` keeps the reverse table for a flow `svc_fwd` knows, and overwrites it for a
    new one. -/
def serveArrival (m : Maps) (skb : Skb) (c : LbChoice) : Option Arrival :=
  match target m c with
  | none => none
  | some (net, ip) =>
    some ⟨net, c.revKey ip, ⟨c.p.dst, c.dport, true, skb.ingressIfindex⟩, c.pinned,
      (localOf m net ip).isSome⟩

def ingressArrival (m : Maps) (f : Flows) (skb : Skb) : Option Arrival :=
  match lbChoice m f skb with
  | none => none
  | some c => serveArrival m skb c

/-- The pod `lb_dsr` pins; it pins an address nobody here has as well. -/
def dsrTarget (m : Maps) (d : DsrFrame) : Option (U32 × Addr) :=
  match bridgeOf m d.p.dst with
  | some be =>
    if nsSgAdmit m be.net be.vpcIp d.p.src (cidrProto d.p.proto d.p.isV6) d.dport then
      some (be.net, be.vpcIp)
    else none
  | none => some (0#32, d.p.dst)

/-- `lb_dsr` keeps whatever pin the key has. -/
def dsrServeArrival (m : Maps) (f : Flows) (d : DsrFrame) : Option Arrival :=
  match dsrTarget m d with
  | none => none
  | some (net, ip) =>
    some ⟨net, d.revKey ip, ⟨d.vip, d.vport, true, 0#32⟩, (f.svcRev (d.revKey ip)).isSome,
      (localOf m net ip).isSome⟩

def dsrArrival (m : Maps) (f : Flows) (skb : Skb) : Option Arrival :=
  match dsrFrame skb with
  | none => none
  | some d => dsrServeArrival m f d

/-- The reverse table after an arrival. -/
def Arrival.pin (a : Arrival) (t : SvcRevKey → Option SvcRevVal) :
    SvcRevKey → Option SvcRevVal :=
  if a.keep then t else update t a.key (some a.rv)

/-- The reverse table after a packet that may be stopped. -/
def pinned (a : Option Arrival) (t : SvcRevKey → Option SvcRevVal) :
    SvcRevKey → Option SvcRevVal :=
  match a with
  | some a => a.pin t
  | none => t

/-- The verdict is a redirect into a pod. -/
def delivers : Act → Bool
  | .deliver .. => true
  | _ => false

/-- An outcome does to the reverse table, and delivers where, what the arrival says. -/
structure Agrees (f : Flows) (a : Option Arrival) (out : Out) : Prop where
  svcRev : out.flows.svcRev = pinned a f.svcRev
  delivers : delivers out.act = (a.map Arrival.here).getD false
  pod : ∀ net ip ep, out.act = .deliver net ip ep →
    ∃ b, a = some b ∧ b.net = net ∧ b.key.backend = ip

theorem pinBoth_svcRev (c : LbChoice) (ip : Addr) :
    (c.pinBoth f skb ip).svcRev =
      if c.pinned then f.svcRev
      else update f.svcRev (c.revKey ip)
        (some ⟨c.p.dst, c.dport, true, skb.ingressIfindex⟩) := by
  unfold LbChoice.pinBoth LbChoice.pinFwd lbPinRev lbPinFwd
  cases c.pinned with
  | true | false => rfl

theorem pinFwd_svcRev (c : LbChoice) : (c.pinFwd f).svcRev = f.svcRev := by
  unfold LbChoice.pinFwd lbPinFwd
  split <;> rfl

theorem agrees_nowhere {out : Out} (hrev : out.flows.svcRev = f.svcRev)
    (hact : delivers out.act = false) : Agrees f none out := by
  refine ⟨hrev, hact, fun net ip ep h => ?_⟩
  rw [h] at hact
  nomatch hact

theorem not_delivers {act : Act} (h : carried act = false) : delivers act = false := by
  cases act with
  | deliver net ip ep => nomatch h
  | shot | ok | next | tunnel id node opt | neigh link nh => rfl

theorem agrees_here {a : Arrival} {f' : Flows} {skb' : Skb} {net : U32} {ip : Addr}
    {ep : Endpoint} (hrev : f'.svcRev = a.pin f.svcRev) (hhere : a.here = true)
    (hnet : a.net = net) (hip : a.key.backend = ip) :
    Agrees f (some a) (deliverLocal f' skb' net ip ep) := by
  refine ⟨hrev, hhere.symm, fun net' ip' ep' h => ?_⟩
  cases h
  exact ⟨a, rfl, hnet, hip⟩

theorem serve_agrees (m : Maps) (f : Flows) (skb : Skb) (c : LbChoice) :
    Agrees f (serveArrival m skb c) (c.serve m f skb) := by
  have hcase := serve_case m f skb c
  generalize c.serve m f skb = out at hcase
  unfold serveArrival target
  cases hcase with
  | refused hb hadm =>
    simp only [hb, hadm]
    exact agrees_nowhere rfl rfl
  | absent hb hadm hl =>
    simp only [hb, hadm, if_true, hl]
    exact ⟨pinBoth_svcRev c _, rfl, nofun⟩
  | bridged hb hadm hl =>
    simp only [hb, hadm, if_true, hl]
    exact agrees_here (pinBoth_svcRev c _) rfl rfl rfl
  | fabric hb hl =>
    simp only [hb, hl, Option.isSome_some, if_true]
    exact agrees_here (pinBoth_svcRev c _) rfl rfl rfl
  | lost hb hl =>
    simp only [hb, hl]
    exact agrees_nowhere (pinFwd_svcRev c) rfl
  | remote hr =>
    simp only [hr.unbridged, hr.notHere]
    exact agrees_nowhere (pinFwd_svcRev c) rfl

/-- **LB INGRESS IS AN ARRIVAL** that keeps the table for a pinned flow. -/
theorem ingress_agrees (m : Maps) (f : Flows) (skb : Skb) :
    Agrees f (ingressArrival m f skb) (lbIngress m f skb) := by
  unfold ingressArrival
  rcases lbIngress_cases m f skb with ⟨c, hc, _, heq⟩ | ⟨hnone, hhost⟩
  · rw [hc, heq]
    exact serve_agrees m f skb c
  · rw [hnone]
    exact agrees_nowhere hhost.svcRev (not_delivers hhost.act)

theorem dsrPin_svcRev (d : DsrFrame) (ip : Addr) :
    (d.pin f ip).svcRev =
      if (f.svcRev (d.revKey ip)).isSome then f.svcRev
      else update f.svcRev (d.revKey ip) (some ⟨d.vip, d.vport, true, 0#32⟩) := by
  unfold DsrFrame.pin dsrPin
  cases f.svcRev (d.revKey ip) with
  | none | some rv => rfl

theorem dsrServe_agrees (m : Maps) (f : Flows) (skb : Skb) (d : DsrFrame) :
    Agrees f (dsrServeArrival m f d) (d.serve m f skb) := by
  have hcase := dsrServe_case m f skb d
  generalize d.serve m f skb = out at hcase
  unfold dsrServeArrival dsrTarget
  cases hcase with
  | refused hb hsg =>
    simp only [hb, hsg]
    exact agrees_nowhere rfl rfl
  | bridged hb hsg hl =>
    simp only [hb, hsg, if_true, hl]
    exact agrees_here (dsrPin_svcRev d _) rfl rfl rfl
  | fabric hb hl =>
    simp only [hb, hl]
    exact agrees_here (dsrPin_svcRev d _) rfl rfl rfl
  | absent hb hsg hl =>
    simp only [hb, hsg, if_true, hl]
    exact ⟨dsrPin_svcRev d _, rfl, nofun⟩
  | stray hb hl =>
    simp only [hb, hl]
    exact ⟨dsrPin_svcRev d _, rfl, nofun⟩

/-- **LB DSR IS AN ARRIVAL** that keeps any pin it finds. -/
theorem dsr_agrees (m : Maps) (f : Flows) (skb : Skb) :
    Agrees f (dsrArrival m f skb) (lbDsr m f skb) := by
  rw [lbDsr_eq]
  unfold dsrArrival
  cases dsrFrame skb with
  | none => exact agrees_nowhere rfl rfl
  | some d => exact dsrServe_agrees m f skb d

/-- A packet this node delivered: the pod's network, the flow key and the frontend it was addressed
    to. -/
structure Delivery where
  net : U32
  key : SvcRevKey
  vip : Addr
  vport : U16
  deriving DecidableEq

/-- The flow of a delivery, network included. -/
def Delivery.flow (d : Delivery) : U32 × SvcRevKey := (d.net, d.key)

def Arrival.delivery (a : Arrival) : Delivery := ⟨a.net, a.key, a.rv.vip, a.rv.vport⟩

/-- The flow tables; as history every delivery, newest first, and the network each pin was written
    for. -/
structure LbNode where
  flows : Flows
  log : List Delivery
  owner : SvcRevKey → Option U32

/-- The node after an LB packet. -/
def LbNode.record (s : LbNode) (a : Option Arrival) (out : Out) : LbNode where
  flows := out.flows
  log := match a with
    | some a => if delivers out.act then a.delivery :: s.log else s.log
    | none => s.log
  owner := match a with
    | some a => if a.keep then s.owner else update s.owner a.key (some a.net)
    | none => s.owner

/-- What happens at a node: LB packets at either program, a reply leaving a pod, a packet at a pod's
    veth, and whatever else rewrites the flow tables. -/
inductive Event where
  | ingress (m : Maps) (skb : Skb)
  | dsr (m : Maps) (skb : Skb)
  | ret (m : Maps) (net : U32) (skb : Skb)
  | enter (m : Maps) (skb : Skb)
  | other (f : Flows)

/-- The flow tables after `lb_return`. -/
def afterReturn (m : Maps) (f : Flows) (skb : Skb) : Flows :=
  match parseIp skb.frame with
  | none => f
  | some p =>
    match lbReturn m f skb p with
    | none => f
    | some out => out.flows

/-- What `to_pod` writes is an `other` event: the LB exemption only reads. -/
def step (s : LbNode) : Event → LbNode
  | .ingress m skb => s.record (ingressArrival m s.flows skb) (lbIngress m s.flows skb)
  | .dsr m skb => s.record (dsrArrival m s.flows skb) (lbDsr m s.flows skb)
  | .ret m _ skb => { s with flows := afterReturn m s.flows skb }
  | .enter _ _ => s
  | .other f => { s with flows := f }

/-- The key `lb_return` looks a pod's packet up under. -/
def replyKey (p : Pkt) (sport dport : U16) : SvcRevKey :=
  ⟨0#32, p.proto, dport, p.src, p.dst, sport⟩

/-- The key `to_pod` looks a packet for its pod up under. -/
def enterKey (p : Pkt) (sport dport : U16) : SvcRevKey :=
  ⟨0#32, p.proto, sport, p.dst, p.src, dport⟩

/-- The verdict sends the frame out of an uplink. -/
def leaves : Act → Bool
  | .neigh .. => true
  | _ => false

/-- **LB RETURN** writes no flow state, and a frame it sends out carries the frontend of the
    pin under network 0. -/
theorem lbReturn_spec {out : Out} (h : lbReturn m f skb p = some out) :
    out.flows = f ∧ ∃ sport dport rv, svcPorts skb.frame p = some (sport, dport) ∧
      f.svcRev (replyKey p sport dport) = some rv ∧ rv.lb = true ∧
      (leaves out.act = true → out.skb.frame = snatTo skb.frame rv.vip sport rv.vport) := by
  unfold lbReturn at h
  cases hports : svcPorts skb.frame p with
  | none => rw [hports] at h; nomatch h
  | some ports =>
  obtain ⟨sport, dport⟩ := ports
  rw [hports] at h
  simp only [] at h
  split at h
  · nomatch h
  rename_i rv hrv
  cases hlb : rv.lb with
  | false => rw [hlb] at h; nomatch h
  | true =>
  rw [hlb] at h
  simp only [Bool.not_true, Bool.false_eq_true, if_false] at h
  suffices hout : out.flows = f ∧
      (leaves out.act = true → out.skb.frame = snatTo skb.frame rv.vip sport rv.vport) from
    ⟨hout.1, sport, dport, rv, rfl, hrv, hlb, hout.2⟩
  split at h
  · cases h
    exact ⟨rfl, nofun⟩
  split at h
  · cases h
    exact ⟨rfl, fun _ => rfl⟩
  -- v4: three exits, one redirect
  have hredirect : ∀ {nh base mask : U32} {skb' : Skb}, some (extRedirect f skb'
      (lbUplink m rv) nh base mask) = some out → out.flows = f ∧ out.skb = skb' := by
    intro nh base mask skb' heq
    cases heq
    exact ⟨(extRedirect_skb ..).2, (extRedirect_skb ..).1⟩
  split at h
  · rename_i x _
    split at h
    · obtain ⟨hf, hskb⟩ := hredirect h
      exact ⟨hf, fun _ => by rw [hskb]⟩
    · obtain ⟨hf, hskb⟩ := hredirect h
      exact ⟨hf, fun _ => by rw [hskb]⟩
  · obtain ⟨hf, hskb⟩ := hredirect h
    exact ⟨hf, fun _ => by rw [hskb]⟩

/-- The LB exemption of `to_pod`: an external source into a VPC, past isolation on a pin. -/
def admitsByPin (m : Maps) (f : Flows) (fr : Frame) (p : Pkt) (dstnet : U32) : Bool :=
  !netsAllowed m (netOf m dstnet p.src) dstnet &&
    (netOf m dstnet p.src == 0#32 && dstnet != 0#32 && lbPinned f fr p)

theorem admitsByPin_spec {fr : Frame} {dstnet : U32} {sport dport : U16}
    (h : admitsByPin m f fr p dstnet = true) (hports : l4Ports fr = some (sport, dport)) :
    ∃ rv, f.svcRev (enterKey p sport dport) = some rv ∧ rv.lb = true := by
  unfold admitsByPin lbPinned at h
  simp only [Bool.and_eq_true] at h
  have hpin := h.2.2.2
  rw [hports] at hpin
  simp only [] at hpin
  unfold enterKey
  cases hrv : f.svcRev ⟨0#32, p.proto, sport, p.dst, p.src, dport⟩ with
  | none => rw [hrv] at hpin; nomatch hpin
  | some rv =>
    rw [hrv] at hpin
    exact ⟨rv, rfl, hpin⟩

/-- A reply that leaves a pod of `net` by `lb_return` leaves as the frontend that client's latest LB
    packet was addressed to. -/
def ReplyHeld (s : LbNode) (m : Maps) (net : U32) (skb : Skb) : Prop :=
  ∀ p out, parseIp skb.frame = some p → lbReturn m s.flows skb p = some out →
    leaves out.act = true →
    ∃ sport dport d, svcPorts skb.frame p = some (sport, dport) ∧
      latest Delivery.flow (net, replyKey p sport dport) s.log = some d ∧
      out.skb.frame = snatTo skb.frame d.vip sport d.vport

/-- A packet `to_pod` lets into a network on an LB pin is let in on a pin written for that
    network. -/
def EnterHeld (s : LbNode) (m : Maps) (skb : Skb) : Prop :=
  ∀ p sport dport, parseIp skb.frame = some p → l4Ports skb.frame = some (sport, dport) →
    admitsByPin m s.flows skb.frame p (originOf m skb).srcnet = true →
    s.owner (enterKey p sport dport) = some (originOf m skb).srcnet

/-- What an event owes, in the state it happens in. -/
def Held (s : LbNode) : Event → Prop
  | .ret m net skb => ReplyHeld s m net skb
  | .enter m skb => EnterHeld s m skb
  | _ => True

/-- The latest packet under a key went to `net`. -/
def LatestIn (s : LbNode) (net : U32) (k : SvcRevKey) : Prop :=
  ∀ d, latest Delivery.key k s.log = some d → d.net = net

/-- An LB packet pins only what it delivers, and a pin it keeps is its own flow's: one frontend, one
    network. -/
def CleanArrival (s : LbNode) (a : Arrival) : Prop :=
  (a.keep = false → a.here = true) ∧
    (a.keep = true → a.here = true → ∀ rv, s.flows.svcRev a.key = some rv → rv.lb = true →
      rv.vip = a.rv.vip ∧ rv.vport = a.rv.vport ∧ s.owner a.key = some a.net)

/-- The condition on an event, in the state before it. Other programs make no LB pins; they,
    or an eviction, may take some away. -/
def Clean (s : LbNode) : Event → Prop
  | .ingress m skb => ∀ a, ingressArrival m s.flows skb = some a → CleanArrival s a
  | .dsr m skb => ∀ a, dsrArrival m s.flows skb = some a → CleanArrival s a
  | .ret _ net skb => ∀ p sport dport, parseIp skb.frame = some p →
      svcPorts skb.frame p = some (sport, dport) → LatestIn s net (replyKey p sport dport)
  | .enter m skb => ∀ p sport dport, parseIp skb.frame = some p →
      l4Ports skb.frame = some (sport, dport) →
      LatestIn s (originOf m skb).srcnet (enterKey p sport dport)
  | .other f => ∀ k rv, f.svcRev k = some rv → rv.lb = true →
      s.flows.svcRev k = some rv

/-- A node before its first LB packet. -/
def Fresh (s : LbNode) : Prop :=
  s.log = [] ∧ ∀ k rv, s.flows.svcRev k = some rv → rv.lb = false

/-- Every LB pin is that of the latest delivery under its key: frontend and network. -/
def PinsAreLatest (s : LbNode) : Prop :=
  ∀ k rv, s.flows.svcRev k = some rv → rv.lb = true →
    ∃ d, latest Delivery.key k s.log = some d ∧ d.vip = rv.vip ∧ d.vport = rv.vport ∧
      s.owner k = some d.net

variable {s : LbNode}

theorem fresh_pinsAreLatest (h : Fresh s) : PinsAreLatest s := by
  intro k rv hrv hlb
  rw [h.2 k rv hrv] at hlb
  nomatch hlb

/-- **ONE LB PACKET** keeps the invariant: other keys are untouched, and under its own it is now the
    latest. -/
theorem record_pinsAreLatest {a : Option Arrival} {out : Out} (hinv : PinsAreLatest s)
    (hagree : Agrees s.flows a out) (hclean : ∀ b, a = some b → CleanArrival s b) :
    PinsAreLatest (s.record a out) := by
  cases a with
  | none =>
    intro k rv hrv hlb
    have hrv' : s.flows.svcRev k = some rv := by rw [← hrv]; exact (congrFun hagree.svcRev k).symm
    exact hinv k rv hrv' hlb
  | some b =>
  obtain ⟨hnew, hkept⟩ := hclean b rfl
  have hact : delivers out.act = b.here := hagree.delivers
  intro k rv hrv hlb
  have hrv' : b.pin s.flows.svcRev k = some rv := by
    rw [← hrv]
    exact (congrFun hagree.svcRev k).symm
  show ∃ d, latest Delivery.key k (if delivers out.act then b.delivery :: s.log else s.log) =
    some d ∧ d.vip = rv.vip ∧ d.vport = rv.vport ∧
      (if b.keep then s.owner else update s.owner b.key (some b.net)) k = some d.net
  unfold Arrival.pin at hrv'
  by_cases hk : b.key = k
  · subst hk
    cases hkeep : b.keep with
    | true =>
      rw [hkeep, if_pos rfl] at hrv'
      cases hhere : b.here with
      | true =>
        obtain ⟨hvip, hvport, hown⟩ := hkept hkeep hhere rv hrv' hlb
        rw [hact, hhere, if_pos rfl, latest_cons_self (show b.delivery.key = b.key from rfl)]
        exact ⟨_, rfl, hvip.symm, hvport.symm, hown⟩
      | false =>
        rw [hact, hhere]
        exact hinv _ rv hrv' hlb
    | false =>
      rw [hkeep, if_neg Bool.false_ne_true, update_self] at hrv'
      cases hrv'
      rw [if_neg Bool.false_ne_true, hact, hnew hkeep, if_pos rfl,
        latest_cons_self (show b.delivery.key = b.key from rfl), update_self]
      exact ⟨_, rfl, rfl, rfl, rfl⟩
  · have hold : s.flows.svcRev k = some rv := by
      cases hkeep : b.keep with
      | true => rw [hkeep, if_pos rfl] at hrv'; exact hrv'
      | false =>
        rw [hkeep, if_neg Bool.false_ne_true, update_of_ne (Ne.symm hk)] at hrv'
        exact hrv'
    obtain ⟨d, hd, hvip, hvport, hown⟩ := hinv k rv hold hlb
    refine ⟨d, ?_, hvip, hvport, ?_⟩
    · cases delivers out.act with
      | true => rw [if_pos rfl, latest_cons_ne (show b.delivery.key ≠ k from hk), hd]
      | false => exact hd
    · cases b.keep with
      | true => exact hown
      | false => rw [if_neg Bool.false_ne_true, update_of_ne (Ne.symm hk), hown]

theorem afterReturn_eq (m : Maps) (f : Flows) (skb : Skb) : afterReturn m f skb = f := by
  unfold afterReturn
  cases parseIp skb.frame with
  | none => rfl
  | some p =>
    simp only []
    cases h : lbReturn m f skb p with
    | none => rfl
    | some out => exact (lbReturn_spec h).1

/-- **EVERY CLEAN EVENT KEEPS THE INVARIANT.** -/
theorem step_pinsAreLatest {e : Event} (hinv : PinsAreLatest s) (hclean : Clean s e) :
    PinsAreLatest (step s e) := by
  cases e with
  | ingress m skb => exact record_pinsAreLatest hinv (ingress_agrees m s.flows skb) hclean
  | dsr m skb => exact record_pinsAreLatest hinv (dsr_agrees m s.flows skb) hclean
  | ret m net skb =>
    show PinsAreLatest { s with flows := afterReturn m s.flows skb }
    rw [afterReturn_eq]
    exact hinv
  | enter m skb => exact hinv
  | other f =>
    intro k rv hrv hlb
    exact hinv k rv (hclean k rv hrv hlb) hlb

theorem replyHeld_of_latestIn {m : Maps} {net : U32} {skb : Skb} (hinv : PinsAreLatest s)
    (hclean : Clean s (.ret m net skb)) : ReplyHeld s m net skb := by
  intro p out hp hout hleave
  obtain ⟨-, sport, dport, rv, hports, hrv, hlb, hframe⟩ := lbReturn_spec hout
  obtain ⟨d, hd, hvip, hvport, -⟩ := hinv _ rv hrv hlb
  have hnet : d.net = net := hclean p sport dport hp hports d hd
  have hkey : d.key = replyKey p sport dport := latest_key hd
  refine ⟨sport, dport, d, hports, ?_, ?_⟩
  · refine latest_refine (fun b hb => ?_) hd (Prod.ext hnet hkey)
    exact congrArg Prod.snd hb
  · rw [hframe hleave, hvip, hvport]

theorem enterHeld_of_latestIn {m : Maps} {skb : Skb} (hinv : PinsAreLatest s)
    (hclean : Clean s (.enter m skb)) : EnterHeld s m skb := by
  intro p sport dport hp hports hadm
  obtain ⟨rv, hrv, hlb⟩ := admitsByPin_spec hadm hports
  obtain ⟨d, hd, -, -, hown⟩ := hinv _ rv hrv hlb
  rw [hown, hclean p sport dport hp hports d hd]

/-- **REPLIES KEEP TENANT AND FRONTEND IDENTITY** in every run of clean events, with any
    interleaving of the two writers. -/
theorem lbReply_held {s : LbNode} (hrun : Reaches step Clean Fresh s) (e : Event)
    (he : Clean s e) : Held s e := by
  have hinv : PinsAreLatest s :=
    hrun.invariant (fun _ => fresh_pinsAreLatest) fun _ _ => step_pinsAreLatest
  cases e with
  | ingress m skb | dsr m skb => trivial
  | ret m net skb => exact replyHeld_of_latestIn hinv he
  | enter m skb => exact enterHeld_of_latestIn hinv he
  | other f => trivial

/-- VPC 100 and VPC 200 both have a pod 10.0.0.5, on veths 5 and 9. Two frontends are both served by
    VPC 100's pod, port 8080, whose door is open. -/
def twoTenants : Maps := { Maps.empty with
  params := fun i => if i = cfgUplinkIfindex then 2#32 else 0#32
  lbProg := fun _ => true
  ports := fun i => if i = 5#32 then some 100#32 else if i = 9#32 then some 200#32 else none
  locals := fun k =>
    if k = ⟨100#32, v4To128 0x0a000005#32⟩ then some ⟨5#32, 1#256⟩
    else if k = ⟨200#32, v4To128 0x0a000005#32⟩ then some ⟨9#32, 2#256⟩
    else none
  sgMembers := fun k =>
    if k = ⟨100#32, v4To128 0x0a000005#32⟩ then some ⟨0#64, 1#256⟩ else none
  networks := [⟨136, 100#32 ++ v4To128 0x0a000000#32, 100#32⟩,
    ⟨136, 200#32 ++ v4To128 0x0a000000#32, 200#32⟩]
  vpcIngress := fun n => n = 100#32
  bridges := fun x =>
    if x = v4To128 0x0ac80005#32 then some ⟨100#32, v4To128 0x0a000005#32⟩ else none
  svcVips := fun k =>
    if k = ⟨0#32, v4To128 0xcb00710a#32, ipprotoUdp, 80#16⟩ ∨
        k = ⟨0#32, v4To128 0xcb00710b#32, ipprotoUdp, 80#16⟩ then
      some ⟨1#32, 0#32, fun _ => ⟨v4To128 0x0ac80005#32, 8080#16⟩⟩
    else none }

/-- The client to port 80 of a frontend, at the uplink. -/
def toVip (vip : U32) : Skb :=
  ⟨.ip4 ⟨4#4, 5#4, 0#16, ipprotoUdp, 0xc6336409#32, vip⟩
    [0x30#8, 0x39#8, 0#8, 80#8, 0#8, 8#8, 0#8, 0#8], 0#32, 2#32, 2#32, none, none⟩

/-- The pod's reply to that client. -/
def podReply (veth : U32) : Skb :=
  ⟨.ip4 ⟨4#4, 5#4, 0#16, ipprotoUdp, 0x0a000005#32, 0xc6336409#32⟩
    [0x1f#8, 0x90#8, 0x30#8, 0x39#8, 0#8, 8#8, 0#8, 0#8], 0#32, veth, veth, none, none⟩

/-- The client to 10.0.0.5:8080, at VPC 200's veth. -/
def clientAtVeth9 : Skb :=
  ⟨.ip4 ⟨4#4, 5#4, 0#16, ipprotoUdp, 0xc6336409#32, 0x0a000005#32⟩
    [0x30#8, 0x39#8, 0x1f#8, 0x90#8, 0#8, 8#8, 0#8, 0#8], 0#32, 9#32, 2#32, none, none⟩

def idleNode : LbNode := ⟨Flows.empty, [], fun _ => none⟩

/-- One client packet to a frontend. -/
def serveVip (s : LbNode) (vip : U32) : LbNode := step s (.ingress twoTenants (toVip vip))

theorem idleNode_fresh : Fresh idleNode := ⟨rfl, fun _ _ h => nomatch h⟩

theorem lbReply_held_own :
    Held (serveVip idleNode 0xcb00710a#32) (.ret twoTenants 100#32 (podReply 5#32)) := by
  have hfirst : Clean idleNode (.ingress twoTenants (toVip 0xcb00710a#32)) := by
    intro a ha
    cases ha
    exact ⟨fun _ => rfl, nofun⟩
  refine lbReply_held (.next (.start idleNode_fresh) hfirst) _ ?_
  intro p sport dport hp hports d hd
  cases hp
  cases hports
  cases hd
  rfl

/-- **ANOTHER TENANT ANSWERS, AND IS ENTERED, ON THE FIRST ONE'S PIN**; and a pinned flow no longer
    corrects an overwritten reply identity. -/
theorem lbReply_crosses :
    (¬ Held (serveVip idleNode 0xcb00710a#32) (.ret twoTenants 200#32 (podReply 9#32))) ∧
    (¬ Held (serveVip idleNode 0xcb00710a#32) (.enter twoTenants clientAtVeth9)) ∧
    (cozyplaneToPod twoTenants (serveVip idleNode 0xcb00710a#32).flows ⟨0#64, 0#32, true, true⟩
      clientAtVeth9).act = .ok ∧
    (cozyplaneToPod twoTenants idleNode.flows ⟨0#64, 0#32, true, true⟩ clientAtVeth9).act = .shot ∧
    (¬ Held (serveVip (serveVip (serveVip idleNode 0xcb00710a#32) 0xcb00710b#32) 0xcb00710a#32)
      (.ret twoTenants 100#32 (podReply 5#32))) := by
  refine ⟨fun h => ?_, fun h => ?_, by decide +kernel, by decide +kernel, fun h => ?_⟩
  · obtain ⟨sport, dport, d, hports, hd, -⟩ := h _ _ rfl rfl rfl
    cases hports
    nomatch (show none = some d from hd)
  · have hown := h _ _ _ rfl rfl (by decide +kernel)
    exact absurd hown (by decide +kernel)
  · obtain ⟨sport, dport, d, hports, hd, hframe⟩ := h _ _ rfl rfl rfl
    cases hports
    cases hd
    exact absurd hframe (by decide +kernel)

end CozyReply
