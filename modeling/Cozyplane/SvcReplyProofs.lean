import Cozyplane.RunProofs
import Cozyplane.ServiceProofs

/-!
# Service replies — undoing the translation on the client's node

`svc_forward` pins a flow under the VIP that was dialled, and files the way back under the BACKEND
it chose. Two flows of one client port to different VIPs are different pins; if their VIPs share
a backend they are one entry of `svc_rev`, which the later of the two overwrites.
-/

namespace CozySvcReply

open CozyPacket CozyMaps CozyDatapath CozyService Run Function

/-- A packet that `svc_forward` translated. -/
structure Dial where
  net : U32
  proto : U8
  cport : U16
  client : Addr
  vip : Addr
  vport : U16
  backend : Addr
  tport : U16
  deriving DecidableEq

def Dial.fwdKey (d : Dial) : SvcFwdKey := ⟨d.net, d.proto, d.cport, d.client, d.vip, d.vport⟩

/-- The key of the way back: the VIP is not part of it. -/
def Dial.revKey (d : Dial) : SvcRevKey := ⟨d.net, d.proto, d.cport, d.backend, d.client, d.tport⟩

/-- What `svc_forward` makes of a packet, if it translates it. -/
def dialOf (m : Maps) (f : Flows) (skb : Skb) (p : Pkt) (srcnet dstnet : U32) : Option Dial :=
  match svcPorts skb.frame p with
  | none => none
  | some (sport, dport) =>
    match m.svcVips ⟨dstnet, p.dst, p.proto, dport⟩ with
    | none => none
    | some sv =>
      if sv.n = 0#32 then none
      else
        let v := svcPick sv (f.svcFwd ⟨srcnet, p.proto, sport, p.src, p.dst, dport⟩) p sport dport
        some ⟨srcnet, p.proto, sport, p.src, p.dst, dport, v.backend, v.tport⟩

/-- The frontend a reply is translated back to. -/
def undo (f : Flows) (k : SvcRevKey) : Option (Addr × U16) :=
  (f.svcRev k).map fun rv => (rv.vip, rv.vport)

/-- The flow tables, and every dial so far (recorded here only). -/
structure Node where
  flows : Flows
  dials : List Dial

/-- The three programs, each with the maps at that moment. -/
inductive Ev where
  | forward (m : Maps) (skb : Skb) (p : Pkt) (srcnet dstnet : U32)
  | reply (skb : Skb) (p : Pkt) (dstnet : U32)
  | hairpin (m : Maps) (skb : Skb) (p : Pkt) (srcnet : U32)

def step (s : Node) : Ev → Node
  | .forward m skb p srcnet dstnet =>
    ⟨(svcForward m s.flows skb p srcnet dstnet).1,
      (dialOf m s.flows skb p srcnet dstnet).toList ++ s.dials⟩
  | .reply skb p dstnet =>
    { s with flows := ((svcReturn s.flows skb p dstnet).map Out.flows).getD s.flows }
  | .hairpin m skb p srcnet => { s with flows := (svcHairpinReverse m s.flows skb p srcnet).flows }

/-- No flow has been pinned yet. -/
def Fresh (s : Node) : Prop :=
  s.dials = [] ∧ (∀ k, s.flows.svcFwd k = none) ∧ ∀ k, s.flows.svcRev k = none

/-- Every dial is undone to the frontend it dialled, and a packet is rewritten only as the reply of
    some dial. -/
def Undone (s : Node) : Prop :=
  (∀ d ∈ s.dials, undo s.flows d.revKey = some (d.vip, d.vport)) ∧
    ∀ k, undo s.flows k ≠ none → ∃ d ∈ s.dials, d.revKey = k

/-- At the backend a dial is sent to, the client port has no flow to another frontend. -/
def Unshared (s : Node) : Ev → Prop
  | .forward m skb p srcnet dstnet =>
    ∀ d, dialOf m s.flows skb p srcnet dstnet = some d → ∀ d' ∈ s.dials, d'.revKey = d.revKey →
      d'.vip = d.vip ∧ d'.vport = d.vport
  | .reply .. => True
  | .hairpin .. => True

/-- The tables after a new flow was pinned. -/
def pinFlow (f : Flows) (d : Dial) : Flows :=
  { f with
    svcFwd := update f.svcFwd d.fwdKey (some ⟨d.backend, d.tport, d.backend == d.client⟩)
    svcRev := update f.svcRev d.revKey (some ⟨d.vip, d.vport, false, 0#32⟩) }

theorem svcForward_flows (m : Maps) (f : Flows) (skb : Skb) (p : Pkt) (srcnet dstnet : U32) :
    (svcForward m f skb p srcnet dstnet).1 =
      match dialOf m f skb p srcnet dstnet with
      | none => f
      | some d =>
        match f.svcFwd d.fwdKey with
        | some _ => f
        | none => pinFlow f d := by
  unfold svcForward dialOf
  cases svcPorts skb.frame p with
  | none => rfl
  | some ports =>
    obtain ⟨sport, dport⟩ := ports
    dsimp only
    cases m.svcVips ⟨dstnet, p.dst, p.proto, dport⟩ with
    | none => rfl
    | some sv =>
      dsimp only
      by_cases hn : sv.n = 0#32
      · rw [if_pos hn, if_pos hn]
      rw [if_neg hn, if_neg hn]
      dsimp only [Dial.fwdKey]
      cases f.svcFwd ⟨srcnet, p.proto, sport, p.src, p.dst, dport⟩ with
      | none | some v => rfl

theorem dialOf_pinned {m : Maps} {f : Flows} {skb : Skb} {p : Pkt} {srcnet dstnet : U32} {d : Dial}
    (h : dialOf m f skb p srcnet dstnet = some d) {v : SvcFwdVal} (hv : f.svcFwd d.fwdKey = some v) :
    d.backend = v.backend ∧ d.tport = v.tport := by
  unfold dialOf at h
  cases hports : svcPorts skb.frame p with
  | none => rw [hports] at h; nomatch h
  | some ports =>
    obtain ⟨sport, dport⟩ := ports
    rw [hports] at h
    dsimp only at h
    split at h
    · nomatch h
    rename_i sv _
    split at h
    · nomatch h
    cases h
    have hpin : f.svcFwd ⟨srcnet, p.proto, sport, p.src, p.dst, dport⟩ = some v := hv
    rw [hpin]
    exact ⟨rfl, rfl⟩

theorem svcReturn_flows (f : Flows) (skb : Skb) (p : Pkt) (dstnet : U32) :
    ((svcReturn f skb p dstnet).map Out.flows).getD f = f := by
  unfold svcReturn
  cases svcPorts skb.frame p with
  | none => rfl
  | some ports =>
    dsimp only
    cases f.svcRev ⟨dstnet, p.proto, ports.2, p.src, p.dst, ports.1⟩ with
    | none | some rv => rfl

theorem svcHairpinReverse_flows (m : Maps) (f : Flows) (skb : Skb) (p : Pkt) (srcnet : U32) :
    (svcHairpinReverse m f skb p srcnet).flows = f := by
  unfold svcHairpinReverse
  cases svcPorts skb.frame p with
  | none => rfl
  | some ports =>
    dsimp only
    cases f.svcRev ⟨srcnet, p.proto, ports.2, p.src, p.src, ports.1⟩ with
    | none => rfl
    | some rv =>
      cases localOf m srcnet p.src with
      | none | some l => rfl

/-- **WHAT A REPLY BECOMES**: `svc_return` rewrites its source as `undo` says, or not at all. -/
theorem svcReturn_eq (f : Flows) (skb : Skb) (p : Pkt) (dstnet : U32) :
    svcReturn f skb p dstnet =
      match svcPorts skb.frame p with
      | none => none
      | some (sport, dport) =>
        (undo f ⟨dstnet, p.proto, dport, p.src, p.dst, sport⟩).map fun (vip, vport) =>
          okOut f { skb with frame := snatTo skb.frame vip sport vport } := by
  unfold svcReturn undo
  cases svcPorts skb.frame p with
  | none => rfl
  | some ports =>
    obtain ⟨sport, dport⟩ := ports
    dsimp only
    cases f.svcRev ⟨dstnet, p.proto, dport, p.src, p.dst, sport⟩ with
    | none | some rv => rfl

/-- The frame of a self-dial's reply: its source as `undo` says, its destination the pod. -/
theorem svcHairpinReverse_frame (m : Maps) (f : Flows) (skb : Skb) (p : Pkt) (srcnet : U32) :
    (svcHairpinReverse m f skb p srcnet).skb.frame =
      match svcPorts skb.frame p with
      | none => skb.frame
      | some (sport, dport) =>
        match undo f ⟨srcnet, p.proto, dport, p.src, p.src, sport⟩ with
        | none => skb.frame
        | some (vip, vport) => (snatTo skb.frame vip sport vport).setDst p.src := by
  unfold svcHairpinReverse undo
  cases svcPorts skb.frame p with
  | none => rfl
  | some ports =>
    obtain ⟨sport, dport⟩ := ports
    dsimp only
    cases f.svcRev ⟨srcnet, p.proto, dport, p.src, p.src, sport⟩ with
    | none => rfl
    | some rv =>
      cases localOf m srcnet p.src with
      | none | some l => rfl

-- ── runs

/-- The forward pins are those of the dials. -/
structure Pinned (s : Node) : Prop where
  sound : ∀ k v, s.flows.svcFwd k = some v →
    ∃ d ∈ s.dials, d.fwdKey = k ∧ d.backend = v.backend ∧ d.tport = v.tport
  complete : ∀ d ∈ s.dials, ∃ v, s.flows.svcFwd d.fwdKey = some v

theorem Dial.ext_keys {d d' : Dial} (hkey : d'.fwdKey = d.fwdKey) (hb : d'.backend = d.backend)
    (ht : d'.tport = d.tport) : d' = d := by
  cases d
  cases d'
  cases hkey
  cases hb
  cases ht
  rfl

/-- **A PINNED DIAL** is a dial again: nothing changes, and it was undone before. -/
theorem pinned_step {s : Node} (hpin : Pinned s) (hundone : Undone s) {d : Dial}
    (hd : ∀ v, s.flows.svcFwd d.fwdKey = some v → d.backend = v.backend ∧ d.tport = v.tport)
    {v : SvcFwdVal} (hv : s.flows.svcFwd d.fwdKey = some v) :
    d ∈ s.dials ∧ Pinned ⟨s.flows, d :: s.dials⟩ ∧ Undone ⟨s.flows, d :: s.dials⟩ := by
  obtain ⟨d₀, hd₀, hkey, hb, ht⟩ := hpin.sound _ v hv
  obtain ⟨hb', ht'⟩ := hd v hv
  obtain rfl := Dial.ext_keys hkey (hb.trans hb'.symm) (ht.trans ht'.symm)
  refine ⟨hd₀, ⟨fun k u hu => ?_, fun d' hd' => ?_⟩, fun d' hd' => ?_, fun k hk => ?_⟩
  · obtain ⟨d', hd', h⟩ := hpin.sound k u hu
    exact ⟨d', .tail _ hd', h⟩
  · rcases List.mem_cons.mp hd' with rfl | hd'
    · exact hpin.complete d' hd₀
    · exact hpin.complete d' hd'
  · rcases List.mem_cons.mp hd' with rfl | hd'
    · exact hundone.1 d' hd₀
    · exact hundone.1 d' hd'
  · obtain ⟨d', hd', h⟩ := hundone.2 k hk
    exact ⟨d', .tail _ hd', h⟩

theorem undo_pinFlow (f : Flows) (d : Dial) (k : SvcRevKey) :
    undo (pinFlow f d) k = if k = d.revKey then some (d.vip, d.vport) else undo f k := by
  show ((update f.svcRev d.revKey _) k).map _ = _
  by_cases hk : k = d.revKey
  · subst hk
    rw [update_self, if_pos rfl]
    rfl
  · rw [update_of_ne hk, if_neg hk]
    rfl

/-- **A NEW FLOW** leaves all dials undone iff its backend is not shared. -/
theorem new_step {s : Node} (hpin : Pinned s) (hundone : Undone s) (d : Dial)
    (hnew : s.flows.svcFwd d.fwdKey = none) :
    Pinned ⟨pinFlow s.flows d, d :: s.dials⟩ ∧
      (Undone ⟨pinFlow s.flows d, d :: s.dials⟩ ↔
        ∀ d' ∈ s.dials, d'.revKey = d.revKey → d'.vip = d.vip ∧ d'.vport = d.vport) := by
  refine ⟨⟨fun k v hv => ?_, fun d' hd' => ?_⟩, fun h d' hd' hkey => ?_, fun h => ⟨?_, ?_⟩⟩
  · have hv : update s.flows.svcFwd d.fwdKey _ k = some v := hv
    by_cases hk : k = d.fwdKey
    · subst hk
      rw [update_self] at hv
      cases hv
      exact ⟨d, .head _, rfl, rfl, rfl⟩
    · rw [update_of_ne hk] at hv
      obtain ⟨d', hd', h⟩ := hpin.sound k v hv
      exact ⟨d', .tail _ hd', h⟩
  · show ∃ v, update s.flows.svcFwd d.fwdKey _ d'.fwdKey = some v
    by_cases hk : d'.fwdKey = d.fwdKey
    · rw [hk, update_self]
      exact ⟨_, rfl⟩
    rw [update_of_ne hk]
    rcases List.mem_cons.mp hd' with rfl | hd'
    · exact absurd rfl hk
    · exact hpin.complete d' hd'
  · have hd := h.1 d' (.tail _ hd')
    rw [undo_pinFlow, if_pos hkey] at hd
    obtain ⟨hvip, hvport⟩ := Prod.mk.inj (Option.some.inj hd)
    exact ⟨hvip.symm, hvport.symm⟩
  · intro d' hd'
    rw [undo_pinFlow]
    rcases List.mem_cons.mp hd' with rfl | hd'
    · exact if_pos rfl
    by_cases hkey : d'.revKey = d.revKey
    · obtain ⟨hvip, hvport⟩ := h d' hd' hkey
      rw [if_pos hkey, hvip, hvport]
    · rw [if_neg hkey]
      exact hundone.1 d' hd'
  · intro k hk
    rw [undo_pinFlow] at hk
    by_cases hkey : k = d.revKey
    · exact ⟨d, .head _, hkey.symm⟩
    rw [if_neg hkey] at hk
    obtain ⟨d', hd', h⟩ := hundone.2 k hk
    exact ⟨d', .tail _ hd', h⟩

theorem step_iff {s : Node} (hpin : Pinned s) (hundone : Undone s) (e : Ev) :
    Pinned (step s e) ∧ (Undone (step s e) ↔ Unshared s e) := by
  cases e with
  | reply skb p dstnet =>
    have hsame : step s (.reply skb p dstnet) = s := by
      show Node.mk _ _ = _
      rw [svcReturn_flows]
    rw [hsame]
    exact ⟨hpin, iff_of_true hundone trivial⟩
  | hairpin m skb p srcnet =>
    have hsame : step s (.hairpin m skb p srcnet) = s := by
      show Node.mk _ _ = _
      rw [svcHairpinReverse_flows]
    rw [hsame]
    exact ⟨hpin, iff_of_true hundone trivial⟩
  | forward m skb p srcnet dstnet =>
    have hstep : step s (.forward m skb p srcnet dstnet) =
        ⟨(svcForward m s.flows skb p srcnet dstnet).1,
          (dialOf m s.flows skb p srcnet dstnet).toList ++ s.dials⟩ := rfl
    have hshared : Unshared s (.forward m skb p srcnet dstnet) ↔
        ∀ d, dialOf m s.flows skb p srcnet dstnet = some d → ∀ d' ∈ s.dials, d'.revKey = d.revKey →
          d'.vip = d.vip ∧ d'.vport = d.vport := Iff.rfl
    rw [hstep, svcForward_flows, hshared]
    cases hdial : dialOf m s.flows skb p srcnet dstnet with
    | none => exact ⟨hpin, iff_of_true hundone fun d hd => nomatch hd⟩
    | some d =>
      dsimp only [Option.toList, List.cons_append, List.nil_append]
      have hone : (∀ d₁, some d = some d₁ → ∀ d' ∈ s.dials, d'.revKey = d₁.revKey →
          d'.vip = d₁.vip ∧ d'.vport = d₁.vport) ↔
          ∀ d' ∈ s.dials, d'.revKey = d.revKey → d'.vip = d.vip ∧ d'.vport = d.vport := by
        constructor
        · exact fun h => h d rfl
        · intro h d₁ hd₁
          cases hd₁
          exact h
      rw [hone]
      cases hv : s.flows.svcFwd d.fwdKey with
      | none => exact new_step hpin hundone d hv
      | some v =>
        obtain ⟨hmem, hpin', hundone'⟩ :=
          pinned_step hpin hundone (fun u hu => dialOf_pinned hdial hu) hv
        refine ⟨hpin', iff_of_true hundone' fun d' hd' hkey => ?_⟩
        have hd := hundone.1 d hmem
        rw [← hkey, hundone.1 d' hd'] at hd
        exact Prod.mk.inj (Option.some.inj hd)

/-- **REPLIES ARE UNDONE** in every state of a run iff no dial of it shares a backend with another
    frontend of the same client port. -/
theorem replies_undone (m : Maps) (f : Flows) (skb : Skb) (p : Pkt) (net : U32) :
    svcReturn f skb p net =
      (match svcPorts skb.frame p with
      | none => none
      | some (sport, dport) =>
        (undo f ⟨net, p.proto, dport, p.src, p.dst, sport⟩).map fun (vip, vport) =>
          okOut f { skb with frame := snatTo skb.frame vip sport vport }) ∧
    (svcHairpinReverse m f skb p net).skb.frame =
      (match svcPorts skb.frame p with
      | none => skb.frame
      | some (sport, dport) =>
        match undo f ⟨net, p.proto, dport, p.src, p.src, sport⟩ with
        | none => skb.frame
        | some (vip, vport) => (snatTo skb.frame vip sport vport).setDst p.src) ∧
    ∀ (s : Node), Fresh s → ∀ es : List Ev, Throughout Undone step s es ↔ AllMeet Unshared step s es := by
  refine ⟨svcReturn_eq .., svcHairpinReverse_frame .., ?_⟩
  rintro s ⟨hnone, hfwd, hrev⟩ es
  have hpin : Pinned s := by
    refine ⟨fun k v hv => ?_, fun d hd => ?_⟩
    · rw [hfwd k] at hv
      nomatch hv
    · rw [hnone] at hd
      nomatch hd
  have hundone : Undone s := by
    refine ⟨fun d hd => ?_, fun k hk => ?_⟩
    · rw [hnone] at hd
      nomatch hd
    · refine absurd ?_ hk
      unfold undo
      rw [hrev k]
      rfl
  exact throughout_iff_under (I := Pinned) (fun _ e hI hP => step_iff hI hP e) hpin hundone es

/-- Two VIPs on port 80, both served by 10.200.0.5:8080. -/
def twoVips : Maps := { Maps.empty with
  svcVips := fun k =>
    if k = ⟨0#32, v4To128 0x0a600001#32, ipprotoUdp, 80#16⟩ ∨
        k = ⟨0#32, v4To128 0x0a600002#32, ipprotoUdp, 80#16⟩ then
      some ⟨1#32, 0#32, fun _ => ⟨v4To128 0x0ac80005#32, 8080#16⟩⟩
    else none }

/-- The client 10.200.0.9:12345 dials a VIP. -/
def dialVip (vip : U32) : Ev :=
  .forward twoVips
    ⟨.ip4 ⟨4#4, 5#4, 0#16, ipprotoUdp, 0x0ac80009#32, vip⟩
      [0x30#8, 0x39#8, 0#8, 80#8, 0#8, 8#8, 0#8, 0#8], 0#32, 9#32, 9#32, none, none⟩
    ⟨false, ipprotoUdp, v4To128 0x0ac80009#32, v4To128 vip⟩ 0#32 0#32

/-- The backend's reply, at the client's veth. -/
def backendReply : Skb :=
  ⟨.ip4 ⟨4#4, 5#4, 0#16, ipprotoUdp, 0x0ac80005#32, 0x0ac80009#32⟩
    [0x1f#8, 0x90#8, 0x30#8, 0x39#8, 0#8, 8#8, 0#8, 0#8], 0#32, 9#32, 9#32, none, none⟩

def newNode : Node := ⟨Flows.empty, []⟩

/-- **REPLIES CROSS**: the client port that dialled 10.96.0.1 last gets its reply from 10.96.0.2. -/
theorem replies_crossed :
    Fresh newNode ∧
    ¬ Throughout Undone step newNode
      [dialVip 0x0a600001#32, dialVip 0x0a600002#32, dialVip 0x0a600001#32] ∧
    (svcReturn
      (step (step (step newNode (dialVip 0x0a600001#32)) (dialVip 0x0a600002#32))
        (dialVip 0x0a600001#32)).flows
      backendReply ⟨false, ipprotoUdp, v4To128 0x0ac80005#32, v4To128 0x0ac80009#32⟩ 0#32).map
        (fun o => (parseIp o.skb.frame).map Pkt.src) = some (some (v4To128 0x0a600002#32)) := by
  refine ⟨⟨rfl, fun _ => rfl, fun _ => rfl⟩, fun h => ?_, by decide +kernel⟩
  obtain ⟨_, _, _, hundone⟩ := h
  have hfirst := hundone.1 ⟨0#32, ipprotoUdp, 12345#16, v4To128 0x0ac80009#32, v4To128 0x0a600001#32,
    80#16, v4To128 0x0ac80005#32, 8080#16⟩ (by decide +kernel)
  exact absurd hfirst (by decide +kernel)

end CozySvcReply
