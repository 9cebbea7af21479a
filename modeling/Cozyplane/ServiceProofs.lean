import Cozyplane.TranslationProofs

/-!
# Services — ServiceVIP, LoadBalancer ingress, host-firewall exits

A service row (`svc_vips`) lists up to sixteen backends. `svc_forward` DNATs a pod's packet
to one of them and pins the choice (`svc_fwd`) and its reversal (`svc_rev`); the same two
tables, under network 0, carry LoadBalancer flows: `lb_ingress` on the node that attracted
the packet, `lb_dsr` on the node of a remote backend, `lb_return` at the backend's own veth.

`hf_ingress` and `hf_egress` sit here because the LoadBalancer miss path ends in the first.
-/

namespace CozyService

open PrefixTable CozyPacket CozyMaps CozyDatapath CozyPolicy CozyNat Function

/-- `svc_hash`, on the words as a little-endian CPU reads them. -/
def svcHash (p : Pkt) (sport dport : U16) : U32 :=
  let a := swab32 (v4Of128 p.src)
  let b := swab32 (v4Of128 p.dst)
  let h := (a ^^^ (b <<< 1) ^^^ (swab16 sport).setWidth 32 ^^^
    ((swab16 dport).setWidth 32 <<< 16) ^^^ p.proto.setWidth 32) * 2654435761#32
  h ^^^ (h >>> 16)

/-- The rows in use: `n` capped at `SVC_MAX_BACKENDS`. -/
def svcRows (sv : SvcVal) : Nat := min sv.n.toNat 16

/-- `idx = (hash * n) >> 32`, masked to the array. With `SVC_F_AFFINITY` the source port
    stays out of the hash. -/
def svcIndex (sv : SvcVal) (p : Pkt) (sport dport : U16) : Fin 16 :=
  let hport := if hasBit sv.flags 1#32 then 0#16 else sport
  ⟨(svcHash p hport dport).toNat * svcRows sv / 2 ^ 32 % 16, Nat.mod_lt _ (by decide)⟩

/-- `backend` is one of the rows in use. -/
def svcLists (sv : SvcVal) (be : SvcBackend) : Prop :=
  ∃ i : Fin 16, i.val < svcRows sv ∧ sv.be i = be

/-- **THE HASH STAYS INSIDE THE ROWS IN USE.** -/
theorem svcIndex_lt (sv : SvcVal) (p : Pkt) (sport dport : U16) (hn : sv.n ≠ 0#32) :
    (svcIndex sv p sport dport).val < svcRows sv := by
  have hpos : 0 < sv.n.toNat := by
    have hne : sv.n.toNat ≠ 0 := fun h => hn (BitVec.eq_of_toNat_eq h)
    omega
  have hrows : 0 < svcRows sv := by unfold svcRows; omega
  have hquot : ∀ h : U32, h.toNat * svcRows sv / 2 ^ 32 < svcRows sv := by
    intro h
    rw [Nat.div_lt_iff_lt_mul (by decide), Nat.mul_comm]
    exact Nat.mul_lt_mul_of_pos_left h.isLt hrows
  show _ % 16 < svcRows sv
  exact Nat.lt_of_le_of_lt (Nat.mod_le _ _) (hquot _)

/-- Rewrite the destination, and the port if it differs. -/
def dnatTo (fr : Frame) (dst : Addr) (dport tport : U16) : Frame :=
  if dport = tport then fr.setDst dst else (fr.setDst dst).setDport tport

/-- Rewrite the source, and the port if it differs. -/
def snatTo (fr : Frame) (src : Addr) (sport vport : U16) : Frame :=
  if sport = vport then fr.setSrc src else (fr.setSrc src).setSport vport

theorem parseIp_dnatTo {fr : Frame} {p : Pkt} (dst : Addr) (dport tport : U16)
    (h : parseIp fr = some p) :
    parseIp (dnatTo fr dst dport tport) = some { p with dst := wireAddr p.isV6 dst } := by
  unfold dnatTo
  split
  · exact parseIp_setDst dst h
  · exact (parseIp_setL4 _ _).trans (parseIp_setDst dst h)

theorem l4Ports_dnatTo {fr : Frame} {sport dport : U16} (dst : Addr) (tport : U16)
    (h : l4Ports fr = some (sport, dport)) :
    l4Ports (dnatTo fr dst dport tport) = some (sport, tport) := by
  have hdst : l4Ports (fr.setDst dst) = some (sport, dport) := by
    rw [← h]
    exact l4Ports_congr fun i _ => by rw [l4_setDst]
  unfold dnatTo
  split
  · rename_i he
    rw [hdst, he]
  · exact l4Ports_setDport tport hdst

@[simp] theorem unsupportedIpHeader_dnatTo (fr : Frame) (dst : Addr) (dport tport : U16) :
    unsupportedIpHeader (dnatTo fr dst dport tport) = unsupportedIpHeader fr := by
  unfold dnatTo
  split
  · exact unsupportedIpHeader_setDst dst fr
  · exact (unsupportedIpHeader_setL4 _ _).trans (unsupportedIpHeader_setDst dst fr)

/-- Ports of a TCP/UDP packet with a fixed header, the shared guard of the service
    programs. -/
def svcPorts (fr : Frame) (p : Pkt) : Option (U16 × U16) :=
  if !isTcpUdp p.proto then none
  else if !p.isV6 && ihlNot5 fr then none
  else l4Ports fr

/-- The hairpin loopback of the packet's family. -/
def svcLoopbackOf (isV6 : Bool) : Addr := if isV6 then svcLoopback6 else v4To128 svcLoopback

/-- The pin of a flow: the one in `svc_fwd`, or the hash's choice. -/
def svcPick (sv : SvcVal) (pin : Option SvcFwdVal) (p : Pkt) (sport dport : U16) : SvcFwdVal :=
  match pin with
  | some v => v
  | none =>
    let be := sv.be (svcIndex sv p sport dport)
    ⟨be.ip, be.port, be.ip == p.src⟩

/-- `svc_forward`: flow tables, frame and packet after it; unchanged on `SVC_MISS`. -/
def svcForward (m : Maps) (f : Flows) (skb : Skb) (p : Pkt) (srcnet dstnet : U32) :
    Flows × Skb × Pkt :=
  match svcPorts skb.frame p with
  | none => (f, skb, p)
  | some (sport, dport) =>
    match m.svcVips ⟨dstnet, p.dst, p.proto, dport⟩ with
    | none => (f, skb, p)
    | some sv =>
      if sv.n = 0#32 then (f, skb, p)
      else
        let fk : SvcFwdKey := ⟨srcnet, p.proto, sport, p.src, p.dst, dport⟩
        let v := svcPick sv (f.svcFwd fk) p sport dport
        let f' := match f.svcFwd fk with
          | some _ => f
          | none =>
            { f with
              svcFwd := update f.svcFwd fk (some v)
              svcRev := update f.svcRev
                ⟨srcnet, p.proto, sport, v.backend, p.src, v.tport⟩
                (some ⟨p.dst, dport, false, 0#32⟩) }
        let fr := dnatTo skb.frame v.backend dport v.tport
        let fr' := if v.hairpin then fr.setSrc (svcLoopbackOf p.isV6) else fr
        (f', { skb with frame := fr' }, { p with dst := v.backend })

/-- `svc_return`; `none` is `SVC_MISS`. -/
def svcReturn (f : Flows) (skb : Skb) (p : Pkt) (dstnet : U32) : Option Out :=
  match svcPorts skb.frame p with
  | none => none
  | some (sport, dport) =>
    match f.svcRev ⟨dstnet, p.proto, dport, p.src, p.dst, sport⟩ with
    | none => none
    | some rv => some (okOut f { skb with frame := snatTo skb.frame rv.vip sport rv.vport })

def svcHairpinReverse (m : Maps) (f : Flows) (skb : Skb) (p : Pkt) (srcnet : U32) : Out :=
  match svcPorts skb.frame p with
  | none => shotOut f skb
  | some (sport, dport) =>
    match f.svcRev ⟨srcnet, p.proto, dport, p.src, p.src, sport⟩ with
    | none => shotOut f skb
    | some rv =>
      let skb' := { skb with frame := (snatTo skb.frame rv.vip sport rv.vport).setDst p.src }
      match localOf m srcnet p.src with
      | none => shotOut f skb'
      | some l => deliverLocal f skb' srcnet p.src l

/-- The link an LB flow names for its reply: its arrival link, else the frontend's own. -/
def lbFlowLink (m : Maps) (rv : SvcRevVal) : U32 :=
  if rv.ifindex ≠ 0#32 then rv.ifindex
  else match extLinkOf m rv.vip with
    | some x => x.ifindex
    | none => 0#32

/-- The link an LB reply leaves by: the flow's own, else the floating uplink, else the
    default one. -/
def lbUplink (m : Maps) (rv : SvcRevVal) : U32 :=
  if lbFlowLink m rv ≠ 0#32 then lbFlowLink m rv
  else if cfg m cfgFloatIfindex ≠ 0#32 then cfg m cfgFloatIfindex
  else cfg m cfgUplinkIfindex

/-- `lb_return`; `none` is `LB_MISS`. The reverse entry is looked up under network 0,
    whatever network the pod is in. -/
def lbReturn (m : Maps) (f : Flows) (skb : Skb) (p : Pkt) : Option Out :=
  match svcPorts skb.frame p with
  | none => none
  | some (sport, dport) =>
    match f.svcRev ⟨0#32, p.proto, dport, p.src, p.dst, sport⟩ with
    | none => none
    | some rv =>
      if !rv.lb then none
      else if lbUplink m rv = 0#32 then some (okOut f skb)
      else
        let skb' := { skb with frame := snatTo skb.frame rv.vip sport rv.vport }
        if p.isV6 then some ⟨f, skb', .neigh (lbUplink m rv) none⟩
        else
          match extLinkOf m rv.vip with
          | some x =>
            -- the router belongs to that link: named only when the reply leaves by it
            if lbFlowLink m rv = x.ifindex then
              some (extRedirect f skb' (lbUplink m rv) x.nh x.base x.mask)
            else some (extRedirect f skb' (lbUplink m rv) 0#32 0#32 0#32)
          | none => some (extRedirect f skb' (lbUplink m rv) 0#32 0#32 0#32)

/-- The TCP flag byte, 0 when it cannot be loaded. -/
def tcpFlagsOr0 (fr : Frame) : U8 := (tcpFlags fr).getD 0#8

/-- The egress gate of the host firewall refuses a new flow to `dst`. -/
def hfEgressRefuses (m : Maps) (fr : Frame) (p : Pkt) (dport : U16) : Bool :=
  cfg m cfgHfEgEnabled != 0#32 &&
    (p.proto != ipprotoTcp || isSyn (tcpFlagsOr0 fr)) &&
    (cfg m cfgHfEgEnabled == 2#32 || !hfGate m.hfEallow p.proto dport p.dst p.isV6)

/-- Pin the UDP reply of `pod:pport → peer:rport` in `hf_ct`. -/
def hfPin (f : Flows) (proto : U8) (pod peer : Addr) (pport rport : U16) : Flows :=
  if proto = ipprotoUdp then
    { f with hfCt := update f.hfCt ⟨pod, peer, pport, rport, ipprotoUdp⟩ true }
  else f

/-- `cozyplane_hf_ingress`. -/
def hfIngress (m : Maps) (f : Flows) (skb : Skb) : Out :=
  match parseIp skb.frame with
  | none => okOut f skb
  | some p =>
    if !(isTcpUdp p.proto || p.proto == ipprotoSctp) then okOut f skb
    else
      match l4Ports skb.frame with
      | none => okOut f skb
      | some (sport, dport) =>
        if !m.hfSelf p.dst then
          -- not host-destined: only node-originated traffic is judged here
          if !m.hfSelf p.src || (m.npNodes p.dst).isSome then okOut f skb
          else if hfEgressRefuses m skb.frame p dport then shotOut f skb
          else okOut (hfPin f p.proto p.src p.dst sport dport) skb
        else if (m.npNodes p.src).isSome then okOut f skb
        else if p.proto = ipprotoTcp ∧ isSyn (tcpFlagsOr0 skb.frame) = false then okOut f skb
        else if p.proto = ipprotoUdp ∧ (dport = (cfg m cfgGenevePort).setWidth 16 ∨
            f.hfCt ⟨p.dst, p.src, dport, sport, ipprotoUdp⟩ = true) then okOut f skb
        else if cfg m cfgHfEnabled = 0#32 then okOut f skb
        else if cfg m cfgHfEnabled = 2#32 ∨
            hfGate m.hfAllow p.proto dport p.src p.isV6 = false then shotOut f skb
        else okOut (hfPin f p.proto p.dst p.src dport sport) skb

/-- `cozyplane_hf_egress`: node → remote pod, encapsulated here on admit. -/
def hfEgress (m : Maps) (f : Flows) (skb : Skb) : Out :=
  match parseIp skb.frame with
  | none => okOut f skb
  | some p =>
    match l4Ports skb.frame with
    | none => okOut f skb
    | some (sport, dport) =>
      if hfEgressRefuses m skb.frame p dport then shotOut f skb
      else
        let f' := hfPin f p.proto p.src p.dst sport dport
        match remoteOf m 0#32 p.dst with
        | none => okOut f' skb
        | some node => encap m f' skb 0#32 node 0#32

/-- The host-stack exit: the firewall if it is armed and loaded (`lb_prog` slot 2), else
    the caller's verdict. -/
def hfExit (m : Maps) (f : Flows) (skb : Skb) (verdict : Act) : Out :=
  if hfArmed m && m.lbProg 2 then hfIngress m f skb else ⟨f, skb, verdict⟩

/-- The host firewall writes `hf_ct` and no other table. -/
def HfOnly (f g : Flows) : Prop := g = { f with hfCt := g.hfCt }

theorem hfPin_only (f : Flows) (proto : U8) (pod peer : Addr) (pport rport : U16) :
    HfOnly f (hfPin f proto pod peer pport rport) := by
  unfold hfPin
  split
  · rfl
  · rfl

theorem hfIngress_only (m : Maps) (f : Flows) (skb : Skb) : HfOnly f (hfIngress m f skb).flows := by
  unfold hfIngress
  cases parseIp skb.frame with
  | none => rfl
  | some p =>
    simp only []
    split
    · rfl
    cases l4Ports skb.frame with
    | none => rfl
    | some ports =>
      repeat' split
      all_goals first | rfl | exact hfPin_only ..

theorem hfEgress_only (m : Maps) (f : Flows) (skb : Skb) : HfOnly f (hfEgress m f skb).flows := by
  unfold hfEgress
  cases parseIp skb.frame with
  | none => rfl
  | some p =>
    cases l4Ports skb.frame with
    | none => rfl
    | some ports =>
      simp only []
      split
      · rfl
      cases remoteOf m 0#32 p.dst with
      | none => exact hfPin_only ..
      | some node =>
        show HfOnly f (encap m _ skb 0#32 node 0#32).flows
        rw [encap_flows]
        exact hfPin_only ..

theorem hfExit_only (m : Maps) (f : Flows) (skb : Skb) (verdict : Act) :
    HfOnly f (hfExit m f skb verdict).flows := by
  unfold hfExit
  split
  · exact hfIngress_only m f skb
  · rfl

-- ── LoadBalancer ingress

/-- `encap_lb`: a DSR flow to the backend's node, under the default VNI, carrying the
    frontend. -/
def encapLb (m : Maps) (f : Flows) (skb : Skb) (nodeIp : U32) (vip : Addr) (vport : U16) : Out :=
  if cfg m cfgGeneveIfindex = 0#32 then shotOut f skb.clampMss
  else ⟨f, skb.clampMss, .tunnel (cfg m cfgVni) nodeIp (some (.lb vip vport))⟩

/-- `svc_fwd` and `svc_rev` writes of an unpinned LB flow. -/
def lbPinFwd (f : Flows) (pinned : Bool) (fk : SvcFwdKey) (backend : Addr) (tport : U16) :
    Flows :=
  if pinned then f
  else { f with svcFwd := update f.svcFwd fk (some ⟨backend, tport, false⟩) }

def lbPinRev (f : Flows) (pinned : Bool) (rk : SvcRevKey) (rv : SvcRevVal) : Flows :=
  if pinned then f else { f with svcRev := update f.svcRev rk (some rv) }

/-- The delivery half of `lb_ingress`, for a chosen row backend. -/
def lbToBackend (m : Maps) (f : Flows) (skb : Skb) (p : Pkt) (sport dport : U16)
    (pinned : Bool) (backend : Addr) (tport : U16) : Out :=
  let fk : SvcFwdKey := ⟨0#32, p.proto, sport, p.src, p.dst, dport⟩
  let rv : SvcRevVal := ⟨p.dst, dport, true, skb.ingressIfindex⟩
  let f1 := lbPinFwd f pinned fk backend tport
  match bridgeOf m backend with
  | some be =>
    -- a VPC pod behind its fabric handle: the VPC's door, then its groups
    if !m.vpcIngress be.net then shotOut f skb
    else if !nsSgAdmit m be.net be.vpcIp p.src (cidrProto p.proto p.isV6) tport then shotOut f skb
    else
      let f2 := lbPinRev f1 pinned ⟨0#32, p.proto, sport, be.vpcIp, p.src, tport⟩ rv
      let skb' := { skb with frame := dnatTo skb.frame be.vpcIp dport tport }
      match localOf m be.net be.vpcIp with
      | some l => deliverLocal f2 skb' be.net be.vpcIp l
      | none => okOut f2 skb'
  | none =>
    let skb' := { skb with frame := dnatTo skb.frame backend dport tport }
    match localOf m 0#32 backend with
    | some l =>
      let f2 := lbPinRev f1 pinned ⟨0#32, p.proto, sport, backend, p.src, tport⟩ rv
      deliverLocal f2 skb' 0#32 backend l
    | none =>
      match remoteOf m 0#32 backend with
      | none => shotOut f1 skb
      | some node => encapLb m f1 skb' node p.dst dport

/-- `cozyplane_lb_ingress`. -/
def lbIngress (m : Maps) (f : Flows) (skb : Skb) : Out :=
  match parseIp skb.frame with
  | none => ⟨f, skb, .next⟩
  | some p =>
    if !isTcpUdp p.proto then ⟨f, skb, .next⟩
    else if !p.isV6 && ihlNot5 skb.frame then hfExit m f skb .next
    else
      match l4Ports skb.frame with
      | none => ⟨f, skb, .next⟩
      | some (sport, dport) =>
        match m.svcVips ⟨0#32, p.dst, p.proto, dport⟩ with
        | none => hfExit m f skb .next
        | some sv =>
          if sv.n = 0#32 then hfExit m f skb .next
          else if hasBit sv.flags 2#32 && (find m.lbSrc (p.dst ++ p.src)).isNone then
            shotOut f skb
          else
            let pin := f.svcFwd ⟨0#32, p.proto, sport, p.src, p.dst, dport⟩
            let v := svcPick sv pin p sport dport
            lbToBackend m f skb p sport dport pin.isSome v.backend v.tport

/-- `cozyplane_lb_dsr`, on the backend's node. The frontend comes from the Geneve option; an
    existing reverse entry is kept. -/
def lbDsr (m : Maps) (f : Flows) (skb : Skb) : Out :=
  match skb.tunOpt with
  | some (.lb vip vport) =>
    match parseIp skb.frame with
    | none => shotOut f skb
    | some p =>
      if !isTcpUdp p.proto then shotOut f skb
      else
        match l4Ports skb.frame with
        | none => shotOut f skb
        | some (sport, dport) =>
          let pinAt (dst : Addr) : Flows :=
            let rk : SvcRevKey := ⟨0#32, p.proto, sport, dst, p.src, dport⟩
            match f.svcRev rk with
            | some _ => f
            | none => { f with
                svcRev := update f.svcRev rk (some ⟨vip, vport, true, 0#32⟩) }
          match bridgeOf m p.dst with
          | some be =>
            if !nsSgAdmit m be.net be.vpcIp p.src (cidrProto p.proto p.isV6) dport then
              shotOut f skb
            else
              let skb' := { skb with frame := skb.frame.setDst be.vpcIp }
              match localOf m be.net be.vpcIp with
              | some l => deliverLocal (pinAt be.vpcIp) skb' be.net be.vpcIp l
              | none => okOut (pinAt be.vpcIp) skb'
          | none =>
            match localOf m 0#32 p.dst with
            | some l => deliverLocal (pinAt p.dst) skb 0#32 p.dst l
            | none => okOut (pinAt p.dst) skb
  | _ => shotOut f skb

end CozyService
