import Cozyplane.PairTableProofs
import Cozyplane.BoundaryGateProofs

/-!
# The translating programs and their one port allocation

Each forward program — `bridge_forward`, `masq_snat`, `vpc_nat_snat` and their v6 twins —
asks the port tables at most once, for one flow. `Call` is that question; it depends on the
packet and the maps, not on the tables.
-/

namespace CozyNatCall

open CozyPacket CozyMaps CozyDatapath CozyPolicy CozyNat PairTable Function

variable {m : Maps} {f : Flows} {env : Env} {skb : Skb} {p : Pkt}

/-- A translated flow: its key in `ct_fwd`, the address its replies come from, the original
    address and port they are restored to. -/
structure NatFlow where
  fk : CtFwdKey
  vpcIp : Addr
  rv : CtRevVal
  deriving DecidableEq

/-- The `ct_rev` key of a reply that names port `g`. -/
def NatFlow.revKey (F : NatFlow) (g : U16) : CtRevKey :=
  ⟨F.fk.proto, g, F.fk.net, F.vpcIp, F.fk.podPort⟩

def natScheme : Scheme NatFlow CtFwdKey U16 CtRevKey CtRevVal :=
  ⟨NatFlow.fk, NatFlow.revKey, NatFlow.rv⟩

/-- The two connection-tracking tables. -/
def natTables (f : Flows) : Tables CtFwdKey U16 CtRevKey CtRevVal := ⟨f.ctFwd, f.ctRev⟩

/-- The first of the sixteen candidates that is free. -/
def firstFree (f : Flows) (env : Env) (F : NatFlow) (base span : U32) : Option U16 :=
  ((List.range' 0 16).map (gwCandidate env base span)).find? fun g =>
    (f.ctRev (F.revKey g)).isNone

/-- **THE PROBE LOOP** takes the first free candidate: induction on the probes left. -/
theorem allocFrom_eq (f : Flows) (env : Env) (rk : U16 → CtRevKey) (rv : CtRevVal)
    (base span : U32) (n i : Nat) :
    allocFrom f env rk rv base span n i =
      match ((List.range' i n).map (gwCandidate env base span)).find?
          fun g => (f.ctRev (rk g)).isNone with
      | none => (f, 0#16)
      | some g => ({ f with ctRev := update f.ctRev (rk g) (some rv) }, g) := by
  induction n generalizing i with
  | zero => rfl
  | succ n ih =>
    rw [List.range'_succ, List.map_cons, allocFrom]
    cases hfree : f.ctRev (rk (gwCandidate env base span i)) with
    | none => rw [List.find?_cons_of_pos (by rw [hfree]; rfl)]
    | some taken =>
      rw [List.find?_cons_of_neg (by rw [hfree]; exact Bool.false_ne_true)]
      exact ih (i + 1)

/-- The flow tables a program leaves. -/
def attemptFlows : Attempt → Flows
  | .miss f => f
  | .done o => o.flows

/-- One question to the port tables. -/
structure Call where
  flow : NatFlow
  base : U32
  span : U32
  mayOpen : Bool
  deriving DecidableEq

def Call.port (c : Call) (f : Flows) (env : Env) : Flows × Option U16 :=
  ctPort f env c.flow.fk c.flow.vpcIp c.flow.rv c.base c.span c.mayOpen

/-- Everything the tables can answer. -/
inductive PortCase (f : Flows) (env : Env) (c : Call) : Flows × Option U16 → Prop where
  | standing {g : U16} : f.ctFwd c.flow.fk = some g → PortCase f env c (f, some g)
  | closed : f.ctFwd c.flow.fk = none →
      (c.mayOpen = false ∨ firstFree f env c.flow c.base c.span = none) →
      PortCase f env c (f, none)
  /-- port 0 is no port: its reverse entry stays behind -/
  | zero : f.ctFwd c.flow.fk = none → c.mayOpen = true →
      firstFree f env c.flow c.base c.span = some 0#16 →
      PortCase f env c
        ({ f with ctRev := update f.ctRev (c.flow.revKey 0#16) (some c.flow.rv) }, none)
  | fresh {g : U16} : f.ctFwd c.flow.fk = none → c.mayOpen = true →
      firstFree f env c.flow c.base c.span = some g → g ≠ 0#16 →
      PortCase f env c
        ({ f with
            ctRev := update f.ctRev (c.flow.revKey g) (some c.flow.rv)
            ctFwd := update f.ctFwd c.flow.fk (some g) }, some g)

/-- **THE TABLES ANSWER NOTHING ELSE.** -/
theorem ctPort_case (f : Flows) (env : Env) (c : Call) : PortCase f env c (c.port f env) := by
  unfold Call.port ctPort
  cases hfwd : f.ctFwd c.flow.fk with
  | some g => exact .standing hfwd
  | none =>
  cases hopen : c.mayOpen with
  | false => exact .closed hfwd (.inl hopen)
  | true =>
  have halloc : allocGwPortIn f env c.flow.fk.proto c.flow.fk.net c.flow.vpcIp
      c.flow.fk.podPort c.flow.rv c.base c.span =
        match firstFree f env c.flow c.base c.span with
        | none => (f, 0#16)
        | some g => ({ f with
            ctRev := update f.ctRev (c.flow.revKey g) (some c.flow.rv) }, g) :=
    allocFrom_eq f env c.flow.revKey c.flow.rv c.base c.span 16 0
  rw [halloc]
  cases hfree : firstFree f env c.flow c.base c.span with
  | none => exact .closed hfwd (.inr hfree)
  | some g =>
    by_cases hg : g = 0#16
    · subst hg
      exact .zero hfwd hopen hfree
    · rw [if_neg hg]
      exact .fresh hfwd hopen hfree hg

-- ── the forward programs

/-- What the two bodies rewrite a port with: the echo identifier or the source port. -/
def setNatPort (k : Family) (p : Pkt) (g : U16) (fr : Frame) : Frame :=
  if p.proto = k.icmp then fr.setIcmpId g else fr.setSport g

/-- The call of `bridge_forward`: TCP, UDP or echo. -/
def bridgeCall (k : Family) (m : Maps) (skb : Skb) (p : Pkt) (net : U32) (vpcIp : Addr) :
    Option Call :=
  let ask (cport pport : U16) : Call :=
    ⟨⟨⟨p.proto, net, p.src, p.dst, cport, pport⟩, vpcIp, ⟨p.dst, p.src, cport⟩⟩,
      1024#32, 64000#32, true⟩
  if p.proto = k.icmp then
    match icmpEcho skb.frame with
    | none => none
    | some (type, id) =>
      if k.isErr type then none else if type ≠ k.echoReq then none else some (ask id 0#16)
  else if !isTcpUdp p.proto then none
  else
    match l4Ports skb.frame with
    | none => none
    | some (cport, pport) =>
      if hasBit skb.mark nsMark &&
          !nsSgAdmit m net vpcIp p.src (cidrProto p.proto k.isV6) pport then none
      else some (ask cport pport)

theorem bridgeForwardIcmpErr_flows (k : Family) (net : U32) (vpcIp : Addr) :
    (bridgeForwardIcmpErr k f skb p net vpcIp).flows = f := by
  unfold bridgeForwardIcmpErr
  repeat' split
  all_goals rfl

/-- What a program made of the answer to its call. -/
def Answered (run : Attempt) (f : Flows) (call : Option Call) (env : Env)
    (emit : U16 → Frame) : Prop :=
  match call with
  | none => attemptFlows run = f
  | some c => attemptFlows run = (c.port f env).1 ∧
      ∀ g, (c.port f env).2 = some g → ∃ out, run = .done out ∧ out.skb.frame = emit g

theorem answered_done (c : Call) (no : Flows → Out) (yes : Flows → U16 → Out)
    {emit : U16 → Frame} (hno : ∀ f', (no f').flows = f')
    (hyes : ∀ f' g, (yes f' g).flows = f' ∧ (yes f' g).skb.frame = emit g) :
    Answered (.done (match c.port f env with
      | (f', none) => no f'
      | (f', some g) => yes f' g)) f (some c) env emit := by
  simp only [Answered]
  generalize c.port f env = answer
  obtain ⟨f', _ | g⟩ := answer
  · exact ⟨hno f', fun g hg => nomatch hg⟩
  · refine ⟨(hyes f' g).1, fun g' hg => ⟨_, rfl, ?_⟩⟩
    cases hg
    exact (hyes f' g).2

theorem bridgeForwardOf_answered (k : Family) (net : U32) (vpcIp : Addr) :
    Answered (.done (bridgeForwardOf k m f env skb p net vpcIp)) f
      (bridgeCall k m skb p net vpcIp) env fun g =>
        setNatPort k p g ((skb.frame.setDst vpcIp).setSrc k.gw) := by
  unfold bridgeForwardOf bridgeCall setNatPort
  split
  · cases hecho : icmpEcho skb.frame with
    | none => exact rfl
    | some echo =>
      obtain ⟨type, id⟩ := echo
      simp only []
      split
      · exact bridgeForwardIcmpErr_flows k net vpcIp
      split
      · exact rfl
      exact answered_done ⟨⟨⟨p.proto, net, p.src, p.dst, id, 0#16⟩, vpcIp,
        ⟨p.dst, p.src, id⟩⟩, 1024#32, 64000#32, true⟩ (fun f' => shotOut f' skb) _
        (fun _ => rfl) fun _ _ => ⟨rfl, rfl⟩
  · split
    · exact rfl
    cases hports : l4Ports skb.frame with
    | none => exact rfl
    | some ports =>
      obtain ⟨cport, pport⟩ := ports
      simp only []
      split
      · exact rfl
      exact answered_done ⟨⟨⟨p.proto, net, p.src, p.dst, cport, pport⟩, vpcIp,
        ⟨p.dst, p.src, cport⟩⟩, 1024#32, 64000#32, true⟩ (fun f' => shotOut f' skb) _
        (fun _ => rfl) fun _ _ => ⟨rfl, rfl⟩

/-- The call of a source translation; `needSyn` keeps a TCP segment in the middle of a connection
    from opening a flow. -/
def snatCall (k : Family) (needSyn : Bool) (fr : Frame) (p : Pkt) (net base span : U32) :
    Option Call :=
  if p.proto = k.icmp then
    match icmpEcho fr with
    | none => none
    | some (type, id) =>
      if type ≠ k.echoReq then none
      else some ⟨⟨⟨p.proto, net, p.src, p.dst, id, 0#16⟩, p.dst, ⟨p.src, p.src, id⟩⟩, base,
        span, true⟩
  else if !isTcpUdp p.proto then none
  else
    match l4Ports fr with
    | none => none
    | some (sport, dport) =>
      let opens := match tcpFlags fr with
        | some flags => isSyn flags
        | none => false
      some ⟨⟨⟨p.proto, net, p.src, p.dst, sport, dport⟩, p.dst, ⟨p.src, p.src, sport⟩⟩, base,
        span, !(needSyn && p.proto == ipprotoTcp && !opens)⟩

/-- The frame of a source translation under port `g`. -/
def snatFrame (k : Family) (fr : Frame) (p : Pkt) (natIp : Addr) (g : U16) : Frame :=
  setNatPort k p g (fr.setSrc natIp)

theorem snatFlow_eq (k : Family) (needSyn : Bool) (fr : Frame) (net : U32) (natIp : Addr)
    (base span : U32) :
    snatFlow k needSyn f env fr p net natIp base span =
      match snatCall k needSyn fr p net base span with
      | none => (f, none)
      | some c => ((c.port f env).1, (c.port f env).2.map (snatFrame k fr p natIp)) := by
  unfold snatFlow snatCall snatFrame setNatPort
  split
  · cases icmpEcho fr with
    | none => rfl
    | some echo =>
      obtain ⟨type, id⟩ := echo
      simp only []
      by_cases hreq : type ≠ k.echoReq
      · rw [if_pos hreq, if_pos hreq]
      rw [if_neg hreq, if_neg hreq]
      simp only [Call.port]
      generalize ctPort f env _ _ _ _ _ _ = answer
      obtain ⟨f', _ | g⟩ := answer
      · rfl
      · rfl
  · by_cases hproto : (!isTcpUdp p.proto) = true
    · rw [if_pos hproto, if_pos hproto]
    rw [if_neg hproto, if_neg hproto]
    cases l4Ports fr with
    | none => rfl
    | some ports =>
      simp only [Call.port]
      generalize ctPort f env _ _ _ _ _ _ = answer
      obtain ⟨f', _ | g⟩ := answer
      · rfl
      · rfl

theorem answered_snat (k : Family) (needSyn : Bool) (fr : Frame) (net : U32) (natIp : Addr)
    (base span : U32) (yes : Flows → Frame → Attempt)
    (hyes : ∀ f' fr', ∃ out, yes f' fr' = .done out ∧ out.flows = f' ∧ out.skb.frame = fr') :
    Answered (match snatFlow k needSyn f env fr p net natIp base span with
      | (f', none) => .miss f'
      | (f', some fr') => yes f' fr') f (snatCall k needSyn fr p net base span) env
        (snatFrame k fr p natIp) := by
  rw [snatFlow_eq]
  cases snatCall k needSyn fr p net base span with
  | none => exact rfl
  | some c =>
    simp only [Answered]
    generalize c.port f env = answer
    obtain ⟨f', _ | g⟩ := answer
    · exact ⟨rfl, fun g hg => nomatch hg⟩
    · obtain ⟨out, hout, hflows, hframe⟩ := hyes f' (snatFrame k fr p natIp g)
      refine ⟨?_, fun g' hg => ⟨out, hout, ?_⟩⟩
      · rw [show (match (f', Option.map (snatFrame k fr p natIp) (some g)) with
          | (f', none) => Attempt.miss f'
          | (f', some fr') => yes f' fr') = Attempt.done out from hout]
        exact hflows
      · cases hg
        exact hframe

/-- The six translations; each has a forward and a reverse program. -/
inductive Translation where
  | bridge
  | bridge6
  | masq
  | masq6
  | vpcNat
  | vpcNat6
  deriving DecidableEq

/-- One run of a forward program; `vpcIp` is the bridged pod's address, `net` the tenant. -/
structure Send where
  prog : Translation
  m : Maps
  env : Env
  skb : Skb
  p : Pkt
  net : U32
  vpcIp : Addr

def Send.run (e : Send) (f : Flows) : Attempt :=
  match e.prog with
  | .bridge => .done (bridgeForward e.m f e.env e.skb e.p e.net e.vpcIp)
  | .bridge6 => .done (bridgeForward6 e.m f e.env e.skb e.p e.net e.vpcIp)
  | .masq => masqSnat e.m f e.env e.skb e.p
  | .masq6 => masqSnat6 e.m f e.env e.skb e.p
  | .vpcNat => vpcNatSnat e.m f e.env e.skb e.p e.net
  | .vpcNat6 => vpcNatSnat6 e.m f e.env e.skb e.p e.net

/-- The calls of `masq_snat` and `vpc_nat_snat`. -/
def masqCall (m : Maps) (skb : Skb) (p : Pkt) : Option Call :=
  if !isMasqSrc m p.src || isInternal m p.dst || cfg m cfgMasqIp == 0#32 ||
      ihlNot5 skb.frame then none
  else snatCall family4 true skb.frame p 0#32 16384#32 13616#32

def masqCall6 (m : Maps) (skb : Skb) (p : Pkt) : Option Call :=
  if !isMasqSrc m p.src || isInternal m p.dst || v6LinkScoped p.dst || m.nodeIp6 == 0#128 then
    none
  else snatCall family6 true skb.frame p 0#32 16384#32 13616#32

/-- The uplink of a v4 NAT identity. -/
def uplink4 (m : Maps) (ip : Addr) : U32 :=
  match extLinkOf m ip with
  | some x => x.ifindex
  | none => cfg m cfgUplinkIfindex

def vpcNatCall (m : Maps) (skb : Skb) (p : Pkt) (net : U32) : Option Call :=
  match m.vpcNat net with
  | none => none
  | some nat =>
    if isInternal m p.dst || p.isV6 || !(isTcpUdp p.proto || p.proto == ipprotoIcmp) then none
    else if !nsEgressOk m skb.frame net false p.proto p.src p.dst then none
    else if ihlNot5 skb.frame then none
    else if uplink4 m nat.ip = 0#32 then none
    else snatCall family4 false skb.frame p net nat.portBase nat.portSpan

def vpcNatCall6 (m : Maps) (skb : Skb) (p : Pkt) (net : U32) : Option Call :=
  match m.vpcNat net with
  | none => none
  | some nat =>
    if nat.ip6 == 0#128 || isInternal m p.dst || v6LinkScoped p.dst ||
        !(isTcpUdp p.proto || p.proto == ipprotoIcmpv6) then none
    else if !nsEgressOk m skb.frame net true p.proto p.src p.dst then none
    else if uplink6 m nat.ip6 = 0#32 then none
    else snatCall family6 false skb.frame p net nat.portBase nat.portSpan

/-- The call of a forward program; `none` where a guard turns the packet away first. -/
def Send.call (e : Send) : Option Call :=
  match e.prog with
  | .bridge =>
    if ihlNot5 e.skb.frame then none else bridgeCall family4 e.m e.skb e.p e.net e.vpcIp
  | .bridge6 => bridgeCall family6 e.m e.skb e.p e.net e.vpcIp
  | .masq => masqCall e.m e.skb e.p
  | .masq6 => masqCall6 e.m e.skb e.p
  | .vpcNat => vpcNatCall e.m e.skb e.p e.net
  | .vpcNat6 => vpcNatCall6 e.m e.skb e.p e.net

/-- The address a source translation puts on the packet. -/
def Send.natIp (e : Send) : Addr :=
  match e.prog with
  | .bridge => family4.gw
  | .bridge6 => family6.gw
  | .masq => v4To128 (cfg e.m cfgMasqIp)
  | .masq6 => e.m.nodeIp6
  | .vpcNat => ((e.m.vpcNat e.net).map (·.ip)).getD 0#128
  | .vpcNat6 => ((e.m.vpcNat e.net).map (·.ip6)).getD 0#128

/-- The frame a forward program emits under port `g`. -/
def Send.emitted (e : Send) (g : U16) : Frame :=
  match e.prog with
  | .bridge => setNatPort family4 e.p g ((e.skb.frame.setDst e.vpcIp).setSrc e.natIp)
  | .bridge6 => setNatPort family6 e.p g ((e.skb.frame.setDst e.vpcIp).setSrc e.natIp)
  | .masq | .vpcNat => snatFrame family4 e.skb.frame e.p e.natIp g
  | .masq6 | .vpcNat6 => snatFrame family6 e.skb.frame e.p e.natIp g

/-- The flow a forward program emits a packet for, and its port. -/
def Send.sent (e : Send) (f : Flows) : Option (NatFlow × U16) :=
  match e.call with
  | none => none
  | some c => (c.port f e.env).2.map fun g => (c.flow, g)

theorem masqSnat_answered :
    Answered (masqSnat m f env skb p) f (masqCall m skb p) env
      (snatFrame family4 skb.frame p (v4To128 (cfg m cfgMasqIp))) := by
  unfold masqSnat masqCall
  split
  · exact rfl
  · exact answered_snat _ _ _ _ _ _ _ _ fun _ _ => ⟨_, rfl, rfl, rfl⟩

theorem masqSnat6_answered :
    Answered (masqSnat6 m f env skb p) f (masqCall6 m skb p) env
      (snatFrame family6 skb.frame p m.nodeIp6) := by
  unfold masqSnat6 masqCall6
  split
  · exact rfl
  · exact answered_snat _ _ _ _ _ _ _ _ fun _ _ => ⟨_, rfl, rfl, rfl⟩

theorem vpcNatSnat_answered (net : U32) :
    Answered (vpcNatSnat m f env skb p net) f (vpcNatCall m skb p net) env
      (snatFrame family4 skb.frame p (((m.vpcNat net).map (·.ip)).getD 0#128)) := by
  unfold vpcNatSnat vpcNatCall uplink4
  cases m.vpcNat net with
  | none => exact rfl
  | some nat =>
  simp only [Option.map_some, Option.getD_some]
  split
  · exact rfl
  split
  · exact rfl
  split
  · exact rfl
  cases extLinkOf m nat.ip with
  | none | some x =>
    simp only []
    split
    · exact rfl
    · exact answered_snat _ _ _ _ _ _ _ _ fun _ _ =>
        ⟨_, rfl, (extRedirect_skb ..).2, by rw [(extRedirect_skb ..).1]⟩

theorem vpcNatSnat6_answered (net : U32) :
    Answered (vpcNatSnat6 m f env skb p net) f (vpcNatCall6 m skb p net) env
      (snatFrame family6 skb.frame p (((m.vpcNat net).map (·.ip6)).getD 0#128)) := by
  unfold vpcNatSnat6 vpcNatCall6
  cases m.vpcNat net with
  | none => exact rfl
  | some nat =>
  simp only [Option.map_some, Option.getD_some]
  split
  · exact rfl
  split
  · exact rfl
  split
  · exact rfl
  exact answered_snat _ _ _ _ _ _ _ _ fun _ _ => ⟨_, rfl, rfl, rfl⟩

/-- **EVERY FORWARD PROGRAM** changes the tables as its one call does, and emits the packet
    under the port the call returned. -/
theorem send_spec (e : Send) (f : Flows) : Answered (e.run f) f e.call e.env e.emitted := by
  obtain ⟨prog, m, env, skb, p, net, vpcIp⟩ := e
  cases prog with
  | bridge =>
    simp only [Send.run, Send.call, bridgeForward]
    split
    · exact rfl
    · exact bridgeForwardOf_answered family4 net vpcIp
  | bridge6 => exact bridgeForwardOf_answered family6 net vpcIp
  | masq => exact masqSnat_answered
  | masq6 => exact masqSnat6_answered
  | vpcNat => exact vpcNatSnat_answered net
  | vpcNat6 => exact vpcNatSnat6_answered net

end CozyNatCall
