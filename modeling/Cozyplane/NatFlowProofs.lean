import Cozyplane.RunProofs
import Cozyplane.NatCallProofs

/-!
# Translated flows on one node — when a reply can come back as another flow's

The forward programs write `ct_fwd` and `ct_rev`, the reverse programs read `ct_rev`, and
the two LRU maps lose single entries at any moment. A forward hit does not look at the
reverse entry.

An allocation looks only at `ct_rev`. Once a reverse entry is evicted its port is free again
while `ct_fwd` still names it: `replies_merge`.
-/

namespace CozyNatFlow

open PrefixTable CozyPacket CozyMaps CozyDatapath CozyNat PairTable CozyNatCall Run

variable {m : Maps} {f : Flows} {env : Env} {skb : Skb} {p : Pkt}

-- ── the reverse programs

/-- A `ct_rev` lookup and what its answer turns the packet into. -/
structure Lookup where
  key : CtRevKey
  restore : CtRevVal → Frame

/-- The rewrite of a reply's port or echo identifier. -/
def setReplyPort (k : Family) (p : Pkt) (port : U16) (fr : Frame) : Frame :=
  if p.proto = k.icmp then fr.setIcmpId port else fr.setDport port

/-- `bridge_reverse`: back to the fabric address on the source, the client on the
    destination. -/
def bridgeLookup (k : Family) (skb : Skb) (p : Pkt) (net : U32) : Option Lookup :=
  let back (rv : CtRevVal) : Frame := (skb.frame.setSrc rv.fabricIp).setDst rv.clientIp
  let reply (g peer : U16) : Lookup :=
    ⟨⟨p.proto, g, net, p.src, peer⟩, fun rv => setReplyPort k p rv.clientPort (back rv)⟩
  if p.proto = k.icmp then
    match icmpEcho skb.frame with
    | none => none
    | some (type, id) =>
      if k.isErr type then
        match embLoad k skb.frame with
        | none => none
        | some e =>
          if !isTcpUdp e.proto || e.saddr != k.gw || e.daddr != p.src then none
          else some ⟨⟨e.proto, e.sport, net, e.daddr, e.dport⟩, fun rv =>
            embRewrite k (back rv) rv.clientIp rv.fabricIp .sport rv.clientPort⟩
      else if type ≠ k.echoReply then none
      else some (reply id 0#16)
  else if !isTcpUdp p.proto then none
  else
    match l4Ports skb.frame with
    | none => none
    | some (sport, dport) => some (reply dport sport)

/-- `masq_reverse`: back to the pod on the destination, within the masquerade range. -/
def masqLookup (k : Family) (skb : Skb) (p : Pkt) : Option Lookup :=
  let back (rv : CtRevVal) : Frame := skb.frame.setDst rv.fabricIp
  let reply (g peer : U16) : Option Lookup :=
    if !inMasqRange g then none
    else some ⟨⟨p.proto, g, 0#32, p.src, peer⟩, fun rv =>
      setReplyPort k p rv.clientPort (back rv)⟩
  if isTcpUdp p.proto then
    match l4Ports skb.frame with
    | none => none
    | some (sport, dport) => reply dport sport
  else if p.proto ≠ k.icmp then none
  else
    match icmpEcho skb.frame with
    | none => none
    | some (type, id) =>
      if type = k.echoReply then reply id 0#16
      else if !k.isErr type then none
      else
        match embLoad k skb.frame with
        | none => none
        | some e =>
          if !isTcpUdp e.proto || e.saddr != p.dst || !inMasqRange e.sport then none
          else some ⟨⟨e.proto, e.sport, 0#32, e.daddr, e.dport⟩, fun rv =>
            embRewrite k (back rv) rv.fabricIp e.daddr .sport rv.clientPort⟩

/-- `vpc_nat_reverse`: back to the pod on the destination, under the network that owns the
    address. -/
def vpcNatLookup (k : Family) (m : Maps) (skb : Skb) (p : Pkt) : Option Lookup :=
  match m.natOf p.dst with
  | none => none
  | some net =>
    match replyPorts k skb.frame p.proto with
    | none => none
    | some (g, peer) => some ⟨⟨p.proto, g, net, p.src, peer⟩, fun rv =>
      setReplyPort k p rv.clientPort (skb.frame.setDst rv.fabricIp)⟩

/-- The same frame; `encap` clamps the segment size of what it tunnels. -/
def UpToClamp (a b : Frame) : Prop := a = b ∨ a = tcpMssClampPacket b

/-- A reverse program: it writes no state, and leaves the packet alone or restores it to
    what its lookup found. -/
def Handled (run : Option Out) (f : Flows) (fr : Frame) (l : Option Lookup) : Prop :=
  ∀ out, run = some out → out.flows = f ∧
    (UpToClamp out.skb.frame fr ∨
      ∃ x rv, l = some x ∧ f.ctRev x.key = some rv ∧ UpToClamp out.skb.frame (x.restore rv))

theorem encap_frame (net node : U32) :
    (encap m f skb net node 0#32).flows = f ∧
      UpToClamp (encap m f skb net node 0#32).skb.frame skb.frame := by
  unfold encap encapSg
  split
  · exact ⟨rfl, .inr rfl⟩
  · exact ⟨rfl, .inr rfl⟩

theorem deliverNet0_frame (dst : Addr) :
    (deliverNet0 m f skb dst).flows = f ∧
      UpToClamp (deliverNet0 m f skb dst).skb.frame skb.frame := by
  unfold deliverNet0
  cases localOf m 0#32 dst with
  | some l => exact ⟨rfl, .inl rfl⟩
  | none =>
  cases remoteOf m 0#32 dst with
  | some node => exact encap_frame 0#32 node
  | none =>
  cases nodeRemoteOf m dst with
  | some node => exact encap_frame 0#32 node
  | none => exact ⟨rfl, .inl rfl⟩

variable {l : Option Lookup}

theorem handled_none {fr : Frame} : Handled none f fr l :=
  fun _ h => nomatch h

theorem handled_left {out : Out} {fr : Frame} (hflows : out.flows = f)
    (hframe : UpToClamp out.skb.frame fr) : Handled (some out) f fr l := by
  intro out' h
  cases h
  exact ⟨hflows, .inl hframe⟩

theorem handled_found {out : Out} {fr : Frame} {x : Lookup} {rv : CtRevVal}
    (hrv : f.ctRev x.key = some rv)
    (h : out.flows = f ∧ UpToClamp out.skb.frame (x.restore rv)) :
    Handled (some out) f fr (some x) := by
  intro out' heq
  cases heq
  exact ⟨h.1, .inr ⟨x, rv, rfl, hrv, h.2⟩⟩

theorem noState_handled {drop : Bool} :
    Handled (some (noState f skb drop)) f skb.frame l := by
  cases drop with
  | false | true => exact handled_left rfl (.inl rfl)

theorem bridgeReverseOf_handled (k : Family) (drop : Bool) (net : U32) :
    Handled (some (bridgeReverseOf k drop m f skb p net)) f skb.frame
      (bridgeLookup k skb p net) := by
  unfold bridgeReverseOf bridgeReverseIcmpErr bridgeLookup setReplyPort
  split
  · cases icmpEcho skb.frame with
    | none => exact noState_handled
    | some echo =>
    obtain ⟨type, id⟩ := echo
    simp only []
    split
    · cases embLoad k skb.frame with
      | none => exact handled_left rfl (.inl rfl)
      | some e =>
      simp only []
      split
      · exact handled_left rfl (.inl rfl)
      cases hrv : f.ctRev ⟨e.proto, e.sport, net, e.daddr, e.dport⟩ with
      | none => exact handled_left rfl (.inl rfl)
      | some rv => exact handled_found hrv (deliverNet0_frame rv.clientIp)
    · split
      · exact noState_handled
      cases hrv : f.ctRev ⟨p.proto, id, net, p.src, 0#16⟩ with
      | none => exact noState_handled
      | some rv => exact handled_found hrv (deliverNet0_frame rv.clientIp)
  · split
    · exact noState_handled
    cases l4Ports skb.frame with
    | none => exact noState_handled
    | some ports =>
    obtain ⟨sport, dport⟩ := ports
    simp only []
    cases hrv : f.ctRev ⟨p.proto, dport, net, p.src, sport⟩ with
    | none => exact noState_handled
    | some rv => exact handled_found hrv (deliverNet0_frame rv.clientIp)

theorem isTcpUdp_ne_icmp {k : Family} (hk : k = family4 ∨ k = family6) {proto : U8}
    (h : isTcpUdp proto = true) : proto ≠ k.icmp := by
  rintro rfl
  rcases hk with rfl | rfl
  · exact absurd h (by decide)
  · exact absurd h (by decide)

theorem masqReverseOf_handled {k : Family} (hk : k = family4 ∨ k = family6) :
    Handled (masqReverseOf k f skb p) f skb.frame (masqLookup k skb p) := by
  unfold masqReverseOf masqLookup setReplyPort
  split
  · rename_i hproto
    simp only [if_neg (isTcpUdp_ne_icmp hk hproto)]
    cases l4Ports skb.frame with
    | none => exact handled_none
    | some ports =>
    obtain ⟨sport, dport⟩ := ports
    simp only []
    split
    · exact handled_none
    cases hrv : f.ctRev ⟨p.proto, dport, 0#32, p.src, sport⟩ with
    | none => exact handled_none
    | some rv => exact handled_found hrv ⟨rfl, .inl rfl⟩
  · by_cases hicmp : p.proto = k.icmp
    · simp only [if_neg (not_not_intro hicmp), if_pos hicmp]
      cases icmpEcho skb.frame with
      | none => exact handled_none
      | some echo =>
      obtain ⟨type, id⟩ := echo
      simp only []
      split
      · split
        · exact handled_none
        cases hrv : f.ctRev ⟨p.proto, id, 0#32, p.src, 0#16⟩ with
        | none => exact handled_none
        | some rv => exact handled_found hrv ⟨rfl, .inl rfl⟩
      split
      · exact handled_none
      cases embLoad k skb.frame with
      | none => exact handled_none
      | some e =>
      simp only []
      split
      · exact handled_none
      cases hrv : f.ctRev ⟨e.proto, e.sport, 0#32, e.daddr, e.dport⟩ with
      | none => exact handled_none
      | some rv => exact handled_found hrv ⟨rfl, .inl rfl⟩
    · simp only [if_pos hicmp]
      exact handled_none

theorem vpcNatReverseOf_handled (k : Family) :
    Handled (vpcNatReverseOf k m f skb p) f skb.frame (vpcNatLookup k m skb p) := by
  unfold vpcNatReverseOf vpcNatLookup setReplyPort
  cases m.natOf p.dst with
  | none => exact handled_none
  | some net =>
  cases replyPorts k skb.frame p.proto with
  | none => exact handled_none
  | some ports =>
  obtain ⟨g, peer⟩ := ports
  simp only []
  split
  · exact handled_none
  cases m.natOwner ⟨p.dst, (g - 1024#16) / 4032#16⟩ with
  | none => exact handled_none
  | some owner =>
  simp only []
  split
  · exact handled_left (encap_frame net owner).1 (encap_frame net owner).2
  cases hrv : f.ctRev ⟨p.proto, g, net, p.src, peer⟩ with
  | none => exact handled_none
  | some rv =>
  simp only []
  cases localOf m net rv.fabricIp with
  | none => exact handled_none
  | some l => exact handled_found hrv ⟨rfl, .inl rfl⟩

/-- A run of a reverse program, for the network of the pod. -/
structure Recv where
  prog : Translation
  m : Maps
  skb : Skb
  p : Pkt
  net : U32

def Recv.run (r : Recv) (f : Flows) : Option Out :=
  match r.prog with
  | .bridge => some (bridgeReverse r.m f r.skb r.p r.net)
  | .bridge6 => some (bridgeReverse6 r.m f r.skb r.p r.net)
  | .masq => masqReverse r.m f r.skb r.p
  | .masq6 => masqReverse6 r.m f r.skb r.p
  | .vpcNat => vpcNatReverse r.m f r.skb r.p
  | .vpcNat6 => vpcNatReverse6 r.m f r.skb r.p

def Recv.lookup (r : Recv) : Option Lookup :=
  match r.prog with
  | .bridge => bridgeLookup family4 r.skb r.p r.net
  | .bridge6 => bridgeLookup family6 r.skb r.p r.net
  | .masq => masqLookup family4 r.skb r.p
  | .masq6 => masqLookup family6 r.skb r.p
  | .vpcNat => vpcNatLookup family4 r.m r.skb r.p
  | .vpcNat6 => vpcNatLookup family6 r.m r.skb r.p

/-- **EVERY REVERSE PROGRAM** leaves the packet alone or restores it to what `ct_rev` holds
    under its lookup. -/
theorem reverse_spec (r : Recv) (f : Flows) : Handled (r.run f) f r.skb.frame r.lookup := by
  obtain ⟨prog, m, skb, p, net⟩ := r
  cases prog with
  | bridge =>
    simp only [Recv.run, Recv.lookup, bridgeReverse]
    split
    · exact handled_left rfl (.inl rfl)
    · exact bridgeReverseOf_handled family4 false net
  | bridge6 => exact bridgeReverseOf_handled family6 (net != 0#32) net
  | masq =>
    simp only [Recv.run, Recv.lookup, masqReverse]
    split
    · exact handled_none
    · exact masqReverseOf_handled (.inl rfl)
  | masq6 =>
    simp only [Recv.run, Recv.lookup, masqReverse6]
    split
    · exact handled_none
    · exact masqReverseOf_handled (.inr rfl)
  | vpcNat =>
    simp only [Recv.run, Recv.lookup, vpcNatReverse]
    split
    · exact handled_none
    · exact vpcNatReverseOf_handled family4
  | vpcNat6 => exact vpcNatReverseOf_handled family6

/-- The flow tables, and the flows packets were emitted for. -/
structure NatNode where
  flows : Flows
  seen : List NatFlow

/-- A node that tracks nothing. -/
def NatNode.fresh (f : Flows) : NatNode :=
  ⟨{ f with ctFwd := fun _ => none, ctRev := fun _ => none }, []⟩

/-- Programs run whole; each LRU map may lose any entry between two of them. -/
inductive Event where
  | send (e : Send)
  | recv (r : Recv)
  | evictFwd (k : CtFwdKey)
  | evictRev (k : CtRevKey)

def step (s : NatNode) : Event → NatNode
  | .send e => ⟨attemptFlows (e.run s.flows), match e.sent s.flows with
      | none => s.seen
      | some (F, _) => F :: s.seen⟩
  | .recv r => ⟨match r.run s.flows with
      | none => s.flows
      | some out => out.flows, s.seen⟩
  | .evictFwd k =>
    { s with flows := { s.flows with ctFwd := Function.update s.flows.ctFwd k none } }
  | .evictRev k =>
    { s with flows := { s.flows with ctRev := Function.update s.flows.ctRev k none } }

/-- A reply to flow `F` under port `g`, whichever reverse program takes it, is left alone or
    restored to `F`'s own original. -/
def OwnReply (f : Flows) (F : NatFlow) (g : U16) : Prop :=
  ∀ (r : Recv) (x : Lookup) (out : Out), r.lookup = some x → x.key = F.revKey g →
    r.run f = some out →
      UpToClamp out.skb.frame r.skb.frame ∨ UpToClamp out.skb.frame (x.restore F.rv)

/-- Under the port `ct_fwd` holds for it, each flow's reverse entry is absent or its own, and its
    replies come back to it or to nobody. -/
def NoMerge (s : NatNode) : Prop :=
  ∀ F ∈ s.seen, ∀ g, s.flows.ctFwd F.fk = some g →
    (s.flows.ctRev (F.revKey g) = none ∨ s.flows.ctRev (F.revKey g) = some F.rv) ∧
      OwnReply s.flows F g

/-- What a forward program must not run into: under a standing port a reverse entry of another flow,
    under a new one another flow whose `ct_fwd` entry leads to the same place. -/
def SendKeeps (s : NatNode) (env : Env) (c : Call) : Prop :=
  match s.flows.ctFwd c.flow.fk with
  | some g => Restores natScheme (natTables s.flows) c.flow g
  | none => c.mayOpen = true → ∀ g, firstFree s.flows env c.flow c.base c.span = some g →
      Apart natScheme (natTables s.flows) s.seen c.flow g ∧
        (g ≠ 0#16 → Shares natScheme (natTables s.flows) s.seen c.flow g)

def Keeps (s : NatNode) : Event → Prop
  | .send e => ∀ c, e.call = some c → SendKeeps s e.env c
  | _ => True

/-- What the tables say about a flow decides what its replies come back as. -/
theorem noMerge_iff_agree {s : NatNode} :
    NoMerge s ↔ Agree natScheme (natTables s.flows) s.seen := by
  constructor
  · intro h F hF g hk
    exact (h F hF g hk).1
  · intro h F hF g hk
    have hrev : s.flows.ctRev (F.revKey g) = none ∨ s.flows.ctRev (F.revKey g) = some F.rv :=
      h F hF g hk
    refine ⟨hrev, fun r x out hl hkey hrun => ?_⟩
    rcases (reverse_spec r s.flows out hrun).2 with hleft | ⟨x', rv, hl', hrv, hframe⟩
    · exact .inl hleft
    rw [hl] at hl'
    cases hl'
    rw [hkey] at hrv
    rcases hrev with hnone | hsome
    · rw [hrv] at hnone
      nomatch hnone
    rw [hrv] at hsome
    cases hsome
    exact .inr hframe

/-- A forward program that asks the tables: by cases on their answer. -/
theorem send_agree_iff {s : NatNode} {e : Send} {c : Call} (hcall : e.call = some c)
    (h : Agree natScheme (natTables s.flows) s.seen) :
    Agree natScheme (natTables (step s (.send e)).flows) (step s (.send e)).seen ↔
      SendKeeps s e.env c := by
  have hrun : attemptFlows (e.run s.flows) = (c.port s.flows e.env).1 := by
    have hspec := send_spec e s.flows
    rw [hcall] at hspec
    exact hspec.1
  simp only [step, Send.sent, hcall, hrun, SendKeeps]
  have hcase := ctPort_case s.flows e.env c
  generalize c.port s.flows e.env = answer at hcase
  cases hcase with
  | standing hfwd =>
    rw [hfwd]
    refine (agree_see_iff h).trans ⟨fun hres => hres _ hfwd, fun hres g' hg' => ?_⟩
    have heq : some _ = some g' := hfwd.symm.trans hg'
    cases heq
    exact hres
  | closed hfwd hno =>
    rw [hfwd]
    refine iff_of_true h fun hopen g hfree => ?_
    rcases hno with hshut | hfull
    · rw [hopen] at hshut
      nomatch hshut
    · rw [hfree] at hfull
      nomatch hfull
  | zero hfwd hopen hfree =>
    rw [hfwd, hfree]
    refine (agree_reserve_iff (F := c.flow) (g := 0#16) h hfwd).trans
      ⟨fun hapart _ g hg => ?_, fun hkeeps => (hkeeps hopen _ rfl).1⟩
    cases hg
    exact ⟨hapart, fun hne => absurd rfl hne⟩
  | fresh hfwd hopen hfree hne =>
    rw [hfwd, hfree]
    refine (agree_assign_iff (F := c.flow) h).trans
      ⟨fun hboth _ g hg => ?_, fun hkeeps => ?_⟩
    · cases hg
      exact ⟨hboth.1, fun _ => hboth.2⟩
    · exact ⟨(hkeeps hopen _ rfl).1, (hkeeps hopen _ rfl).2 hne⟩

/-- **ONE EVENT** merges no flows exactly when it keeps them apart. Evictions and reverse
    programs always do. -/
theorem step_noMerge_iff (s : NatNode) (e : Event) (h : NoMerge s) :
    NoMerge (step s e) ↔ Keeps s e := by
  rw [noMerge_iff_agree] at h ⊢
  cases e with
  | send e =>
    cases hcall : e.call with
    | none =>
      have hrun : attemptFlows (e.run s.flows) = s.flows := by
        have hspec := send_spec e s.flows
        rw [hcall] at hspec
        exact hspec
      simp only [step, Send.sent, hcall, hrun, Keeps]
      exact iff_of_true h fun c hc => nomatch hc
    | some c =>
      refine (send_agree_iff hcall h).trans ⟨fun hkeeps c' hc => ?_, fun hkeeps =>
        hkeeps c hcall⟩
      rw [hcall] at hc
      cases hc
      exact hkeeps
  | recv r =>
    refine iff_of_true ?_ trivial
    simp only [step]
    cases hrun : r.run s.flows with
    | none => exact h
    | some out =>
      simp only []
      rw [(reverse_spec r s.flows out hrun).1]
      exact h
  | evictFwd k =>
    exact iff_of_true (h.forget (fun _ _ hk => of_erase hk) fun _ _ hr => hr) trivial
  | evictRev k =>
    exact iff_of_true (h.forget (fun _ _ hk => hk) fun _ _ hr => of_erase hr) trivial

/-- A packet leaves under the port that `ct_fwd` then holds for its flow. -/
theorem sent_spec {e : Send} {f : Flows} {F : NatFlow} {g : U16} (h : e.sent f = some (F, g)) :
    ∃ out, e.run f = .done out ∧ out.skb.frame = e.emitted g ∧ out.flows.ctFwd F.fk = some g := by
  unfold Send.sent at h
  have hspec := send_spec e f
  cases hcall : e.call with
  | none =>
    rw [hcall] at h
    nomatch h
  | some c =>
  rw [hcall] at h hspec
  obtain ⟨g', hport, heq⟩ := Option.map_eq_some_iff.mp h
  obtain ⟨rfl, rfl⟩ := Prod.mk.inj heq
  obtain ⟨out, hrun, hframe⟩ := hspec.2 g' hport
  have hflows : out.flows = (c.port f e.env).1 := by
    have := hspec.1
    rwa [hrun] at this
  refine ⟨out, hrun, hframe, ?_⟩
  rw [hflows]
  have hcase := ctPort_case f e.env c
  generalize c.port f e.env = answer at hcase hport
  cases hcase with
  | standing hfwd => exact hfwd.trans hport
  | closed _ _ | zero _ _ _ => nomatch hport
  | fresh _ _ _ _ =>
    cases hport
    exact Function.update_self ..

theorem fresh_noMerge (f : Flows) : NoMerge (NatNode.fresh f) :=
  fun _ hF => nomatch hF

/-- **SOURCE NAT MERGES NO TWO FLOWS, EXACTLY WHEN ITS SENDS KEEP THEM APART**, over every run with
    single evictions. What a program emits leaves under a port for which the invariant speaks of the
    flow's own replies. -/
theorem noMerge_iff (f : Flows) (es : List Event) :
    (Throughout NoMerge step (.fresh f) es ↔ AllMeet Keeps step (.fresh f) es) ∧
    ∀ (s : NatNode) (e : Send) (F : NatFlow) (g : U16), e.sent s.flows = some (F, g) →
      (∃ out, e.run s.flows = .done out ∧ out.skb.frame = e.emitted g) ∧
        (NoMerge (step s (.send e)) → OwnReply (step s (.send e)).flows F g) := by
  refine ⟨throughout_iff step_noMerge_iff (fresh_noMerge f) es, fun s e F g hsent => ?_⟩
  obtain ⟨out, hrun, hframe, hfwd⟩ := sent_spec hsent
  refine ⟨⟨out, hrun, hframe⟩, fun hno => ?_⟩
  have hseen : F ∈ (step s (.send e)).seen := by
    simp only [step, hsent]
    exact List.mem_cons_self
  have hport : (step s (.send e)).flows.ctFwd F.fk = some g := by
    simp only [step, hrun, attemptFlows]
    exact hfwd
  exact (hno F hseen g hport).2

/-- A node that masquerades 10.0.0.0/8. -/
def masqNode : Maps :=
  { Maps.empty with
    params := fun idx => if idx = cfgMasqIp then 0xc0000201#32 else 0#32
    masqSrcs := [⟨136, 0#32 ++ v4To128 0x0a000000#32, ()⟩] }

/-- A UDP packet from port 5000 of pod `src` to 198.51.100.9:53. -/
def podQuery (src : U32) : Send :=
  ⟨.masq, masqNode, ⟨0#64, 0#32, true, true⟩,
    ⟨.ip4 ⟨4#4, 5#4, 0#16, ipprotoUdp, src, 0xc6336409#32⟩
      [0x13#8, 0x88#8, 0#8, 53#8, 0#8, 8#8, 0#8, 0#8], 0#32, 2#32, 0#32, none, none⟩,
    ⟨false, ipprotoUdp, v4To128 src, v4To128 0xc6336409#32⟩, 0#32, 0#128⟩

/-- The answer to port 16384 of the masquerade address. -/
def serverReply : Recv :=
  ⟨.masq, masqNode,
    ⟨.ip4 ⟨4#4, 5#4, 0#16, ipprotoUdp, 0xc6336409#32, 0xc0000201#32⟩
      [0#8, 53#8, 0x40#8, 0#8, 0#8, 8#8, 0#8, 0#8], 0#32, 2#32, 2#32, none, none⟩,
    ⟨false, ipprotoUdp, v4To128 0xc6336409#32, v4To128 0xc0000201#32⟩, 0#32⟩

def queryFlow (src : U32) : NatFlow :=
  ⟨⟨ipprotoUdp, 0#32, v4To128 src, v4To128 0xc6336409#32, 5000#16, 53#16⟩,
    v4To128 0xc6336409#32, ⟨v4To128 src, v4To128 src, 5000#16⟩⟩

/-- Pod 10.0.0.1 opens a flow, its reverse entry is evicted, pod 10.0.0.2 opens one. -/
def portReused : NatNode :=
  [.send (podQuery 0x0a000001#32), .evictRev ((queryFlow 0x0a000001#32).revKey 16384#16),
    .send (podQuery 0x0a000002#32)].foldl step (.fresh Flows.empty)

theorem replies_merge :
    (podQuery 0x0a000001#32).sent portReused.flows =
      some (queryFlow 0x0a000001#32, 16384#16) ∧
    (serverReply.run (step portReused (.send (podQuery 0x0a000001#32))).flows).map
      (·.skb.frame) = some (.ip4 ⟨4#4, 5#4, 0#16, ipprotoUdp, 0xc6336409#32, 0x0a000002#32⟩
        [0#8, 53#8, 0x13#8, 0x88#8, 0#8, 8#8, 0#8, 0#8]) ∧
    ¬ NoMerge (step portReused (.send (podQuery 0x0a000001#32))) := by
  refine ⟨by decide +kernel, by decide +kernel, fun h => ?_⟩
  have hrev := (h (queryFlow 0x0a000001#32) (by decide +kernel) 16384#16 (by decide +kernel)).1
  exact absurd hrev (by decide +kernel)

end CozyNatFlow
