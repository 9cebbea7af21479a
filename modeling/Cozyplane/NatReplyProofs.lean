import Cozyplane.FromPodProofs
import Cozyplane.NatShardProofs
import Cozyplane.NatFlowProofs

/-!
# Replies to a sharded NAT identity — where they end up

Every agent of a cluster has resynced with the same sorted node list and the same identities.
One of them translates a flow; a reply then arrives at any of them.

`vpc_nat_snat` does not ask whether the VPC has an IPv4 address (`vpc_nat_snat6` does ask for
an IPv6 one), and a forwarding leg's foreign source is no endpoint: `replies_lost`.
-/

namespace CozyNatReply

open PrefixTable KernelMap CozyPacket CozyMaps CozyDatapath CozyCidr CozyNat
open CozyBoundaryCompile CozyFromPod CozyNatCall CozyNatFlow CozyShard

variable {k : Family} {n : Nat}

/-- The candidates of a node's range stay in it, whatever the random start. -/
theorem gwCandidate_inShard {base span : U32} (env : Env) (h : natShardFor n = some (base, span))
    (i : Nat) :
    InShard n (gwCandidate env base span i) := by
  unfold natShardFor at h
  split at h
  · nomatch h
  rename_i hn
  cases h
  have hlt : n < 16 := by
    unfold natShards at hn
    omega
  unfold InShard gwCandidate natPortBase natShardSpan
  rw [BitVec.toNat_setWidth, BitVec.toNat_add, BitVec.toNat_umod, BitVec.toNat_ofNat,
    BitVec.toNat_ofNat, Int.toNat_natCast]
  generalize (env.prandom + BitVec.ofNat 32 i).toNat = x
  have hx : x % (4032 % 2 ^ 32) < 4032 := Nat.mod_lt x (by decide)
  omega

variable {name : String} {e : Send} {p : Pkt} {v : U32} {f : Flows} {g : U16}

theorem inShard_unique {n' : Nat} (h : InShard n g) (h' : InShard n' g) : n' = n := by
  unfold InShard natPortBase natShardSpan at h h'
  omega

theorem inShard_div (h : InShard n g) :
    ¬ g < 1024#16 ∧ (g - 1024#16) / 4032#16 = BitVec.ofNat 16 n := by
  unfold InShard natPortBase natShardSpan at h
  constructor
  · intro hlt
    have : g.toNat < 1024 := hlt
    omega
  · refine BitVec.eq_of_toNat_eq ?_
    have hsub : (2 ^ 16 - 1024 % 2 ^ 16 + g.toNat) % 2 ^ 16 = g.toNat - 1024 := by omega
    rw [BitVec.toNat_udiv, BitVec.toNat_sub, BitVec.toNat_ofNat, BitVec.toNat_ofNat,
      BitVec.toNat_ofNat, hsub]
    show (g.toNat - 1024) / 4032 = n % 65536
    omega

theorem snatCall_spec {needSyn : Bool} {fr : Frame} {net base span : U32} {c : Call}
    (h : snatCall k needSyn fr p net base span = some c) :
    c.base = base ∧ c.span = span ∧ c.flow.fk.net = net := by
  unfold snatCall at h
  split at h
  · split at h
    · nomatch h
    split at h
    · nomatch h
    · cases h
      exact ⟨rfl, rfl, rfl⟩
  split at h
  · nomatch h
  split at h
  · nomatch h
  · cases h
    exact ⟨rfl, rfl, rfl⟩

/-- The call uses the row of the network. -/
structure VpcNatCall (e : Send) (c : Call) : Prop where
  row : ∃ nat, e.m.vpcNat e.net = some nat ∧ c.base = nat.portBase ∧ c.span = nat.portSpan
  net : c.flow.fk.net = e.net

theorem vpcNat_call {c : Call} (he : e.prog = .vpcNat ∨ e.prog = .vpcNat6) (h : e.call = some c) :
    VpcNatCall e c := by
  obtain ⟨prog, m, env, skb, p, net, vpcIp⟩ := e
  rcases he with rfl | rfl
  all_goals
    simp only [Send.call, vpcNatCall, vpcNatCall6] at h
    split at h
    · cases h
    rename_i nat hnat
    split_ifs at h
    obtain ⟨hb, hs, hn⟩ := snatCall_spec h
    exact ⟨⟨nat, hnat, hb, hs⟩, hn⟩

variable {F : NatFlow}

/-- A port given out for the first time is one of the candidates, and its reverse entry names
    the flow. -/
theorem sent_fresh {c : Call} (hcall : e.call = some c) (hsent : e.sent f = some (F, g))
    (hopen : f.ctFwd F.fk = none) :
    F = c.flow ∧ ∃ i, g = gwCandidate e.env c.base c.span i ∧
      (attemptFlows (e.run f)).ctRev (F.revKey g) = some F.rv := by
  have hrun : attemptFlows (e.run f) = (c.port f e.env).1 := by
    have hspec := send_spec e f
    rw [hcall] at hspec
    exact hspec.1
  unfold Send.sent at hsent
  rw [hcall] at hsent
  obtain ⟨g', hport, heq⟩ := Option.map_eq_some_iff.mp hsent
  cases heq
  refine ⟨rfl, ?_⟩
  rw [hrun]
  have hcase := ctPort_case f e.env c
  generalize c.port f e.env = answer at hcase hport
  cases hcase with
  | standing hfwd => nomatch hopen.symm.trans hfwd
  | closed _ _ | zero _ _ _ => nomatch hport
  | fresh _ _ hfree _ =>
    cases hport
    obtain ⟨i, -, hi⟩ := List.mem_map.mp (List.mem_of_find?_eq_some hfree)
    exact ⟨i, hi.symm, Function.update_self ..⟩

/-- The ready nodes by name, and the underlay addresses, of which the node index may not know all.
    Two nodes never have one address. -/
structure Cluster where
  order : List String
  ip : String → Addr
  known : String → Bool
  nodup : order.Nodup
  distinct : ∀ a b v, to4 (ip a) = some v → to4 (ip b) = some v → a = b

/-- `nodeIPIndex.get`. -/
def Cluster.nodeIPs (c : Cluster) (name : String) : Option Addr :=
  if c.known name then some (c.ip name) else none

/-- The maps an agent has synced. -/
structure Agent (P : Platform) (c : Cluster) (ids : KMap U32 NATIdentity) (node : String)
    (m : Maps) : Prop where
  address : to4 (c.ip node) = some (cfg m cfgNodeIp)
  resync : ∃ t t', resyncNAT P t ids c.order node (some (c.ip node)) c.nodeIPs = (t', none) ∧
    m.natOf = (fun k => t'.natOf.lookup k) ∧ m.natOwner = (fun k => t'.natOwner.lookup k) ∧
    m.vpcNat = fun n => t'.vpcNat.lookup n

variable {P : Platform} {c : Cluster} {ids : KMap U32 NATIdentity} {node : String} {m : Maps}

theorem Agent.spec (h : Agent P c ids node m) :
    ∃ w, Justified P ids (shardNodes c.order node (some (c.ip node)) c.nodeIPs) w ∧
      (∀ n id, ids.lookup n = some id →
        HasIdentity P (shardNodes c.order node (some (c.ip node)) c.nodeIPs) ⟨n, id⟩ w) ∧
      (∀ k, m.natOf k = w.networks.lookup k) ∧ (∀ k, m.natOwner k = w.owners.lookup k) ∧
      ∀ n, m.vpcNat n = match natShardFor (indexOf c.order node), ids.lookup n with
        | some (base, span), some id => some (vpcNatRow P id base span)
        | _, _ => none := by
  obtain ⟨t, t', hresync, hof, howner, hnat⟩ := h.resync
  obtain ⟨w, hw, hrev, hrows⟩ := resyncNAT_spec hresync
  obtain ⟨hj, hhas⟩ := wantNATReverse_ok hw
  refine ⟨w, hj, hhas, fun k => ?_, fun k => ?_, fun n => ?_⟩
  · rw [hof]
    exact hrev.1 k
  · rw [howner]
    exact hrev.2 k
  · rw [hnat]
    exact hrows n

theorem shardNodes_length (order : List String) (node : String) (selfIP : Option Addr)
    (nodeIPs : String → Option Addr) :
    (shardNodes order node selfIP nodeIPs).take natShards =
      shardNodes order node selfIP nodeIPs := by
  refine List.take_of_length_le ?_
  unfold shardNodes
  rw [List.length_map, List.length_take]
  exact Nat.min_le_left _ _

theorem shardNodes_at (hn : n < natShards) (hname : c.order[n]? = some name) :
    (shardNodes c.order node (some (c.ip node)) c.nodeIPs)[n]? =
      some (if name = node then some (c.ip node) else c.nodeIPs name) := by
  unfold shardNodes
  rw [List.getElem?_map, List.getElem?_take_of_lt hn, hname]
  rfl

/-- **EVERY AGENT KNOWS THE OWNER OF A SHARD**, for every address of every VPC. -/
theorem Agent.owner (h : Agent P c ids node m) (hn : n < natShards) (hname : c.order[n]? = some name)
    (hknown : c.known name = true) (hv : to4 (c.ip name) = some v) {net : U32} {id : NATIdentity}
    (hid : ids.lookup net = some id) {k : Addr} (hk : k ∈ identityKeys P id) :
    m.natOf k = some net ∧ m.natOwner ⟨k, BitVec.ofNat 16 n⟩ = some v := by
  obtain ⟨w, -, hhas, hof, howner, -⟩ := h.spec
  -- the shard's endpoint is the node's address, its own view included
  have hat : ((some (c.ip name), n) : Option Addr × Nat) ∈
      ((shardNodes c.order node (some (c.ip node)) c.nodeIPs).take natShards).zipIdx := by
    rw [shardNodes_length]
    refine List.mem_zipIdx_iff_getElem?.mpr ?_
    rw [shardNodes_at hn hname, Cluster.nodeIPs, if_pos hknown]
    split_ifs with hnode
    · rw [hnode]
    · rfl
  have haddress : ∀ s, HasAddress P (shardNodes c.order node (some (c.ip node)) c.nodeIPs) net s w →
      s ≠ "" ∧ optAddr128 P s = some k →
      w.networks.lookup k = some net ∧ w.owners.lookup ⟨k, BitVec.ofNat 16 n⟩ = some v := by
    rintro s hs ⟨hne, hopt⟩
    obtain ⟨ip, hip, hnet, hall⟩ := hs hne
    have hkey : k = addr128 ip := by
      unfold optAddr128 at hopt
      rw [if_neg hne, hip] at hopt
      exact (Option.some.inj hopt).symm
    rw [hkey]
    exact ⟨hnet, hall _ hat _ _ rfl hv⟩
  rw [hof, howner]
  rcases mem_identityKeys hk with hk4 | hk6
  · exact haddress id.v4 (hhas net id hid).1 hk4
  · exact haddress id.v6 (hhas net id hid).2 hk6

theorem Agent.owner_known (h : Agent P c ids node m) {k : Addr} {shard : U16}
    (howner : m.natOwner ⟨k, shard⟩ = some v) (hv : v ≠ cfg m cfgNodeIp) :
    ∃ n name, n < natShards ∧ c.order[n]? = some name ∧ c.known name = true ∧
      to4 (c.ip name) = some v := by
  obtain ⟨w, hj, -, -, hown, -⟩ := h.spec
  rw [hown] at howner
  have hshard := hj.owners k shard v howner
  unfold shardOwner at hshard
  rw [shardNodes_length] at hshard
  obtain ⟨x, hx, hxv⟩ := Option.bind_eq_some_iff.mp hshard
  have hat := Option.join_eq_some_iff.mp hx
  unfold shardNodes at hat
  rw [List.getElem?_map] at hat
  obtain ⟨name, hname, hend⟩ := Option.map_eq_some_iff.mp hat
  have hlt : shard.toNat < natShards := by
    have hlen := (List.getElem?_eq_some_iff.mp hname).1
    rw [List.length_take] at hlen
    omega
  rw [List.getElem?_take_of_lt hlt] at hname
  unfold Cluster.nodeIPs at hend
  split_ifs at hend with hself hknown
  · cases hend
    exact absurd (Option.some.inj (hxv.symm.trans h.address)) hv
  · cases hend
    exact ⟨_, name, hlt, hname, hknown, hxv⟩

-- ── replies

/-- The address a packet of the send wears. -/
def worn (e : Send) : Addr :=
  if e.prog = .vpcNat then v4To128 (v4Of128 e.natIp) else e.natIp

/-- A reply to flow `F` under port `g`, at the reverse half of the program that sent it. -/
structure IsReply (e : Send) (F : NatFlow) (g : U16) (r : Recv) : Prop where
  prog : r.prog = e.prog
  ihl : e.prog = .vpcNat → ihlNot5 r.skb.frame = false
  dst : r.p.dst = worn e
  src : r.p.src = F.vpcIp
  proto : r.p.proto = F.fk.proto
  ports : replyPorts (if e.prog = .vpcNat then family4 else family6) r.skb.frame r.p.proto =
    some (g, F.fk.podPort)

def restored (e : Send) (F : NatFlow) (r : Recv) : Frame :=
  setReplyPort (if e.prog = .vpcNat then family4 else family6) r.p F.rv.clientPort
    (r.skb.frame.setDst F.rv.fabricIp)

/-- The reply is un-NATed into the endpoint, or tunnelled to the node under the VPC's VNI. -/
def Finds (here : Bool) (e : Send) (F : NatFlow) (r : Recv) (f : Flows) (v : U32) : Prop :=
  if here then
    ∃ out l, r.run f = some out ∧ out.act = .deliver e.net F.rv.fabricIp l ∧
      localOf r.m e.net F.rv.fabricIp = some l ∧ out.skb.frame = restored e F r
  else ∃ out, r.run f = some out ∧ out.act = .tunnel e.net v none

/-- The packet left under an address of its VPC. -/
def Wears (P : Platform) (ids : KMap U32 NATIdentity) (e : Send) : Prop :=
  ∃ id, ids.lookup e.net = some id ∧ worn e ∈ identityKeys P id

theorem reply_run {r : Recv} (he : e.prog = .vpcNat ∨ e.prog = .vpcNat6) (h : IsReply e F g r)
    (f : Flows) :
    r.run f = vpcNatReverseOf (if e.prog = .vpcNat then family4 else family6) r.m f r.skb r.p := by
  unfold Recv.run
  rw [h.prog]
  rcases he with he | he
  · rw [he]
    simp only [vpcNatReverse, if_true]
    rw [h.ihl he, if_neg Bool.false_ne_true]
  · rw [he]
    rfl

theorem reverse_cases {skb : Skb} {out : Out} (h : vpcNatReverseOf k m f skb p = some out) :
    ∃ net, m.natOf p.dst = some net ∧
      ((∃ ip l, out.act = .deliver net ip l ∧ localOf m net ip = some l) ∨
        ∃ shard v, m.natOwner ⟨p.dst, shard⟩ = some v ∧ v ≠ cfg m cfgNodeIp ∧
          out = encap m f skb net v 0#32) := by
  obtain ⟨net, g, peer, owner, hnat, -, -, howner, hcase⟩ := vpcNatReverseOf_some h
  refine ⟨net, hnat, ?_⟩
  rcases hcase with ⟨haway, rfl⟩ | ⟨-, rv, l, hl, rfl⟩
  · exact .inr ⟨_, owner, howner, haway, rfl⟩
  · exact .inl ⟨rv.fabricIp, l, rfl, hl⟩

theorem reverse_owned {skb : Skb} {net : U32} {peer : U16} (hof : m.natOf p.dst = some net)
    (hports : replyPorts k skb.frame p.proto = some (g, peer)) (hg : InShard n g)
    (howner : m.natOwner ⟨p.dst, BitVec.ofNat 16 n⟩ = some v) :
    vpcNatReverseOf k m f skb p =
      if v ≠ cfg m cfgNodeIp then some (encap m f skb net v 0#32)
      else
        match f.ctRev ⟨p.proto, g, net, p.src, peer⟩ with
        | none => none
        | some rv =>
          match localOf m net rv.fabricIp with
          | none => none
          | some l => some (deliverLocal f { skb with
              frame := setReplyPort k p rv.clientPort (skb.frame.setDst rv.fabricIp)
              mark := gwMark } net rv.fabricIp l) := by
  unfold vpcNatReverseOf setReplyPort
  rewrite [hof]
  dsimp only
  rewrite [hports]
  dsimp only
  rewrite [if_neg (inShard_div hg).1, (inShard_div hg).2, howner]
  rfl

theorem tunnelled_to_owner (h : Agent P c ids node m) {skb : Skb} {out : Out}
    (hrun : vpcNatReverseOf k m f skb p = some out) {id : U32} {opt : Option TunOpt}
    (hact : out.act = .tunnel id v opt) :
    ∃ n name, n < natShards ∧ c.order[n]? = some name ∧ c.known name = true ∧
      to4 (c.ip name) = some v := by
  obtain ⟨net, -, hcase⟩ := reverse_cases hrun
  rcases hcase with ⟨ip, l, hdeliver, -⟩ | ⟨shard, v', howner, hv', rfl⟩
  · nomatch hact.symm.trans hdeliver
  rw [encap_act] at hact
  split at hact
  · nomatch hact
  · cases hact
    exact h.owner_known howner hv'

/-- **ONE REPLY**, on any agent: `name` is the node that translated the flow, `v` its
    address. -/
theorem reply_iff (h : Agent P c ids node m) (hn : n < natShards) (hname : c.order[n]? = some name)
    (hknown : c.known name = true) (hv : to4 (c.ip name) = some v)
    (he : e.prog = .vpcNat ∨ e.prog = .vpcNat6) (hg : InShard n g) (hnet : F.fk.net = e.net) {r : Recv}
    (hr : IsReply e F g r) (hm : r.m = m) (hheld : node = name → f.ctRev (F.revKey g) = some F.rv) :
    Finds (decide (node = name)) e F r f v ↔ Wears P ids e ∧
      if node = name then (localOf m e.net F.rv.fabricIp).isSome = true
      else cfg m cfgGeneveIfindex ≠ 0#32 := by
  have hrun := reply_run he hr f
  rw [hm] at hrun
  -- the address the reply went to belongs to the VPC
  have hwears : m.natOf r.p.dst = some e.net → Wears P ids e := by
    intro hof
    obtain ⟨w, hj, -, hnat, -, -⟩ := h.spec
    rw [hnat, hr.dst] at hof
    obtain ⟨-, id, hid, hkey⟩ := hj.networks _ _ hof
    exact ⟨id, hid, hkey⟩
  have hnonzero : ∀ net, m.natOf r.p.dst = some net → net ≠ 0#32 := by
    obtain ⟨w, hj, -, hnat, -, -⟩ := h.spec
    exact fun net hof => (hj.networks _ _ (hnat _ ▸ hof)).1
  -- what the programs do once it does
  have howned : Wears P ids e →
      m.natOf r.p.dst = some e.net ∧ m.natOwner ⟨r.p.dst, BitVec.ofNat 16 n⟩ = some v := by
    rintro ⟨id, hid, hkey⟩
    rw [hr.dst]
    exact h.owner hn hname hknown hv hid hkey
  by_cases hhere : node = name
  · unfold Finds
    rw [decide_eq_true hhere, if_pos rfl, if_pos hhere, hrun, hm]
    have hcfg : v = cfg m cfgNodeIp := by
      have haddr := h.address
      rw [hhere, hv] at haddr
      exact Option.some.inj haddr
    have hkey : (⟨r.p.proto, g, e.net, r.p.src, F.fk.podPort⟩ : CtRevKey) = F.revKey g := by
      unfold NatFlow.revKey
      rw [hr.proto, hr.src, hnet]
    constructor
    · rintro ⟨out, l, hout, hact, hl, -⟩
      obtain ⟨net, hof, hcase⟩ := reverse_cases hout
      refine ⟨hwears ?_, by rw [hl]; rfl⟩
      rcases hcase with ⟨ip, l', hdeliver, -⟩ | ⟨shard, v', -, -, rfl⟩
      · cases hact.symm.trans hdeliver
        exact hof
      rw [encap_act] at hact
      split at hact
      · nomatch hact
      · nomatch hact
    · rintro ⟨hw, hlocal⟩
      obtain ⟨hof, howner⟩ := howned hw
      obtain ⟨l, hl⟩ := Option.isSome_iff_exists.mp hlocal
      rw [reverse_owned hof hr.ports hg howner, if_neg (not_not_intro hcfg), hkey, hheld hhere]
      simp only [hl]
      exact ⟨_, l, rfl, rfl, rfl, rfl⟩
  · unfold Finds
    rw [decide_eq_false hhere, if_neg Bool.false_ne_true, if_neg hhere, hrun]
    have hcfg : v ≠ cfg m cfgNodeIp := by
      intro heq
      rw [heq] at hv
      exact hhere (c.distinct node name _ h.address hv)
    constructor
    · rintro ⟨out, hout, hact⟩
      obtain ⟨net, hof, hcase⟩ := reverse_cases hout
      rcases hcase with ⟨ip, l, hdeliver, -⟩ | ⟨shard, v', -, -, rfl⟩
      · nomatch hact.symm.trans hdeliver
      rw [encap_act, tunnelId_vpc (hnonzero net hof)] at hact
      split at hact
      · nomatch hact
      rename_i hgeneve
      cases hact
      exact ⟨hwears hof, hgeneve⟩
    · rintro ⟨hw, hgeneve⟩
      obtain ⟨hof, howner⟩ := howned hw
      rw [reverse_owned hof hr.ports hg howner, if_pos hcfg]
      refine ⟨_, rfl, ?_⟩
      rw [encap_act, if_neg hgeneve, tunnelId_vpc (hnonzero _ hof)]

theorem indexOf_at {order : List String} (hnodup : order.Nodup) (hname : order[n]? = some name) :
    indexOf order name = n := by
  obtain ⟨hlt, hget⟩ := List.getElem?_eq_some_iff.mp hname
  have hidx : order.findIdx? (· = name) = some n := by
    refine List.findIdx?_eq_some_iff_getElem.mpr ⟨hlt, by simpa using hget, fun j hj => ?_⟩
    have hne : order[j] ≠ order[n] := by
      intro heq
      exact absurd ((List.Nodup.getElem_inj_iff hnodup).mp heq) (Nat.ne_of_lt hj)
    rw [hget] at hne
    simpa using hne
  unfold indexOf
  rw [hidx]

/-- **A PORT ALLOCATED ON A NODE** lies in its range. -/
theorem alloc_inShard (h : Agent P c ids node m) (hname : c.order[n]? = some node) (hm : e.m = m)
    (he : e.prog = .vpcNat ∨ e.prog = .vpcNat6) (hsent : e.sent f = some (F, g))
    (hopen : f.ctFwd F.fk = none) :
    InShard n g ∧ n < natShards ∧ F.fk.net = e.net ∧
      (attemptFlows (e.run f)).ctRev (F.revKey g) = some F.rv := by
  obtain ⟨call, hcall⟩ : ∃ call, e.call = some call := by
    refine Option.ne_none_iff_exists'.mp fun hnone => ?_
    unfold Send.sent at hsent
    rw [hnone] at hsent
    nomatch hsent
  have hask := vpcNat_call he hcall
  obtain ⟨rfl, i, rfl, hheld⟩ := sent_fresh hcall hsent hopen
  obtain ⟨nat, hnat, hbase, hspan⟩ := hask.row
  obtain ⟨w, -, -, -, -, hrows⟩ := h.spec
  rw [hm, hrows, indexOf_at c.nodup hname] at hnat
  refine and_assoc.mp ⟨?_, hask.net, hheld⟩
  split at hnat
  · rename_i hshard _
    cases hnat
    rw [hbase, hspan]
    refine ⟨gwCandidate_inShard e.env hshard i, ?_⟩
    unfold natShardFor at hshard
    split_ifs at hshard with hlimit
    omega
  · nomatch hnat

/-- **SHARDED VPC NAT**: ports are allocated in the node's own range. A reply, on any agent that
    resynced with the same list, is un-NATed there or tunnelled to the node EXACTLY when the packet
    left under an address of its VPC and the agent can deliver. -/
theorem natReply_iff {name : String} (hagent : Agent P c ids name m) {n : Nat}
    (hname : c.order[n]? = some name) (hknown : c.known name = true) {e : Send} (hm : e.m = m)
    (he : e.prog = .vpcNat ∨ e.prog = .vpcNat6) {f : Flows} {F : NatFlow} {g : U16}
    (hsent : e.sent f = some (F, g)) (hopen : f.ctFwd F.fk = none) :
    (InShard n g ∧ ∀ n', InShard n' g → n' = n) ∧
    (attemptFlows (e.run f)).ctRev (F.revKey g) = some F.rv ∧
    (∀ (node : String) (r : Recv) (f' : Flows), Agent P c ids node r.m → IsReply e F g r →
      (node = name → f'.ctRev (F.revKey g) = some F.rv) →
      (Finds (decide (node = name)) e F r f' (cfg m cfgNodeIp) ↔ Wears P ids e ∧
        if node = name then (localOf r.m e.net F.rv.fabricIp).isSome = true
        else cfg r.m cfgGeneveIfindex ≠ 0#32)) ∧
    ∀ (node : String) (r : Recv) (f' : Flows) (out : Out) (id v : U32) (opt : Option TunOpt),
      Agent P c ids node r.m → r.prog = .vpcNat ∨ r.prog = .vpcNat6 → r.run f' = some out →
      out.act = .tunnel id v opt → ∃ k owner, k < natShards ∧ c.order[k]? = some owner ∧
        c.known owner = true ∧ to4 (c.ip owner) = some v := by
  obtain ⟨hg, hn, hnet, hheld⟩ := alloc_inShard hagent hname hm he hsent hopen
  refine ⟨⟨hg, fun n' hg' => inShard_unique hg hg'⟩, hheld, ?_, ?_⟩
  · intro node r f' hnode hr hrev
    exact reply_iff hnode hn hname hknown hagent.address he hg hnet hr rfl hrev
  · intro node r f' out id v opt hnode hprog hrun hact
    unfold Recv.run at hrun
    rcases hprog with hprog | hprog
    · rw [hprog] at hrun
      simp only [vpcNatReverse] at hrun
      split at hrun
      · cases hrun
      · exact tunnelled_to_owner hnode hrun hact
    · rw [hprog] at hrun
      exact tunnelled_to_owner hnode hrun hact

/-- The two NAT addresses of the documentation ranges. -/
def docPlatform : Platform where
  parseCIDR _ := none
  parseIP s :=
    if s = "203.0.113.7" then some 0xffffcb007107#128
    else if s = "2001:db8::7" then some 0x20010db8000000000000000000000007#128
    else none
  parsePrefix _ := none
  policyHash _ _ _ := 0#64

/-- Nodes `a` and `b` at 192.0.2.1 and 192.0.2.2. -/
def nodeIp (name : String) : Addr :=
  if name = "a" then 0xffffc0000201#128 else if name = "b" then 0xffffc0000202#128 else 0#128

theorem nodeIp_distinct (x y : String) (v : U32) (hx : to4 (nodeIp x) = some v)
    (hy : to4 (nodeIp y) = some v) : x = y := by
  have hone : ∀ {z}, to4 (nodeIp z) = some v →
      (z = "a" ∧ v = 0xc0000201#32) ∨ (z = "b" ∧ v = 0xc0000202#32) := by
    intro z hz
    unfold nodeIp at hz
    split_ifs at hz with ha hb
    · exact .inl ⟨ha, (Option.some.inj hz).symm⟩
    · exact .inr ⟨hb, (Option.some.inj hz).symm⟩
    · nomatch hz
  rcases hone hx with ⟨rfl, rfl⟩ | ⟨rfl, rfl⟩
  · exact ((hone hy).resolve_right fun h => absurd h.2 (by decide)).1.symm
  · exact ((hone hy).resolve_left fun h => absurd h.2 (by decide)).1.symm

def twoNodes : Cluster where
  order := ["a", "b"]
  ip := nodeIp
  known _ := true
  nodup := by decide
  distinct := nodeIp_distinct

/-- VPC 100 leaves by the given addresses. -/
def natIds (v4 v6 : String) : KMap U32 NATIdentity := AList.insert 100#32 ⟨v4, v6⟩ ∅

/-- The maps of node `name`: VPC 100 is 10.0.0.0/8, its pod 10.0.0.5 is on `a`; veth 6 is a
    forwarding leg of the VPC. -/
def shardMaps (v4 v6 name : String) : Maps :=
  let t := (resyncNAT docPlatform ⟨∅, ∅, ∅⟩ (natIds v4 v6) twoNodes.order name
    (some (nodeIp name)) twoNodes.nodeIPs).1
  { Maps.empty with
    params := fun idx => if idx = cfgNodeIp then (nodeIp name).extractLsb' 0 32 else
      if idx = cfgGeneveIfindex then 9#32 else if idx = cfgUplinkIfindex then 2#32 else 0#32
    ports := fun i => if i = 5#32 then some 100#32 else
      if i = 6#32 then some (portFForward ||| 100#32) else none
    locals := fun k => if name = "a" ∧ k = ⟨100#32, v4To128 0x0a000005#32⟩ then
      some ⟨5#32, 1#256⟩ else none
    networks := [⟨136, 100#32 ++ v4To128 0x0a000000#32, 100#32⟩]
    sgMembers := fun k => if k = ⟨100#32, v4To128 0x0a000005#32⟩ then some ⟨0#64, 1#256⟩ else none
    lbProg := fun i => i == 4
    natOf := fun k => t.natOf.lookup k
    natOwner := fun k => t.natOwner.lookup k
    vpcNat := fun n => t.vpcNat.lookup n }

/-- A UDP packet from port 5000 of `src` to 198.51.100.9:53, at veth `veth` of node `a`. -/
def query (v4 v6 : String) (src veth : U32) : Send :=
  ⟨.vpcNat, shardMaps v4 v6 "a", ⟨0#64, 0#32, true, true⟩,
    ⟨.ip4 ⟨4#4, 5#4, 0#16, ipprotoUdp, src, 0xc6336409#32⟩
      [0x13#8, 0x88#8, 0#8, 53#8, 0#8, 8#8, 0#8, 0#8], 0#32, veth, veth, none, none⟩,
    ⟨false, ipprotoUdp, v4To128 src, v4To128 0xc6336409#32⟩, 100#32, 0#128⟩

def queryFlow (src : U32) : NatFlow :=
  ⟨⟨ipprotoUdp, 100#32, v4To128 src, v4To128 0xc6336409#32, 5000#16, 53#16⟩,
    v4To128 0xc6336409#32, ⟨v4To128 src, v4To128 src, 5000#16⟩⟩

/-- Its answer to `dst`, port 1024, at node `name`. -/
def answer (v4 v6 name : String) (dst : U32) : Recv :=
  ⟨.vpcNat, shardMaps v4 v6 name,
    ⟨.ip4 ⟨4#4, 5#4, 0#16, ipprotoUdp, 0xc6336409#32, dst⟩
      [0#8, 53#8, 4#8, 0#8, 0#8, 8#8, 0#8, 0#8], 0#32, 2#32, 2#32, none, none⟩,
    ⟨false, ipprotoUdp, v4To128 0xc6336409#32, v4To128 dst⟩, 0#32⟩

theorem shardMaps_agent {v4 v6 : String}
    (haddr : to4 (nodeIp name) = some ((nodeIp name).extractLsb' 0 32))
    (hok : (resyncNAT docPlatform ⟨∅, ∅, ∅⟩ (natIds v4 v6) twoNodes.order name
      (some (nodeIp name)) twoNodes.nodeIPs).2 = none) :
    Agent docPlatform twoNodes (natIds v4 v6) name (shardMaps v4 v6 name) :=
  ⟨haddr, ⟨∅, ∅, ∅⟩, _, Prod.ext rfl hok, rfl, rfl, rfl⟩

theorem natReply_tunnelled :
    Finds false (query "203.0.113.7" "" 0x0a000005#32 5#32) (queryFlow 0x0a000005#32)
      (answer "203.0.113.7" "" "b" 0xcb007107#32) Flows.empty 0xc0000201#32 := by
  have ha : Agent docPlatform twoNodes (natIds "203.0.113.7" "") "a"
      (shardMaps "203.0.113.7" "" "a") := shardMaps_agent rfl (by decide +kernel)
  have hb : Agent docPlatform twoNodes (natIds "203.0.113.7" "") "b"
      (shardMaps "203.0.113.7" "" "b") := shardMaps_agent rfl (by decide +kernel)
  have hsent : (query "203.0.113.7" "" 0x0a000005#32 5#32).sent Flows.empty =
      some (queryFlow 0x0a000005#32, 1024#16) := by decide +kernel
  have hreply : IsReply (query "203.0.113.7" "" 0x0a000005#32 5#32) (queryFlow 0x0a000005#32)
      1024#16 (answer "203.0.113.7" "" "b" 0xcb007107#32) :=
    ⟨rfl, fun _ => rfl, by decide +kernel, rfl, rfl, by decide +kernel⟩
  have hiff := (natReply_iff ha (n := 0) rfl rfl rfl (.inl rfl) hsent rfl).2.2.1 "b" _ Flows.empty
    hb hreply fun h => absurd h (by decide)
  exact hiff.mpr ⟨⟨_, rfl, by decide +kernel⟩, by decide +kernel⟩

/-- **REPLIES ARE LOST** two ways: a VPC with an IPv6 address only sends its IPv4 packet from
    0.0.0.0; and the node that translated a forwarding leg's foreign source has no endpoint for the
    reply. -/
theorem replies_lost :
    (Agent docPlatform twoNodes (natIds "" "2001:db8::7") "a" (shardMaps "" "2001:db8::7" "a") ∧
      (query "" "2001:db8::7" 0x0a000005#32 5#32).sent Flows.empty =
        some (queryFlow 0x0a000005#32, 1024#16) ∧
      (cozyplaneFromPod (shardMaps "" "2001:db8::7" "a") Flows.empty ⟨0#64, 0#32, true, true⟩
        (query "" "2001:db8::7" 0x0a000005#32 5#32).skb).skb.frame =
        .ip4 ⟨4#4, 5#4, 0#16, ipprotoUdp, 0#32, 0xc6336409#32⟩
          [4#8, 0#8, 0#8, 53#8, 0#8, 8#8, 0#8, 0#8] ∧
      IsReply (query "" "2001:db8::7" 0x0a000005#32 5#32) (queryFlow 0x0a000005#32) 1024#16
        (answer "" "2001:db8::7" "a" 0#32) ∧
      ¬ Finds true (query "" "2001:db8::7" 0x0a000005#32 5#32) (queryFlow 0x0a000005#32)
        (answer "" "2001:db8::7" "a" 0#32)
        (attemptFlows ((query "" "2001:db8::7" 0x0a000005#32 5#32).run Flows.empty))
        0xc0000201#32) ∧
    (Agent docPlatform twoNodes (natIds "203.0.113.7" "") "a" (shardMaps "203.0.113.7" "" "a") ∧
      (query "203.0.113.7" "" 0xc0a80909#32 6#32).sent Flows.empty =
        some (queryFlow 0xc0a80909#32, 1024#16) ∧
      (cozyplaneFromPod (shardMaps "203.0.113.7" "" "a") Flows.empty ⟨0#64, 0#32, true, true⟩
        (query "203.0.113.7" "" 0xc0a80909#32 6#32).skb).skb.frame =
        .ip4 ⟨4#4, 5#4, 0#16, ipprotoUdp, 0xcb007107#32, 0xc6336409#32⟩
          [4#8, 0#8, 0#8, 53#8, 0#8, 8#8, 0#8, 0#8] ∧
      IsReply (query "203.0.113.7" "" 0xc0a80909#32 6#32) (queryFlow 0xc0a80909#32) 1024#16
        (answer "203.0.113.7" "" "a" 0xcb007107#32) ∧
      ¬ Finds true (query "203.0.113.7" "" 0xc0a80909#32 6#32) (queryFlow 0xc0a80909#32)
        (answer "203.0.113.7" "" "a" 0xcb007107#32)
        (attemptFlows ((query "203.0.113.7" "" 0xc0a80909#32 6#32).run Flows.empty))
        0xc0000201#32) := by
  refine ⟨⟨shardMaps_agent rfl (by decide +kernel), by decide +kernel, by decide +kernel,
    ⟨rfl, fun _ => rfl, by decide +kernel, rfl, rfl, by decide +kernel⟩, ?_⟩,
    ⟨shardMaps_agent rfl (by decide +kernel), by decide +kernel, by decide +kernel,
    ⟨rfl, fun _ => rfl, by decide +kernel, rfl, rfl, by decide +kernel⟩, ?_⟩⟩
  · rintro ⟨out, l, hrun, -⟩
    have hmiss : ((answer "" "2001:db8::7" "a" 0#32).run (attemptFlows
        ((query "" "2001:db8::7" 0x0a000005#32 5#32).run Flows.empty))).isSome = false := by
      decide +kernel
    rw [hrun] at hmiss
    nomatch hmiss
  · rintro ⟨out, l, hrun, -⟩
    have hmiss : ((answer "203.0.113.7" "" "a" 0xcb007107#32).run (attemptFlows
        ((query "203.0.113.7" "" 0xc0a80909#32 6#32).run Flows.empty))).isSome = false := by
      decide +kernel
    rw [hrun] at hmiss
    nomatch hmiss

end CozyNatReply
