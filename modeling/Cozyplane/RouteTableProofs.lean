import Cozyplane.OriginIsolationProofs
import Cozyplane.RouteSyncProofs

/-!
# The published route table — what `from_pod` finds in it

Off-VPC traffic of a pod meets the route table before the resolver, the floating addresses, the
NAT and the gateway.
-/

namespace CozyRouteTable

open PrefixTable KernelMap CozyPacket CozyMaps CozyDatapath CozyPolicy CozyNat CozySteer CozyFromPod
open CozyOrigin CozyCidr CozyRoutes

variable {m : Maps} {f : Flows} {env : Env} {skb : Skb} {p : Pkt} {u v : U32}

-- ── the packet

/-- From a pod of `v` that is no gateway leg, to an address in no network `v` can see that is not
    its organisation's Gateway. -/
structure LeavesVpc (m : Maps) (skb : Skb) (p : Pkt) (u v : U32) : Prop where
  veth : TenantVeth m skb u
  net : portNet u = v
  parses : parseIp skb.frame = some p
  offVpc : netOf m v p.dst = 0#32
  unsteered : m.orgGw ⟨v, p.dst⟩ = false
  unscoped : (p.isV6 && v6LinkScoped p.dst) = false

theorem gwSteer_miss {srcnet : U32} {foreign : Bool} (h : m.orgGw ⟨srcnet, p.dst⟩ = false) :
    gwSteer m f skb p srcnet foreign = none := by
  unfold gwSteer
  by_cases hihl : ihlNot5 skb.frame = true
  · rw [if_pos hihl]
  rw [if_neg hihl]
  cases l4Ports skb.frame with
  | none => rfl
  | some ports =>
    show (if !orgGwPort ports.2 || !m.orgGw ⟨srcnet, p.dst⟩ then none else _) = none
    rw [h, Bool.not_false, Bool.or_true, if_pos rfl]

theorem routeAndDeliver_routed {o : Origin} {foreign : Bool} (hsrc : o.srcnet ≠ 0#32)
    (hgw : o.isGw = false) (hsteer : m.orgGw ⟨o.srcnet, p.dst⟩ = false) {out : Out}
    (h : routeStage m f skb p o.srcnet = .done out) :
    routeAndDeliver m f env skb p o foreign 0#32 = out := by
  have hoff : (o.srcnet != 0#32 && (0#32 : U32) == 0#32) = true := by
    rw [bne_iff_ne.mpr hsrc]
    rfl
  have hmiss : ∀ g : Bool, guarded g f (attempt f (gwSteer m f skb p o.srcnet foreign)) = .miss f := by
    intro g
    rw [gwSteer_miss hsteer]
    cases g with
    | false | true => rfl
  have hroute : guarded ((o.srcnet != 0#32 && (0#32 : U32) == 0#32) && !o.isGw) f
      (routeStage m f skb p o.srcnet) = .done out := by
    rw [hoff, hgw, h]
    rfl
  unfold routeAndDeliver
  simp only [hmiss, orElse_miss, hroute, orElse_done]

theorem fromPod_eq (env : Env) (h : LeavesVpc m skb p u v) {out : Out}
    (hr : routeStage m f (Skb.clearMarks skb) p v = .done out) :
    fromPod m f env skb =
      if unsupportedIpHeader skb.frame then shotOut f (Skb.clearMarks skb)
      else
        match authenticate m ⟨some u, false⟩ skb.ifindex p with
        | none => shotOut f (Skb.clearMarks skb)
        | some _ =>
          if cfg m cfgSgUpdating != 0#32 && (sgL4 skb.frame p.proto).isSome then
            shotOut f (Skb.clearMarks skb)
          else out := by
  have hsn : Origin.srcnet ⟨some u, false⟩ = v := h.net
  have hne : v ≠ 0#32 := by
    rw [← h.net]
    exact h.veth.tenant
  have hgw : Origin.isGw ⟨some u, false⟩ = false := h.veth.notGw
  rw [fromPod_pod (originOf_tenant h.veth) h.veth.live h.parses
    (linkControlOut_false h.parses h.unscoped)]
  cases authenticate m ⟨some u, false⟩ skb.ifindex p with
  | none => rfl
  | some foreign =>
    have hroute : routeAndDeliver m f env (Skb.clearMarks skb) p ⟨some u, false⟩ foreign 0#32 = out := by
      refine routeAndDeliver_routed ?_ hgw ?_ ?_
      · rw [hsn]
        exact hne
      · rw [hsn]
        exact h.unsteered
      · rw [hsn]
        exact hr
    simp only [fromPodAuth_eq h.unscoped, hsn, h.offVpc, hroute, hgw, bne_iff_ne.mpr hne, Bool.not_false,
      Bool.true_and]
    rfl

/-- **THE ROUTE STAGE HAS THE LAST WORD** on what leaves a VPC, unless the packet was dropped on
    the way to it. -/
theorem fromPod_stage (env : Env) (h : LeavesVpc m skb p u v) {out : Out}
    (hr : routeStage m f (Skb.clearMarks skb) p v = .done out) :
    fromPod m f env skb = shotOut f (Skb.clearMarks skb) ∨ fromPod m f env skb = out := by
  rw [fromPod_eq env h hr]
  split
  · exact .inl rfl
  split
  · exact .inl rfl
  split
  · exact .inl rfl
  · exact .inr rfl

theorem cozyplaneFromPod_shot (h : LeavesVpc m skb p u v)
    (hshot : ∀ f, (fromPod m f env skb).act = .shot) :
    (cozyplaneFromPod m f env skb).act = .shot := by
  have hcont : ∀ f, (fromPodContinue m f env skb).act = .shot := by
    intro f
    unfold fromPodContinue
    dsimp only
    split
    · rename_i hc
      exact absurd hc.2 h.veth.notUplink
    · exact hshot f
  have hframe := controlFrame_false h.parses h.unscoped
  unfold cozyplaneFromPod
  split
  · rfl
  split
  · rfl
  rw [hframe]
  simp only [Bool.false_eq_true, if_false]
  split
  · rfl
  · split
    · exact hcont _
    · rfl

/-- The next hop is a local leg that is not here. -/
def Unusable (m : Maps) (p : Pkt) (v : U32) (e : RouteEntry) : Prop :=
  ∀ hop, routeNextHop (some e) p = some hop → hop.nodeIp = 0#32 ∧ localOf m v hop.gwIp = none

/-- The stage declines only an open VPC without a row for the packet. -/
theorem routeStage_done (f : Flows) (skb : Skb)
    (h : routesBlocked m v = true ∨ ∃ e, routeOf m v p.dst = some e) :
    ∃ out, routeStage m f skb p v = .done out := by
  unfold routeStage
  split
  · exact ⟨_, rfl⟩
  rename_i hb
  obtain ⟨e, he⟩ := h.resolve_left hb
  rw [he]
  dsimp only
  cases routeNextHop (some e) p with
  | none => exact ⟨_, rfl⟩
  | some hop =>
    dsimp only
    split
    · exact ⟨_, rfl⟩
    · split
      · cases localOf m v hop.gwIp with
        | none | some rl => exact ⟨_, rfl⟩
      · exact ⟨_, rfl⟩

/-- It drops on an unusable next hop, and writes no flow state. -/
theorem routeStage_shot (h : routesBlocked m v = true ∨ ∃ e, routeOf m v p.dst = some e)
    (hdead : ∀ e, routeOf m v p.dst = some e → Unusable m p v e) :
    ∃ out, routeStage m f skb p v = .done out ∧ out.act = .shot ∧ out.flows = f := by
  unfold routeStage
  split
  · exact ⟨_, rfl, rfl, rfl⟩
  rename_i hb
  obtain ⟨e, he⟩ := h.resolve_left hb
  have hunusable := hdead e he
  rw [he]
  dsimp only
  cases hnext : routeNextHop (some e) p with
  | none => exact ⟨_, rfl, rfl, rfl⟩
  | some hop =>
    obtain ⟨hnode, hlocal⟩ := hunusable hop hnext
    dsimp only
    by_cases hns : (!nsEgressOk m skb.frame v p.isV6 p.proto p.src p.dst) = true
    · rw [if_pos hns]
      exact ⟨_, rfl, rfl, rfl⟩
    · rw [if_neg hns, if_pos hnode, hlocal]
      exact ⟨_, rfl, rfl, rfl⟩

variable {X : Texts} {desired : List DesiredRoute} {blocked : List U32} {s : Routes} {a : Addr}

/-- The prefix of a route holds the address; `n` is its length. -/
def Covers (X : Texts) (d : DesiredRoute) (a : Addr) (n : Nat) : Prop :=
  ∃ c, X.parseCIDR d.cidr = some c ∧ (cidrRange c).plen = n ∧ (cidrRange c).contains a = true

variable {d : DesiredRoute}

theorem entry_covers {k : RowKey (32 + 128)} (hk : lpmKey X d.scope d.cidr = .ok k) (e : RouteEntry)
    (v : U32) (a : Addr) :
    (⟨k.plen, k.key, e⟩ : Entry (32 + 128) RouteEntry).covers (v ++ a) = true ↔
      d.scope = v ∧ ∃ n, k.plen = 32 + n ∧ Covers X d a n := by
  obtain ⟨c, hc, rfl⟩ := lpmKey_ok X hk
  unfold Entry.covers
  rw [agree_append]
  refine and_congr_right fun _ => ⟨fun ha => ⟨_, rfl, c, hc, rfl, ha⟩, ?_⟩
  rintro ⟨n, -, c', hc', -, ha⟩
  rw [hc] at hc'
  cases hc'
  exact ha

theorem routeOf_hit (hpub : Published X desired blocked s) (hd : d ∈ desired) {n : Nat}
    (hc : Covers X d a n) : ∃ e, routeOf (routeMaps m s) d.scope a = some e := by
  obtain ⟨want, hwant, hlookup⟩ := hpub.rows
  obtain ⟨k, e, hrow, e', he'⟩ := (routeRows_rows X hwant).2 d hd
  have hkey := (routeMapEntry_ok X hrow).1
  have hmem : (⟨k.plen, k.key, e'⟩ : Entry (32 + 128) RouteEntry) ∈ mapTable s.rows := by
    rw [mem_mapTable, hlookup]
    exact he'
  obtain ⟨c, hparse, hlen, hin⟩ := hc
  have hcov : (⟨k.plen, k.key, e'⟩ : Entry (32 + 128) RouteEntry).covers (d.scope ++ a) = true := by
    refine (entry_covers hkey e' d.scope a).mpr ⟨rfl, (cidrRange c).plen, ?_, c, hparse, rfl, hin⟩
    obtain ⟨c', hc', rfl⟩ := lpmKey_ok X hkey
    rw [hparse] at hc'
    cases hc'
    rfl
  obtain ⟨row, hrow⟩ := lookup_isSome.mpr ⟨_, hmem, hcov⟩
  refine ⟨row.val, ?_⟩
  show (lookup (mapTable s.rows) (d.scope ++ a)).map Entry.val = some row.val
  rw [hrow]
  rfl

/-- **A HIT** is the row of a desired route of the VPC that holds the address, and none that does
    is longer. -/
theorem routeOf_longest (hpub : Published X desired blocked s) {e : RouteEntry}
    (h : routeOf (routeMaps m s) v a = some e) :
    ∃ d ∈ desired, d.scope = v ∧ (∃ k, routeMapEntry X d = .ok (k, e)) ∧ ∃ n, Covers X d a n ∧
      ∀ d' ∈ desired, d'.scope = v → ∀ n', Covers X d' a n' → n' ≤ n := by
  obtain ⟨want, hwant, hlookup⟩ := hpub.rows
  obtain ⟨row, hrow, rfl⟩ : ∃ row, lookup (mapTable s.rows) (v ++ a) = some row ∧ row.val = e :=
    Option.map_eq_some_iff.mp h
  obtain ⟨hmem, hcov, hmax⟩ := lookup_spec hrow
  rw [mem_mapTable, hlookup] at hmem
  obtain ⟨hsound, hcomplete⟩ := routeRows_rows X hwant
  obtain ⟨d, hd, hentry⟩ := hsound _ _ hmem
  obtain ⟨hscope, n, hplen, hcovers⟩ := (entry_covers (routeMapEntry_ok X hentry).1 row.val v a).mp hcov
  refine ⟨d, hd, hscope, ⟨_, hentry⟩, n, hcovers, fun d' hd' hscope' n' hcovers' => ?_⟩
  obtain ⟨k', e₁, hentry', e', he'⟩ := hcomplete d' hd'
  have hmem' : (⟨k'.plen, k'.key, e'⟩ : Entry (32 + 128) RouteEntry) ∈ mapTable s.rows := by
    rw [mem_mapTable, hlookup]
    exact he'
  have hkey' := (routeMapEntry_ok X hentry').1
  have hplen' : k'.plen = 32 + n' := by
    obtain ⟨c, hparse, rfl, -⟩ := hcovers'
    obtain ⟨c', hc', rfl⟩ := lpmKey_ok X hkey'
    rw [hparse] at hc'
    cases hc'
    rfl
  have hle : k'.plen ≤ row.plen :=
    hmax _ hmem' ((entry_covers hkey' e' v a).mpr ⟨hscope', n', hplen', hcovers'⟩)
  have hrowlen : row.plen = 32 + n := hplen
  omega

/-- The VPC is blocked, or one of its desired routes holds the destination. -/
def Governed (X : Texts) (desired : List DesiredRoute) (blocked : List U32) (v : U32) (a : Addr) :
    Prop :=
  v ∈ blocked ∨ ∃ d ∈ desired, d.scope = v ∧ ∃ n, Covers X d a n

theorem governed_stage (hpub : Published X desired blocked s) (hv : v.toNat < 2 ^ 22)
    (h : Governed X desired blocked v a) :
    routesBlocked (routeMaps m s) v = true ∨ ∃ e, routeOf (routeMaps m s) v a = some e := by
  rcases h with hblocked | ⟨d, hd, rfl, n, hc⟩
  · left
    rw [routesBlocked_disarmed m hpub.disarmed hv]
    exact (hpub.scopes v).mpr hblocked
  · exact .inr (routeOf_hit hpub hd hc)

/-- **NO FALLBACK**: a governed packet is dropped, or decided by the route stage. -/
theorem fromPod_routed (hpub : Published X desired blocked s) (hv : v.toNat < 2 ^ 22)
    (h : LeavesVpc (routeMaps m s) skb p u v) (hgov : Governed X desired blocked v p.dst) :
    fromPod (routeMaps m s) f env skb = shotOut f (Skb.clearMarks skb) ∨
      routeStage (routeMaps m s) f (Skb.clearMarks skb) p v =
        .done (fromPod (routeMaps m s) f env skb) := by
  obtain ⟨out, hout⟩ := routeStage_done f (Skb.clearMarks skb)
    (governed_stage (m := m) hpub hv hgov)
  rcases fromPod_stage env h hout with hshot | hdone
  · exact .inl hshot
  · rw [hdone]
    exact .inr hout

/-- **A BLACKHOLE DROPS**: no route that holds the destination, at the length `n` or longer, gives a
    usable next hop. -/
theorem fromPod_blackholed (hpub : Published X desired blocked s) (hv : v.toNat < 2 ^ 22)
    (h : LeavesVpc (routeMaps m s) skb p u v) {n : Nat}
    (hgov : v ∈ blocked ∨ (d ∈ desired ∧ d.scope = v ∧ Covers X d p.dst n))
    (hdead : ∀ d' ∈ desired, d'.scope = v → ∀ n', n ≤ n' → Covers X d' p.dst n' →
      ∀ k e, routeMapEntry X d' = .ok (k, e) → Unusable m p v e) (f : Flows) :
    (fromPod (routeMaps m s) f env skb).act = .shot ∧
      (fromPod (routeMaps m s) f env skb).flows = f := by
  have hrow : v ∉ blocked → ∀ e, routeOf (routeMaps m s) v p.dst = some e →
      Unusable (routeMaps m s) p v e := by
    intro hopen e he
    obtain ⟨hd, hscope, hc⟩ := hgov.resolve_left hopen
    obtain ⟨d', hd', hscope', ⟨k, hk⟩, n', hc', hmax⟩ := routeOf_longest hpub he
    exact hdead d' hd' hscope' n' (hmax d hd hscope n hc) hc' k e hk
  have hstage : ∃ out, routeStage (routeMaps m s) f (Skb.clearMarks skb) p v = .done out ∧
      out.act = .shot ∧ out.flows = f := by
    by_cases hblocked : v ∈ blocked
    · have hguard : routesBlocked (routeMaps m s) v = true := by
        rw [routesBlocked_disarmed m hpub.disarmed hv]
        exact (hpub.scopes v).mpr hblocked
      unfold routeStage
      rw [if_pos hguard]
      exact ⟨_, rfl, rfl, rfl⟩
    · obtain ⟨hd, rfl, hc⟩ := hgov.resolve_left hblocked
      exact routeStage_shot (.inr (routeOf_hit hpub hd hc)) (hrow hblocked)
  obtain ⟨out, hout, hact, hflows⟩ := hstage
  rcases fromPod_stage env h hout with hshot | hdone
  · rw [hshot]
    exact ⟨rfl, rfl⟩
  · rw [hdone]
    exact ⟨hact, hflows⟩

end CozyRouteTable
