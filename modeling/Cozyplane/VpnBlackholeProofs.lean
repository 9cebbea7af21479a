import Cozyplane.RouteInputsProofs
import Cozyplane.RouteTableProofs
import Cozyplane.VpnGatewayProofs

/-!
# No fallback for VPN prefixes — controller, agent and datapath together

A prefix a VPN gateway has accepted must never leave its VPC by NAT or in the clear. Three parts
hold that together: the reconciler keeps the prefix in the status, with or without next hops; the
agent compiles a published prefix into a row even where no next hop resolves, or blocks the whole
scope; and the route stage of `from_pod` drops on such a row instead of passing the packet on.
-/

namespace CozyVpnBlackhole

open CozyPacket CozyMaps CozyDatapath CozyFromPod CozyCidr CozyRouteTable CozyRouteCompile
open CozyRouteInputs CozyVpnGateway
open CozyRoutes hiding Texts
open CozyBoundaryCompile (VPCRef)

/-- A VPNGateway as the agents list it, with its published status. -/
def listed (ns name : String) (gw : Gateway) (st : Status) : VPNGateway :=
  ⟨ns, name, gw.vpcRef, gw.additional, gw.deleting, st.routes⟩

variable {X : Texts} {S : Snapshot} {o : Orders} {self : String} {c : Compiled}

theorem pair_route {gw : VPNGateway} {name cidr : String}
    (h : (name, cidr) ∈ pairs gw.vpcRef gw.routes) :
    ∃ r ∈ gw.routesFor name, cidr ∈ r.cidrs := by
  obtain ⟨r, hr, hmem⟩ := List.mem_flatMap.mp h
  obtain ⟨x, hx, heq⟩ := List.mem_map.mp hmem
  obtain ⟨hname, rfl⟩ := Prod.mk.inj heq
  refine ⟨r, List.mem_filter.mpr ⟨hr, decide_eq_true ?_⟩, hx⟩
  exact hname

/-- **A PUBLISHED PAIR IS GOVERNED**: it has a row, or its VPC is blocked. -/
theorem pair_governed (hc : compileRoutes X S o self = .ok c) {gw : VPNGateway} (hgw : gw ∈ S.vpns)
    (hlive : gw.deleting = false) {name cidr : String}
    (hpair : (name, cidr) ∈ pairs gw.vpcRef gw.routes) (hname : name ∈ gw.allowed) {v : U32}
    (hv : ScopeIs S ⟨gw.ns, name⟩ v) :
    v ∈ c.blocked ∨ ∃ d ∈ c.desired, d.scope = v ∧ d.cidr = cidr := by
  obtain ⟨s, hs, hdesired, hblocked⟩ := compile_spec X S hc
  obtain ⟨marked, hk, -⟩ := scan_ledger X S hs gw.ns
  have hscope : vpnScope S gw.ns gw v := ⟨hlive, rfl, name, hname, hv⟩
  have hown : ownsScope S gw.ns v := .inr ⟨gw, hgw, hscope⟩
  obtain ⟨g, hg⟩ := Option.ne_none_iff_exists'.mp (hk.seen.mpr ⟨v, hown⟩)
  cases hden : denied s.groups gw.ns g with
  | true =>
    refine .inl ((hblocked v).mpr ⟨gw.ns, g, hg, hden, ?_⟩)
    rw [← groupOf_some hg]
    exact (hk.proved v).mpr hown
  | false =>
    obtain ⟨hinputs, -, -, hrefuse⟩ := granted_inputs X S hs hg hden
    have hgood : badGateway S gw = false := by
      by_contra hbad
      exact hrefuse gw hgw ⟨hlive, rfl, (Bool.not_eq_false _).mp hbad⟩ ⟨v, hscope⟩
    obtain ⟨r, hr, hcidr⟩ := pair_route hpair
    obtain ⟨vni, hvni, -, rfl⟩ := hv
    have hinput : (⟨⟨gw.ns, name⟩, gw.routesFor name, true⟩ : RouteInput) ∈ inputsOf S o gw.ns := by
      refine vpn_mem_inputsOf hgw hlive hgood ⟨rfl, ?_, List.ne_nil_of_mem hr⟩
      rw [hvni]
      exact Option.some_ne_none vni
    refine .inr ⟨_, (hdesired _).mpr ⟨gw.ns, g, hg, hden, _, hinputs ▸ hinput, vni, hvni, r, hr,
      cidr, hcidr, rfl⟩, rfl, rfl⟩

/-- No next hop resolved, or the one the packet would take is a local leg that is not here. -/
def NoHop (X : CozyRoutes.Texts) (m : Maps) (p : Pkt) (d : DesiredRoute) : Prop :=
  d.nextHops = [] ∨ ∃ k e, routeMapEntry X d = .ok (k, e) ∧ Unusable m p d.scope e

/-- The empty slot of a route without next hops is no endpoint. -/
theorem noHop_unusable {Y : CozyRoutes.Texts} {m : Maps} {p : Pkt} {d : DesiredRoute}
    (hgw : d.gwIP = none) (hzero : localOf m d.scope 0#128 = none) (h : NoHop Y m p d)
    {k : KernelMap.RowKey (32 + 128)} {e : RouteEntry} (he : routeMapEntry Y d = .ok (k, e)) :
    Unusable m p d.scope e := by
  rcases h with hnone | ⟨k', e', he', hunusable⟩
  · have hhops : d.hops = [] := by
      unfold DesiredRoute.hops
      rw [if_neg (by rw [hgw]; exact fun hc => nomatch hc.2), hnone]
    obtain ⟨-, -, hop0, hop1, hentries, h0, -, hcount⟩ := routeMapEntry_ok Y he
    rw [hhops] at hentries hcount
    cases hentries
    intro hop hnext
    have hone : e.count = 1#8 := hcount
    unfold routeNextHop at hnext
    dsimp only at hnext
    rw [hone, if_neg (by decide), if_pos (.inl rfl), h0] at hnext
    cases hnext
    exact ⟨rfl, hzero⟩
  · rw [he'] at he
    cases he
    exact hunusable

/-- A node has synced the gateway with its published status, and a packet of a pod of `v`, a VPC the
    gateway declares, goes to the prefix of a published pair. -/
structure Meets (X : Texts) (S : Snapshot) (o : Orders) (node : String) (s : Routes) (m : Maps)
    (vpn : VPNGateway) (pair : String × String) (pfx : IPNet) (skb : Skb) (p : Pkt) (u v : U32) :
    Prop where
  synced : ∃ c, compileRoutes X S o node = .ok c ∧ Published X.toTexts c.desired c.blocked s
  present : vpn ∈ S.vpns
  live : vpn.deleting = false
  published : pair ∈ pairs vpn.vpcRef vpn.routes
  declared : pair.1 ∈ vpn.allowed
  scope : ScopeIs S ⟨vpn.ns, pair.1⟩ v
  parses : X.parseCIDR pair.2 = some pfx
  within : (cidrRange pfx).contains p.dst = true
  leaves : LeavesVpc (routeMaps m s) skb p u v

/-- Of the routes of the VPC that hold the destination, none as long as the pair's prefix or
    longer has a usable next hop. -/
def Blackholed (X : Texts) (S : Snapshot) (self : String) (m : Maps) (pfx : IPNet) (p : Pkt)
    (v : U32) : Prop :=
  ∀ i d n, Asked S i → Resolves X S self i d → d.scope = v → (cidrRange pfx).plen ≤ n →
    Covers X.toTexts d p.dst n → NoHop X.toTexts m p d

variable {s : Routes} {m : Maps} {vpn : VPNGateway} {pair : String × String}
variable {pfx : IPNet} {skb : Skb} {p : Pkt} {u v : U32}

theorem Meets.governed (h : Meets X S o self s m vpn pair pfx skb p u v) :
    ∃ c, compileRoutes X S o self = .ok c ∧ Published X.toTexts c.desired c.blocked s ∧
      (v ∈ c.blocked ∨ ∃ d ∈ c.desired, d.scope = v ∧ Covers X.toTexts d p.dst (cidrRange pfx).plen) := by
  obtain ⟨c, hc, hpub⟩ := h.synced
  refine ⟨c, hc, hpub, ?_⟩
  refine (pair_governed hc h.present h.live h.published h.declared h.scope).imp_right ?_
  rintro ⟨d, hd, hv, hcidr⟩
  exact ⟨d, hd, hv, pfx, hcidr ▸ h.parses, rfl, h.within⟩

/-- **NOTHING BEHIND THE ROUTE STAGE** sees a packet to a published pair. -/
theorem Meets.routed (h : Meets X S o self s m vpn pair pfx skb p u v) (f : Flows) (env : Env) :
    fromPod (routeMaps m s) f env skb = shotOut f (Skb.clearMarks skb) ∨
      routeStage (routeMaps m s) f (Skb.clearMarks skb) p v =
        .done (fromPod (routeMaps m s) f env skb) := by
  obtain ⟨c, -, hpub, hgov⟩ := h.governed
  refine fromPod_routed hpub (h.scope.lt) h.leaves (hgov.imp_right ?_)
  rintro ⟨d, hd, hv, hcov⟩
  exact ⟨d, hd, hv, _, hcov⟩

/-- **WITHOUT A NEXT HOP IT IS DROPPED.** -/
theorem Meets.dropped (h : Meets X S o self s m vpn pair pfx skb p u v)
    (hzero : localOf m v 0#128 = none) (hdead : Blackholed X S self m pfx p v) (f : Flows)
    (env : Env) :
    (fromPod (routeMaps m s) f env skb).act = .shot ∧
      (fromPod (routeMaps m s) f env skb).flows = f := by
  obtain ⟨c, hc, hpub, hgov⟩ := h.governed
  have hunusable : ∀ d' ∈ c.desired, d'.scope = v → ∀ n', (cidrRange pfx).plen ≤ n' →
      Covers X.toTexts d' p.dst n' → ∀ k e, routeMapEntry X.toTexts d' = .ok (k, e) →
        Unusable m p v e := by
    intro d' hd' hscope n' hle hcov k e he
    obtain ⟨i, hi, hres⟩ := desired_asked hc hd'
    have hno := hdead i d' n' hi hres hscope hle hcov
    obtain ⟨vni, hvni, r, hr, cidr, hcidr, rfl⟩ := hres
    subst hscope
    exact noHop_unusable rfl hzero hno he
  rcases hgov with hblocked | ⟨d, hd, hv, hcov⟩
  · exact fromPod_blackholed (d := ⟨v, "", [], none, none, true⟩) hpub (h.scope.lt) h.leaves
      (.inl hblocked) hunusable f
  · exact fromPod_blackholed hpub (h.scope.lt) h.leaves (.inr ⟨hd, hv, hcov⟩) hunusable f

/-- **ACCEPTED VPN PREFIXES DO NOT FALL BACK.** A run that has protected its intent publishes the
    accepted pairs and no others, any other leaves the published ones, or publishes none where the
    gateway's only VPC is not to be served; and where it has synced, a packet to a published pair never
    passes the route stage. -/
theorem vpn_prefix_holds (C : Config) (A : Answers) (gw : Gateway) (hlive : gw.deleting = false) :
    (.intent ∈ reconcile C A gw → ∃ conns, acceptedConnections C A gw = some conns ∧
      ∀ st, .status st ∈ reconcile C A gw → pairs gw.vpcRef st.routes = acceptedPairs gw conns) ∧
    (.intent ∉ reconcile C A gw → ∀ st, .status st ∈ reconcile C A gw →
      pairs gw.vpcRef st.routes = pairs gw.vpcRef gw.status.routes ∨
        (st.routes = [] ∧ gw.additional = [] ∧ (gw.vpcRef = "" ∨ A.vpc gw.vpcRef = .notFound ∨
          ∃ deleting cidrs, A.vpc gw.vpcRef = .found deleting cidrs ∧
            ¬(deleting = false ∧ validVPCCIDRs C cidrs = true)))) ∧
    ∀ X S o self s m ns name st pair pfx skb p u v,
      Meets X S o self s m (listed ns name gw st) pair pfx skb p u v → ∀ f env,
        (fromPod (routeMaps m s) f env skb = shotOut f (Skb.clearMarks skb) ∨
          routeStage (routeMaps m s) f (Skb.clearMarks skb) p v =
            .done (fromPod (routeMaps m s) f env skb)) ∧
        (localOf m v 0#128 = none → Blackholed X S self m pfx p v →
          (fromPod (routeMaps m s) f env skb).act = .shot ∧
            (fromPod (routeMaps m s) f env skb).flows = f ∧
            (cozyplaneFromPod (routeMaps m s) f env skb).act = .shot) := by
  refine ⟨reconcile_protected C hlive, fun hno st hst => ?_, ?_⟩
  · exact reconcile_retains C hlive hno hst
  · intro X S o self s m ns name st pair pfx skb p u v h f env
    refine ⟨h.routed f env, fun hzero hdead => ?_⟩
    have hdrop := h.dropped hzero hdead
    refine ⟨(hdrop f env).1, (hdrop f env).2, ?_⟩
    exact cozyplaneFromPod_shot h.leaves fun f' => (hdrop f' env).1

-- ── one branch office

/-- The VPC's network, and the one behind the tunnel. -/
def officeNet (cidr : String) : Option IPNet :=
  if cidr = "10.1.0.0/24" then some (.mask4 0x0a010000#32 24)
  else if cidr = "10.9.0.0/16" then some (.mask4 0x0a090000#32 16)
  else none

def officeConfig : Config := ⟨true, 8, [], officeNet, fun _ => ""⟩

def officeText : Texts := ⟨⟨officeNet, fun _ => ""⟩, fun _ => none, fun _ => none⟩

/-- The published route, without next hop. -/
def officeRoute : RouteStatus := ⟨"a", ["10.9.0.0/16"], "", []⟩

/-- A gateway of VPC `a` with the route in its status. -/
def officeGateway : Gateway :=
  ⟨"a", [], false, none, false, false, false, 1, pendingStatus [officeRoute]⟩

/-- A run whose key pair cannot be read; `vpc` is what the cluster says about VPC `a`. -/
def officeAnswers (vpc : VPCAnswer) : Answers where
  inputProblem := none
  vpc _ := vpc
  connections := some [⟨"office", true, none, none, ["10.9.0.0/16"]⟩]
  gatewayQuota := some none
  referenceProblem _ := none
  clientPoolsValid := true
  gatewayFinalizer := true
  allocated := none
  clientFinalizers := true
  keypairs := none
  buildConfig := true
  configSecret := true
  clientApplied := true
  ipsecApplied := true
  bindings := true
  workload := true
  accessGroup := true
  appliances := []
  endpoints := some []
  pruned := true
  legPorts _ := []
  persisted := true
  tornDown := true
  invalidated := true
  protectUpdate := .accepted
  unreadyUpdate := .accepted
  finalUpdate := .accepted

theorem noGateway_distinct : (([] : List VPCGateway).map fun g => (g.ns, g.name)).Nodup :=
  List.nodup_nil

/-- The snapshot of the agents: VPC `a` has VNI 5, the Port of the appliance is not there. -/
def officeSnapshot : Snapshot where
  vpcs ref := if ref = ⟨"t", "a"⟩ then some ⟨false, 5⟩ else none
  ports _ := none
  gateways := []
  vpns := [listed "t" "office" officeGateway officeGateway.status]
  gateways_distinct := noGateway_distinct
  vpns_distinct := List.nodup_singleton _

/-- The pod 10.1.0.7 of VPC 5 on veth 7. -/
def officeMaps : Maps := { Maps.empty with
  ports := fun i => if i = 7#32 then some 5#32 else none
  locals := fun k => if k = ⟨5#32, v4To128 0x0a010007#32⟩ then some ⟨7#32, 1#256⟩ else none
  lbProg := fun _ => true }

/-- A UDP datagram of the pod to 10.9.0.1. -/
def toOffice : Skb :=
  ⟨.ip4 ⟨4#4, 5#4, 0#16, ipprotoUdp, 0x0a010007#32, 0x0a090001#32⟩
    [0x30#8, 0x39#8, 0x1f#8, 0x90#8, 0#8, 8#8, 0#8, 0#8], 0#32, 7#32, 7#32, none, none⟩

def toOfficePkt : Pkt := ⟨false, ipprotoUdp, v4To128 0x0a010007#32, v4To128 0x0a090001#32⟩

theorem office_blackholed : Blackholed officeText officeSnapshot "n1" officeMaps
    (.mask4 0x0a090000#32 16) toOfficePkt 5#32 := by
  intro i d n _ hres _ _ _
  obtain ⟨vni, -, r, -, cidr, -, rfl⟩ := hres
  refine .inl (List.filterMap_eq_nil_iff.mpr fun name _ => ?_)
  rfl

theorem toOffice_leaves (s : Routes) :
    LeavesVpc (routeMaps officeMaps s) toOffice toOfficePkt 5#32 5#32 where
  veth := ⟨rfl, by decide, by decide, by decide, show (7#32 : U32) ≠ 0#32 by decide⟩
  net := by decide
  parses := rfl
  offVpc := rfl
  unsteered := rfl
  unscoped := rfl

theorem office_meets : ∃ s, Meets officeText officeSnapshot .asListed "n1" s officeMaps
    (listed "t" "office" officeGateway officeGateway.status) ("a", "10.9.0.0/16")
    (.mask4 0x0a090000#32 16) toOffice toOfficePkt 5#32 5#32 := by
  obtain ⟨c, hc⟩ : ∃ c, compileRoutes officeText officeSnapshot .asListed "n1" = .ok c := ⟨_, rfl⟩
  obtain ⟨want, hwant⟩ : ∃ want, routeRows officeText.toTexts c.desired = .ok want := by
    cases hc
    exact ⟨_, rfl⟩
  obtain ⟨cells, hcells⟩ : ∃ cells, scopeCells c.blocked = .ok cells := by
    cases hc
    exact ⟨_, rfl⟩
  obtain ⟨ws, hws⟩ := sync_succeeds officeText.toTexts hwant hcells loadedWorld.routes
  have htracked := (loaded_inv officeText.toTexts (w := loadedWorld) ⟨rfl, rfl, rfl, rfl⟩).tracked
  refine ⟨_, ⟨c, hc, sync_published officeText.toTexts htracked hws⟩, List.mem_singleton.mpr rfl, rfl,
    by decide, by decide, ⟨5, rfl, by decide, rfl⟩, rfl, by decide, toOffice_leaves _⟩

theorem vpn_prefix_holds_office :
    .intent ∈ reconcile officeConfig (officeAnswers (.found false ["10.1.0.0/24"])) officeGateway ∧
    (∃ conns, ∀ st, .status st ∈
        reconcile officeConfig (officeAnswers (.found false ["10.1.0.0/24"])) officeGateway →
      pairs "a" st.routes = acceptedPairs officeGateway conns) ∧
    ∃ s, (cozyplaneFromPod (routeMaps officeMaps s) Flows.empty ⟨0#64, 0#32, true, true⟩
      toOffice).act = .shot := by
  obtain ⟨hprotected, -, hdrop⟩ := vpn_prefix_holds officeConfig
    (officeAnswers (.found false ["10.1.0.0/24"])) officeGateway rfl
  have hintent : .intent ∈
      reconcile officeConfig (officeAnswers (.found false ["10.1.0.0/24"])) officeGateway := by decide
  obtain ⟨conns, -, hall⟩ := hprotected hintent
  obtain ⟨s, hs⟩ := office_meets
  obtain ⟨-, hshot⟩ := hdrop _ _ _ _ s _ _ _ _ _ _ _ _ _ _ hs Flows.empty ⟨0#64, 0#32, true, true⟩
  exact ⟨hintent, ⟨conns, hall⟩, s, (hshot rfl office_blackholed).2.2⟩

/-- **A VPC ON ITS WAY OUT TAKES THE PREFIXES WITH IT**: its pods are still there, and the run
    publishes a status without the pair. -/
theorem terminatingVpc_unpublishes :
    officeGateway.deleting = false ∧ (officeAnswers (.found true ["10.1.0.0/24"])).vpc "a" =
      .found true ["10.1.0.0/24"] ∧
    .intent ∉ reconcile officeConfig (officeAnswers (.found true ["10.1.0.0/24"])) officeGateway ∧
    pairs "a" officeGateway.status.routes = [("a", "10.9.0.0/16")] ∧
    ∃ st, .status st ∈
        reconcile officeConfig (officeAnswers (.found true ["10.1.0.0/24"])) officeGateway ∧
      pairs "a" st.routes = [] := by
  refine ⟨rfl, rfl, by decide, by decide, _, List.mem_singleton.mpr rfl, by decide⟩

end CozyVpnBlackhole
