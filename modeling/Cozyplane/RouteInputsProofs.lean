import Cozyplane.RouteCompileProofs

/-!
# Route inputs — what a snapshot asks for, in whatever order it is listed

An agent meets its gateways in the order its informer lists them and ranges over Go maps between
them. `Asked` says what a namespace asks for without any order.
-/

namespace CozyRouteInputs

open CozyPacket CozyRouteCompile
open CozyRoutes hiding Texts
open CozyBoundaryCompile (VPCRef)

-- ── what is asked

variable {X : Texts} {S : Snapshot} {o : Orders} {self : String} {c : Compiled} {ns : String}

/-- What one VPN gateway that counts offers. -/
def vpnOffers (S : Snapshot) (o : Orders) (gw : VPNGateway) : List RouteInput :=
  if gw.deleting = true ∨ badGateway S gw = true then []
  else (o.byVPC gw gw.routeVPCs).map fun name => ⟨⟨gw.ns, name⟩, gw.routesFor name, true⟩

def offered (S : Snapshot) (o : Orders) : List RouteInput :=
  (o.refs (candidateRefs S)).flatMap (fun ref => (gatewayInput S ref).toList) ++
    S.vpns.flatMap (vpnOffers S o)

/-- The namespace has something to add. -/
def wants (S : Snapshot) (ns : String) (i : RouteInput) : Prop :=
  i.ref.ns = ns ∧ scopeOf S i.ref ≠ none ∧ i.routes ≠ []

instance (S : Snapshot) (ns : String) : DecidablePred (wants S ns) :=
  fun _ => inferInstanceAs (Decidable (_ ∧ _))

theorem own_filter (i : RouteInput) : own S ns i = [i].filter (wants S ns) := by
  show (if wants S ns i then [i] else []) = _
  split
  · rename_i h
    rw [List.filter_cons_of_pos (by simpa using h), List.filter_nil]
  · rename_i h
    rw [List.filter_cons_of_neg (by simpa using h), List.filter_nil]

/-- **ONE LIST FOR ALL**: the inputs of a namespace are its share of what is offered. -/
theorem inputsOf_filter (S : Snapshot) (o : Orders) (ns : String) :
    inputsOf S o ns = (offered S o).filter (wants S ns) := by
  have hgateways : gatewayInputs S ns = fun ref => (gatewayInput S ref).toList.filter (wants S ns) := by
    funext ref
    unfold gatewayInputs
    cases gatewayInput S ref with
    | none => rfl
    | some i => exact own_filter i
  have hvpns : vpnInputs S o ns = fun gw => (vpnOffers S o gw).filter (wants S ns) := by
    funext gw
    unfold vpnInputs vpnOffers
    split
    · rfl
    · rw [List.map_eq_flatMap, List.filter_flatMap]
      refine List.flatMap_congr fun name _ => ?_
      exact own_filter _
  unfold inputsOf offered
  rw [List.filter_append, List.filter_flatMap, List.filter_flatMap, hgateways, hvpns]

variable {gw : VPNGateway}

theorem mem_routeVPCs {name : String} :
    name ∈ gw.routeVPCs ↔ gw.routesFor name ≠ [] := by
  unfold VPNGateway.routeVPCs VPNGateway.routesFor
  rw [List.mem_dedup, List.mem_map, ne_eq, List.filter_eq_nil_iff, not_forall]
  constructor
  · rintro ⟨r, hr, heq⟩
    exact ⟨r, fun h => h hr (decide_eq_true heq)⟩
  · rintro ⟨r, hr⟩
    rw [Classical.not_imp, not_not] at hr
    exact ⟨r, hr.1, of_decide_eq_true hr.2⟩

variable {i : RouteInput}

/-- An input of some gateway. -/
inductive Asked (S : Snapshot) : RouteInput → Prop where
  | gateway (ref : VPCRef) (i : RouteInput) : gatewayInput S ref = some i → Asked S i
  | vpn (gw : VPNGateway) (name : String) : gw ∈ S.vpns → gw.deleting = false →
      Asked S ⟨⟨gw.ns, name⟩, gw.routesFor name, true⟩

theorem mem_vpnOffers :
    i ∈ vpnOffers S o gw ↔ gw.deleting = false ∧ badGateway S gw = false ∧
      ∃ name ∈ gw.routeVPCs, i = ⟨⟨gw.ns, name⟩, gw.routesFor name, true⟩ := by
  unfold vpnOffers
  split
  · rename_i hskip
    refine iff_of_false (nomatch ·) fun hc => ?_
    rw [hc.1, hc.2.1] at hskip
    rcases hskip with hno | hno <;> nomatch hno
  · rename_i hskip
    rw [List.mem_map]
    rw [not_or, Bool.not_eq_true, Bool.not_eq_true] at hskip
    constructor
    · rintro ⟨name, hname, rfl⟩
      exact ⟨hskip.1, hskip.2, name, (o.byVPC_perm gw _).mem_iff.mp hname, rfl⟩
    · rintro ⟨-, -, name, hname, rfl⟩
      exact ⟨name, (o.byVPC_perm gw _).mem_iff.mpr hname, rfl⟩

theorem offered_asked (h : i ∈ offered S o) : Asked S i := by
  rcases List.mem_append.mp h with h | h
  · obtain ⟨ref, -, hi⟩ := List.mem_flatMap.mp h
    exact .gateway ref i (Option.mem_toList.mp hi)
  · obtain ⟨gw, hgw, hi⟩ := List.mem_flatMap.mp h
    obtain ⟨hlive, -, name, -, rfl⟩ := mem_vpnOffers.mp hi
    exact .vpn gw name hgw hlive

theorem inputsOf_asked (h : i ∈ inputsOf S o ns) : Asked S i ∧ wants S ns i := by
  rw [inputsOf_filter] at h
  obtain ⟨hoff, hwants⟩ := List.mem_filter.mp h
  exact ⟨offered_asked hoff, of_decide_eq_true hwants⟩

theorem vpn_mem_inputsOf (hgw : gw ∈ S.vpns) (hlive : gw.deleting = false)
    (hgood : badGateway S gw = false) {name : String}
    (hwants : wants S ns ⟨⟨gw.ns, name⟩, gw.routesFor name, true⟩) :
    (⟨⟨gw.ns, name⟩, gw.routesFor name, true⟩ : RouteInput) ∈ inputsOf S o ns := by
  rw [inputsOf_filter]
  refine List.mem_filter.mpr ⟨List.mem_append_right _ (List.mem_flatMap.mpr ⟨gw, hgw, ?_⟩),
    decide_eq_true hwants⟩
  exact mem_vpnOffers.mpr ⟨hlive, hgood, name, mem_routeVPCs.mpr hwants.2.2, rfl⟩

theorem desired_asked (hc : compileRoutes X S o self = .ok c) {d : DesiredRoute}
    (hd : d ∈ c.desired) : ∃ i, Asked S i ∧ Resolves X S self i d := by
  obtain ⟨s, hs, hdesired, -⟩ := compile_spec X S hc
  obtain ⟨ns, g, hg, hgranted, i, hi, hres⟩ := (hdesired d).mp hd
  rw [(granted_inputs X S hs hg hgranted).1] at hi
  exact ⟨i, (inputsOf_asked hi).1, hres⟩

end CozyRouteInputs
