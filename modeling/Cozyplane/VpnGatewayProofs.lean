import Cozyplane.RouteCompileProofs

/-!
# The VPNGateway reconciler — which prefixes a run publishes

`Reconcile` realizes a VPNGateway: it resolves the VPCs it serves and the connections it
terminates, filters their remote prefixes, and publishes one route per VPC and connection in the
gateway's status. Every call to the cluster may fail, and most failures end the run with a status
that says so. The agents route by that status alone: a prefix that leaves it is a prefix that goes
out in the clear.

The result of a run is what it did to the gateway's status, in order.
-/

namespace CozyVpnGateway

open CozyCidr
open CozyRouteCompile (RouteStatus)

/-- `VPNGatewayPhase`. -/
inductive Phase where
  | unset
  | pending
  | ready
  deriving DecidableEq

/-- The conditions. -/
inductive ConditionType where
  | applianceReady
  | addressAssigned
  | routesProgrammed
  | remoteCIDRsAccepted
  deriving DecidableEq

/-- `metav1.Condition`. -/
structure Condition where
  type : ConditionType
  ok : Bool
  reason : String
  message : String
  generation : Int
  deriving DecidableEq

/-- `VPNGatewayStatus`. -/
structure Status where
  address : String
  addresses : List String
  publicKey : String
  publicKeys : List String
  appliancePort : String
  appliancePorts : List String
  routes : List RouteStatus
  phase : Phase
  conditions : List Condition
  deriving DecidableEq

/-- A pool of the spec. -/
structure AddressPool where
  name : String
  cidr : String
  deriving DecidableEq

/-- The fields of a VPNGateway the reconciler reads; `ipsec` holds the pools of an IPsec gateway. -/
structure Gateway where
  vpcRef : String
  additional : List String
  deleting : Bool
  ipsec : Option (List AddressPool)
  clientPools : Bool
  activeActive : Bool
  finalizer : Bool
  generation : Int
  status : Status
  deriving DecidableEq

/-- The fields of a VPNConnection that decide its routes; `ipsec` names the address pool (empty for
    none). -/
structure VPNConnection where
  name : String
  wireGuard : Bool
  client : Option (List String)
  ipsec : Option String
  remoteCIDRs : List String
  deriving DecidableEq

/-- What the cluster says about a VPC. -/
inductive VPCAnswer where
  | found (deleting : Bool) (cidrs : List String)
  | notFound
  | failed
  deriving DecidableEq

/-- `Status().Update`. It is accepted only while the object is the one that was read; otherwise
    it is a conflict. -/
inductive Update where
  | accepted
  | conflict
  | failed
  deriving DecidableEq

/-- What the cluster answers during one run; a call that returns more than its success has its
    result, or `none` where it failed. -/
structure Answers where
  inputProblem : Option String
  vpc : String → VPCAnswer
  connections : Option (List VPNConnection)
  gatewayQuota : Option (Option String)
  referenceProblem : VPNConnection → Option String
  clientPoolsValid : Bool
  gatewayFinalizer : Bool
  allocated : Option (List (List String))
  clientFinalizers : Bool
  keypairs : Option (List String)
  buildConfig : Bool
  configSecret : Bool
  clientApplied : Bool
  ipsecApplied : Bool
  bindings : Bool
  workload : Bool
  accessGroup : Bool
  appliances : List String
  endpoints : Option (List String)
  pruned : Bool
  legPorts : String → List String
  persisted : Bool
  tornDown : Bool
  invalidated : Bool
  protectUpdate : Update
  unreadyUpdate : Update
  finalUpdate : Update

/-- The configuration, and `net.ParseCIDR` and `IPNet.String`. -/
structure Config where
  image : Bool
  maxConnections : Nat
  internalCIDRs : List IPNet
  parseCIDR : String → Option IPNet
  netString : IPNet → String

/-- What a run does to the gateway: `protectRouteIntent` returned without error; a status was
    written. -/
inductive Event where
  | intent
  | status (s : Status)
  deriving DecidableEq

/-- `vpnlimits.RoutePrefixes`. -/
def routePrefixes : Nat := 4096

/-- `meta.SetStatusCondition`. -/
def Status.setCondition (s : Status) (type : ConditionType) (ok : Bool) (reason message : String) :
    Status :=
  let c : Condition := ⟨type, ok, reason, message, 0⟩
  if s.conditions.any fun d => d.type = type then
    { s with conditions := s.conditions.map fun d => if d.type = type then c else d }
  else { s with conditions := s.conditions ++ [c] }

@[simp] theorem setCondition_routes (s : Status) (type : ConditionType) (ok : Bool)
    (reason message : String) : (s.setCondition type ok reason message).routes = s.routes := by
  unfold Status.setCondition
  split <;> rfl

def Status.observed (s : Status) (generation : Int) : Status :=
  { s with conditions := s.conditions.map fun c => { c with generation } }

/-- A status with routes and nothing else yet. -/
def pendingStatus (routes : List RouteStatus) : Status := ⟨"", [], "", [], "", [], routes, .pending, []⟩

/-- `routeStatusEqual`: next hop and prefixes. -/
def routeStatusEqual (a b : List RouteStatus) : Bool :=
  a.map (fun r => (r.port, r.cidrs)) == b.map fun r => (r.port, r.cidrs)

/-- `vpnGWStatusEqual`. -/
def statusEqual (a b : Status) : Bool :=
  a.phase == b.phase && a.address == b.address && a.publicKey == b.publicKey &&
    a.appliancePort == b.appliancePort && a.addresses == b.addresses &&
    a.publicKeys == b.publicKeys && a.appliancePorts == b.appliancePorts &&
    a.conditions.length == b.conditions.length && routeStatusEqual a.routes b.routes &&
    a.conditions.all fun c => b.conditions.find? (fun d => d.type = c.type) == some c

def writeStatus (update : Update) (gw : Gateway) (s : Status) : List Event :=
  if statusEqual gw.status (s.observed gw.generation) then []
  else
    match update with
    | .accepted => [.status (s.observed gw.generation)]
    | _ => []

/-- The checks of `blackholeVPNRoutes`, with the prefixes counted so far. -/
def retainable : List RouteStatus → Nat → Except String Unit
  | [], _ => .ok ()
  | r :: rs, n =>
    if routePrefixes - n < r.cidrs.length then
      .error ("retained VPN prefixes exceed " ++ toString routePrefixes)
    else if r.cidrs.any fun c => decide (64 < c.utf8ByteSize) then
      .error "retained VPN prefix exceeds 64 bytes"
    else retainable rs (n + r.cidrs.length)

def blackhole (r : RouteStatus) : RouteStatus := ⟨r.vpcRef, r.cidrs, "", []⟩

def blackholeVPNRoutes (routes : List RouteStatus) : Except String (List RouteStatus) :=
  if routePrefixes < routes.length then
    .error ("retained VPN route rows exceed " ++ toString routePrefixes)
  else
    match retainable routes 0 with
    | .error e => .error e
    | .ok () => .ok ((routes.filter fun r => r.cidrs ≠ []).map blackhole)

/-- Why a gateway is not ready. -/
inductive Reason where
  | gatewayTerminating
  | inputLimitExceeded
  | vpcUnresolved
  | vpcCIDRsOverlap
  | quotaExceeded
  | addressPoolInvalid
  | configurationFailed
  deriving DecidableEq

def Reason.text : Reason → String
  | .gatewayTerminating => "GatewayTerminating"
  | .inputLimitExceeded => "InputLimitExceeded"
  | .vpcUnresolved => "VPCUnresolved"
  | .vpcCIDRsOverlap => "VPCCIDRsOverlap"
  | .quotaExceeded => "QuotaExceeded"
  | .addressPoolInvalid => "AddressPoolInvalid"
  | .configurationFailed => "ConfigurationFailed"

/-- The routes `reportUnready` keeps, without their next hops. -/
def retainedRoutes (gw : Gateway) (reason : Reason) : Except String (List RouteStatus) :=
  if reason ≠ .gatewayTerminating ∧ (reason ≠ .vpcUnresolved ∨ gw.additional ≠ []) then
    blackholeVPNRoutes gw.status.routes
  else .ok []

def reportUnready (A : Answers) (gw : Gateway) (reason : Reason) (msg : String) : List Event :=
  if (gw.clientPools || gw.finalizer) && !A.persisted then []
  else if !A.tornDown || !A.invalidated then []
  else
    match retainedRoutes gw reason with
    | .error _ => []
    | .ok routes =>
      writeStatus A.unreadyUpdate gw
        ((((pendingStatus routes).setCondition .applianceReady false reason.text msg).setCondition
          .addressAssigned false reason.text msg).setCondition .routesProgrammed false reason.text msg)

def configurationFailure (A : Answers) (gw : Gateway) : List Event :=
  reportUnready A gw .configurationFailed
    "appliance configuration failed; accepted prefixes remain blocked"

variable (C : Config)

/-- `ValidateVPCCIDRs`. -/
def validVPCCIDRs (cidrs : List String) : Bool :=
  decide (cidrs.length ≤ 1024) &&
    cidrs.all fun c => decide (c.utf8ByteSize ≤ 64) && (C.parseCIDR c).isSome

/-- A VPC that resolves. -/
structure ServedVPC where
  name : String
  cidrs : List String
  deriving DecidableEq

/-- What `servedVPCs` returns. -/
inductive Served where
  | all (vpcs : List ServedVPC)
  | missing (what : String)
  | failed
  deriving DecidableEq

/-- The VPC of a reference, if it resolves: it is there, stays, and its CIDRs are valid. -/
def resolveVPC (A : Answers) (name : String) : Option ServedVPC :=
  if name = "" then none
  else
    match A.vpc name with
    | .found deleting cidrs =>
      if deleting = false ∧ validVPCCIDRs C cidrs = true then some ⟨name, cidrs⟩ else none
    | _ => none

/-- The loop of `servedVPCs` over the fields and names. -/
def resolveRefs (A : Answers) : List (String × String) → List ServedVPC → Served
  | [], vpcs => .all vpcs
  | (field, name) :: refs, vpcs =>
    match resolveVPC C A name with
    | some v => resolveRefs A refs (vpcs ++ [v])
    | none =>
      if name ≠ "" ∧ A.vpc name = .failed then .failed
      else .missing (field ++ " \"" ++ name ++ "\"")

/-- The VPCs a gateway names, the primary one first. -/
def Gateway.refs (gw : Gateway) : List String := gw.vpcRef :: gw.additional

def servedVPCs (A : Answers) (gw : Gateway) : Served :=
  resolveRefs C A (("spec.vpcRef", gw.vpcRef) ::
    gw.additional.zipIdx.map fun a => ("spec.additionalVPCRefs[" ++ toString a.2 ++ "]", a.1)) []

/-- `cidrsOverlap`. -/
def netsOverlap (a b : IPNet) : Bool :=
  a.contains (normalizedCIDR b).addr || b.contains (normalizedCIDR a).addr

/-- `servedVPCCIDRs`: the CIDRs seen so far with their owners. -/
def servedNets : List (String × String) → List (String × IPNet) → Except String (List IPNet)
  | [], all => .ok (all.map Prod.snd)
  | (vpc, cidr) :: rest, all =>
    match C.parseCIDR cidr with
    | none => servedNets rest all
    | some n =>
      match all.find? fun o => o.1 ≠ vpc ∧ netsOverlap o.2 n = true with
      | some o => .error ("served VPCs \"" ++ o.1 ++ "\" (" ++ C.netString o.2 ++ ") and \"" ++ vpc ++
          "\" (" ++ C.netString n ++ ") have overlapping CIDRs")
      | none => servedNets rest (all ++ [(vpc, n)])

def servedVPCCIDRs (vpcs : List ServedVPC) : Except String (List IPNet) :=
  servedNets C (vpcs.flatMap fun v => v.cidrs.map fun c => (v.name, c)) []

/-- `vpnRouteInputProblem`, with the prefixes counted so far. -/
def routeInputProblem : List VPNConnection → Nat → Option String
  | [], _ => none
  | c :: cs, n =>
    if routePrefixes - n < c.remoteCIDRs.length then some "VPN route prefix candidates exceed 4096"
    else routeInputProblem cs (n + c.remoteCIDRs.length)

def vpnRouteInputProblem (conns : List VPNConnection) : Option String := routeInputProblem conns 0

def overQuota (A : Answers) (conns : List VPNConnection) : Option (Option String) :=
  if C.maxConnections < conns.length then
    some (some ("gateway has at least " ++ toString conns.length ++
      " connections, over the per-gateway limit of " ++ toString C.maxConnections))
  else A.gatewayQuota

def clientAllowsVPC (c : VPNConnection) (name : String) : Bool :=
  match c.client with
  | none => true
  | some refs => refs.contains name

def connectionsForVPC (conns : List VPNConnection) (name : String) : List VPNConnection :=
  conns.filter fun c => clientAllowsVPC c name

/-- `vpnlimits.IPsecPoolNameProblem`. -/
def ipsecPoolNameProblem (name : String) (required : Bool) : Option String :=
  if required = true ∧ name = "" then some "IPsec pool name must not be empty"
  else if 255 < name.utf8ByteSize then some "IPsec pool name must contain at most 255 bytes"
  else none

/-- One connection of `applyIPsecAddressPools`; the last pool of a name counts. -/
def withPool (pools : List AddressPool) (c : VPNConnection) : Except String VPNConnection :=
  match c.ipsec with
  | none => .ok c
  | some pool =>
    if pool = "" then .ok c
    else
      match ipsecPoolNameProblem pool false with
      | some problem => .error problem
      | none =>
        match pools.reverse.find? fun p => p.name = pool with
        | none => .error ("VPNConnection \"" ++ c.name ++ "\" selects an unknown IPsec address pool")
        | some p =>
          .ok (if c.remoteCIDRs.contains p.cidr then c
            else { c with remoteCIDRs := c.remoteCIDRs ++ [p.cidr] })

def applyIPsecAddressPools (gw : Gateway) (conns : List VPNConnection) :
    Except String (List VPNConnection) :=
  match gw.ipsec with
  | none => .ok conns
  | some pools =>
    match pools.findSome? fun p => ipsecPoolNameProblem p.name true with
    | some problem => .error problem
    | none => conns.mapM (withPool pools)

/-- Loopback, link-local, CGNAT and multicast, of both families. -/
def reservedCIDRs : List IPNet :=
  [.mask4 0x7f000000#32 8, .mask4 0xa9fe0000#32 16, .mask4 0x64400000#32 10, .mask4 0xe0000000#32 4,
    .mask16 1#128 128, .mask16 0xfe800000000000000000000000000000#128 10,
    .mask16 0xff000000000000000000000000000000#128 8]

def forbiddenRemoteCIDR (served : List IPNet) (cidr : String) : Option String :=
  match C.parseCIDR cidr with
  | none => some "not a CIDR"
  | some n =>
    if reservedCIDRs.any (netsOverlap n) then some "reserved"
    else if C.internalCIDRs.any (netsOverlap n) then some "cluster-internal"
    else if served.any (netsOverlap n) then some "served VPC"
    else none

/-- The prefixes of a connection that `filterForbiddenCIDRs` lets through. -/
def allowedCIDRs (served : List IPNet) (c : VPNConnection) : VPNConnection :=
  { c with remoteCIDRs := c.remoteCIDRs.filter fun x => (forbiddenRemoteCIDR C served x).isNone }

/-- The prefixes it refuses, with the reasons. -/
def rejectedCIDRs (served : List IPNet) (conns : List VPNConnection) : List String :=
  let rejected := conns.flatMap fun c => c.remoteCIDRs.filterMap fun x =>
    (forbiddenRemoteCIDR C served x).map fun why => (x.take 64).toString ++ " (" ++ why ++ ")"
  if rejected.length ≤ 32 then rejected
  else rejected.take 32 ++ [toString (rejected.length - 32) ++ " additional rejected CIDRs omitted"]

/-- `unionRemoteCIDRs`, as a set. -/
def unionRemoteCIDRs (conns : List VPNConnection) : List String :=
  (conns.flatMap fun c => c.remoteCIDRs).dedup

/-- What the first half of a run leaves to the second. -/
structure Prepared where
  gw : Gateway
  vpcs : List ServedVPC
  conns : List VPNConnection
  rejected : List String

/-- The WireGuard client steps: pools, finalizers, addresses. `none` is a failure. -/
def clientConnections (A : Answers) (conns : List VPNConnection) : Option (List VPNConnection) :=
  if !A.clientPoolsValid || !A.gatewayFinalizer then none
  else
    match A.allocated with
    | none => none
    | some cidrs =>
      if A.clientFinalizers then
        some ((conns.zip cidrs).map fun p => { p.1 with remoteCIDRs := p.2 })
      else none

/-- The connections as the backend of the gateway takes them; `none` is a configuration
    failure. -/
def backendConnections (A : Answers) (gw : Gateway) (conns : List VPNConnection) :
    Option (List VPNConnection) :=
  if gw.ipsec.isSome ∧ conns.any (fun c => c.ipsec.isNone || c.wireGuard) = true then none
  else if gw.clientPools then clientConnections A conns
  else if conns.any fun c => c.wireGuard && c.client.isSome then none
  else some conns

/-- A client gateway holds its finalizer once its connections are there. -/
def Gateway.withFinalizer (gw : Gateway) : Gateway :=
  { gw with finalizer := gw.finalizer || gw.clientPools }

def acceptConnections (A : Answers) (gw : Gateway) (vpcs : List ServedVPC) (served : List IPNet)
    (conns : List VPNConnection) : Except (List Event) Prepared :=
  match applyIPsecAddressPools gw conns with
  | .error e => .error (reportUnready A gw .addressPoolInvalid e)
  | .ok conns =>
    match vpnRouteInputProblem conns with
    | some problem => .error (reportUnready A gw .inputLimitExceeded problem)
    | none =>
      let accepted := conns.map (allowedCIDRs C served)
      if routePrefixes / vpcs.length < (unionRemoteCIDRs accepted).length then
        .error (reportUnready A gw .inputLimitExceeded
          "hub route prefixes exceed the combined VPC budget")
      else .ok ⟨gw, vpcs, accepted, rejectedCIDRs C served conns⟩

/-- The connections of a gateway with resolved VPCs. -/
def prepareConnections (A : Answers) (gw : Gateway) (vpcs : List ServedVPC) (served : List IPNet) :
    Except (List Event) Prepared :=
  match A.connections with
  | none => .error []
  | some conns =>
    match overQuota C A conns with
    | none => .error []
    | some (some reason) => .error (reportUnready A gw .quotaExceeded reason)
    | some none =>
      match vpnRouteInputProblem conns with
      | some problem => .error (reportUnready A gw .inputLimitExceeded problem)
      | none =>
        match conns.findSome? A.referenceProblem with
        | some problem => .error (reportUnready A gw .inputLimitExceeded problem)
        | none =>
          match backendConnections A gw conns with
          | none => .error (configurationFailure A gw)
          | some conns => acceptConnections C A gw.withFinalizer vpcs served conns

/-- The first half of `Reconcile`: an error is the end of the run. -/
def prepare (A : Answers) (gw : Gateway) : Except (List Event) Prepared :=
  if !C.image then .error []
  else if gw.deleting then
    .error (if gw.finalizer then []
      else reportUnready A gw .gatewayTerminating "VPNGateway is being deleted")
  else
    match A.inputProblem with
    | some problem => .error (reportUnready A gw .inputLimitExceeded problem)
    | none =>
      match servedVPCs C A gw with
      | .failed => .error []
      | .missing what =>
        .error (reportUnready A gw .vpcUnresolved (what ++ " names no VPC in this namespace"))
      | .all vpcs =>
        match servedVPCCIDRs C vpcs with
        | .error overlap => .error (reportUnready A gw .vpcCIDRsOverlap overlap)
        | .ok served => prepareConnections C A gw vpcs served

/-- The routes to protect: VPCs and their prefixes. -/
def intentOf (gw : Gateway) (conns : List VPNConnection) : List (String × List String) :=
  gw.refs.flatMap fun ref =>
    ((connectionsForVPC conns ref).filter fun c => c.remoteCIDRs ≠ []).map fun c =>
      (ref, c.remoteCIDRs)

/-- A status holds these routes already; an empty reference is the primary VPC. -/
def holdsIntent (gw : Gateway) (desired : List (String × List String)) : Bool :=
  gw.status.routes.map (fun r => (if r.vpcRef = "" then gw.vpcRef else r.vpcRef, r.cidrs)) == desired

/-- The prefix count of `protectRouteIntent`. -/
def intentFits (budget : Nat) : List VPNConnection → Nat → Bool
  | [], _ => true
  | c :: cs, n =>
    if budget - n < c.remoteCIDRs.length then false else intentFits budget cs (n + c.remoteCIDRs.length)

def pendingMessage : String := "accepted prefixes are blocked until appliance configuration succeeds"

/-- `protectRouteIntent`: what it wrote and the gateway it leaves, or `none` on an error. -/
def protectRouteIntent (A : Answers) (gw : Gateway) (conns : List VPNConnection) :
    Option (List Event × Gateway) :=
  if 9 < gw.additional.length ∨ routePrefixes < conns.length then none
  else if intentFits (routePrefixes / gw.refs.length) conns 0 = false then none
  else if holdsIntent gw (intentOf gw conns) then some ([], gw)
  else
    match blackholeVPNRoutes ((intentOf gw conns).map fun d => ⟨d.1, d.2, "", []⟩) with
    | .error _ => none
    | .ok routes =>
      let s := ((((pendingStatus routes).setCondition .applianceReady false "ConfigurationPending"
        pendingMessage).setCondition .addressAssigned false "ConfigurationPending"
        pendingMessage).setCondition .routesProgrammed false "ConfigurationPending"
        pendingMessage).observed gw.generation
      match A.protectUpdate with
      | .accepted => some ([.status s], { gw with status := s })
      | _ => none

-- ── after the intent

/-- `connectionRoutes`, for one served VPC. -/
def connectionRoutes (vpc : String) (conns : List VPNConnection) (ports : List String) :
    List RouteStatus :=
  (conns.filter fun c => c.remoteCIDRs ≠ []).map fun c => ⟨vpc, c.remoteCIDRs, ports.headD "", ports⟩

def applianceReadyMessage (port : String) : String :=
  if port ≠ "" then "the tunnel appliance holds Port " ++ port ++ " in the VPC"
  else "waiting for the tunnel appliance's Port to appear"

def addressMessage (address : String) : String :=
  if address ≠ "" then "the endpoint address is " ++ address
  else "waiting for the endpoint FloatingIP address"

def routesMessage (ready : Bool) (n : Nat) : String :=
  if ready then toString n ++ " remote-CIDR route(s) programmed toward the appliance"
  else "remote CIDRs not yet routed toward the appliance"

def remoteCIDRsMessage (rejected : List String) : String :=
  if rejected = [] then "every remote CIDR is outside cluster-internal space"
  else "refused remote CIDR(s) overlapping cluster-internal space: " ++ ", ".intercalate rejected

/-- The next hops of the `i`-th served VPC, where they may be used. -/
def legPorts (A : Answers) (want : Nat) (applied : Bool) (appliances : List String) (i : Nat)
    (vpc : String) : List String :=
  let legs := if i = 0 then appliances else A.legPorts vpc
  if legs.length = want ∧ applied = true then legs else []

/-- The routes a run publishes once everything else is done. -/
def realizedRoutes (A : Answers) (p : Prepared) (want : Nat) (applied : Bool)
    (appliances : List String) : List RouteStatus :=
  p.vpcs.zipIdx.flatMap fun v =>
    connectionRoutes v.1.name (connectionsForVPC p.conns v.1.name)
      (legPorts A want applied appliances v.2 v.1.name)

/-- The last status of a run. -/
def realizedStatus (A : Answers) (p : Prepared) (want : Nat) (applied ipsecApplied : Bool)
    (publicKeys addresses : List String) : Status :=
  let appliances := A.appliances.take want
  let routes := realizedRoutes A p want applied appliances
  let allLegs := applied && (p.vpcs.zipIdx.all fun v =>
    (if v.2 = 0 then appliances else A.legPorts v.1.name).length == want)
  let expected := (p.vpcs.map fun v =>
    ((connectionsForVPC p.conns v.name).filter fun c => c.remoteCIDRs ≠ []).length).sum
  let routesReady := allLegs && appliances.length == want && routes.length == expected
  let port := appliances.headD ""
  let address := addresses.headD ""
  let s : Status := { pendingStatus routes with
    address, addresses
    publicKey := publicKeys.headD ""
    publicKeys
    appliancePort := port
    appliancePorts := appliances
    phase := if appliances.length = want ∧ addresses.length = want ∧ ipsecApplied = true then .ready
      else .pending }
  (((s.setCondition .applianceReady (decide (port ≠ "")) "ApplianceReady"
    (applianceReadyMessage port)).setCondition .addressAssigned (decide (address ≠ ""))
    "AddressAssigned" (addressMessage address)).setCondition .routesProgrammed routesReady
    "RoutesProgrammed" (routesMessage routesReady routes.length)).setCondition .remoteCIDRsAccepted
    (decide (p.rejected = []))
    (if p.rejected = [] then "RemoteCIDRsAccepted" else "ForbiddenRemoteCIDR")
    (remoteCIDRsMessage p.rejected)

/-- The second half of `Reconcile`. -/
def realize (A : Answers) (p : Prepared) (gw : Gateway) : List Event :=
  match (if gw.ipsec.isNone then A.keypairs else some []) with
  | none => configurationFailure A gw
  | some publicKeys =>
    if !A.buildConfig || !A.configSecret || !A.bindings || !A.workload then configurationFailure A gw
    else if !A.accessGroup then []
    else
      match A.endpoints with
      | none => []
      | some addresses =>
        if !A.pruned then []
        else
          let clientApplied := !gw.clientPools || A.clientApplied
          let ipsecApplied := gw.ipsec.isNone || A.ipsecApplied
          writeStatus A.finalUpdate gw
            (realizedStatus A p (if gw.activeActive then 2 else 1) (clientApplied && ipsecApplied)
              ipsecApplied publicKeys addresses)

/-- `Reconcile`, as what it does to the status of the gateway. -/
def reconcile (A : Answers) (gw : Gateway) : List Event :=
  match prepare C A gw with
  | .error events => events
  | .ok p =>
    match protectRouteIntent A p.gw p.conns with
    | none => []
    | some (events, gw') => events ++ .intent :: realize A p gw'

def pairs (primary : String) (routes : List RouteStatus) : List (String × String) :=
  routes.flatMap fun r => r.cidrs.map fun c => (if r.vpcRef = "" then primary else r.vpcRef, c)

def acceptedPairs (gw : Gateway) (conns : List VPNConnection) : List (String × String) :=
  gw.refs.flatMap fun ref => (connectionsForVPC conns ref).flatMap fun c =>
    c.remoteCIDRs.map fun x => (ref, x)

def acceptedConnections (A : Answers) (gw : Gateway) : Option (List VPNConnection) :=
  match A.connections, servedVPCs C A gw with
  | some conns, .all vpcs =>
    match servedVPCCIDRs C vpcs, backendConnections A gw conns with
    | .ok served, some conns =>
      match applyIPsecAddressPools gw conns with
      | .ok conns => some (conns.map (allowedCIDRs C served))
      | .error _ => none
    | _, _ => none
  | _, _ => none

theorem flatMap_filter {α β : Type} (keep : α → Bool) (f : α → List β) (xs : List α)
    (h : ∀ x ∈ xs, keep x = false → f x = []) : (xs.filter keep).flatMap f = xs.flatMap f := by
  induction xs with
  | nil => rfl
  | cons x xs ih =>
    have hrest := ih fun y hy => h y (.tail _ hy)
    cases hx : keep x with
    | true => simp [hx, hrest]
    | false => simp [hx, hrest, h x (.head _) hx]

theorem blackhole_pairs {primary : String} {routes out : List RouteStatus}
    (h : blackholeVPNRoutes routes = .ok out) : pairs primary out = pairs primary routes := by
  unfold blackholeVPNRoutes at h
  split at h
  · nomatch h
  split at h
  · nomatch h
  cases h
  show ((routes.filter fun r => r.cidrs ≠ []).map blackhole).flatMap _ = _
  rw [List.flatMap_map]
  exact flatMap_filter _ _ routes fun r _ hr => List.map_eq_nil_iff.mpr (by simpa [blackhole] using hr)

theorem intent_pairs (gw : Gateway) (conns : List VPNConnection) :
    (intentOf gw conns).flatMap (fun d => d.2.map fun c => (d.1, c)) = acceptedPairs gw conns := by
  unfold intentOf acceptedPairs
  rw [List.flatMap_assoc]
  congr 1
  funext ref
  rw [List.flatMap_map]
  exact flatMap_filter _ _ _ fun c _ hc => List.map_eq_nil_iff.mpr (by simpa using hc)

variable {A : Answers} {gw : Gateway} {vpcs : List ServedVPC} {conns : List VPNConnection}

theorem holdsIntent_pairs (h : holdsIntent gw (intentOf gw conns) = true) :
    pairs gw.vpcRef gw.status.routes = acceptedPairs gw conns := by
  have hlist := eq_of_beq h
  rw [← intent_pairs, ← hlist, List.flatMap_map]
  rfl

@[simp] theorem observed_routes (s : Status) (generation : Int) :
    (s.observed generation).routes = s.routes := rfl

variable {events : List Event} {e : Event}

theorem mem_writeStatus {update : Update} {s : Status} (h : e ∈ writeStatus update gw s) :
    e = .status (s.observed gw.generation) := by
  unfold writeStatus at h
  split at h
  · nomatch h
  cases update with
  | accepted => exact List.mem_singleton.mp h
  | conflict | failed => nomatch h

/-- A run that gives up writes at most the routes it retains. -/
theorem mem_reportUnready {reason : Reason} {msg : String} (h : e ∈ reportUnready A gw reason msg) :
    ∃ s routes, e = .status s ∧ retainedRoutes gw reason = .ok routes ∧ s.routes = routes := by
  unfold reportUnready at h
  split at h
  · nomatch h
  split at h
  · nomatch h
  split at h
  · nomatch h
  rename_i routes hroutes
  refine ⟨_, routes, mem_writeStatus h, hroutes, ?_⟩
  simp only [observed_routes, setCondition_routes, pendingStatus]

theorem retained_pairs {reason : Reason} {routes : List RouteStatus}
    (h : retainedRoutes gw reason = .ok routes) :
    pairs gw.vpcRef routes = pairs gw.vpcRef gw.status.routes ∨
      (routes = [] ∧ (reason = .gatewayTerminating ∨ (reason = .vpcUnresolved ∧ gw.additional = []))) := by
  unfold retainedRoutes at h
  split at h
  · exact .inl (blackhole_pairs h)
  rename_i hkeep
  rw [not_and_or, not_not, ← not_and_or, not_not] at hkeep
  exact .inr ⟨(Except.ok.inj h).symm, hkeep⟩

theorem mem_configurationFailure (h : e ∈ configurationFailure A gw) :
    ∃ s, e = .status s ∧ pairs gw.vpcRef s.routes = pairs gw.vpcRef gw.status.routes := by
  obtain ⟨s, routes, rfl, hret, rfl⟩ := mem_reportUnready h
  rcases retained_pairs hret with hsame | ⟨-, hno | ⟨hno, -⟩⟩
  · exact ⟨s, rfl, hsame⟩
  · nomatch hno
  · nomatch hno

theorem resolveVPC_name {name : String} {v : ServedVPC} (h : resolveVPC C A name = some v) :
    v.name = name ∧ name ≠ "" := by
  unfold resolveVPC at h
  split at h
  · nomatch h
  rename_i hname
  split at h
  · split_ifs at h
    cases h
    exact ⟨rfl, hname⟩
  · nomatch h

theorem resolveRefs_all {refs : List (String × String)} {vpcs' : List ServedVPC}
    (h : resolveRefs C A refs vpcs = .all vpcs') :
    vpcs'.map (·.name) = vpcs.map (·.name) ++ refs.map Prod.snd ∧ ∀ r ∈ refs, r.2 ≠ "" := by
  induction refs generalizing vpcs with
  | nil =>
    cases h
    exact ⟨(List.append_nil _).symm, nofun⟩
  | cons ref refs ih =>
    unfold resolveRefs at h
    split at h
    · rename_i v hv
      obtain ⟨hnames, hne⟩ := ih h
      obtain ⟨hname, hnonempty⟩ := resolveVPC_name C hv
      refine ⟨?_, List.forall_mem_cons.mpr ⟨hnonempty, hne⟩⟩
      rw [hnames, List.map_append, List.append_assoc, List.map_singleton, hname]
      rfl
    · split at h
      · nomatch h
      · nomatch h

theorem refs_fields (gw : Gateway) :
    (("spec.vpcRef", gw.vpcRef) :: gw.additional.zipIdx.map fun a =>
      ("spec.additionalVPCRefs[" ++ toString a.2 ++ "]", a.1)).map Prod.snd = gw.refs := by
  show gw.vpcRef :: (gw.additional.zipIdx.map _).map Prod.snd = gw.vpcRef :: gw.additional
  rw [List.map_map]
  congr 1
  exact List.zipIdx_map_fst 0 gw.additional

theorem servedVPCs_all (h : servedVPCs C A gw = .all vpcs) :
    vpcs.map (·.name) = gw.refs ∧ ∀ ref ∈ gw.refs, ref ≠ "" := by
  obtain ⟨hnames, hne⟩ := resolveRefs_all C h
  rw [refs_fields] at hnames
  refine ⟨hnames, fun ref href => ?_⟩
  rw [← refs_fields] at href
  obtain ⟨r, hr, rfl⟩ := List.mem_map.mp href
  exact hne r hr

/-- The cluster answered, and the reference names nothing, or a VPC that is going away or whose
    CIDRs are not valid. -/
def Unresolved (A : Answers) (name : String) : Prop :=
  name = "" ∨ A.vpc name = .notFound ∨ ∃ deleting cidrs, A.vpc name = .found deleting cidrs ∧
    ¬ (deleting = false ∧ validVPCCIDRs C cidrs = true)

theorem resolveVPC_none {name : String} (h : resolveVPC C A name = none)
    (hok : ¬ (name ≠ "" ∧ A.vpc name = .failed)) : Unresolved C A name := by
  unfold resolveVPC at h
  split at h
  · rename_i hname
    exact .inl hname
  rename_i hname
  cases hv : A.vpc name with
  | found deleting cidrs =>
    refine .inr (.inr ⟨deleting, cidrs, hv, fun hgood => ?_⟩)
    simp only [hv, if_pos hgood] at h
    nomatch h
  | notFound => exact .inr (.inl hv)
  | failed => exact absurd ⟨hname, hv⟩ hok

theorem servedVPCs_missing {what : String} (h : servedVPCs C A gw = .missing what)
    (honly : gw.additional = []) :
    Unresolved C A gw.vpcRef := by
  unfold servedVPCs at h
  rw [honly] at h
  unfold resolveRefs at h
  split at h
  · nomatch h
  rename_i hv
  refine resolveVPC_none C hv fun hfailed => ?_
  rw [if_pos hfailed] at h
  nomatch h

-- ── the first half

/-- How a run ends before its intent; a missing VPC is a reason only where a reference did not
    resolve. -/
def EndsEarly (A : Answers) (gw : Gateway) (events : List Event) : Prop :=
  events = [] ∨ ∃ gw₁ reason msg, events = reportUnready A gw₁ reason msg ∧
    gw₁.status = gw.status ∧ gw₁.vpcRef = gw.vpcRef ∧ gw₁.additional = gw.additional ∧
    reason ≠ .gatewayTerminating ∧
    (reason = .vpcUnresolved → gw.additional = [] → Unresolved C A gw.vpcRef)

theorem endsEarly_report (reason : Reason) (msg : String) (b : Bool)
    (hterm : reason ≠ .gatewayTerminating := by nofun) (hres : reason ≠ .vpcUnresolved := by nofun) :
    EndsEarly C A gw (reportUnready A { gw with finalizer := b } reason msg) :=
  .inr ⟨_, reason, msg, rfl, rfl, rfl, rfl, hterm, fun heq => absurd heq hres⟩

/-- What a run has when it comes to its intent. -/
structure Ready (A : Answers) (gw : Gateway) (p : Prepared) : Prop where
  gateway : p.gw = gw.withFinalizer
  names : p.vpcs.map (·.name) = gw.refs
  nonempty : ∀ ref ∈ gw.refs, ref ≠ ""
  accepted : acceptedConnections C A gw = some p.conns

theorem acceptConnections_ends (A : Answers) (gw : Gateway) (vpcs : List ServedVPC)
    (served : List IPNet) (conns : List VPNConnection)
    (h : acceptConnections C A gw.withFinalizer vpcs served conns = .error events) :
    EndsEarly C A gw events := by
  unfold acceptConnections at h
  split at h
  · cases h
    exact endsEarly_report C _ _ _
  split at h
  · cases h
    exact endsEarly_report C _ _ _
  dsimp only at h
  split_ifs at h
  cases h
  exact endsEarly_report C _ _ _

theorem acceptConnections_ok {served : List IPNet} {p : Prepared}
    (h : acceptConnections C A gw vpcs served conns = .ok p) :
    ∃ conns', applyIPsecAddressPools gw conns = .ok conns' ∧ p.gw = gw ∧ p.vpcs = vpcs ∧
      p.conns = conns'.map (allowedCIDRs C served) := by
  unfold acceptConnections at h
  split at h
  · nomatch h
  rename_i conns' hpools
  split at h
  · nomatch h
  dsimp only at h
  split_ifs at h
  cases h
  exact ⟨conns', hpools, rfl, rfl, rfl⟩

theorem prepareConnections_cases (A : Answers) (gw : Gateway) (vpcs : List ServedVPC)
    (served : List IPNet) :
    (∃ events, prepareConnections C A gw vpcs served = .error events ∧ EndsEarly C A gw events) ∨
      ∃ conns conns₁, A.connections = some conns ∧ backendConnections A gw conns = some conns₁ ∧
        prepareConnections C A gw vpcs served =
          acceptConnections C A gw.withFinalizer vpcs served conns₁ := by
  unfold prepareConnections
  cases A.connections with
  | none => exact .inl ⟨_, rfl, .inl rfl⟩
  | some conns =>
  dsimp only
  split
  · exact .inl ⟨_, rfl, .inl rfl⟩
  · exact .inl ⟨_, rfl, endsEarly_report C _ _ gw.finalizer⟩
  split
  · exact .inl ⟨_, rfl, endsEarly_report C _ _ gw.finalizer⟩
  split
  · exact .inl ⟨_, rfl, endsEarly_report C _ _ gw.finalizer⟩
  split
  · exact .inl ⟨_, rfl, endsEarly_report C _ _ gw.finalizer⟩
  · rename_i conns₁ hback
    exact .inr ⟨conns, conns₁, rfl, hback, rfl⟩

/-- **THE FIRST HALF** ends early or comes to the intent with the accepted connections. -/
theorem prepare_cases (A : Answers) (hlive : gw.deleting = false) :
    (∃ events, prepare C A gw = .error events ∧ EndsEarly C A gw events) ∨
      ∃ p, prepare C A gw = .ok p ∧ Ready C A gw p := by
  unfold prepare
  split
  · exact .inl ⟨_, rfl, .inl rfl⟩
  rw [if_neg (by rw [hlive]; exact Bool.false_ne_true)]
  split
  · exact .inl ⟨_, rfl, endsEarly_report C _ _ gw.finalizer⟩
  split
  · exact .inl ⟨_, rfl, .inl rfl⟩
  · rename_i hvpcs
    exact .inl ⟨_, rfl, .inr ⟨gw, _, _, rfl, rfl, rfl, rfl, nofun, fun _ => servedVPCs_missing C hvpcs⟩⟩
  rename_i vpcs hvpcs
  split
  · exact .inl ⟨_, rfl, endsEarly_report C _ _ gw.finalizer⟩
  rename_i served hserved
  rcases prepareConnections_cases C A gw vpcs served with hearly | ⟨conns, conns₁, hconns, hback, heq⟩
  · exact .inl hearly
  rw [heq]
  cases hacc : acceptConnections C A gw.withFinalizer vpcs served conns₁ with
  | error events => exact .inl ⟨events, rfl, acceptConnections_ends C A gw vpcs served conns₁ hacc⟩
  | ok p =>
    obtain ⟨conns₂, hpools, hgw, rfl, hp⟩ := acceptConnections_ok C hacc
    obtain ⟨hnames, hne⟩ := servedVPCs_all C hvpcs
    refine .inr ⟨p, rfl, hgw, hnames, hne, ?_⟩
    have hpools' : applyIPsecAddressPools gw conns₁ = .ok conns₂ := hpools
    unfold acceptedConnections
    simp only [hconns, hvpcs, hserved, hback, hpools', hp]

theorem protect_pairs {gw' : Gateway} (hne : ∀ ref ∈ gw.refs, ref ≠ "")
    (h : protectRouteIntent A gw conns = some (events, gw')) :
    gw'.vpcRef = gw.vpcRef ∧ pairs gw.vpcRef gw'.status.routes = acceptedPairs gw conns ∧
      ∀ e ∈ events, e = .status gw'.status := by
  unfold protectRouteIntent at h
  split at h
  · nomatch h
  split at h
  · nomatch h
  split at h
  · rename_i hholds
    cases h
    exact ⟨rfl, holdsIntent_pairs hholds, nofun⟩
  split at h
  · nomatch h
  rename_i routes hroutes
  have hpairs : pairs gw.vpcRef routes = acceptedPairs gw conns := by
    rw [blackhole_pairs hroutes, ← intent_pairs]
    show List.flatMap _ (List.map _ _) = _
    rw [List.flatMap_map]
    refine List.flatMap_congr fun d hd => ?_
    obtain ⟨ref, href, hd'⟩ := List.mem_flatMap.mp hd
    obtain ⟨c, -, rfl⟩ := List.mem_map.mp hd'
    show c.remoteCIDRs.map (fun x => (if ref = "" then gw.vpcRef else ref, x)) = _
    rw [if_neg (hne ref href)]
  split at h
  · cases h
    refine ⟨rfl, ?_, fun e he => List.mem_singleton.mp he⟩
    simpa only [observed_routes, setCondition_routes, pendingStatus] using hpairs
  · nomatch h

theorem realized_pairs {p : Prepared} (hnames : p.vpcs.map (·.name) = gw.refs)
    (hne : ∀ ref ∈ gw.refs, ref ≠ "") (want : Nat) (applied : Bool) (appliances : List String) :
    pairs gw.vpcRef (realizedRoutes A p want applied appliances) = acceptedPairs gw p.conns := by
  have hroute : ∀ v ∈ p.vpcs, ∀ i, pairs gw.vpcRef (connectionRoutes v.name
      (connectionsForVPC p.conns v.name) (legPorts A want applied appliances i v.name)) =
      (connectionsForVPC p.conns v.name).flatMap fun c => c.remoteCIDRs.map fun x => (v.name, x) := by
    intro v hv i
    have hname : v.name ≠ "" := hne v.name (hnames ▸ List.mem_map_of_mem hv)
    show List.flatMap _ (List.map _ _) = _
    rw [List.flatMap_map]
    show List.flatMap (fun c : VPNConnection =>
      c.remoteCIDRs.map fun x => (if v.name = "" then gw.vpcRef else v.name, x)) _ = _
    rw [if_neg hname]
    exact flatMap_filter _ _ _ fun c _ hc => List.map_eq_nil_iff.mpr (by simpa using hc)
  unfold acceptedPairs realizedRoutes pairs
  rw [← hnames, List.flatMap_map, List.flatMap_assoc]
  have hzip : (p.vpcs.zipIdx.map Prod.fst).flatMap (fun v => (connectionsForVPC p.conns v.name).flatMap
      fun c => c.remoteCIDRs.map fun x => (v.name, x)) = p.vpcs.flatMap (fun v =>
      (connectionsForVPC p.conns v.name).flatMap fun c => c.remoteCIDRs.map fun x => (v.name, x)) := by
    rw [List.zipIdx_map_fst]
  rw [← hzip, List.flatMap_map]
  refine List.flatMap_congr fun v hv => ?_
  exact hroute v.1 (List.fst_mem_of_mem_zipIdx hv) v.2

theorem mem_realize {gw' : Gateway} {p : Prepared} (hnames : p.vpcs.map (·.name) = gw.refs)
    (hne : ∀ ref ∈ gw.refs, ref ≠ "") (hvpc : gw'.vpcRef = gw.vpcRef)
    (hstatus : pairs gw.vpcRef gw'.status.routes = acceptedPairs gw p.conns) (h : e ∈ realize A p gw') :
    ∃ s, e = .status s ∧ pairs gw.vpcRef s.routes = acceptedPairs gw p.conns := by
  have hfail : e ∈ configurationFailure A gw' →
      ∃ s, e = .status s ∧ pairs gw.vpcRef s.routes = acceptedPairs gw p.conns := by
    intro hmem
    obtain ⟨s, rfl, hs⟩ := mem_configurationFailure hmem
    rw [hvpc] at hs
    exact ⟨s, rfl, hs.trans hstatus⟩
  unfold realize at h
  split at h
  · exact hfail h
  split at h
  · exact hfail h
  split at h
  · nomatch h
  split at h
  · nomatch h
  split at h
  · nomatch h
  refine ⟨_, mem_writeStatus h, ?_⟩
  exact realized_pairs hnames hne _ _ _

theorem intent_not_mem_early (h : EndsEarly C A gw events) : .intent ∉ events := by
  intro hmem
  rcases h with rfl | ⟨gw₁, reason, msg, rfl, -⟩
  · nomatch hmem
  · obtain ⟨s, -, heq, -⟩ := mem_reportUnready hmem
    nomatch heq

/-- **A RUN THAT PROTECTS ITS INTENT** publishes the accepted pairs in every status. -/
theorem reconcile_protected (hlive : gw.deleting = false) (h : .intent ∈ reconcile C A gw) :
    ∃ conns, acceptedConnections C A gw = some conns ∧ ∀ s, .status s ∈ reconcile C A gw →
      pairs gw.vpcRef s.routes = acceptedPairs gw conns := by
  unfold reconcile at h ⊢
  rcases prepare_cases C A hlive with ⟨events, hprep, hearly⟩ | ⟨p, hprep, hready⟩
  · rw [hprep] at h
    exact absurd h (intent_not_mem_early C hearly)
  rw [hprep] at h ⊢
  refine ⟨p.conns, hready.accepted, fun s hs => ?_⟩
  dsimp only at h hs
  cases hprot : protectRouteIntent A p.gw p.conns with
  | none =>
    rw [hprot] at h
    nomatch h
  | some r =>
    rw [hprot] at hs
    have hrefs : p.gw.refs = gw.refs := by
      rw [hready.gateway]
      rfl
    have hvpc : p.gw.vpcRef = gw.vpcRef := by
      rw [hready.gateway]
      rfl
    obtain ⟨hsame, hpairs, hevents⟩ := protect_pairs (hrefs ▸ hready.nonempty) hprot
    have hacc : acceptedPairs p.gw p.conns = acceptedPairs gw p.conns := by
      unfold acceptedPairs
      rw [hrefs]
    rw [hvpc, hacc] at hpairs
    rcases List.mem_append.mp hs with hmem | hmem
    · cases hevents _ hmem
      exact hpairs
    rcases List.mem_cons.mp hmem with heq | hmem
    · nomatch heq
    obtain ⟨s', heq, hs'⟩ := mem_realize hready.names hready.nonempty (hsame.trans hvpc) hpairs hmem
    cases heq
    exact hs'

/-- **A RUN THAT DOES NOT** leaves the pairs as they were, or the only VPC of the gateway did not
    resolve. -/
theorem reconcile_retains (hlive : gw.deleting = false) (h : .intent ∉ reconcile C A gw) {s : Status}
    (hs : .status s ∈ reconcile C A gw) :
    pairs gw.vpcRef s.routes = pairs gw.vpcRef gw.status.routes ∨
      (s.routes = [] ∧ gw.additional = [] ∧ Unresolved C A gw.vpcRef) := by
  unfold reconcile at h hs
  rcases prepare_cases C A hlive with ⟨events, hprep, hearly⟩ | ⟨p, hprep, -⟩
  · rw [hprep] at hs
    rcases hearly with rfl | ⟨gw₁, reason, msg, rfl, hstatus, hvpc, hadd, hterm, hres⟩
    · nomatch hs
    obtain ⟨s', routes, heq, hret, rfl⟩ := mem_reportUnready hs
    cases heq
    rcases retained_pairs hret with hsame | ⟨hnil, hno | ⟨hreason, honly⟩⟩
    · rw [hvpc, hstatus] at hsame
      exact .inl hsame
    · exact absurd hno hterm
    · rw [hadd] at honly
      exact .inr ⟨hnil, honly, hres hreason honly⟩
  · rw [hprep] at h hs
    dsimp only at h hs
    cases hprot : protectRouteIntent A p.gw p.conns with
    | none =>
      rw [hprot] at hs
      nomatch hs
    | some r =>
      rw [hprot] at h
      exact absurd (List.mem_append_right _ (.head _)) h

end CozyVpnGateway
