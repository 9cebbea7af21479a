import Cozyplane.BoundaryCompileProofs
import Cozyplane.FairShareProofs
import Cozyplane.RouteSyncProofs

/-!
# The route compiler — from gateways' published routes to vpc_routes

`watchRoutes` turns the routes that VPCGateways and VPNGateways publish into rows, in two passes.
The first collects them per owner NAMESPACE and checks them; the second grants every namespace a
fair budget, resolves the routes of those within it and blocks the scopes of the others. One
counter bounds the work of both; some errors reject the whole snapshot.
-/

namespace CozyRouteCompile

open Accumulate KernelMap CozyPacket CozyCidr CozyRoutes
open CozyBoundaryCompile (VPCRef)

/-- `VPCGatewayRouteStatus`. -/
structure RouteStatus where
  vpcRef : String
  cidrs : List String
  port : String
  ports : List String
  deriving DecidableEq

/-- The fields of a VPC the compiler reads. -/
structure VPC where
  deleting : Bool
  vni : Int
  deriving DecidableEq

/-- The fields of a Port the compiler reads. -/
structure Port where
  ip : String
  deleting : Bool
  vpcRef : VPCRef
  node : String
  nodeIP : String
  deriving DecidableEq

/-- The fields of a VPCGateway. -/
structure VPCGateway where
  ns : String
  name : String
  vpcRef : String
  created : Nat
  deleting : Bool
  routes : List RouteStatus
  deriving DecidableEq

/-- The fields of a VPNGateway. -/
structure VPNGateway where
  ns : String
  name : String
  vpcRef : String
  additional : List String
  deleting : Bool
  routes : List RouteStatus
  deriving DecidableEq

/-- The informer caches: VPCs and Ports by name, gateways as listed. -/
structure Snapshot where
  vpcs : VPCRef → Option VPC
  ports : String → Option Port
  gateways : List VPCGateway
  vpns : List VPNGateway
  gateways_distinct : (gateways.map fun g => (g.ns, g.name)).Nodup
  vpns_distinct : (vpns.map fun g => (g.ns, g.name)).Nodup

/-- The orders of the map iterations. -/
structure Orders where
  refs : List VPCRef → List VPCRef
  names : VPNGateway → List String → List String
  byVPC : VPNGateway → List String → List String
  groups : List String → List String
  refs_perm : ∀ l, (refs l).Perm l
  names_perm : ∀ g l, (names g l).Perm l
  byVPC_perm : ∀ g l, (byVPC g l).Perm l
  groups_perm : ∀ l, (groups l).Perm l

/-- Every map in the order its keys came in. -/
def Orders.asListed : Orders where
  refs l := l
  names _ l := l
  byVPC _ l := l
  groups l := l
  refs_perm _ := .refl _
  names_perm _ _ := .refl _
  byVPC_perm _ _ := .refl _
  groups_perm _ := .refl _

/-- What the compiler calls outside the repository: `net.ParseCIDR`, `IP.String`, `net.ParseIP`, and
    `netip.ParseAddr` for an IPv6 address without zone. -/
structure Texts extends CozyRoutes.Texts where
  parseIP : String → Option Addr
  parseAddr6 : String → Option Addr

/-- The `k` lowest digits of a number, the highest first. -/
def digitsOf (b : Nat) : Nat → Nat → List Nat
  | 0, _ => []
  | k + 1, n => digitsOf b k (n / b) ++ [n % b]

/-- `hex.EncodeToString` of the 16 bytes. -/
def hexEncode (a : Addr) : String := String.ofList ((digitsOf 16 32 a.toNat).map Nat.digitChar)

def escapeIP (X : Texts) (ip : String) : String :=
  let escaped := ip.map fun c => if c = '.' ∨ c = ':' then '-' else c
  if escaped.toList.head? = some '-' ∨ escaped.toList.getLast? = some '-' then
    match X.parseAddr6 ip with
    | some a => "x" ++ hexEncode a
    | none => escaped
  else escaped

def portName (X : Texts) (vni : Int) (ip : String) : String :=
  "v" ++ toString vni ++ "." ++ escapeIP X ip

/-- A run of decimal digits, as `strconv.ParseUint` reads it. -/
def parseDigits (cs : List Char) : Option Nat :=
  if cs.all Char.isDigit then some (cs.foldl (fun n c => 10 * n + (c.toNat - 48)) 0) else none

def vniFromPortName (name : String) : Option U32 :=
  match name.toList with
  | 'v' :: rest =>
    let digits := rest.takeWhile (· ≠ '.')
    if digits = [] ∨ digits.length = rest.length then none
    else
      match parseDigits digits with
      | none => none
      | some n => if n < 100 ∨ 4194303 < n then none else some (BitVec.ofNat 32 n)
  | _ => none

def maxRouteCompileWork : Nat := 2 ^ 20

def charge (n work : Nat) : Except String Nat :=
  if maxRouteCompileWork - work < n then
    .error ("route compilation exceeds " ++ toString maxRouteCompileWork ++ " input operations")
  else .ok (work + n)

/-- `routeInput`. -/
structure RouteInput where
  ref : VPCRef
  routes : List RouteStatus
  vpn : Bool
  deriving DecidableEq

/-- `routeNamespace`. -/
structure RouteNamespace where
  demand : Nat
  invalid : Bool
  scopes : List U32
  inputs : List RouteInput
  deriving DecidableEq

/-- The first pass so far. -/
structure Scan where
  work : Nat
  groups : KMap String RouteNamespace

def routeCapacity : Nat := vpcRoutesEntries

variable (X : Texts) (S : Snapshot)

/-- The VNI of a VPC that is there, is not going away and has one. -/
def scopeOf (ref : VPCRef) : Option Int :=
  match S.vpcs ref with
  | none => none
  | some v => if v.deleting = true ∨ v.vni ≤ 0 then none else some v.vni

/-- A CIDR text the first pass refuses. -/
def badCidr (cidr : String) : Bool := decide (64 < cidr.utf8ByteSize) || (X.parseCIDR cidr).isNone

/-- The loop of `add` over the routes of one input. The flag says that all were read. -/
def scanRoutes : List RouteStatus → Nat → RouteNamespace → Except String (Nat × RouteNamespace × Bool)
  | [], work, g => .ok (work, g, true)
  | r :: rs, work, g =>
    match charge 1 work with
    | .error e => .error e
    | .ok work =>
      if 4096 < r.cidrs.length ∨ 2 < r.ports.length then .ok (work, { g with invalid := true }, false)
      else
        let g := { g with demand := min (routeCapacity + 1) (g.demand + r.cidrs.length) }
        if routeCapacity < g.demand then .ok (work, g, false)
        else
          match charge r.cidrs.length work with
          | .error e => .error e
          | .ok work =>
            if r.cidrs.any (badCidr X) then .ok (work, { g with invalid := true }, false)
            else scanRoutes rs work g

/-- A namespace not seen before. -/
def freshGroup : RouteNamespace := ⟨0, false, [], []⟩

def groupOf (s : Scan) (ns : String) : RouteNamespace := (s.groups.lookup ns).getD freshGroup

def RouteNamespace.withScope (g : RouteNamespace) (v : U32) : RouteNamespace :=
  { g with scopes := g.scopes.insert v }

/-- The second half of `add`: the routes, for the group of their namespace. An owner already
    denied only proves its scopes. -/
def addRoutes (i : RouteInput) (g : RouteNamespace) (s : Scan) : Except String Scan :=
  if i.routes = [] ∨ g.invalid = true ∨ routeCapacity < g.demand then
    .ok { s with groups := s.groups.insert i.ref.ns g }
  else if 4096 < i.routes.length then
    .ok { s with groups := s.groups.insert i.ref.ns { g with invalid := true } }
  else
    match scanRoutes X i.routes s.work g with
    | .error e => .error e
    | .ok (work, g, whole) =>
      .ok ⟨work, s.groups.insert i.ref.ns
        (if whole then { g with inputs := g.inputs ++ [i] } else g)⟩

/-- The closure `add` of `watchRoutes`. -/
def add (i : RouteInput) (s : Scan) : Except String Scan :=
  match scopeOf S i.ref with
  | none => .ok s
  | some vni =>
    if 2 ^ 22 ≤ vni then .error "VPC route scope outside tenant VNI range"
    else addRoutes X i ((groupOf s i.ref.ns).withScope (BitVec.ofInt 32 vni)) s

/-- `g` comes before `best`. -/
def older (g best : VPCGateway) : Bool :=
  decide (g.created < best.created) || (g.created == best.created && decide (g.name < best.name))

def effectiveGateway (gws : List VPCGateway) (vpcName : String) : Option VPCGateway :=
  gws.foldl (fun best g =>
    if g.vpcRef ≠ vpcName ∨ g.deleting = true then best
    else
      match best with
      | none => some g
      | some b => if older g b then some g else some b) none

/-- The keys of `gatewayCandidatesByVPC`. -/
def candidateRefs : List VPCRef := (S.gateways.map fun g => ⟨g.ns, g.vpcRef⟩).dedup

/-- The candidates under one key. -/
def candidatesOf (ref : VPCRef) : List VPCGateway :=
  S.gateways.filter fun g => decide ((⟨g.ns, g.vpcRef⟩ : VPCRef) = ref)

/-- What the effective VPCGateway of a VPC asks for. -/
def gatewayInput (ref : VPCRef) : Option RouteInput :=
  (effectiveGateway (candidatesOf S ref) ref.name).map fun gw => ⟨ref, gw.routes, false⟩

def scanGateway (ref : VPCRef) (s : Scan) : Except String Scan :=
  match gatewayInput S ref with
  | none => .ok s
  | some i => add X S i s

namespace VPNGateway

variable (g : VPNGateway)

/-- `allowed`: the primary VPC, then the first nine additional ones. -/
def allowed : List String := (g.additional.take 9).foldl (fun l r => l.insert r) [g.vpcRef]

/-- The loop over the additional references: an empty or repeated name. -/
def badRefs : List String → List String → Bool
  | [], _ => false
  | r :: rs, known => decide (r = "" ∨ r ∈ known) || badRefs rs (known.insert r)

def routeVPC (r : RouteStatus) : String := if r.vpcRef = "" then g.vpcRef else r.vpcRef

/-- `byVPC`. -/
def routesFor (name : String) : List RouteStatus := g.routes.filter fun r => g.routeVPC r = name

def routeVPCs : List String := (g.routes.map g.routeVPC).dedup

def malformed : Bool :=
  decide (9 < g.additional.length) || decide (4096 < g.routes.length) ||
    badRefs (g.additional.take 9) [g.vpcRef] || g.routes.any fun r => !g.allowed.contains (g.routeVPC r)

end VPNGateway

/-- The declared scopes of a VPN gateway; the flag reports one outside the range. -/
def declareScopes (ns : String) : List String → Scan → Scan × Bool
  | [], s => (s, false)
  | name :: names, s =>
    match add X S ⟨⟨ns, name⟩, [], true⟩ s with
    | .error _ => ((declareScopes ns names s).1, true)
    | .ok s => declareScopes ns names s

/-- Deny a namespace that is known. -/
def deny (ns : String) (s : Scan) : Scan :=
  match s.groups.lookup ns with
  | none => s
  | some g => { s with groups := s.groups.insert ns { g with invalid := true } }

def scanVpn (o : Orders) (gw : VPNGateway) (s : Scan) : Except String Scan :=
  if gw.deleting then .ok s
  else
    let d := declareScopes X S gw.ns (o.names gw gw.allowed) s
    if d.2 || gw.malformed then .ok (deny gw.ns d.1)
    else
      forEach (o.byVPC gw gw.routeVPCs)
        (fun name => add X S ⟨⟨gw.ns, name⟩, gw.routesFor name, true⟩) d.1

/-- The first pass of `resync`. -/
def scanSnapshot (o : Orders) : Except String Scan :=
  match charge S.gateways.length 0 with
  | .error e => .error e
  | .ok work =>
    match forEach (o.refs (candidateRefs S)) (scanGateway X S) ⟨work, ∅⟩ with
    | .error e => .error e
    | .ok s =>
      match charge S.vpns.length s.work with
      | .error e => .error e
      | .ok work => forEach S.vpns (scanVpn X S o) { s with work }

def demandOf (groups : KMap String RouteNamespace) (ns : String) : Nat :=
  match groups.lookup ns with
  | none => 0
  | some g => g.demand

/-- The namespaces that take part. -/
def claimants (groups : KMap String RouteNamespace) : List String :=
  groups.keys.filter fun ns =>
    match groups.lookup ns with
    | none => false
    | some g => g.demand != 0 && !g.invalid

/-- Smaller demands first, then by name. -/
def servedBefore (groups : KMap String RouteNamespace) (a b : String) : Prop :=
  demandOf groups a < demandOf groups b ∨ (demandOf groups a = demandOf groups b ∧ a ≤ b)

instance (groups : KMap String RouteNamespace) : DecidableRel (servedBefore groups) :=
  fun _ _ => inferInstanceAs (Decidable (_ ∨ _))

/-- `routeBudgets`; a namespace without budget has zero. -/
def routeBudgets (groups : KMap String RouteNamespace) (ns : String) : Nat :=
  ((FairShare.serve (demandOf groups) routeCapacity
    ((claimants groups).insertionSort (servedBefore groups))).lookup ns).getD 0

/-- The result of a compilation, and the work it took. -/
structure Compiled where
  work : Nat
  desired : List DesiredRoute
  blocked : List U32

def resolveHop (self : String) (ref : VPCRef) (vni : Int) (name : String) : Option RouteNextHop :=
  match S.ports name with
  | none => none
  | some port =>
    if port.ip = "" ∨ port.deleting = true ∨ port.vpcRef ≠ ref then none
    else if vniFromPortName name ≠ some (BitVec.ofInt 32 vni) then none
    else
      match X.parseIP port.ip with
      | none => none
      | some gw =>
        if name ≠ portName X vni (X.ipString gw) then none
        else if port.node = self then some ⟨some gw, none⟩
        else
          match X.parseIP port.nodeIP with
          | none => none
          | some node => if is4In6 node then some ⟨some gw, some node⟩ else none

/-- The Ports of a route: the single field stands in for an empty list. -/
def RouteStatus.portNames (r : RouteStatus) : List String :=
  if r.ports = [] ∧ r.port ≠ "" then [r.port] else r.ports

def routeHops (self : String) (ref : VPCRef) (vni : Int) (r : RouteStatus) : List RouteNextHop :=
  r.portNames.filterMap (resolveHop X S self ref vni)

/-- One prefix of a route. -/
def emitCidr (vni : Int) (hops : List RouteNextHop) (vpn : Bool) (cidr : String) (c : Compiled) :
    Except String Compiled :=
  if routeCapacity ≤ c.desired.length then
    .error ("route candidates exceed map capacity " ++ toString routeCapacity)
  else .ok { c with desired := c.desired ++ [⟨BitVec.ofInt 32 vni, cidr, hops, none, none, vpn⟩] }

def resolveRoute (self : String) (ref : VPCRef) (vni : Int) (vpn : Bool) (r : RouteStatus)
    (c : Compiled) : Except String Compiled :=
  match charge 1 c.work with
  | .error e => .error e
  | .ok work =>
    if 2 < r.ports.length then .error "route has more than two next-hop ports"
    else
      match charge r.cidrs.length work with
      | .error e => .error e
      | .ok work =>
        match charge r.portNames.length work with
        | .error e => .error e
        | .ok work =>
          forEach r.cidrs (emitCidr vni (routeHops X S self ref vni r) vpn) { c with work }

/-- The closure `resolveRoutes`. -/
def resolveRoutes (self : String) (i : RouteInput) (c : Compiled) : Except String Compiled :=
  match scopeOf S i.ref with
  | none => .ok c
  | some vni => forEach i.routes (resolveRoute X S self i.ref vni i.vpn) c

/-- The owner is invalid or over its budget. -/
def denied (groups : KMap String RouteNamespace) (ns : String) (g : RouteNamespace) : Bool :=
  g.invalid || decide (routeBudgets groups ns < g.demand)

def emitGroup (self : String) (groups : KMap String RouteNamespace) (ns : String) (c : Compiled) :
    Except String Compiled :=
  match groups.lookup ns with
  | none => .ok c
  | some g =>
    if denied groups ns g then .ok { c with blocked := c.blocked ++ g.scopes }
    else forEach g.inputs (resolveRoutes X S self) c

/-- A snapshot as rows and blocked scopes. -/
def compileRoutes (o : Orders) (self : String) : Except String Compiled :=
  match scanSnapshot X S o with
  | .error e => .error e
  | .ok s => forEach (o.groups s.groups.keys) (emitGroup X S self s.groups) ⟨s.work, [], []⟩

/-- A route the first pass accepts. -/
def RouteStatus.Valid (r : RouteStatus) : Prop :=
  r.cidrs.length ≤ 4096 ∧ r.ports.length ≤ 2 ∧ r.cidrs.any (badCidr X) = false

/-- An input the first pass accepts. -/
def RouteInput.Valid (i : RouteInput) : Prop :=
  i.routes.length ≤ 4096 ∧ ∀ r ∈ i.routes, r.Valid X

/-- The prefixes some routes ask for, duplicates included. -/
def prefixes (rs : List RouteStatus) : Nat := (rs.map fun r => r.cidrs.length).sum

def total (is : List RouteInput) : Nat := (is.map fun i => prefixes i.routes).sum

/-- How a scan of some routes ends. -/
inductive Scanned (g : RouteNamespace) (rs : List RouteStatus) : RouteNamespace → Bool → Prop where
  | whole : (∀ r ∈ rs, r.Valid X) → g.demand + prefixes rs ≤ routeCapacity →
      Scanned g rs { g with demand := g.demand + prefixes rs } true
  | bad (d : Nat) : (∃ r ∈ rs, ¬ r.Valid X) → Scanned g rs { g with demand := d, invalid := true } false
  | beyond : routeCapacity < g.demand + prefixes rs →
      Scanned g rs { g with demand := routeCapacity + 1 } false

theorem prefixes_cons (r : RouteStatus) (rs : List RouteStatus) :
    prefixes (r :: rs) = r.cidrs.length + prefixes rs := by
  unfold prefixes
  rw [List.map_cons, List.sum_cons]

variable (self : String) (groups : KMap String RouteNamespace) {s : Scan} {ref : VPCRef} {o : Orders}
  {ns : String} {i : RouteInput} {is : List RouteInput} {marked : Prop} {s' : Scan}
  {g' : RouteNamespace}

variable {g : RouteNamespace}

/-- Induction on the routes; the demand of the routes read so far is in the group. -/
theorem scanRoutes_scanned {rs : List RouteStatus} {work work' : Nat} {whole : Bool}
    (hg : g.demand ≤ routeCapacity) (h : scanRoutes X rs work g = .ok (work', g', whole)) :
    Scanned X g rs g' whole := by
  induction rs generalizing work g with
  | nil =>
    obtain ⟨-, rfl, rfl⟩ := by simpa only [scanRoutes, Except.ok.injEq, Prod.mk.injEq] using h
    exact .whole nofun hg
  | cons r rs ih =>
    unfold scanRoutes at h
    split at h
    · nomatch h
    split at h
    · rename_i hlong
      obtain ⟨-, rfl, rfl⟩ := by simpa only [Except.ok.injEq, Prod.mk.injEq] using h
      exact .bad g.demand ⟨r, .head _, fun hr =>
        hlong.elim (Nat.not_lt.mpr hr.1) (Nat.not_lt.mpr hr.2.1)⟩
    rename_i hlong
    by_cases hover : routeCapacity < min (routeCapacity + 1) (g.demand + r.cidrs.length)
    · simp only [if_pos hover] at h
      obtain ⟨-, rfl, rfl⟩ := by simpa only [Except.ok.injEq, Prod.mk.injEq] using h
      have hmin : min (routeCapacity + 1) (g.demand + r.cidrs.length) = routeCapacity + 1 := by
        omega
      rw [hmin]
      refine .beyond ?_
      rw [prefixes_cons]
      omega
    have hmin : min (routeCapacity + 1) (g.demand + r.cidrs.length) = g.demand + r.cidrs.length := by
      omega
    have hfit : g.demand + r.cidrs.length ≤ routeCapacity := by omega
    simp only [if_neg hover] at h
    rw [hmin] at h
    split at h
    · nomatch h
    split_ifs at h with hbad
    · obtain ⟨-, rfl, rfl⟩ := by simpa only [Except.ok.injEq, Prod.mk.injEq] using h
      exact .bad _ ⟨r, .head _, fun hr => nomatch hr.2.2.symm.trans hbad⟩
    rw [not_or, Nat.not_lt, Nat.not_lt] at hlong
    have hr : r.Valid X := ⟨hlong.1, hlong.2, Bool.not_eq_true _ ▸ hbad⟩
    have hsum : g.demand + r.cidrs.length + prefixes rs = g.demand + prefixes (r :: rs) := by
      rw [prefixes_cons, Nat.add_assoc]
    cases ih (g := { g with demand := g.demand + r.cidrs.length }) hfit h with
    | whole hvalid hle =>
      simp only [hsum] at hle ⊢
      exact .whole (List.forall_mem_cons.mpr ⟨hr, hvalid⟩) hle
    | bad d hex =>
      obtain ⟨q, hq, hnot⟩ := hex
      exact .bad d ⟨q, .tail _ hq, hnot⟩
    | beyond hlt => exact .beyond (hsum ▸ hlt)

/-- Nothing wrong with the inputs. -/
def Clean (marked : Prop) (is : List RouteInput) : Prop := ¬ marked ∧ ∀ i ∈ is, i.Valid X

/-- A group after the inputs `is`, `marked` if a gateway has denied it. Beyond the capacity it is
    denied, but only clean inputs say how. -/
structure Ledger (is : List RouteInput) (marked : Prop) (g : RouteNamespace) : Prop where
  verdict : total is ≤ routeCapacity → (g.invalid = false ↔ Clean X marked is)
  kept : total is ≤ routeCapacity → g.invalid = false → g.demand = total is ∧ g.inputs = is
  beyond : routeCapacity < total is → g.invalid = false → g.demand = routeCapacity + 1
  overClean : routeCapacity < total is → Clean X marked is → g.invalid = false

theorem total_append (is js : List RouteInput) : total (is ++ js) = total is + total js := by
  unfold total
  rw [List.map_append, List.sum_append]

theorem Clean.left {js : List RouteInput} (h : Clean X marked (is ++ js)) :
    Clean X marked is := ⟨h.1, fun i hi => h.2 i (List.mem_append_left _ hi)⟩

variable {X} in
theorem Ledger.healthy (h : Ledger X is marked g) (hvalid : g.invalid = false)
    (hfit : g.demand ≤ routeCapacity) :
    total is ≤ routeCapacity ∧ Clean X marked is ∧ g.demand = total is ∧ g.inputs = is := by
  have htotal : total is ≤ routeCapacity := by
    by_contra hover
    have hdemand := h.beyond (Nat.not_le.mp hover) hvalid
    omega
  exact ⟨htotal, (h.verdict htotal).mp hvalid, h.kept htotal hvalid⟩

theorem freshGroup_ledger : Ledger X [] False freshGroup :=
  ⟨fun _ => iff_of_true rfl ⟨id, nofun⟩, fun _ _ => ⟨rfl, rfl⟩, fun hover => absurd hover (Nat.not_lt_zero _),
    fun hover => absurd hover (Nat.not_lt_zero _)⟩

variable {X} in
theorem Ledger.of_denied (hnot : ¬ Clean X marked is) (hinvalid : g.invalid = true) :
    Ledger X is marked g := by
  have hv : ¬ g.invalid = false := fun hv => nomatch hv.symm.trans hinvalid
  exact ⟨fun _ => iff_of_false hv hnot, fun _ h => absurd h hv, fun _ h => absurd h hv,
    fun _ hc => absurd hc hnot⟩

variable {X} in
theorem Ledger.stuck (h : Ledger X is marked g)
    (hstuck : g.invalid = true ∨ routeCapacity < g.demand) (js : List RouteInput) :
    Ledger X (is ++ js) marked g := by
  have hdemand : g.invalid = false → routeCapacity < g.demand := fun hvalid =>
    hstuck.resolve_left fun hinv => nomatch hvalid.symm.trans hinv
  have hbefore : g.invalid = false → routeCapacity < total is := by
    intro hvalid
    by_contra hfit
    have hkept := (h.kept (Nat.not_lt.mp hfit) hvalid).1
    have := hdemand hvalid
    omega
  refine ⟨fun hle => ?_, fun hle hvalid => ?_, fun _ hvalid => h.beyond (hbefore hvalid) hvalid, ?_⟩
  · rw [total_append] at hle
    have hfit : total is ≤ routeCapacity := by omega
    constructor
    · intro hvalid
      have := hbefore hvalid
      omega
    · intro hclean
      exact (h.verdict hfit).mpr (hclean.left X)
  · rw [total_append] at hle
    have := hbefore hvalid
    omega
  · intro _ hclean
    by_cases hfit : total is ≤ routeCapacity
    · exact (h.verdict hfit).mpr (hclean.left X)
    · exact h.overClean (Nat.not_le.mp hfit) (hclean.left X)

variable {X} in
theorem Ledger.congr (h : Ledger X is marked g) (hinvalid : g'.invalid = g.invalid)
    (hdemand : g'.demand = g.demand) (hinputs : g'.inputs = g.inputs) : Ledger X is marked g' := by
  obtain ⟨hverdict, hkept, hover, hclean⟩ := h
  constructor
  · rwa [hinvalid]
  · rwa [hinvalid, hdemand, hinputs]
  · rwa [hinvalid, hdemand]
  · rwa [hinvalid]

variable {X} in
theorem Ledger.scanned (h : Ledger X is marked g) (hvalid : g.invalid = false)
    (hfit : g.demand ≤ routeCapacity) (i : RouteInput) (hlen : i.routes.length ≤ 4096)
    {whole : Bool} (hscan : Scanned X g i.routes g' whole) :
    Ledger X (is ++ [i]) marked (if whole then { g' with inputs := g'.inputs ++ [i] } else g') := by
  obtain ⟨htotal, hclean, hdemand, hinputs⟩ := h.healthy hvalid hfit
  have hsum : total (is ++ [i]) = g.demand + prefixes i.routes := by
    rw [total_append, hdemand]
    rfl
  cases hscan with
  | whole hroutes hle =>
    have hclean' : Clean X marked (is ++ [i]) :=
      ⟨hclean.1, List.forall_mem_append.mpr ⟨hclean.2, List.forall_mem_singleton.mpr ⟨hlen, hroutes⟩⟩⟩
    refine ⟨fun _ => iff_of_true hvalid hclean', fun _ _ => ⟨hsum.symm, ?_⟩, ?_, fun _ _ => hvalid⟩
    · show g.inputs ++ [i] = is ++ [i]
      rw [hinputs]
    · intro hover
      omega
  | bad d hex =>
    refine .of_denied (fun hclean' => ?_) rfl
    obtain ⟨r, hr, hbad⟩ := hex
    exact hbad ((hclean'.2 i (List.mem_append_right _ (.head _))).2 r hr)
  | beyond hlt =>
    have hover : routeCapacity < total (is ++ [i]) := hsum ▸ hlt
    exact ⟨fun hle => absurd hover (Nat.not_lt.mpr hle), fun hle => absurd hover (Nat.not_lt.mpr hle),
      fun _ _ => rfl, fun _ _ => hvalid⟩

-- ── what a scan knows

/-- The scope of a VPC in the tenants' range. -/
def ScopeIs (ref : VPCRef) (v : U32) : Prop :=
  ∃ vni, scopeOf S ref = some vni ∧ vni < 2 ^ 22 ∧ v = BitVec.ofInt 32 vni

theorem scopeOf_pos {vni : Int} (h : scopeOf S ref = some vni) : 0 < vni := by
  unfold scopeOf at h
  split at h
  · nomatch h
  split_ifs at h with hskip
  cases h
  exact Int.not_le.mp fun hle => hskip (.inr hle)

variable {S} in
theorem ScopeIs.toNat {v : U32} (h : ScopeIs S ref v) :
    scopeOf S ref = some (v.toNat : Int) ∧ 0 < v.toNat ∧ v.toNat < 2 ^ 22 := by
  obtain ⟨vni, hvni, hlt, rfl⟩ := h
  have hpos := scopeOf_pos S hvni
  have hnat : ((BitVec.ofInt 32 vni).toNat : Int) = vni := by
    rw [BitVec.toNat_ofInt]
    omega
  rw [hvni, hnat]
  exact ⟨rfl, by omega, by omega⟩

variable {S} in
theorem ScopeIs.lt {v : U32} (h : ScopeIs S ref v) : v.toNat < 2 ^ 22 := h.toNat.2.2

/-- A scan knows these inputs and scopes of a namespace. -/
structure Known (s : Scan) (ns : String) (is : List RouteInput) (marked : Prop)
    (scopes : U32 → Prop) : Prop where
  ledger : Ledger X is marked (groupOf s ns)
  proved : ∀ v, v ∈ (groupOf s ns).scopes ↔ scopes v
  seen : s.groups.lookup ns ≠ none ↔ ∃ v, scopes v

/-- The input, if it is one of the namespace that has something to add. -/
def own (ns : String) (i : RouteInput) : List RouteInput :=
  if i.ref.ns = ns ∧ scopeOf S i.ref ≠ none ∧ i.routes ≠ [] then [i] else []

theorem groupOf_some (hg : s.groups.lookup ns = some g) : groupOf s ns = g := by
  unfold groupOf
  rw [hg]
  rfl

theorem groupOf_insert_self (work : Nat) (groups : KMap String RouteNamespace) (ns : String)
    (g : RouteNamespace) : groupOf ⟨work, groups.insert ns g⟩ ns = g := by
  unfold groupOf
  rw [AList.lookup_insert]
  rfl

theorem groupOf_insert_ne (work : Nat) (s : Scan) {ns' : String} (h : ns' ≠ ns) (g : RouteNamespace) :
    groupOf ⟨work, s.groups.insert ns g⟩ ns' = groupOf s ns' := by
  unfold groupOf
  rw [AList.lookup_insert_ne h]

variable {scopes : U32 → Prop}

variable {X S} in
theorem Known.congr {scopes' : U32 → Prop} (h : Known X s ns is marked scopes)
    (hiff : ∀ v, scopes v ↔ scopes' v) : Known X s ns is marked scopes' := by
  obtain rfl : scopes = scopes' := funext fun v => propext (hiff v)
  exact h

variable {X S} in
theorem Known.idle {adds : U32 → Prop} (h : Known X s ns is marked scopes) (hno : ∀ v, ¬ adds v) :
    Known X s ns is marked (fun v => scopes v ∨ adds v) :=
  h.congr fun v => (or_iff_left (hno v)).symm

variable {X S} in
theorem Known.frame {ns' : String} (h : Known X s ns is marked scopes) (hne : ns ≠ ns') (work : Nat)
    (g : RouteNamespace) : Known X ⟨work, s.groups.insert ns' g⟩ ns is marked scopes := by
  refine ⟨?_, ?_, ?_⟩
  · rw [groupOf_insert_ne work s hne]
    exact h.ledger
  · rw [groupOf_insert_ne work s hne]
    exact h.proved
  · show (s.groups.insert ns' g).lookup ns ≠ none ↔ _
    rw [AList.lookup_insert_ne hne]
    exact h.seen

theorem addRoutes_group (h : addRoutes X i g s = .ok s') :
    ∃ g', s' = ⟨s'.work, s.groups.insert i.ref.ns g'⟩ ∧ g'.scopes = g.scopes ∧
      ∀ is marked, Ledger X is marked g →
        Ledger X (if i.routes = [] then is else is ++ [i]) marked g' := by
  unfold addRoutes at h
  split_ifs at h with hstuck hlen
  · cases h
    refine ⟨g, rfl, rfl, fun is marked hl => ?_⟩
    split_ifs with hnone
    · exact hl
    · exact hl.stuck (hstuck.resolve_left hnone) [i]
  · cases h
    refine ⟨_, rfl, rfl, fun is marked _ => .of_denied (fun hclean => ?_) rfl⟩
    rw [if_neg fun hnone => hstuck (.inl hnone)] at hclean
    exact Nat.not_le.mpr hlen (hclean.2 i (List.mem_append_right _ (.head _))).1
  rw [not_or, not_or, Bool.not_eq_true, Nat.not_lt] at hstuck
  obtain ⟨hroutes, hvalid, hfit⟩ := hstuck
  split at h
  · nomatch h
  rename_i work g₁ whole hscan
  cases h
  have hscanned := scanRoutes_scanned X hfit hscan
  refine ⟨_, rfl, ?_, fun is marked hl => ?_⟩
  · cases hscanned <;> rfl
  · rw [if_neg hroutes]
    exact hl.scanned hvalid hfit i (Nat.not_lt.mp hlen) hscanned

theorem add_group (h : add X S i s = .ok s') :
    (scopeOf S i.ref = none ∧ s' = s) ∨
      ∃ v g, ScopeIs S i.ref v ∧ s' = ⟨s'.work, s.groups.insert i.ref.ns g⟩ ∧
        g.scopes = (groupOf s i.ref.ns).scopes.insert v ∧
        ∀ is marked, Ledger X is marked (groupOf s i.ref.ns) →
          Ledger X (if i.routes = [] then is else is ++ [i]) marked g := by
  unfold add at h
  split at h
  · rename_i hscope
    exact .inl ⟨hscope, (Except.ok.inj h).symm⟩
  rename_i vni hscope
  split_ifs at h with hrange
  obtain ⟨g, hs', hscopes, hledger⟩ := addRoutes_group X h
  exact .inr ⟨_, g, ⟨vni, hscope, Int.not_le.mp hrange, rfl⟩, hs', hscopes, fun is marked hl =>
    hledger is marked (hl.congr rfl rfl rfl)⟩

variable {X S} in
/-- **ONE INPUT** is entered in the ledger of its namespace, and in no other. -/
theorem Known.add (hk : Known X s ns is marked scopes) (h : CozyRouteCompile.add X S i s = .ok s') :
    Known X s' ns (is ++ own S ns i) marked
      (fun v => scopes v ∨ (i.ref.ns = ns ∧ ScopeIs S i.ref v)) := by
  rcases add_group X S h with ⟨hnone, rfl⟩ | ⟨v, g, hv, hs', hscopes, hledger⟩
  · have hown : own S ns i = [] := if_neg fun hc => hc.2.1 hnone
    rw [hown, List.append_nil]
    exact hk.idle fun v ⟨_, vni, hvni, _⟩ => nomatch hvni.symm.trans hnone
  rw [hs']
  by_cases hns : i.ref.ns = ns
  · subst hns
    have hsome : scopeOf S i.ref ≠ none := Option.ne_none_iff_exists'.mpr (hv.imp fun _ h => h.1)
    refine ⟨?_, fun w => ?_, ?_⟩
    · rw [groupOf_insert_self]
      have hl := hledger is marked hk.ledger
      unfold own
      split at hl
      · rename_i hroutes
        rw [if_neg fun hc => hc.2.2 hroutes, List.append_nil]
        exact hl
      · rename_i hroutes
        rw [if_pos ⟨rfl, hsome, hroutes⟩]
        exact hl
    · rw [groupOf_insert_self, hscopes, List.mem_insert_iff, hk.proved w, or_comm]
      refine or_congr_right ?_
      constructor
      · rintro rfl
        exact ⟨rfl, hv⟩
      · rintro ⟨-, vni, hvni, -, rfl⟩
        obtain ⟨vni', hvni', -, rfl⟩ := hv
        rw [hvni] at hvni'
        rw [Option.some.inj hvni']
    · show (s.groups.insert i.ref.ns g).lookup i.ref.ns ≠ none ↔ _
      rw [AList.lookup_insert]
      exact iff_of_true (Option.some_ne_none g) ⟨v, .inr ⟨rfl, hv⟩⟩
  · have hown : own S ns i = [] := if_neg fun hc => hns hc.1
    rw [hown, List.append_nil]
    exact (hk.frame (fun heq => hns heq.symm) _ g).idle fun w hw => hns hw.1

variable {X} in
theorem Known.deny (hk : Known X s ns is marked scopes) (ns' : String) :
    Known X (CozyRouteCompile.deny ns' s) ns is (marked ∨ (ns' = ns ∧ ∃ v, scopes v)) scopes := by
  have hsame : ¬ (ns' = ns ∧ ∃ v, scopes v) →
      Known X s ns is (marked ∨ (ns' = ns ∧ ∃ v, scopes v)) scopes := by
    intro hno
    obtain heq : (marked ∨ (ns' = ns ∧ ∃ v, scopes v)) = marked :=
      propext (or_iff_left hno)
    rw [heq]
    exact hk
  unfold CozyRouteCompile.deny
  cases hl : s.groups.lookup ns' with
  | none =>
    refine hsame ?_
    rintro ⟨rfl, hex⟩
    exact hk.seen.mpr hex hl
  | some g =>
    by_cases hns : ns' = ns
    · subst hns
      have hg : groupOf s ns' = g := groupOf_some hl
      have hex : ∃ v, scopes v := hk.seen.mp (by rw [hl]; exact Option.some_ne_none g)
      refine ⟨?_, fun v => ?_, ?_⟩
      · rw [groupOf_insert_self]
        exact .of_denied (fun hc => hc.1 (.inr ⟨rfl, hex⟩)) rfl
      · rw [groupOf_insert_self, ← hk.proved v, hg]
      · show (s.groups.insert ns' _).lookup ns' ≠ none ↔ _
        rw [AList.lookup_insert]
        exact iff_of_true (Option.some_ne_none _) hex
    · exact (hsame fun hc => hns hc.1).frame (fun heq => hns heq.symm) _ _

-- ── the first pass, namespace by namespace

variable {X} in
theorem known_forEach {α : Type} {step : α → Scan → Except String Scan} {inputs : α → List RouteInput}
    {adds : α → U32 → Prop} (xs : List α)
    (hstep : ∀ x ∈ xs, ∀ s s' is scopes, Known X s ns is marked scopes → step x s = .ok s' →
      Known X s' ns (is ++ inputs x) marked (fun v => scopes v ∨ adds x v))
    (hk : Known X s ns is marked scopes) (h : forEach xs step s = .ok s') :
    Known X s' ns (is ++ xs.flatMap inputs) marked (fun v => scopes v ∨ ∃ x ∈ xs, adds x v) := by
  refine forEach_ind (I := fun done t => Known X t ns (is ++ done.flatMap inputs) marked
    (fun v => scopes v ∨ ∃ x ∈ done, adds x v)) ?_ (fun done x hx t t' ht hx' => ?_) h
  · rw [List.flatMap_nil, List.append_nil]
    exact hk.idle fun v => nofun
  · rw [List.flatMap_append, List.flatMap_singleton, ← List.append_assoc]
    refine (hstep x hx t t' _ _ ht hx').congr fun v => ?_
    rw [or_assoc]
    simp [or_and_right, exists_or]

/-- The inputs of the effective VPCGateways. -/
def gatewayInputs (ns : String) (ref : VPCRef) : List RouteInput :=
  match gatewayInput S ref with
  | none => []
  | some i => own S ns i

theorem gatewayInput_ref (h : gatewayInput S ref = some i) :
    i.ref = ref := by
  obtain ⟨gw, -, rfl⟩ := Option.map_eq_some_iff.mp h
  rfl

def gatewayScope (ns : String) (ref : VPCRef) (v : U32) : Prop :=
  gatewayInput S ref ≠ none ∧ ref.ns = ns ∧ ScopeIs S ref v

variable {X S} in
theorem Known.scanGateway (hk : Known X s ns is marked scopes)
    (h : CozyRouteCompile.scanGateway X S ref s = .ok s') :
    Known X s' ns (is ++ gatewayInputs S ns ref) marked
      (fun v => scopes v ∨ gatewayScope S ns ref v) := by
  unfold CozyRouteCompile.scanGateway at h
  unfold gatewayInputs gatewayScope
  cases hi : gatewayInput S ref with rw [hi] at h
  | none =>
    cases h
    rw [List.append_nil]
    exact hk.idle fun v hv => hv.1 rfl
  | some i =>
    obtain rfl := gatewayInput_ref S hi
    refine (hk.add h).congr fun v => or_congr_right ?_
    exact ⟨fun hv => ⟨Option.some_ne_none i, hv⟩, fun hv => hv.2⟩

def outOfRange (ref : VPCRef) : Bool :=
  match scopeOf S ref with
  | none => false
  | some vni => decide (2 ^ 22 ≤ vni)

theorem outOfRange_not_scope {v : U32} (h : outOfRange S ref = true) :
    ¬ ScopeIs S ref v := by
  rintro ⟨vni, hvni, hlt, -⟩
  unfold outOfRange at h
  rw [hvni] at h
  exact absurd (of_decide_eq_true h) (Int.not_le.mpr hlt)

theorem add_declares (ref : VPCRef) (vpn : Bool) (s : Scan) :
    (outOfRange S ref = true ∧ ∃ e, add X S ⟨ref, [], vpn⟩ s = .error e) ∨
      (outOfRange S ref = false ∧ ∃ s', add X S ⟨ref, [], vpn⟩ s = .ok s') := by
  unfold add outOfRange
  cases scopeOf S ref with
  | none => exact .inr ⟨rfl, s, rfl⟩
  | some vni =>
    by_cases hrange : 2 ^ 22 ≤ vni
    · simp only [if_pos hrange, decide_eq_true hrange]
      exact .inl ⟨trivial, _, rfl⟩
    simp only [if_neg hrange, decide_eq_false hrange]
    refine .inr ⟨trivial, ?_⟩
    unfold addRoutes
    exact ⟨_, rfl⟩

variable {X S} in
theorem Known.declareScopes (hk : Known X s ns is marked scopes) (ns' : String) (names : List String) :
    Known X (CozyRouteCompile.declareScopes X S ns' names s).1 ns is marked
      (fun v => scopes v ∨ ∃ name ∈ names, ns' = ns ∧ ScopeIs S ⟨ns', name⟩ v) := by
  induction names generalizing s scopes with
  | nil => exact hk.idle fun v => nofun
  | cons name names ih =>
    unfold CozyRouteCompile.declareScopes
    rcases add_declares X S ⟨ns', name⟩ true s with ⟨hout, e, he⟩ | ⟨-, s', hs'⟩
    · rw [he]
      refine (ih hk).congr fun v => or_congr_right ?_
      rw [List.exists_mem_cons_iff]
      exact (or_iff_right fun hv => outOfRange_not_scope S hout hv.2).symm
    · rw [hs']
      have hadd := hk.add hs'
      rw [show own S ns ⟨⟨ns', name⟩, [], true⟩ = [] from if_neg fun hc => hc.2.2 rfl,
        List.append_nil] at hadd
      refine (ih hadd).congr fun v => ?_
      rw [or_assoc, List.exists_mem_cons_iff]

theorem declareScopes_flag (ns : String) (names : List String) (s : Scan) :
    (declareScopes X S ns names s).2 = true ↔ ∃ name ∈ names, outOfRange S ⟨ns, name⟩ = true := by
  induction names generalizing s with
  | nil => exact ⟨(nomatch ·), fun ⟨_, hname, _⟩ => nomatch hname⟩
  | cons name names ih =>
    unfold declareScopes
    rw [List.exists_mem_cons_iff]
    rcases add_declares X S ⟨ns, name⟩ true s with ⟨hout, e, he⟩ | ⟨hin, s', hs'⟩
    · rw [he]
      exact iff_of_true rfl (.inl hout)
    · rw [hs', hin]
      exact (ih s').trans (or_iff_right (nomatch ·)).symm

/-- A VPN gateway whose namespace is denied. -/
def badGateway (gw : VPNGateway) : Bool :=
  gw.malformed || gw.allowed.any fun name => outOfRange S ⟨gw.ns, name⟩

def vpnInputs (o : Orders) (ns : String) (gw : VPNGateway) : List RouteInput :=
  if gw.deleting = true ∨ badGateway S gw = true then []
  else (o.byVPC gw gw.routeVPCs).flatMap fun name =>
    own S ns ⟨⟨gw.ns, name⟩, gw.routesFor name, true⟩

/-- A scope a VPN gateway declares. -/
def vpnScope (ns : String) (gw : VPNGateway) (v : U32) : Prop :=
  gw.deleting = false ∧ gw.ns = ns ∧ ∃ name ∈ gw.allowed, ScopeIs S ⟨gw.ns, name⟩ v

/-- The gateway denies the namespace, if that is known. -/
def refuses (ns : String) (gw : VPNGateway) : Prop :=
  gw.deleting = false ∧ gw.ns = ns ∧ badGateway S gw = true

theorem routeVPCs_allowed {gw : VPNGateway} (h : gw.malformed = false) {name : String}
    (hname : name ∈ gw.routeVPCs) : name ∈ gw.allowed := by
  obtain ⟨r, hr, rfl⟩ := List.mem_map.mp (List.mem_dedup.mp hname)
  have hany := (Bool.or_eq_false_iff.mp h).2
  rw [List.any_eq_false] at hany
  have hcontains := hany r hr
  rw [Bool.not_eq_true', Bool.not_eq_false] at hcontains
  exact List.contains_iff_mem.mp hcontains

theorem badGateway_flag (o : Orders) (gw : VPNGateway) (s : Scan) :
    ((declareScopes X S gw.ns (o.names gw gw.allowed) s).2 || gw.malformed) = badGateway S gw := by
  rw [Bool.or_comm]
  congr 1
  rw [Bool.eq_iff_iff, declareScopes_flag, List.any_eq_true]
  refine exists_congr fun name => and_congr_left fun _ => ?_
  exact (o.names_perm gw gw.allowed).mem_iff

variable {X S} in
/-- **ONE VPN GATEWAY.** -/
theorem Known.scanVpn (hk : Known X s ns is marked scopes) {gw : VPNGateway}
    (h : CozyRouteCompile.scanVpn X S o gw s = .ok s') :
    ∃ marked', Known X s' ns (is ++ vpnInputs S o ns gw) marked'
        (fun v => scopes v ∨ vpnScope S ns gw v) ∧
      (marked → marked') ∧ (marked' → marked ∨ refuses S ns gw) ∧
      (refuses S ns gw → (∃ v, vpnScope S ns gw v) → marked') := by
  unfold CozyRouteCompile.scanVpn at h
  unfold vpnInputs vpnScope refuses
  cases hdel : gw.deleting with
  | true =>
    rw [hdel] at h
    cases h
    rw [if_pos (.inl rfl), List.append_nil]
    exact ⟨marked, hk.idle fun v hv => (nomatch hv.1), id, .inl, fun hr => nomatch hr.1⟩
  | false =>
    rw [hdel] at h
    simp only [Bool.false_eq_true, if_false, badGateway_flag] at h
    have hdeclared := hk.declareScopes (S := S) gw.ns (o.names gw gw.allowed)
    have hscopes : ∀ v, (scopes v ∨ ∃ name ∈ o.names gw gw.allowed,
        gw.ns = ns ∧ ScopeIs S ⟨gw.ns, name⟩ v) ↔
        scopes v ∨ (false = false ∧ gw.ns = ns ∧ ∃ name ∈ gw.allowed, ScopeIs S ⟨gw.ns, name⟩ v) := by
      intro v
      simp [(o.names_perm gw gw.allowed).mem_iff, and_left_comm]
    have hknown := hdeclared.congr hscopes
    cases hbad : badGateway S gw with
    | true =>
      rw [hbad] at h
      cases h
      rw [if_pos (.inr rfl), List.append_nil]
      refine ⟨_, hknown.deny gw.ns, .inl, ?_, ?_⟩
      · rintro (hm | ⟨hns, -⟩)
        · exact .inl hm
        · exact .inr ⟨rfl, hns, rfl⟩
      · rintro ⟨-, hns, -⟩ ⟨v, hv⟩
        exact .inr ⟨hns, v, .inr hv⟩
    | false =>
      rw [hbad] at h
      rw [if_neg (by rintro (hc | hc) <;> nomatch hc)]
      have hloop := known_forEach (o.byVPC gw gw.routeVPCs)
        (fun name _ t t' is scopes ht hstep => ht.add hstep) hknown h
      refine ⟨marked, hloop.congr fun v => ⟨?_, .inl⟩, id, .inl, fun hr => nomatch hr.2.2⟩
      have hformed : gw.malformed = false := (Bool.or_eq_false_iff.mp hbad).1
      rintro (hv | ⟨name, hname, hns, hv⟩)
      · exact hv
      · have hmem := (o.byVPC_perm gw _).mem_iff.mp hname
        exact .inr ⟨rfl, hns, name, routeVPCs_allowed hformed hmem, hv⟩

theorem scanVpns_known (gws : List VPNGateway) (hk : Known X s ns is marked scopes)
    (h : forEach gws (scanVpn X S o) s = .ok s') :
    ∃ marked', Known X s' ns (is ++ gws.flatMap (vpnInputs S o ns)) marked'
        (fun v => scopes v ∨ ∃ gw ∈ gws, vpnScope S ns gw v) ∧
      (marked → marked') ∧ (marked' → marked ∨ ∃ gw ∈ gws, refuses S ns gw) ∧
      ∀ gw ∈ gws, refuses S ns gw → (∃ v, vpnScope S ns gw v) → marked' := by
  induction gws generalizing s is marked scopes with
  | nil =>
    cases h
    rw [List.flatMap_nil, List.append_nil]
    exact ⟨marked, hk.idle fun v => nofun, id, .inl, nofun⟩
  | cons gw gws ih =>
    obtain ⟨t, hgw, hrest⟩ := forEach_cons_ok h
    obtain ⟨marked₁, hk₁, hup₁, hback₁, hset₁⟩ := hk.scanVpn hgw
    obtain ⟨marked₂, hk₂, hup₂, hback₂, hset₂⟩ := ih hk₁ hrest
    rw [List.flatMap_cons, ← List.append_assoc]
    refine ⟨marked₂, hk₂.congr fun v => ?_, hup₂ ∘ hup₁, fun hm => ?_,
      List.forall_mem_cons.mpr ⟨fun hr hv => hup₂ (hset₁ hr hv), hset₂⟩⟩
    · rw [or_assoc, List.exists_mem_cons_iff]
    · rw [List.exists_mem_cons_iff, ← or_assoc]
      exact (hback₂ hm).imp_left hback₁

/-- All inputs of a namespace, in the order they are read. -/
def inputsOf (o : Orders) (ns : String) : List RouteInput :=
  (o.refs (candidateRefs S)).flatMap (gatewayInputs S ns) ++ S.vpns.flatMap (vpnInputs S o ns)

def ownsScope (ns : String) (v : U32) : Prop :=
  (∃ ref ∈ candidateRefs S, gatewayScope S ns ref v) ∨ ∃ gw ∈ S.vpns, vpnScope S ns gw v

/-- **THE FIRST PASS** has a ledger for every namespace. -/
theorem scan_ledger (h : scanSnapshot X S o = .ok s) (ns : String) :
    ∃ marked, Known X s ns (inputsOf S o ns) marked (ownsScope S ns) ∧
      (marked → ∃ gw ∈ S.vpns, refuses S ns gw) ∧
      ∀ gw ∈ S.vpns, refuses S ns gw → (∃ v, vpnScope S ns gw v) → marked := by
  unfold scanSnapshot at h
  split at h
  · nomatch h
  rename_i work _
  split at h
  · nomatch h
  rename_i t hgws
  split at h
  · nomatch h
  rename_i work' _
  have hstart : Known X ⟨work, ∅⟩ ns [] False (fun _ => False) :=
    ⟨freshGroup_ledger X, fun v => ⟨(nomatch ·), False.elim⟩, fun hne => absurd rfl hne, fun ⟨_, hv⟩ => hv.elim⟩
  have hgateways := known_forEach (o.refs (candidateRefs S))
    (fun ref _ s s' is scopes hs hstep => hs.scanGateway hstep) hstart hgws
  have hwork : Known X { t with work := work' } ns _ False _ :=
    ⟨hgateways.ledger, hgateways.proved, hgateways.seen⟩
  obtain ⟨marked, hk, -, hback, hset⟩ := scanVpns_known X S S.vpns hwork h
  refine ⟨marked, hk.congr fun v => ?_, fun hm => (hback hm).resolve_left id, hset⟩
  rw [false_or]
  exact or_congr_left (exists_congr fun ref => and_congr_left fun _ => (o.refs_perm _).mem_iff)

theorem routeBudgets_mem (ns : String) :
    routeBudgets groups ns = 0 ∨ (ns, routeBudgets groups ns) ∈
      FairShare.serve (demandOf groups) routeCapacity
        ((claimants groups).insertionSort (servedBefore groups)) := by
  unfold routeBudgets
  cases hl : (FairShare.serve (demandOf groups) routeCapacity
      ((claimants groups).insertionSort (servedBefore groups))).lookup ns with
  | none => exact .inl rfl
  | some b =>
    obtain ⟨l₁, l₂, heq, -⟩ := List.lookup_eq_some_iff.mp hl
    refine .inr ?_
    rw [heq]
    exact List.mem_append_right _ (.head _)

theorem routeBudgets_le (ns : String) :
    routeBudgets groups ns ≤ routeCapacity := by
  rcases routeBudgets_mem groups ns with hzero | hmem
  · rw [hzero]
    exact Nat.zero_le _
  · have hle := List.le_sum_of_mem (List.mem_map_of_mem (f := Prod.snd) hmem)
    exact Nat.le_trans hle (FairShare.serve_total _ _ _)

theorem denied_eq_false {groups : KMap String RouteNamespace} :
    denied groups ns g = false ↔ g.invalid = false ∧ g.demand ≤ routeBudgets groups ns := by
  unfold denied
  rw [Bool.or_eq_false_iff, decide_eq_false_iff_not, Nat.not_lt]

-- ── the second pass

/-- A row that an input asks for, as a node resolves it. -/
def Resolves (self : String) (i : RouteInput) (d : DesiredRoute) : Prop :=
  ∃ vni, scopeOf S i.ref = some vni ∧ ∃ r ∈ i.routes, ∃ cidr ∈ r.cidrs,
    d = ⟨BitVec.ofInt 32 vni, cidr, routeHops X S self i.ref vni r, none, none, i.vpn⟩

/-- The prefixes and the blocked scopes collected so far. -/
def collected (c : Compiled) : DesiredRoute ⊕ U32 → Prop
  | .inl d => d ∈ c.desired
  | .inr v => v ∈ c.blocked

theorem emitCidr_adds (vni : Int) (hops : List RouteNextHop) (vpn : Bool) (cidr : String) :
    Adds collected (emitCidr vni hops vpn cidr)
      (fun x => x = .inl ⟨BitVec.ofInt 32 vni, cidr, hops, none, none, vpn⟩) := by
  intro c c' h x
  unfold emitCidr at h
  split_ifs at h
  cases h
  cases x with
  | inl d =>
    show d ∈ c.desired ++ [_] ↔ d ∈ c.desired ∨ _
    rw [List.mem_append, List.mem_singleton]
    exact or_congr_right ⟨congrArg Sum.inl, Sum.inl.inj⟩
  | inr v => exact (or_iff_left (nomatch ·)).symm

theorem resolveRoute_adds (ref : VPCRef) (vni : Int) (vpn : Bool) (r : RouteStatus) :
    Adds collected (resolveRoute X S self ref vni vpn r) (fun x => ∃ cidr ∈ r.cidrs,
      x = .inl ⟨BitVec.ofInt 32 vni, cidr, routeHops X S self ref vni r, none, none, vpn⟩) := by
  intro c c' h x
  unfold resolveRoute at h
  split at h
  · nomatch h
  split_ifs at h
  split at h
  · nomatch h
  split at h
  · nomatch h
  rw [Adds.forEach r.cidrs (fun cidr _ => emitCidr_adds vni _ vpn cidr) _ c' h x]
  refine or_congr_left ?_
  cases x with
  | inl d | inr v => exact Iff.rfl

theorem resolveRoutes_adds (i : RouteInput) :
    Adds collected (resolveRoutes X S self i)
      (fun x => ∃ d, x = .inl d ∧ Resolves X S self i d) := by
  intro c c' h x
  unfold resolveRoutes at h
  split at h
  · rename_i hscope
    cases h
    exact (or_iff_left fun ⟨_, _, _, hvni, _⟩ => nomatch hscope.symm.trans hvni).symm
  rename_i vni hscope
  rw [Adds.forEach i.routes (fun r _ => resolveRoute_adds X S self i.ref vni i.vpn r) c c' h x]
  refine or_congr_right ⟨?_, ?_⟩
  · rintro ⟨r, hr, cidr, hcidr, rfl⟩
    exact ⟨_, rfl, vni, hscope, r, hr, cidr, hcidr, rfl⟩
  · rintro ⟨d, rfl, vni', hvni', r, hr, cidr, hcidr, rfl⟩
    cases hscope.symm.trans hvni'
    exact ⟨r, hr, cidr, hcidr, rfl⟩

def contributes (self : String) (groups : KMap String RouteNamespace) (ns : String) :
    DesiredRoute ⊕ U32 → Prop
  | .inl d => ∃ g, groups.lookup ns = some g ∧ denied groups ns g = false ∧
      ∃ i ∈ g.inputs, Resolves X S self i d
  | .inr v => ∃ g, groups.lookup ns = some g ∧ denied groups ns g = true ∧ v ∈ g.scopes

theorem emitGroup_adds (ns : String) :
    Adds collected (emitGroup X S self groups ns) (contributes X S self groups ns) := by
  intro c c' h x
  unfold emitGroup at h
  split at h
  · rename_i hg
    cases h
    refine (or_iff_left ?_).symm
    cases x with
    | inl d | inr v => exact fun ⟨g, hl, _⟩ => nomatch hg.symm.trans hl
  rename_i g hg
  split_ifs at h with hd
  · cases h
    cases x with
    | inl d =>
      refine (or_iff_left ?_).symm
      rintro ⟨g', hl, hno, -⟩
      cases hg.symm.trans hl
      nomatch hd.symm.trans hno
    | inr v =>
      show v ∈ c.blocked ++ g.scopes ↔ v ∈ c.blocked ∨ _
      rw [List.mem_append]
      refine or_congr_right ⟨fun hv => ⟨g, hg, hd, hv⟩, ?_⟩
      rintro ⟨g', hl, -, hv⟩
      cases hg.symm.trans hl
      exact hv
  · rw [Adds.forEach g.inputs (fun i _ => resolveRoutes_adds X S self i) c c' h x]
    refine or_congr_right ?_
    cases x with
    | inl d =>
      constructor
      · rintro ⟨i, hi, d', heq, hd'⟩
        cases heq
        exact ⟨g, hg, Bool.eq_false_iff.mpr hd, i, hi, hd'⟩
      · rintro ⟨g', hl, -, i, hi, hd'⟩
        cases hg.symm.trans hl
        exact ⟨i, hi, d, rfl, hd'⟩
    | inr v =>
      refine iff_of_false (fun ⟨_, _, _, heq, _⟩ => nomatch heq) ?_
      rintro ⟨g', hl, hyes, -⟩
      cases hg.symm.trans hl
      exact hd hyes

/-- **A COMPILATION AS SETS.** The rows are those of the namespaces within their budget, the
    blocked scopes those of the others. -/
theorem compile_spec {self : String} {c : Compiled} (h : compileRoutes X S o self = .ok c) :
    ∃ s, scanSnapshot X S o = .ok s ∧
      (∀ d, d ∈ c.desired ↔ ∃ ns g, s.groups.lookup ns = some g ∧ denied s.groups ns g = false ∧
        ∃ i ∈ g.inputs, Resolves X S self i d) ∧
      ∀ v, v ∈ c.blocked ↔ ∃ ns g, s.groups.lookup ns = some g ∧ denied s.groups ns g = true ∧
        v ∈ g.scopes := by
  unfold compileRoutes at h
  cases hs : scanSnapshot X S o with
  | error e =>
    rw [hs] at h
    nomatch h
  | ok s =>
    rw [hs] at h
    have hall := Adds.forEach (o.groups s.groups.keys)
      (fun ns _ => emitGroup_adds X S self s.groups ns) _ c h
    have hkey : ∀ {ns g}, s.groups.lookup ns = some g → ns ∈ o.groups s.groups.keys := by
      intro ns g hl
      refine (o.groups_perm _).mem_iff.mpr (AList.mem_keys.mpr ?_)
      exact mem_iff_lookup.mpr ⟨g, hl⟩
    refine ⟨s, rfl, fun d => ?_, fun v => ?_⟩
    · rw [show d ∈ c.desired ↔ collected c (.inl d) from Iff.rfl, hall,
        or_iff_right (show ¬ collected ⟨s.work, [], []⟩ (.inl d) from (nomatch ·))]
      constructor
      · rintro ⟨ns, -, g, hrest⟩
        exact ⟨ns, g, hrest⟩
      · rintro ⟨ns, g, hl, hrest⟩
        exact ⟨ns, hkey hl, g, hl, hrest⟩
    · rw [show v ∈ c.blocked ↔ collected c (.inr v) from Iff.rfl, hall,
        or_iff_right (show ¬ collected ⟨s.work, [], []⟩ (.inr v) from (nomatch ·))]
      constructor
      · rintro ⟨ns, -, g, hrest⟩
        exact ⟨ns, g, hrest⟩
      · rintro ⟨ns, g, hl, hrest⟩
        exact ⟨ns, hkey hl, g, hl, hrest⟩

/-- A namespace within its budget has its inputs whole. -/
theorem granted_inputs (hs : scanSnapshot X S o = .ok s) (hg : s.groups.lookup ns = some g)
    (hd : denied s.groups ns g = false) :
    g.inputs = inputsOf S o ns ∧ g.demand = total (inputsOf S o ns) ∧
      (∀ i ∈ inputsOf S o ns, i.Valid X) ∧
      ∀ gw ∈ S.vpns, refuses S ns gw → ¬ ∃ v, vpnScope S ns gw v := by
  obtain ⟨marked, hk, -, hset⟩ := scan_ledger X S hs ns
  obtain ⟨hvalid, hbudget⟩ := denied_eq_false.mp hd
  have hfit := Nat.le_trans hbudget (routeBudgets_le s.groups ns)
  have hledger : Ledger X (inputsOf S o ns) marked g := groupOf_some hg ▸ hk.ledger
  obtain ⟨-, hclean, hdemand, hinputs⟩ := hledger.healthy hvalid hfit
  exact ⟨hinputs, hdemand, hclean.2, fun gw hgw hr hv => hclean.1 (hset gw hgw hr hv)⟩

end CozyRouteCompile
