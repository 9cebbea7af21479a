import Cozyplane.CidrOverlapProofs
import Cozyplane.KprReconcileProofs
import Cozyplane.LbStepProofs
import Cozyplane.NpCompileProofs

/-!
# kpr — loadBalancerSourceRanges

`computeRows` turns a Service and its EndpointSlices into rows of `svc_vips`, from four blocks:
cluster IPs, load-balancer ingress addresses, externalIPs and node ports. A load-balancer row of
a Service with source ranges carries a flag, and the ranges go to `lb_src` under the ingress address:
WITHOUT THE PORT, without the Service, and with both families in one 128-bit space.

So `lb_ingress` filters a frontend by whatever row was written there last, against the ranges of
everybody who published some under that address. A reconcile writes only what its own Service asks
for differently than last time, so which row is the last one depends on the whole history.
-/

namespace CozyKpr

open PrefixTable RangePolicy KernelMap IndexDiff CozyPacket CozyMaps CozyDatapath CozyCidr
open CozyCidrOverlap CozyNpCompile CozyLb CozyNat

/-- `discoveryv1.AddressType`. -/
inductive AddressType where
  | ipv4
  | ipv6
  | fqdn
  deriving DecidableEq

/-- `discoveryv1.EndpointPort`. -/
structure EndpointPort where
  name : Option String
  port : Option U32
  deriving DecidableEq

/-- `discoveryv1.Endpoint`. -/
structure Endpoint where
  ready : Option Bool
  nodeName : Option String
  addresses : List String
  deriving DecidableEq

/-- `service` is the label that names its Service. -/
structure EndpointSlice where
  ns : String
  service : Option String
  addressType : AddressType
  ports : List EndpointPort
  endpoints : List Endpoint
  deriving DecidableEq

/-- `corev1.ServiceType`. -/
inductive ServiceType where
  | clusterIP
  | nodePort
  | loadBalancer
  | externalName
  deriving DecidableEq

/-- `corev1.ServicePort`. -/
structure ServicePort where
  name : String
  protocol : Protocol
  port : U32
  nodePort : U32
  deriving DecidableEq

/-- `corev1.LoadBalancerIPMode`. -/
inductive IPMode where
  | vip
  | proxy
  deriving DecidableEq

/-- `corev1.LoadBalancerIngress`. -/
structure LbAddress where
  ip : String
  ipMode : Option IPMode
  deriving DecidableEq

/-- `proxyName` is the label `service.kubernetes.io/service-proxy-name`; `affinity` is ClientIP
    affinity and `etpLocal` the Local policy. -/
structure Service where
  ns : String
  name : String
  proxyName : Option String
  type : ServiceType
  clusterIP : String
  clusterIPs : List String
  ports : List ServicePort
  affinity : Bool
  etpLocal : Bool
  sourceRanges : List String
  ingress : List LbAddress
  externalIPs : List String
  deriving DecidableEq

/-- What kpr is started with, and the two text functions it uses (`netip.ParseAddr` for an address
    without zone, `strings.TrimSpace`). -/
structure Env where
  parseAddr : String → Option Ip
  trimSpace : String → String
  serviceProxyName : String
  nodeName : String
  nodeAddrs : List Addr
  clusterDSR : Bool

/-- The 16-byte form of a `net.IP`. -/
def as16 : Ip → Addr
  | .v4 a => 0xffff#96 ++ a
  | .v6 a => a

def Env.parseIP (E : Env) (s : String) : Option Addr := (E.parseAddr s).map as16

def Service.key (s : Service) : String := s.ns ++ "/" ++ s.name

def svcMaxBackends : Nat := 16
def svcFAffinity : U32 := 1#32
def svcFSrcRanges : U32 := 2#32

def protoNum : Protocol → Option U8
  | .tcp => some 6#8
  | .udp => some 17#8
  | .other _ => none

/-- `bucketKey`: whether the address is IPv4, and the port's name. -/
abbrev BucketKey := Bool × String

abbrev Buckets := BucketKey → List SvcBackend

def add (m : Buckets) (bk : BucketKey) (be : SvcBackend) : Buckets :=
  if (m bk).length < svcMaxBackends then Function.update m bk (m bk ++ [be]) else m

/-- A ready address of a slice: its bucket, the backend, and whether it is on this node. -/
structure Ready where
  bucket : BucketKey
  backend : SvcBackend
  isLocal : Bool
  deriving DecidableEq

def readyOn (E : Env) (v4 : Bool) (es : EndpointSlice) : List Ready :=
  es.ports.flatMap fun ep =>
    match ep.port with
    | none => []
    | some port =>
      es.endpoints.flatMap fun e =>
        if e.ready = some false then []
        else
          let isLocal := E.nodeName != "" && e.nodeName == some E.nodeName
          e.addresses.filterMap fun a =>
            (E.parseIP a).map fun ip => ⟨(v4, ep.name.getD ""), ⟨addr128 ip, port.setWidth 16⟩, isLocal⟩

def readyOf (E : Env) (es : EndpointSlice) : List Ready :=
  match es.addressType with
  | .ipv4 => readyOn E true es
  | .ipv6 => readyOn E false es
  | .fqdn => []

def bucketsOf (ready : List Ready) : Buckets :=
  ready.foldl (fun m r => add m r.bucket r.backend) fun _ => []

abbrev VipRow := SvcKey × SvcVal

def mkVal (s : Service) (be : List SvcBackend) : SvcVal :=
  ⟨BitVec.ofNat 32 be.length, if s.affinity then svcFAffinity else 0#32,
    fun i => be.getD i.val ⟨0#128, 0#16⟩⟩

def row (s : Service) (backends : Buckets) (flags : U32) (sp : ServicePort) (port : U32) (ip : Addr) :
    Option VipRow :=
  match protoNum sp.protocol with
  | none => none
  | some proto =>
    match backends (is4In6 ip, sp.name) with
    | [] => none
    | be => some (⟨0#32, addr128 ip, proto, port.setWidth 16⟩,
        { mkVal s be with flags := (mkVal s be).flags ||| flags })

section

variable (E : Env) (slices : List EndpointSlice)

def slicesOf (s : Service) : List EndpointSlice :=
  slices.filter fun es => es.ns == s.ns && es.service == some s.name

def ready (s : Service) : List Ready := (slicesOf slices s).flatMap (readyOf E)

def buckets (s : Service) : Buckets := bucketsOf (ready E slices s)

def localBuckets (s : Service) : Buckets := bucketsOf ((ready E slices s).filter Ready.isLocal)

/-- The backends of an external frontend. -/
def pick (s : Service) : Buckets :=
  if s.etpLocal || !E.clusterDSR then localBuckets E slices s else buckets E slices s

/-- The rows of the cluster IPs. -/
def clusterRows (s : Service) : List VipRow :=
  let ips := if s.clusterIPs.isEmpty && s.clusterIP != "" then [s.clusterIP] else s.clusterIPs
  s.ports.flatMap fun sp => ips.filterMap fun ip =>
    if ip = "None" then none else (E.parseIP ip).bind (row s (buckets E slices s) 0#32 sp sp.port)

def vipIngress (s : Service) : List Addr :=
  s.ingress.filterMap fun ing =>
    if ing.ip = "" ∨ ing.ipMode = some .proxy then none else E.parseIP ing.ip

def rangeFlag (s : Service) : U32 := if s.sourceRanges.isEmpty then 0#32 else svcFSrcRanges

/-- The load-balancer rows of one ingress address. -/
def lbRowsAt (s : Service) (ip : Addr) : List VipRow :=
  s.ports.filterMap fun sp => row s (pick E slices s) (rangeFlag s) sp sp.port ip

def lbRows (s : Service) : List VipRow :=
  if s.type = .loadBalancer then (vipIngress E s).flatMap (lbRowsAt E slices s) else []

/-- The rows of the external IPs. -/
def externalRows (s : Service) : List VipRow :=
  (s.externalIPs.filterMap E.parseIP).flatMap fun ip =>
    s.ports.filterMap fun sp => row s (pick E slices s) 0#32 sp sp.port ip

/-- The rows of the node ports. -/
def nodePortRows (s : Service) : List VipRow :=
  if s.type = .nodePort ∨ s.type = .loadBalancer then
    s.ports.flatMap fun sp =>
      if sp.nodePort = 0#32 then []
      else E.nodeAddrs.filterMap (row s (pick E slices s) 0#32 sp sp.nodePort)
  else []

/-- A parsed range as `lb_src` stores it: an IPv4 address is 96 bits further in. -/
def srcRange : IPNet → Addr × Nat
  | .mask4 ip ones => (v4To128 ip, ones.val + 96)
  | .mask16 ip ones => (addr128 ip, if is4In6 ip then ones.val + 96 else ones.val)

/-- The source ranges that parse. -/
def ranges (s : Service) : List IPNet :=
  s.sourceRanges.filterMap fun x => parseCIDR E.parseAddr (E.trimSpace x)

def srcKey (vip : Addr) (c : IPNet) : LbSrcKey := ⟨128 + (srcRange c).2, vip ++ (srcRange c).1⟩

/-- The ranges go under every ingress address that got a row. -/
def srcRows (s : Service) : List LbSrcKey :=
  if s.type = .loadBalancer then
    (vipIngress E s).flatMap fun ip =>
      if (lbRowsAt E slices s ip).isEmpty then [] else (ranges E s).map (srcKey (addr128 ip))
  else []

def handledByProxy (s : Service) : Bool :=
  if E.serviceProxyName = "" then s.proxyName.isNone else s.proxyName == some E.serviceProxyName

/-- `computeRows`: the rows in the order they are written; a later row replaces an earlier one. -/
def computeRows (s : Service) : List VipRow × List LbSrcKey :=
  (clusterRows E slices s ++ lbRows E slices s ++ externalRows E slices s ++ nodePortRows E slices s,
    srcRows E slices s)

/-- `computeService`: a Service that is gone, external or another proxy's wants nothing. -/
def computeService : Option Service → List VipRow × List LbSrcKey
  | none => ([], [])
  | some s =>
    if s.type = .externalName then ([], [])
    else if !handledByProxy E s then ([], [])
    else computeRows E slices s

/-- A Go map filled row by row. -/
def fill {κ ν : Type} [DecidableEq κ] (rows : List (κ × ν)) : KMap κ ν :=
  rows.foldl (fun m r => m.insert r.1 r.2) ∅

end

/-- `reconcileService` for a key: what the listers return for it at that time. -/
structure Reconcile where
  key : String
  svc : Option Service
  slices : List EndpointSlice

section

variable (E : Env)

/-- The rows a reconcile asks for. -/
def Reconcile.desired (e : Reconcile) : KMap SvcKey SvcVal := fill (computeService E e.slices e.svc).1

/-- The source ranges a reconcile asks for. -/
def Reconcile.desiredSrc (e : Reconcile) : KMap LbSrcKey Unit :=
  fill ((computeService E e.slices e.svc).2.map fun k => (k, ()))

/-- The reconciles, newest first, as runs over `svc_vips`. -/
def vipRuns (hist : List Reconcile) : List (String × KMap SvcKey SvcVal) :=
  hist.map fun e => (e.key, e.desired E)

/-- The same as runs over `lb_src`. -/
def srcRuns (hist : List Reconcile) : List (String × KMap LbSrcKey Unit) :=
  hist.map fun e => (e.key, e.desiredSrc E)

/-- The kernel refuses a key of `lb_src` that is longer than the address pair. -/
def Reconcile.Fits (e : Reconcile) : Prop :=
  ∀ k ∈ (computeService E e.slices e.svc).2, k.plen ≤ 128 + 128

/-- Reconciles one after the other, the newest first, of which no operation fails. -/
inductive Applied (r : Kpr) : List Reconcile → Kpr → Prop where
  | done : Applied r [] r
  | next {r' : Kpr} {hist : List Reconcile} {e : Reconcile} {vipOps : List (Op SvcKey SvcVal)}
      {srcOps : List (Op LbSrcKey Unit)} :
      Applied r hist r' → (∀ s, e.svc = some s → s.key = e.key) → e.Fits E →
      Diffs (r'.vips.owned e.key) (e.desired E) vipOps →
      Diffs (r'.srcs.owned e.key) (e.desiredSrc E) srcOps →
      Applied r (e :: hist)
        (step r' (.apply e.key (e.desired E) vipOps none (e.desiredSrc E) srcOps none))

/-- `seed` and the worker after it: the reconciles of the start-up pass, the sweep of what no index
    holds (of `svc_vips` only the rows of the default network), and any reconciles since. -/
structure Reconciled (first later : List Reconcile) (vips : KMap SvcKey SvcVal)
    (srcs : KMap LbSrcKey Unit) (r : Kpr) : Prop where
  run : ∃ r₁ keys srcKeys, Applied E (Kpr.start vips srcs) first r₁ ∧
    (∀ k, k ∈ keys ↔ k.net = 0#32 ∧ k ∈ r₁.vips.map ∧ ∀ key, k ∉ r₁.vips.owned key) ∧
    (∀ k, k ∈ srcKeys ↔ k ∈ r₁.srcs.map ∧ ∀ key, k ∉ r₁.srcs.owned key) ∧
    Applied E (step (step r₁ (.sweepVips keys)) (.sweepSrcs srcKeys)) later r

/-- A LoadBalancer Service of this proxy. -/
def Serves (s : Service) : Prop := s.type = .loadBalancer ∧ handledByProxy E s = true

/-- One of the Service's own ranges, of the client's family, has the client. -/
def Admits (s : Service) (c : Ip) : Prop := ∃ n ∈ ranges E s, n.contains c = true

/-- A reconcile asks for the range under the address. -/
def Reconcile.Publishes (e : Reconcile) (vip : Addr) (n : IPNet) : Prop :=
  ∃ s, e.svc = some s ∧ Serves E s ∧ ∃ ip ∈ vipIngress E s, addr128 ip = vip ∧
    lbRowsAt E e.slices s ip ≠ [] ∧ n ∈ ranges E s

/-- Some reconcile has published the range, and none has withdrawn it since. -/
def Published (hist : List Reconcile) (vip : Addr) (n : IPNet) : Prop :=
  (∃ e ∈ hist, e.Publishes E vip n) ∧ written (srcRuns E hist) (srcKey vip n) = some ()

/-- The last reconcile that changed its Service's row at the frontend left a filtered one. -/
def Filtered (hist : List Reconcile) (k : SvcKey) : Prop :=
  ∃ v, written (vipRuns E hist) k = some v ∧ hasBit v.flags svcFSrcRanges = true

/-- The history keeps the Service's ranges at a frontend. -/
structure Keeps (hist : List Reconcile) (s : Service) (ip : Addr) (k : SvcKey) : Prop where
  /-- At a filtered row no range under the address reaches beyond the Service's own. -/
  within : Filtered E hist k → ∀ n, Published E hist (addr128 ip) n →
    ∀ c : Ip, c.isV4 = is4In6 ip → (cidrRange n).contains c.key = true → Admits E s c
  /-- There its own ranges have not been withdrawn. -/
  standing : Filtered E hist k → ∀ c : Ip, c.isV4 = is4In6 ip → Admits E s c →
    ∃ n, Published E hist (addr128 ip) n ∧ (cidrRange n).contains c.key = true
  /-- A row without the flag is left only where the ranges are the whole family. -/
  unfiltered : ¬ Filtered E hist k → written (vipRuns E hist) k ≠ none →
    ∀ c : Ip, c.isV4 = is4In6 ip → Admits E s c
  /-- A row is taken away only where the ranges are empty. -/
  missing : written (vipRuns E hist) k = none → ∀ c : Ip, c.isV4 = is4In6 ip → ¬ Admits E s c

end

/-- The source-range check of `lb_ingress`. -/
def passes (m : Maps) (k : SvcKey) (client : Addr) : Bool :=
  match m.svcVips k with
  | none => false
  | some sv => sv.n != 0#32 && !(hasBit sv.flags 2#32 && (find m.lbSrc (k.vip ++ client)).isNone)

variable {E : Env} {slices : List EndpointSlice} {s : Service} {svc : Option Service}
  {e : Reconcile} {hist : List Reconcile}

section

variable {κ ν : Type} [DecidableEq κ]

theorem lookup_fill_append (rows : List (κ × ν)) (r : κ × ν) (k : κ) :
    (fill (rows ++ [r])).lookup k = if k = r.1 then some r.2 else (fill rows).lookup k := by
  unfold fill
  rw [List.foldl_append]
  show ((fill rows).insert r.1 r.2).lookup k = _
  split
  · rename_i hk
    rw [hk, AList.lookup_insert]
  rename_i hk
  rw [AList.lookup_insert_ne hk]
  rfl

theorem mem_of_lookup_fill {rows : List (κ × ν)} {k : κ} {v : ν} (h : (fill rows).lookup k = some v) :
    (k, v) ∈ rows := by
  induction rows using List.reverseRecOn with
  | nil => nomatch h
  | append_singleton rows r ih =>
    rw [lookup_fill_append] at h
    split at h
    · rename_i hk
      cases h
      exact List.mem_append_right _ (hk ▸ List.mem_singleton_self _)
    · exact List.mem_append_left _ (ih h)

end

theorem bucketsOf_length (l : List Ready) (bk : BucketKey) :
    (bucketsOf l bk).length ≤ svcMaxBackends := by
  induction l using List.reverseRecOn with
  | nil => exact Nat.zero_le _
  | append_singleton l r ih =>
    unfold bucketsOf
    rw [List.foldl_append]
    show (add (bucketsOf l) r.bucket r.backend bk).length ≤ _
    unfold add
    split
    · rename_i hroom
      by_cases hb : bk = r.bucket
      · rw [hb, Function.update_self, List.length_append]
        exact hroom
      · rw [Function.update_of_ne hb]
        exact ih
    · exact ih

theorem pick_length (s : Service) (bk : BucketKey) : (pick E slices s bk).length ≤ svcMaxBackends := by
  unfold pick
  split
  · exact bucketsOf_length ..
  · exact bucketsOf_length ..

theorem row_some {backends : Buckets} (hroom : ∀ bk, (backends bk).length ≤ svcMaxBackends)
    {flags : U32} {sp : ServicePort} {port : U32} {ip : Addr} {r : VipRow}
    (h : row s backends flags sp port ip = some r) :
    r.2.n ≠ 0#32 ∧ r.1.net = 0#32 ∧ r.1.vip = addr128 ip := by
  unfold row at h
  split at h
  · nomatch h
  cases hb : backends (is4In6 ip, sp.name) with
  | nil => rw [hb] at h; nomatch h
  | cons b bs =>
    rw [hb] at h
    cases h
    refine ⟨fun hzero => ?_, rfl, rfl⟩
    have hlen := hroom (is4In6 ip, sp.name)
    rw [hb] at hlen
    have hval := congrArg BitVec.toNat hzero
    simp only [mkVal, BitVec.toNat_ofNat, svcMaxBackends, List.length_cons] at hval hlen
    omega

theorem mem_computeService {r : VipRow} (h : r ∈ (computeService E slices svc).1) :
    r.2.n ≠ 0#32 ∧ r.1.net = 0#32 := by
  unfold computeService at h
  split at h
  · nomatch h
  rename_i s
  split at h
  · nomatch h
  split at h
  · nomatch h
  have hrow : ∀ {backends : Buckets}, (∀ bk, (backends bk).length ≤ svcMaxBackends) →
      ∀ {flags sp port ip}, row s backends flags sp port ip = some r → r.2.n ≠ 0#32 ∧ r.1.net = 0#32 :=
    fun hroom _ _ _ _ h => ⟨(row_some hroom h).1, (row_some hroom h).2.1⟩
  rcases List.mem_append.mp h with h | h
  · rcases List.mem_append.mp h with h | h
    · rcases List.mem_append.mp h with h | h
      · obtain ⟨sp, _, h⟩ := List.mem_flatMap.mp h
        obtain ⟨x, _, h⟩ := List.mem_filterMap.mp h
        split at h
        · nomatch h
        · obtain ⟨ip, _, h⟩ := Option.bind_eq_some_iff.mp h
          exact hrow (bucketsOf_length _) h
      · unfold lbRows at h
        split at h
        · obtain ⟨ip, _, h⟩ := List.mem_flatMap.mp h
          obtain ⟨sp, _, h⟩ := List.mem_filterMap.mp h
          exact hrow (pick_length s) h
        · nomatch h
    · obtain ⟨ip, _, h⟩ := List.mem_flatMap.mp h
      obtain ⟨sp, _, h⟩ := List.mem_filterMap.mp h
      exact hrow (pick_length s) h
  · unfold nodePortRows at h
    split at h
    · obtain ⟨sp, _, h⟩ := List.mem_flatMap.mp h
      split at h
      · nomatch h
      · obtain ⟨ip, _, h⟩ := List.mem_filterMap.mp h
        exact hrow (pick_length s) h
    · nomatch h

theorem mem_srcs {k : LbSrcKey} : k ∈ (computeService E e.slices e.svc).2 ↔
    ∃ vip n, e.Publishes E vip n ∧ k = srcKey vip n := by
  constructor
  · intro hk
    unfold computeService at hk
    split at hk
    · nomatch hk
    next s hsvc =>
    split at hk
    · nomatch hk
    split at hk
    · nomatch hk
    next hproxy =>
    unfold computeRows srcRows at hk
    split at hk
    · next htype =>
      obtain ⟨ip, hip, hk⟩ := List.mem_flatMap.mp hk
      split at hk
      · nomatch hk
      next hrows =>
      obtain ⟨n, hn, rfl⟩ := List.mem_map.mp hk
      refine ⟨_, n, ⟨s, hsvc, ⟨htype, ?_⟩, ip, hip, rfl, fun he => hrows (by rw [he]; rfl), hn⟩, rfl⟩
      rw [Bool.not_eq_true', Bool.not_eq_false] at hproxy
      exact hproxy
    · nomatch hk
  · rintro ⟨vip, n, ⟨s, hsvc, hserves, ip, hip, rfl, hrows, hn⟩, rfl⟩
    unfold computeService
    rw [hsvc]
    dsimp only
    rw [if_neg (by rw [hserves.1]; exact nofun), if_neg (by rw [hserves.2]; exact nofun)]
    unfold computeRows srcRows
    rw [if_pos hserves.1]
    refine List.mem_flatMap.mpr ⟨ip, hip, ?_⟩
    rw [if_neg fun he => hrows (List.isEmpty_iff.mp he)]
    exact List.mem_map_of_mem hn

-- ── what the maps hold

/-- Reconciles extend the history of either map, also key by key. -/
theorem Applied.records {r r' : Kpr} {later : List Reconcile} (h : Applied E r later r')
    (earlier : List Reconcile) (hvips : Records r.vips (vipRuns E earlier))
    (hsrcs : Records r.srcs (srcRuns E earlier)) :
    Records r'.vips (vipRuns E (later ++ earlier)) ∧ Records r'.srcs (srcRuns E (later ++ earlier)) ∧
      (∀ k, r.vips.map.lookup k = written (vipRuns E earlier) k →
        r'.vips.map.lookup k = written (vipRuns E (later ++ earlier)) k) ∧
      (∀ k, r.srcs.map.lookup k = written (srcRuns E earlier) k →
        r'.srcs.map.lookup k = written (srcRuns E (later ++ earlier)) k) ∧
      ∀ e ∈ later, e.Fits E := by
  induction h with
  | done => exact ⟨hvips, hsrcs, fun _ h => h, fun _ h => h, fun e he => nomatch he⟩
  | next _ _ hfits hvipOps hsrcOps ih =>
    obtain ⟨hvips', hsrcs', hkey, hsrcKey, hall⟩ := ih
    refine ⟨run_records hvips' hvipOps, run_records hsrcs' hsrcOps,
      fun k hk => run_written hvips' hvipOps (hkey k hk),
      fun k hk => run_written hsrcs' hsrcOps (hsrcKey k hk), fun e he => ?_⟩
    rcases List.mem_cons.mp he with rfl | he
    · exact hfits
    · exact hall e he

/-- **THE MAPS FOLLOW THE HISTORY**, whatever an earlier process left. -/
theorem Reconciled.maps {first later : List Reconcile} {vips : KMap SvcKey SvcVal}
    {srcs : KMap LbSrcKey Unit} {r : Kpr} (h : Reconciled E first later vips srcs r) :
    (∀ k : SvcKey, k.net = 0#32 → r.vips.map.lookup k = written (vipRuns E (later ++ first)) k) ∧
    (∀ k, r.srcs.map.lookup k = written (srcRuns E (later ++ first)) k) ∧
    ∀ e ∈ later ++ first, e.Fits E := by
  obtain ⟨r₁, keys, srcKeys, hfirst, hkeys, hsrcKeys, hlater⟩ := h.run
  obtain ⟨hvips, hsrcs, _, _, hfits⟩ :=
    hfirst.records [] (start_records vips) (start_records srcs)
  rw [List.append_nil] at hvips hsrcs
  have hdead : ∀ j ∈ keys, ∀ who, j ∉ r₁.vips.owned who := fun j hj => ((hkeys j).mp hj).2.2
  have hsrcDead : ∀ j ∈ srcKeys, ∀ who, j ∉ r₁.srcs.owned who := fun j hj => ((hsrcKeys j).mp hj).2
  obtain ⟨_, _, hkey, hsrcKey, hlaterFits⟩ :=
    hlater.records first (sweep_records hvips hdead) (sweep_records hsrcs hsrcDead)
  refine ⟨fun k hk => hkey k ?_, fun k => hsrcKey k ?_, fun e he => ?_⟩
  · exact sweep_written hvips hdead fun hin hfree => (hkeys k).mpr ⟨hk, hin, hfree⟩
  · exact sweep_written hsrcs hsrcDead fun hin hfree => (hsrcKeys k).mpr ⟨hin, hfree⟩
  · rcases List.mem_append.mp he with he | he
    · exact hlaterFits e he
    · exact hfits e he

theorem mapped_masked {a : Addr} {n : Nat} (h : is4In6 ((a >>> (128 - n)) <<< (128 - n)) = true) :
    96 ≤ n := by
  by_contra hn
  have hbit := congrArg (fun b : BitVec 96 => b.getLsbD 0) (beq_iff_eq.mp h)
  simp only [BitVec.getLsbD_extractLsb', BitVec.getLsbD_shiftLeft] at hbit
  rw [decide_eq_true (show 32 + 0 < 128 - n by omega)] at hbit
  exact absurd hbit (by simp)

theorem srcRange_v6 {ip : Addr} {ones : Fin 129} (h : is4In6 ip = false) (client : Addr) :
    agree (srcRange (.mask16 ip ones)).2 (srcRange (.mask16 ip ones)).1 client =
      (cidrRange (.mask16 ip ones)).contains client := by
  have hstored : srcRange (.mask16 ip ones) = (ip, ones.val) := by
    show (addr128 ip, if is4In6 ip then ones.val + 96 else ones.val) = _
    unfold addr128
    rw [h]
    rfl
  have hnorm : normalizedCIDR (.mask16 ip ones) = .v6 ip ones :=
    if_neg fun hmapped => by
      rw [h] at hmapped
      nomatch hmapped.1
  unfold cidrRange
  rw [hstored, hnorm]
  exact (Range.around_contains ..).symm

/-- **WHAT THE KERNEL ACCEPTS IS THE RANGE**: a published key that fits holds the clients of its
    128-bit range. -/
theorem srcKey_covers {x : String} {n : IPNet} (hparse : parseCIDR E.parseAddr x = some n) {vip : Addr}
    (hfits : (srcKey vip n).plen ≤ 128 + 128) (front client : Addr) :
    agree (srcKey vip n).plen (srcKey vip n).key (front ++ client) = true ↔
      vip = front ∧ (cidrRange n).contains client = true := by
  have hrange : agree (srcRange n).2 (srcRange n).1 client = (cidrRange n).contains client := by
    obtain ⟨⟨p, plain⟩, _, rfl⟩ := Option.map_eq_some_iff.mp hparse
    cases p with
    | v4 a ones =>
      show _ = (Range.around _ _ _).contains client
      rw [Range.around_contains, Nat.add_comm 96]
      rfl
    | v6 a ones =>
      have hnot : is4In6 ((a >>> (128 - ones.val)) <<< (128 - ones.val)) = false := by
        cases hm : is4In6 ((a >>> (128 - ones.val)) <<< (128 - ones.val)) with
        | false => rfl
        | true =>
          have hlen := mapped_masked hm
          have hplen : 128 + (if is4In6 ((a >>> (128 - ones.val)) <<< (128 - ones.val)) = true then
            ones.val + 96 else ones.val) ≤ 128 + 128 := hfits
          rw [hm, if_pos rfl] at hplen
          omega
      exact srcRange_v6 hnot client
  rw [← hrange]
  exact agree_append ..

-- ── the check

theorem lbChoice_passes (m : Maps) (f : Flows) {skb : Skb} {p : Pkt} {sport dport : U16}
    (hp : parseIp skb.frame = some p) (hproto : isTcpUdp p.proto = true)
    (hplain : (!p.isV6 && ihlNot5 skb.frame) = false) (hports : l4Ports skb.frame = some (sport, dport)) :
    (lbChoice m f skb).isSome = passes m ⟨0#32, p.dst, p.proto, dport⟩ p.src := by
  unfold lbChoice passes
  rw [hp]
  dsimp only
  rw [hproto, hplain, hports, if_neg nofun, if_neg nofun]
  dsimp only
  cases m.svcVips ⟨0#32, p.dst, p.proto, dport⟩ with
  | none => rfl
  | some sv =>
    dsimp only
    split
    · rename_i hn
      rw [hn]
      rfl
    rename_i hn
    rw [bne_iff_ne.mpr hn, Bool.true_and]
    cases hasBit sv.flags 2#32 && (find m.lbSrc (p.dst ++ p.src)).isNone with
    | true | false => rfl

/-- The datapath sees the maps that kpr writes. -/
structure Installed (r : Kpr) (m : Maps) : Prop where
  vips : ∀ k, m.svcVips k = r.vips.map.lookup k
  srcs : m.lbSrc = mapTable r.srcs.map

section

variable {first later : List Reconcile} {vips : KMap SvcKey SvcVal} {srcs : KMap LbSrcKey Unit} {r : Kpr}
  (hrun : Reconciled E first later vips srcs r) {m : Maps} (hmaps : Installed r m)

include hrun hmaps

/-- `lb_src` holds the published ranges. -/
theorem lbSrc_hit (vip client : Addr) : (find m.lbSrc (vip ++ client)).isNone = false ↔
    ∃ n, Published E (later ++ first) vip n ∧ (cidrRange n).contains client = true := by
  obtain ⟨_, hkeys, hfits⟩ := hrun.maps
  unfold find
  rw [Option.isNone_map, Option.isNone_eq_false_iff, Option.isSome_iff_exists, lookup_isSome,
    hmaps.srcs]
  constructor
  · rintro ⟨row, hmem, hcov⟩
    have hrow := (hkeys _).symm.trans (mem_mapTable.mp hmem)
    -- the key is one that some reconcile asked for
    obtain ⟨_, hin, hlook⟩ := asked_of_written hrow
    obtain ⟨e, he, rfl⟩ := List.mem_map.mp hin
    obtain ⟨k, hk, hpair⟩ := List.mem_map.mp (mem_of_lookup_fill hlook)
    have hkey : k = rowKey row := (Prod.mk.inj hpair).1
    obtain ⟨vip', n, hpub, hsrc⟩ := mem_srcs.mp hk
    obtain ⟨_, _, _, _, _, _, _, hn⟩ := id hpub
    obtain ⟨x, _, hparse⟩ := List.mem_filterMap.mp hn
    have hcov' : agree (rowKey row).plen (rowKey row).key (vip ++ client) = true := hcov
    rw [← hkey, hsrc] at hcov'
    obtain ⟨rfl, hclient⟩ := (srcKey_covers hparse (hsrc ▸ hfits e he _ hk) _ _).mp hcov'
    exact ⟨n, ⟨⟨e, he, hpub⟩, hsrc ▸ hkey ▸ hrow⟩, hclient⟩
  · rintro ⟨n, ⟨⟨e, he, hpub⟩, hrow⟩, hclient⟩
    have hk := mem_srcs.mpr ⟨vip, n, hpub, rfl⟩
    obtain ⟨_, _, _, _, _, _, _, hn⟩ := hpub
    obtain ⟨x, _, hparse⟩ := List.mem_filterMap.mp hn
    refine ⟨⟨_, _, ()⟩, mem_mapTable.mpr ((hkeys _).trans hrow), ?_⟩
    exact (srcKey_covers hparse (hfits e he _ hk) _ _).mpr ⟨rfl, hclient⟩

variable (s : Service) (slices : List EndpointSlice) (ip : Addr) (front : VipRow)
  (hrow : front ∈ lbRowsAt E slices s ip)

include hrow

/-- **WHO PASSES**: at a row without the flag everybody, at a filtered one the clients of any
    published range. -/
theorem passes_iff (client : Addr) : passes m front.1 client = true ↔
    written (vipRuns E (later ++ first)) front.1 ≠ none ∧
      (Filtered E (later ++ first) front.1 →
        ∃ n, Published E (later ++ first) (addr128 ip) n ∧ (cidrRange n).contains client = true) := by
  obtain ⟨hrows, _, _⟩ := hrun.maps
  obtain ⟨sp, _, hfront⟩ := List.mem_filterMap.mp hrow
  obtain ⟨_, hnet, hvip⟩ := row_some (pick_length s) hfront
  unfold passes
  rw [hmaps.vips, hrows front.1 hnet]
  cases hv : written (vipRuns E (later ++ first)) front.1 with
  | none => exact iff_of_false nofun fun h => h.1 rfl
  | some v =>
    -- every row that is written has backends
    have hbackends : v.n ≠ 0#32 := by
      obtain ⟨_, hin, hlook⟩ := asked_of_written hv
      obtain ⟨e, _, rfl⟩ := List.mem_map.mp hin
      exact (mem_computeService (mem_of_lookup_fill hlook)).1
    have hfiltered : Filtered E (later ++ first) front.1 ↔ hasBit v.flags 2#32 = true := by
      constructor
      · rintro ⟨w, hw, hbit⟩
        cases hv.symm.trans hw
        exact hbit
      · exact fun hbit => ⟨v, hv, hbit⟩
    rw [hfiltered, ← lbSrc_hit hrun hmaps, hvip]
    show (v.n != 0#32 && !(hasBit v.flags 2#32 && _)) = true ↔ _
    rw [bne_iff_ne.mpr hbackends, Bool.true_and]
    cases hasBit v.flags 2#32 with
    | false => exact iff_of_true rfl ⟨nofun, nofun⟩
    | true =>
      rw [Bool.true_and, Bool.not_eq_true', forall_prop_of_true rfl]
      exact (and_iff_right nofun).symm

/-- **OWN RANGES ONLY**: the clients that pass are those of the Service's own ranges iff the history
    of reconciles keeps these at the frontend. -/
theorem ranges_own :
    (∀ (f : Flows) (skb : Skb) (p : Pkt) (sport : U16), parseIp skb.frame = some p →
      isTcpUdp p.proto = true → (!p.isV6 && ihlNot5 skb.frame) = false →
      l4Ports skb.frame = some (sport, front.1.port) → p.dst = front.1.vip → p.proto = front.1.proto →
      (lbChoice m f skb).isSome = passes m front.1 p.src) ∧
    ((∀ c : Ip, c.isV4 = is4In6 ip → (passes m front.1 c.key = true ↔ Admits E s c)) ↔
      Keeps E (later ++ first) s ip front.1) := by
  have hpass := passes_iff hrun hmaps s slices ip front hrow
  constructor
  · intro f skb p sport hp hproto hplain hports hdst hproto'
    obtain ⟨sp, _, hfront⟩ := List.mem_filterMap.mp hrow
    rw [lbChoice_passes m f hp hproto hplain hports, hdst, hproto',
      ← (row_some (pick_length s) hfront).2.1]
  constructor
  · intro h
    refine ⟨fun hfil n hpub c hc hin => ?_, fun hfil c hc hadm => ?_, fun hopen hsome c hc => ?_,
      fun hnone c hc hadm => ?_⟩
    · obtain ⟨v, hv, _⟩ := id hfil
      exact (h c hc).mp ((hpass _).mpr ⟨by rw [hv]; nofun, fun _ => ⟨n, hpub, hin⟩⟩)
    · exact ((hpass _).mp ((h c hc).mpr hadm)).2 hfil
    · exact (h c hc).mp ((hpass _).mpr ⟨hsome, fun hfil => absurd hfil hopen⟩)
    · exact ((hpass _).mp ((h c hc).mpr hadm)).1 hnone
  · intro hkeeps c hc
    rw [hpass]
    constructor
    · rintro ⟨hsome, hp⟩
      by_cases hfil : Filtered E (later ++ first) front.1
      · obtain ⟨n, hpub, hin⟩ := hp hfil
        exact hkeeps.within hfil n hpub c hc hin
      · exact hkeeps.unfiltered hfil hsome c hc
    · exact fun hadm => ⟨fun hnone => hkeeps.missing hnone c hc hadm,
        fun hfil => hkeeps.standing hfil c hc hadm⟩

end

-- ── runs

/-- Any reconciles can follow one another. -/
theorem applied_exists (r : Kpr) (hall : ∀ e ∈ hist, (∀ s, e.svc = some s → s.key = e.key) ∧ e.Fits E) :
    ∃ r', Applied E r hist r' := by
  induction hist with
  | nil => exact ⟨r, .done⟩
  | cons e hist ih =>
    obtain ⟨r', hr'⟩ := ih fun e he => hall e (.tail _ he)
    obtain ⟨hnamed, hfits⟩ := hall e (.head _)
    exact ⟨_, .next hr' hnamed hfits ⟨_, _, rfl, .refl _, .refl _⟩ ⟨_, _, rfl, .refl _, .refl _⟩⟩

theorem reconciled_exists (E : Env) (first later : List Reconcile)
    (hall : ∀ e ∈ later ++ first, (∀ s, e.svc = some s → s.key = e.key) ∧ e.Fits E) :
    ∃ r, Reconciled E first later ∅ ∅ r := by
  obtain ⟨r₁, hfirst⟩ := applied_exists (Kpr.start ∅ ∅)
    fun e he => hall e (List.mem_append_right _ he)
  obtain ⟨hvips, hsrcs, hkey, hsrcKey, _⟩ :=
    hfirst.records [] (start_records ∅) (start_records ∅)
  -- nothing was in the maps, so nothing is swept
  obtain ⟨r, hlater⟩ := applied_exists (step (step r₁ (.sweepVips [])) (.sweepSrcs []))
    fun e he => hall e (List.mem_append_left _ he)
  refine ⟨r, r₁, [], [], hfirst, fun k => ⟨nofun, ?_⟩, fun k => ⟨nofun, ?_⟩, hlater⟩
  · rintro ⟨_, hin, hdead⟩
    refine absurd hin (AList.lookup_eq_none.mp ((hkey k rfl).trans (written_eq_none fun who => ?_)))
    exact hvips.owned who ▸ hdead who
  · rintro ⟨hin, hdead⟩
    refine absurd hin (AList.lookup_eq_none.mp ((hsrcKey k rfl).trans (written_eq_none fun who => ?_)))
    exact hsrcs.owned who ▸ hdead who

/-- A node `n1`, and the texts of the runs below. -/
def demoEnv : Env where
  parseAddr
    | "192.0.2.10" => some (.v4 0xc000020a#32)
    | "10.200.0.5" => some (.v4 0x0ac80005#32)
    | "10.0.0.0" => some (.v4 0x0a000000#32)
    | "0.0.0.0" => some (.v4 0#32)
    | "::" => some (.v6 0#128)
    | _ => none
  trimSpace s := s
  serviceProxyName := ""
  nodeName := "n1"
  nodeAddrs := []
  clusterDSR := false

/-- Every Service has the one backend. -/
def demoSlices : List EndpointSlice :=
  ["web", "other"].map fun name =>
    ⟨"default", some name, .ipv4, [⟨none, some 8080#32⟩], [⟨none, some "n1", ["10.200.0.5"]⟩]⟩

/-- A Service with one TCP port at 192.0.2.10, as ingress address or as external IP. -/
def demoService (name : String) (port : U32) (ranges : List String) (external : Bool) : Service :=
  ⟨"default", name, none, if external then .clusterIP else .loadBalancer, "None", [],
    [⟨"", .tcp, port, 0#32⟩], false, true, ranges, if external then [] else [⟨"192.0.2.10", none⟩],
    if external then ["192.0.2.10"] else []⟩

/-- A Service that only 10.0.0.0/8 may reach. -/
def web : Service := demoService "web" 80#32 ["10.0.0.0/8"] false

def vip10 : Addr := as16 (.v4 0xc000020a#32)

/-- The frontend row of a Service at 192.0.2.10:80. -/
def webRow (s : Service) : VipRow :=
  (⟨0#32, addr128 vip10, 6#8, 80#16⟩, { mkVal s [⟨v4To128 0x0ac80005#32, 8080#16⟩] with flags := 2#32 })

def stranger : Ip := .v4 0xcb007109#32

def installed (r : Kpr) : Maps := { Maps.empty with
  svcVips := fun k => r.vips.map.lookup k
  lbSrc := mapTable r.srcs.map }

/-- A reconcile that finds the Service. -/
def found (s : Service) : Reconcile := ⟨s.key, some s, demoSlices⟩

theorem found_named (s : Service) : ∀ t, (found s).svc = some t → t.key = (found s).key := by
  intro t ht
  cases ht
  rfl

/-- Reconciles of Services whose ranges the kernel takes. -/
theorem found_exists (first later : List Service)
    (hfits : ∀ s ∈ later ++ first, ∀ k ∈ (computeService demoEnv demoSlices (some s)).2,
      k.plen ≤ 128 + 128) :
    ∃ r, Reconciled demoEnv (first.map found) (later.map found) ∅ ∅ r := by
  refine reconciled_exists demoEnv _ _ fun e he => ?_
  rw [← List.map_append] at he
  obtain ⟨s, hs, rfl⟩ := List.mem_map.mp he
  exact ⟨found_named s, hfits s hs⟩

/-- Another LoadBalancer Service at the address, reconciled after the start, with the same range. -/
theorem ranges_own_web : ∃ r, Reconciled demoEnv [found web]
      [found (demoService "other" 443#32 ["10.0.0.0/8"] false)] ∅ ∅ r ∧
    ∀ c : Ip, c.isV4 = true → (passes (installed r) (webRow web).1 c.key = true ↔ Admits demoEnv web c) := by
  obtain ⟨r, hr⟩ := found_exists [web] [demoService "other" 443#32 ["10.0.0.0/8"] false]
    (by decide +kernel)
  refine ⟨r, hr, (ranges_own hr ⟨fun _ => rfl, rfl⟩ web demoSlices vip10 (webRow web)
    (by decide +kernel)).2.mpr ⟨?_, ?_, fun hopen => absurd ?_ hopen, fun hnone => ?_⟩⟩
  · rintro _ n ⟨⟨e, he, s, hsvc, _, _, _, _, _, hn⟩, _⟩ c hc hin
    have hranges : ∀ e ∈ [found (demoService "other" 443#32 ["10.0.0.0/8"] false), found web],
        ∀ s, e.svc = some s → ∀ n ∈ ranges demoEnv s, n ∈ ranges demoEnv web ∧ cidrIsV4 n = true := by
      intro e he s hsvc
      rcases List.mem_pair.mp he with rfl | rfl
      · cases hsvc
        decide +kernel
      · cases hsvc
        decide +kernel
    obtain ⟨hweb, hv4⟩ := hranges e he s hsvc n hn
    exact ⟨n, hweb, (cidrRange_contains n c).mp ⟨hv4.trans hc.symm, hin⟩⟩
  · rintro _ c _ ⟨n, hn, hin⟩
    have hstands : ∀ n ∈ ranges demoEnv web, written (srcRuns demoEnv
        [found (demoService "other" 443#32 ["10.0.0.0/8"] false), found web])
        (srcKey (addr128 vip10) n) = some () := by
      decide +kernel
    refine ⟨n, ⟨⟨found web, .tail _ (.head _), web, rfl, ⟨rfl, rfl⟩, vip10, by decide +kernel, rfl,
      by decide +kernel, hn⟩, hstands n hn⟩, ((cidrRange_contains n c).mpr hin).2⟩
  · exact ⟨(webRow web).2, by decide +kernel, by decide⟩
  · refine absurd hnone ?_
    decide +kernel

/-- **STRANGERS PASS** by the ranges or the external IP of another Service at the address, or by a
    range of the other family. -/
theorem ranges_shared :
    ¬ Admits demoEnv web stranger ∧
    (∃ r, Reconciled demoEnv [found web] [found (demoService "other" 443#32 ["0.0.0.0/0"] false)] ∅ ∅ r ∧
      passes (installed r) (webRow web).1 stranger.key = true) ∧
    (∃ r, Reconciled demoEnv [found web] [found (demoService "other" 80#32 [] true)] ∅ ∅ r ∧
      passes (installed r) (webRow web).1 stranger.key = true) ∧
    ¬ Admits demoEnv (demoService "web" 80#32 ["::/0"] false) stranger ∧
    ∃ r, Reconciled demoEnv [found (demoService "web" 80#32 ["::/0"] false)] [] ∅ ∅ r ∧
      passes (installed r) (webRow web).1 stranger.key = true := by
  have hrow : webRow web ∈ lbRowsAt demoEnv demoSlices web vip10 := by decide +kernel
  refine ⟨?_, ?_, ?_, ?_, ?_⟩
  · show ¬ ∃ n ∈ ranges demoEnv web, n.contains stranger = true
    decide +kernel
  · obtain ⟨r, hr⟩ := found_exists [web] [demoService "other" 443#32 ["0.0.0.0/0"] false]
      (by decide +kernel)
    refine ⟨r, hr, (passes_iff hr ⟨fun _ => rfl, rfl⟩ web demoSlices vip10 _ hrow _).mpr
      ⟨by decide +kernel, fun _ => ⟨.mask4 0#32 0, ⟨⟨_, .head _, _, rfl, ⟨rfl, rfl⟩, vip10,
        by decide +kernel, rfl, by decide +kernel, by decide +kernel⟩, by decide +kernel⟩,
        by decide +kernel⟩⟩⟩
  · obtain ⟨r, hr⟩ := found_exists [web] [demoService "other" 80#32 [] true] (by decide +kernel)
    refine ⟨r, hr, (passes_iff hr ⟨fun _ => rfl, rfl⟩ web demoSlices vip10 _ hrow _).mpr
      ⟨by decide +kernel, ?_⟩⟩
    rintro ⟨v, hv, hbit⟩
    have hopen : (written (vipRuns demoEnv [found (demoService "other" 80#32 [] true), found web])
        (webRow web).1).map SvcVal.flags = some 0#32 := by
      decide +kernel
    have hflags : some v.flags = some 0#32 := (congrArg (Option.map SvcVal.flags) hv).symm.trans hopen
    rw [Option.some.inj hflags] at hbit
    exact absurd hbit (by decide)
  · show ¬ ∃ n ∈ ranges demoEnv (demoService "web" 80#32 ["::/0"] false), n.contains stranger = true
    decide +kernel
  · obtain ⟨r, hr⟩ := found_exists [demoService "web" 80#32 ["::/0"] false] [] (by decide +kernel)
    refine ⟨r, hr, (passes_iff hr ⟨fun _ => rfl, rfl⟩ web demoSlices vip10 _ hrow _).mpr
      ⟨by decide +kernel, fun _ => ⟨.mask16 0#128 0, ⟨⟨_, .head _, _, rfl, ⟨rfl, rfl⟩, vip10,
        by decide +kernel, rfl, by decide +kernel, by decide +kernel⟩, by decide +kernel⟩,
        by decide +kernel⟩⟩⟩

end CozyKpr
