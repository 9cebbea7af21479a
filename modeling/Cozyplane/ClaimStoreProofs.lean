import Cozyplane.MvccProofs
import Cozyplane.VniAllocProofs

/-!
# Address claims — one transaction for two key spaces

A Port and a ServiceVIP are cluster-scoped and named by the address they hold, so within one
kind the key is the claim. Across the kinds a create checks the TWIN key, the name the other kind
would have for the address, in the transaction that writes. A persistent Port also claims its NIC:
the create first scans the Ports of the VNI, page by page at one revision, and the transaction
then checks that nothing in that range was written since.

Creates run on any number of API servers, call by call; every read may be old.
-/

namespace CozyClaimStore

open Calls Relation Mvcc
open CozyPacket (Addr U8)
open CozyBoundaryCompile (VPCRef)
open CozyRouteCompile (escapeIP portName)
open CozyVniAlloc (Reason Err errorf)
open CozyClaimName

/-- What the strategies call outside the repository, and `ipam.IsReserved`. -/
structure Texts extends toNames : CozyRouteCompile.Texts where
  parseMAC : String → Option (List U8)
  reserved : Addr → Bool

/-- `PortSpec`. -/
structure PortSpec where
  vpcRef : VPCRef
  ip : String
  mac : String
  podNamespace : String
  deriving DecidableEq

/-- The fields of a Port that a claim or a strategy reads; a missing label is the empty string. -/
structure Port where
  name : String
  vmName : String
  vmNIC : String
  spec : PortSpec
  groups : List Int
  deriving DecidableEq

/-- A port of a ServiceVIP. -/
structure VIPPort where
  protocol : String
  port : Int
  deriving DecidableEq

/-- `ServiceVIPSpec`. -/
structure ServiceVIPSpec where
  vpcRef : VPCRef
  ip : String
  ports : List VIPPort
  deriving DecidableEq

/-- A port of a backend. -/
structure BackendPort extends VIPPort where
  targetPort : Int
  deriving DecidableEq

/-- The fields of a ServiceVIP that a claim or a strategy reads. -/
structure ServiceVIP where
  name : String
  spec : ServiceVIPSpec
  backends : List (List BackendPort)
  deriving DecidableEq

/-- An object of either kind. -/
inductive Obj where
  | port (p : Port)
  | vip (v : ServiceVIP)
  deriving DecidableEq

/-- The two kinds of claims. -/
inductive Kind where
  | port
  | vip
  deriving DecidableEq

/-- A storage key: the kind's collection and the object's name. -/
abbrev Key : Type := Kind × String

def Obj.key : Obj → Key
  | .port p => (.port, p.name)
  | .vip v => (.vip, v.name)

def serviceVIPName (X : Texts) (vni : Int) (ip : String) : String :=
  "sv" ++ toString vni ++ "." ++ escapeIP X.toNames ip

-- ── the strategies

/-- An entry of a `field.ErrorList`. -/
structure FieldErr where
  path : String
  detail : String
  deriving DecidableEq

def isPersistent (p : Port) : Bool := p.vmName != ""

def samePersistentNIC (a b : Port) : Bool :=
  isPersistent a && isPersistent b && a.spec.podNamespace == b.spec.podNamespace &&
    a.spec.vpcRef == b.spec.vpcRef && a.vmName == b.vmName && a.vmNIC == b.vmNIC

def required (path value : String) : List FieldErr :=
  if value = "" then [⟨path, "persistent NIC identity must be complete"⟩] else []

/-- A six-byte unicast address. -/
def unicastMAC (X : Texts) (mac : String) : Bool :=
  match X.parseMAC mac with
  | none => false
  | some b => b.length = 6 && (b.headD 0) &&& 1 = 0

def persistentErrs (X : Texts) (p : Port) : List FieldErr :=
  if isPersistent p then
    required "spec.podNamespace" p.spec.podNamespace ++
    required "spec.vpcRef.namespace" p.spec.vpcRef.ns ++
    required "spec.vpcRef.name" p.spec.vpcRef.name ++
    required "metadata.labels[sdn.cozystack.io/vm-nic]" p.vmNIC ++
    if unicastMAC X p.spec.mac then []
    else [⟨"spec.mac", "persistent NIC requires a six-byte unicast MAC"⟩]
  else []

/-- The checks that a Port and a ServiceVIP share; `form` is the shape the message asks for. -/
def claimErrs (X : Texts) (kind form : String) (nameOf : Int → String → String)
    (name ip : String) : List FieldErr :=
  match X.parseIP ip with
  | none => [⟨"spec.ip", "must be an IP address in canonical form"⟩]
  | some a =>
    if X.ipString a ≠ ip then [⟨"spec.ip", "must be an IP address in canonical form"⟩]
    else
      (if X.reserved a then [⟨"spec.ip", "reserved platform bridge or hairpin address"⟩] else []) ++
      match parseClaim kind name with
      | none => [⟨"metadata.name", "must have the form " ++ form ++
          ": the name is the address claim"⟩]
      | some (vni, _) =>
        if name ≠ nameOf vni ip then
          [⟨"metadata.name", "must be \"" ++ nameOf vni ip ++ "\" (" ++ form ++
            "): the name is the address claim"⟩]
        else []

/-- `portStrategy.Validate`. -/
def Port.validate (X : Texts) (p : Port) : List FieldErr :=
  persistentErrs X p ++ claimErrs X claimPrefixPort "v<vni>.<escaped spec.ip>"
    (portName X.toNames) p.name p.spec.ip

/-- `validatePort`. -/
def VIPPort.validate (p : VIPPort) (path : String) : List FieldErr :=
  (if p.protocol ≠ "TCP" ∧ p.protocol ≠ "UDP" then
    [⟨path ++ ".protocol", "supported values: \"TCP\", \"UDP\""⟩] else []) ++
  if p.port < 1 ∨ 65535 < p.port then [⟨path ++ ".port", "must be between 1 and 65535"⟩] else []

def validateVIPPorts (ports : List VIPPort) : List FieldErr :=
  ports.zipIdx.flatMap fun p => p.1.validate ("spec.ports[" ++ toString p.2 ++ "]")

/-- `serviceVIPStrategy.Validate`. -/
def ServiceVIP.validate (X : Texts) (v : ServiceVIP) : List FieldErr :=
  validateVIPPorts v.spec.ports ++ claimErrs X claimPrefixServiceVIP "sv<vni>.<escaped spec.ip>"
    (serviceVIPName X) v.name v.spec.ip

def Obj.validate (X : Texts) : Obj → List FieldErr
  | .port p => p.validate X
  | .vip v => v.validate X

def validatePersistentUpdate (next old : Port) : List FieldErr :=
  (if next.vmName ≠ old.vmName then
    [⟨"metadata.labels[sdn.cozystack.io/vm-name]", "immutable persistent NIC identity"⟩] else []) ++
  (if next.vmNIC ≠ old.vmNIC then
    [⟨"metadata.labels[sdn.cozystack.io/vm-nic]", "immutable persistent NIC identity"⟩] else []) ++
  if isPersistent old then
    (if next.spec.podNamespace ≠ old.spec.podNamespace then
      [⟨"spec.podNamespace", "immutable persistent NIC namespace"⟩] else []) ++
    if next.spec.mac ≠ old.spec.mac then [⟨"spec.mac", "immutable pinned MAC"⟩] else []
  else []

/-- `portStrategy.ValidateUpdate`. -/
def Port.validateUpdate (next old : Port) : List FieldErr :=
  (if next.spec.ip ≠ old.spec.ip then
    [⟨"spec.ip", "immutable: the Port name is the claim on this address"⟩] else []) ++
  (if next.spec.vpcRef ≠ old.spec.vpcRef then
    [⟨"spec.vpcRef", "immutable: the claim is scoped to the VPC's VNI"⟩] else []) ++
  validatePersistentUpdate next old

/-- `netid.ValidGroup`. -/
def validGroup (v : Int) : Bool := decide (1 ≤ v) && decide (v ≤ 62)

/-- `portStatusStrategy.ValidateUpdate`. -/
def Port.validateStatusUpdate (next old : Port) : List FieldErr :=
  if 63 < next.groups.length then [⟨"status.groups", "must have at most 63 items"⟩]
  else
    match next.groups.zipIdx.find? fun g => g.1 != 0 && !validGroup g.1 with
    | some g => [⟨"status.groups[" ++ toString g.2 ++ "]", "must be between 0 and 62"⟩]
    | none => validatePersistentUpdate next old

/-- `serviceVIPStrategy.ValidateUpdate`. -/
def ServiceVIP.validateUpdate (next old : ServiceVIP) : List FieldErr :=
  validateVIPPorts next.spec.ports ++
  (if next.spec.ip ≠ old.spec.ip then
    [⟨"spec.ip", "immutable: the ServiceVIP name is the claim on this address"⟩] else []) ++
  if next.spec.vpcRef ≠ old.spec.vpcRef then
    [⟨"spec.vpcRef", "immutable: the claim is scoped to the VPC's VNI"⟩] else []

/-- `serviceVIPStatusStrategy.ValidateUpdate`. -/
def ServiceVIP.validateStatusUpdate (next : ServiceVIP) : List FieldErr :=
  next.backends.zipIdx.flatMap fun b => b.1.zipIdx.flatMap fun p =>
    let path := "status.backends[" ++ toString b.2 ++ "].ports[" ++ toString p.2 ++ "]"
    p.1.toVIPPort.validate path ++
    if p.1.targetPort < 1 ∨ 65535 < p.1.targetPort then
      [⟨path ++ ".targetPort", "must be between 1 and 65535"⟩] else []

/-- An update that a strategy let through, after its `PrepareForUpdate`. The generic registry keeps
    the name. -/
inductive Updates : Obj → Obj → Prop where
  | portSpec {old next : Port} : next.name = old.name → next.groups = old.groups →
      next.validateUpdate old = [] → Updates (.port old) (.port next)
  | portStatus {old next : Port} : next.name = old.name → next.spec = old.spec →
      next.validateStatusUpdate old = [] → Updates (.port old) (.port next)
  | vipSpec {old next : ServiceVIP} : next.name = old.name → next.backends = old.backends →
      next.validateUpdate old = [] → Updates (.vip old) (.vip next)
  | vipStatus {old next : ServiceVIP} : next.name = old.name → next.spec = old.spec →
      next.validateStatusUpdate = [] → Updates (.vip old) (.vip next)

/-- An entry of a page, with the length of its stored value. -/
structure KV where
  name : String
  entry : Entry Obj
  bytes : Nat
  deriving DecidableEq

/-- A `RangeResponse`. -/
structure Page where
  revision : Nat
  kvs : List KV
  more : Bool
  deriving DecidableEq

/-- The transaction of a create: both keys absent and, with a guard, nothing under the VNI's prefix
    written since; then put. -/
structure Txn where
  obj : Obj
  twin : Key
  guard : Option (Int × Nat)
  deriving DecidableEq

/-- A `TxnResponse`: whether the checks held, and else whether a lookup found a key. -/
structure TxnResponse where
  succeeded : Bool
  found : Bool
  deriving DecidableEq

/-- The calls of a create. -/
inductive Request where
  | ctxErr
  | twinExists (k : Key)
  | getPage (vni : Int) (start : String) (rev : Option Nat)
  | commit (t : Txn)

def Answer : Request → Type
  | .ctxErr => Option Err
  | .twinExists _ => Except Err Bool
  | .getPage _ _ _ => Except Err Page
  | .commit _ => Except Err TxnResponse

abbrev Call (ρ : Type) : Type := Prog Answer ρ

def ctxErr : Call (Option Err) := ask (A := Answer) .ctxErr

def twinExists (k : Key) : Call (Except Err Bool) := ask (A := Answer) (.twinExists k)

def getPage (vni : Int) (start : String) (rev : Option Nat) : Call (Except Err Page) :=
  ask (A := Answer) (.getPage vni start rev)

def commitTxn (t : Txn) : Call (Except Err TxnResponse) := ask (A := Answer) (.commit t)

def persistentCreateAttempts : Nat := 8

def persistentScanLimit : Nat := 65536

def persistentPageSize : Nat := 128

def persistentScanBytes : Nat := 64 * 2 ^ 20

/-- The prefix of the Ports of a VNI. -/
def rangeStart (vni : Int) : String := "v" ++ toString vni ++ "."

/-- `GetPrefixRangeEnd` of it: the character after the dot. -/
def rangeEnd (vni : Int) : String := "v" ++ toString vni ++ "/"

/-- What the scan remembers; revision zero is none yet. -/
structure Scan where
  revision : Nat
  matched : String
  seen : Nat
  bytesRead : Nat
  deriving DecidableEq

def persistentContention : Err :=
  errorf "persistent NIC allocation changed concurrently; retry ADD"

/-- The entries of one page. -/
def scanKVs (port : Port) (vni : Int) (start : String) : List KV → Scan → Call (Except Err Scan)
  | [], sc => pure (.ok sc)
  | kv :: kvs, sc => do
    match ← ctxErr with
    | some e => pure (.error e)
    | none =>
      if persistentScanBytes - sc.bytesRead < kv.bytes then
        pure (.error (errorf
          "persistent NIC snapshot exceeds its byte budget or has a missing entry"))
      else if persistentScanLimit < sc.seen + 1 ∨ ¬(rangeStart vni).toList <+: kv.name.toList ∨
          kv.name < start then
        pure (.error (errorf "persistent NIC snapshot exceeds its scope or claim budget"))
      else
        match kv.entry.value with
        | .vip _ => pure (.error (errorf "unable to decode"))
        | .port stored =>
          if kv.name ≠ stored.name then
            pure (.error (errorf "persistent NIC snapshot has inconsistent claim identity"))
          else if samePersistentNIC port stored then
            if sc.matched ≠ "" then
              pure (.error (errorf
                "multiple existing claims for this persistent NIC; repair required"))
            else scanKVs port vni start kvs { sc with
              bytesRead := sc.bytesRead + kv.bytes, seen := sc.seen + 1, matched := stored.name }
          else scanKVs port vni start kvs { sc with
            bytesRead := sc.bytesRead + kv.bytes, seen := sc.seen + 1 }

/-- The pages from `start` on. The scan stops at `persistentScanLimit` entries, so the fuel does not
    run out. -/
def guardPages (port : Port) (vni : Int) : Nat → String → Scan → Call (Except Err Scan)
  | 0, _, _ => pure (.error (errorf "incomplete or oversized persistent NIC snapshot"))
  | fuel + 1, start, sc => do
    match ← ctxErr with
    | some e => pure (.error e)
    | none =>
      match ← getPage vni start (if sc.revision = 0 then none else some sc.revision) with
      | .error e => pure (.error e)
      | .ok page =>
        if page.revision = 0 then pure (.error (errorf "incomplete persistent NIC snapshot"))
        else if persistentPageSize < page.kvs.length then
          pure (.error (errorf "persistent NIC snapshot exceeds its page budget"))
        else
          match ← scanKVs port vni start page.kvs
            { sc with revision := if sc.revision = 0 then page.revision else sc.revision } with
          | .error e => pure (.error e)
          | .ok sc =>
            if page.more = false then pure (.ok sc)
            else
              match page.kvs.getLast? with
              | none =>
                pure (.error (errorf "incomplete or oversized persistent NIC snapshot"))
              | some last =>
                if persistentScanLimit ≤ sc.seen then
                  pure (.error (errorf "incomplete or oversized persistent NIC snapshot"))
                else if last.name ++ "\x00" ≤ start ∨ rangeEnd vni ≤ last.name ++ "\x00" then
                  pure (.error (errorf "persistent NIC snapshot did not advance"))
                else guardPages port vni fuel (last.name ++ "\x00") sc

/-- `persistentGuard`: the VNI and the revision to compare with. -/
def persistentGuard (port : Port) (vni : Int) : Call (Except Err (Int × Nat)) := do
  match ← guardPages port vni (persistentScanLimit + 1) (rangeStart vni) ⟨0, "", 0, 0⟩ with
  | .error e => pure (.error e)
  | .ok sc =>
    if sc.matched ≠ "" then
      pure (.error ⟨.alreadyExists, "ports \"" ++ sc.matched ++ "\" already exists"⟩)
    else if sc.revision = 2 ^ 63 - 1 then pure (.error persistentContention)
    else pure (.ok (vni, sc.revision))

def Obj.twin (X : Texts) : Obj → Except Err (Int × Key)
  | .port p =>
    match parseClaim claimPrefixPort p.name with
    | none => .error (errorf "invalid Port claim")
    | some (vni, _) => .ok (vni, .vip, serviceVIPName X vni p.spec.ip)
  | .vip v =>
    match parseClaim claimPrefixServiceVIP v.name with
    | none => .error (errorf "invalid ServiceVIP claim")
    | some (vni, _) => .ok (vni, .port, portName X.toNames vni v.spec.ip)

/-- The third check of the transaction, for a persistent Port. -/
def guardOf (vni : Int) : Obj → Call (Except Err (Option (Int × Nat)))
  | .port p =>
    if isPersistent p then do
      match ← persistentGuard p vni with
      | .error e => pure (.error e)
      | .ok guard => pure (.ok (some guard))
    else pure (.ok none)
  | .vip _ => pure (.ok none)

/-- The attempts of a create. -/
def attempts (obj : Obj) (vni : Int) (twin : Key) : Nat → Call (Except Err Unit)
  | 0 => pure (.error persistentContention)
  | n + 1 => do
    match ← ctxErr with
    | some e => pure (.error e)
    | none =>
      match ← guardOf vni obj with
      | .error e => pure (.error e)
      | .ok guard =>
        match ← commitTxn ⟨obj, twin, guard⟩ with
        | .error e => pure (.error e)
        | .ok response =>
          if response.succeeded then pure (.ok ())
          else if response.found then pure (.error ⟨.alreadyExists, "key exists"⟩)
          else attempts obj vni twin n

/-- A create request: the object, its time to live and the resource version it carries. -/
structure CreateRequest where
  obj : Obj
  ttl : Nat
  resourceVersion : Nat
  deriving DecidableEq

/-- `atomicStorage.Create`. -/
def atomicCreate (X : Texts) (r : CreateRequest) : Call (Except Err Unit) :=
  match r.obj.twin X with
  | .error e => pure (.error e)
  | .ok (vni, twin) =>
    if r.ttl ≠ 0 then pure (.error (errorf "address claims cannot expire"))
    else if r.resourceVersion ≠ 0 then
      pure (.error (errorf "resourceVersion should not be set on objects to be created"))
    else attempts r.obj vni twin persistentCreateAttempts

/-- The registries' `BeginCreate`: the early answer for an address that is held by the twin. -/
def beginCreate (X : Texts) (obj : Obj) : Call (Except Err Unit) :=
  match obj.twin X with
  | .error _ => pure (.ok ())
  | .ok (vni, twin) => do
    match ← twinExists twin with
    | .error e => pure (.error e)
    | .ok taken =>
      if taken then
        pure (.error ⟨.conflict, match obj with
          | .port p => "VPC IP " ++ p.spec.ip ++ " (VNI " ++ toString vni ++
              ") is already held by ServiceVIP " ++ twin.2
          | .vip v => "VPC IP " ++ v.spec.ip ++ " (VNI " ++ toString vni ++
              ") is already held by Port " ++ twin.2⟩)
      else pure (.ok ())

/-- A create request as an API server runs it: the strategy, the early check, the storage. -/
def create (X : Texts) (r : CreateRequest) : Call (Except Err Unit) := do
  match r.obj.validate X with
  | e :: _ => pure (.error (errorf (e.path ++ ": " ++ e.detail)))
  | [] =>
    match ← beginCreate X r.obj with
    | .error e => pure (.error e)
    | .ok () => atomicCreate X r

abbrev Etcd : Type := Store Key Obj

/-- The names from `start` on under the prefix of a VNI. -/
def inRange (vni : Int) (name : String) : Prop := rangeStart vni ≤ name ∧ name < rangeEnd vni

/-- What a transaction checks. -/
structure Txn.Holds (t : Txn) (s : Etcd) : Prop where
  free : s.now t.obj.key = none
  twin : s.now t.twin = none
  guard : ∀ vni rev, t.guard = some (vni, rev) → ∀ name e, s.now (.port, name) = some e →
    inRange vni name → e.modRev < rev + 1

/-- A page of the content `c`: all its entries from `start` up to the last one in the page, or to
    the end. -/
structure Listed (c : Key → Option (Entry Obj)) (vni : Int) (start : String) (page : Page) :
    Prop where
  sound : ∀ kv ∈ page.kvs, c (.port, kv.name) = some kv.entry
  complete : ∀ name e, c (.port, name) = some e → start ≤ name → name < rangeEnd vni →
    (∃ kv ∈ page.kvs, kv.name = name ∧ kv.entry = e) ∨
      (page.more = true ∧ ∃ last, page.kvs.getLast? = some last ∧ last.name < name)

/-- What the store may do with a call. Reads may be old. A transaction may take effect and its
    answer be lost, but it is answered with success only if it took effect. -/
def serve {ι : Type} (_ : ι) : (q : Request) → Etcd → Answer q → Etcd → Prop
  | .ctxErr, s, _, s' => s' = s
  | .twinExists _, s, _, s' => s' = s
  | .getPage vni start none, s, a, s' =>
    s' = s ∧ ∀ page, a = Except.ok page →
      page.revision ≤ s.rev ∧ Listed (s.hist page.revision) vni start page
  | .getPage vni start (some rev), s, a, s' =>
    s' = s ∧ ∀ page, a = Except.ok page → rev ≤ s.rev ∧ Listed (s.hist rev) vni start page
  | .commit t, s, a, s' =>
    (s' = s ∧ ∀ r, a = Except.ok r → r.succeeded = false ∧
      (r.found = true ↔ s.now t.obj.key ≠ none ∨ s.now t.twin ≠ none)) ∨
    (t.Holds s ∧ s' = s.commit t.obj.key (some t.obj))

/-- The other requests: an object is deleted, or updated through a strategy. -/
inductive Drift (s : Etcd) : Etcd → Prop where
  | delete (k : Key) : Drift s (s.commit k none)
  | update {k : Key} {e : Entry Obj} {next : Obj} :
      s.now k = some e → Updates e.value next → Drift s (s.commit k (some next))

def etcdServer (ι : Type) : Server ι Answer Etcd := ⟨serve, Drift⟩

/-- Nothing lies between a key and the key with a zero byte after it. -/
theorem not_lex_succ {a b : List Char} (h : List.Lex (· < ·) a b) :
    ¬List.Lex (· < ·) b (a ++ ['\x00']) := by
  induction h with
  | nil =>
    intro h'
    cases h' with
    | rel hlt =>
      refine absurd hlt ?_
      show ¬_ < (0 : UInt32)
      exact UInt32.not_lt_zero
    | cons h' => nomatch h'
  | cons _ ih =>
    intro h'
    cases h' with
    | rel hlt => exact absurd hlt (Char.lt_irrefl _)
    | cons h' => exact ih h'
  | rel hlt =>
    intro h'
    cases h' with
    | rel hlt' => exact absurd (Char.lt_trans hlt hlt') (Char.lt_irrefl _)
    | cons _ => exact absurd hlt (Char.lt_irrefl _)

theorem after_le {a b : String} (h : a < b) : a ++ "\x00" ≤ b := by
  rw [← not_lt, String.lt_iff_toList_lt, String.toList_append]
  exact not_lex_succ (String.lt_iff_toList_lt.mp h)

theorem lex_append {p a b : List Char} (h : List.Lex (· < ·) a b) :
    List.Lex (· < ·) (p ++ a) (p ++ b) := by
  induction p with
  | nil => exact h
  | cons c p ih => exact .cons ih

theorem not_append_lex (p a : List Char) : ¬List.Lex (· < ·) (p ++ a) p := by
  induction p with
  | nil => exact nofun
  | cons c p ih =>
    intro h
    cases h with
    | rel hlt => exact absurd hlt (Char.lt_irrefl _)
    | cons h => exact ih h

theorem portName_inRange (X : Texts) (vni : Int) (ip : String) :
    inRange vni (portName X.toNames vni ip) := by
  have hname : portName X.toNames vni ip = rangeStart vni ++ escapeIP X.toNames ip := rfl
  constructor
  · rw [hname, ← not_lt, String.lt_iff_toList_lt, String.toList_append]
    exact not_append_lex _ _
  · rw [String.lt_iff_toList_lt, hname]
    unfold rangeStart rangeEnd
    simp only [String.toList_append, List.append_assoc]
    exact lex_append (lex_append (.rel (by decide)))

def vniIn (kind name : String) : Option Int := (parseClaim kind name).map Prod.fst

def Port.vni (p : Port) : Option Int := vniIn claimPrefixPort p.name

def Obj.claim (X : Texts) : Obj → Option (Int × Addr)
  | .port p => (vniIn claimPrefixPort p.name).bind fun vni => (X.parseIP p.spec.ip).map (vni, ·)
  | .vip v => (vniIn claimPrefixServiceVIP v.name).bind fun vni =>
    (X.parseIP v.spec.ip).map (vni, ·)

def Port.nic (p : Port) : Option (String × VPCRef × String × String) :=
  if isPersistent p then some (p.spec.podNamespace, p.spec.vpcRef, p.vmName, p.vmNIC) else none

theorem samePersistentNIC_iff {a b : Port} :
    samePersistentNIC a b = true ↔ ∃ n, a.nic = some n ∧ b.nic = some n := by
  unfold samePersistentNIC Port.nic
  by_cases ha : isPersistent a = true
  · by_cases hb : isPersistent b = true
    · simp only [ha, hb, if_true, Bool.true_and, Bool.and_eq_true, beq_iff_eq]
      constructor
      · rintro ⟨⟨⟨h₁, h₂⟩, h₃⟩, h₄⟩
        exact ⟨_, rfl, by rw [h₁, h₂, h₃, h₄]⟩
      · rintro ⟨n, hn, hn'⟩
        have heq := Option.some.inj (hn.trans hn'.symm)
        simp only [Prod.mk.injEq] at heq
        exact ⟨⟨⟨heq.1, heq.2.1⟩, heq.2.2.1⟩, heq.2.2.2⟩
    · simp [hb]
  · simp [ha]

/-- The name is the claim on the address, and the address is in canonical form. -/
structure Canonical (X : Texts) (kind : String) (nameOf : Int → String → String)
    (name ip : String) (vni : Int) (a : Addr) : Prop where
  vni_eq : vniIn kind name = some vni
  name_eq : name = nameOf vni ip
  addr : X.parseIP ip = some a
  text : X.ipString a = ip

def Obj.Canonical (X : Texts) : Obj → Prop
  | .port p => ∃ vni a, CozyClaimStore.Canonical X claimPrefixPort (portName X.toNames) p.name
      p.spec.ip vni a
  | .vip v => ∃ vni a, CozyClaimStore.Canonical X claimPrefixServiceVIP (serviceVIPName X) v.name
      v.spec.ip vni a

variable {X : Texts}

theorem claimErrs_nil {kind form : String} {nameOf : Int → String → String} {name ip : String}
    (h : claimErrs X kind form nameOf name ip = []) :
    ∃ vni a, Canonical X kind nameOf name ip vni a := by
  unfold claimErrs at h
  split at h
  · nomatch h
  rename_i a hip
  split at h
  · nomatch h
  rename_i htext
  have hclaim := (List.append_eq_nil_iff.mp h).2
  cases hparse : parseClaim kind name with
  | none =>
    rw [hparse] at hclaim
    nomatch hclaim
  | some claim =>
    rw [hparse] at hclaim
    dsimp only at hclaim
    by_cases hname : name ≠ nameOf claim.1 ip
    · rw [if_pos hname] at hclaim
      nomatch hclaim
    have hvni : vniIn kind name = some claim.1 := by
      unfold vniIn
      rw [hparse]
      rfl
    exact ⟨claim.1, a, hvni, not_ne_iff.mp hname, hip, not_ne_iff.mp htext⟩

variable {o : Obj}

theorem validate_nil (h : o.validate X = []) : o.Canonical X := by
  cases o with
  | port p | vip v => exact claimErrs_nil (List.append_eq_nil_iff.mp h).2

/-- The two keys for one address. -/
inductive Twins : Key → Key → Prop where
  | portFirst (rest : String) : Twins (.port, "v" ++ rest) (.vip, "sv" ++ rest)
  | vipFirst (rest : String) : Twins (.vip, "sv" ++ rest) (.port, "v" ++ rest)

theorem append_left_cancel {p a b : String} (h : p ++ a = p ++ b) : a = b := by
  have hlists := congrArg String.toList h
  rw [String.toList_append, String.toList_append] at hlists
  exact String.toList_injective (List.append_cancel_left hlists)

variable {k : Key}

theorem Twins.symm {t : Key} (h : Twins k t) : Twins t k := by
  cases h with
  | portFirst rest => exact .vipFirst rest
  | vipFirst rest => exact .portFirst rest

theorem Twins.unique {t t' : Key} (h : Twins k t) (h' : Twins k t') : t = t' := by
  generalize hk : k = k' at h'
  cases h with
  | portFirst rest =>
    cases h' with
    | portFirst rest' =>
      rw [append_left_cancel (Prod.mk.inj hk).2]
    | vipFirst rest' => nomatch (Prod.mk.inj hk).1
  | vipFirst rest =>
    cases h' with
    | portFirst rest' => nomatch (Prod.mk.inj hk).1
    | vipFirst rest' =>
      rw [append_left_cancel (Prod.mk.inj hk).2]

theorem twins_names (X : Texts) (vni : Int) (ip : String) :
    Twins (.port, portName X.toNames vni ip) (.vip, serviceVIPName X vni ip) := by
  have hport : portName X.toNames vni ip =
      "v" ++ (toString vni ++ "." ++ escapeIP X.toNames ip) := by
    unfold portName
    simp only [String.append_assoc]
  have hvip : serviceVIPName X vni ip =
      "sv" ++ (toString vni ++ "." ++ escapeIP X.toNames ip) := by
    unfold serviceVIPName
    simp only [String.append_assoc]
  rw [hport, hvip]
  exact .portFirst _

variable {vni : Int}

theorem vniIn_some {kind name : String} (h : vniIn kind name = some vni) :
    ∃ esc, parseClaim kind name = some (vni, esc) := by
  obtain ⟨⟨vni', esc⟩, hparse, rfl⟩ := Option.map_eq_some_iff.mp h
  exact ⟨esc, hparse⟩

theorem twin_twins {t : Key} (hc : o.Canonical X)
    (h : o.twin X = .ok (vni, t)) : Twins o.key t ∧ ∀ p, o = .port p → p.vni = some vni := by
  cases o with
  | port p =>
    obtain ⟨vni', a, hvni, hname, _, _⟩ := hc
    obtain ⟨esc, hparse⟩ := vniIn_some hvni
    simp only [Obj.twin, hparse] at h
    cases h
    refine ⟨?_, fun p' hp' => ?_⟩
    · show Twins (.port, p.name) _
      rw [hname]
      exact twins_names X _ _
    · cases hp'
      exact hvni
  | vip v =>
    obtain ⟨vni', a, hvni, hname, _, _⟩ := hc
    obtain ⟨esc, hparse⟩ := vniIn_some hvni
    simp only [Obj.twin, hparse] at h
    cases h
    refine ⟨?_, fun p' hp' => nomatch hp'⟩
    show Twins (.vip, v.name) _
    rw [hname]
    exact (twins_names X _ _).symm

theorem ite_nil {c : Prop} [Decidable c] {e : FieldErr} (h : (if c then [e] else []) = []) : ¬c := by
  intro hc
  rw [if_pos hc] at h
  nomatch h

variable {old : Port}

theorem validatePersistentUpdate_nil {next : Port} (h : validatePersistentUpdate next old = []) :
    next.vmName = old.vmName ∧ next.vmNIC = old.vmNIC ∧
      (isPersistent old = true → next.spec.podNamespace = old.spec.podNamespace) := by
  obtain ⟨hlabels, hpinned⟩ := List.append_eq_nil_iff.mp h
  obtain ⟨hname, hnic⟩ := List.append_eq_nil_iff.mp hlabels
  refine ⟨not_ne_iff.mp (ite_nil hname), not_ne_iff.mp (ite_nil hnic), fun hp => ?_⟩
  rw [if_pos hp] at hpinned
  exact not_ne_iff.mp (ite_nil (List.append_eq_nil_iff.mp hpinned).1)

theorem nic_kept {next : Port} (h : validatePersistentUpdate next old = [])
    (hvpc : next.spec.vpcRef = old.spec.vpcRef) : next.nic = old.nic := by
  obtain ⟨hname, hnic, hns⟩ := validatePersistentUpdate_nil h
  have hpersistent : isPersistent next = isPersistent old := congrArg (· != "") hname
  unfold Port.nic
  rw [hpersistent]
  by_cases hp : isPersistent old = true
  · rw [if_pos hp, if_pos hp, hns hp, hvpc, hname, hnic]
  · rw [if_neg hp, if_neg hp]

theorem validateStatusUpdate_nil {next : Port} (h : next.validateStatusUpdate old = []) :
    validatePersistentUpdate next old = [] := by
  unfold Port.validateStatusUpdate at h
  split at h
  · nomatch h
  split at h
  · nomatch h
  · exact h

/-- An update keeps the name, the address and the NIC. -/
structure Keeps (o o' : Obj) : Prop where
  key : o'.key = o.key
  claim : ∀ X : Texts, o.Canonical X → o'.Canonical X
  nic : ∀ p', o' = .port p' → ∃ p, o = .port p ∧ p'.name = p.name ∧ p'.nic = p.nic

theorem Keeps.port {next : Port} (hname : next.name = old.name) (hip : next.spec.ip = old.spec.ip)
    (hnic : next.nic = old.nic) : Keeps (.port old) (.port next) := by
  refine ⟨congrArg (Prod.mk Kind.port) hname, ?_, fun p' hp' => ?_⟩
  · rintro X ⟨vni, a, hc⟩
    exact ⟨vni, a, hname ▸ hip ▸ hc⟩
  · cases hp'
    exact ⟨old, rfl, hname, hnic⟩

theorem Keeps.vip {old next : ServiceVIP} (hname : next.name = old.name)
    (hip : next.spec.ip = old.spec.ip) : Keeps (.vip old) (.vip next) := by
  refine ⟨congrArg (Prod.mk Kind.vip) hname, ?_, fun p' hp' => nomatch hp'⟩
  rintro X ⟨vni, a, hc⟩
  exact ⟨vni, a, hname ▸ hip ▸ hc⟩

theorem Updates.keeps {o' : Obj} (h : Updates o o') : Keeps o o' := by
  cases h with
  | @portSpec old next hname _ hval =>
    obtain ⟨hspec, hpersistent⟩ := List.append_eq_nil_iff.mp hval
    obtain ⟨hip, hvpc⟩ := List.append_eq_nil_iff.mp hspec
    exact .port hname (not_ne_iff.mp (ite_nil hip)) (nic_kept hpersistent (not_ne_iff.mp (ite_nil hvpc)))
  | @portStatus old next hname hspec hval =>
    exact .port hname (by rw [hspec]) (nic_kept (validateStatusUpdate_nil hval) (by rw [hspec]))
  | @vipSpec old next hname _ hval =>
    obtain ⟨hports, _⟩ := List.append_eq_nil_iff.mp hval
    obtain ⟨_, hip⟩ := List.append_eq_nil_iff.mp hports
    exact .vip hname (not_ne_iff.mp (ite_nil hip))
  | @vipStatus old next hname hspec _ => exact .vip hname (by rw [hspec])

/-- Every object is a canonical claim under its own key, no key and its twin are both taken, and no
    two Ports of a VNI have one NIC. -/
structure Inv (X : Texts) (s : Etcd) : Prop where
  dated : s.Dated
  stored : ∀ k e, s.now k = some e → e.value.key = k ∧ e.value.Canonical X
  apart : ∀ k t, Twins k t → s.now k ≠ none → s.now t = none
  nics : ∀ k k' e e' p p' n, s.now k = some e → s.now k' = some e' → e.value = .port p →
    e'.value = .port p' → p.vni = p'.vni → p.nic = some n → p'.nic = some n → k = k'

variable {s : Etcd}

/-- **ONE WRITE** of a canonical claim keeps the invariant if the twin is free or the key was taken,
    and no other Port of the VNI has the NIC. -/
theorem Inv.commit (h : Inv X s) {v : Option Obj}
    (hstored : ∀ o, v = some o → o.key = k ∧ o.Canonical X)
    (hapart : v ≠ none → s.now k ≠ none ∨ ∀ t, Twins k t → s.now t = none)
    (hnics : ∀ p n, v = some (.port p) → p.nic = some n → ∀ j e q, s.now j = some e →
      e.value = .port q → q.vni = p.vni → q.nic = some n → j = k) : Inv X (s.commit k v) where
  dated := h.dated.commit k v
  stored := by
    intro j e hj
    rcases Store.commit_now_some hj with ⟨rfl, hv, _⟩ | ⟨_, hold⟩
    · exact hstored e.value hv
    · exact h.stored j e hold
  apart := by
    intro j t htwins hj
    obtain ⟨e, he⟩ := Option.ne_none_iff_exists'.mp hj
    by_contra ht
    obtain ⟨e', he'⟩ := Option.ne_none_iff_exists'.mp ht
    -- one of the two was written, or both were there before
    have hfree : ∀ t, v ≠ none → Twins k t → s.now t = none := by
      intro t hv htw
      rcases hapart hv with htaken | hall
      · exact h.apart k t htw htaken
      · exact hall t htw
    rcases Store.commit_now_some he with ⟨rfl, hv, _⟩ | ⟨_, hold⟩
    · rcases Store.commit_now_some he' with ⟨rfl, _, _⟩ | ⟨_, hold'⟩
      · nomatch htwins
      · nomatch (hfree t (by rw [hv]; exact Option.some_ne_none _) htwins).symm.trans hold'
    rcases Store.commit_now_some he' with ⟨rfl, hv, _⟩ | ⟨_, hold'⟩
    · nomatch (hfree j (by rw [hv]; exact Option.some_ne_none _) htwins.symm).symm.trans hold
    have htaken : s.now j ≠ none := by
      rw [hold]
      exact Option.some_ne_none _
    nomatch (h.apart j t htwins htaken).symm.trans hold'
  nics := by
    intro j j' e e' p p' n hj hj' hp hp' hvni hn hn'
    rcases Store.commit_now_some hj with ⟨rfl, hv, _⟩ | ⟨_, hold⟩
    · rcases Store.commit_now_some hj' with ⟨rfl, _, _⟩ | ⟨_, hold'⟩
      · rfl
      · exact (hnics p n (hv.trans (congrArg some hp)) hn j' e' p' hold' hp' hvni.symm hn').symm
    · rcases Store.commit_now_some hj' with ⟨rfl, hv, _⟩ | ⟨_, hold'⟩
      · exact hnics p' n (hv.trans (congrArg some hp')) hn' j e p hold hp hvni hn
      · exact h.nics j j' e e' p p' n hold hold' hp hp' hvni hn hn'

theorem Inv.drift {s' : Etcd} (h : Inv X s) (hd : Drift s s') : Inv X s' := by
  cases hd with
  | delete k =>
    exact h.commit (fun o ho => nomatch ho) (fun hne => absurd rfl hne) fun p n hp => nomatch hp
  | @update k e next hk hup =>
    have hkeeps := hup.keeps
    obtain ⟨hkey, hcanon⟩ := h.stored k e hk
    refine h.commit ?_ (fun _ => .inl ?_) ?_
    · intro o ho
      cases ho
      exact ⟨hkeeps.key.trans hkey, hkeeps.claim X hcanon⟩
    · rw [hk]
      exact Option.some_ne_none _
    · intro p n hp hn j e' q hj hq hvni hqn
      obtain ⟨old, hold, hname, hnic⟩ := hkeeps.nic p (Option.some.inj hp)
      have hvni' : q.vni = old.vni := hvni.trans (congrArg (vniIn claimPrefixPort) hname)
      exact h.nics j k e' e q old n hj hk hq hold hvni' hqn (hnic.symm.trans hn)

/-- Creates rely on each other, and on the other requests, only to leave the past alone. -/
def contract (X : Texts) (ι : Type) : Contract (etcdServer ι) where
  inv := Inv X
  rely := fun _ => Store.Extends
  refl := fun _ => Store.Extends.refl
  trans := fun _ => Store.Extends.trans
  drift_inv := fun h hd => h.drift hd
  drift_rely := by
    intro s s' i _ hd
    cases hd with
    | delete k => exact Store.extends_commit s k none
    | update _ _ => exact Store.extends_commit s _ _

-- ── the scan

section

variable {X : Texts} {ι : Type} {i : ι}

theorem ctxErr_keeps {P : Etcd → Prop} (hP : Stable (contract X ι) i P) :
    Triple (contract X ι) i P ctxErr fun _ => P :=
  Triple.askQuiet (A := Answer) (q := .ctxErr) hP (fun _ => hP) fun _ _ _ _ hs hserve => ⟨hserve, hs⟩

/-- At revision `rev`, if `m`, no Port of the VNI below `start` has the NIC of `port`. -/
def ClearBelow (m : Prop) (port : Port) (vni : Int) (rev : Nat) (start : String) (s : Etcd) : Prop :=
  rev ≤ s.rev ∧ (m → ∀ name e q, s.hist rev (.port, name) = some e → e.value = .port q →
    inRange vni name → name < start → samePersistentNIC port q = false)

theorem ClearBelow.stable (m : Prop) (port : Port) (vni : Int) (rev : Nat) (start : String) :
    Stable (contract X ι) i (ClearBelow m port vni rev start) := by
  rintro s s' _ _ hlater ⟨hrev, h⟩
  refine ⟨Nat.le_trans hrev hlater.1, ?_⟩
  rw [hlater.2 rev hrev]
  exact h

/-- The page read is of the revision's content, from `start` on. -/
def Paged (m : Prop) (port : Port) (vni : Int) (rev : Nat) (start : String) (page : Page)
    (s : Etcd) : Prop :=
  ClearBelow m port vni rev start s ∧ Listed (s.hist rev) vni start page

theorem Paged.stable (m : Prop) (port : Port) (vni : Int) (rev : Nat) (start : String)
    (page : Page) : Stable (contract X ι) i (Paged m port vni rev start page) := by
  rintro s s' hinv hinv' hlater ⟨hclear, hlisted⟩
  refine ⟨ClearBelow.stable m port vni rev start s s' hinv hinv' hlater hclear, ?_⟩
  rw [hlater.2 rev hclear.1]
  exact hlisted

/-- Before a page: nothing has been read, or what has been read is clear unless it matched. -/
def Going (port : Port) (vni : Int) (start : String) (sc : Scan) (s : Etcd) : Prop :=
  if sc.revision = 0 then start = rangeStart vni
  else ClearBelow (sc.matched = "") port vni sc.revision start s

theorem Going.stable (port : Port) (vni : Int) (start : String) (sc : Scan) :
    Stable (contract X ι) i (Going port vni start sc) := by
  unfold Going
  split
  · exact .const _
  · exact ClearBelow.stable _ port vni sc.revision start

def Scan.at (sc : Scan) (page : Page) : Nat :=
  if sc.revision = 0 then page.revision else sc.revision

theorem getPage_spec (port : Port) (vni : Int) (start : String) (sc : Scan) :
    Triple (contract X ι) i (Going port vni start sc)
      (getPage vni start (if sc.revision = 0 then none else some sc.revision))
      (Okay fun page s => Paged (sc.matched = "") port vni (sc.at page) start page s) := by
  have hstable := Going.stable (X := X) (ι := ι) (i := i) port vni start sc
  have hpost := Okay.stable (C := contract X ι) (i := i) (ε := Err)
    fun page => Paged.stable (sc.matched = "") port vni (sc.at page) start page
  unfold Going at hstable ⊢
  unfold Scan.at at hpost ⊢
  by_cases hrev : sc.revision = 0
  · simp only [if_pos hrev] at hstable hpost ⊢
    refine .askQuiet (A := Answer) (q := .getPage vni start none) hstable hpost ?_
    rintro s a s' _ rfl ⟨rfl, hpage⟩
    refine ⟨rfl, fun page ha => ?_⟩
    obtain ⟨hle, hlisted⟩ := hpage page ha
    -- nothing of the range lies below its start
    exact ⟨⟨hle, fun _ name e q _ _ hin hlt => absurd hlt (not_lt.mpr hin.1)⟩, hlisted⟩
  · simp only [if_neg hrev] at hstable hpost ⊢
    refine .askQuiet (A := Answer) (q := .getPage vni start (some sc.revision)) hstable hpost ?_
    rintro s a s' _ hclear ⟨rfl, hpage⟩
    exact ⟨rfl, fun page ha => ⟨hclear, (hpage page ha).2⟩⟩

theorem scanKVs_spec (port : Port) (vni : Int) (start : String) {P : Etcd → Prop}
    (hP : Stable (contract X ι) i P) (kvs : List KV) (sc : Scan) :
    Triple (contract X ι) i P (scanKVs port vni start kvs sc)
      (Okay fun sc' s => P s ∧ sc'.revision = sc.revision ∧ (sc'.matched = "" → sc.matched = "" ∧
        ∀ kv ∈ kvs, ∀ q, kv.entry.value = .port q → samePersistentNIC port q = false)) := by
  induction kvs generalizing sc with
  | nil =>
    refine .returns hP fun s hs => ⟨hs, rfl, fun hm => ⟨hm, fun kv hkv => ?_⟩⟩
    exact absurd hkv List.not_mem_nil
  | cons kv kvs ih =>
    refine .bindNone (ctxErr_keeps hP) Triple.fails <|
      Triple.ite (fun _ => .fails _) fun _ =>
      Triple.ite (fun _ => .fails _) fun hscope => ?_
    cases hval : kv.entry.value with
    | vip v => exact .fails _
    | port stored =>
      refine .ite (fun _ => .fails _) fun hname => .ite (fun hsame => ?_) fun hsame => ?_
      · refine .ite (fun _ => .fails _) fun _ => ?_
        refine (ih _).weaken fun r s h sc' hr => ?_
        obtain ⟨hs, hrev, hmatched⟩ := h sc' hr
        refine ⟨hs, hrev, fun hm => ?_⟩
        -- the match is a name with the prefix, so it is not empty
        have hempty : stored.name = "" := (hmatched hm).1
        have hpre : (rangeStart vni).toList <+: kv.name.toList := by
          by_contra hno
          exact hscope (.inr (.inl hno))
        rw [not_ne_iff.mp hname, hempty] at hpre
        exact absurd (List.prefix_nil.mp hpre) (by
          unfold rangeStart
          simp [String.toList_append])
      · refine (ih _).weaken fun r s h sc' hr => ?_
        obtain ⟨hs, hrev, hmatched⟩ := h sc' hr
        refine ⟨hs, hrev, fun hm => ⟨(hmatched hm).1, fun kv' hkv' q hq => ?_⟩⟩
        rcases List.mem_cons.mp hkv' with rfl | hrest
        · cases hval.symm.trans hq
          exact Bool.not_eq_true _ ▸ hsame
        · exact (hmatched hm).2 kv' hrest q hq

theorem Paged.next {m m' : Prop} {port : Port} {rev : Nat} {start : String} {page : Page}
    (h : Paged m port vni rev start page s)
    (hclear : m' → m ∧ ∀ kv ∈ page.kvs, ∀ q, kv.entry.value = .port q →
      samePersistentNIC port q = false) {stop : String} (hstop : page.more = false ∨
      ∃ last, page.kvs.getLast? = some last ∧ stop = last.name ++ "\x00") :
    ClearBelow m' port vni rev stop s := by
  obtain ⟨⟨hrev, hbelow⟩, hlisted⟩ := h
  refine ⟨hrev, fun hm' name e q hname hq hin hlt => ?_⟩
  obtain ⟨hm, hkvs⟩ := hclear hm'
  by_cases hstart : name < start
  · exact hbelow hm name e q hname hq hin hstart
  rcases hlisted.complete name e hname (not_lt.mp hstart) hin.2 with
    ⟨kv, hkv, _, rfl⟩ | ⟨hmore, last, hlast, hbehind⟩
  · exact hkvs kv hkv q hq
  · rcases hstop with hnomore | ⟨last', hlast', rfl⟩
    · exact absurd (hmore.symm.trans hnomore) (by decide)
    · cases hlast.symm.trans hlast'
      exact absurd hlt (not_lt.mpr (after_le hbehind))

/-- The pages of a scan that ends without a match cover the range: induction on the pages left. -/
theorem guardPages_spec (port : Port) (vni : Int) (fuel : Nat) (start : String) (sc : Scan) :
    Triple (contract X ι) i (Going port vni start sc) (guardPages port vni fuel start sc)
      (Okay fun sc' s =>
        ClearBelow (sc'.matched = "") port vni sc'.revision (rangeEnd vni) s) := by
  induction fuel generalizing start sc with
  | zero => exact .fails _
  | succ fuel ih =>
    refine .bindNone (ctxErr_keeps (Going.stable port vni start sc)) Triple.fails <|
      Triple.bindOk (getPage_spec port vni start sc) Triple.fails fun page =>
      Triple.ite (fun _ => .fails _) fun hrevision =>
      Triple.ite (fun _ => .fails _) fun _ =>
      Triple.bindOk (scanKVs_spec port vni start (Paged.stable (sc.matched = "") port vni
        (sc.at page) start page) page.kvs { sc with revision := sc.at page }) Triple.fails
        fun sc' => ?_
    have hclears : ∀ stop : String, (page.more = false ∨
        ∃ last, page.kvs.getLast? = some last ∧ stop = last.name ++ "\x00") →
        ∀ s, Paged (sc.matched = "") port vni (sc.at page) start page s ∧
          sc'.revision = sc.at page ∧ (sc'.matched = "" → sc.matched = "" ∧
            ∀ kv ∈ page.kvs, ∀ q, kv.entry.value = .port q →
              samePersistentNIC port q = false) →
        ClearBelow (sc'.matched = "") port vni sc'.revision stop s := by
      rintro stop hstop s ⟨hs, hrev, hmatched⟩
      rw [hrev]
      exact hs.next hmatched hstop
    refine .ite (fun hmore => ?_) fun _ => ?_
    · refine .strengthen (.returns (ClearBelow.stable _ _ _ _ _) fun s hs => hs) ?_
      exact fun s _ => hclears (rangeEnd vni) (.inl hmore) s
    · cases hlast : page.kvs.getLast? with
      | none => exact .fails _
      | some last =>
        refine .ite (fun _ => .fails _) fun _ =>
          Triple.ite (fun _ => .fails _) fun _ => ?_
        -- the next page starts after the last key, at the same revision
        refine (ih (last.name ++ "\x00") sc').strengthen fun s _ hs => ?_
        have hat : sc'.revision ≠ 0 := by
          rw [hs.2.1]
          unfold Scan.at
          split
          · exact hrevision
          · rename_i h0
            exact h0
        unfold Going
        rw [if_neg hat]
        exact hclears _ (.inr ⟨last, hlast, rfl⟩) s hs

/-- **A SCAN WITHOUT ERROR** has seen every Port of the VNI at the revision it returns. -/
theorem persistentGuard_spec (port : Port) (vni : Int) :
    Triple (contract X ι) i (fun _ => True) (persistentGuard port vni)
      (Okay fun g s => ∃ rev, g = (vni, rev) ∧ ClearBelow True port vni rev (rangeEnd vni) s) := by
  have hbegin : ∀ s : Etcd, (contract X ι).inv s → True →
      Going port vni (rangeStart vni) ⟨0, "", 0, 0⟩ s := fun s _ _ => rfl
  refine .bindOk ((guardPages_spec port vni _ _ _).strengthen hbegin) Triple.fails fun sc =>
    Triple.ite (fun _ => .fails _) fun hmatched => .ite (fun _ => .fails _)
    fun _ => .returns (ClearBelow.stable _ _ _ _ _) fun s hs => ?_
  exact ⟨sc.revision, rfl, hs.1, fun _ => hs.2 (not_ne_iff.mp hmatched)⟩

/-- A persistent Port's guard rests on a scan. -/
def Guarded (vni : Int) (obj : Obj) (guard : Option (Int × Nat)) (s : Etcd) : Prop :=
  ∀ p, obj = .port p → isPersistent p = true →
    ∃ rev, guard = some (vni, rev) ∧ ClearBelow True p vni rev (rangeEnd vni) s

theorem Guarded.stable (vni : Int) (obj : Obj) (guard : Option (Int × Nat)) :
    Stable (contract X ι) i (Guarded vni obj guard) := by
  intro s s' hinv hinv' hlater h p hp hpersistent
  obtain ⟨rev, hg, hclear⟩ := h p hp hpersistent
  exact ⟨rev, hg, ClearBelow.stable True p vni rev _ s s' hinv hinv' hlater hclear⟩

theorem guardOf_spec (vni : Int) (obj : Obj) :
    Triple (contract X ι) i (fun _ => True) (guardOf vni obj)
      (Okay fun guard s => Guarded vni obj guard s) := by
  cases obj with
  | vip v => exact .returns (.const _) fun s _ p hp => nomatch hp
  | port p =>
    refine .ite (fun hp => ?_) fun hp => ?_
    · refine .bindOk (persistentGuard_spec p vni) Triple.fails fun g =>
        Triple.returns ?_ fun s hs => ?_
      · rintro s s' hinv hinv' hlater ⟨rev, hg, hclear⟩
        exact ⟨rev, hg, ClearBelow.stable True p vni rev _ s s' hinv hinv' hlater hclear⟩
      · intro p' hp' _
        cases hp'
        obtain ⟨rev, rfl, hclear⟩ := hs
        exact ⟨rev, rfl, hclear⟩
    · refine .returns (.const _) fun s _ p' hp' hpersistent => ?_
      cases hp'
      exact absurd hpersistent hp

/-- **THE RANGE COMPARE**: one of the NIC's Ports that was not written since the scan was there for
    the scan to see. -/
theorem Txn.Holds.alone {t : Txn} {p : Port} {n : String × VPCRef × String × String}
    (hinv : Inv X s) (h : t.Holds s) (hobj : t.obj = .port p) (hvni : p.vni = some vni)
    (hguard : Guarded vni t.obj t.guard s) (hn : p.nic = some n) {j : Key} {e : Entry Obj}
    {q : Port} (hj : s.now j = some e) (hq : e.value = .port q) (hqvni : q.vni = p.vni) :
    q.nic ≠ some n := by
  intro hqn
  have hpersistent : isPersistent p = true := by
    by_contra hp
    unfold Port.nic at hn
    rw [if_neg hp] at hn
    nomatch hn
  obtain ⟨rev, hg, hrev, hclear⟩ := hguard p hobj hpersistent
  obtain ⟨hkey, hcanon⟩ := hinv.stored j e hj
  rw [hq] at hkey hcanon
  obtain ⟨vni', a, hvni', hname, _, _⟩ := hcanon
  obtain rfl : vni' = vni := Option.some.inj (hvni'.symm.trans (hqvni.trans hvni))
  have hin : inRange vni' q.name := by
    rw [hname]
    exact portName_inRange X vni' _
  obtain rfl : (Kind.port, q.name) = j := hkey
  have hstamp : e.modRev ≤ rev := Nat.lt_succ_iff.mp (h.guard vni' rev hg q.name e hj hin)
  have hseen := hclear trivial q.name e q (hinv.dated.since rev hrev _ e hj hstamp) hq hin hin.2
  exact absurd (samePersistentNIC_iff.mpr ⟨n, hn, hqn⟩) (by rw [hseen]; decide)

theorem commitTxn_spec {t : Txn} (hcanon : t.obj.Canonical X) (htwin : Twins t.obj.key t.twin)
    (hvni : ∀ p, t.obj = .port p → p.vni = some vni) :
    Triple (contract X ι) i (Guarded vni t.obj t.guard) (commitTxn t) fun _ _ => True := by
  refine .ask (A := Answer) (q := .commit t) (Guarded.stable _ _ _)
    (fun _ => .const _) fun s a s' hinv hs hserve => ?_
  rcases hserve with ⟨rfl, _⟩ | ⟨hholds, rfl⟩
  · exact ⟨hinv, fun _ _ => Store.Extends.refl _, trivial⟩
  refine ⟨Inv.commit hinv ?_ (fun _ => .inr fun t' ht' => ?_) ?_,
    fun _ _ => Store.extends_commit s _ _, trivial⟩
  · intro o ho
    cases ho
    exact ⟨rfl, hcanon⟩
  · rw [ht'.unique htwin]
    exact hholds.twin
  · intro p n hp hn j e q hj hq hqvni hqn
    have hobj := Option.some.inj hp
    exact absurd hqn (hholds.alone hinv hobj (hvni p hobj) hs hn hj hq hqvni)

theorem attempts_spec {obj : Obj} {twin : Key} (hcanon : obj.Canonical X)
    (htwin : Twins obj.key twin) (hvni : ∀ p, obj = .port p → p.vni = some vni) (n : Nat) :
    Triple (contract X ι) i (fun _ => True) (attempts obj vni twin n) fun _ _ => True := by
  induction n with
  | zero => exact .done _
  | succ n ih =>
    refine .bindNone (ctxErr_keeps (.const True)) (fun _ => .done _) <|
      Triple.bindOk (guardOf_spec vni obj) (fun _ => .done _) fun guard =>
      Triple.bind _ (commitTxn_spec (t := ⟨obj, twin, guard⟩) hcanon htwin hvni) fun r => ?_
    cases r with
    | error e => exact .done _
    | ok response =>
      exact .ite (fun _ => .done _) fun _ =>
        Triple.ite (fun _ => .done _) fun _ => ih

theorem beginCreate_spec (obj : Obj) :
    Triple (contract X ι) i (fun _ => True) (beginCreate X obj) fun _ _ => True := by
  unfold beginCreate
  cases obj.twin X with
  | error e => exact .done _
  | ok twin =>
    have hget : Triple (contract X ι) i (fun _ => True) (twinExists twin.2) fun _ _ => True :=
      Triple.askQuiet (A := Answer) (q := .twinExists twin.2) (.const _)
        (fun _ => .const _) fun _ _ _ _ _ hserve => ⟨hserve, trivial⟩
    refine .bind _ hget fun r => ?_
    cases r with
    | error e => exact .done _
    | ok taken => exact .ite (fun _ => .done _) fun _ => .done _

theorem atomicCreate_spec {r : CreateRequest} (hcanon : r.obj.Canonical X) :
    Triple (contract X ι) i (fun _ => True) (atomicCreate X r) fun _ _ => True := by
  unfold atomicCreate
  cases htwin : r.obj.twin X with
  | error e => exact .done _
  | ok twin =>
    obtain ⟨htwins, hvni⟩ := twin_twins hcanon htwin
    exact .ite (fun _ => .done _) fun _ => .ite (fun _ => .done _) fun _ =>
      attempts_spec hcanon htwins hvni _

/-- **ONE REQUEST**: whatever its outcome, a create keeps the claims apart. -/
theorem create_spec (r : CreateRequest) :
    Triple (contract X ι) i (fun _ => True) (create X r) fun _ _ => True := by
  unfold create
  cases hvalid : r.obj.validate X with
  | cons e es => exact .done _
  | nil =>
    refine .bind _ (beginCreate_spec r.obj) fun b => ?_
    cases b with
    | error e => exact .done _
    | ok u => exact atomicCreate_spec (validate_nil hvalid)

end

theorem scanKVs_seen {port : Port} {start : String} {kvs : List KV} {sc sc' : Scan}
    (h : (scanKVs port vni start kvs sc).Gives (.ok sc')) :
    sc'.seen = sc.seen + kvs.length ∧ (kvs ≠ [] → sc'.seen ≤ persistentScanLimit) := by
  induction kvs generalizing sc with
  | nil =>
    cases h.of_pure
    exact ⟨rfl, fun hne => absurd rfl hne⟩
  | cons kv kvs ih =>
    obtain ⟨e, _, h⟩ := h.of_bind
    cases e with
    | some e => nomatch h.of_pure
    | none =>
      dsimp only at h
      split at h
      · nomatch h.of_pure
      split at h
      · nomatch h.of_pure
      rename_i hscope
      have hlimit : sc.seen + 1 ≤ persistentScanLimit := by
        by_contra hlt
        exact hscope (.inl (Nat.lt_of_not_le hlt))
      -- the rest of the page starts from one more claim
      have hrest : ∀ sc₁ : Scan, sc₁.seen = sc.seen + 1 →
          (scanKVs port vni start kvs sc₁).Gives (.ok sc') →
          sc'.seen = sc.seen + (kvs.length + 1) ∧ sc'.seen ≤ persistentScanLimit := by
        intro sc₁ hseen h₁
        obtain ⟨hcount, hle⟩ := ih h₁
        refine ⟨by omega, ?_⟩
        cases hkvs : kvs with
        | nil =>
          rw [hkvs, List.length_nil] at hcount
          omega
        | cons kv' kvs' => exact hle (by rw [hkvs]; exact List.cons_ne_nil _ _)
      split at h
      · nomatch h.of_pure
      split at h
      · nomatch h.of_pure
      split at h
      · split at h
        · nomatch h.of_pure
        · obtain ⟨hcount, hle⟩ := hrest _ rfl h
          exact ⟨hcount, fun _ => hle⟩
      · obtain ⟨hcount, hle⟩ := hrest _ rfl h
        exact ⟨hcount, fun _ => hle⟩

/-- **THE FUEL IS ENOUGH**: more of it does not change the scan, once it exceeds what may still be
    read. -/
theorem guardPages_fuel (port : Port) (vni : Int) (fuel : Nat) (start : String) (sc : Scan)
    (h : persistentScanLimit < fuel + sc.seen) (hpos : 0 < fuel) :
    guardPages port vni fuel start sc = guardPages port vni (fuel + 1) start sc := by
  induction fuel generalizing start sc with
  | zero => exact absurd hpos (Nat.lt_irrefl 0)
  | succ fuel ih =>
    refine Prog.bind_congr fun e _ => ?_
    cases e with
    | some e => rfl
    | none =>
      refine Prog.bind_congr fun a _ => ?_
      cases a with
      | error e => rfl
      | ok page =>
        dsimp only
        split
        · rfl
        split
        · rfl
        refine Prog.bind_congr fun b hb => ?_
        cases b with
        | error e => rfl
        | ok sc' =>
          dsimp only
          split
          · rfl
          cases hlast : page.kvs.getLast? with
          | none => rfl
          | some last =>
            dsimp only
            split
            · rfl
            split
            · rfl
            -- the page had an entry, so less is left to read
            rename_i hseen _
            obtain ⟨hcount, _⟩ := scanKVs_seen hb
            have hne : page.kvs ≠ [] := by
              intro hnil
              rw [hnil] at hlast
              nomatch hlast
            have hlen : 0 < page.kvs.length := List.length_pos_iff.mpr hne
            have hcount' : sc'.seen = sc.seen + page.kvs.length := hcount
            refine ih _ sc' (by omega) ?_
            omega

def Live (s : Etcd) (k : Key) (o : Obj) : Prop := ∃ e, s.now k = some e ∧ e.value = o

theorem Canonical.claim (h : o.Canonical X) : ∃ c, o.claim X = some c := by
  cases o with
  | port p | vip v =>
    obtain ⟨vni, a, hvni, _, haddr, _⟩ := h
    refine ⟨(vni, a), ?_⟩
    simp only [Obj.claim, hvni, haddr, Option.bind_some, Option.map_some]

theorem Canonical.key (h : o.Canonical X) {a : Addr} (hc : o.claim X = some (vni, a)) :
    o.key = (.port, portName X.toNames vni (X.ipString a)) ∨
      o.key = (.vip, serviceVIPName X vni (X.ipString a)) := by
  cases o
  all_goals
    obtain ⟨vni', a', hvni, hname, haddr, htext⟩ := h
    simp only [Obj.claim, hvni, haddr, Option.bind_some, Option.map_some] at hc
    cases hc
    rw [htext]
  · exact .inl (congrArg (Prod.mk Kind.port) hname)
  · exact .inr (congrArg (Prod.mk Kind.vip) hname)

theorem Inv.unique (h : Inv X s) {k' : Key} {o' : Obj} {c : Int × Addr} (hk : Live s k o)
    (hk' : Live s k' o') (hc : o.claim X = some c) (hc' : o'.claim X = some c) : k = k' := by
  obtain ⟨e, he, rfl⟩ := hk
  obtain ⟨e', he', rfl⟩ := hk'
  obtain ⟨hkey, hcanon⟩ := h.stored k e he
  obtain ⟨hkey', hcanon'⟩ := h.stored k' e' he'
  have htaken : s.now k ≠ none := by
    rw [he]
    exact Option.some_ne_none _
  have htwins := twins_names X c.1 (X.ipString c.2)
  rcases Canonical.key hcanon hc with hp | hv
  · rcases Canonical.key hcanon' hc' with hp' | hv'
    · exact hkey.symm.trans (hp.trans (hp'.symm.trans hkey'))
    · have hfree := h.apart k k' (hkey ▸ hkey' ▸ hp ▸ hv' ▸ htwins) htaken
      nomatch hfree.symm.trans he'
  · rcases Canonical.key hcanon' hc' with hp' | hv'
    · have hfree := h.apart k k' (hkey ▸ hkey' ▸ hv ▸ hp' ▸ htwins.symm) htaken
      nomatch hfree.symm.trans he'
    · exact hkey.symm.trans (hv.trans (hv'.symm.trans hkey'))

section

variable {X : Texts} {ι : Type} [DecidableEq ι]

variable (X) in
def start (s : Etcd) (req : ι → CreateRequest) : System ι Answer (Except Err Unit) Etcd :=
  ⟨s, fun i => create X (req i)⟩

/-- **CLAIMS ARE NEVER SHARED**, in every state of every interleaving from a store that is in order:
    live objects that claim one address are the same, and so are live Ports of a VNI with one
    persistent NIC. -/
theorem claims_never_shared {req : ι → CreateRequest} {s₀ : Etcd} (h₀ : Inv X s₀)
    {s : System ι Answer (Except Err Unit) Etcd}
    (hrun : ReflTransGen (Step (etcdServer ι)) (start X s₀ req) s) :
    (∀ k o, Live s.world k o → ∃ c, o.claim X = some c) ∧
    (∀ k k' o o' c, Live s.world k o → Live s.world k' o' → o.claim X = some c →
      o'.claim X = some c → k = k') ∧
    (∀ k k' p p', Live s.world k (.port p) → Live s.world k' (.port p') → p.vni = p'.vni →
      samePersistentNIC p p' = true → k = k') := by
  have hinv₀ : (contract X ι).inv (start X s₀ req).world := h₀
  have hstart : ∀ i, Safe (contract X ι) i (fun _ _ => True)
      ((start X s₀ req).prog i) (start X s₀ req).world :=
    fun i => create_spec (req i) s₀ h₀ trivial
  obtain ⟨hinv, _⟩ := (contract X ι).leads hinv₀ hstart hrun
  refine ⟨fun k o hk => ?_, fun k k' o o' c hk hk' hc hc' => hinv.unique hk hk' hc hc', ?_⟩
  · obtain ⟨e, he, rfl⟩ := hk
    exact Canonical.claim (hinv.stored k e he).2
  · rintro k k' p p' ⟨e, he, hp⟩ ⟨e', he', hp'⟩ hvni hsame
    obtain ⟨n, hn, hn'⟩ := samePersistentNIC_iff.mp hsame
    exact hinv.nics k k' e e' p p' n he he' hp hp' hvni hn hn'

end

-- ── a race for an address and a NIC

def raceTexts : Texts where
  parseCIDR _ := none
  ipString a := if a = 1 then "10.0.0.1" else "10.0.0.2"
  parseIP s := if s = "10.0.0.1" then some 1 else if s = "10.0.0.2" then some 2 else none
  parseAddr6 _ := none
  parseMAC _ := some [2, 0, 0, 0, 0, 1]
  reserved _ := false

/-- The Port of the VM's NIC at an address. -/
def racePort (name ip : String) : Port :=
  ⟨name, "vm", "nic0", ⟨⟨"t", "a"⟩, ip, "02:00:00:00:00:01", "t"⟩, []⟩

theorem guardPages_fuel_racePort :
    guardPages (racePort "v100.10-0-0-1" "10.0.0.1") 100 (persistentScanLimit + 1) (rangeStart 100)
        ⟨0, "", 0, 0⟩ =
      guardPages (racePort "v100.10-0-0-1" "10.0.0.1") 100 (persistentScanLimit + 2) (rangeStart 100)
        ⟨0, "", 0, 0⟩ :=
  guardPages_fuel _ _ _ _ _ (Nat.lt_succ_self _) (Nat.succ_pos _)

/-- Two addresses for a NIC; a ServiceVIP wants the first. -/
def raceRequest : Fin 3 → CreateRequest
  | 0 => ⟨.port (racePort "v100.10-0-0-1" "10.0.0.1"), 0, 0⟩
  | 1 => ⟨.vip ⟨"sv100.10-0-0-1", ⟨⟨"t", "a"⟩, "10.0.0.1", []⟩, []⟩, 0, 0⟩
  | 2 => ⟨.port (racePort "v100.10-0-0-2" "10.0.0.2"), 0, 0⟩

def raceNames : List String := ["v100.10-0-0-1", "v100.10-0-0-2"]

/-- The page of a revision: all the names from `start` on. -/
def racePage (s : Etcd) (rev : Nat) (vni : Int) (start : String) : Page where
  revision := rev
  more := false
  kvs := raceNames.filterMap fun name =>
    if start ≤ name ∧ name < rangeEnd vni then
      (s.hist rev (.port, name)).map fun e => ⟨name, e, 100⟩
    else none

def raceKnown (o : Obj) : Bool :=
  match o with
  | .port p => raceNames.contains p.name
  | .vip _ => true

/-- The checks of a transaction in the race. -/
def raceHolds (t : Txn) (s : Etcd) : Bool :=
  (s.now t.obj.key).isNone && (s.now t.twin).isNone &&
    match t.guard with
    | none => true
    | some (vni, rev) => raceNames.all fun name =>
      match s.now (.port, name) with
      | none => true
      | some e => !(decide (rangeStart vni ≤ name) && decide (name < rangeEnd vni)) ||
          decide (e.modRev < rev + 1)

def raceCommit (t : Txn) (s : Etcd) : Except Err TxnResponse × Etcd :=
  if raceHolds t s then
    if raceKnown t.obj then (.ok ⟨true, false⟩, s.commit t.obj.key (some t.obj))
    else (.error (errorf "unavailable"), s)
  else (.ok ⟨false, (s.now t.obj.key).isSome || (s.now t.twin).isSome⟩, s)

def raceGet (s : Etcd) (vni : Int) (start : String) : Option Nat → Except Err Page
  | none => .ok (racePage s s.rev vni start)
  | some rev => if rev ≤ s.rev then .ok (racePage s rev vni start) else .error (errorf "future")

def raceAct (_ : Fin 3) : (q : Request) → Etcd → Answer q × Etcd
  | .ctxErr, s => (none, s)
  | .twinExists _, s => (.ok false, s)
  | .getPage vni start rev, s => (raceGet s vni start rev, s)
  | .commit t, s => raceCommit t s

def RaceWorld (s : Etcd) : Prop :=
  ∀ rev name e, s.hist rev (.port, name) = some e → name ∈ raceNames

theorem racePage_listed (h : RaceWorld s) (rev : Nat) (vni : Int) (start : String) :
    Listed (s.hist rev) vni start (racePage s rev vni start) := by
  constructor
  · intro kv hkv
    obtain ⟨name, _, hkv⟩ := List.mem_filterMap.mp hkv
    split at hkv
    · obtain ⟨e, he, rfl⟩ := Option.map_eq_some_iff.mp hkv
      exact he
    · nomatch hkv
  · intro name e he hstart hend
    refine .inl ⟨⟨name, e, 100⟩, List.mem_filterMap.mpr ⟨name, h rev name e he, ?_⟩, rfl, rfl⟩
    rw [if_pos ⟨hstart, hend⟩, he]
    rfl

theorem raceHolds_holds {t : Txn} (hs : RaceWorld s) (h : raceHolds t s = true) : t.Holds s := by
  unfold raceHolds at h
  simp only [Bool.and_eq_true, Option.isNone_iff_eq_none] at h
  obtain ⟨⟨hfree, htwin⟩, hguard⟩ := h
  refine ⟨hfree, htwin, fun vni rev hg name e he hin => ?_⟩
  rw [hg] at hguard
  have hname := List.all_eq_true.mp hguard name (hs s.rev name e he)
  rw [he] at hname
  simpa [hin.1, hin.2] using hname

theorem raceWorld_commit (h : RaceWorld s) (ho : raceKnown o = true) :
    RaceWorld (s.commit o.key (some o)) := by
  intro rev name e he
  by_cases hrev : rev = s.rev + 1
  · subst hrev
    rcases Store.commit_now_some he with ⟨hkey, _, _⟩ | ⟨_, hold⟩
    · cases o with
      | port p =>
        obtain rfl : name = p.name := (Prod.mk.inj hkey).2
        exact List.contains_iff_mem.mp ho
      | vip v => nomatch (Prod.mk.inj hkey).1
    · exact h s.rev name e hold
  · have hold : (s.commit o.key (some o)).hist rev = s.hist rev := Function.update_of_ne hrev _ _
    rw [hold] at he
    exact h rev name e he

theorem raceCommit_served (hs : RaceWorld s) (i : Fin 3) (t : Txn) :
    serve i (.commit t) s (raceCommit t s).1 (raceCommit t s).2 ∧
      RaceWorld (raceCommit t s).2 := by
  unfold raceCommit
  split
  · rename_i hholds
    split
    · rename_i hknown
      exact ⟨.inr ⟨raceHolds_holds hs hholds, rfl⟩, raceWorld_commit hs hknown⟩
    · exact ⟨.inl ⟨rfl, fun r hr => nomatch hr⟩, hs⟩
  · refine ⟨.inl ⟨rfl, fun r hr => ?_⟩, hs⟩
    cases hr
    refine ⟨rfl, ?_⟩
    simp only [Bool.or_eq_true, Option.isSome_iff_ne_none]

theorem raceGet_served (hs : RaceWorld s) (i : Fin 3) (vni : Int) (start : String)
    (rev : Option Nat) : serve i (.getPage vni start rev) s (raceGet s vni start rev) s := by
  cases rev with
  | none =>
    refine ⟨rfl, fun page hpage => ?_⟩
    cases hpage
    exact ⟨Nat.le_refl _, racePage_listed hs _ _ _⟩
  | some rev =>
    refine ⟨rfl, fun page hpage => ?_⟩
    unfold raceGet at hpage
    by_cases hrev : rev ≤ s.rev
    · simp only [if_pos hrev] at hpage
      cases hpage
      exact ⟨hrev, racePage_listed hs _ _ _⟩
    · simp only [if_neg hrev] at hpage
      nomatch hpage

theorem raceAct_serves (i : Fin 3) (q : Request) (s : Etcd) (hs : RaceWorld s) :
    serve i q s (raceAct i q s).1 (raceAct i q s).2 ∧ RaceWorld (raceAct i q s).2 := by
  cases q with
  | ctxErr | twinExists k => exact ⟨rfl, hs⟩
  | getPage vni start rev => exact ⟨raceGet_served hs i vni start rev, hs⟩
  | commit t => exact raceCommit_served hs i t

local instance actors_neZero : NeZero 3 := ⟨by decide⟩

/-- Both Ports have scanned before the first of them commits; then the ServiceVIP asks, and the
    second Port goes on. -/
def raceSchedule : List (Fin 3) :=
  (List.replicate 4 [0, 2]).flatten ++ [0] ++ List.replicate 3 1 ++ List.replicate 6 2

def raceEnd : System (Fin 3) Answer (Except Err Unit) Etcd :=
  exec raceAct raceSchedule (start raceTexts (Store.empty 1) raceRequest)

theorem empty_inv (X : Texts) (r : Nat) : Inv X (Store.empty r) where
  dated := Store.dated_empty r
  stored := fun _ _ h => nomatch h
  apart := fun _ _ _ h => absurd rfl h
  nics := fun _ _ _ _ _ _ _ h => nomatch h

theorem raceEnd_reached : ReflTransGen (Step (etcdServer (Fin 3)))
    (start raceTexts (Store.empty 1) raceRequest) raceEnd :=
  exec_leads_within RaceWorld raceAct_serves _ _ fun _ _ _ h => nomatch h

theorem raceEnd_results : raceEnd.Returned 0 (.ok ()) ∧
    raceEnd.Returned 1 (.error ⟨.alreadyExists, "key exists"⟩) ∧
    raceEnd.Returned 2 (.error ⟨.alreadyExists, "ports \"v100.10-0-0-1\" already exists"⟩) :=
  ⟨Prog.result_some (by decide +kernel), Prog.result_some (by decide +kernel),
    Prog.result_some (by decide +kernel)⟩

theorem raceEnd_live :
    Live raceEnd.world (.port, "v100.10-0-0-1") (.port (racePort "v100.10-0-0-1" "10.0.0.1")) := by
  have hnow : raceEnd.world.now (.port, "v100.10-0-0-1") =
      some ⟨.port (racePort "v100.10-0-0-1" "10.0.0.1"), 2⟩ := by decide +kernel
  exact ⟨_, hnow, rfl⟩

theorem claims_never_shared_race :
    (raceEnd.Returned 0 (.ok ()) ∧
      raceEnd.Returned 1 (.error ⟨.alreadyExists, "key exists"⟩) ∧
      raceEnd.Returned 2 (.error ⟨.alreadyExists, "ports \"v100.10-0-0-1\" already exists"⟩)) ∧
    (∀ k o, Live raceEnd.world k o → o.claim raceTexts = some (100, 1) →
      k = (.port, "v100.10-0-0-1")) ∧
    (∀ k p, Live raceEnd.world k (.port p) → p.vni = some 100 →
      samePersistentNIC p (racePort "v100.10-0-0-1" "10.0.0.1") = true →
      k = (.port, "v100.10-0-0-1")) := by
  obtain ⟨_, haddress, hnic⟩ := claims_never_shared (empty_inv raceTexts 1) raceEnd_reached
  refine ⟨raceEnd_results, fun k o hk hc => ?_, fun k p hk hvni hsame => ?_⟩
  · exact haddress k _ o _ (100, 1) hk raceEnd_live hc (by decide +kernel)
  · have hvni' : (racePort "v100.10-0-0-1" "10.0.0.1").vni = some 100 := by decide +kernel
    exact hnic k _ p _ hk raceEnd_live (hvni.trans hvni'.symm) hsame

end CozyClaimStore
