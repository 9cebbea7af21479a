import Cozyplane.CallsProofs
import Cozyplane.ClaimNameProofs

/-!
# Allocating VNIs — replicas that share one durable counter

`allocateVNI` reserves a number in a Lease before any VPC status shows it. The controller runs
in several replicas, and each of them may run it many times: an INVOCATION is one run. All of
them talk to one API server, which creates an object only if it is absent and updates it only at
the revision read. A call may fail, and it may take effect and still be answered with an error.

The first invocation to find no counter scans every VPC, Port and ServiceVIP for the highest VNI
in use and creates the counter above it.
-/

namespace CozyVniAlloc

open Calls Relation Function
open CozyBoundaryCompile (VPCRef validVNI validVNI_iff)
open CozyClaimName

/-- How `apierrors` and `wait.Interrupted` classify an error. -/
inductive Reason where
  | notFound
  | alreadyExists
  | conflict
  | interrupted
  | other
  deriving DecidableEq

/-- An error of the API. -/
structure Err where
  reason : Reason
  text : String
  deriving DecidableEq

/-- `fmt.Errorf` of a text. -/
def errorf (text : String) : Err := ⟨.other, text⟩

/-- `fmt.Errorf` with `%w`: the wrapped error keeps its reason. -/
def Err.wrap (what : String) (e : Err) : Err := { e with text := what ++ e.text }

/-- The counter's Lease: the fields the allocator reads. -/
structure Lease where
  annotations : String → Option String
  deleting : Bool

/-- A VPC as the scan reads it; `vni` is the status field. -/
structure VPC where
  ref : VPCRef
  vni : Int
  deriving DecidableEq

def vniCounterAnnotation : String := "sdn.cozystack.io/last-vni"

def firstVNI : Int := 100

def lastVNI : Int := 2 ^ 22 - 1

/-- The number in a counter. -/
def Lease.high (l : Lease) : Option Int :=
  parseInt32 ((l.annotations vniCounterAnnotation).getD "").toList

/-- The counter with `candidate` in it. -/
def Lease.set (l : Lease) (candidate : Int) : Lease :=
  { l with annotations :=
      update l.annotations vniCounterAnnotation (some (toString candidate)) }

/-- The counter object before it is read or created. -/
def Lease.empty : Lease := ⟨fun _ => none, false⟩

/-- The calls of an invocation. A list is read in pages; the token of a page is the part of the
    listed snapshot still to come. -/
inductive Request where
  | ctxErr
  | getCounter
  | createCounter (l : Lease)
  | updateCounter (l : Lease) (rev : Nat)
  | listVPCs (limit : Nat) (token : List VPC)
  | listPorts (limit : Nat) (token : List String)
  | listVIPs (limit : Nat) (token : List String)

/-- What each call is answered with. -/
def Answer : Request → Type
  | .ctxErr => Option Err
  | .getCounter => Except Err (Lease × Nat)
  | .createCounter _ => Except Err Unit
  | .updateCounter _ _ => Except Err Unit
  | .listVPCs _ _ => Except Err (List VPC × List VPC)
  | .listPorts _ _ => Except Err (List String × List String)
  | .listVIPs _ _ => Except Err (List String × List String)

abbrev Call (ρ : Type) : Type := Prog Answer ρ

def ctxErr : Call (Option Err) := ask (A := Answer) .ctxErr

def getCounter : Call (Except Err (Lease × Nat)) := ask (A := Answer) .getCounter

def createCounter (l : Lease) : Call (Except Err Unit) := ask (A := Answer) (.createCounter l)

def updateCounter (l : Lease) (rev : Nat) : Call (Except Err Unit) :=
  ask (A := Answer) (.updateCounter l rev)

def listVPCs (limit : Nat) (token : List VPC) : Call (Except Err (List VPC × List VPC)) :=
  ask (A := Answer) (.listVPCs limit token)

def listPorts (limit : Nat) (token : List String) :
    Call (Except Err (List String × List String)) :=
  ask (A := Answer) (.listPorts limit token)

def listVIPs (limit : Nat) (token : List String) :
    Call (Except Err (List String × List String)) :=
  ask (A := Answer) (.listVIPs limit token)

def claimPageSize : Nat := 128

def maxClaimScan : Nat := 65536

def maxClaimPages : Nat := maxClaimScan / claimPageSize

section

variable {α β : Type}

/-- `visit` each item of a page, as long as the context lives. -/
def visitPage (visit : β → α → β) : List α → β → Call (Except Err β)
  | [], acc => pure (.ok acc)
  | item :: items, acc => do
    match ← ctxErr with
    | some e => pure (.error e)
    | none => visitPage visit items (visit acc item)

/-- `WalkClaims`, from the page that `token` asks for. -/
def walkClaims [DecidableEq α] (list : Nat → List α → Call (Except Err (List α × List α)))
    (visit : β → α → β) : Nat → List α → Nat → β → Call (Except Err β)
  | 0, _, _, _ =>
    pure (.error (errorf ("IPAM claim scan exceeds " ++ toString maxClaimPages ++ " pages")))
  | pages + 1, token, total, acc => do
    match ← ctxErr with
    | some e => pure (.error e)
    | none =>
      match ← list claimPageSize token with
      | .error e => pure (.error e)
      | .ok (items, next) =>
        if claimPageSize < items.length ∨ maxClaimScan - total < items.length then
          pure (.error (errorf "IPAM claim scan exceeds page or object budget"))
        else
          match ← visitPage visit items acc with
          | .error e => pure (.error e)
          | .ok acc =>
            match ← ctxErr with
            | some e => pure (.error e)
            | none =>
              if next = [] then pure (.ok acc)
              else if next = token then
                pure (.error (errorf "IPAM claim scan continuation made no progress"))
              else walkClaims list visit pages next (total + items.length) acc

end

def visitVPC (high : Int) (vpc : VPC) : Int :=
  if validVNI vpc.vni then max high vpc.vni else high

def visitClaim (kind : String) (high : Int) (name : String) : Int :=
  match parseClaim kind name with
  | some (vni, _) => max high vni
  | none => high

def initialVNIHighWater : Call (Except Err Int) := do
  match ← walkClaims listVPCs visitVPC maxClaimPages [] 0 (firstVNI - 1) with
  | .error e => pure (.error (e.wrap "list VPC VNI claims: "))
  | .ok high =>
    match ← walkClaims listPorts (visitClaim claimPrefixPort) maxClaimPages [] 0 high with
    | .error e => pure (.error (e.wrap "list Port VNI claims: "))
    | .ok high =>
      match ← walkClaims listVIPs (visitClaim claimPrefixServiceVIP) maxClaimPages [] 0 high with
      | .error e => pure (.error (e.wrap "list ServiceVIP VNI claims: "))
      | .ok high => pure (.ok high)

/-- An attempt that found no counter. -/
def bootstrap : Call (Except Err Int) := do
  match ← initialVNIHighWater with
  | .error e => pure (.error e)
  | .ok high =>
    if lastVNI ≤ high then pure (.error (errorf "VNI range exhausted"))
    else
      match ← createCounter (Lease.empty.set (high + 1)) with
      | .error e => pure (.error e)
      | .ok () => pure (.ok (high + 1))

/-- An attempt that read the counter at revision `rev`. -/
def advance (counter : Lease) (rev : Nat) : Call (Except Err Int) :=
  if counter.deleting then pure (.error (errorf "durable VNI counter is being deleted"))
  else
    match counter.high with
    | none => pure (.error (errorf "durable VNI counter is invalid"))
    | some high =>
      if high < firstVNI - 1 ∨ lastVNI < high then
        pure (.error (errorf "durable VNI counter is invalid"))
      else if high = lastVNI then pure (.error (errorf "VNI range exhausted"))
      else do
        match ← updateCounter (counter.set (high + 1)) rev with
        | .error e => pure (.error e)
        | .ok () => pure (.ok (high + 1))

/-- The function that `allocateVNI` hands to the retry helper. -/
def attempt : Call (Except Err Int) := do
  match ← ctxErr with
  | some e => pure (.error e)
  | none =>
    match ← getCounter with
    | .error e =>
      if e.reason = .notFound then bootstrap
      else pure (.error (e.wrap "read durable VNI counter: "))
    | .ok (counter, rev) => advance counter rev

def retriable (e : Err) : Bool := e.reason = .conflict || e.reason = .alreadyExists

/-- `retry.OnError`, with `left` attempts after this one: the last attempt's own result, and what
    the helper returns. -/
def onError (fn : Call (Except Err Int)) (left : Nat) (last : Option Err) :
    Call (Except Err Int × Option Err) := do
  match ← fn with
  | .ok v => pure (.ok v, none)
  | .error e =>
    if retriable e then
      match left with
      | 0 => pure (.error e, some e)
      | left + 1 => onError fn left (some e)
    else pure (.error e, if e.reason = .interrupted then last else some e)

/-- The attempts of `retry.DefaultRetry`. -/
def retrySteps : Nat := 5

/-- Attempts until one succeeds or cannot be retried. -/
def allocateVNI : Call (Except Err Int) := do
  let (attempted, err) ← onError attempt (retrySteps - 1) none
  match ← ctxErr with
  | some e => pure (.error e)
  | none =>
    match attempted with
    | .error attemptErr => pure (.error attemptErr)
    | .ok allocated =>
      match err with
      | some e => pure (.error e)
      | none =>
        if allocated < firstVNI ∨ lastVNI < allocated then
          pure (.error (errorf "VNI reservation completed without a confirmed counter write"))
        else pure (.ok allocated)

/-- An object that may refer to a VNI. -/
inductive Obj where
  | vpc (v : VPC)
  | port (name : String)
  | vip (name : String)
  deriving DecidableEq

/-- The VNI an object refers to: a VPC by its status, a claim by its name. -/
def Obj.vni : Obj → Option Int
  | .vpc v => if validVNI v.vni then some v.vni else none
  | .port name => (parseClaim claimPrefixPort name).map Prod.fst
  | .vip name => (parseClaim claimPrefixServiceVIP name).map Prod.fst

def Obj.isVPC : Obj → Bool
  | .vpc _ => true
  | _ => false

/-- What the API server stores. -/
structure Store where
  counter : Versioned Lease
  vpcs : List VPC
  ports : List String
  vips : List String

def Store.objects (s : Store) : List Obj :=
  s.vpcs.map .vpc ++ s.ports.map .port ++ s.vips.map .vip

/-- The objects there were when the counter was created: those there since its creator last read it,
    and all of them. -/
structure Boot where
  standing : List Obj
  present : List Obj
  deriving DecidableEq

/-- The store with its history: the counter writes that took effect, newest first; for each
    invocation the objects there since it last read the counter; and those at the counter's
    creation. -/
structure Cluster (ι : Type) extends Store where
  writes : List (ι × Lease)
  standing : ι → List Obj
  boot : Option Boot

namespace Cluster

variable {ι : Type}

def bootAt (s : Cluster ι) (i : ι) : Boot := ⟨s.standing i, s.objects⟩

/-- The invocation `i` reads the counter. -/
def opened [DecidableEq ι] (s : Cluster ι) (i : ι) : Cluster ι :=
  { s with standing := update s.standing i s.objects }

/-- The invocation `i` creates the counter. -/
def created (s : Cluster ι) (i : ι) (l : Lease) : Cluster ι :=
  { s with counter := s.counter.write l, writes := (i, l) :: s.writes,
           boot := some (s.bootAt i) }

/-- The invocation `i` updates the counter. -/
def updated (s : Cluster ι) (i : ι) (l : Lease) : Cluster ι :=
  { s with counter := s.counter.write l, writes := (i, l) :: s.writes }

/-- A write of `v` by the invocation `i` took effect. -/
def Committed (s : Cluster ι) (i : ι) (v : Int) : Prop :=
  ∃ l, (i, l) ∈ s.writes ∧ l.high = some v

end Cluster

/-- A page answers with the next part of the snapshot, or fails. -/
def Page {α : Type} (current token : List α) (a : Except Err (List α × List α)) : Prop :=
  ∀ items next, a = .ok (items, next) → items ++ next = if token = [] then current else token

/-- What the API server may do with a call: a failed one may have its effect, and success is never
    answered without it. -/
def serve {ι : Type} [DecidableEq ι] (i : ι) :
    (q : Request) → Cluster ι → Answer q → Cluster ι → Prop
  | .ctxErr, s, _, s' => s' = s
  | .getCounter, s, a, s' =>
    s' = s.opened i ∧
      ∀ l rev, a = Except.ok (l, rev) → s.counter.val = some l ∧ s.counter.rev = rev
  | .createCounter l, s, a, s' =>
    (s' = s ∧ a ≠ Except.ok ()) ∨ (s.counter.val = none ∧ s' = s.created i l)
  | .updateCounter l rev, s, a, s' =>
    (s' = s ∧ a ≠ Except.ok ()) ∨
      (s.counter.val ≠ none ∧ s.counter.rev = rev ∧ s' = s.updated i l)
  | .listVPCs _ token, s, a, s' => s' = s ∧ Page s.vpcs token a
  | .listPorts _ token, s, a, s' => s' = s ∧ Page s.ports token a
  | .listVIPs _ token, s, a, s' => s' = s ∧ Page s.vips token a

/-- VPCs, Ports and ServiceVIPs come, go and change in any way; the counter's number stays, and it
    is not deleted. -/
structure Drift {ι : Type} (s s' : Cluster ι) : Prop where
  counter : s'.counter = s.counter ∨ ∃ l l', s.counter.val = some l ∧ l'.high = l.high ∧
    s'.counter = s.counter.write l'
  writes : s'.writes = s.writes
  boot : s'.boot = s.boot
  standing : ∀ i, s'.standing i = (s.standing i).filter (· ∈ s'.objects)

/-- The API server, where the other writers of VPCs and claims keep to `law`. -/
def apiServer {ι : Type} [DecidableEq ι] (law : Cluster ι → Cluster ι → Prop) :
    Server ι Answer (Cluster ι) where
  serve := serve
  drift s s' := Drift s s' ∧ law s s'

/-- The other writers give VPCs only numbers that were reserved, and make claims only for the VNI
    of a VPC that is there. -/
structure Disciplined {ι : Type} (s s' : Cluster ι) : Prop where
  vpcs : ∀ v ∈ s'.vpcs, v ∈ s.vpcs ∨ validVNI v.vni = false ∨ ∃ i, s.Committed i v.vni
  ports : ∀ n ∈ s'.ports, n ∈ s.ports ∨
    ∀ r, (Obj.port n).vni = some r → ∃ v ∈ s.vpcs, (Obj.vpc v).vni = some r
  vips : ∀ n ∈ s'.vips, n ∈ s.vips ∨
    ∀ r, (Obj.vip n).vni = some r → ∃ v ∈ s.vpcs, (Obj.vpc v).vni = some r

-- ── the contract

variable {high v : Int}

section

variable {ι : Type} (pick : Boot → List Obj) {s s' : Cluster ι}

/-- The objects the bootstrap of `i` has to account for. -/
def tracked (i : ι) (s : Cluster ι) : List Obj := pick (s.bootAt i)

/-- The counter only grows. -/
structure Inv (s : Cluster ι) : Prop where
  numbered : ∀ w ∈ s.writes, ∃ v, w.2.high = some v ∧ validVNI v = true
  ordered : s.writes.Pairwise fun w w' =>
    ∀ v v', w.2.high = some v → w'.2.high = some v' → v' < v
  absent : s.counter.val = none → s.writes = [] ∧ s.boot = none
  covered : ∀ l, s.counter.val = some l → ∀ v, l.high = some v → ∀ i v', s.Committed i v' → v' ≤ v
  booted : ∀ b, s.boot = some b → s.writes ≠ [] ∧
    ∀ i v, s.Committed i v → ∀ o ∈ pick b, ∀ r, o.vni = some r → r < v
  standing : ∀ i, ∀ o ∈ s.standing i, o ∈ s.objects

/-- The counter is never taken back, and while there is none the objects to account for grow only by
    claims on a VNI among them. -/
structure Rely (i : ι) (s s' : Cluster ι) : Prop where
  later : s.counter.Later s'.counter
  absent : s'.counter.val = none → s.counter.val = none
  writes : ∀ w ∈ s.writes, w ∈ s'.writes
  tracked : s'.counter.val = none → ∀ o ∈ tracked pick i s', ∀ r, o.vni = some r →
    o ∈ tracked pick i s ∨
      (o.isVPC = false ∧ ∃ p ∈ tracked pick i s, p.isVPC = true ∧ p.vni = some r)

variable {pick}

theorem Rely.refl (i : ι) (s : Cluster ι) : Rely pick i s s where
  later := .refl _
  absent := id
  writes := fun _ h => h
  tracked := fun _ _ h _ _ => .inl h

variable {i : ι}

theorem Rely.trans {s₁ s₂ s₃ : Cluster ι} (h : Rely pick i s₁ s₂)
    (h' : Rely pick i s₂ s₃) : Rely pick i s₁ s₃ where
  later := h.later.trans h'.later
  absent := fun hn => h.absent (h'.absent hn)
  writes := fun w hw => h'.writes w (h.writes w hw)
  tracked := by
    intro hn o ho r hr
    have hn₂ := h'.absent hn
    rcases h'.tracked hn o ho r hr with ho₂ | ⟨hk, p, hp, hpk, hpr⟩
    · exact h.tracked hn₂ o ho₂ r hr
    -- a VPC among them was among them before
    rcases h.tracked hn₂ p hp r hpr with hp₁ | ⟨hpk', _⟩
    · exact .inr ⟨hk, p, hp₁, hpk, hpr⟩
    · exact absurd (hpk.symm.trans hpk') (by decide)

theorem Cluster.committed_congr (h : s'.writes = s.writes) :
    s'.Committed i v ↔ s.Committed i v := by
  unfold Cluster.Committed
  rw [h]

variable {l : Lease}

theorem Cluster.committed_cons {j : ι} (h : s'.writes = (i, l) :: s.writes) :
    s'.Committed j v ↔ (j = i ∧ l.high = some v) ∨ s.Committed j v := by
  unfold Cluster.Committed
  rw [h]
  constructor
  · rintro ⟨l', hl', hv⟩
    rcases List.mem_cons.mp hl' with heq | hmem
    · cases heq
      exact .inl ⟨rfl, hv⟩
    · exact .inr ⟨l', hmem, hv⟩
  · rintro (⟨rfl, hv⟩ | ⟨l', hmem, hv⟩)
    · exact ⟨l, .head _, hv⟩
    · exact ⟨l', .tail _ hmem, hv⟩

variable (pick) in
/-- `pick` chooses among the objects at the bootstrap, and the drift allowed by `law` does to
    them what the invocations rely on. -/
structure Tracks (law : Cluster ι → Cluster ι → Prop) : Prop where
  present : ∀ b : Boot, (∀ o ∈ b.standing, o ∈ b.present) → ∀ o ∈ pick b, o ∈ b.present
  drift : ∀ (i : ι) {s s' : Cluster ι}, s.writes = [] → Drift s s' → law s s' →
    ∀ o ∈ tracked pick i s', ∀ r, o.vni = some r → o ∈ tracked pick i s ∨
      (o.isVPC = false ∧ ∃ p ∈ tracked pick i s, p.isVPC = true ∧ p.vni = some r)

/-- The objects that stay can be accounted for whatever the others do. -/
theorem tracks_standing (law : Cluster ι → Cluster ι → Prop) : Tracks Boot.standing law where
  present := fun _ h => h
  drift := by
    intro i s s' _ hdrift _ o ho r _
    have hmem : o ∈ s'.standing i := ho
    rw [hdrift.standing i] at hmem
    exact .inl (List.mem_of_mem_filter hmem)

theorem mem_objects {s : Store} {o : Obj} : o ∈ s.objects ↔
    (∃ v ∈ s.vpcs, o = .vpc v) ∨ (∃ n ∈ s.ports, o = .port n) ∨ ∃ n ∈ s.vips, o = .vip n := by
  unfold Store.objects
  simp only [List.mem_append, List.mem_map, eq_comm, or_assoc]

variable {law : Cluster ι → Cluster ι → Prop}

/-- All objects can be accounted for where the others are disciplined. -/
theorem tracks_present (hlaw : ∀ s s', law s s' → Disciplined s s') : Tracks Boot.present law where
  present := fun _ _ _ h => h
  drift := by
    intro i s s' hwrites _ hok o ho r hr
    have hd := hlaw s s' hok
    -- a claim that is new is on the VNI of a VPC that was there
    have hclaim : o.isVPC = false → (∃ v ∈ s.vpcs, (Obj.vpc v).vni = some r) →
        o.isVPC = false ∧ ∃ p ∈ tracked Boot.present i s, p.isVPC = true ∧ p.vni = some r := by
      rintro hk ⟨v, hv, hvr⟩
      exact ⟨hk, .vpc v, mem_objects.mpr (.inl ⟨v, hv, rfl⟩), rfl, hvr⟩
    rcases mem_objects.mp ho with ⟨v, hv, rfl⟩ | ⟨n, hn, rfl⟩ | ⟨n, hn, rfl⟩
    · rcases hd.vpcs v hv with hold | hinvalid | ⟨j, l, hl, _⟩
      · exact .inl (mem_objects.mpr (.inl ⟨v, hold, rfl⟩))
      · have hnone : (Obj.vpc v).vni = none := by
          show (if validVNI v.vni = true then some v.vni else none) = none
          rw [hinvalid]
          rfl
        nomatch hnone.symm.trans hr
      · rw [hwrites] at hl
        exact absurd hl List.not_mem_nil
    · rcases hd.ports n hn with hold | hnew
      · exact .inl (mem_objects.mpr (.inr (.inl ⟨n, hold, rfl⟩)))
      · exact .inr (hclaim rfl (hnew r hr))
    · rcases hd.vips n hn with hold | hnew
      · exact .inl (mem_objects.mpr (.inr (.inr ⟨n, hold, rfl⟩)))
      · exact .inr (hclaim rfl (hnew r hr))

-- ── the steps

theorem Drift.absent (h : Drift s s') (hn : s'.counter.val = none) :
    s.counter.val = none := by
  rcases h.counter with heq | ⟨l, l', _, _, heq⟩
  · rw [← heq]
    exact hn
  · rw [heq] at hn
    nomatch hn

theorem Drift.later (h : Drift s s') : s.counter.Later s'.counter := by
  rcases h.counter with heq | ⟨l, l', _, _, heq⟩
  · rw [heq]
    exact .refl _
  · rw [heq]
    exact Versioned.later_write _ _

theorem Inv.drift (h : Inv pick s) (hd : Drift s s') : Inv pick s' where
  numbered := by
    rw [hd.writes]
    exact h.numbered
  ordered := by
    rw [hd.writes]
    exact h.ordered
  absent := by
    intro hn
    rw [hd.writes, hd.boot]
    exact h.absent (hd.absent hn)
  covered := by
    intro l hl v hv i v' hc
    rw [Cluster.committed_congr hd.writes] at hc
    rcases hd.counter with heq | ⟨l₀, l', hl₀, hhigh, heq⟩
    · rw [heq] at hl
      exact h.covered l hl v hv i v' hc
    rw [heq] at hl
    cases hl
    exact h.covered l₀ hl₀ v (hhigh.symm.trans hv) i v' hc
  booted := by
    intro b hb
    rw [hd.boot] at hb
    obtain ⟨hne, hbound⟩ := h.booted b hb
    refine ⟨by rw [hd.writes]; exact hne, fun i v hc => ?_⟩
    exact hbound i v ((Cluster.committed_congr hd.writes).mp hc)
  standing := by
    intro i o ho
    rw [hd.standing i] at ho
    exact of_decide_eq_true (List.mem_filter.mp ho).2

theorem Inv.opened [DecidableEq ι] (h : Inv pick s) (i : ι) :
    Inv pick (s.opened i) where
  numbered := h.numbered
  ordered := h.ordered
  absent := h.absent
  covered := h.covered
  booted := h.booted
  standing := by
    intro j o ho
    by_cases hj : j = i
    · subst hj
      have hmem : o ∈ update s.standing j s.objects j := ho
      rw [update_self] at hmem
      exact hmem
    · have hmem : o ∈ update s.standing i s.objects j := ho
      rw [update_of_ne hj] at hmem
      exact h.standing j o hmem

theorem Inv.created (h : Inv pick s) (hn : s.counter.val = none) (hl : l.high = some v)
    (hv : validVNI v = true) (habove : ∀ o ∈ tracked pick i s, ∀ r, o.vni = some r → r < v) :
    Inv pick (s.created i l) := by
  have hwrites : (s.created i l).writes = [(i, l)] :=
    congrArg ((i, l) :: ·) (h.absent hn).1
  -- the only number in the log is the one just written
  have honly : ∀ j v', (s.created i l).Committed j v' → v' = v := by
    rintro j v' ⟨l', hl', hv'⟩
    rw [hwrites] at hl'
    cases List.mem_singleton.mp hl'
    exact Option.some.inj (hv'.symm.trans hl)
  refine ⟨?_, ?_, (nomatch ·), ?_, ?_, h.standing⟩
  · rw [hwrites]
    intro w hw
    obtain rfl := List.mem_singleton.mp hw
    exact ⟨v, hl, hv⟩
  · rw [hwrites]
    exact List.pairwise_singleton _ _
  · intro l' hl' v' hv' j v'' hc
    obtain rfl : l = l' := Option.some.inj hl'
    rw [honly j v'' hc, Option.some.inj (hv'.symm.trans hl)]
  · intro b hb
    obtain rfl : s.bootAt i = b := Option.some.inj hb
    refine ⟨by exact List.cons_ne_nil _ _, fun j v' hc o ho r hr => ?_⟩
    rw [honly j v' hc]
    exact habove o ho r hr

theorem Inv.updated (h : Inv pick s) {l₀ : Lease} (hs : s.counter.val = some l₀)
    (hl₀ : l₀.high = some v) (hl : l.high = some (v + 1)) (hv : validVNI (v + 1) = true) :
    Inv pick (s.updated i l) := by
  have hwrites : (s.updated i l).writes = (i, l) :: s.writes := rfl
  have hbelow : ∀ j v', s.Committed j v' → v' ≤ v := h.covered l₀ hs v hl₀
  refine ⟨?_, ?_, (nomatch ·), ?_, ?_, h.standing⟩
  · intro w hw
    rcases List.mem_cons.mp hw with rfl | hold
    · exact ⟨v + 1, hl, hv⟩
    · exact h.numbered w hold
  · refine List.pairwise_cons.mpr ⟨?_, h.ordered⟩
    intro w hw v' v'' hv' hv''
    have hle := hbelow w.1 v'' ⟨w.2, hw, hv''⟩
    have hval : v' = v + 1 := Option.some.inj (hv'.symm.trans hl)
    omega
  · intro l' hl' v' hv' j v'' hc
    obtain rfl : l = l' := Option.some.inj hl'
    have hval : v' = v + 1 := Option.some.inj (hv'.symm.trans hl)
    rcases (Cluster.committed_cons hwrites).mp hc with ⟨_, hnew⟩ | hold
    · have := Option.some.inj (hnew.symm.trans hl)
      omega
    · have := hbelow j v'' hold
      omega
  · intro b hb
    obtain ⟨hne, hbound⟩ := h.booted b hb
    refine ⟨List.cons_ne_nil _ _, fun j v' hc o ho r hr => ?_⟩
    rcases (Cluster.committed_cons hwrites).mp hc with ⟨_, hnew⟩ | hold
    · -- the new number is above an earlier one, which is above the object
      obtain ⟨w, hw⟩ := List.exists_mem_of_ne_nil _ hne
      obtain ⟨u, hu, _⟩ := h.numbered w hw
      have hru := hbound w.1 u ⟨w.2, hw, hu⟩ o ho r hr
      have huv := hbelow w.1 u ⟨w.2, hw, hu⟩
      have := Option.some.inj (hnew.symm.trans hl)
      omega
    · exact hbound j v' hold o ho r hr

theorem rely_opened [DecidableEq ι] (s : Cluster ι) {j : ι} (hj : j ≠ i) :
    Rely pick j s (s.opened i) where
  later := .refl _
  absent := id
  writes := fun _ h => h
  tracked := by
    intro _ o ho r _
    have hstanding : (s.opened i).standing j = s.standing j := update_of_ne hj _ _
    have hboot : (s.opened i).bootAt j = s.bootAt j := congrArg (Boot.mk · s.objects) hstanding
    have hmem : o ∈ pick ((s.opened i).bootAt j) := ho
    rw [hboot] at hmem
    exact .inl hmem

theorem rely_created (s : Cluster ι) (i j : ι) (l : Lease) : Rely pick j s (s.created i l) where
  later := Versioned.later_write _ _
  absent := nofun
  writes := fun _ h => .tail _ h
  tracked := nofun

theorem rely_updated (s : Cluster ι) (i j : ι) (l : Lease) : Rely pick j s (s.updated i l) where
  later := Versioned.later_write _ _
  absent := nofun
  writes := fun _ h => .tail _ h
  tracked := nofun

def contract [DecidableEq ι] {law : Cluster ι → Cluster ι → Prop} (hT : Tracks pick law) :
    Contract (apiServer law) where
  inv := Inv pick
  rely := Rely pick
  refl := Rely.refl
  trans := fun _ => Rely.trans
  drift_inv := fun h hd => h.drift hd.1
  drift_rely := by
    intro s s' i h hd
    refine ⟨hd.1.later, hd.1.absent, ?_, ?_⟩
    · rw [hd.1.writes]
      exact fun _ hw => hw
    · intro hn
      exact hT.drift i (h.absent (hd.1.absent hn)).1 hd.1 hd.2

end

section

variable {ι : Type} [DecidableEq ι] {s : Cluster ι} {pick : Boot → List Obj}
  {law : Cluster ι → Cluster ι → Prop} {hT : Tracks pick law} {i : ι} {P : Cluster ι → Prop}

theorem ctxErr_keeps (hP : Stable (contract hT) i P) :
    Triple (contract hT) i P ctxErr fun _ => P :=
  Triple.askQuiet hP (fun _ => hP) fun _ _ _ _ hs hserve => ⟨hserve, hs⟩

theorem visitPage_spec {α β : Type} (visit : β → α → β) (hP : Stable (contract hT) i P)
    (items : List α) (acc : β) : Triple (contract hT) i P (visitPage visit items acc)
      (Okay fun b s => P s ∧ b = items.foldl visit acc) := by
  induction items generalizing acc with
  | nil => exact .returns hP fun s hs => ⟨hs, rfl⟩
  | cons item items ih =>
    exact .bindNone (ctxErr_keeps hP) Triple.fails (ih (visit acc item))

-- ── the scan accounts for every object

variable (pick i) in
/-- While there is no counter, each tracked object of the kinds `K` is still to be visited or its
    VNI is at most `high`. -/
def Accounted (K : Obj → Prop) (left : List Obj) (high : Int) (s : Cluster ι) : Prop :=
  s.counter.val = none → ∀ o ∈ tracked pick i s, K o → ∀ r, o.vni = some r → o ∈ left ∨ r ≤ high

/-- VPCs come first: either only VPCs are accounted for, or all VPCs have been visited. -/
def VPCsFirst (K : Obj → Prop) (left : List Obj) : Prop :=
  (∀ o, K o → o.isVPC = true) ∨ ((∀ o, o.isVPC = true → K o) ∧ ∀ o ∈ left, o.isVPC = false)

variable (hT) in
/-- **THE ORDER OF THE SCAN**: a claim made behind its back is on the VNI of a VPC, and those have
    been visited by then. -/
theorem Accounted.stable {K : Obj → Prop} {left : List Obj} (hK : VPCsFirst K left) :
    Stable (contract hT) i (Accounted pick i K left high) := by
  intro s s' _ _ hlater h hn o ho hKo r hr
  have hn₀ := hlater.absent hn
  rcases hlater.tracked hn o ho r hr with hold | ⟨hclaim, p, hp, hpk, hpr⟩
  · exact h hn₀ o hold hKo r hr
  rcases hK with honly | ⟨hall, hleft⟩
  · exact absurd (hclaim.symm.trans (honly o hKo)) (by decide)
  rcases h hn₀ p hp (hall p hpk) r hpr with hpleft | hle
  · exact absurd (hpk.symm.trans (hleft p hpleft)) (by decide)
  · exact .inr hle

omit [DecidableEq ι] in
theorem Accounted.raise {K : Obj → Prop} {left left' : List Obj} {high' : Int}
    (h : Accounted pick i K left high s) (hle : high ≤ high')
    (hleft : ∀ o ∈ left, o ∈ left' ∨ ∀ r, o.vni = some r → r ≤ high') :
    Accounted pick i K left' high' s := by
  intro hn o ho hKo r hr
  rcases h hn o ho hKo r hr with hmem | hbound
  · rcases hleft o hmem with hmem' | hbound'
    · exact .inl hmem'
    · exact .inr (hbound' r hr)
  · exact .inr (hbound.trans hle)

end

/-- One of the three kinds the scan lists: how its objects are read and visited. -/
structure Kind (α : Type) where
  obj : α → Obj
  current : Store → List α
  list : Nat → List α → Call (Except Err (List α × List α))
  visit : Int → α → Int

def vpcKind : Kind VPC := ⟨.vpc, Store.vpcs, listVPCs, visitVPC⟩

def portKind : Kind String := ⟨.port, Store.ports, listPorts, visitClaim claimPrefixPort⟩

def vipKind : Kind String := ⟨.vip, Store.vips, listVIPs, visitClaim claimPrefixServiceVIP⟩

def Kind.Marks {α : Type} (k : Kind α) : Prop :=
  ∀ high a, high ≤ k.visit high a ∧ ∀ r, (k.obj a).vni = some r → r ≤ k.visit high a

theorem Kind.Marks.foldl {α : Type} {k : Kind α} (h : k.Marks) (items : List α) (high : Int) :
    high ≤ items.foldl k.visit high ∧
      ∀ a ∈ items, ∀ r, (k.obj a).vni = some r → r ≤ items.foldl k.visit high := by
  induction items generalizing high with
  | nil => exact ⟨le_refl _, fun a ha => absurd ha List.not_mem_nil⟩
  | cons item items ih =>
    obtain ⟨hle, hmark⟩ := h high item
    obtain ⟨hle', hmarks⟩ := ih (k.visit high item)
    refine ⟨hle.trans hle', fun a ha r hr => ?_⟩
    rcases List.mem_cons.mp ha with rfl | hrest
    · exact (hmark r hr).trans hle'
    · exact hmarks a hrest r hr

theorem vpcKind_marks : vpcKind.Marks := by
  intro high v
  show high ≤ visitVPC high v ∧ ∀ r, (if validVNI v.vni = true then some v.vni else none) = some r →
    r ≤ visitVPC high v
  unfold visitVPC
  split
  · refine ⟨le_max_left _ _, fun r hr => ?_⟩
    rw [← Option.some.inj hr]
    exact le_max_right _ _
  · exact ⟨le_refl _, fun r hr => nomatch hr⟩

theorem visitClaim_marks (kind : String) (high : Int) (name : String) :
    high ≤ visitClaim kind high name ∧
      ∀ r, (parseClaim kind name).map Prod.fst = some r → r ≤ visitClaim kind high name := by
  unfold visitClaim
  cases parseClaim kind name with
  | none => exact ⟨le_refl _, fun r hr => nomatch hr⟩
  | some claim =>
    refine ⟨le_max_left _ _, fun r hr => ?_⟩
    rw [← Option.some.inj hr]
    exact le_max_right _ _

theorem portKind_marks : portKind.Marks := visitClaim_marks claimPrefixPort

theorem vipKind_marks : vipKind.Marks := visitClaim_marks claimPrefixServiceVIP

section

variable {ι : Type} [DecidableEq ι] {s : Cluster ι} {pick : Boot → List Obj}
  {law : Cluster ι → Cluster ι → Prop} {hT : Tracks pick law} {i : ι}

variable (hT i) in
/-- Reading a page answers from the snapshot. -/
def Kind.Listed {α : Type} (k : Kind α) : Prop :=
  ∀ (limit : Nat) (token : List α) (P : Cluster ι → Prop)
    (post : Except Err (List α × List α) → Cluster ι → Prop),
    Stable (contract hT) i P → (∀ a, Stable (contract hT) i (post a)) →
    (∀ s a, Inv pick s → P s → Page (k.current s.toStore) token a → post a s) →
    Triple (contract hT) i P (k.list limit token) post

theorem vpcKind_listed : vpcKind.Listed hT i := by
  intro limit token P post hP hpost h
  refine .askQuiet (A := Answer) (q := .listVPCs limit token) hP hpost fun s a s' hinv hs hserve => ?_
  exact ⟨hserve.1, h s a hinv hs hserve.2⟩

theorem portKind_listed : portKind.Listed hT i := by
  intro limit token P post hP hpost h
  refine .askQuiet (A := Answer) (q := .listPorts limit token) hP hpost fun s a s' hinv hs hserve => ?_
  exact ⟨hserve.1, h s a hinv hs hserve.2⟩

theorem vipKind_listed : vipKind.Listed hT i := by
  intro limit token P post hP hpost h
  refine .askQuiet (A := Answer) (q := .listVIPs limit token) hP hpost fun s a s' hinv hs hserve => ?_
  exact ⟨hserve.1, h s a hinv hs hserve.2⟩

omit [DecidableEq ι] in
theorem tracked_present (hT : Tracks pick law) (hinv : Inv pick s) {o : Obj} (ho : o ∈ tracked pick i s) :
    o ∈ s.objects :=
  hT.present _ (hinv.standing i) o ho

section

variable {α : Type} (k : Kind α) (K K' : Obj → Prop)

/-- The scan of a kind that follows the scans of `K` and leaves `K'` accounted for. -/
structure Kind.Follows : Prop where
  marks : k.Marks
  before : VPCsFirst K []
  during : ∀ left : List α, VPCsFirst K' (left.map k.obj)
  objects : ∀ s : Store, ∀ o ∈ s.objects, K' o → K o ∨ ∃ a ∈ k.current s, o = k.obj a

variable (pick i) in
/-- Before a page: the scan of this kind has not begun, or what is left of it is in the token. -/
def Pending (token : List α) (high : Int) (s : Cluster ι) : Prop :=
  if token = [] then Accounted pick i K [] high s
  else Accounted pick i K' (token.map k.obj) high s

variable {k K K'}

variable (hT i) in
theorem Pending.stable (hk : k.Follows K K') (token : List α) (high : Int) :
    Stable (contract hT) i (Pending pick i k K K' token high) := by
  unfold Pending
  split
  · exact .stable hT hk.before
  · exact .stable hT (hk.during token)

omit [DecidableEq ι] in
theorem Pending.page {token : List α} {a : Except Err (List α × List α)} (hT : Tracks pick law)
    (hk : k.Follows K K') (hinv : Inv pick s) (h : Pending pick i k K K' token high s)
    (hpage : Page (k.current s.toStore) token a) :
    Okay (fun page s => Accounted pick i K' ((page.1 ++ page.2).map k.obj) high s) a s := by
  rintro ⟨items, next⟩ ha
  show Accounted pick i K' ((items ++ next).map k.obj) high s
  rw [hpage items next ha]
  unfold Pending at h
  by_cases htoken : token = []
  · rw [if_pos htoken] at h ⊢
    intro hn o ho hKo r hr
    rcases hk.objects _ o (tracked_present hT hinv ho) hKo with hold | ⟨a, ha, rfl⟩
    · rcases h hn o ho hold r hr with hmem | hle
      · exact absurd hmem List.not_mem_nil
      · exact .inr hle
    · exact .inl (List.mem_map_of_mem ha)
  · rw [if_neg htoken] at h ⊢
    exact h

omit [DecidableEq ι] in
/-- After the items of a page, what is left is in the token. -/
theorem Accounted.visited (hmarks : k.Marks) {items next : List α}
    (h : Accounted pick i K' ((items ++ next).map k.obj) high s) :
    Accounted pick i K' (next.map k.obj) (items.foldl k.visit high) s := by
  obtain ⟨hle, hvisited⟩ := hmarks.foldl items high
  refine h.raise hle fun o ho => ?_
  rw [List.map_append] at ho
  rcases List.mem_append.mp ho with hitem | hnext
  · obtain ⟨a, ha, rfl⟩ := List.mem_map.mp hitem
    exact .inr (hvisited a ha)
  · exact .inl hnext

/-- **`WalkClaims` MISSES NOTHING**: a scan without error has accounted for its kind. Induction on
    the pages. -/
theorem walkClaims_spec [DecidableEq α] (hlist : k.Listed hT i) (hk : k.Follows K K')
    (pages : Nat) (token : List α) (total : Nat) (high : Int) :
    Triple (contract hT) i (Pending pick i k K K' token high)
      (walkClaims k.list k.visit pages token total high)
      (Okay fun high' s => high ≤ high' ∧ Accounted pick i K' [] high' s) := by
  induction pages generalizing token total high with
  | zero => exact .fails _
  | succ pages ih =>
    have hpending := Pending.stable hT i hk token high
    have hstable : ∀ (left : List α) (high : Int), Stable (contract hT) i
        (Accounted pick i K' (left.map k.obj) high) := fun left _ =>
      Accounted.stable hT (hk.during left)
    refine .bindNone (ctxErr_keeps hpending) Triple.fails <| .bindOk (hlist _ token _
      (Okay fun page s => Accounted pick i K' ((page.1 ++ page.2).map k.obj) high s)
      hpending ?_ fun s a hinv hs hpage => hs.page hT hk hinv hpage) Triple.fails fun page => ?_
    · exact .stable fun page => hstable (page.1 ++ page.2) high
    obtain ⟨items, next⟩ := page
    refine .ite (fun _ => .fails _) fun _ => .bindOk
      (visitPage_spec k.visit (hstable (items ++ next) high) items high) Triple.fails fun high' => ?_
    have hkept := (Stable.const (C := contract hT) (i := i) (high ≤ high')).and (hstable next high')
    have hvisited : ∀ s, Accounted pick i K' ((items ++ next).map k.obj) high s ∧
        high' = items.foldl k.visit high →
        high ≤ high' ∧ Accounted pick i K' (next.map k.obj) high' s := by
      rintro s ⟨hacc, rfl⟩
      exact ⟨(hk.marks.foldl items high).1, hacc.visited hk.marks⟩
    refine .strengthen (Triple.bindNone (ctxErr_keeps hkept) Triple.fails <|
      Triple.ite (fun hnext => ?_) fun hnext => Triple.ite (fun _ => Triple.fails _) fun _ =>
        Triple.given fun hle => ?_) fun s _ => hvisited s
    · subst hnext
      exact Triple.returns hkept fun s hs => hs
    · -- the next page carries on from the higher mark
      have hcarry : ∀ s, Accounted pick i K' (next.map k.obj) high' s →
          Pending pick i k K K' next high' s := by
        intro s hs
        unfold Pending
        rw [if_neg hnext]
        exact hs
      refine ((ih next _ high').strengthen fun s _ => hcarry s).weaken ?_
      intro r s h v hv
      exact ⟨hle.trans (h v hv).1, (h v hv).2⟩

end

theorem vpcKind_follows : vpcKind.Follows (fun _ => False) (fun o => o.isVPC = true) where
  marks := vpcKind_marks
  before := .inl fun _ h => h.elim
  during := fun _ => .inl fun _ h => h
  objects := by
    intro s o ho hvpc
    rcases mem_objects.mp ho with ⟨v, hv, rfl⟩ | ⟨n, _, rfl⟩ | ⟨n, _, rfl⟩
    · exact .inr ⟨v, hv, rfl⟩
    · nomatch hvpc
    · nomatch hvpc

def isVPCOrPort (o : Obj) : Prop := o.isVPC = true ∨ ∃ name, o = .port name

theorem portKind_follows : portKind.Follows (fun o => o.isVPC = true) isVPCOrPort where
  marks := portKind_marks
  before := .inl fun _ h => h
  during := by
    refine fun left => .inr ⟨fun _ h => .inl h, fun o ho => ?_⟩
    obtain ⟨n, _, rfl⟩ := List.mem_map.mp ho
    rfl
  objects := by
    rintro s o ho (hvpc | ⟨name, rfl⟩)
    · exact .inl hvpc
    · rcases mem_objects.mp ho with ⟨v, _, hv⟩ | ⟨n, hn, heq⟩ | ⟨n, _, hn⟩
      · nomatch hv
      · exact .inr ⟨n, hn, heq⟩
      · nomatch hn

theorem vipKind_follows : vipKind.Follows isVPCOrPort (fun _ => True) where
  marks := vipKind_marks
  before := .inr ⟨fun _ h => .inl h, fun o ho => absurd ho List.not_mem_nil⟩
  during := by
    refine fun left => .inr ⟨fun _ _ => trivial, fun o ho => ?_⟩
    obtain ⟨n, _, rfl⟩ := List.mem_map.mp ho
    rfl
  objects := by
    intro s o ho _
    rcases mem_objects.mp ho with ⟨v, _, rfl⟩ | ⟨n, _, rfl⟩ | ⟨n, hn, rfl⟩
    · exact .inl (.inl rfl)
    · exact .inl (.inr ⟨n, rfl⟩)
    · exact .inr ⟨n, hn, rfl⟩

theorem initialVNIHighWater_spec : Triple (contract hT) i (fun _ => True) initialVNIHighWater
    (Okay fun high s => firstVNI - 1 ≤ high ∧ Accounted pick i (fun _ => True) [] high s) := by
  have hnone : ∀ s : Cluster ι, Inv pick s → True →
      Pending pick i vpcKind (fun _ => False) (fun o => o.isVPC = true) [] (firstVNI - 1) s :=
    fun s _ _ _ o _ h => h.elim
  refine .bindOk ((walkClaims_spec vpcKind_listed vpcKind_follows _ [] 0 _).strengthen hnone)
    (fun _ => .fails _) fun high₁ => .given fun hle₁ => ?_
  refine .bindOk (walkClaims_spec portKind_listed portKind_follows _ [] 0 high₁)
    (fun _ => .fails _) fun high₂ => .given fun hle₂ => ?_
  refine .bindOk (walkClaims_spec vipKind_listed vipKind_follows _ [] 0 high₂)
    (fun _ => .fails _) fun high => .given fun hle₃ => ?_
  refine .returns (.stable hT (vipKind_follows.during [])) fun s hs => ?_
  exact ⟨hle₁.trans (hle₂.trans hle₃), hs⟩

theorem Lease.set_high (l : Lease) (hv : validVNI v = true) :
    (l.set v).high = some v := by
  rw [validVNI_iff] at hv
  have hread : (l.set v).annotations vniCounterAnnotation = some (toString v) := by
    show update l.annotations vniCounterAnnotation (some (toString v))
      vniCounterAnnotation = some (toString v)
    exact update_self _ _ _
  unfold Lease.high
  rw [hread]
  exact parseInt32_toString (by omega) (by omega)

theorem committed_stable (v : Int) :
    Stable (contract hT) i fun s => validVNI v = true ∧ s.Committed i v := by
  rintro s s' _ _ hlater ⟨hv, l, hl, hhigh⟩
  exact ⟨hv, l, hlater.writes _ hl, hhigh⟩

/-- What a reservation that succeeded means. -/
def Reserved (i : ι) (v : Int) (s : Cluster ι) : Prop := validVNI v = true ∧ s.Committed i v

theorem okay_stable (r : Except Err Unit) (v : Int) :
    Stable (contract hT) i (Okay (fun () s => Reserved i v s) r) :=
  Okay.stable (fun _ => committed_stable v) r

theorem createCounter_spec (hl : l.high = some (high + 1)) (hv : validVNI (high + 1) = true) :
    Triple (contract hT) i (Accounted pick i (fun _ => True) [] high) (createCounter l)
      (Okay fun () s => Reserved i (high + 1) s) := by
  refine .ask (A := Answer) (q := .createCounter l) (.stable hT (vipKind_follows.during []))
    (fun r => okay_stable r _) fun s a s' hinv hs hserve => ?_
  rcases hserve with ⟨rfl, ha⟩ | ⟨hn, rfl⟩
  · exact ⟨hinv, fun j _ => .refl j _, fun u hu => absurd hu ha⟩
  have habove : ∀ o ∈ tracked pick i s, ∀ r, o.vni = some r → r < high + 1 := by
    intro o ho r hr
    rcases hs hn o ho trivial r hr with hmem | hle
    · exact absurd hmem List.not_mem_nil
    · omega
  refine ⟨Inv.created hinv hn hl hv habove, fun j _ => rely_created s i j l, fun _ _ => ?_⟩
  exact ⟨hv, l, .head _, hl⟩

/-- The counter was `l` at revision `rev`, at some moment. -/
def WasRead (l : Lease) (rev : Nat) (s : Cluster ι) : Prop :=
  ∃ d : Versioned Lease, d.val = some l ∧ d.rev = rev ∧ d.Later s.counter

theorem WasRead.stable (l : Lease) (rev : Nat) :
    Stable (contract hT) i (WasRead (ι := ι) l rev) := by
  rintro s s' _ _ hlater ⟨d, hval, hrev, hd⟩
  exact ⟨d, hval, hrev, hd.trans hlater.later⟩

theorem updateCounter_spec {l₀ : Lease} {rev : Nat} (hl₀ : l₀.high = some v)
    (hl : l.high = some (v + 1)) (hv : validVNI (v + 1) = true) :
    Triple (contract hT) i (WasRead l₀ rev) (updateCounter l rev)
      (Okay fun () s => Reserved i (v + 1) s) := by
  refine .ask (A := Answer) (q := .updateCounter l rev) (WasRead.stable l₀ rev)
    (fun r => okay_stable r _) fun s a s' hinv hs hserve => ?_
  rcases hserve with ⟨rfl, ha⟩ | ⟨_, hrev, rfl⟩
  · exact ⟨hinv, fun j _ => .refl j _, fun u hu => absurd hu ha⟩
  -- the write is at the revision read, so the counter still holds the number read
  obtain ⟨d, hval, hdrev, hlater⟩ := hs
  have hcur : s.counter.val = some l₀ := (hlater.unchanged (hrev.trans hdrev.symm)).trans hval
  refine ⟨Inv.updated hinv hcur hl₀ hl hv, fun j _ => rely_updated s i j l, fun _ _ => ?_⟩
  exact ⟨hv, l, .head _, hl⟩

theorem getCounter_spec : Triple (contract hT) i (fun _ => True) getCounter
    (Okay fun read s => WasRead read.1 read.2 s) := by
  refine .ask (A := Answer) (q := .getCounter) (.const True) ?_ fun s a s' hinv _ hserve => ?_
  · exact .stable fun read => WasRead.stable read.1 read.2
  · obtain ⟨rfl, hread⟩ := hserve
    refine ⟨Inv.opened hinv i, fun j hj => rely_opened s hj, ?_⟩
    rintro ⟨l, rev⟩ ha
    obtain ⟨hval, hrev⟩ := hread l rev ha
    exact ⟨s.counter, hval, hrev, .refl _⟩

theorem reserved_stable (v : Int) : Stable (contract hT) i (Reserved i v) := committed_stable v

theorem bootstrap_spec : Triple (contract hT) i (fun _ => True) bootstrap
    (Okay fun v s => Reserved i v s) := by
  refine .bindOk initialVNIHighWater_spec (fun _ => .fails _) fun high =>
    Triple.given fun hlow => .ite (fun _ => .fails _) fun hhigh => ?_
  have hv : validVNI (high + 1) = true := by
    unfold firstVNI at hlow
    unfold lastVNI at hhigh
    exact validVNI_iff.mpr (by omega)
  exact .bindOk (createCounter_spec (Lease.empty.set_high hv) hv) (fun _ => .fails _)
    fun _ => .returns (reserved_stable _) fun s hs => hs

theorem advance_spec (l : Lease) (rev : Nat) : Triple (contract hT) i (WasRead l rev)
    (advance l rev) (Okay fun v s => Reserved i v s) := by
  refine .ite (fun _ => .fails _) fun _ => ?_
  cases hhigh : l.high with
  | none => exact .fails _
  | some high =>
    refine .ite (fun _ => .fails _) fun hrange => .ite (fun _ => .fails _) fun hlast => ?_
    have hv : validVNI (high + 1) = true := by
      unfold firstVNI lastVNI at hrange
      unfold lastVNI at hlast
      exact validVNI_iff.mpr (by omega)
    exact .bindOk (updateCounter_spec hhigh (l.set_high hv) hv) (fun _ => .fails _)
      fun _ => .returns (reserved_stable _) fun s hs => hs

theorem attempt_spec : Triple (contract hT) i (fun _ => True) attempt
    (Okay fun v s => Reserved i v s) := by
  exact .bindNone (ctxErr_keeps (.const True)) Triple.fails <|
    Triple.bindOk getCounter_spec (fun _ => .ite (fun _ => bootstrap_spec) fun _ => .fails _)
      fun read => advance_spec read.1 read.2

/-- However often it retries, the helper ends with a reservation or an error. -/
theorem onError_spec (left : Nat) (last : Option Err) : Triple (contract hT) i (fun _ => True)
    (onError attempt left last) fun r s => Okay (fun v s => Reserved i v s) r.1 s := by
  have hfail : ∀ (e : Err) (err : Option Err) (P : Cluster ι → Prop), Triple (contract hT) i P
      (pure (.error e, err)) fun (r : Except Err Int × Option Err) s =>
        Okay (fun v s => Reserved i v s) r.1 s := by
    intro e err P s _ _ s' _ _ v hv
    nomatch hv
  have hdone : ∀ v : Int, Triple (contract hT) i (Reserved i v) (pure (.ok v, none))
      fun (r : Except Err Int × Option Err) s => Okay (fun v s => Reserved i v s) r.1 s := by
    refine fun v => .ret (reserved_stable v) fun s _ hs v' hv' => ?_
    cases hv'
    exact hs
  induction left generalizing last with
  | zero =>
    unfold onError
    exact .bindOk attempt_spec
      (fun e => .ite (fun _ => hfail e _ _) fun _ => hfail e _ _) hdone
  | succ left ih =>
    unfold onError
    exact .bindOk attempt_spec
      (fun e => .ite (fun _ => ih (some e)) fun _ => hfail e _ _) hdone

/-- **ONE INVOCATION**: a number it returns is one it reserved. -/
theorem allocateVNI_spec : Triple (contract hT) i (fun _ => True) allocateVNI
    (Okay fun v s => Reserved i v s) := by
  refine .bind _ (onError_spec (retrySteps - 1) none) fun r => ?_
  obtain ⟨attempted, err⟩ := r
  have hstable : Stable (contract hT) i (Okay (fun v s => Reserved i v s) attempted) :=
    Okay.stable reserved_stable attempted
  refine .bindNone (ctxErr_keeps hstable) Triple.fails ?_
  cases attempted with
  | error attemptErr => exact .fails attemptErr
  | ok allocated =>
    cases err with
    | some e => exact .fails e
    | none =>
      refine .whenOk (.ite (fun _ => .fails _) fun _ => ?_)
      exact .returns (reserved_stable allocated) fun s hs => hs

end

section

variable {ι : Type} {s : Cluster ι}

/-- The replicas, each invocation at its start. -/
def start (s : Store) : System ι Answer (Except Err Int) (Cluster ι) :=
  ⟨⟨s, [], fun _ => [], none⟩, fun _ => allocateVNI⟩

theorem start_inv (pick : Boot → List Obj) (s : Store) :
    Inv pick (start (ι := ι) s).world where
  numbered := fun w hw => absurd hw List.not_mem_nil
  ordered := .nil
  absent := fun _ => ⟨rfl, rfl⟩
  covered := by
    rintro l _ v _ i v' ⟨l', hl', _⟩
    exact absurd hl' List.not_mem_nil
  booted := fun b hb => nomatch hb
  standing := fun i o ho => absurd ho List.not_mem_nil

theorem Inv.owner {pick : Boot → List Obj} (h : Inv pick s) {j : ι} (hi : s.Committed i v)
    (hj : s.Committed j v) : i = j := by
  obtain ⟨l, hl, hv⟩ := hi
  obtain ⟨l', hl', hv'⟩ := hj
  have hdistinct : s.writes.Pairwise fun w w' => w.2.high ≠ w'.2.high := by
    refine h.ordered.imp_of_mem fun {w w'} hw hw' hlt heq => ?_
    obtain ⟨u, hu, _⟩ := h.numbered w hw
    have := hlt u u hu (heq.symm.trans hu)
    omega
  by_contra hne
  have hpair : ((i, l) : ι × Lease) ≠ (j, l') := fun heq => hne (Prod.mk.inj heq).1
  have : Std.Symm fun w w' : ι × Lease => w.2.high ≠ w'.2.high := ⟨fun _ _ h => h.symm⟩
  exact hdistinct.forall hl hl' hpair (hv.trans hv'.symm)

variable [DecidableEq ι]

theorem allocating {pick : Boot → List Obj} (hT : Tracks pick law) {store : Store}
    {s : System ι Answer (Except Err Int) (Cluster ι)}
    (hrun : ReflTransGen (Step (apiServer law)) (start store) s) :
    Inv pick s.world ∧ ∀ i v, s.Returned i (.ok v) → Reserved i v s.world := by
  have hstart : ∀ i, Safe (contract hT) i (Okay fun v s => Reserved i v s)
      ((start store).prog i) (start store).world :=
    fun i => allocateVNI_spec _ (start_inv pick store) trivial
  obtain ⟨hinv, hsafe⟩ := (contract hT).leads (start_inv pick store) hstart hrun
  exact ⟨hinv, fun i v hr => (hsafe i).returned hinv hr v rfl⟩

/-- **VNIS ARE NEVER SHARED**, in every interleaving and with any call failing: no two invocations
    return one number; every number is in 100..2^22-1 and above the VNIs there were at the counter's
    bootstrap; and one whose write took effect is never returned by another. -/
theorem vnis_never_shared {law : Cluster ι → Cluster ι → Prop} {store : Store}
    {s : System ι Answer (Except Err Int) (Cluster ι)}
    (hrun : ReflTransGen (Step (apiServer law)) (start store) s) :
    (∀ i j v, s.Returned i (.ok v) → s.Returned j (.ok v) → i = j) ∧
    (∀ i v, s.Returned i (.ok v) → 100 ≤ v ∧ v ≤ 2 ^ 22 - 1 ∧ ∀ b, s.world.boot = some b →
      (∀ o ∈ b.standing, ∀ r, o.vni = some r → r < v) ∧
      ((∀ s s', law s s' → Disciplined s s') → ∀ o ∈ b.present, ∀ r, o.vni = some r → r < v)) ∧
    (∀ i j v, s.world.Committed i v → s.Returned j (.ok v) → j = i) := by
  obtain ⟨hinv, hreserved⟩ := allocating (tracks_standing law) hrun
  refine ⟨fun i j v hi hj => ?_, fun i v hi => ?_, fun i j v hi hj => ?_⟩
  · exact hinv.owner (hreserved i v hi).2 (hreserved j v hj).2
  · obtain ⟨hv, hc⟩ := hreserved i v hi
    rw [validVNI_iff] at hv
    refine ⟨hv.1, by omega, fun b hb => ⟨(hinv.booted b hb).2 i v hc, fun hlaw => ?_⟩⟩
    obtain ⟨hinv', _⟩ := allocating (tracks_present hlaw) hrun
    exact (hinv'.booted b hb).2 i v hc
  · exact hinv.owner (hreserved j v hj).2 hi

/-- One VPC and a Port left over from another. -/
def raceStore : Store :=
  ⟨⟨0, none⟩, [⟨⟨"t", "a"⟩, 150⟩], ["v200.10-0-0-1"], []⟩

def raceRead (s : Cluster (Fin 3)) : Except Err (Lease × Nat) :=
  match s.counter.val with
  | some l => .ok (l, s.counter.rev)
  | none => .error ⟨.notFound, "not found"⟩

def raceCreate (i : Fin 3) (l : Lease) (s : Cluster (Fin 3)) : Except Err Unit × Cluster (Fin 3) :=
  match s.counter.val with
  | none => (.ok (), s.created i l)
  | some _ => (.error ⟨.alreadyExists, "already exists"⟩, s)

def raceUpdate (i : Fin 3) (l : Lease) (rev : Nat) (s : Cluster (Fin 3)) :
    Except Err Unit × Cluster (Fin 3) :=
  if s.counter.val.isSome ∧ s.counter.rev = rev then
    (if i = 1 then .error ⟨.other, "connection reset"⟩ else .ok (), s.updated i l)
  else (.error ⟨.conflict, "conflict"⟩, s)

/-- The server serves every call, but the answer to an update by the invocation 1 is lost. -/
def raceAct (i : Fin 3) : (q : Request) → Cluster (Fin 3) → Answer q × Cluster (Fin 3)
  | .ctxErr, s => (none, s)
  | .getCounter, s => (raceRead s, s.opened i)
  | .createCounter l, s => raceCreate i l s
  | .updateCounter l rev, s => raceUpdate i l rev s
  | .listVPCs _ token, s => (.ok (if token = [] then s.vpcs else token, []), s)
  | .listPorts _ token, s => (.ok (if token = [] then s.ports else token, []), s)
  | .listVIPs _ token, s => (.ok (if token = [] then s.vips else token, []), s)

theorem raceRead_current {s : Cluster (Fin 3)} {rev : Nat}
    (h : raceRead s = .ok (l, rev)) : s.counter.val = some l ∧ s.counter.rev = rev := by
  unfold raceRead at h
  cases hval : s.counter.val with
  | none =>
    rw [hval] at h
    nomatch h
  | some l' =>
    rw [hval] at h
    cases h
    exact ⟨rfl, rfl⟩

theorem raceCreate_served (i : Fin 3) (l : Lease) (s : Cluster (Fin 3)) :
    serve i (.createCounter l) s (raceCreate i l s).1 (raceCreate i l s).2 := by
  unfold raceCreate
  cases hval : s.counter.val with
  | none => exact .inr ⟨hval, rfl⟩
  | some l' => exact .inl ⟨rfl, (nomatch ·)⟩

theorem raceUpdate_served (i : Fin 3) (l : Lease) (rev : Nat) (s : Cluster (Fin 3)) :
    serve i (.updateCounter l rev) s (raceUpdate i l rev s).1 (raceUpdate i l rev s).2 := by
  unfold raceUpdate
  split
  · rename_i hrev
    exact .inr ⟨Option.isSome_iff_ne_none.mp hrev.1, hrev.2, rfl⟩
  · exact .inl ⟨rfl, (nomatch ·)⟩

theorem onePage {α : Type} (current token : List α) :
    Page current token (.ok (if token = [] then current else token, [])) := by
  intro items next ha
  cases ha
  exact List.append_nil _

theorem raceAct_served (i : Fin 3) (q : Request) (s : Cluster (Fin 3)) :
    serve i q s (raceAct i q s).1 (raceAct i q s).2 := by
  cases q with
  | ctxErr => rfl
  | getCounter => exact ⟨rfl, fun l rev ha => raceRead_current ha⟩
  | createCounter l => exact raceCreate_served i l s
  | updateCounter l rev => exact raceUpdate_served i l rev s
  | listVPCs limit token | listPorts limit token | listVIPs limit token => exact ⟨rfl, onePage _ _⟩

/-- Two bootstrap at once; then the third allocates. -/
def raceSchedule : List (Fin 3) :=
  (List.replicate 16 [0, 1]).flatten ++ List.replicate 4 1 ++ List.replicate 5 2

def raceEnd : System (Fin 3) Answer (Except Err Int) (Cluster (Fin 3)) :=
  exec raceAct raceSchedule (start raceStore)

theorem raceEnd_reached (law : Cluster (Fin 3) → Cluster (Fin 3) → Prop) :
    ReflTransGen (Step (apiServer law)) (start raceStore) raceEnd :=
  exec_leads raceAct_served raceSchedule _

theorem raceEnd_results :
    raceEnd.Returned 0 (.ok 201) ∧
    raceEnd.Returned 1 (.error ⟨.other, "connection reset"⟩) ∧
    raceEnd.Returned 2 (.ok 203) :=
  ⟨Prog.result_some (by decide +kernel), Prog.result_some (by decide +kernel),
    Prog.result_some (by decide +kernel)⟩

theorem raceEnd_skipped : raceEnd.world.Committed 1 202 := by
  have hhigh : ((raceEnd.world.writes.map fun w => (w.1, w.2.high))) =
      [(2, some 203), (1, some 202), (0, some 201)] := by decide +kernel
  have hmem : ((1 : Fin 3), some (202 : Int)) ∈
      raceEnd.world.writes.map fun w => (w.1, w.2.high) := by
    rw [hhigh]
    decide
  obtain ⟨⟨i, l⟩, hw, heq⟩ := List.mem_map.mp hmem
  obtain ⟨rfl, hl⟩ := Prod.mk.inj heq
  exact ⟨l, hw, hl⟩

theorem vnis_never_shared_race :
    raceEnd.Returned 0 (.ok 201) ∧ raceEnd.Returned 2 (.ok 203) ∧
    (∀ j, raceEnd.Returned j (.ok 201) → j = 0) ∧
    (∀ b, raceEnd.world.boot = some b → ∀ o ∈ b.present, ∀ r, o.vni = some r → r < 201) ∧
    ∀ j, ¬raceEnd.Returned j (.ok 202) := by
  obtain ⟨hdistinct, hbounds, hskipped⟩ :=
    vnis_never_shared (raceEnd_reached (Disciplined (ι := Fin 3)))
  obtain ⟨h₀, h₁, h₂⟩ := raceEnd_results
  refine ⟨h₀, h₂, fun j hj => hdistinct j 0 201 hj h₀, fun b hb => ?_, fun j hj => ?_⟩
  · exact ((hbounds 0 201 h₀).2.2 b hb).2 fun _ _ h => h
  · obtain rfl := hskipped 1 j 202 raceEnd_skipped hj
    nomatch h₁.symm.trans hj

end

end CozyVniAlloc
