import Cozyplane.IndexDiffProofs
import Cozyplane.MapsProofs

/-!
# kpr — reconciling Services into `svc_vips` and `lb_src`

A reconcile of one Service applies the difference between its desired rows and the index of what its
last run wrote, first for `svc_vips`, then for `lb_src`. The first operation that fails ends it; the
Service is queued again. At startup every Service is applied once and what no index holds is swept.
-/

namespace CozyKpr

open KernelMap IndexDiff CozyPacket CozyMaps Function

instance : DecidableEq SvcVal := fun v w =>
  decidable_of_iff (v.n = w.n ∧ v.flags = w.flags ∧ v.be = w.be) <| by
    cases v
    cases w
    simp

/-- `lbSrcKey`: the frontend in full, then the client's prefix. -/
abbrev LbSrcKey := RowKey (128 + 128)

/-- The reconciler: map and index of either kind of row. (The value in `lb_src` is always 1.) -/
structure Kpr where
  vips : State String SvcKey SvcVal
  srcs : State String LbSrcKey Unit

/-- A fresh process; the pinned maps may hold anything. -/
def Kpr.start (vips : KMap SvcKey SvcVal) (srcs : KMap LbSrcKey Unit) : Kpr :=
  ⟨State.start vips, State.start srcs⟩

/-- `apply` for one Service, each half with its operations and where it was stopped; or a sweep of
    either map. -/
inductive KprEvent where
  | apply (key : String) (desired : KMap SvcKey SvcVal) (vipOps : List (Op SvcKey SvcVal))
      (vipStop : Option Nat) (desiredSrc : KMap LbSrcKey Unit) (srcOps : List (Op LbSrcKey Unit))
      (srcStop : Option Nat)
  | sweepVips (keys : List SvcKey)
  | sweepSrcs (keys : List LbSrcKey)

/-- The second half runs if the first one got through. -/
def step (r : Kpr) : KprEvent → Kpr
  | .apply key desired vipOps none desiredSrc srcOps srcStop =>
    ⟨IndexDiff.step r.vips (.run key desired vipOps none),
      IndexDiff.step r.srcs (.run key desiredSrc srcOps srcStop)⟩
  | .apply key desired vipOps (some n) _ _ _ =>
    { r with vips := IndexDiff.step r.vips (.run key desired vipOps (some n)) }
  | .sweepVips keys => { r with vips := IndexDiff.step r.vips (.sweep keys) }
  | .sweepSrcs keys => { r with srcs := IndexDiff.step r.srcs (.sweep keys) }

/-- The halves of an event meet a condition on their own map. -/
def Each (P : ∀ {κ ν : Type} [DecidableEq κ] [DecidableEq ν], State String κ ν → Event String κ ν → Prop)
    (r : Kpr) : KprEvent → Prop
  | .apply key desired vipOps vipStop desiredSrc srcOps srcStop =>
    P r.vips (.run key desired vipOps vipStop) ∧
      (vipStop = none → P r.srcs (.run key desiredSrc srcOps srcStop))
  | .sweepVips keys => P r.vips (.sweep keys)
  | .sweepSrcs keys => P r.srcs (.sweep keys)

/-- What the program does. -/
def Does (r : Kpr) (e : KprEvent) : Prop := Each Valid r e

/-- A reconcile repeats a failed one, and asks for no key that another Service holds. -/
def Orderly (r : Kpr) (e : KprEvent) : Prop := Each Careful r e

/-- Every Service's latest reconcile has succeeded, with its current desired rows; a Service never
    reconciled has none. -/
def Settled (r : Kpr) (desired : String → KMap SvcKey SvcVal)
    (desiredSrc : String → KMap LbSrcKey Unit) : Prop :=
  ∀ key, (r.vips.last key = some (desired key, true) ∧ r.srcs.last key = some (desiredSrc key, true)) ∨
    r.vips.last key = none ∧ r.srcs.last key = none ∧ desired key = ∅ ∧ desiredSrc key = ∅

/-- The rows written are the union of the desired ones. -/
def Converged (r : Kpr) (desired : String → KMap SvcKey SvcVal)
    (desiredSrc : String → KMap LbSrcKey Unit) : Prop :=
  (∀ k v, (k ∈ r.vips.touched ∧ r.vips.map.lookup k = some v) ↔
    ∃ key, (desired key).lookup k = some v) ∧
  ∀ k v, (k ∈ r.srcs.touched ∧ r.srcs.map.lookup k = some v) ↔
    ∃ key, (desiredSrc key).lookup k = some v

/-- Both halves are good. -/
def Kpr.Sound (r : Kpr) : Prop := Good r.vips ∧ Good r.srcs

theorem step_sound {r : Kpr} (h : r.Sound) {e : KprEvent} (hdoes : Does r e)
    (horderly : Orderly r e) : (step r e).Sound := by
  cases e with
  | apply key desired vipOps vipStop desiredSrc srcOps srcStop =>
    have hvips := IndexDiff.step_good h.1 hdoes.1 horderly.1
    cases vipStop with
    | none => exact ⟨hvips, IndexDiff.step_good h.2 (hdoes.2 rfl) (horderly.2 rfl)⟩
    | some n => exact ⟨hvips, h.2⟩
  | sweepVips keys =>
    have hvalid : Valid r.vips (.sweep keys) := hdoes
    exact ⟨IndexDiff.step_good h.1 hvalid trivial, h.2⟩
  | sweepSrcs keys =>
    have hvalid : Valid r.srcs (.sweep keys) := hdoes
    exact ⟨h.1, IndexDiff.step_good h.2 hvalid trivial⟩

/-- **kpr CONVERGES**: once every Service's latest reconcile has succeeded the rows are exactly
    those desired. -/
theorem kpr_converges (vips : KMap SvcKey SvcVal) (srcs : KMap LbSrcKey Unit) (r : Kpr)
    (hrun : Run.Reaches step (fun r e => Does r e ∧ Orderly r e) (· = Kpr.start vips srcs) r)
    (desired : String → KMap SvcKey SvcVal) (desiredSrc : String → KMap LbSrcKey Unit)
    (hsettled : Settled r desired desiredSrc) : Converged r desired desiredSrc := by
  have hgood : r.Sound := by
    refine Run.Reaches.invariant ?_ ?_ hrun
    · rintro _ rfl
      exact ⟨start_good vips, start_good srcs⟩
    · intro r e h hok
      exact step_sound h hok.1 hok.2
  constructor
  · refine settled hgood.1 fun key => ?_
    rcases hsettled key with h | h
    · exact .inl h.1
    · exact .inr ⟨h.1, h.2.2.1⟩
  · refine settled hgood.2 fun key => ?_
    rcases hsettled key with h | h
    · exact .inl h.2
    · exact .inr ⟨h.2.1, h.2.2.2⟩

-- ── runs

/-- A port of the frontend 198.51.100.1. -/
def sampleKey (port : U16) : SvcKey := ⟨0#32, 0x0064ff9b0000000000000000c6336401#128, 6#8, port⟩

/-- A row with one backend. -/
def sampleVal (ip : Addr) : SvcVal := ⟨1#32, 0#32, fun _ => ⟨ip, 8080#16⟩⟩

def oneRow (port : U16) (ip : Addr) : KMap SvcKey SvcVal := (∅ : KMap SvcKey SvcVal).insert
  (sampleKey port) (sampleVal ip)

/-- The rows of one Service. -/
def only (key : String) (rows : KMap SvcKey SvcVal) : String → KMap SvcKey SvcVal :=
  update (fun _ => ∅) key rows

/-- A reconcile of `svc_vips` rows alone. -/
def applyVips (key : String) (desired : KMap SvcKey SvcVal) (ops : List (Op SvcKey SvcVal))
    (stop : Option Nat) : KprEvent := .apply key desired ops stop ∅ [] none

theorem applyVips_does {r : Kpr} {key : String} {desired : KMap SvcKey SvcVal}
    {ops : List (Op SvcKey SvcVal)} {stop : Option Nat} (hdiff : Diffs (r.vips.owned key) desired ops)
    (hstop : ∀ n, stop = some n → n < ops.length) (hsrc : r.srcs.owned key = ∅) :
    Does r (applyVips key desired ops stop) := by
  refine ⟨⟨hdiff, hstop⟩, fun _ => ⟨⟨[], [], rfl, ?_, ?_⟩, fun n hn => nomatch hn⟩⟩
  · exact .refl _
  · rw [hsrc]
    exact .refl _

theorem applyVips_last (r : Kpr) {key other : String} (h : other ≠ key) (desired : KMap SvcKey SvcVal)
    (ops : List (Op SvcKey SvcVal)) (stop : Option Nat) :
    (step r (applyVips key desired ops stop)).vips.last other = r.vips.last other ∧
      (step r (applyVips key desired ops stop)).srcs.last other = r.srcs.last other := by
  cases stop with
  | none => exact ⟨update_of_ne h .., update_of_ne h ..⟩
  | some n => exact ⟨update_of_ne h .., rfl⟩

def bothRows : KMap SvcKey SvcVal := (oneRow 80#16 1#128).insert (sampleKey 443#16) (sampleVal 1#128)

/-- Port 80 goes from `a` to `b`, which reconciles first. -/
def handOver : List KprEvent :=
  [applyVips "a" (oneRow 80#16 1#128) [.put (sampleKey 80#16) (sampleVal 1#128)] none,
   applyVips "b" (oneRow 80#16 2#128) [.put (sampleKey 80#16) (sampleVal 2#128)] none,
   applyVips "a" ∅ [.del (sampleKey 80#16)] none]

/-- The second put fails; then the Service is deleted. -/
def failAndDelete : List KprEvent :=
  [applyVips "a" bothRows
     [.put (sampleKey 443#16) (sampleVal 1#128), .put (sampleKey 80#16) (sampleVal 1#128)] (some 1),
   applyVips "a" ∅ [] none]

theorem applyVips_claims (r : Kpr) {key other : String} (h : other ≠ key) (desired : KMap SvcKey SvcVal)
    (ops : List (Op SvcKey SvcVal)) (stop : Option Nat) (k : SvcKey) :
    Claims (step r (applyVips key desired ops stop)).vips other k ↔ Claims r.vips other k := by
  refine claims_other ?_ (applyVips_last r h desired ops stop).1
  cases stop with
  | none => exact update_of_ne h ..
  | some n => rfl

theorem applyVips_orderly {r : Kpr} {key : String} {desired : KMap SvcKey SvcVal}
    {ops : List (Op SvcKey SvcVal)} {stop : Option Nat}
    (hretry : ∀ D, r.vips.last key = some (D, false) → D = desired)
    (hfree : ∀ k ∈ desired, ∀ other, other ≠ key → ¬ Claims r.vips other k)
    (hsrc : ∀ D, r.srcs.last key ≠ some (D, false)) : Orderly r (applyVips key desired ops stop) := by
  refine ⟨⟨fun D hD k => ?_, hfree⟩, fun _ => ⟨fun D hD => absurd hD (hsrc D), fun k hk => nomatch hk⟩⟩
  rw [hretry D hD]

/-- A run of `a` that fails and its retry; then `a` gives port 80 up, and `b` takes it. -/
def retryAndHandOver : List KprEvent :=
  [applyVips "a" bothRows
     [.put (sampleKey 443#16) (sampleVal 1#128), .put (sampleKey 80#16) (sampleVal 1#128)] (some 1),
   applyVips "a" bothRows
     [.put (sampleKey 443#16) (sampleVal 1#128), .put (sampleKey 80#16) (sampleVal 1#128)] none,
   applyVips "a" (oneRow 443#16 1#128) [.del (sampleKey 80#16)] none,
   applyVips "b" (oneRow 80#16 2#128) [.put (sampleKey 80#16) (sampleVal 2#128)] none]

theorem retryAndHandOver_runs :
    Run.AllMeet (fun r e => Does r e ∧ Orderly r e) step (Kpr.start ∅ ∅) retryAndHandOver := by
  have hfresh : ∀ other k, ¬ Claims (Kpr.start ∅ ∅).vips other k := by
    rintro other k (h | ⟨D, hD, -⟩)
    · nomatch h
    · nomatch hD
  have hputs : Diffs (∅ : KMap SvcKey SvcVal) bothRows
      [.put (sampleKey 443#16) (sampleVal 1#128), .put (sampleKey 80#16) (sampleVal 1#128)] :=
    ⟨[⟨sampleKey 443#16, sampleVal 1#128⟩, ⟨sampleKey 80#16, sampleVal 1#128⟩], [], rfl, .refl _, .refl _⟩
  refine ⟨⟨?_, ?_⟩, ⟨?_, ?_⟩, ⟨?_, ?_⟩, ⟨?_, ?_⟩, trivial⟩
  · refine applyVips_does hputs (fun n hn => ?_) rfl
    cases hn
    decide
  · exact applyVips_orderly (fun D hD => nomatch hD) (fun k _ other _ => hfresh other k)
      fun D hD => nomatch hD
  · exact applyVips_does hputs (fun n hn => nomatch hn) rfl
  · refine applyVips_orderly (fun D hD => ?_) (fun k _ other hne => ?_) fun D hD => nomatch hD
    · exact (Prod.mk.inj (Option.some.inj hD)).1.symm
    · rw [applyVips_claims _ hne]
      exact hfresh other k
  · refine applyVips_does ⟨[], [sampleKey 80#16], rfl, ?_, ?_⟩ (fun n hn => nomatch hn) rfl
    · show List.Perm [] (changed bothRows (oneRow 443#16 1#128))
      rw [show changed bothRows (oneRow 443#16 1#128) = [] by decide +kernel]
    · exact .refl _
  · refine applyVips_orderly (fun D hD => nomatch hD) (fun k _ other hne => ?_) fun D hD => nomatch hD
    rw [applyVips_claims _ hne, applyVips_claims _ hne]
    exact hfresh other k
  · exact applyVips_does ⟨[⟨sampleKey 80#16, sampleVal 2#128⟩], [], rfl, .refl _, .refl _⟩
      (fun n hn => nomatch hn) rfl
  · refine applyVips_orderly (fun D hD => nomatch hD) (fun k hk other hne => ?_) fun D hD => nomatch hD
    obtain rfl := List.mem_singleton.mp (AList.mem_keys.mp hk)
    by_cases ha : other = "a"
    · subst ha
      rintro (hin | ⟨D, hD, -⟩)
      · exact absurd (List.mem_singleton.mp (AList.mem_keys.mp hin)) (by decide)
      · nomatch hD
    · rw [applyVips_claims _ ha, applyVips_claims _ ha, applyVips_claims _ ha]
      exact hfresh other _

def handedRows : String → KMap SvcKey SvcVal :=
  update (only "b" (oneRow 80#16 2#128)) "a" (oneRow 443#16 1#128)

theorem kpr_converges_handOver :
    Settled (retryAndHandOver.foldl step (Kpr.start ∅ ∅)) handedRows (fun _ => ∅) ∧
    Converged (retryAndHandOver.foldl step (Kpr.start ∅ ∅)) handedRows (fun _ => ∅) := by
  have hsettled : Settled (retryAndHandOver.foldl step (Kpr.start ∅ ∅)) handedRows (fun _ => ∅) := by
    intro key
    by_cases ha : key = "a"
    · subst ha
      exact .inl ⟨rfl, rfl⟩
    · by_cases hb : key = "b"
      · subst hb
        exact .inl ⟨rfl, rfl⟩
      · simp only [retryAndHandOver, List.foldl_cons, List.foldl_nil, applyVips_last _ ha,
          applyVips_last _ hb]
        exact .inr ⟨rfl, rfl, (update_of_ne ha ..).trans (update_of_ne hb ..), trivial⟩
  exact ⟨hsettled, kpr_converges ∅ ∅ _ (Run.Reaches.extend (.start rfl) retryAndHandOver_runs) _ _ hsettled⟩

theorem kpr_diverges :
    (Run.Reaches step Does (· = Kpr.start ∅ ∅) (handOver.foldl step (Kpr.start ∅ ∅)) ∧
      Settled (handOver.foldl step (Kpr.start ∅ ∅)) (only "b" (oneRow 80#16 2#128)) (fun _ => ∅) ∧
      (only "b" (oneRow 80#16 2#128) "b").lookup (sampleKey 80#16) = some (sampleVal 2#128) ∧
      (handOver.foldl step (Kpr.start ∅ ∅)).vips.map.lookup (sampleKey 80#16) = none) ∧
    Run.Reaches step Does (· = Kpr.start ∅ ∅) (failAndDelete.foldl step (Kpr.start ∅ ∅)) ∧
      Settled (failAndDelete.foldl step (Kpr.start ∅ ∅)) (fun _ => ∅) (fun _ => ∅) ∧
      sampleKey 443#16 ∈ (failAndDelete.foldl step (Kpr.start ∅ ∅)).vips.touched ∧
      (failAndDelete.foldl step (Kpr.start ∅ ∅)).vips.map.lookup (sampleKey 443#16) =
        some (sampleVal 1#128) := by
  refine ⟨⟨Run.Reaches.extend (.start rfl) ⟨?_, ?_, ?_, trivial⟩, ?_, by decide +kernel,
    by decide +kernel⟩, Run.Reaches.extend (.start rfl) ⟨?_, ?_, trivial⟩, ?_, by decide +kernel,
    by decide +kernel⟩
  · exact applyVips_does ⟨[⟨sampleKey 80#16, sampleVal 1#128⟩], [], rfl, .refl _, .refl _⟩
      (fun n hn => nomatch hn) rfl
  · exact applyVips_does ⟨[⟨sampleKey 80#16, sampleVal 2#128⟩], [], rfl, .refl _, .refl _⟩
      (fun n hn => nomatch hn) rfl
  · exact applyVips_does ⟨[], [sampleKey 80#16], rfl, .refl _, .refl _⟩
      (fun n hn => nomatch hn) rfl
  · intro key
    by_cases ha : key = "a"
    · subst ha
      exact .inl ⟨rfl, rfl⟩
    · by_cases hb : key = "b"
      · subst hb
        exact .inl ⟨rfl, rfl⟩
      · simp only [handOver, List.foldl_cons, List.foldl_nil, applyVips_last _ ha, applyVips_last _ hb]
        exact .inr ⟨rfl, rfl, update_of_ne hb .., trivial⟩
  · refine applyVips_does ⟨[⟨sampleKey 443#16, sampleVal 1#128⟩, ⟨sampleKey 80#16, sampleVal 1#128⟩],
      [], rfl, .refl _, .refl _⟩ ?_ rfl
    intro n hn
    cases hn
    decide
  · exact applyVips_does ⟨[], [], rfl, .refl _, .refl _⟩ (fun n hn => nomatch hn) rfl
  · intro key
    by_cases ha : key = "a"
    · subst ha
      exact .inl ⟨rfl, rfl⟩
    · simp only [failAndDelete, List.foldl_cons, List.foldl_nil, applyVips_last _ ha]
      exact .inr ⟨rfl, rfl, trivial, trivial⟩

end CozyKpr
