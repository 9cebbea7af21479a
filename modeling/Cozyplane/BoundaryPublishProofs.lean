import Cozyplane.BoundarySyncProofs
import Cozyplane.PhasedProofs

/-!
# Boundary publication — what the gate can see while SyncBoundaries runs

The gate reads a VPC's entry and the rules that carry its revision. `SyncBoundaries` writes both,
one map operation at a time, in orders that Go's iterations choose, and may stop between any two.

The identity of a boundary hashes its policy as WRITTEN, with peers by name; its rules carry the
peers' VNIs. A peer that comes back under another VNI changes the rules and not the identity:
`publication_mixes`.
-/

namespace CozyPublish

open CozyPacket CozyMaps CozyBoundaryCompile CozyBoundarySync
open Phased (exec Stops Completes Outline)
open KernelMap (mem_iff_lookup)

/-- A phase whose writes come in any order. -/
def anyOrder (ph : CozyBoundarySync.Phase) : Phased.Phase Tables Write := fun t ws =>
  ∃ ws₀, ph t = .ok ws₀ ∧ ws.Perm ws₀

def boundaryPhases (d : Desired) (known : List U32) (primary : List PrimaryPort) :
    List (Phased.Phase Tables Write) :=
  [anyOrder (closeChanged d), anyOrder (closeUnknown known), anyOrder (stageRules d),
    anyOrder (syncPrimary primary), anyOrder (syncCidrs d), anyOrder (publish d),
    anyOrder (retire d known), anyOrder (pruneRules d)]

/-- `SyncBoundaries`: a failed preflight writes nothing. -/
def boundaryCall (desired : List Boundary) (known : List U32) (primary : List PrimaryPort) :
    List (Phased.Phase Tables Write) :=
  match preflight desired primary with
  | .error _ => []
  | .ok d => boundaryPhases d known primary

/-- The deterministic model is one of these runs. -/
theorem runPhases_stops (phs : List CozyBoundarySync.Phase) (t : Tables) :
    ∃ ws, Stops Tables.write (phs.map anyOrder) t ws ∧
      exec Tables.write t ws = (runPhases phs t).1 := by
  induction phs generalizing t with
  | nil => exact ⟨[], .idle, rfl⟩
  | cons ph rest ih =>
    cases hph : ph t with
    | error e =>
      refine ⟨[], .idle, ?_⟩
      unfold runPhases
      rw [hph]
      rfl
    | ok ws =>
      obtain ⟨ws', hstops, hexec⟩ := ih (ws.foldl Tables.write t)
      refine ⟨ws ++ ws', .later ⟨ws, hph, .refl _⟩ hstops, ?_⟩
      rw [Phased.exec_append]
      unfold runPhases
      rw [hph]
      exact hexec

theorem syncBoundaries_stops (t : Tables) (desired : List Boundary) (known : List U32)
    (primary : List PrimaryPort) :
    ∃ ws, Stops Tables.write (boundaryCall desired known primary) t ws ∧
      exec Tables.write t ws = (syncBoundaries t desired known primary).1 := by
  unfold boundaryCall syncBoundaries
  cases preflight desired primary with
  | error e => exact ⟨[], .idle, rfl⟩
  | ok d =>
    exact runPhases_stops [closeChanged d, closeUnknown known, stageRules d,
      syncPrimary primary, syncCidrs d, publish d, retire d known, pruneRules d] t

/-- The rows the gate finds for a network under a revision. -/
def RowsOf (s : Tables) (n : U32) (revision : U64) (rows : BoundaryRule → Prop) : Prop :=
  ∀ k, k.net = n → k.revision = revision → (k ∈ s.rules ↔ rows k)

def Boundary.rows (b : Boundary) (k : BoundaryRule) : Prop := ∃ r ∈ b.rules, k = ruleKey b r

def ClosedView (s : Tables) (n : U32) : Prop :=
  ∃ p, s.policy.lookup n = some p ∧ p.revision = 0#64

/-- The entry and the rows under its revision are as they were. -/
def OldView (t s : Tables) (n : U32) : Prop :=
  s.policy.lookup n = t.policy.lookup n ∧
    ∀ p, t.policy.lookup n = some p → RowsOf s n p.revision (· ∈ t.rules)

def NewView (b : Boundary) (s : Tables) : Prop :=
  s.policy.lookup b.net = some (policyOf b) ∧ RowsOf s b.net b.revision (Boundary.rows b)

def AllOrClosed (t : Tables) (desired : List Boundary) (known : List U32) (n : U32) (s : Tables) :
    Prop :=
  OldView t s n ∨ (∃ b ∈ desired, b.net = n ∧ NewView b s) ∨ ClosedView s n ∨
    (s.policy.lookup n = none ∧ n ∈ known ∧ ∀ b ∈ desired, b.net ≠ n)

/-- A live boundary that keeps identity and revision keeps its rules. -/
def Steady (t : Tables) (desired : List Boundary) : Prop :=
  ∀ b ∈ desired, ∀ p, t.policy.lookup b.net = some p → p.revision ≠ 0#64 →
    p.identity = b.identity → p.revision = b.revision → RowsOf t b.net b.revision (Boundary.rows b)

variable {past : List Boundary} {n : U32} {s : Tables} {b : Boundary} {ws ws₀ done : List Write}

section Call

variable {t : Tables} {desired : List Boundary} {known : List U32} {primary : List PrimaryPort}
variable {d : Desired} (hd : preflight desired primary = .ok d)

include hd

theorem boundary_unique {b' : Boundary} (hb : b ∈ desired) (hb' : b' ∈ desired) (h : b.net = b'.net) :
    b = b' := by
  have hfits := ((preflight_ok_iff desired primary d).mp hd).1
  exact List.inj_on_of_nodup_map hfits.distinct hb hb' h

theorem revision_ne_zero (hb : b ∈ desired) : b.revision ≠ 0#64 :=
  (((preflight_ok_iff desired primary d).mp hd).1.each b hb).identity.2.1

theorem policies_iff {p : BoundaryPolicy} :
    d.policies.lookup n = some p ↔ ∃ b ∈ desired, b.net = n ∧ p = policyOf b := by
  obtain ⟨hfits, rfl⟩ := (preflight_ok_iff desired primary d).mp hd
  obtain ⟨hin, hout⟩ := lookup_merged desired ⟨∅, ∅, ∅⟩ hfits.distinct n
  constructor
  · intro h
    by_cases hex : ∃ b ∈ desired, b.net = n
    · obtain ⟨b, hb, hn⟩ := hex
      rw [hin b hb hn] at h
      exact ⟨b, hb, hn, (Option.some.inj h).symm⟩
    · rw [hout fun b hb hn => hex ⟨b, hb, hn⟩] at h
      nomatch h
  · rintro ⟨b, hb, hn, rfl⟩
    exact hin b hb hn

theorem mem_policies_iff : n ∈ d.policies ↔ ∃ b ∈ desired, b.net = n := by
  rw [mem_iff_lookup]
  constructor
  · rintro ⟨p, hp⟩
    obtain ⟨b, hb, hn, -⟩ := (policies_iff hd).mp hp
    exact ⟨b, hb, hn⟩
  · rintro ⟨b, hb, hn⟩
    exact ⟨_, (policies_iff hd).mpr ⟨b, hb, hn, rfl⟩⟩

theorem rules_iff {k : BoundaryRule} : k ∈ d.rules ↔ ∃ b ∈ desired, Boundary.rows b k := by
  obtain ⟨-, rfl⟩ := (preflight_ok_iff desired primary d).mp hd
  rw [mem_merged_rules, or_iff_right (AList.notMem_empty k)]
  unfold ruleKeys Boundary.rows
  simp only [List.mem_flatMap, List.mem_map, eq_comm]

theorem rules_of (hb : b ∈ desired) {k : BoundaryRule} (hk : k.net = b.net) :
    k ∈ d.rules ↔ Boundary.rows b k := by
  rw [rules_iff hd]
  constructor
  · rintro ⟨b', hb', r, hr, rfl⟩
    obtain rfl := boundary_unique hd hb' hb hk
    exact ⟨r, hr, rfl⟩
  · intro h
    exact ⟨b, hb, h⟩

omit hd

/-- Closed, or the old entry, which has the identity of the network's new boundary if there is
    one. -/
def Waiting (t : Tables) (desired : List Boundary) (n : U32) (s : Tables) : Prop :=
  ClosedView s n ∨ (s.policy.lookup n = t.policy.lookup n ∧
    ∀ b ∈ desired, b.net = n → ∃ p, t.policy.lookup n = some p ∧ p.identity = b.identity)

/-- A network no VPC uses is closed, or never had an entry. -/
def Forgotten (known : List U32) (n : U32) (s : Tables) : Prop :=
  n ∉ known → ClosedView s n ∨ s.policy.lookup n = none

/-- The rows of a live entry are the old ones. -/
def OldRows (t : Tables) (n : U32) (s : Tables) : Prop :=
  ∀ p, s.policy.lookup n = some p → p.revision ≠ 0#64 → RowsOf s n p.revision (· ∈ t.rules)

/-- The new rules are complete, whoever reads them. -/
def Staged (desired : List Boundary) (n : U32) (s : Tables) : Prop :=
  ∀ b ∈ desired, b.net = n → RowsOf s n b.revision (Boundary.rows b)

/-- What staging leaves to publication. -/
structure Ready (t : Tables) (desired : List Boundary) (known : List U32) (n : U32) (s : Tables) :
    Prop where
  waiting : Waiting t desired n s
  forgotten : Forgotten known n s
  rows : OldRows t n s
  staged : Staged desired n s

theorem Waiting.view (h : Waiting t desired n s) (hrows : OldRows t n s) :
    AllOrClosed t desired known n s := by
  rcases h with hclosed | ⟨hsame, -⟩
  · exact .inr (.inr (.inl hclosed))
  by_cases hzero : ClosedView s n
  · exact .inr (.inr (.inl hzero))
  refine .inl ⟨hsame, fun p hp => ?_⟩
  rw [← hsame] at hp
  exact hrows p hp fun hz => hzero ⟨p, hp, hz⟩

theorem ClosedView.congr {s' : Tables} (hp : s'.policy.lookup n = s.policy.lookup n)
    (h : ClosedView s n) : ClosedView s' n := by
  obtain ⟨p, hl, hz⟩ := h
  exact ⟨p, hp.trans hl, hz⟩

theorem Waiting.congr {s' : Tables} (hp : s'.policy.lookup n = s.policy.lookup n)
    (h : Waiting t desired n s) : Waiting t desired n s' := by
  rcases h with hclosed | ⟨hsame, hid⟩
  · exact .inl (hclosed.congr hp)
  · exact .inr ⟨hp.trans hsame, hid⟩

theorem Ready.congr {s' : Tables} (hp : s'.policy.lookup n = s.policy.lookup n)
    (hr : s'.rules = s.rules) (h : Ready t desired known n s) : Ready t desired known n s' := by
  refine ⟨h.waiting.congr hp, fun hn => ?_, ?_, ?_⟩
  · rcases h.forgotten hn with hclosed | hnone
    · exact .inl (hclosed.congr hp)
    · exact .inr (hp.trans hnone)
  · unfold OldRows RowsOf
    rw [hp, hr]
    exact h.rows
  · unfold Staged RowsOf
    rw [hr]
    exact h.staged

theorem Waiting.steady (h : Waiting t desired n s) (hsteady : Steady t desired) {p : BoundaryPolicy}
    (hp : s.policy.lookup n = some p) (hlive : p.revision ≠ 0#64) (hb : b ∈ desired) (hn : b.net = n)
    (hrev : p.revision = b.revision) : RowsOf t n b.revision (Boundary.rows b) := by
  rcases h with ⟨q, hq, hzero⟩ | ⟨hsame, hid⟩
  · rw [hp] at hq
    rw [← Option.some.inj hq] at hzero
    exact absurd hzero hlive
  obtain ⟨q, hq, hidentity⟩ := hid b hb hn
  rw [← hsame, hp] at hq
  cases hq
  subst hn
  exact hsteady b hb p (hsame ▸ hp) hlive hidentity hrev

-- ── phase by phase

theorem rules_alone (h : ∀ w ∈ ws, w.rule? = none) (t : Tables) :
    (exec Tables.write t ws).rules = t.rules := by
  refine foldl_keeps (Q := fun t' => t'.rules = t.rules) (fun w hw t' ht' => ?_) rfl
  have hnone := h w hw
  cases w with
  | putRule k v | delRule k => nomatch hnone
  | _ => exact ht'

theorem closing_point (h : ∀ w ∈ done, ∃ k p, w = .putPolicy k p ∧ p.revision = 0#64) :
    (exec Tables.write s done).rules = s.rules ∧
      (ClosedView (exec Tables.write s done) n ∨
        ((∀ w ∈ done, w.net? ≠ some n) ∧
          (exec Tables.write s done).policy.lookup n = s.policy.lookup n)) := by
  constructor
  · refine rules_alone (fun w hw => ?_) s
    obtain ⟨_, _, rfl, -⟩ := h w hw
    rfl
  · rcases policy_written n done s with ⟨hnone, hsame⟩ | ⟨p, hp, hl⟩ | ⟨hdel, -⟩
    · exact .inr ⟨hnone, hsame⟩
    · obtain ⟨_, _, heq, hzero⟩ := h _ hp
      cases heq
      exact .inl ⟨_, hl, hzero⟩
    · obtain ⟨_, _, heq, -⟩ := h _ hdel
      nomatch heq

theorem closeChanged_closes (hph : closeChanged d t = .ok ws₀) :
    ∀ w ∈ ws₀, ∃ k p, w = .putPolicy k p ∧ p.revision = 0#64 := by
  intro w hw
  obtain ⟨k, p, -, rfl, -⟩ := (mem_closeChanged hph).mp hw
  exact ⟨k, _, rfl, rfl⟩

theorem closeUnknown_closes (hph : closeUnknown known s = .ok ws₀) :
    ∀ w ∈ ws₀, ∃ k p, w = .putPolicy k p ∧ p.revision = 0#64 := by
  intro w hw
  obtain ⟨k, p, -, -, rfl⟩ := (mem_closeUnknown hph).mp hw
  exact ⟨k, _, rfl, rfl⟩

include hd in
theorem closeChanged_done (h : anyOrder (closeChanged d) t ws) :
    (exec Tables.write t ws).rules = t.rules ∧ Waiting t desired n (exec Tables.write t ws) := by
  obtain ⟨ws₀, hph, hperm⟩ := h
  obtain ⟨hrules, hview⟩ := closing_point fun w hw => closeChanged_closes hph w (hperm.mem_iff.mp hw)
  refine ⟨hrules, ?_⟩
  rcases hview with hclosed | ⟨hnone, hsame⟩
  · exact .inl hclosed
  refine .inr ⟨hsame, fun b hb hn => ?_⟩
  -- otherwise the phase would have closed it
  by_contra hno
  have hp := (policies_iff hd).mpr ⟨b, hb, hn, rfl⟩
  have hwrite : .putPolicy n (closed b.identity) ∈ ws :=
    hperm.mem_iff.mpr ((mem_closeChanged hph).mpr
      ⟨n, policyOf b, hp, rfl, fun old hold hid => hno ⟨old, hold, hid⟩⟩)
  exact hnone _ hwrite rfl

theorem closeUnknown_point (hw : Waiting t desired n s) (hph : closeUnknown known s = .ok ws₀)
    (hsub : ∀ w ∈ done, w ∈ ws₀) :
    (exec Tables.write s done).rules = s.rules ∧ Waiting t desired n (exec Tables.write s done) := by
  obtain ⟨hrules, hclosed | ⟨-, hsame⟩⟩ := closing_point (n := n) fun w hw =>
    closeUnknown_closes hph w (hsub w hw)
  · exact ⟨hrules, .inl hclosed⟩
  · exact ⟨hrules, hw.congr hsame⟩

theorem closeUnknown_done (h : anyOrder (closeUnknown known) s ws) :
    Forgotten known n (exec Tables.write s ws) := by
  obtain ⟨ws₀, hph, hperm⟩ := h
  intro hn
  rcases (closing_point (n := n) fun w hw => closeUnknown_closes hph w (hperm.mem_iff.mp hw)).2 with
    hclosed | ⟨hnone, hsame⟩
  · exact .inl hclosed
  · rw [hsame]
    cases hl : s.policy.lookup n with
    | none => exact .inr rfl
    | some p =>
      refine .inl ⟨p, hsame.trans hl, ?_⟩
      by_contra hlive
      have hwrite : .putPolicy n { p with revision := 0#64, internet := false } ∈ ws :=
        hperm.mem_iff.mpr ((mem_closeUnknown hph).mpr ⟨n, p, hl, ⟨hn, .inl hlive⟩, rfl⟩)
      exact hnone _ hwrite rfl

theorem rules_point {gone : BoundaryRule → Prop} (hsub : ∀ w ∈ done, w ∈ ws₀)
    (h : ∀ w, w ∈ ws₀ → (∃ k, w = .delRule k ∧ k ∈ s.rules ∧ gone k) ∨
      ∃ k v, w = .putRule k v ∧ d.rules.lookup k = some v ∧ s.rules.lookup k ≠ some v)
    (k : BoundaryRule) :
    ((∀ w ∈ done, w.rule? ≠ some k) ∧ (k ∈ (exec Tables.write s done).rules ↔ k ∈ s.rules)) ∨
      (k ∈ (exec Tables.write s done).rules ∧ k ∈ d.rules) ∨
      (k ∉ (exec Tables.write s done).rules ∧ gone k) := by
  refine (rule_written k done s).imp_right (Or.imp ?_ ?_)
  · rintro ⟨v, hv, hin⟩
    rcases h _ (hsub _ hv) with ⟨_, heq, -⟩ | ⟨j, u, heq, hj, -⟩
    · nomatch heq
    · cases heq
      exact ⟨hin, mem_iff_lookup.mpr ⟨v, hj⟩⟩
  · rintro ⟨hdel, hout⟩
    rcases h _ (hsub _ hdel) with ⟨j, heq, -, hgone⟩ | ⟨_, _, heq, -⟩
    · cases heq
      exact ⟨hout, hgone⟩
    · nomatch heq

theorem stageRules_point (hd : preflight desired primary = .ok d) (hsteady : Steady t desired)
    (hrules : s.rules = t.rules) (hw : Waiting t desired n s) (hph : stageRules d s = .ok ws₀)
    (hsub : ∀ w ∈ done, w ∈ ws₀) :
    (exec Tables.write s done).policy = s.policy ∧ OldRows t n (exec Tables.write s done) := by
  have hpolicy : (exec Tables.write s done).policy = s.policy :=
    foldl_policy (fun w hin => policy_alone d primary (.inl rfl) s ws₀ hph w (hsub w hin)) s
  refine ⟨hpolicy, fun p hp hlive k hn hrev => ?_⟩
  rw [hpolicy] at hp
  rcases rules_point hsub (fun w => (mem_stageRules hph).mp) k with
    ⟨-, hsame⟩ | ⟨hin, hmem⟩ | ⟨-, hdead, -⟩
  · rw [← hrules]
    exact hsame
  · refine iff_of_true hin ?_
    obtain ⟨b, hb, r, hr, rfl⟩ := (rules_iff hd).mp hmem
    exact (hw.steady hsteady hp hlive hb hn hrev.symm _ hn rfl).mpr ⟨r, hr, rfl⟩
  · unfold liveRule at hdead
    rw [hn, hp] at hdead
    exact absurd hrev.symm (by simpa using hdead)

theorem stageRules_done (hd : preflight desired primary = .ok d) (hsteady : Steady t desired)
    (hrules : s.rules = t.rules) (hw : Waiting t desired n s) (h : anyOrder (stageRules d) s ws) :
    Staged desired n (exec Tables.write s ws) := by
  obtain ⟨ws₀, hph, hperm⟩ := h
  intro b hb hn k hkn hkr
  have hof : k ∈ d.rules ↔ Boundary.rows b k := rules_of hd hb (hkn.trans hn.symm)
  rw [← hof]
  rcases rules_point (fun w hw => hperm.mem_iff.mp hw) (fun w => (mem_stageRules hph).mp) k with
    ⟨hnone, hsame⟩ | ⟨hin, hmem⟩ | ⟨hout, -, hnot⟩
  · refine hsame.trans ⟨fun hold => ?_, fun hnew => ?_⟩
    · -- an old row that was not deleted is live, or new
      by_contra hnot
      have hlive : liveRule s k = true := by
        by_contra hdead
        have hwrite : .delRule k ∈ ws := hperm.mem_iff.mpr ((mem_stageRules hph).mpr
          (.inl ⟨k, rfl, hold, (Bool.not_eq_true _).mp hdead, hnot⟩))
        exact hnone _ hwrite rfl
      unfold liveRule at hlive
      rw [hkn] at hlive
      split at hlive
      · nomatch hlive
      rename_i p hp
      have hrev : p.revision = b.revision := (eq_of_beq hlive).trans hkr
      have hne : p.revision ≠ 0#64 := by
        rw [hrev]
        exact revision_ne_zero hd hb
      have hrows := hw.steady hsteady hp hne hb hn hrev k hkn hkr
      exact hnot (hof.mpr (hrows.mp (hrules ▸ hold)))
    · by_contra hold
      obtain ⟨v, hv⟩ := mem_iff_lookup.mp hnew
      have hwrite : .putRule k v ∈ ws := hperm.mem_iff.mpr ((mem_stageRules hph).mpr
        (.inr ⟨k, v, rfl, hv, fun hl =>
          hold (mem_iff_lookup.mpr ⟨v, hl⟩)⟩))
      exact hnone _ hwrite rfl
  · exact iff_of_true hin hmem
  · exact iff_of_false hout hnot

theorem publish_point (hd : preflight desired primary = .ok d) (hs : Ready t desired known n s)
    (hph : publish d s = .ok ws₀) (hsub : ∀ w ∈ done, w ∈ ws₀) :
    (∃ b ∈ desired, b.net = n ∧ NewView b (exec Tables.write s done)) ∨
      ((∀ w ∈ done, w.net? ≠ some n) ∧
        (exec Tables.write s done).policy.lookup n = s.policy.lookup n ∧
        Ready t desired known n (exec Tables.write s done)) := by
  have hrules : (exec Tables.write s done).rules = s.rules := by
    refine rules_alone (fun w hw => ?_) s
    obtain ⟨_, _, rfl, -⟩ := (mem_publish hph).mp (hsub w hw)
    rfl
  rcases policy_written n done s with ⟨hnone, hsame⟩ | ⟨p, hp, hl⟩ | ⟨hdel, -⟩
  · exact .inr ⟨hnone, hsame, hs.congr hsame hrules⟩
  · obtain ⟨_, _, heq, hnew, -⟩ := (mem_publish hph).mp (hsub _ hp)
    cases heq
    obtain ⟨b, hb, rfl, rfl⟩ := (policies_iff hd).mp hnew
    refine .inl ⟨b, hb, rfl, hl, ?_⟩
    unfold RowsOf
    rw [hrules]
    exact hs.staged b hb rfl
  · obtain ⟨_, _, heq, -⟩ := (mem_publish hph).mp (hsub _ hdel)
    nomatch heq

theorem publish_done (hd : preflight desired primary = .ok d) (hs : Ready t desired known n s)
    (h : anyOrder (publish d) s ws) :
    (∃ b ∈ desired, b.net = n ∧ NewView b (exec Tables.write s ws)) ∨
      ((∀ b ∈ desired, b.net ≠ n) ∧ Ready t desired known n (exec Tables.write s ws)) := by
  obtain ⟨ws₀, hph, hperm⟩ := h
  rcases publish_point hd hs hph fun w hw => hperm.mem_iff.mp hw with hnew | ⟨hnone, hsame, hready⟩
  · exact .inl hnew
  by_cases hex : ∃ b ∈ desired, b.net = n
  · obtain ⟨b, hb, rfl⟩ := hex
    refine .inl ⟨b, hb, rfl, ?_, hready.staged b hb rfl⟩
    -- not written: the entry was there already
    by_contra hno
    have hp := (policies_iff hd).mpr ⟨b, hb, rfl, rfl⟩
    have hwrite : .putPolicy b.net (policyOf b) ∈ ws := hperm.mem_iff.mpr
      ((mem_publish hph).mpr ⟨b.net, policyOf b, rfl, hp, fun hl => hno (hsame.trans hl)⟩)
    exact hnone _ hwrite rfl
  · exact .inr ⟨fun b hb hn => hex ⟨b, hb, hn⟩, hready⟩

theorem retire_point (hd : preflight desired primary = .ok d) (hph : retire d known s = .ok ws₀)
    (hsub : ∀ w ∈ done, w ∈ ws₀) :
    (exec Tables.write s done).rules = s.rules ∧
      (((exec Tables.write s done).policy.lookup n = none ∧ n ∈ known ∧
          ∀ b ∈ desired, b.net ≠ n) ∨
        ((∀ w ∈ done, w.net? ≠ some n) ∧
          (exec Tables.write s done).policy.lookup n = s.policy.lookup n)) := by
  constructor
  · refine rules_alone (fun w hw => ?_) s
    obtain ⟨_, rfl, -⟩ := (mem_retire hph).mp (hsub w hw)
    rfl
  · rcases policy_written n done s with hsame | ⟨p, hp, -⟩ | ⟨hdel, hl⟩
    · exact .inr hsame
    · obtain ⟨_, heq, -⟩ := (mem_retire hph).mp (hsub _ hp)
      nomatch heq
    · obtain ⟨_, heq, -, hknown, hno⟩ := (mem_retire hph).mp (hsub _ hdel)
      cases heq
      exact .inl ⟨hl, hknown, fun b hb hn => hno ((mem_policies_iff hd).mpr ⟨b, hb, hn⟩)⟩

/-- After retiring, a network without boundary is closed. -/
def Settled (t : Tables) (desired : List Boundary) (known : List U32) (n : U32) (s : Tables) : Prop :=
  (∃ b ∈ desired, b.net = n ∧ NewView b s) ∨
    ((∀ b ∈ desired, b.net ≠ n) ∧ (ClosedView s n ∨
      (s.policy.lookup n = none ∧ (t.policy.lookup n = none ∨ n ∈ known))))

theorem Settled.view (h : Settled t desired known n s) :
    AllOrClosed t desired known n s := by
  rcases h with hnew | ⟨hno, hclosed | ⟨hnone, hold | hknown⟩⟩
  · exact .inr (.inl hnew)
  · exact .inr (.inr (.inl hclosed))
  · refine .inl ⟨hnone.trans hold.symm, fun p hp => ?_⟩
    rw [hold] at hp
    nomatch hp
  · exact .inr (.inr (.inr ⟨hnone, hknown, hno⟩))

theorem retire_done (hd : preflight desired primary = .ok d)
    (hs : (∃ b ∈ desired, b.net = n ∧ NewView b s) ∨
      ((∀ b ∈ desired, b.net ≠ n) ∧ Ready t desired known n s)) (h : anyOrder (retire d known) s ws) :
    Settled t desired known n (exec Tables.write s ws) := by
  obtain ⟨ws₀, hph, hperm⟩ := h
  obtain ⟨hrules, hview⟩ := retire_point (n := n) hd hph fun w hw => hperm.mem_iff.mp hw
  rcases hs with ⟨b, hb, hn, hl, hrows⟩ | ⟨hno, hready⟩
  · rcases hview with ⟨-, -, hno⟩ | ⟨-, hsame⟩
    · exact absurd hn (hno b hb)
    subst hn
    refine .inl ⟨b, hb, rfl, hsame.trans hl, ?_⟩
    unfold RowsOf
    rw [hrules]
    exact hrows
  · refine .inr ⟨hno, ?_⟩
    rcases hview with ⟨hl, hknown, -⟩ | ⟨hnone, hsame⟩
    · exact .inr ⟨hl, .inr hknown⟩
    have hready' := hready.congr hsame hrules
    by_cases hknown : n ∈ known
    · -- not deleted: there was no entry
      refine .inr ⟨?_, .inr hknown⟩
      rw [hsame]
      by_contra hentry
      have hmem : n ∈ s.policy := by
        by_contra hnot
        exact hentry (AList.lookup_eq_none.mpr hnot)
      have hwrite : .delPolicy n ∈ ws := hperm.mem_iff.mpr ((mem_retire hph).mpr
        ⟨n, rfl, hmem, hknown, fun hp => by
          obtain ⟨b, hb, hn⟩ := (mem_policies_iff hd).mp hp
          exact hno b hb hn⟩)
      exact hnone _ hwrite rfl
    · rcases hready'.forgotten hknown with hclosed | hl
      · exact .inl hclosed
      rcases hready'.waiting with hclosed | ⟨hold, -⟩
      · exact .inl hclosed
      · exact .inr ⟨hl, .inl (hold.symm.trans hl)⟩

theorem pruneRules_point (hd : preflight desired primary = .ok d) (hs : Settled t desired known n s)
    (hph : pruneRules d s = .ok ws₀) (hsub : ∀ w ∈ done, w ∈ ws₀) :
    Settled t desired known n (exec Tables.write s done) := by
  have hpolicy : (exec Tables.write s done).policy = s.policy :=
    foldl_policy (fun w hin => policy_alone d primary (.inr (.inr (.inr rfl))) s ws₀ hph w
      (hsub w hin)) s
  rcases hs with ⟨b, hb, rfl, hl, hrows⟩ | ⟨hno, hrest⟩
  · refine .inl ⟨b, hb, rfl, hpolicy ▸ hl, fun k hkn hkr => ?_⟩
    have hof : k ∈ d.rules ↔ Boundary.rows b k := rules_of hd hb hkn
    rcases rules_point hsub (fun w => (mem_syncMap hph).mp) k with
      ⟨-, hsame⟩ | ⟨hin, hmem⟩ | ⟨hout, hnot⟩
    · exact hsame.trans (hrows k hkn hkr)
    · exact iff_of_true hin (hof.mp hmem)
    · exact iff_of_false hout fun hr => hnot (hof.mpr hr)
  · refine .inr ⟨hno, ?_⟩
    unfold ClosedView
    rw [hpolicy]
    exact hrest

variable {ph : CozyBoundarySync.Phase}

theorem address_point (hph : ph = syncPrimary primary ∨ ph = syncCidrs d)
    (hs : Ready t desired known n s) (h : ph s = .ok ws₀) (hsub : ∀ w ∈ done, w ∈ ws₀) :
    Ready t desired known n (exec Tables.write s done) := by
  have hpolicy : (exec Tables.write s done).policy = s.policy := by
    refine foldl_policy (fun w hin => ?_) s
    exact policy_alone d primary (hph.elim (.inr ∘ .inl) (.inr ∘ .inr ∘ .inl)) s ws₀ h w (hsub w hin)
  refine hs.congr (by rw [hpolicy]) (rules_alone (fun w hin => ?_) s)
  rcases hph with rfl | rfl
  · rcases (mem_syncMap h).mp (hsub w hin) with ⟨k, rfl, -⟩ | ⟨k, v, rfl, -⟩
    · rfl
    · rfl
  · rcases (mem_syncMap h).mp (hsub w hin) with ⟨k, rfl, -⟩ | ⟨k, v, rfl, -⟩
    · rfl
    · rfl

theorem waiting_view (hrules : s.rules = t.rules) (hw : Waiting t desired n s) :
    AllOrClosed t desired known n s := by
  refine hw.view fun p _ _ k _ _ => ?_
  rw [hrules]

theorem Ready.view (hs : Ready t desired known n s) :
    AllOrClosed t desired known n s := hs.waiting.view hs.rows

/-- The network has its new boundary, or none is coming. -/
def Published (t : Tables) (desired : List Boundary) (known : List U32) (n : U32) (s : Tables) :
    Prop :=
  (∃ b ∈ desired, b.net = n ∧ NewView b s) ∨
    ((∀ b ∈ desired, b.net ≠ n) ∧ Ready t desired known n s)

theorem Published.view (hs : Published t desired known n s) :
    AllOrClosed t desired known n s := by
  rcases hs with hnew | ⟨-, hready⟩
  · exact .inr (.inl hnew)
  · exact hready.view

variable {rest : List (Phased.Phase Tables Write)}

theorem outline_phase {view pre post : Tables → Prop} (hpre : ∀ s, pre s → view s)
    (hpoint : ∀ s ws₀ done, pre s → ph s = .ok ws₀ → (∀ w ∈ done, w ∈ ws₀) → view (exec Tables.write s done))
    (hdone : ∀ s ws, pre s → anyOrder ph s ws → post (exec Tables.write s ws))
    (hrest : Outline Tables.write view post rest) : Outline Tables.write view pre (anyOrder ph :: rest) := by
  refine .cons hpre (fun s ws done hs h hsub => ?_) hdone hrest
  obtain ⟨ws₀, hph, hperm⟩ := h
  exact hpoint s ws₀ done hs hph fun w hw => hperm.mem_iff.mp (hsub.subset hw)

/-- A phase with one assertion at all of its points. -/
theorem outline_step {view pre post : Tables → Prop} (hpre : ∀ s, pre s → view s)
    (hpost : ∀ s, post s → view s)
    (hpoint : ∀ s ws₀ done, pre s → ph s = .ok ws₀ → (∀ w ∈ done, w ∈ ws₀) →
      post (exec Tables.write s done)) (hrest : Outline Tables.write view post rest) :
    Outline Tables.write view pre (anyOrder ph :: rest) := by
  refine outline_phase hpre (fun s ws₀ done hs hph hsub => hpost _ (hpoint s ws₀ done hs hph hsub))
    (fun s ws hs h => ?_) hrest
  obtain ⟨ws₀, hph, hperm⟩ := h
  exact hpoint s ws₀ ws hs hph fun w hw => hperm.mem_iff.mp hw

theorem retire_outline (hd : preflight desired primary = .ok d) (n : U32) :
    Outline Tables.write (AllOrClosed t desired known n) (Published t desired known n)
      [anyOrder (retire d known), anyOrder (pruneRules d)] := by
  have hprune : Outline Tables.write (AllOrClosed t desired known n) (Settled t desired known n)
      [anyOrder (pruneRules d)] :=
    outline_step (fun s hs => hs.view) (fun s hs => hs.view)
      (fun s ws₀ done hs hph hsub => pruneRules_point hd hs hph hsub) (.nil fun s hs => hs.view)
  refine outline_phase (fun s hs => hs.view) (fun s ws₀ done hs hph hsub => ?_)
    (fun s ws hs h => retire_done hd hs h) hprune
  obtain ⟨hrules, hgone | ⟨-, hsame⟩⟩ := retire_point (n := n) hd hph hsub
  · exact .inr (.inr (.inr hgone))
  · rcases hs with ⟨b, hb, rfl, hl, hrows⟩ | ⟨-, hready⟩
    · refine .inr (.inl ⟨b, hb, rfl, hsame.trans hl, ?_⟩)
      unfold RowsOf
      rw [hrules]
      exact hrows
    · exact (hready.congr hsame hrules).view

theorem publish_outline (hd : preflight desired primary = .ok d) (n : U32) :
    Outline Tables.write (AllOrClosed t desired known n) (Ready t desired known n)
      [anyOrder (syncPrimary primary), anyOrder (syncCidrs d), anyOrder (publish d),
        anyOrder (retire d known), anyOrder (pruneRules d)] := by
  have hpublish : Outline Tables.write (AllOrClosed t desired known n) (Ready t desired known n)
      [anyOrder (publish d), anyOrder (retire d known), anyOrder (pruneRules d)] := by
    refine outline_phase (fun s hs => hs.view) (fun s ws₀ done hs hph hsub => ?_)
      (fun s ws hs h => publish_done hd hs h) (retire_outline hd n)
    rcases publish_point hd hs hph hsub with hnew | ⟨-, -, hready⟩
    · exact .inr (.inl hnew)
    · exact hready.view
  have haddress : ∀ {ph : CozyBoundarySync.Phase} {rest : List (Phased.Phase Tables Write)},
      ph = syncPrimary primary ∨ ph = syncCidrs d →
      Outline Tables.write (AllOrClosed t desired known n) (Ready t desired known n) rest →
      Outline Tables.write (AllOrClosed t desired known n) (Ready t desired known n)
        (anyOrder ph :: rest) := fun hph =>
    outline_step (fun s hs => hs.view) (fun s hs => hs.view)
      fun s ws₀ done hs hok hsub => address_point hph hs hok hsub
  exact haddress (.inl rfl) (haddress (.inr rfl) hpublish)

theorem boundary_outline (hd : preflight desired primary = .ok d) (hsteady : Steady t desired)
    (n : U32) :
    Outline Tables.write (AllOrClosed t desired known n) (fun s => s = t)
      (boundaryPhases d known primary) := by
  have hstage : Outline Tables.write (AllOrClosed t desired known n)
      (fun s => s.rules = t.rules ∧ Waiting t desired n s ∧ Forgotten known n s)
      [anyOrder (stageRules d), anyOrder (syncPrimary primary), anyOrder (syncCidrs d),
        anyOrder (publish d), anyOrder (retire d known), anyOrder (pruneRules d)] := by
    refine outline_phase (fun s hs => waiting_view hs.1 hs.2.1) (fun s ws₀ done hs hph hsub => ?_)
      (fun s ws hs h => ?_) (publish_outline hd n)
    · obtain ⟨hpolicy, hrows⟩ := stageRules_point hd hsteady hs.1 hs.2.1 hph hsub
      exact (hs.2.1.congr (by rw [hpolicy])).view hrows
    · obtain ⟨ws₀, hph, hperm⟩ := id h
      obtain ⟨hpolicy, hrows⟩ := stageRules_point hd hsteady hs.1 hs.2.1 hph fun w hw => hperm.mem_iff.mp hw
      refine ⟨hs.2.1.congr (by rw [hpolicy]), ?_, hrows, stageRules_done hd hsteady hs.1 hs.2.1 h⟩
      unfold Forgotten ClosedView
      rw [hpolicy]
      exact hs.2.2
  have hunknown : Outline Tables.write (AllOrClosed t desired known n)
      (fun s => s.rules = t.rules ∧ Waiting t desired n s)
      (anyOrder (closeUnknown known) :: [anyOrder (stageRules d), anyOrder (syncPrimary primary),
        anyOrder (syncCidrs d), anyOrder (publish d), anyOrder (retire d known),
        anyOrder (pruneRules d)]) := by
    refine outline_phase (fun s hs => waiting_view hs.1 hs.2) (fun s ws₀ done hs hph hsub => ?_)
      (fun s ws hs h => ?_) hstage
    · obtain ⟨hrules, hw⟩ := closeUnknown_point hs.2 hph hsub
      exact waiting_view (hrules.trans hs.1) hw
    · obtain ⟨ws₀, hph, hperm⟩ := id h
      obtain ⟨hrules, hw⟩ := closeUnknown_point hs.2 hph fun w hw => hperm.mem_iff.mp hw
      exact ⟨hrules.trans hs.1, hw, closeUnknown_done h⟩
  have hsame : ∀ s, s = t → AllOrClosed t desired known n s := by
    rintro s rfl
    exact .inl ⟨rfl, fun _ _ _ _ _ => Iff.rfl⟩
  refine outline_phase hsame (fun s ws₀ done hs hph hsub => ?_) (fun s ws hs h => ?_) hunknown
  · subst hs
    obtain ⟨hrules, hclosed | ⟨-, hl⟩⟩ := closing_point (n := n) fun w hw =>
      closeChanged_closes hph w (hsub w hw)
    · exact .inr (.inr (.inl hclosed))
    · refine .inl ⟨hl, fun p _ k _ _ => ?_⟩
      rw [hrules]
  · subst hs
    exact closeChanged_done hd h

end Call

section Publication

variable {t : Tables} {desired : List Boundary} {known : List U32} {primary : List PrimaryPort}

theorem call_allOrClosed (hsteady : Steady t desired)
    (h : Stops Tables.write (boundaryCall desired known primary) t ws) (n : U32) :
    AllOrClosed t desired known n (exec Tables.write t ws) := by
  unfold boundaryCall at h
  split at h
  · rw [Phased.stops_nil.mp h]
    exact .inl ⟨rfl, fun _ _ _ _ _ => Iff.rfl⟩
  rename_i hd
  exact (boundary_outline hd hsteady n).stops h rfl

/-- The tables after some calls, each stopped anywhere, and the boundaries they were given. -/
inductive Run : List Boundary → Tables → Prop where
  | start : Run [] firstTables
  | call {past : List Boundary} {t : Tables} {desired : List Boundary} {known : List U32}
      {primary : List PrimaryPort} {ws : List Write} :
      Run past t → Stops Tables.write (boundaryCall desired known primary) t ws →
      Run (past ++ desired) (exec Tables.write t ws)

/-- Identity and revision of a network's boundary determine its rules. -/
def SameRules (bs : List Boundary) : Prop :=
  ∀ b ∈ bs, ∀ b' ∈ bs, b.net = b'.net → b.identity = b'.identity → b.revision = b'.revision →
    ∀ k, Boundary.rows b k ↔ Boundary.rows b' k

/-- Every live entry shows a boundary of some call, whole. -/
def Backed (past : List Boundary) (t : Tables) : Prop :=
  ∀ n p, t.policy.lookup n = some p → p.revision ≠ 0#64 → ∃ b ∈ past, b.net = n ∧ NewView b t

theorem Backed.steady (hback : Backed past t) (hsame : SameRules (past ++ desired)) :
    Steady t desired := by
  intro b hb p hp hlive hid hrev
  obtain ⟨b', hb', hn, hl, hrows⟩ := hback b.net p hp hlive
  rw [hn, hp] at hl
  cases hl
  intro k hkn hkr
  have hshown : k ∈ t.rules ↔ Boundary.rows b' k :=
    hrows k (hkn.trans hn.symm) (hkr.trans hrev.symm)
  exact hshown.trans (hsame b' (List.mem_append_left _ hb') b (List.mem_append_right _ hb)
    hn hid hrev k)

theorem Backed.step (hback : Backed past t) (hview : ∀ n, AllOrClosed t desired known n s) :
    Backed (past ++ desired) s := by
  intro n p hp hlive
  rcases hview n with ⟨hold, hrows⟩ | ⟨b, hb, hn, hnew⟩ | ⟨q, hq, hzero⟩ | ⟨hnone, -⟩
  · have hpt : t.policy.lookup n = some p := hold ▸ hp
    obtain ⟨b, hb, rfl, hl, hrowst⟩ := hback n p hpt hlive
    refine ⟨b, List.mem_append_left _ hb, rfl, hold.trans hl, fun k hkn hkr => ?_⟩
    exact (hrows (policyOf b) hl k hkn hkr).trans (hrowst k hkn hkr)
  · exact ⟨b, List.mem_append_right _ hb, hn, hnew⟩
  · rw [hp] at hq
    cases hq
    exact absurd hzero hlive
  · rw [hp] at hnone
    nomatch hnone

theorem SameRules.mono {bs bs' : List Boundary} (h : SameRules bs') (hsub : ∀ b ∈ bs, b ∈ bs') :
    SameRules bs := by
  intro b hb b' hb'
  exact h b (hsub b hb) b' (hsub b' hb')

theorem Run.backed (hrun : Run past t) (hsame : SameRules past) :
    Backed past t := by
  induction hrun with
  | start =>
    intro n p hp
    nomatch hp
  | call _ hstops ih =>
    have hback := ih (hsame.mono fun b => List.mem_append_left _)
    exact hback.step fun n => call_allOrClosed (hback.steady hsame) hstops n

end Publication

/-- **PUBLICATION IS ALL OR CLOSED.** At every point of every call each network has its old rules,
    all its new ones, or is closed, as long as identity and revision of a boundary determine its
    rules. -/
theorem publication_allOrClosed {past : List Boundary} {t : Tables} (hrun : Run past t)
    (desired : List Boundary) (known : List U32) (primary : List PrimaryPort)
    (hsame : SameRules (past ++ desired)) {ws : List Write}
    (h : Stops Tables.write (boundaryCall desired known primary) t ws) (n : U32) :
    AllOrClosed t desired known n (exec Tables.write t ws) := by
  have hback := hrun.backed (hsame.mono fun b => List.mem_append_left _)
  exact call_allOrClosed (hback.steady hsame) h n

-- ── an update that fails

section Update

variable {t : Tables} {desired : List Boundary} {known : List U32} {primary : List PrimaryPort}
variable {d : Desired} {p : BoundaryPolicy}

/-- The write misses the network's entry and its rows. -/
def Spares (n : U32) (revision : U64) (w : Write) : Prop :=
  w.net? ≠ some n ∧ ∀ k, w.rule? = some k → k.net = n → k.revision ≠ revision

theorem OldView.spared (h : OldView t s n) (hp : t.policy.lookup n = some p)
    (hw : ∀ w ∈ done, Spares n p.revision w) : OldView t (exec Tables.write s done) n := by
  constructor
  · rcases policy_written n done s with ⟨-, hsame⟩ | ⟨q, hq, -⟩ | ⟨hdel, -⟩
    · exact hsame.trans h.1
    · exact absurd rfl (hw _ hq).1
    · exact absurd rfl (hw _ hdel).1
  · intro q hq k hkn hkr
    cases hp.symm.trans hq
    rcases rule_written k done s with ⟨-, hsame⟩ | ⟨v, hv, -⟩ | ⟨hdel, -⟩
    · exact hsame.trans (h.2 p hp k hkn hkr)
    · exact absurd hkr ((hw _ hv).2 k rfl hkn)
    · exact absurd hkr ((hw _ hdel).2 k rfl hkn)

/-- Before the publication, a revision is written beside the one of the same identity. -/
theorem staging_spares (hd : preflight desired primary = .ok d) (hb : b ∈ desired)
    (hp : s.policy.lookup b.net = some p) (hrev : p.revision ≠ b.revision)
    (hid : p.identity = b.identity) (hknown : b.net ∈ known)
    (hph : ph ∈ [closeChanged d, closeUnknown known, stageRules d, syncPrimary primary, syncCidrs d])
    (h : ph s = .ok ws) : ∀ w ∈ ws, Spares b.net p.revision w := by
  intro w hw
  simp only [List.mem_cons, List.not_mem_nil, or_false] at hph
  rcases hph with rfl | rfl | rfl | rfl | rfl
  · obtain ⟨n, q, hq, rfl, hchanged⟩ := (mem_closeChanged h).mp hw
    refine ⟨fun hn => ?_, by rintro _ ⟨⟩⟩
    cases hn
    rw [(policies_iff hd).mpr ⟨b, hb, rfl, rfl⟩] at hq
    cases hq
    exact hchanged p hp hid
  · obtain ⟨n, q, -, ⟨hgone, -⟩, rfl⟩ := (mem_closeUnknown h).mp hw
    refine ⟨fun hn => hgone ?_, by rintro _ ⟨⟩⟩
    rwa [Option.some.inj hn]
  · rcases (mem_stageRules h).mp hw with ⟨k, rfl, -, hdead, -⟩ | ⟨k, v, rfl, hv, -⟩
    · refine ⟨by rintro ⟨⟩, fun j hj hkn hkr => ?_⟩
      cases hj
      unfold liveRule at hdead
      rw [hkn, hp] at hdead
      exact absurd hkr.symm (by simpa using hdead)
    · refine ⟨by rintro ⟨⟩, fun j hj hkn hkr => ?_⟩
      cases hj
      obtain ⟨r, -, rfl⟩ := (rules_of hd hb hkn).mp (mem_iff_lookup.mpr ⟨v, hv⟩)
      exact hrev hkr.symm
  · rcases (mem_syncMap h).mp hw with ⟨k, rfl, -⟩ | ⟨k, v, rfl, -⟩ <;>
      exact ⟨by rintro ⟨⟩, by rintro _ ⟨⟩⟩
  · rcases (mem_syncMap h).mp hw with ⟨k, rfl, -⟩ | ⟨k, v, rfl, -⟩ <;>
      exact ⟨by rintro ⟨⟩, by rintro _ ⟨⟩⟩

theorem publish_entry (hnew : d.policies.lookup n = some p) (hph : publish d s = .ok ws₀)
    (hsub : ∀ w ∈ done, w ∈ ws₀) : (∀ q, ∀ w ∈ done, Spares n q w) ∨
      (exec Tables.write s done).policy.lookup n = some p := by
  rcases policy_written n done s with ⟨hnone, -⟩ | ⟨q, hq, hl⟩ | ⟨hdel, -⟩
  · refine .inl fun q w hw => ⟨hnone w hw, ?_⟩
    obtain ⟨_, _, rfl, -⟩ := (mem_publish hph).mp (hsub w hw)
    exact nofun
  · obtain ⟨_, _, heq, hq, -⟩ := (mem_publish hph).mp (hsub _ hq)
    cases heq
    exact .inr (hl.trans (hq.symm.trans hnew))
  · obtain ⟨_, _, heq, -⟩ := (mem_publish hph).mp (hsub _ hdel)
    nomatch heq

/-- The old revision is in force, or the new one is published. -/
def InForce (t : Tables) (b : Boundary) (s : Tables) : Prop :=
  OldView t s b.net ∨ s.policy.lookup b.net = some (policyOf b)

theorem update_outline (hd : preflight desired primary = .ok d) (hb : b ∈ desired)
    (hp : t.policy.lookup b.net = some p) (hrev : p.revision ≠ b.revision)
    (hid : p.identity = b.identity) (hknown : b.net ∈ known) :
    Outline Tables.write (InForce t b) (fun s => OldView t s b.net) (boundaryPhases d known primary) := by
  have hnew := (policies_iff hd).mpr ⟨b, hb, rfl, rfl⟩
  have hkeep : ∀ ph ∈ [closeChanged d, closeUnknown known, stageRules d, syncPrimary primary, syncCidrs d],
      ∀ {rest}, Outline Tables.write (InForce t b) (fun s => OldView t s b.net) rest →
        Outline Tables.write (InForce t b) (fun s => OldView t s b.net) (anyOrder ph :: rest) := by
    refine fun ph hph rest => outline_step (fun s => .inl) (fun s => .inl)
      fun s ws₀ done hs h hsub => hs.spared hp fun w hw => ?_
    exact staging_spares hd hb (hs.1.trans hp) hrev hid hknown hph h w (hsub w hw)
  have hend : Outline Tables.write (InForce t b) (fun s => s.policy.lookup b.net = some (policyOf b))
      [anyOrder (retire d known), anyOrder (pruneRules d)] := by
    refine outline_step (fun s => .inr) (fun s => .inr) (fun s ws₀ done hs hph hsub => ?_)
      (outline_step (fun s => .inr) (fun s => .inr) (fun s ws₀ done hs hph hsub => ?_)
        (.nil fun s => .inr))
    · rcases (retire_point (n := b.net) hd hph hsub).2 with ⟨-, -, hno⟩ | ⟨-, hsame⟩
      · exact absurd rfl (hno b hb)
      · exact hsame.trans hs
    · have hpolicy : (exec Tables.write s done).policy = s.policy :=
        foldl_policy (fun w hin => policy_alone d [] (.inr (.inr (.inr rfl))) s ws₀ hph w (hsub w hin)) s
      rw [hpolicy]
      exact hs
  refine hkeep _ (by simp) (hkeep _ (by simp) (hkeep _ (by simp) (hkeep _ (by simp) (hkeep _ (by simp)
    (outline_phase (fun s => .inl) (fun s ws₀ done hs hph hsub => ?_) (fun s ws hs h => ?_) hend)))))
  · exact (publish_entry hnew hph hsub).imp (fun hw => hs.spared hp (hw _)) id
  · obtain ⟨ws₀, hph, hperm⟩ := h
    rcases publish_entry hnew hph fun w hw => hperm.mem_iff.mp hw with hmiss | hset
    · -- the entry differs, so it is written
      have hwrite := (mem_publish hph).mpr ⟨b.net, policyOf b, rfl, hnew, fun hl =>
        hrev (congrArg _ (Option.some.inj (hp.symm.trans (hs.1.symm.trans hl))))⟩
      exact absurd rfl (hmiss 0#64 _ (hperm.mem_iff.mpr hwrite)).1
    · exact hset

/-- **AN UPDATE THAT FAILS** before its new entry leaves the previous revision in force EXACTLY WHEN
    nothing is written, or the content's identity is the old one. -/
theorem failed_update_iff (t : Tables) (desired : List Boundary) (known : List U32)
    (primary : List PrimaryPort) (b : Boundary) (hb : b ∈ desired) (p : BoundaryPolicy)
    (hp : t.policy.lookup b.net = some p) (hlive : p.revision ≠ 0#64) (hrev : p.revision ≠ b.revision) :
    (∀ ws, Stops Tables.write (boundaryCall desired known primary) t ws →
      .putPolicy b.net (policyOf b) ∉ ws → OldView t (exec Tables.write t ws) b.net) ↔
    ¬ Fits desired primary ∨ (p.identity = b.identity ∧ b.net ∈ known) := by
  unfold boundaryCall
  cases hd : preflight desired primary with
  | error e =>
    refine iff_of_true (fun ws h _ => ?_) (.inl fun hfits => ?_)
    · rw [Phased.stops_nil.mp h]
      exact ⟨rfl, fun _ _ _ _ _ => Iff.rfl⟩
    · nomatch hd.symm.trans ((preflight_ok_iff desired primary _).mpr ⟨hfits, rfl⟩)
  | ok d =>
    rw [or_iff_right (not_not.mpr ((preflight_ok_iff desired primary d).mp hd).1)]
    constructor
    · intro h
      obtain ⟨ws₁, h₁⟩ : ∃ ws, closeChanged d t = .ok ws := ⟨_, rfl⟩
      obtain ⟨ws₂, h₂⟩ : ∃ ws, closeUnknown known (exec Tables.write t ws₁) = .ok ws := ⟨_, rfl⟩
      -- Stopped after the first two phases, whose writes only close.
      have hview := h (ws₁ ++ ws₂)
        (.later ⟨ws₁, h₁, .refl _⟩ (.within ⟨ws₂, h₂, .refl _⟩ List.prefix_rfl)) fun hmem => by
          obtain ⟨_, _, heq, hzero⟩ := (List.mem_append.mp hmem).elim (closeChanged_closes h₁ _)
            (closeUnknown_closes h₂ _)
          cases heq
          exact revision_ne_zero hd hb hzero
      rw [Phased.exec_append] at hview
      have hentry := hview.1.trans hp
      have hopen : ¬ ClosedView (exec Tables.write (exec Tables.write t ws₁) ws₂) b.net := by
        rintro ⟨q, hq, hzero⟩
        cases hentry.symm.trans hq
        exact hlive hzero
      constructor
      · have hwait := (closeChanged_done (n := b.net) hd ⟨ws₁, h₁, .refl _⟩).2
        obtain ⟨q, hq, hid⟩ := ((closeUnknown_point hwait h₂ fun w => id).2.resolve_left hopen).2 b hb rfl
        cases hp.symm.trans hq
        exact hid
      · by_contra hno
        rcases closeUnknown_done ⟨ws₂, h₂, .refl _⟩ hno with hclosed | hnone
        · exact hopen hclosed
        · nomatch hnone.symm.trans hentry
    · rintro ⟨hid, hknown⟩ ws hstops hnot
      refine ((update_outline hd hb hp hrev hid hknown).stops hstops
        ⟨rfl, fun _ _ _ _ _ => Iff.rfl⟩).resolve_right fun hset => ?_
      rcases policy_written b.net ws t with ⟨-, hsame⟩ | ⟨q, hq, hl⟩ | ⟨-, hl⟩
      · exact hrev (congrArg _ (Option.some.inj (hp.symm.trans (hsame.symm.trans hset))))
      · cases hl.symm.trans hset
        exact hnot hq
      · nomatch hl.symm.trans hset

end Update

/-- Identities are told apart by their revision. -/
def revisionHash : Platform where
  parseCIDR _ := none
  parseIP _ := none
  parsePrefix _ := none
  policyHash _ _ bd := bd.revision

def guardedVPC (revision : U64) : VPC :=
  ⟨⟨"a", "a"⟩, "uid-a", [], some ⟨revision, false, [⟨⟨"b", "b"⟩, .ingress, .tcp, [443], none, none⟩]⟩,
    100⟩

def peerVPC (vni : Int) : VPC := ⟨⟨"b", "b"⟩, "uid-b", [], none, vni⟩

/-- The boundary of `guardedVPC`, with the peer under a VNI. -/
def boundaryTo (revision : U64) (peer : U32) : Boundary :=
  ⟨100#32, revision, revision, false, [], [⟨peer, true, 6#8, 443#16⟩]⟩

theorem compile_to_200 : compileBoundaries revisionHash [guardedVPC 1#64, peerVPC 200] [] =
    .ok ⟨[boundaryTo 1#64 200#32], [100#32, 200#32], []⟩ := rfl

theorem compile_to_300 : compileBoundaries revisionHash [guardedVPC 1#64, peerVPC 300] [] =
    .ok ⟨[boundaryTo 1#64 300#32], [100#32, 300#32], []⟩ := rfl

def rowTo (revision : U64) (peer : U32) : BoundaryRule := ⟨revision, 100#32, peer, 443#16, 6#8, true⟩

/-- What the first snapshot leaves. -/
def liveTables : Tables where
  policy := AList.insert 100#32 (policyOf (boundaryTo 1#64 200#32)) ∅
  rules := AList.insert (rowTo 1#64 200#32) 1#8 ∅
  primary := ∅
  cidrs := ∅

theorem liveTables_left : syncBoundaries firstTables [boundaryTo 1#64 200#32] [100#32, 200#32] [] =
    (liveTables, none) := rfl

theorem liveTables_run : Run [boundaryTo 1#64 200#32] liveTables := by
  obtain ⟨ws, hstops, hexec⟩ :=
    syncBoundaries_stops firstTables [boundaryTo 1#64 200#32] [100#32, 200#32] []
  have hlive : exec Tables.write firstTables ws = liveTables := by
    rw [hexec, liveTables_left]
  exact hlive ▸ Run.call .start hstops

theorem publication_newRevision :
    AllOrClosed liveTables [boundaryTo 2#64 300#32] [100#32, 300#32] 100#32
      (exec Tables.write liveTables [.putPolicy 100#32 (closed 2#64)]) := by
  refine publication_allOrClosed liveTables_run [boundaryTo 2#64 300#32] [100#32, 300#32] []
    ?_ ?_ 100#32
  · intro b hb b' hb' _ hid _ k
    rcases List.mem_pair.mp hb with rfl | rfl <;> rcases List.mem_pair.mp hb' with rfl | rfl
    · exact Iff.rfl
    · nomatch hid
    · nomatch hid
    · exact Iff.rfl
  · exact .within ⟨_, rfl, .refl _⟩ List.prefix_rfl

theorem failed_update_sameIdentity :
    liveTables.policy.lookup 100#32 = some (policyOf (boundaryTo 1#64 200#32)) ∧ ∀ ws, Stops Tables.write
      (boundaryCall [{ boundaryTo 2#64 200#32 with identity := 1#64 }] [100#32, 200#32] []) liveTables ws →
      .putPolicy 100#32 ⟨2#64, 1#64, false⟩ ∉ ws → OldView liveTables (exec Tables.write liveTables ws) 100#32 :=
  .intro rfl <| (failed_update_iff liveTables _ _ _ _ (List.mem_singleton_self _) (policyOf (boundaryTo 1#64 200#32)) rfl
    (by decide) (by decide)).mpr (.inr ⟨rfl, by decide⟩)

/-- **A FAILED UPDATE CLOSES THE VPC**: revision 2 has another identity, so the first write closes
    its entry; the second fails. -/
theorem failed_update_closes :
    Run [boundaryTo 1#64 200#32] liveTables ∧
    compileBoundaries revisionHash [guardedVPC 2#64, peerVPC 200] [] =
      .ok ⟨[boundaryTo 2#64 200#32], [100#32, 200#32], []⟩ ∧
    ∃ ws, Stops Tables.write (boundaryCall [boundaryTo 2#64 200#32] [100#32, 200#32] []) liveTables ws ∧
      .putPolicy 100#32 (policyOf (boundaryTo 2#64 200#32)) ∉ ws ∧
      ClosedView (exec Tables.write liveTables ws) 100#32 ∧
      ¬ OldView liveTables (exec Tables.write liveTables ws) 100#32 := by
  refine ⟨liveTables_run, rfl, [.putPolicy 100#32 (closed 2#64)], ?_, ?_, ⟨_, rfl, rfl⟩, ?_⟩
  · exact .within ⟨_, rfl, .refl _⟩ List.prefix_rfl
  · exact fun hmem => nomatch List.mem_singleton.mp hmem
  · exact fun hold => nomatch hold.1

/-- **A MIXTURE UNDER ONE LIVE REVISION.** The peer of a boundary is created again under another
    VNI: identity and revision stay, the rule does not, and both rows are live before the call ends.
    -/
theorem publication_mixes :
    Run [boundaryTo 1#64 200#32] liveTables ∧
    (compileBoundaries revisionHash [guardedVPC 1#64, peerVPC 200] [] =
      .ok ⟨[boundaryTo 1#64 200#32], [100#32, 200#32], []⟩ ∧
    syncBoundaries firstTables [boundaryTo 1#64 200#32] [100#32, 200#32] [] = (liveTables, none) ∧
    compileBoundaries revisionHash [guardedVPC 1#64, peerVPC 300] [] =
      .ok ⟨[boundaryTo 1#64 300#32], [100#32, 300#32], []⟩) ∧
    ∃ ws, Stops Tables.write (boundaryCall [boundaryTo 1#64 300#32] [100#32, 300#32] []) liveTables
        ws ∧
      (exec Tables.write liveTables ws).policy.lookup 100#32 = some ⟨1#64, 1#64, false⟩ ∧
      rowTo 1#64 200#32 ∈ (exec Tables.write liveTables ws).rules ∧
      rowTo 1#64 300#32 ∈ (exec Tables.write liveTables ws).rules ∧
      ¬ AllOrClosed liveTables [boundaryTo 1#64 300#32] [100#32, 300#32] 100#32
        (exec Tables.write liveTables ws) := by
  refine ⟨liveTables_run, ⟨compile_to_200, liveTables_left, compile_to_300⟩,
    [] ++ ([] ++ [.putRule (rowTo 1#64 300#32) 1#8]), ?_, rfl, ?_, ?_, ?_⟩
  · exact .later ⟨[], rfl, .refl _⟩ (.later ⟨[], rfl, .refl _⟩
      (.within ⟨_, rfl, .refl _⟩ List.prefix_rfl))
  · decide
  · decide
  · rintro (⟨-, hrows⟩ | ⟨b, hb, -, -, hrows⟩ | ⟨p, hp, hzero⟩ | ⟨hnone, -⟩)
    · have hrow := (hrows _ rfl (rowTo 1#64 300#32) rfl rfl).mp (by decide)
      exact absurd hrow (by decide)
    · obtain rfl := List.mem_singleton.mp hb
      obtain ⟨r, hr, hkey⟩ := (hrows (rowTo 1#64 200#32) rfl rfl).mp (by decide)
      obtain rfl := List.mem_singleton.mp hr
      nomatch hkey
    · obtain rfl : policyOf (boundaryTo 1#64 200#32) = p := Option.some.inj hp
      nomatch hzero
    · nomatch hnone

end CozyPublish
