import Mathlib

/-!
# Revisions — a key-value store that keeps its past

Every write gives the store a new revision and stamps the entry it writes with it. A reader may
read the content at any revision so far, so what it knows may be old. A writer can ask, in the
same transaction that writes, whether an entry has been touched since a revision.
-/

namespace Mvcc

open Function

variable {κ ν : Type} [DecidableEq κ]

/-- A value and the revision that wrote it. -/
structure Entry (ν : Type) where
  value : ν
  modRev : Nat
  deriving DecidableEq

/-- The latest revision, and the content at each one up to it. -/
structure Store (κ ν : Type) where
  rev : Nat
  hist : Nat → κ → Option (Entry ν)

namespace Store

def now (s : Store κ ν) : κ → Option (Entry ν) := s.hist s.rev

/-- Write `v` under `k`; `none` deletes. -/
def commit (s : Store κ ν) (k : κ) (v : Option ν) : Store κ ν :=
  ⟨s.rev + 1, update s.hist (s.rev + 1)
    (update s.now k (v.map fun v => ⟨v, s.rev + 1⟩))⟩

/-- No entry yet, at revision `r`. -/
def empty (r : Nat) : Store κ ν := ⟨r, fun _ _ => none⟩

variable (s : Store κ ν)

theorem commit_hist_old (k : κ) (v : Option ν) {r : Nat} (hr : r ≤ s.rev) :
    (s.commit k v).hist r = s.hist r :=
  update_of_ne (by omega) _ _

theorem commit_now (k : κ) (v : Option ν) :
    (s.commit k v).now = update s.now k (v.map fun v => ⟨v, s.rev + 1⟩) :=
  update_self (s.rev + 1) _ s.hist

theorem commit_now_self (k : κ) (v : Option ν) :
    (s.commit k v).now k = v.map fun v => ⟨v, s.rev + 1⟩ := by
  rw [commit_now, update_self]

theorem commit_now_ne {k j : κ} (v : Option ν) (h : j ≠ k) :
    (s.commit k v).now j = s.now j := by
  rw [commit_now, update_of_ne h]

theorem commit_now_some {s : Store κ ν} {k j : κ} {v : Option ν} {e : Entry ν}
    (h : (s.commit k v).now j = some e) :
    (j = k ∧ v = some e.value ∧ e.modRev = s.rev + 1) ∨ (j ≠ k ∧ s.now j = some e) := by
  by_cases hjk : j = k
  · subst hjk
    rw [commit_now_self] at h
    cases v with
    | none => nomatch h
    | some v =>
      cases h
      exact .inl ⟨rfl, rfl, rfl⟩
  · rw [commit_now_ne s v hjk] at h
    exact .inr ⟨hjk, h⟩

/-- An entry's stamp is not after the revision it is read at, and an entry that is there now has
    been there since its stamp. -/
structure Dated (s : Store κ ν) : Prop where
  stamped : ∀ r ≤ s.rev, ∀ k e, s.hist r k = some e → e.modRev ≤ r
  since : ∀ r ≤ s.rev, ∀ k e, s.now k = some e → e.modRev ≤ r → s.hist r k = some e

omit [DecidableEq κ] in
theorem dated_empty (r : Nat) : (empty r : Store κ ν).Dated :=
  ⟨fun _ _ _ _ => (nomatch ·), fun _ _ _ _ => (nomatch ·)⟩

theorem Dated.commit {s : Store κ ν} (h : s.Dated) (k : κ) (v : Option ν) :
    (s.commit k v).Dated := by
  constructor
  · intro r hr j e hj
    by_cases hlast : r = s.rev + 1
    · subst hlast
      rcases commit_now_some hj with ⟨_, _, hstamp⟩ | ⟨_, hold⟩
      · exact Nat.le_of_eq hstamp
      · exact Nat.le_succ_of_le (h.stamped s.rev (Nat.le_refl _) j e hold)
    · have hold : r ≤ s.rev := Nat.lt_succ_iff.mp (Nat.lt_of_le_of_ne hr hlast)
      rw [commit_hist_old s k v hold] at hj
      exact h.stamped r hold j e hj
  · intro r hr j e hj hstamp
    by_cases hlast : r = s.rev + 1
    · subst hlast
      exact hj
    · have hold : r ≤ s.rev := Nat.lt_succ_iff.mp (Nat.lt_of_le_of_ne hr hlast)
      rw [commit_hist_old s k v hold]
      rcases commit_now_some hj with ⟨_, _, hnow⟩ | ⟨_, hnow⟩
      · omega
      · exact h.since r hold j e hnow hstamp

/-- `s'` is the store at a later moment: its past has not changed. -/
def Extends (s s' : Store κ ν) : Prop := s.rev ≤ s'.rev ∧ ∀ r ≤ s.rev, s'.hist r = s.hist r

omit [DecidableEq κ] in
theorem Extends.refl : s.Extends s := ⟨Nat.le_refl _, fun _ _ => rfl⟩

omit [DecidableEq κ] in
theorem Extends.trans {s₁ s₂ s₃ : Store κ ν} (h : s₁.Extends s₂) (h' : s₂.Extends s₃) :
    s₁.Extends s₃ := by
  refine ⟨Nat.le_trans h.1 h'.1, fun r hr => ?_⟩
  rw [h'.2 r (Nat.le_trans hr h.1), h.2 r hr]

theorem extends_commit (k : κ) (v : Option ν) : s.Extends (s.commit k v) :=
  ⟨Nat.le_succ _, fun _ hr => commit_hist_old s k v hr⟩

end Store

end Mvcc
