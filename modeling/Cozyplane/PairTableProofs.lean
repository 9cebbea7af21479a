import Mathlib

/-!
# Two tables that must agree — forward names and reverse originals

A translator keeps a forward table, from a flow's key to the name it was given, and a
reverse table, from what a reply carries (the name among it) to the flow's original. The two
are written together and lose entries independently, so a forward entry can outlive its
reverse entry, and the name can then be given away again.

Flows are arbitrary, and two of them may share a key.
-/

namespace PairTable

open Function

variable {φ κ γ ρ ν : Type}

/-- How a flow is filed, looked up again and restored. -/
structure Scheme (φ κ γ ρ ν : Type) where
  key : φ → κ
  back : φ → γ → ρ
  orig : φ → ν

/-- A forward and a reverse table. -/
structure Tables (κ γ ρ ν : Type) where
  fwd : κ → Option γ
  rev : ρ → Option ν

variable (S : Scheme φ κ γ ρ ν)

/-- A reply of `F` under the name `g` is restored to `F`'s own original or not at all. -/
def Restores (t : Tables κ γ ρ ν) (F : φ) (g : γ) : Prop :=
  t.rev (S.back F g) = none ∨ t.rev (S.back F g) = some (S.orig F)

/-- The tables agree about every flow seen. -/
def Agree (t : Tables κ γ ρ ν) (seen : List φ) : Prop :=
  ∀ F ∈ seen, ∀ g, t.fwd (S.key F) = some g → Restores S t F g

/-- No other key's entry leads where `F`'s reply under `g` will be looked up, unless both
    flows are restored alike. -/
def Apart (t : Tables κ γ ρ ν) (seen : List φ) (F : φ) (g : γ) : Prop :=
  ∀ F' ∈ seen, S.key F' ≠ S.key F → ∀ g', t.fwd (S.key F') = some g' →
    S.back F' g' = S.back F g → S.orig F' = S.orig F

/-- A flow that shares `F`'s key can take over the name `g`. -/
def Shares (t : Tables κ γ ρ ν) (seen : List φ) (F : φ) (g : γ) : Prop :=
  ∀ F' ∈ seen, S.key F' = S.key F →
    (S.back F' g = S.back F g → S.orig F' = S.orig F) ∧
      (S.back F' g ≠ S.back F g → Restores S t F' g)

variable {S} {t t' : Tables κ γ ρ ν} {seen : List φ} {F : φ} {g : γ}

theorem Agree.forget (h : Agree S t seen)
    (hfwd : ∀ k g, t'.fwd k = some g → t.fwd k = some g)
    (hrev : ∀ r v, t'.rev r = some v → t.rev r = some v) : Agree S t' seen := by
  intro F hF g hk
  have hres := h F hF g (hfwd _ g hk)
  cases hr : t'.rev (S.back F g) with
  | none => exact .inl hr
  | some v =>
    rcases hres with hnone | hsome
    · rw [hrev _ v hr] at hnone
      nomatch hnone
    · rw [hrev _ v hr] at hsome
      exact .inr (hr.trans hsome)

theorem of_erase {α β : Type} [DecidableEq α] {table : α → Option β} {k a : α} {b : β}
    (h : update table k none a = some b) : table a = some b := by
  by_cases ha : a = k
  · rw [ha, update_self] at h
    nomatch h
  · rwa [update_of_ne ha] at h

theorem agree_see_iff (h : Agree S t seen) :
    Agree S t (F :: seen) ↔ ∀ g, t.fwd (S.key F) = some g → Restores S t F g := by
  constructor
  · intro hafter
    exact hafter F List.mem_cons_self
  · intro hF F' hF'
    rcases List.mem_cons.mp hF' with rfl | hold
    · exact hF
    · exact h F' hold

section

variable [DecidableEq ρ]

/-- The reverse entry alone. -/
def Tables.reserve (S : Scheme φ κ γ ρ ν) (t : Tables κ γ ρ ν) (F : φ) (g : γ) :
    Tables κ γ ρ ν :=
  { t with rev := update t.rev (S.back F g) (some (S.orig F)) }

/-- After the reverse entry of `F` is written, another flow is restored as before, or found in the
    same place and restored alike. -/
theorem restores_reserve_iff {F' : φ} {g' : γ} :
    Restores S (t.reserve S F g) F' g' ↔
      (S.back F' g' = S.back F g → S.orig F' = S.orig F) ∧
        (S.back F' g' ≠ S.back F g → Restores S t F' g') := by
  unfold Restores Tables.reserve
  by_cases hb : S.back F' g' = S.back F g
  · simp only [hb, update_self, reduceCtorEq, false_or, Option.some.injEq, forall_const,
      ne_eq, not_true_eq_false, false_implies, and_true]
    exact eq_comm
  · simp only [hb, update_of_ne hb, false_implies, true_and, ne_eq, not_false_eq_true,
      forall_const]

/-- **A NAME SET ASIDE** for a flow without a forward entry. -/
theorem agree_reserve_iff (h : Agree S t seen) (hfree : t.fwd (S.key F) = none) :
    Agree S (t.reserve S F g) seen ↔ Apart S t seen F g := by
  constructor
  · intro hafter F' hF' _ g' hk
    exact (restores_reserve_iff.mp (hafter F' hF' g' hk)).1
  · intro hapart F' hF' g' hk
    have hk' : t.fwd (S.key F') = some g' := hk
    have hne : S.key F' ≠ S.key F := by
      intro heq
      rw [heq, hfree] at hk'
      nomatch hk'
    exact restores_reserve_iff.mpr ⟨hapart F' hF' hne g' hk', fun _ => h F' hF' g' hk'⟩

variable [DecidableEq κ]

/-- `F` is given the name `g`: both entries. -/
def Tables.assign (S : Scheme φ κ γ ρ ν) (t : Tables κ γ ρ ν) (F : φ) (g : γ) :
    Tables κ γ ρ ν :=
  { t.reserve S F g with fwd := update t.fwd (S.key F) (some g) }

theorem assign_fwd_self : (t.assign S F g).fwd (S.key F) = some g := update_self ..

theorem assign_fwd_ne {k : κ} (h : k ≠ S.key F) : (t.assign S F g).fwd k = t.fwd k :=
  update_of_ne h ..

theorem restores_assign_self : Restores S (t.assign S F g) F g := .inr (update_self ..)

/-- **GIVING A FLOW A NAME** keeps agreement exactly when no other key leads to the same place and
    the flows of the key can take it over. -/
theorem agree_assign_iff (h : Agree S t seen) :
    Agree S (t.assign S F g) (F :: seen) ↔ Apart S t seen F g ∧ Shares S t seen F g := by
  constructor
  · intro hafter
    refine ⟨fun F' hF' hne g' hk => ?_, fun F' hF' heq => ?_⟩
    · have hk' : (t.assign S F g).fwd (S.key F') = some g' := (assign_fwd_ne hne).trans hk
      exact (restores_reserve_iff.mp (hafter F' (List.mem_cons_of_mem F hF') g' hk')).1
    · have hk' : (t.assign S F g).fwd (S.key F') = some g := by
        rw [heq]
        exact assign_fwd_self
      exact restores_reserve_iff.mp (hafter F' (List.mem_cons_of_mem F hF') g hk')
  · rintro ⟨hapart, hshares⟩ F' hF' g' hk
    rcases List.mem_cons.mp hF' with rfl | hold
    · rw [assign_fwd_self] at hk
      cases hk
      exact restores_assign_self
    · by_cases heq : S.key F' = S.key F
      · rw [heq, assign_fwd_self] at hk
        cases hk
        exact restores_reserve_iff.mpr (hshares F' hold heq)
      · rw [assign_fwd_ne heq] at hk
        exact restores_reserve_iff.mpr ⟨hapart F' hold heq g' hk, fun _ => h F' hold g' hk⟩

end

end PairTable
