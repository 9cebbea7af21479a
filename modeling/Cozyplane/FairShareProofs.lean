import Mathlib

/-!
# Max-min fair shares — small demands first, each at most its share of the rest

A capacity is divided among claimants with demands. They are served by growing demand; each gets
its demand or an equal share of what is left, rounded up, whichever is less.
-/

namespace FairShare

variable {α : Type} (demand : α → Nat)

/-- An equal part of `cap` among `n`, rounded up. -/
def share (cap n : Nat) : Nat := if cap % n = 0 then cap / n else cap / n + 1

def serve : Nat → List α → List (α × Nat)
  | _, [] => []
  | cap, x :: xs =>
    let budget := min (demand x) (share cap (xs.length + 1))
    (x, budget) :: serve (cap - budget) xs

theorem share_ge (cap n : Nat) : cap / n ≤ share cap n := by
  unfold share
  by_cases h : cap % n = 0
  · rw [if_pos h]
  · rw [if_neg h]
    exact Nat.le_succ _

theorem share_le {cap n : Nat} (hn : 0 < n) : share cap n ≤ cap := by
  unfold share
  have hdiv := Nat.div_add_mod cap n
  have hmul : cap / n ≤ n * (cap / n) := Nat.le_mul_of_pos_left _ hn
  split
  · omega
  · omega

variable {ns xs : List α}

theorem serve_congr {demand : α → Nat} (demand' : α → Nat) {cap : Nat}
    (h : ∀ x ∈ xs, demand x = demand' x) : serve demand cap xs = serve demand' cap xs := by
  induction xs generalizing cap with
  | nil => rfl
  | cons x xs ih =>
    unfold serve
    dsimp only
    rw [h x (.head _), ih fun y hy => h y (List.mem_cons_of_mem x hy)]

theorem serve_fst (cap : Nat) (xs : List α) : (serve demand cap xs).map Prod.fst = xs := by
  induction xs generalizing cap with
  | nil => rfl
  | cons x xs ih =>
    show x :: (serve demand _ xs).map Prod.fst = x :: xs
    rw [ih]

theorem serve_total (cap : Nat) (xs : List α) :
    ((serve demand cap xs).map Prod.snd).sum ≤ cap := by
  induction xs generalizing cap with
  | nil => exact Nat.zero_le _
  | cons x xs ih =>
    have hshare : share cap (xs.length + 1) ≤ cap := share_le (Nat.succ_pos _)
    have hrest := ih (cap - min (demand x) (share cap (xs.length + 1)))
    show min (demand x) (share cap (xs.length + 1)) + ((serve demand _ xs).map Prod.snd).sum ≤ cap
    omega

variable {cap k n b c : Nat} {x y : α}

theorem le_share_mul (hn : 0 < n) : cap ≤ share cap n * n := by
  have hdiv := Nat.div_add_mod cap n
  have hmod := Nat.mod_lt cap hn
  unfold share
  rw [Nat.mul_comm] at hdiv
  split
  · omega
  · rw [Nat.succ_mul]
    omega

theorem share_le_of (hn : 0 < n) (h : cap ≤ k * n) : share cap n ≤ k := by
  have hdiv := Nat.div_add_mod cap n
  have hle : cap / n ≤ k := (Nat.div_le_iff_le_mul hn).mpr (by omega)
  unfold share
  split
  · exact hle
  refine Nat.lt_of_le_of_ne hle fun heq => ?_
  rw [heq, Nat.mul_comm] at hdiv
  omega

theorem floor_mono (hn : 0 < n) (hb : b ≤ share cap (n + 1)) : cap / (n + 1) ≤ (cap - b) / n := by
  have hdiv := Nat.div_add_mod cap (n + 1)
  refine (Nat.le_div_iff_mul_le hn).mpr ?_
  rw [Nat.succ_mul, Nat.mul_comm n] at hdiv
  unfold share at hb
  split at hb
  · omega
  · omega

theorem mem_of_served (h : (x, b) ∈ serve demand cap xs) : x ∈ xs :=
  serve_fst demand cap xs ▸ List.mem_map_of_mem h

theorem serve_le (h : (x, b) ∈ serve demand cap xs) : b ≤ demand x := by
  induction xs generalizing cap with
  | nil => nomatch h
  | cons y xs ih =>
    rcases List.mem_cons.mp h with heq | hrest
    · cases heq
      exact Nat.min_le_left _ _
    · exact ih hrest

/-- **AN EQUAL PART FOR EVERYONE**, rounded down, or the demand. Induction along the order of service. -/
theorem serve_ge (h : (x, b) ∈ serve demand cap xs) : min (demand x) (cap / xs.length) ≤ b := by
  induction xs generalizing cap with
  | nil => nomatch h
  | cons y xs ih =>
    rcases List.mem_cons.mp h with heq | hrest
    · cases heq
      exact min_le_min_left _ (share_ge _ _)
    · refine Nat.le_trans (min_le_min_left _ ?_) (ih hrest)
      exact floor_mono (List.length_pos_of_mem (mem_of_served demand hrest)) (Nat.min_le_right _ _)

/-- When nobody asks for less than `k`, and `k` for each is too much, the capacity is used up and
    nobody gets more than `k`. -/
theorem serve_full (hcap : cap ≤ k * xs.length) (hk : ∀ x ∈ xs, k ≤ demand x) :
    ((serve demand cap xs).map Prod.snd).sum = cap ∧ cap ≤ (xs.map demand).sum ∧
      ∀ e ∈ serve demand cap xs, e.2 ≤ k := by
  induction xs generalizing cap with
  | nil => exact ⟨(Nat.le_zero.mp hcap).symm, hcap, nofun⟩
  | cons y xs ih =>
    have hshare : share cap (xs.length + 1) ≤ k := share_le_of (Nat.succ_pos _) hcap
    have hmin : min (demand y) (share cap (xs.length + 1)) = share cap (xs.length + 1) :=
      Nat.min_eq_right (Nat.le_trans hshare (hk y (.head _)))
    have hall : cap ≤ share cap (xs.length + 1) * (xs.length + 1) := le_share_mul (Nat.succ_pos _)
    have hrest : cap - share cap (xs.length + 1) ≤ k * xs.length := by
      have hmul := Nat.mul_le_mul_right xs.length hshare
      rw [Nat.mul_succ] at hall
      omega
    obtain ⟨hsum, hle, hbound⟩ := ih hrest fun x hx => hk x (List.mem_cons_of_mem y hx)
    have hfits : share cap (xs.length + 1) ≤ cap := share_le (Nat.succ_pos _)
    unfold serve
    rw [hmin, List.map_cons, List.sum_cons, List.map_cons, List.sum_cons, hsum]
    refine ⟨by omega, ?_, List.forall_mem_cons.mpr ⟨hshare, hbound⟩⟩
    omega

/-- **THE CAPACITY IS USED UP OR EVERY DEMAND IS MET.** -/
theorem serve_sum (hsorted : xs.Pairwise fun x y => demand x ≤ demand y) :
    ((serve demand cap xs).map Prod.snd).sum = min cap (xs.map demand).sum := by
  induction xs generalizing cap with
  | nil => exact (Nat.min_zero cap).symm
  | cons y xs ih =>
    obtain ⟨hfirst, hsorted'⟩ := List.pairwise_cons.mp hsorted
    have hfits : share cap (xs.length + 1) ≤ cap := share_le (Nat.succ_pos _)
    unfold serve
    rw [List.map_cons, List.sum_cons, List.map_cons, List.sum_cons]
    rcases Nat.le_total (demand y) (share cap (xs.length + 1)) with hsmall | hlarge
    · rw [Nat.min_eq_left hsmall, ih hsorted']
      omega
    have hall : cap ≤ share cap (xs.length + 1) * (xs.length + 1) := le_share_mul (Nat.succ_pos _)
    rw [Nat.mul_succ] at hall
    have hrest : cap - share cap (xs.length + 1) ≤ share cap (xs.length + 1) * xs.length := by omega
    obtain ⟨hsum, hle, -⟩ := serve_full demand hrest fun x hx => Nat.le_trans hlarge (hfirst x hx)
    rw [Nat.min_eq_right hlarge, hsum]
    omega

/-- **NOBODY IS FAR AHEAD OF AN UNSATISFIED ONE**: by the rounding, at most. -/
theorem serve_gap (hsorted : xs.Pairwise fun x y => demand x ≤ demand y)
    (hx : (x, b) ∈ serve demand cap xs) (hy : (y, c) ∈ serve demand cap xs) (hless : c < demand y) :
    b ≤ c + 1 := by
  induction xs generalizing cap with
  | nil => nomatch hx
  | cons z xs ih =>
    obtain ⟨hfirst, hsorted'⟩ := List.pairwise_cons.mp hsorted
    rcases List.mem_cons.mp hx with heq | hx
    · cases heq
      rcases List.mem_cons.mp hy with heq | hy
      · cases heq
        exact Nat.le_succ _
      have hfloor := floor_mono (b := min (demand x) (share cap (xs.length + 1)))
        (List.length_pos_of_mem (mem_of_served demand hy)) (Nat.min_le_right _ _)
      have hge := serve_ge demand hy
      have hround : share cap (xs.length + 1) ≤ cap / (xs.length + 1) + 1 := by
        unfold share
        split
        · exact Nat.le_succ _
        · exact Nat.le_refl _
      omega
    · rcases List.mem_cons.mp hy with heq | hy
      · cases heq
        have hshare : min (demand y) (share cap (xs.length + 1)) = share cap (xs.length + 1) := by omega
        have hall : cap ≤ share cap (xs.length + 1) * (xs.length + 1) := le_share_mul (Nat.succ_pos _)
        rw [hshare] at hless hx ⊢
        rw [Nat.mul_succ] at hall
        exact Nat.le_succ_of_le ((serve_full demand (by omega) fun x hx =>
          Nat.le_trans (Nat.le_of_lt hless) (hfirst x hx)).2.2 _ hx)
      · exact ih hsorted' hx hy

end FairShare
