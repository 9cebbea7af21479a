import Cozyplane.RouteCompileProofs

/-!
# Fair budgets — how the rows of the route table are divided

All namespaces share one table of 4096 rows. Those with routes are served in the order of their
demands, each with its part of what is left.
-/

namespace CozyRouteFair

open KernelMap FairShare CozyRouteCompile

instance (groups : KMap String RouteNamespace) : Std.Total (servedBefore groups) where
  total a b := by
    rcases Nat.lt_trichotomy (demandOf groups a) (demandOf groups b) with hlt | heq | hgt
    · exact .inl (.inl hlt)
    · rcases le_total a b with hle | hle
      · exact .inl (.inr ⟨heq, hle⟩)
      · exact .inr (.inr ⟨heq.symm, hle⟩)
    · exact .inr (.inl hgt)

instance (groups : KMap String RouteNamespace) : IsTrans String (servedBefore groups) where
  trans a b c := by
    rintro (hab | ⟨hab, hle⟩) (hbc | ⟨hbc, hle'⟩)
    · exact .inl (Nat.lt_trans hab hbc)
    · exact .inl (hbc ▸ hab)
    · exact .inl (hab ▸ hbc)
    · exact .inr ⟨hab.trans hbc, le_trans hle hle'⟩

theorem servedBefore_antisymm {groups : KMap String RouteNamespace} {a b : String}
    (hab : servedBefore groups a b) (hba : servedBefore groups b a) : a = b := by
  rcases hab with hlt | ⟨heq, hle⟩
  · rcases hba with hlt' | ⟨heq', -⟩
    · omega
    · omega
  · rcases hba with hlt' | ⟨-, hle'⟩
    · omega
    · exact le_antisymm hle hle'

def served (groups : KMap String RouteNamespace) : List String :=
  (claimants groups).insertionSort (servedBefore groups)

/-- `routeBudgets` for any capacity, as a list. -/
def budgetMap (groups : KMap String RouteNamespace) (capacity : Nat) : List (String × Nat) :=
  serve (demandOf groups) capacity (served groups)

section Budgets

variable {groups groups' : KMap String RouteNamespace}

theorem served_perm : (served groups).Perm (claimants groups) := List.perm_insertionSort _ _

theorem served_sorted : (served groups).Pairwise fun a b => demandOf groups a ≤ demandOf groups b := by
  refine (List.pairwise_insertionSort (servedBefore groups) _).imp ?_
  rintro a b (hlt | ⟨heq, -⟩)
  · exact Nat.le_of_lt hlt
  · exact Nat.le_of_eq heq

theorem served_same (hmem : ∀ n, n ∈ claimants groups ↔ n ∈ claimants groups')
    (hdemand : ∀ n ∈ claimants groups, demandOf groups n = demandOf groups' n) :
    served groups = served groups' := by
  have hperm : (claimants groups).Perm (claimants groups') :=
    (List.perm_ext_iff_of_nodup (groups.keys_nodup.filter _) (groups'.keys_nodup.filter _)).mpr hmem
  have hsorted : (served groups).Pairwise (servedBefore groups') := by
    refine (List.pairwise_insertionSort (servedBefore groups) _).imp_of_mem ?_
    intro a b ha hb hab
    unfold servedBefore at hab ⊢
    rwa [← hdemand a (served_perm.mem_iff.mp ha), ← hdemand b (served_perm.mem_iff.mp hb)]
  exact List.Perm.eq_of_pairwise (fun a b _ _ => servedBefore_antisymm) hsorted
    (List.pairwise_insertionSort (servedBefore groups') _)
    (served_perm.trans (hperm.trans served_perm.symm))

theorem budgetMap_same (hmem : ∀ n, n ∈ claimants groups ↔ n ∈ claimants groups')
    (hdemand : ∀ n ∈ claimants groups, demandOf groups n = demandOf groups' n) (capacity : Nat) :
    budgetMap groups capacity = budgetMap groups' capacity := by
  unfold budgetMap
  rw [← served_same hmem hdemand]
  exact serve_congr _ fun n hn => hdemand n (served_perm.mem_iff.mp hn)

/-- A max-min fair division: each claimant has one budget within its demand; nothing is left over
    while a demand is not met; and nobody is ahead of an unsatisfied one by more than one. -/
structure MaxMin (groups : KMap String RouteNamespace) (capacity : Nat) (budgets : List (String × Nat)) :
    Prop where
  names : (budgets.map Prod.fst).Perm (claimants groups)
  once : (budgets.map Prod.fst).Nodup
  demands : ∀ ns b, (ns, b) ∈ budgets → b ≤ demandOf groups ns
  total : (budgets.map Prod.snd).sum = min capacity ((claimants groups).map (demandOf groups)).sum
  part : ∀ ns b, (ns, b) ∈ budgets →
    min (demandOf groups ns) (capacity / (claimants groups).length) ≤ b
  gap : ∀ ns b ns' b', (ns, b) ∈ budgets → (ns', b') ∈ budgets → b' < demandOf groups ns' → b ≤ b' + 1

/-- **THE BUDGETS ARE MAX-MIN FAIR**, and a function of the groups alone, however their map is listed. -/
theorem budgets_maxMin (groups : KMap String RouteNamespace) (capacity : Nat) :
    MaxMin groups capacity (budgetMap groups capacity) ∧
    ∀ groups' : KMap String RouteNamespace, (∀ ns, groups'.lookup ns = groups.lookup ns) →
      budgetMap groups' capacity = budgetMap groups capacity := by
  have hnames : ((budgetMap groups capacity).map Prod.fst).Perm (claimants groups) := by
    unfold budgetMap
    rw [serve_fst]
    exact served_perm
  refine ⟨⟨hnames, hnames.nodup_iff.mpr (groups.keys_nodup.filter _), fun ns b h => serve_le _ h, ?_,
    fun ns b h => ?_, fun ns b ns' b' h h' hless => serve_gap _ served_sorted h h' hless⟩, ?_⟩
  · rw [← (served_perm.map (demandOf groups)).sum_eq]
    exact serve_sum _ served_sorted
  · rw [← served_perm.length_eq]
    exact serve_ge _ h
  · intro groups' hlookup
    have hkeys : ∀ n, n ∈ groups'.keys ↔ n ∈ groups.keys := by
      intro n
      rw [← AList.mem_keys, ← AList.mem_keys, ← AList.lookup_isSome, ← AList.lookup_isSome, hlookup]
    refine budgetMap_same (fun n => ?_) (fun n _ => ?_) capacity
    · unfold claimants
      rw [List.mem_filter, List.mem_filter, hkeys, hlookup]
    · unfold demandOf
      rw [hlookup]

end Budgets

end CozyRouteFair
