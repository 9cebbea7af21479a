import Cozyplane.KernelMapProofs
import Cozyplane.RunProofs

/-!
# Counter scopes — the counters live as long as their VPCs

The agent seeds a counter for each VPC, the datapath only ever adds to one that is there, and
`SyncVPCCounterScopes` deletes those of VPCs that are gone. A snapshot with the scopes of the last
one is not compared with the maps again, unless the deletions failed.
-/

namespace CozyCounters

open KernelMap Run

/-- `vpc_counters` and `sg_drops`. -/
inductive Table where
  | vpcCounters
  | sgDrops
  deriving DecidableEq

/-- A key of one of the two maps. -/
abbrev Cell := Table × BitVec 32

variable {ν : Type}

/-- `counterScopes`, `counterDirty`, and the two maps as one. -/
structure Manager (ν : Type) where
  scopes : Option (Finset (BitVec 32))
  dirty : Bool
  cells : KMap Cell ν

/-- The keys a sync deletes, `vpc_counters` first. -/
def staleCells (current : Finset (BitVec 32)) (cells : KMap Cell ν) : List Cell :=
  [Table.vpcCounters, .sgDrops].flatMap fun t =>
    cells.keys.filter fun k => k.1 = t ∧ k.2 ∉ current

/-- What fails: one of the scans, or the deletion after `n` others. -/
inductive Fault where
  | unavailable
  | enumerate (err : String)
  | incomplete
  | delete (n : Nat) (err : String)

def prune (cells : KMap Cell ν) (dels : List Cell) : KMap Cell ν := applyAll cells (dels.map .del)

/-- `SyncVPCCounterScopes`. -/
def Manager.sync (s : Manager ν) (scopes : List (BitVec 32)) (fault : Option Fault) :
    Manager ν × Option String :=
  if 65536 < scopes.length then (s, some "VPC counter snapshot exceeds scope budget")
  else if scopes.any fun k => k == 0#32 || decide (2 ^ 22 ≤ k.toNat) then
    (s, some "invalid VPC counter scope")
  else if s.scopes = some scopes.toFinset ∧ s.dirty = false then (s, none)
  else
    let dels := staleCells scopes.toFinset s.cells
    match fault with
    | some .unavailable => (s, some "VPC counter map unavailable")
    | some (.enumerate err) => (s, some ("enumerate VPC counter scopes: " ++ err))
    | some .incomplete => (s, some "VPC counter scope enumeration incomplete")
    | some (.delete n err) =>
      if n < dels.length then
        (⟨some scopes.toFinset, true, prune s.cells (dels.take n)⟩,
          some ("retire VPC counter scope: " ++ err))
      else (⟨some scopes.toFinset, false, prune s.cells dels⟩, none)
    | none => (⟨some scopes.toFinset, false, prune s.cells dels⟩, none)

/-- `EnsureVPCCounter` and `EnsureSGDrop`; one that fails changes nothing. -/
def Manager.ensure (s : Manager ν) (t : Table) (net : BitVec 32) (zero : ν) : Manager ν :=
  if net = 0#32 ∨ (∃ c, s.scopes = some c ∧ net ∉ c) ∨ (t, net) ∈ s.cells then s
  else { s with cells := s.cells.insert (t, net) zero }

/-- The datapath changes the value of a counter that is there. -/
def Manager.count (s : Manager ν) (k : Cell) (v : ν) : Manager ν :=
  if k ∈ s.cells then { s with cells := s.cells.insert k v } else s

/-- A sync, a seed, or traffic. -/
inductive Event (ν : Type) where
  | sync (scopes : List (BitVec 32)) (fault : Option Fault)
  | ensure (t : Table) (net : BitVec 32) (zero : ν)
  | count (k : Cell) (v : ν)

def Manager.step (s : Manager ν) : Event ν → Manager ν
  | .sync scopes fault => (s.sync scopes fault).1
  | .ensure t net zero => s.ensure t net zero
  | .count k v => s.count k v

/-- There is no snapshot yet; the pinned maps may hold anything. -/
def Fresh (s : Manager ν) : Prop := s.scopes = none

/-- Behind a clean snapshot there are no counters of other scopes. -/
def Inv (s : Manager ν) : Prop :=
  ∀ c, s.scopes = some c → s.dirty = false → ∀ k ∈ s.cells, k.2 ∈ c

theorem mem_staleCells {c : Finset (BitVec 32)} {cells : KMap Cell ν} {k : Cell} :
    k ∈ staleCells c cells ↔ k ∈ cells ∧ k.2 ∉ c := by
  have hkeys : k ∈ cells.keys ↔ k ∈ cells := Iff.rfl
  obtain ⟨t, n⟩ := k
  cases t with
  | vpcCounters | sgDrops => simp [staleCells, hkeys]

theorem prune_lookup (cells : KMap Cell ν) (dels : List Cell) (k : Cell) :
    (prune cells dels).lookup k = if k ∈ dels then none else cells.lookup k := by
  have hnone : ∀ o ∈ dels.map (Op.del (ν := ν)), o.key = k → o.value = none := by
    intro o ho _
    obtain ⟨d, -, rfl⟩ := List.mem_map.mp ho
    rfl
  obtain ⟨hin, hout⟩ := lookup_applyAll hnone cells
  split
  · rename_i hk
    exact hin ⟨.del k, List.mem_map_of_mem hk, rfl⟩
  · rename_i hk
    refine hout fun o ho heq => ?_
    obtain ⟨d, hd, rfl⟩ := List.mem_map.mp ho
    exact hk (heq ▸ hd)

/-- Some of the deletions spare the counters of the snapshot, all of them leave no others. -/
theorem prune_stale {c : Finset (BitVec 32)} {cells : KMap Cell ν} (k : Cell) :
    (k.2 ∈ c → ∀ n, (prune cells ((staleCells c cells).take n)).lookup k = cells.lookup k) ∧
    (prune cells (staleCells c cells)).lookup k = if k.2 ∈ c then cells.lookup k else none := by
  have hspared : k.2 ∈ c → k ∉ staleCells c cells := fun hc hk => (mem_staleCells.mp hk).2 hc
  constructor
  · intro hc n
    rw [prune_lookup, if_neg fun hk => hspared hc (List.mem_of_mem_take hk)]
  · rw [prune_lookup]
    by_cases hc : k.2 ∈ c
    · rw [if_neg (hspared hc), if_pos hc]
    · rw [if_neg hc]
      split
      · rfl
      · rename_i hnot
        exact AList.lookup_eq_none.mpr fun hk => hnot (mem_staleCells.mpr ⟨hk, hc⟩)

/-- What a sync owes: it leaves the counters of its scopes alone, and no others if it succeeds. -/
def Exact (s : Manager ν) (scopes : List (BitVec 32)) (r : Manager ν × Option String) : Prop :=
  (∀ k, k.2 ∈ scopes → r.1.cells.lookup k = s.cells.lookup k) ∧
    (r.2 = none → ∀ k, k.2 ∉ scopes → k ∉ r.1.cells)

theorem Inv.sync {s : Manager ν} (h : Inv s) (scopes : List (BitVec 32)) (fault : Option Fault) :
    Inv (s.sync scopes fault).1 ∧ Exact s scopes (s.sync scopes fault) := by
  have hmem : ∀ k : Cell, k.2 ∈ scopes.toFinset ↔ k.2 ∈ scopes := fun k => List.mem_toFinset
  have hsame : ∀ e : String, Inv s ∧ Exact s scopes (s, some e) := fun e =>
    ⟨h, fun _ _ => rfl, (nomatch ·)⟩
  have hgone : ∀ k : Cell, k.2 ∉ scopes → k ∉ prune s.cells (staleCells scopes.toFinset s.cells) := by
    intro k hk
    rw [← AList.lookup_eq_none, (prune_stale k).2, if_neg fun hc => hk ((hmem k).mp hc)]
  have hwhole : Inv (⟨some scopes.toFinset, false, prune s.cells (staleCells scopes.toFinset s.cells)⟩ :
      Manager ν) ∧ Exact s scopes
        (⟨some scopes.toFinset, false, prune s.cells (staleCells scopes.toFinset s.cells)⟩, none) := by
    refine ⟨fun c hc _ k hk => ?_, fun k hk => ?_, fun _ => hgone⟩
    · cases hc
      by_contra hnot
      exact hgone k (fun hin => hnot ((hmem k).mpr hin)) hk
    · exact (prune_stale k).2.trans (if_pos ((hmem k).mpr hk))
  unfold Manager.sync
  dsimp only
  split
  · exact hsame _
  split
  · exact hsame _
  split
  · -- the scan is skipped: the invariant says there is nothing to delete
    rename_i hclean
    refine ⟨h, fun _ _ => rfl, fun _ k hk hin => hk ?_⟩
    exact (hmem k).mp (h _ hclean.1 hclean.2 k hin)
  split
  · exact hsame _
  · exact hsame _
  · exact hsame _
  · split
    · exact ⟨fun c _ hd => (nomatch hd),
        fun k hk => (prune_stale k).1 ((hmem k).mpr hk) _, (nomatch ·)⟩
    · exact hwhole
  · exact hwhole

theorem Inv.insert {s : Manager ν} (h : Inv s) {k : Cell} {v : ν}
    (hk : ∀ c, s.scopes = some c → k.2 ∈ c ∨ k ∈ s.cells) :
    Inv { s with cells := s.cells.insert k v } := by
  intro c hc hd k' hin
  rcases (AList.mem_insert _).mp hin with rfl | hin
  · exact (hk c hc).elim id (h c hc hd _)
  · exact h c hc hd k' hin

theorem Inv.step {s : Manager ν} (h : Inv s) (e : Event ν) : Inv (s.step e) := by
  cases e with
  | sync scopes fault => exact (h.sync scopes fault).1
  | ensure t net zero =>
    show Inv (s.ensure t net zero)
    unfold Manager.ensure
    split
    · exact h
    · rename_i hnot
      refine h.insert fun c hc => .inl ?_
      by_contra hout
      exact hnot (.inr (.inl ⟨c, hc, hout⟩))
  | count k v =>
    show Inv (s.count k v)
    unfold Manager.count
    split
    · rename_i hin
      exact h.insert fun _ _ => .inr hin
    · exact h

/-- **COUNTERS LIVE AS LONG AS THEIR VPCS**, in every run of syncs that may fail anywhere, of seeds and
    of traffic: a sync never touches a counter of its snapshot, and one that succeeds leaves no others,
    also where it did not look at the maps. -/
theorem counters_exact {s : Manager ν} (h : Reaches Manager.step (fun _ _ => True) Fresh s)
    (scopes : List (BitVec 32)) (fault : Option Fault) :
    (∀ k : Cell, k.2 ∈ scopes → (s.sync scopes fault).1.cells.lookup k = s.cells.lookup k) ∧
    ((s.sync scopes fault).2 = none →
      ∀ k : Cell, k.2 ∉ scopes → k ∉ (s.sync scopes fault).1.cells) := by
  have hinv : Inv s := h.invariant (fun s hs c hc => (nomatch hs.symm.trans hc))
    fun s e hs _ => hs.step e
  exact (hinv.sync scopes fault).2

/-- A manager that finds the counter of a deleted VPC in a pinned map. -/
def demoManager : Manager Nat := ⟨none, false, (∅ : KMap Cell Nat).insert (.sgDrops, 7#32) 1⟩

/-- A sync whose deletion fails, its repetition, and traffic of the VPC that is left. -/
def pinnedRun : List (Event Nat) :=
  [.sync [5#32] (some (.delete 0 "EPERM")), .sync [5#32] none, .ensure .vpcCounters 5#32 0,
   .count (.vpcCounters, 5#32) 9, .ensure .sgDrops 7#32 0]

/-- The next sync does not look at the maps: it succeeds also where they cannot be read. -/
theorem counters_exact_pinned :
    ((pinnedRun.foldl Manager.step demoManager).sync [5#32] (some .unavailable)).2 = none ∧
    ((pinnedRun.foldl Manager.step demoManager).sync [5#32] (some .unavailable)).1.cells.lookup
      (.vpcCounters, 5#32) = some 9 ∧
    (Table.sgDrops, 7#32) ∉
      ((pinnedRun.foldl Manager.step demoManager).sync [5#32] (some .unavailable)).1.cells := by
  have hrun : Reaches Manager.step (fun _ _ => True) Fresh (pinnedRun.foldl Manager.step demoManager) :=
    Reaches.extend (.start rfl) ⟨trivial, trivial, trivial, trivial, trivial, trivial⟩
  have hskipped : ((pinnedRun.foldl Manager.step demoManager).sync [5#32] (some .unavailable)).2 = none := by
    decide +kernel
  obtain ⟨hkept, hgone⟩ := counters_exact hrun [5#32] (some .unavailable)
  refine ⟨hskipped, (hkept _ (by decide)).trans (by decide +kernel), hgone hskipped _ (by decide)⟩

end CozyCounters
