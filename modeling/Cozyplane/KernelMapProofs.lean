import Cozyplane.PrefixTableProofs

/-!
# Kernel maps — single operations, full-state syncs, and what a stopped sync leaves

A kernel map is changed one entry at a time. A full-state sync compares it with the wanted
contents, deletes what is not wanted and puts what differs, in whatever order the two
iterations meet the keys. Any operation may be the last one that took effect.
-/

namespace KernelMap

variable {κ ν : Type} [DecidableEq κ]

/-- A finite map, in the order an iteration meets its keys. -/
abbrev KMap (κ ν : Type) := AList fun _ : κ => ν

/-- A map operation. -/
inductive Op (κ ν : Type) where
  | put (k : κ) (v : ν)
  | del (k : κ)
  deriving DecidableEq

def Op.key : Op κ ν → κ
  | .put k _ => k
  | .del k => k

/-- The value the operation leaves under its key. -/
def Op.value : Op κ ν → Option ν
  | .put _ v => some v
  | .del _ => none

/-- A deletion of a missing key is not an error. -/
def apply (m : KMap κ ν) : Op κ ν → KMap κ ν
  | .put k v => m.insert k v
  | .del k => m.erase k

def applyAll (m : KMap κ ν) (ops : List (Op κ ν)) : KMap κ ν := ops.foldl apply m

theorem lookup_apply_self (m : KMap κ ν) (o : Op κ ν) : (apply m o).lookup o.key = o.value := by
  cases o with
  | put k v => exact AList.lookup_insert m
  | del k => exact AList.lookup_erase k m

variable {old want : KMap κ ν} {ops : List (Op κ ν)} {k : κ}

variable {m : KMap κ ν}

theorem mem_iff_lookup : k ∈ m ↔ ∃ v, m.lookup k = some v := by
  rw [← AList.lookup_isSome, Option.isSome_iff_exists]

variable {v : ν}

theorem lookup_insert_some {k' : κ} {v' : ν} :
    (m.insert k v).lookup k' = some v' ↔ (k' = k ∧ v = v') ∨ (k' ≠ k ∧ m.lookup k' = some v') := by
  by_cases h : k' = k
  · subst h
    simp
  · simp [h, AList.lookup_insert_ne h]

theorem lookup_erase_some {k' : κ} :
    (m.erase k).lookup k' = some v ↔ k' ≠ k ∧ m.lookup k' = some v := by
  by_cases h : k' = k
  · subst h
    simp
  · simp [h, AList.lookup_erase_ne h]

theorem lookup_insert_stays {k' : κ} {v' : ν} (h : m.lookup k' = some v')
    (hv : k' = k → v = v') : (m.insert k v).lookup k' = some v' := by
  rw [lookup_insert_some]
  exact (em (k' = k)).imp (fun hk => ⟨hk, hv hk⟩) fun hk => ⟨hk, h⟩

theorem lookup_apply_ne (m : KMap κ ν) {o : Op κ ν} (h : k ≠ o.key) :
    (apply m o).lookup k = m.lookup k := by
  cases o with
  | put j v => exact AList.lookup_insert_ne h
  | del j => exact AList.lookup_erase_ne h

/-- **OPERATIONS THAT AGREE ON A KEY** leave it with their value, or as it was. Induction on the
    operations. -/
theorem lookup_applyAll {r : Option ν} (h : ∀ o ∈ ops, o.key = k → o.value = r) (m : KMap κ ν) :
    ((∃ o ∈ ops, o.key = k) → (applyAll m ops).lookup k = r) ∧
      ((∀ o ∈ ops, o.key ≠ k) → (applyAll m ops).lookup k = m.lookup k) := by
  induction ops generalizing m with
  | nil =>
    refine ⟨?_, fun _ => rfl⟩
    rintro ⟨o, ho, -⟩
    nomatch ho
  | cons o ops ih =>
    obtain ⟨hsome, hnone⟩ := ih (fun o' ho' => h o' (List.mem_cons_of_mem o ho')) (apply m o)
    constructor
    · rintro ⟨o', ho', hk⟩
      by_cases hlater : ∃ o' ∈ ops, o'.key = k
      · exact hsome hlater
      · have hrest : ∀ o' ∈ ops, o'.key ≠ k := fun x hx hxk => hlater ⟨x, hx, hxk⟩
        rcases List.mem_cons.mp ho' with rfl | hin
        · refine (hnone hrest).trans ?_
          rw [← hk, lookup_apply_self]
          exact h o' (.head _) hk
        · exact absurd hk (hrest o' hin)
    · intro hne
      refine (hnone fun o' ho' => hne o' (List.mem_cons_of_mem o ho')).trans ?_
      exact lookup_apply_ne m fun hk => hne o (.head _) hk.symm

/-- Go over `ks` and erase each key that `keep` does not name. -/
def eraseUnless (keep : κ → Bool) (ks : List κ) (m : KMap κ ν) : KMap κ ν :=
  ks.foldl (fun m k => if keep k then m else m.erase k) m

/-- A map without the keys that `keep` does not name. -/
def restrict (keep : κ → Bool) (m : KMap κ ν) : KMap κ ν := eraseUnless keep m.keys m

theorem lookup_eraseUnless (keep : κ → Bool) (ks : List κ) (m : KMap κ ν) (k : κ) :
    (eraseUnless keep ks m).lookup k = if k ∈ ks ∧ keep k = false then none else m.lookup k := by
  induction ks generalizing m with
  | nil => rfl
  | cons j ks ih =>
    show (eraseUnless keep ks (if keep j then m else m.erase j)).lookup k = _
    rw [ih]
    by_cases hj : k = j
    · subst hj
      cases hk : keep k with
      | true => simp
      | false => simp [AList.lookup_erase]
    · have hlookup : (if keep j then m else m.erase j).lookup k = m.lookup k := by
        split
        · rfl
        · exact AList.lookup_erase_ne hj
      simp only [hlookup, List.mem_cons, hj, false_or]

theorem lookup_restrict (keep : κ → Bool) (m : KMap κ ν) (k : κ) :
    (restrict keep m).lookup k = if keep k then m.lookup k else none := by
  unfold restrict
  rw [lookup_eraseUnless]
  cases hk : keep k with
  | true => rw [if_neg (fun h => nomatch h.2)]; rfl
  | false =>
    by_cases hmem : k ∈ m.keys
    · rw [if_pos ⟨hmem, rfl⟩]; rfl
    · rw [if_neg fun h => hmem h.1]
      exact AList.lookup_eq_none.mpr hmem

theorem lookup_restrict_some {keep : κ → Bool} :
    (restrict keep m).lookup k = some v ↔ keep k = true ∧ m.lookup k = some v := by
  rw [lookup_restrict]
  cases keep k with
  | true | false => simp

/-- One more wanted entry; a new key needs room. -/
def putDesired (cap : Nat) (want : KMap κ ν) (k : κ) (v : ν) : Except String (KMap κ ν) :=
  if k ∉ want ∧ cap ≤ want.keys.length then
    .error ("desired state exceeds map capacity " ++ toString cap)
  else .ok (want.insert k v)

theorem putDesired_ok {cap : Nat} {want' : KMap κ ν} (h : putDesired cap want k v = .ok want') :
    want' = want.insert k v := by
  unfold putDesired at h
  split at h
  · nomatch h
  · exact (Except.ok.inj h).symm

-- ── syncs

/-- The keys a sync deletes. -/
def stale (old want : KMap κ ν) : List κ := old.keys.filter fun k => k ∉ want

theorem mem_stale : k ∈ stale old want ↔ k ∈ old ∧ k ∉ want := by
  unfold stale
  rw [List.mem_filter, decide_eq_true_eq]
  exact Iff.rfl

variable [DecidableEq ν]

/-- The entries a sync puts. -/
def changed (old want : KMap κ ν) : List (Sigma fun _ : κ => ν) :=
  want.entries.filter fun e => old.lookup e.1 ≠ some e.2

def putOp (e : Sigma fun _ : κ => ν) : Op κ ν := .put e.1 e.2

/-- A full-state sync, in some order of either iteration. -/
def Syncs (old want : KMap κ ν) (ops : List (Op κ ν)) : Prop :=
  ∃ (dels : List κ) (puts : List (Sigma fun _ : κ => ν)), ops = dels.map .del ++ puts.map putOp ∧
    dels.Perm (stale old want) ∧ puts.Perm (changed old want)

/-- The sync that meets the keys in the order they are listed. -/
def syncOps (old want : KMap κ ν) : List (Op κ ν) :=
  (stale old want).map .del ++ (changed old want).map putOp

theorem syncOps_syncs (old want : KMap κ ν) : Syncs old want (syncOps old want) :=
  ⟨_, _, rfl, .refl _, .refl _⟩

theorem mem_changed {e : Sigma fun _ : κ => ν} :
    e ∈ changed old want ↔ want.lookup e.1 = some e.2 ∧ old.lookup e.1 ≠ some e.2 := by
  unfold changed
  rw [List.mem_filter, decide_eq_true_eq]
  exact and_congr_left fun _ => AList.mem_lookup_iff.symm

theorem Syncs.wants (h : Syncs old want ops) :
    ∀ o ∈ ops, o.value = want.lookup o.key := by
  obtain ⟨dels, puts, rfl, hdels, hputs⟩ := h
  intro o ho
  rcases List.mem_append.mp ho with hdel | hput
  · obtain ⟨k, hk, rfl⟩ := List.mem_map.mp hdel
    have hnot := (mem_stale.mp (hdels.mem_iff.mp hk)).2
    exact (AList.lookup_eq_none.mpr hnot).symm
  · obtain ⟨e, he, rfl⟩ := List.mem_map.mp hput
    exact (mem_changed.mp (hputs.mem_iff.mp he)).1.symm

theorem Syncs.untouched (h : Syncs old want ops) (hk : ∀ o ∈ ops, o.key ≠ k) :
    old.lookup k = want.lookup k := by
  obtain ⟨dels, puts, rfl, hdels, hputs⟩ := h
  cases hw : want.lookup k with
  | none =>
    refine AList.lookup_eq_none.mpr fun hold => ?_
    have hstale : k ∈ dels := hdels.mem_iff.mpr (mem_stale.mpr ⟨hold, AList.lookup_eq_none.mp hw⟩)
    exact hk (.del k) (List.mem_append_left _ (List.mem_map_of_mem hstale)) rfl
  | some v =>
    by_contra hne
    have hchanged : (⟨k, v⟩ : Sigma fun _ : κ => ν) ∈ puts :=
      hputs.mem_iff.mpr (mem_changed.mpr ⟨hw, hne⟩)
    exact hk (.put k v) (List.mem_append_right _ (List.mem_map_of_mem hchanged)) rfl

/-- **A COMPLETE SYNC** leaves exactly the wanted contents. -/
theorem Syncs.lookup (h : Syncs old want ops) (k : κ) :
    (applyAll old ops).lookup k = want.lookup k := by
  have hall : ∀ o ∈ ops, o.key = k → o.value = want.lookup k := by
    rintro o ho rfl
    exact h.wants o ho
  obtain ⟨hsome, hnone⟩ := lookup_applyAll hall old
  by_cases htouched : ∃ o ∈ ops, o.key = k
  · exact hsome htouched
  · have hne : ∀ o ∈ ops, o.key ≠ k := fun o ho hk => htouched ⟨o, ho, hk⟩
    exact (hnone hne).trans (h.untouched hne)

section Tables

open PrefixTable

variable {w : Nat} {μ : Type}

/-- The key of a prefix table's row. -/
structure RowKey (w : Nat) where
  plen : Nat
  key : BitVec w
  deriving DecidableEq

def rowKey (e : Entry w μ) : RowKey w := ⟨e.plen, e.key⟩

/-- The map that holds the rows of a table; of two rows with one key, the first. -/
def tableMap : Table w μ → KMap (RowKey w) μ
  | [] => ∅
  | e :: t => (tableMap t).insert (rowKey e) e.val

/-- The table that a lookup of the prefix kind searches. -/
def mapTable (m : KMap (RowKey w) μ) : Table w μ := m.entries.map fun e => ⟨e.1.plen, e.1.key, e.2⟩

theorem mem_mapTable {m : KMap (RowKey w) μ} {e : Entry w μ} :
    e ∈ mapTable m ↔ m.lookup (rowKey e) = some e.val := by
  unfold mapTable
  rw [List.mem_map]
  constructor
  · rintro ⟨⟨k, v⟩, hmem, rfl⟩
    exact AList.mem_lookup_iff.mpr hmem
  · intro h
    exact ⟨⟨rowKey e, e.val⟩, AList.mem_lookup_iff.mp h, rfl⟩

end Tables

end KernelMap
