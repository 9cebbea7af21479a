import Cozyplane.EndpointWritersProofs
import Cozyplane.NatShardProofs

/-!
# Migration forwards — leases on a kernel map

`migrate_fwd` sends a moved VM's late traffic on to its new node. The agent keeps a table of owners
beside the map: a cleanup lease holds the pointer of its own installation, and the sweep goes by
their times. A kernel call may fail anywhere. All of it is under `migrateMu` and starts with both
empty (`clearMigrateForwards`).

What has been installed and not removed since is recorded by `step` alone, from the call, what the
kernel answered and what the call returned. `forwards_leased` compares the two tables with it.
-/

namespace CozyMigrate

open Run KernelMap CozyPacket CozyMaps Function
open CozyEndpointWriters (localKey)
open CozyShard (to4)

/-- `migrateForwardOwner`; `lease` stands for its pointer. -/
structure Owner where
  target : U32
  installed : Int
  lease : Nat
  deriving DecidableEq

/-- The kernel map, the owners, and how many pointers were given out. -/
structure Forwards where
  fwd : KMap LocalKey U32
  owners : KMap LocalKey Owner
  leases : Nat

/-- `delMigrateForward`; `ok` says that the kernel deletes, or has no such key. -/
def delMigrateForward (s : Forwards) (key : LocalKey) (ok : Bool) : Forwards × Option String :=
  if ok then ({ s with fwd := s.fwd.erase key, owners := s.owners.erase key }, none)
  else (s, some "del migrate_fwd")

/-- `InstallMigrateFwd` at time `now`; the lease that it returns holds a fresh pointer. -/
def installMigrateFwd (capacity : Nat) (s : Forwards) (net : U32) (vmIP : Option Addr) (node : Addr)
    (now : Int) (ok : Bool) : Forwards × Except String Nat :=
  match vmIP.map (localKey net), to4 node with
  | none, _ => (s, .error "invalid IP")
  | some _, none => (s, .error "migrate target node IP is not IPv4")
  | some key, some target =>
    if key ∉ s.owners ∧ capacity ≤ s.owners.keys.length then
      (s, .error "migration forwarding ownership capacity exhausted")
    else if ok then
      (⟨s.fwd.insert key target, s.owners.insert key ⟨target, now, s.leases⟩, s.leases + 1⟩,
        .ok s.leases)
    else (s, .error "set migrate_fwd")

/-- The function that `InstallMigrateFwd` returns: it compares pointers before it deletes. -/
def cleanup (s : Forwards) (key : LocalKey) (lease : Nat) (ok : Bool) : Forwards × Option String :=
  if (s.owners.lookup key).map Owner.lease = some lease then delMigrateForward s key ok else (s, none)

/-- The installation is `grace` old, or older. -/
def Owner.due (now grace : Int) (o : Owner) : Bool := o.installed + grace ≤ now

/-- One key of the sweep; its deletion succeeds if `ok key`. -/
def sweep (now grace : Int) (ok : LocalKey → Bool) (r : Forwards × Option String) (key : LocalKey) :
    Forwards × Option String :=
  if (r.1.owners.lookup key).any (Owner.due now grace) then
    let del := delMigrateForward r.1 key (ok key)
    (del.1, r.2.or del.2)
  else r

/-- `ExpireMigrateForwards`: every owner is asked, and the first error is returned. -/
def expireMigrateForwards (s : Forwards) (now grace : Int) (ok : LocalKey → Bool) :
    Forwards × Option String :=
  s.owners.keys.foldl (sweep now grace ok) (s, none)

/-- `DelMigrateFwd`. -/
def delMigrateFwd (s : Forwards) (net : U32) (vmIP : Option Addr) (ok : Bool) :
    Forwards × Option String :=
  match vmIP.map (localKey net) with
  | none => (s, some "invalid IP")
  | some key => delMigrateForward s key ok

/-- A call, with the kernel's answers. -/
inductive Event where
  | install (net : U32) (vmIP : Option Addr) (node : Addr) (now : Int) (ok : Bool)
  | cleanup (key : LocalKey) (lease : Nat) (ok : Bool)
  | expire (now grace : Int) (ok : LocalKey → Bool)
  | del (net : U32) (vmIP : Option Addr) (ok : Bool)

/-- Beside the tables: the latest successful installation of each key that was not removed since. -/
structure System where
  forwards : Forwards
  history : LocalKey → Option Owner

/-- After `clearMigrateForwards`. -/
def start : System := ⟨⟨∅, ∅, 0⟩, fun _ => none⟩

/-- An installation that returned a lease is the latest one of its key. -/
def recordInstall (h : LocalKey → Option Owner) (net : U32) (vmIP : Option Addr) (node : Addr)
    (now : Int) : Except String Nat → LocalKey → Option Owner
  | .error _ => h
  | .ok lease =>
    match vmIP.map (localKey net), to4 node with
    | some key, some target => update h key (some ⟨target, now, lease⟩)
    | _, _ => h

/-- A removal of the key that returned no error. -/
def recordRemoval (h : LocalKey → Option Owner) (key : Option LocalKey) :
    Option String → LocalKey → Option Owner
  | some _ => h
  | none => key.elim h fun k => update h k none

/-- A lease that returned no error has removed its own installation, and no other. -/
def recordCleanup (h : LocalKey → Option Owner) (key : LocalKey) (lease : Nat)
    (result : Option String) : LocalKey → Option Owner :=
  recordRemoval h (if (h key).map Owner.lease = some lease then some key else none) result

/-- A sweep removes what is due, where the kernel deletes. -/
def recordExpire (h : LocalKey → Option Owner) (now grace : Int) (ok : LocalKey → Bool) :
    LocalKey → Option Owner :=
  fun key => if ok key then (h key).filter fun o => !o.due now grace else h key

/-- A call on the tables, and what is recorded of it. -/
def step (capacity : Nat) (s : System) : Event → System
  | .install net vmIP node now ok =>
    let r := installMigrateFwd capacity s.forwards net vmIP node now ok
    ⟨r.1, recordInstall s.history net vmIP node now r.2⟩
  | .cleanup key lease ok =>
    let r := cleanup s.forwards key lease ok
    ⟨r.1, recordCleanup s.history key lease r.2⟩
  | .expire now grace ok =>
    ⟨(expireMigrateForwards s.forwards now grace ok).1, recordExpire s.history now grace ok⟩
  | .del net vmIP ok =>
    let r := delMigrateFwd s.forwards net vmIP ok
    ⟨r.1, recordRemoval s.history (vmIP.map (localKey net)) r.2⟩

/-- Map and owners have the same keys, at most `capacity`; the map has the owners' targets, and no
    pointer was given out twice. -/
structure Forwards.Paired (capacity : Nat) (s : Forwards) : Prop where
  keys : s.fwd.keys = s.owners.keys
  fits : s.fwd.keys.length ≤ capacity
  target : ∀ key o, s.owners.lookup key = some o → s.fwd.lookup key = some o.target
  given : ∀ key o, s.owners.lookup key = some o → o.lease < s.leases

/-- The tables are paired, and the owners are the installations recorded. -/
structure Leased (capacity : Nat) (s : System) : Prop where
  paired : s.forwards.Paired capacity
  owners : ∀ key, s.forwards.owners.lookup key = s.history key

variable {s : Forwards} {capacity : Nat}

theorem Forwards.Paired.del (h : s.Paired capacity) (key : LocalKey) (ok : Bool) :
    (delMigrateForward s key ok).1.Paired capacity := by
  cases ok with
  | false => exact h
  | true =>
    obtain ⟨hkeys, hfits, htarget, hgiven⟩ := h
    simp only [delMigrateForward, if_true]
    refine ⟨?_, ?_, by grind [lookup_erase_some], by grind [lookup_erase_some]⟩
    · rw [AList.keys_erase, AList.keys_erase, hkeys]
    · rw [AList.keys_erase]
      exact (List.length_erase_le ..).trans hfits

theorem Forwards.Paired.install (h : s.Paired capacity) (key : LocalKey) (target : U32) (now : Int)
    (hroom : ¬ (key ∉ s.owners ∧ capacity ≤ s.owners.keys.length)) :
    Forwards.Paired capacity ⟨s.fwd.insert key target, s.owners.insert key ⟨target, now, s.leases⟩,
      s.leases + 1⟩ := by
  obtain ⟨hkeys, hfits, htarget, hgiven⟩ := h
  refine ⟨?_, ?_, by grind [lookup_insert_some], by grind [lookup_insert_some]⟩
  · rw [AList.keys_insert, AList.keys_insert, hkeys]
  · -- a new key has room, and a key that is there keeps its place
    rw [AList.mem_keys] at hroom
    rw [AList.keys_insert, List.length_cons, List.length_erase, hkeys]
    grind

/-- What a deletion leaves under a key, and whether it reports an error. -/
theorem delMigrateForward_spec (s : Forwards) (key : LocalKey) (ok : Bool) (k : LocalKey) :
    (delMigrateForward s key ok).1.owners.lookup k =
        (if k = key ∧ ok = true then none else s.owners.lookup k) ∧
      ((delMigrateForward s key ok).2 = none ↔ ok = true) := by
  cases ok with
  | false => exact ⟨(if_neg (by simp)).symm, by simp [delMigrateForward]⟩
  | true =>
    refine ⟨?_, by simp [delMigrateForward]⟩
    by_cases hk : k = key
    · rw [if_pos ⟨hk, rfl⟩, hk]
      exact AList.lookup_erase ..
    · rw [if_neg fun h => hk h.1]
      exact AList.lookup_erase_ne hk

/-- **A SWEEP** takes from the keys that it asks those that are due and that the kernel deletes; where
    it reports no error, the kernel has deleted all that were due. -/
theorem sweep_spec (now grace : Int) (ok : LocalKey → Bool) (keys : List LocalKey)
    (r : Forwards × Option String) (key : LocalKey) :
    (keys.foldl (sweep now grace ok) r).1.owners.lookup key =
        (if key ∈ keys ∧ ok key = true then (r.1.owners.lookup key).filter fun o => !o.due now grace
          else r.1.owners.lookup key) ∧
      ((keys.foldl (sweep now grace ok) r).2 = none → r.2 = none ∧
        (key ∈ keys → (r.1.owners.lookup key).any (Owner.due now grace) = true → ok key = true)) := by
  induction keys generalizing r with
  | nil => exact ⟨(if_neg (by simp)).symm, fun hr => ⟨hr, nofun⟩⟩
  | cons key' keys ih =>
    obtain ⟨hlookup, hnone⟩ := ih (sweep now grace ok r key')
    have hdel := delMigrateForward_spec r.1 key' (ok key') key
    rw [List.foldl_cons, hlookup]
    simp only [sweep] at hnone ⊢
    cases ho : r.1.owners.lookup key with
    | none => grind
    | some o => grind

variable {s : System}

theorem Leased.install (h : Leased capacity s) (net : U32) (vmIP : Option Addr) (node : Addr)
    (now : Int) (ok : Bool) : Leased capacity (step capacity s (.install net vmIP node now ok)) := by
  simp only [step, installMigrateFwd]
  split
  · exact h
  · exact h
  split
  · exact h
  split
  · rename_i key target hkey htarget hroom _
    refine ⟨h.paired.install key target now hroom, fun k => ?_⟩
    simp only [recordInstall, hkey, htarget]
    by_cases hk : k = key
    · rw [hk, AList.lookup_insert, update_self]
    · rw [AList.lookup_insert_ne hk, update_of_ne hk, h.owners]
  · exact h

/-- A deletion that the history hears of. -/
theorem Leased.remove (h : Leased capacity s) (key : LocalKey) (ok : Bool) :
    Leased capacity ⟨(delMigrateForward s.forwards key ok).1,
      recordRemoval s.history (some key) (delMigrateForward s.forwards key ok).2⟩ := by
  refine ⟨h.paired.del key ok, fun k => ?_⟩
  rw [(delMigrateForward_spec s.forwards key ok k).1, h.owners]
  cases ok with
  | false => exact if_neg (by simp)
  | true =>
    show _ = update s.history key none k
    by_cases hk : k = key
    · rw [if_pos ⟨hk, rfl⟩, hk, update_self]
    · rw [if_neg fun hdel => hk hdel.1, update_of_ne hk]

theorem Leased.expire (h : Leased capacity s) (now grace : Int) (ok : LocalKey → Bool) :
    Leased capacity (step capacity s (.expire now grace ok)) := by
  constructor
  · refine List.foldlRecOn (motive := fun r : Forwards × Option String => r.1.Paired capacity)
      _ _ h.paired ?_
    intro r hr key _
    simp only [sweep]
    split
    · exact hr.del key (ok key)
    · exact hr
  · intro key
    show (expireMigrateForwards s.forwards now grace ok).1.owners.lookup key = _
    rw [expireMigrateForwards, (sweep_spec now grace ok _ _ key).1]
    simp only [step, recordExpire, ← h.owners]
    by_cases hin : key ∈ s.forwards.owners
    · simp [AList.mem_keys.mp hin]
    · simp [AList.lookup_eq_none.mpr hin]

theorem Leased.step (h : Leased capacity s) (e : Event) : Leased capacity (step capacity s e) := by
  cases e with
  | install net vmIP node now ok => exact h.install net vmIP node now ok
  | cleanup key lease ok =>
    simp only [CozyMigrate.step, cleanup, recordCleanup, h.owners]
    split
    · exact h.remove key ok
    · exact h
  | expire now grace ok => exact h.expire now grace ok
  | del net vmIP ok =>
    simp only [CozyMigrate.step, delMigrateFwd]
    split
    · exact h
    · rename_i key hkey
      rw [hkey]
      exact h.remove key ok

/-- **LEASES, SWEEPS AND THE MAP AGREE** in every run: map and owners have the same keys, with the
    target of the latest installation not removed since; a lease changes nothing unless its
    installation is the current one; and a sweep without an error leaves nothing older than `grace`. -/
theorem forwards_leased (h : Reaches (step capacity) (fun _ _ => True) (Eq start) s) :
    Leased capacity s ∧
      (∀ key lease ok, (∀ o, s.history key = some o → o.lease ≠ lease) →
        step capacity s (.cleanup key lease ok) = s) ∧
      ∀ now grace ok, (expireMigrateForwards s.forwards now grace ok).2 = none →
        ∀ key ∈ (step capacity s (.expire now grace ok)).forwards.fwd,
        ∃ o, (step capacity s (.expire now grace ok)).history key = some o ∧
          now - grace < o.installed := by
  have hs : Leased capacity s := by
    refine h.invariant ?_ fun t e ht _ => ht.step e
    rintro _ rfl
    exact ⟨⟨rfl, Nat.zero_le _, nofun, nofun⟩, fun _ => rfl⟩
  refine ⟨hs, fun key lease ok hother => ?_, fun now grace ok hnone key hin => ?_⟩
  · have hnot : (s.history key).map Owner.lease ≠ some lease := by
      intro hlease
      obtain ⟨o, ho, rfl⟩ := Option.map_eq_some_iff.mp hlease
      exact hother o ho rfl
    simp only [step, cleanup, recordCleanup, hs.owners, if_neg hnot]
    rfl
  · have hafter := hs.step (.expire now grace ok)
    rw [AList.mem_keys, hafter.paired.keys, ← AList.mem_keys, mem_iff_lookup] at hin
    obtain ⟨o, ho⟩ := hin
    rw [hafter.owners] at ho
    refine ⟨o, ho, ?_⟩
    by_contra hlate
    have hdue : o.due now grace = true := decide_eq_true (by omega)
    have hrest : (if ok key then (s.history key).filter fun o => !o.due now grace
      else s.history key) = some o := ho
    cases hok : ok key with
    | true =>
      rw [hok, if_pos rfl, Option.filter_eq_some_iff, hdue] at hrest
      nomatch hrest.2
    | false =>
      -- a key that is due was asked, so an error was reported
      rw [hok, if_neg Bool.false_ne_true] at hrest
      have hasked := ((sweep_spec now grace ok _ _ key).2 hnone).2
      rw [hok, hs.owners, hrest] at hasked
      refine absurd (hasked ?_ hdue) Bool.false_ne_true
      rw [← AList.mem_keys, mem_iff_lookup]
      exact ⟨o, (hs.owners key).trans hrest⟩

-- ── a run

/-- A machine's address, 10.1.0.0/24. -/
def vm (last : U8) : Addr := 0xffff0a0100#120 ++ last

/-- A node's address, 10.0.0.0/24. -/
def node (last : U8) : Addr := 0xffff0a0000#120 ++ last

/-- The first machine moves twice to one node; the lease of the first move is called, and a deletion
    fails. The second one moves, the sweep takes the first, which moves again; the second is deleted. -/
def moves : List Event :=
  [.install 100#32 (some (vm 1)) (node 2) 0 true,
    .install 100#32 (some (vm 1)) (node 2) 10 true,
    .cleanup (localKey 100#32 (vm 1)) 0 true,
    .del 100#32 (some (vm 1)) false,
    .install 100#32 (some (vm 5)) (node 3) 20 true,
    .expire 40 25 fun _ => true,
    .install 100#32 (some (vm 1)) (node 3) 50 true,
    .del 100#32 (some (vm 5)) true]

theorem forwards_leased_moves :
    Leased 2 (moves.foldl (step 2) start) ∧
      (moves.foldl (step 2) start).forwards.fwd.lookup (localKey 100#32 (vm 1)) = some 0x0a000003#32 ∧
      (moves.foldl (step 2) start).history (localKey 100#32 (vm 5)) = none ∧
      step 2 (moves.foldl (step 2) start) (.cleanup (localKey 100#32 (vm 1)) 1 true) =
        moves.foldl (step 2) start ∧
      ∃ o, (step 2 (moves.foldl (step 2) start) (.expire 60 25 fun _ => true)).history
        (localKey 100#32 (vm 1)) = some o ∧ 60 - 25 < o.installed := by
  have hmoves : AllMeet (fun _ _ => True) (step 2) start moves := by simp [moves, AllMeet]
  obtain ⟨hleased, hold, hswept⟩ := forwards_leased ((Reaches.start rfl).extend hmoves)
  refine ⟨hleased, by decide +kernel, by decide +kernel, hold _ _ _ fun o ho => ?_,
    hswept _ _ _ (by decide +kernel) _ (by decide +kernel)⟩
  have hcurrent : (moves.foldl (step 2) start).history (localKey 100#32 (vm 1)) =
      some ⟨0x0a000003#32, 50, 3⟩ := by decide +kernel
  rw [hcurrent] at ho
  cases ho
  decide

end CozyMigrate
