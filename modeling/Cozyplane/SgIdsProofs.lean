import Cozyplane.KernelMapProofs
import Cozyplane.RunProofs

/-!
# SecurityGroup ids — allocation and repair from lists

`Reconcile` reads its group, lists the groups of the namespace, decides on an id and writes its own
status, against the revision it read. Only its own change makes a group be looked at again.
-/

namespace CozySgIds

open KernelMap Run

-- ── the reconciler

/-- `SecurityGroupPhase`. -/
inductive Phase where
  | unset
  | pending
  | ready
  deriving DecidableEq

/-- What the reconciler reads of a SecurityGroup. -/
structure Group where
  vpc : String
  created : Nat
  id : Int
  phase : Phase
  revision : Nat
  deriving DecidableEq

/-- The groups of a namespace by name. -/
abbrev Groups := KMap String Group

/-- `MaxSecurityGroupsPerVPC`. -/
def maxSecurityGroupsPerVPC : Int := 63

/-- An id a group may have. -/
def validID (id : Int) : Bool := 0 < id && id < maxSecurityGroupsPerVPC

/-- A scan meets another group of the VPC with `p`. -/
def meets (groups : Groups) (name : String) (sg : Group) (p : String → Group → Bool) : Bool :=
  groups.entries.any fun o => o.1 != name && o.2.vpc == sg.vpc && p o.1 o.2

/-- Another group of the VPC has the id. -/
def usedIDs (groups : Groups) (name : String) (sg : Group) (id : Int) : Bool :=
  meets groups name sg fun _ o => validID o.id && o.id == id

/-- The lowest id nobody else has, or 0. -/
def allocateID (groups : Groups) (name : String) (sg : Group) : Int :=
  (((List.range' 1 62).map Int.ofNat).find? fun id => !usedIDs groups name sg id).getD 0

/-- Creation time decides, then the name. -/
def sgClaimOlder (a : String) (sg : Group) (b : String) (sg' : Group) : Bool :=
  if sg.created ≠ sg'.created then sg.created < sg'.created else a < b

/-- An older group has the same id. -/
def lostIDToDuplicate (groups : Groups) (name : String) (sg : Group) : Bool :=
  meets groups name sg fun m o => o.id == sg.id && sgClaimOlder m o name sg

/-- The id a run decides on; `anchored` is `vpnlimits.ObjectName`. -/
def decideID (anchored : String → Bool) (groups : Groups) (name : String) (sg : Group) : Int :=
  if !anchored sg.vpc then 0
  else if !validID sg.id then allocateID groups name sg
  else if lostIDToDuplicate groups name sg then 0
  else sg.id

/-- The phase that goes with an id. -/
def phaseOf (id : Int) : Phase := if id ≠ 0 then .ready else .pending

-- ── runs of any number of workers

/-- A run in progress: the group as it was read, and the id once it has listed. -/
structure Job where
  name : String
  sg : Group
  id : Option Int

/-- The API server, the queued names and the workers of all replicas. -/
structure State where
  groups : Groups
  queue : Finset String
  jobs : KMap Nat Job
  revision : Nat

/-- What happens to the groups, and the steps of a run. -/
inductive Event where
  | create (name vpc : String) (created : Nat)
  | delete (name : String)
  | get (w : Nat) (name : String)
  | list (w : Nat)
  | update (w : Nat)

/-- The end of a run: its status update, if there is a change, and what is queued. -/
def finish (s : State) (w : Nat) (j : Job) (id : Int) : State :=
  let again : State := { s with jobs := s.jobs.erase w, queue := insert j.name s.queue }
  if j.sg.id = id ∧ j.sg.phase = phaseOf id then
    if id = 0 then again else { s with jobs := s.jobs.erase w }
  else
    match s.groups.lookup j.name with
    | none => again
    | some sg =>
      if sg.revision ≠ j.sg.revision then again
      else
        { again with
          groups := s.groups.insert j.name
            { j.sg with id := id, phase := phaseOf id, revision := s.revision + 1 }
          revision := s.revision + 1 }

/-- One event. -/
def step (anchored : String → Bool) (s : State) : Event → State
  | .create name vpc created =>
    if name ∈ s.groups then s
    else
      { s with
        groups := s.groups.insert name ⟨vpc, created, 0, .unset, s.revision + 1⟩
        queue := insert name s.queue
        revision := s.revision + 1 }
  | .delete name => { s with groups := s.groups.erase name }
  | .get w name =>
    if name ∈ s.queue ∧ w ∉ s.jobs then
      match s.groups.lookup name with
      | none => { s with queue := s.queue.erase name }
      | some sg =>
        { s with queue := s.queue.erase name, jobs := s.jobs.insert w ⟨name, sg, none⟩ }
    else s
  | .list w =>
    match s.jobs.lookup w with
    | none => s
    | some j =>
      if j.id = none then
        let id := decideID anchored s.groups j.name j.sg
        { s with jobs := s.jobs.insert w { j with id := some id } }
      else s
  | .update w =>
    match s.jobs.lookup w with
    | none => s
    | some j =>
      match j.id with
      | none => s
      | some id => finish s w j id

/-- All groups are queued, no run has begun. -/
def Fresh (s : State) : Prop :=
  (∀ n sg, s.groups.lookup n = some sg → n ∈ s.queue ∧ sg.revision ≤ s.revision) ∧ s.jobs = ∅

/-- The group is queued, or a run in progress has read it as it is and has not decided to keep its
    id. -/
def Watched (s : State) (n : String) (sg : Group) : Prop :=
  n ∈ s.queue ∨ ∃ w j, s.jobs.lookup w = some j ∧ j.name = n ∧ j.sg = sg ∧ j.id ≠ some sg.id

/-- An update does not give its group an id, new to it, that a younger claim of the VPC holds while
    nobody is to look at that one again. -/
def Prompt (s : State) : Event → Prop
  | .update w => ∀ j id, s.jobs.lookup w = some j → j.id = some id → id ≠ 0 → id ≠ j.sg.id →
      (s.groups.lookup j.name).map Group.revision = some j.sg.revision →
      ∀ m o, s.groups.lookup m = some o → m ≠ j.name → o.vpc = j.sg.vpc → o.id = id →
        sgClaimOlder j.name j.sg m o = true → Watched s m o
  | _ => True

-- ── what a list decides

variable {anchored : String → Bool} {groups : Groups} {s : State} {n m name : String} {sg o : Group}

theorem meets_iff {p : String → Group → Bool} : meets groups n sg p = true ↔
    ∃ m o, groups.lookup m = some o ∧ m ≠ n ∧ o.vpc = sg.vpc ∧ p m o = true := by
  unfold meets
  rw [List.any_eq_true]
  constructor
  · rintro ⟨⟨m, o⟩, hmem, h⟩
    simp only [Bool.and_eq_true, bne_iff_ne, ne_eq, beq_iff_eq] at h
    exact ⟨m, o, AList.mem_lookup_iff.mpr hmem, h.1.1, h.1.2, h.2⟩
  · rintro ⟨m, o, hlook, hne, hvpc, hp⟩
    exact ⟨⟨m, o⟩, AList.mem_lookup_iff.mp hlook, by simp [hne, hvpc, hp]⟩

theorem older_iff : sgClaimOlder n sg m o = true ↔
    toLex (sg.created, n) < toLex (o.created, m) := by
  unfold sgClaimOlder
  rw [Prod.Lex.toLex_lt_toLex]
  by_cases h : sg.created = o.created
  · simp [h]
  · simp [h]

theorem allocateID_valid (groups : Groups) (n : String) (sg : Group) :
    allocateID groups n sg = 0 ∨ validID (allocateID groups n sg) = true := by
  unfold allocateID
  cases h : ((List.range' 1 62).map Int.ofNat).find? fun id => !usedIDs groups n sg id with
  | none => exact .inl rfl
  | some id =>
    obtain ⟨k, hk, rfl⟩ := List.mem_map.mp (List.mem_of_find?_eq_some h)
    obtain ⟨h₁, h₂⟩ := List.mem_range'_1.mp hk
    right
    show (decide (0 < (k : Int)) && decide ((k : Int) < 63)) = true
    simp
    omega

/-- Another group of the VPC has the id and the older claim. -/
def Loses (groups : Groups) (n : String) (sg : Group) : Prop :=
  ∃ m o, groups.lookup m = some o ∧ m ≠ n ∧ o.vpc = sg.vpc ∧ o.id = sg.id ∧
    sgClaimOlder m o n sg = true

/-- The group has an id that it must give up. -/
def Due (anchored : String → Bool) (groups : Groups) (n : String) (sg : Group) : Prop :=
  sg.id ≠ 0 ∧ (anchored sg.vpc = false ∨ validID sg.id = false ∨ Loses groups n sg)

theorem Due.decides (h : Due anchored groups n sg) : decideID anchored groups n sg ≠ sg.id := by
  obtain ⟨hid, h⟩ := h
  unfold decideID
  split
  · exact hid.symm
  split
  · rename_i hbad
    rcases allocateID_valid groups n sg with h | h
    · exact fun heq => hid (heq.symm.trans h)
    · intro heq
      rw [heq] at h
      rw [h] at hbad
      nomatch hbad
  rename_i hanchored hvalid
  have hlost : lostIDToDuplicate groups n sg = true := by
    rcases h with h | h | ⟨m, o, hlook, hne, hvpc, hsame, holder⟩
    · simp [h] at hanchored
    · simp [h] at hvalid
    · exact meets_iff.mpr ⟨m, o, hlook, hne, hvpc, by simp [hsame, holder]⟩
  rw [if_pos hlost]
  exact hid.symm

/-- A group that is written or created makes another one give up its id if it has that id and the
    older claim, and else changes nothing for it. -/
theorem Due.of_insert {new : Group} (h : Due anchored (groups.insert name new) n sg) :
    Due anchored groups n sg ∨
      new.vpc = sg.vpc ∧ new.id = sg.id ∧ sg.id ≠ 0 ∧ sgClaimOlder name new n sg = true := by
  obtain ⟨hid, h⟩ := h
  rcases h with h | h | ⟨m, o, hlook, hmn, hvpc, hsame, holder⟩
  · exact .inl ⟨hid, .inl h⟩
  · exact .inl ⟨hid, .inr (.inl h)⟩
  rcases lookup_insert_some.mp hlook with ⟨rfl, rfl⟩ | ⟨_, hlook⟩
  · exact .inr ⟨hvpc, hsame, hid, holder⟩
  · exact .inl ⟨hid, .inr (.inr ⟨m, o, hlook, hmn, hvpc, hsame, holder⟩)⟩

-- ── the invariant

/-- What the run has read is an old version, or the group as it is. -/
def Job.Reads (j : Job) (s : State) : Prop :=
  j.sg.revision ≤ s.revision ∧
    ∀ sg, s.groups.lookup j.name = some sg → sg.revision = j.sg.revision → j.sg = sg

/-- Whoever must give up its id is watched. -/
structure Inv (anchored : String → Bool) (s : State) : Prop where
  bound : ∀ n sg, s.groups.lookup n = some sg → sg.revision ≤ s.revision
  reads : ∀ w j, s.jobs.lookup w = some j → j.Reads s
  watched : ∀ n sg, s.groups.lookup n = some sg → Due anchored s.groups n sg → Watched s n sg

theorem Inv.put {queue : Finset String} {new : Group} (h : Inv anchored s) (hqueue : s.queue ⊆ queue)
    (hname : name ∈ queue) (hrev : new.revision = s.revision + 1)
    (hwatched : ∀ n sg, n ≠ name → s.groups.lookup n = some sg → new.vpc = sg.vpc → new.id = sg.id →
      sg.id ≠ 0 → sgClaimOlder name new n sg = true → Watched s n sg) :
    Inv anchored { s with
      groups := s.groups.insert name new, queue := queue, revision := s.revision + 1 } where
  bound n sg hn := by
    rcases lookup_insert_some.mp hn with ⟨-, rfl⟩ | ⟨-, hn⟩
    · exact hrev.le
    · exact (h.bound n sg hn).trans (Nat.le_succ _)
  reads w j hj := by
    obtain ⟨hle, hsame⟩ := h.reads w j hj
    refine ⟨hle.trans (Nat.le_succ _), fun sg hn hr => ?_⟩
    rcases lookup_insert_some.mp hn with ⟨-, rfl⟩ | ⟨-, hn⟩
    · omega
    · exact hsame sg hn hr
  watched n sg hn hdue := by
    rcases lookup_insert_some.mp hn with ⟨rfl, -⟩ | ⟨hne, hn⟩
    · exact .inl hname
    · refine Or.imp_left (@hqueue n) ?_
      rcases hdue.of_insert with hdue | ⟨hvpc, hid, hzero, holder⟩
      · exact h.watched n sg hn hdue
      · exact hwatched n sg hne hn hvpc hid hzero holder

theorem Inv.delete (h : Inv anchored s) (name : String) :
    Inv anchored { s with groups := s.groups.erase name } where
  bound n sg hn := h.bound n sg (lookup_erase_some.mp hn).2
  reads w j hj := ⟨(h.reads w j hj).1, fun sg hn => (h.reads w j hj).2 sg (lookup_erase_some.mp hn).2⟩
  watched n sg hn hdue := by
    refine h.watched n sg (lookup_erase_some.mp hn).2 ⟨hdue.1, hdue.2.imp_right (Or.imp_right ?_)⟩
    rintro ⟨m, o, hm, hloses⟩
    exact ⟨m, o, (lookup_erase_some.mp hm).2, hloses⟩

/-- A run ends, with its group queued again or with nothing to change. -/
theorem Inv.drop {w : Nat} {j : Job} (h : Inv anchored s) (hw : s.jobs.lookup w = some j)
    {queue : Finset String} (hq : s.queue ⊆ queue) (hown : j.name ∈ queue ∨ j.id = some j.sg.id) :
    Inv anchored { s with jobs := s.jobs.erase w, queue := queue } where
  bound := h.bound
  reads w' j' hj' := h.reads w' j' (lookup_erase_some.mp hj').2
  watched n sg hn hdue := by
    by_cases hin : n ∈ queue
    · exact .inl hin
    rcases h.watched n sg hn hdue with hmem | ⟨w', j', hj', hname, hsg, hid⟩
    · exact absurd (hq hmem) hin
    by_cases heq : w' = w
    · rw [heq, hw] at hj'
      cases hj'
      rcases hown with hmem | hsame
      · exact absurd (hname ▸ hmem) hin
      · exact absurd (hsg ▸ hsame) hid
    · exact .inr ⟨w', j', (AList.lookup_erase_ne heq).trans hj', hname, hsg, hid⟩

theorem Inv.get {w : Nat} (h : Inv anchored s) (hw : w ∉ s.jobs) :
    Inv anchored (match s.groups.lookup name with
      | none => { s with queue := s.queue.erase name }
      | some sg =>
        { s with queue := s.queue.erase name, jobs := s.jobs.insert w ⟨name, sg, none⟩ }) := by
  cases hlook : s.groups.lookup name with
  | none =>
    refine ⟨h.bound, h.reads, fun n sg hn hdue => (h.watched n sg hn hdue).imp_left ?_⟩
    refine Finset.mem_erase_of_ne_of_mem ?_
    rintro rfl
    nomatch hlook.symm.trans hn
  | some sg =>
    refine ⟨h.bound, fun w' j hj => ?_, fun n sg' hn hdue => ?_⟩
    · rcases lookup_insert_some.mp hj with ⟨-, rfl⟩ | ⟨-, hj⟩
      · exact ⟨h.bound name sg hlook, fun sg' hn _ => Option.some.inj (hlook.symm.trans hn)⟩
      · exact h.reads w' j hj
    · by_cases heq : n = name
      · subst heq
        refine .inr ⟨w, ⟨n, sg, none⟩, AList.lookup_insert _, rfl, ?_, by simp⟩
        exact Option.some.inj (hlook.symm.trans hn)
      rcases h.watched n sg' hn hdue with hmem | ⟨w', j, hj, hrest⟩
      · exact .inl (Finset.mem_erase_of_ne_of_mem heq hmem)
      · have hne : w' ≠ w := by
          rintro rfl
          exact hw (mem_iff_lookup.mpr ⟨j, hj⟩)
        exact .inr ⟨w', j, (AList.lookup_insert_ne hne).trans hj, hrest⟩

theorem Inv.list {w : Nat} {j : Job} (h : Inv anchored s) (hw : s.jobs.lookup w = some j) :
    Inv anchored { s with
      jobs := s.jobs.insert w { j with id := some (decideID anchored s.groups j.name j.sg) } } where
  bound := h.bound
  reads w' j' hj' := by
    rcases lookup_insert_some.mp hj' with ⟨-, rfl⟩ | ⟨-, hj'⟩
    · exact h.reads w j hw
    · exact h.reads w' j' hj'
  watched n sg hn hdue := by
    rcases h.watched n sg hn hdue with hmem | ⟨w', j', hj', hname, hsg, hid⟩
    · exact .inl hmem
    by_cases heq : w' = w
    · rw [heq, hw] at hj'
      cases hj'
      refine .inr ⟨w, _, AList.lookup_insert _, hname, hsg, fun hsame => ?_⟩
      subst hname hsg
      exact hdue.decides (Option.some.inj hsame)
    · exact .inr ⟨w', j', (AList.lookup_insert_ne heq).trans hj', hname, hsg, hid⟩

theorem Inv.finish {w : Nat} {j : Job} {id : Int} (h : Inv anchored s)
    (hw : s.jobs.lookup w = some j) (hid : j.id = some id) (hprompt : Prompt s (.update w)) :
    Inv anchored (finish s w j id) := by
  have hagain := h.drop hw (Finset.subset_insert j.name s.queue) (.inl (Finset.mem_insert_self _ _))
  unfold CozySgIds.finish
  by_cases hsame : j.sg.id = id ∧ j.sg.phase = phaseOf id
  · rw [if_pos hsame]
    split
    · exact hagain
    · exact h.drop hw subset_rfl (.inr (by rw [hid, hsame.1]))
  rw [if_neg hsame]
  cases hlook : s.groups.lookup j.name with
  | none => exact hagain
  | some sg =>
    dsimp only
    by_cases hrev : sg.revision = j.sg.revision
    · rw [if_neg (not_not_intro hrev)]
      obtain rfl := (h.reads w j hw).2 sg hlook hrev
      refine hagain.put subset_rfl (Finset.mem_insert_self _ _) rfl fun n o hne hn hvpc heq hzero hold => ?_
      have holder : sgClaimOlder j.name j.sg n o = true := hold
      have hsame : id = o.id := heq
      by_cases hkept : id = j.sg.id
      · -- an id that the group had before: the other one had to give it up already
        refine hagain.watched n o hn ⟨hzero, .inr (.inr ⟨j.name, j.sg, hlook, Ne.symm hne, hvpc, ?_,
          holder⟩)⟩
        exact hkept.symm.trans hsame
      · -- a new one: the other one is watched, by a run that is not this one
        have hmeets := hprompt j id hw hid (hsame ▸ hzero) hkept (by rw [hlook]; rfl) n o hn hne
          hvpc.symm hsame.symm holder
        refine hmeets.imp (Finset.mem_insert_of_mem ·) ?_
        rintro ⟨w', j', hj', hname, hrest⟩
        refine ⟨w', j', (AList.lookup_erase_ne ?_).trans hj', hname, hrest⟩
        rintro rfl
        rw [hw] at hj'
        cases hj'
        exact hne hname.symm
    · rw [if_pos hrev]
      exact hagain

theorem Inv.step {e : Event} (h : Inv anchored s) (hprompt : Prompt s e) :
    Inv anchored (step anchored s e) := by
  cases e with
  | create name vpc created =>
    unfold CozySgIds.step
    dsimp only
    split
    · exact h
    · exact h.put (Finset.subset_insert _ _) (Finset.mem_insert_self _ _) rfl
        fun _ _ _ _ _ hid hzero _ => absurd hid.symm hzero
  | delete name => exact h.delete name
  | get w name =>
    unfold CozySgIds.step
    dsimp only
    split
    · rename_i hget
      exact h.get hget.2
    · exact h
  | list w =>
    unfold CozySgIds.step
    dsimp only
    split
    · exact h
    · rename_i j hw
      split
      · exact h.list hw
      · exact h
  | update w =>
    cases hw : s.jobs.lookup w with
    | none =>
      unfold CozySgIds.step
      simp only [hw]
      exact h
    | some j =>
      cases hid : j.id with
      | none =>
        unfold CozySgIds.step
        simp only [hw, hid]
        exact h
      | some id =>
        have hstep : CozySgIds.step anchored s (.update w) = CozySgIds.finish s w j id := by
          unfold CozySgIds.step
          simp only [hw, hid]
        rw [hstep]
        exact h.finish hw hid hprompt

-- ── distinct ids

/-- **IDS END UP DISTINCT**, and in range, where no update takes an id from a younger claim that nobody
    is to look at again; and the rule by which groups yield spares exactly one of any set. -/
theorem ids_distinct (anchored : String → Bool) (s : State)
    (h : Reaches (step anchored) Prompt Fresh s) (hqueue : s.queue = ∅)
    (hjobs : s.jobs = ∅) :
    (∀ n m sg o, s.groups.lookup n = some sg → s.groups.lookup m = some o → sg.vpc = o.vpc →
      sg.id = o.id → sg.id ≠ 0 → n = m) ∧
    (∀ n sg, s.groups.lookup n = some sg → sg.id ≠ 0 → 1 ≤ sg.id ∧ sg.id ≤ 62) ∧
    ∀ (holders : Finset String) (group : String → Group), holders.Nonempty →
      ∃! n, n ∈ holders ∧ ∀ m ∈ holders, m ≠ n → sgClaimOlder m (group m) n (group n) = false := by
  have hinv : Inv anchored s := by
    refine h.invariant (fun s hs => ?_) fun s e hs => hs.step
    refine ⟨fun n sg hn => (hs.1 n sg hn).2, fun w j hj => ?_, fun n sg hn _ => .inl (hs.1 n sg hn).1⟩
    rw [hs.2] at hj
    nomatch hj
  have hquiet : ∀ n sg, s.groups.lookup n = some sg → ¬Due anchored s.groups n sg := by
    intro n sg hn hdue
    rcases hinv.watched n sg hn hdue with hmem | ⟨w, j, hj, -⟩
    · rw [hqueue] at hmem
      nomatch hmem
    · rw [hjobs] at hj
      nomatch hj
  refine ⟨fun n m sg o hn hm hvpc hid hne => ?_, fun n sg hn hne => ?_, fun holders group hsome => ?_⟩
  · by_contra hnm
    -- one of the two has the older claim, and the other one loses to it
    rcases lt_or_gt_of_ne (a := toLex (sg.created, n)) (b := toLex (o.created, m))
      (fun heq => hnm (Prod.mk.inj (toLex.injective heq)).2) with hlt | hlt
    · exact hquiet m o hm ⟨hid ▸ hne, .inr (.inr ⟨n, sg, hn, hnm, hvpc, hid, older_iff.mpr hlt⟩)⟩
    · exact hquiet n sg hn
        ⟨hne, .inr (.inr ⟨m, o, hm, Ne.symm hnm, hvpc.symm, hid.symm, older_iff.mpr hlt⟩)⟩
  · have hvalid : validID sg.id = true := by
      by_contra hbad
      exact hquiet n sg hn ⟨hne, .inr (.inl (Bool.eq_false_of_not_eq_true hbad))⟩
    change (decide (0 < sg.id) && decide (sg.id < 63)) = true at hvalid
    simp at hvalid
    omega
  · obtain ⟨n, hn, hmin⟩ := holders.exists_min_image (fun n => toLex ((group n).created, n)) hsome
    refine ⟨n, ⟨hn, fun m hm _ => ?_⟩, fun m hm => ?_⟩
    · exact Bool.eq_false_of_not_eq_true fun hold => (hmin m hm).not_gt (older_iff.mp hold)
    · by_contra hmn
      refine absurd (hm.2 n hn (Ne.symm hmn)) (Bool.not_eq_false _ ▸ older_iff.mpr ?_)
      refine lt_of_le_of_ne (hmin m hm.1) fun heq => hmn ?_
      exact (Prod.mk.inj (toLex.injective heq)).2.symm

/-- An empty namespace. -/
def empty : State := ⟨∅, ∅, ∅, 0⟩

theorem empty_fresh : Fresh empty := ⟨by rintro n sg ⟨⟩, rfl⟩

/-- Nobody younger holds the id that the run has decided on. -/
def untaken (s : State) : Event → Bool
  | .update w => (s.jobs.lookup w).all fun j => !meets s.groups j.name j.sg fun m o =>
      j.id == some o.id && o.id != 0 && sgClaimOlder j.name j.sg m o
  | _ => true

theorem Prompt.of_untaken {e : Event} (h : untaken s e = true) : Prompt s e := by
  cases e with
  | update w =>
    intro j id hj hid hzero _ _ m o hm hne hvpc heq holder
    simp only [untaken] at h
    rw [hj, Option.all_some, Bool.not_eq_true', Bool.eq_false_iff] at h
    refine absurd (meets_iff.mpr ⟨m, o, hm, hne, hvpc, ?_⟩) h
    rw [heq, hid, holder]
    simp [hzero]
  | create | delete | get | list => trivial

/-- A run for a group, from beginning to end. -/
def wholeRun (w : Nat) (name : String) : List Event := [.get w name, .list w, .update w]

/-- The younger group `y` has listed when the older `x` takes id 1; then `y` writes 1 as well, looks
    again, yields and takes 2. -/
def repair : List Event :=
  [.create "x" "v" 0, .create "y" "v" 1, .get 0 "y", .list 0] ++ wholeRun 1 "x" ++ [.update 0] ++
    wholeRun 0 "y" ++ wholeRun 0 "y" ++ wholeRun 0 "y" ++ wholeRun 1 "x"

theorem ids_distinct_repair : ∃ shared s : State,
    (shared.groups.lookup "x").map Group.id = some 1 ∧ (shared.groups.lookup "y").map Group.id = some 1 ∧
    s = (repair.drop 8).foldl (step fun _ => true) shared ∧
    (s.groups.lookup "x").map Group.id = some 1 ∧ (s.groups.lookup "y").map Group.id = some 2 ∧
    ∀ n m sg o, s.groups.lookup n = some sg → s.groups.lookup m = some o → sg.vpc = o.vpc →
      sg.id = o.id → sg.id ≠ 0 → n = m := by
  have hfree : AllMeet (fun s e => untaken s e = true) (step fun _ => true) empty repair :=
    ⟨rfl, rfl, rfl, rfl, rfl, rfl, rfl, rfl, rfl, rfl, rfl, rfl, rfl, rfl, rfl, rfl, rfl, rfl, rfl, rfl,
      trivial⟩
  have hmeet := hfree.imp fun s e h => Prompt.of_untaken h
  refine ⟨(repair.take 8).foldl (step fun _ => true) empty, _, by decide +kernel, by decide +kernel, rfl,
    by decide +kernel, by decide +kernel, ?_⟩
  exact (ids_distinct (fun _ => true) _ ((Reaches.start empty_fresh).extend hmeet) (by decide +kernel)
    rfl).1

/-- The older group `x` has listed; the younger `y` takes id 1 and is settled; then `x` writes 1. -/
def staleList : List Event :=
  [.create "x" "v" 0, .create "y" "v" 1, .get 0 "x", .list 0] ++ wholeRun 1 "y" ++ wholeRun 1 "y" ++
    [.update 0] ++ wholeRun 0 "x"

/-- **TWO GROUPS KEEP ONE ID**: the winner of the rule wrote last, and only the winner looked again. -/
theorem ids_shared : ∃ s, Reaches (step fun _ => true) (fun _ _ => True) Fresh s ∧ s.queue = ∅ ∧
    s.jobs = ∅ ∧ (s.groups.lookup "x").map Group.id = some 1 ∧
    (s.groups.lookup "y").map Group.id = some 1 :=
  have hmeet : AllMeet (fun _ _ => True) (step fun _ => true) empty staleList := by
    simp [staleList, wholeRun, AllMeet]
  ⟨_, (Reaches.start empty_fresh).extend hmeet, by decide +kernel, rfl, by decide +kernel, by decide +kernel⟩

end CozySgIds
