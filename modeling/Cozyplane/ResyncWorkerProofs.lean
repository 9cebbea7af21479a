import Cozyplane.RunProofs

/-!
# The resync worker — no notification is lost

`periodicResyncAfterCacheSync` hands out a function that any goroutine may call, and starts the one
worker that applies. A call is dropped if an informer is not synced yet, or if a pass is pending
already; the worker folds what arrives during its delay into the pass it is about to make.

Goroutines, informers and worker take one step at a time, in any order. A goroutine asks the
informers one by one, and so does `WaitForCacheSync`.
-/

namespace CozyResync

open Run Function

/-- What the worker does next; it has `todo` left to ask in this poll of the caches. -/
inductive Worker (ι : Type) where
  | syncing (todo : List ι)
  | starting
  | applying
  | waiting
  | delaying
  | folding
  deriving DecidableEq

/-- The history: a call of the returned function that is over, and the ends of an `apply`. -/
inductive Mark (κ : Type) where
  | notified (caller : κ)
  | started
  | finished
  deriving DecidableEq

/-- `calls` are the calls under way, with the informers they have left to ask; the history has its
    newest mark first. -/
structure State (ι κ : Type) where
  ready : ι → Bool
  pending : Bool
  worker : Worker ι
  calls : κ → Option (List ι)
  log : List (Mark κ)

/-- An informer is synced; a goroutine, or the worker, takes its next step. `tick` is the retry
    tick. -/
inductive Event (ι κ : Type) where
  | sync (i : ι)
  | notify (k : κ)
  | work (tick : Bool)

/-- `resync`, at its next step: it asks an informer, and returns if that one is not synced; after the
    last one it offers a pass to the channel and returns. With the channel afterwards comes what is
    left to ask, none when it has returned. -/
def resync {ι : Type} (ready : ι → Bool) (pending : Bool) : List ι → Bool × Option (List ι)
  | [] => (true, none)
  | i :: todo => if ready i then (pending, some todo) else (pending, none)

/-- The worker's next step, with the channel. -/
def work {ι : Type} (synced : List ι) (ready : ι → Bool) (pending tick : Bool) :
    Worker ι → Bool × Worker ι
  | .syncing [] => (pending, .starting)
  | .syncing (i :: todo) => (pending, .syncing (if ready i then todo else synced))
  | .starting => (pending, .applying)
  | .applying => (pending, .waiting)
  | .waiting =>
    if tick then (pending, .delaying) else if pending then (false, .delaying) else (pending, .waiting)
  | .delaying => (pending, .folding)
  | .folding => (false, .starting)

variable {ι κ : Type} [DecidableEq ι] [DecidableEq κ]

/-- An `apply` has started when the worker comes to it, and is over when the worker leaves it. -/
def marks (before after : Worker ι) : List (Mark κ) :=
  if before = after then []
  else if after = .applying then [.started]
  else if before = .applying then [.finished] else []

/-- What a call has left of the channel, and what of itself; where nothing is left, it is over. -/
def State.answered (s : State ι κ) (k : κ) (r : Bool × Option (List ι)) : State ι κ :=
  { s with
    pending := r.1
    calls := update s.calls k r.2
    log := if r.2.isNone then .notified k :: s.log else s.log }

/-- One step of the system. What is recorded is read off the step: a call that has returned, and where
    the worker was and is. -/
def step (synced : List ι) (s : State ι κ) : Event ι κ → State ι κ
  | .sync i => { s with ready := update s.ready i true }
  | .notify k =>
    match s.calls k with
    | none => { s with calls := update s.calls k (some synced) }
    | some todo => s.answered k (resync s.ready s.pending todo)
  | .work tick =>
    let r := work synced s.ready s.pending tick s.worker
    { s with pending := r.1, worker := r.2, log := marks s.worker r.2 ++ s.log }

/-- The goroutines are about to run. -/
def Initial (synced : List ι) (s : State ι κ) : Prop :=
  s.pending = false ∧ s.worker = .syncing synced ∧ s.calls = (fun _ => none) ∧ s.log = []

/-- An `apply` has started after every notification. -/
def Covered (log : List (Mark κ)) : Prop :=
  ∀ newer k older, log = newer ++ .notified k :: older → .started ∈ newer

/-- The worker is on its way to `apply`. -/
def Worker.committed : Worker ι → Bool
  | .syncing _ | .starting | .delaying | .folding => true
  | .applying | .waiting => false

/-- What is left to ask is of the list, and a worker past its polls has found all synced. -/
structure Inv (synced : List ι) (s : State ι κ) : Prop where
  covered : Covered s.log ∨ s.pending = true ∨ s.worker.committed = true
  calls : ∀ k todo, s.calls k = some todo → todo ⊆ synced
  polled : ∀ i ∈ synced, s.ready i = true ∨ ∃ todo, s.worker = .syncing todo ∧ i ∈ todo
  running : s.log.count .started = s.log.count .finished + if s.worker = .applying then 1 else 0

omit [DecidableEq κ] in
theorem Covered.cons {log : List (Mark κ)} (h : Covered log) {m : Mark κ}
    (hm : ∀ k, m ≠ .notified k) : Covered (m :: log) := by
  intro newer k older heq
  cases newer with
  | nil => exact absurd (List.cons.inj heq).1 (hm k)
  | cons m' newer => exact .tail _ (h newer k older (List.cons.inj heq).2)

omit [DecidableEq κ] in
theorem covered_started (log : List (Mark κ)) : Covered (.started :: log) := by
  intro newer k older heq
  cases newer with
  | nil => nomatch (List.cons.inj heq).1
  | cons m newer =>
    rw [← (List.cons.inj heq).1]
    exact .head _

variable {synced : List ι} {s : State ι κ}

/-- A call may return where a pass is pending, or the worker has yet to start one. -/
theorem Inv.returned (h : Inv synced s) (k : κ) {pending : Bool}
    (hlater : pending = true ∨ s.worker.committed = true) :
    Inv synced (s.answered k (pending, none)) := by
  obtain ⟨-, hcalls, hpolled, hrun⟩ := h
  refine ⟨.inr hlater, ?_, hpolled, ?_⟩ <;> simp only [State.answered] <;> grind

theorem Inv.notify (h : Inv synced s) (k : κ) : Inv synced (step synced s (.notify k)) := by
  have hcalls := h.calls
  simp only [step]
  split
  · exact ⟨h.covered, by grind, h.polled, h.running⟩
  · rename_i todo htodo
    cases todo with
    | nil => exact h.returned k (.inl rfl)
    | cons i todo =>
      simp only [resync]
      split
      · exact ⟨h.covered, by simp only [State.answered]; grind, h.polled, h.running⟩
      · -- the informer is not synced, so the worker is still polling
        rename_i hready
        obtain ⟨left, hw, -⟩ := (h.polled i (by grind)).resolve_left hready
        exact h.returned k (.inr (by rw [hw]; rfl))

/-- The worker leaves its polls when all informers are synced, and ends an `apply` that it started. -/
theorem Inv.work_frame (h : Inv synced s) (tick : Bool) :
    (∀ i ∈ synced, s.ready i = true ∨
      ∃ todo, (work synced s.ready s.pending tick s.worker).2 = .syncing todo ∧ i ∈ todo) ∧
    (step synced s (.work tick)).log.count .started = (step synced s (.work tick)).log.count .finished +
      if (work synced s.ready s.pending tick s.worker).2 = .applying then 1 else 0 := by
  obtain ⟨-, -, hpolled, hrun⟩ := h
  simp only [step]
  cases hw : s.worker with
  | syncing todo => cases todo <;> grind [work, marks]
  | starting | applying | waiting | delaying | folding => grind [work, marks]

theorem Inv.work (h : Inv synced s) (tick : Bool) : Inv synced (step synced s (.work tick)) := by
  obtain ⟨hpolled, hrun⟩ := h.work_frame tick
  refine ⟨?_, h.calls, hpolled, hrun⟩
  simp only [step]
  cases hw : s.worker with
  | syncing todo => cases todo <;> exact .inr (.inr rfl)
  | starting => exact .inl (covered_started _)
  | applying =>
    obtain hcov | hp | hc := h.covered
    · exact .inl (hcov.cons fun k => nofun)
    · exact .inr (.inl hp)
    · nomatch hw ▸ hc
  | waiting =>
    cases tick with
    | true => exact .inr (.inr rfl)
    | false =>
      cases hp : s.pending with
      | true => exact .inr (.inr rfl)
      | false =>
        obtain hcov | hp' | hc := h.covered
        · exact .inl hcov
        · exact absurd (hp.symm.trans hp') Bool.false_ne_true
        · nomatch hw ▸ hc
  | delaying | folding => exact .inr (.inr rfl)

theorem Inv.step (h : Inv synced s) (e : Event ι κ) : Inv synced (step synced s e) := by
  cases e with
  | sync i =>
    have hpolled := h.polled
    exact ⟨h.covered, h.calls, by simp only [CozyResync.step]; grind, h.running⟩
  | notify k => exact h.notify k
  | work tick => exact h.work tick

/-- **NO NOTIFICATION IS LOST**: where the worker waits and nothing is pending, an `apply` has
    started after every call that is over. At most one `apply` runs. -/
theorem resync_covers (h : Reaches (step synced) (fun _ _ => True) (Initial synced) s) :
    (s.worker = .waiting → s.pending = false → Covered s.log) ∧
      s.log.count .started ≤ s.log.count .finished + 1 := by
  have hinv : Inv synced s := by
    refine h.invariant (fun t ht => ?_) fun t e hI _ => hI.step e
    obtain ⟨-, hw, hcalls, hlog⟩ := ht
    refine ⟨.inr (.inr (by rw [hw]; rfl)), ?_, fun i hi => .inr ⟨synced, hw, hi⟩, ?_⟩
    · rw [hcalls]
      exact fun _ _ hnone => nomatch hnone
    · simp [hlog, hw]
  refine ⟨fun hwait hempty => ?_, ?_⟩
  · obtain hcov | hp | hc := hinv.covered
    · exact hcov
    · exact absurd (hempty.symm.trans hp) Bool.false_ne_true
    · rw [hwait] at hc
      nomatch hc
  · rw [hinv.running]
    split
    · exact Nat.le_refl _
    · exact Nat.le_succ _

/-- One informer and one goroutine. -/
def idle : State Unit Unit := ⟨fun _ => false, false, .syncing [()], fun _ => none, []⟩

/-- A call is dropped before the caches are synced; another one arrives during the first `apply`, and
    a third one during the delay is folded into the second. -/
def busyDay : List (Event Unit Unit) :=
  [.notify (), .notify (), .work false, .sync (), .work false, .work false, .work false,
    .notify (), .notify (), .notify (), .work false, .work false, .notify (), .notify (), .notify (),
    .work false, .work false, .work false, .work false]

theorem busyDay_covered :
    (busyDay.foldl (step [()]) idle).log =
      [.finished, .started, .notified (), .finished, .notified (), .started, .notified ()] ∧
    Covered (busyDay.foldl (step [()]) idle).log :=
  ⟨by decide,
    (resync_covers ((Reaches.start ⟨rfl, rfl, rfl, rfl⟩).extend (s := idle)
      (by simp [busyDay, AllMeet]))).1 (by decide) (by decide)⟩

end CozyResync
