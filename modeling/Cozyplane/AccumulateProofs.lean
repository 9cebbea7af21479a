import Mathlib

/-!
# Accumulating steps — what a fallible loop collects

A compiler pass is a chain of steps on an accumulator, each of which may fail (a budget, a
capacity) and otherwise ADDS rows. What matters to a reader of the result is the set of rows
a successful run has added; how the loops were nested, and what they spent, does not.

`Adds view step rows` says that of one step; sequencing, branching and looping keep it.
-/

namespace Accumulate

variable {σ α ρ ε : Type}

/-- A run of `step` that succeeds adds exactly `rows` to what `view` sees. -/
def Adds (view : σ → ρ → Prop) (step : σ → Except ε σ) (rows : ρ → Prop) : Prop :=
  ∀ s s', step s = .ok s' → ∀ r, view s' r ↔ view s r ∨ rows r

/-- Loop over a list, threading the accumulator. -/
def forEach (xs : List α) (step : α → σ → Except ε σ) (s : σ) : Except ε σ :=
  match xs with
  | [] => .ok s
  | x :: xs =>
    match step x s with
    | .ok s' => forEach xs step s'
    | .error e => .error e

/-- One step after another. -/
def andThen (step₁ step₂ : σ → Except ε σ) (s : σ) : Except ε σ :=
  match step₁ s with
  | .ok s' => step₂ s'
  | .error e => .error e

theorem andThen_ok {step₁ step₂ : σ → Except ε σ} {s s' : σ}
    (h : andThen step₁ step₂ s = .ok s') : ∃ t, step₁ s = .ok t ∧ step₂ t = .ok s' := by
  unfold andThen at h
  split at h
  · rename_i t ht
    exact ⟨t, ht, h⟩
  · nomatch h

theorem bind_ok {β : Type} {x : Except ε α} {f : α → Except ε β} {b : β}
    (h : x >>= f = .ok b) : ∃ a, x = .ok a ∧ f a = .ok b := by
  cases x with
  | error e => nomatch h
  | ok a => exact ⟨a, rfl, h⟩

variable {view : σ → ρ → Prop}

theorem Adds.skip : Adds view (fun s => (.ok s : Except ε σ)) (fun _ => False) := by
  intro s s' h r
  cases h
  simp

theorem Adds.silent {step : σ → Except ε σ}
    (h : ∀ s s', step s = .ok s' → ∀ r, view s' r ↔ view s r) :
    Adds view step (fun _ => False) := by
  intro s s' hs r
  rw [h s s' hs r, or_false]

theorem Adds.congr {step : σ → Except ε σ} {rows rows' : ρ → Prop} (h : Adds view step rows)
    (hr : ∀ r, rows r ↔ rows' r) : Adds view step rows' := by
  intro s s' hs r
  rw [h s s' hs r, hr r]

theorem Adds.seq {step₁ step₂ : σ → Except ε σ} {rows₁ rows₂ : ρ → Prop}
    (h₁ : Adds view step₁ rows₁) (h₂ : Adds view step₂ rows₂) :
    Adds view (andThen step₁ step₂) (fun r => rows₁ r ∨ rows₂ r) := by
  intro s s' h r
  obtain ⟨t, ht, hs'⟩ := andThen_ok h
  rw [h₂ t s' hs' r, h₁ s t ht r, or_assoc]

variable {xs : List α} {step : α → σ → Except ε σ}

theorem forEach_cons_ok {x : α} {s s' : σ} (h : forEach (x :: xs) step s = .ok s') :
    ∃ t, step x s = .ok t ∧ forEach xs step t = .ok s' := by
  unfold forEach at h
  split at h
  · rename_i t ht
    exact ⟨t, ht, h⟩
  · nomatch h

/-- **INVARIANTS OF A LOOP**, over what it has done so far: induction on what is left. -/
theorem forEach_ind {I : List α → σ → Prop} {s s' : σ} (hnil : I [] s)
    (hstep : ∀ done, ∀ x ∈ xs, ∀ t t', I done t → step x t = .ok t' → I (done ++ [x]) t')
    (h : forEach xs step s = .ok s') : I xs s' := by
  have hloop : ∀ (rest done : List α) (t : σ), (∀ x ∈ rest, x ∈ xs) → I done t →
      forEach rest step t = .ok s' → I (done ++ rest) s' := by
    intro rest
    induction rest with
    | nil =>
      intro done t _ hI ht
      cases ht
      rwa [List.append_nil]
    | cons x rest ih =>
      intro done t hsub hI ht
      obtain ⟨t', ht', hrest⟩ := forEach_cons_ok ht
      have hnext := ih (done ++ [x]) t' (fun y hy => hsub y (.tail _ hy))
        (hstep done x (hsub x (.head _)) t t' hI ht') hrest
      rwa [List.append_assoc, List.singleton_append] at hnext
  exact hloop xs [] s (fun _ hx => hx) hnil h

/-- **A LOOP ADDS THE UNION.** -/
theorem Adds.forEach (xs : List α) {rows : α → ρ → Prop} (h : ∀ x ∈ xs, Adds view (step x) (rows x)) :
    Adds view (Accumulate.forEach xs step) (fun r => ∃ x ∈ xs, rows x r) := by
  intro s s' hs r
  refine forEach_ind (I := fun done t => view t r ↔ view s r ∨ ∃ x ∈ done, rows x r) (by simp)
    (fun done x hx t t' hI ht => ?_) hs
  rw [h x hx t t' ht r, hI, or_assoc]
  simp [or_and_right, exists_or]

/-- A loop keeps an invariant, and what one of its steps establishes and the later ones
    keep. -/
theorem forEach_establishes {xs : List α} {step : α → σ → Except ε σ} {I : σ → Prop}
    {le : σ → σ → Prop} {post : α → σ → Prop} (hrefl : ∀ s, le s s)
    (htrans : ∀ a b c, le a b → le b c → le a c)
    (hpost : ∀ x s s', le s s' → post x s → post x s')
    (hstep : ∀ x ∈ xs, ∀ s s', I s → step x s = .ok s' → I s' ∧ le s s' ∧ post x s') :
    ∀ s s', I s → forEach xs step s = .ok s' → I s' ∧ le s s' ∧ ∀ x ∈ xs, post x s' := by
  intro s s' hI h
  refine forEach_ind (I := fun done t => I t ∧ le s t ∧ ∀ x ∈ done, post x t)
    ⟨hI, hrefl s, nofun⟩ ?_ h
  rintro done x hx t t' ⟨hIt, hle, hall⟩ ht
  obtain ⟨hI', hle', hp⟩ := hstep x hx t t' hIt ht
  refine ⟨hI', htrans _ _ _ hle hle', fun y hy => ?_⟩
  rcases List.mem_append.mp hy with hy | hy
  · exact hpost y t t' hle' (hall y hy)
  · rwa [List.mem_singleton.mp hy]

theorem forEach_keeps {I : σ → Prop} (hstep : ∀ x ∈ xs, ∀ s s', I s → step x s = .ok s' → I s')
    {s s' : σ} (hI : I s) (h : forEach xs step s = .ok s') : I s' :=
  forEach_ind (I := fun _ t => I t) hI (fun _ => hstep) h

theorem forEach_succeeds {I : σ → Prop} (hstep : ∀ x ∈ xs, ∀ s, I s → ∃ s', step x s = .ok s' ∧ I s') :
    ∀ s, I s → ∃ s', forEach xs step s = .ok s' ∧ I s' := by
  induction xs with
  | nil =>
    intro s hI
    exact ⟨s, rfl, hI⟩
  | cons x xs ih =>
    intro s hI
    obtain ⟨t, ht, hIt⟩ := hstep x (.head _) s hI
    obtain ⟨s', hs', hI'⟩ := ih (fun y hy => hstep y (.tail _ hy)) t hIt
    refine ⟨s', ?_, hI'⟩
    unfold forEach
    rw [ht]
    exact hs'

theorem forEach_passed {check : α → Except ε Unit} {u v : Unit}
    (h : forEach xs (fun x _ => check x) u = .ok v) : ∀ x ∈ xs, check x = .ok () :=
  forEach_ind (I := fun done _ => ∀ x ∈ done, check x = .ok ()) nofun
    (fun _ _ _ _ _ hdone hx => List.forall_mem_append.mpr ⟨hdone, List.forall_mem_singleton.mpr hx⟩) h

theorem forEach_into {τ : Type} (put : τ → σ) {bad : α → Prop} [DecidablePred bad] {e : ε}
    {take : τ → α → τ} (h : ∀ x m, step x (put m) = if bad x then .error e else .ok (put (take m x)))
    (m : τ) (s' : σ) :
    forEach xs step (put m) = .ok s' ↔ (∀ x ∈ xs, ¬ bad x) ∧ s' = put (xs.foldl take m) := by
  induction xs generalizing m with
  | nil =>
    unfold forEach
    simp [eq_comm]
  | cons x xs ih =>
    unfold forEach
    rw [h, List.forall_mem_cons, List.foldl_cons]
    by_cases hx : bad x
    · rw [if_pos hx]
      exact iff_of_false nofun fun hall => hall.1.1 hx
    · rw [if_neg hx, and_iff_right hx]
      exact ih _

/-- A loop whose steps each emit a list, or fail, without looking at the state: `put` adds what
    was emitted. -/
structure Collecting {β : Type} (put : σ → List β → σ) (step : α → σ → Except ε σ)
    (emit : α → Except ε (List β)) : Prop where
  nil : ∀ s, put s [] = s
  app : ∀ s a b, put (put s a) b = put s (a ++ b)
  step : ∀ x s, step x s = match emit x with
    | .ok ys => .ok (put s ys)
    | .error e => .error e

/-- What a step that succeeds emits. -/
def emitted {β : Type} : Except ε (List β) → List β
  | .ok ys => ys
  | .error _ => []

/-- **A COLLECTING LOOP** succeeds iff every step does, and then has added all they emit. -/
theorem Collecting.forEach_ok_iff {β : Type} {put : σ → List β → σ} {emit : α → Except ε (List β)}
    (h : Collecting put step emit) (xs : List α) (s s' : σ) :
    Accumulate.forEach xs step s = .ok s' ↔
      (∀ x ∈ xs, ∃ ys, emit x = .ok ys) ∧ s' = put s (xs.flatMap fun x => emitted (emit x)) := by
  induction xs generalizing s with
  | nil =>
    unfold Accumulate.forEach
    rw [List.flatMap_nil, h.nil, Except.ok.injEq, eq_comm]
    simp
  | cons x xs ih =>
    unfold Accumulate.forEach
    rw [h.step x s]
    cases hx : emit x with
    | error e => simp [hx]
    | ok ys =>
      rw [ih, h.app, List.flatMap_cons, hx]
      simp [hx, emitted]

end Accumulate
