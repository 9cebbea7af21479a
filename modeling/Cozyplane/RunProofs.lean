import Mathlib

/-!
# Runs — labelled steps, invariants, and the latest entry of a log

A system is a step function on labelled events, together with a condition that says which
events may be taken in which state.
-/

namespace Run

variable {σ ℓ α κ κ' : Type}

/-- The states of the runs from `init` whose events all meet `ok` when they are taken. -/
inductive Reaches (step : σ → ℓ → σ) (ok : σ → ℓ → Prop) (init : σ → Prop) : σ → Prop where
  | start {s : σ} : init s → Reaches step ok init s
  | next {s : σ} {l : ℓ} : Reaches step ok init s → ok s l → Reaches step ok init (step s l)

variable {P : σ → Prop} {step : σ → ℓ → σ} {key : α → κ} {ok : σ → ℓ → Prop} {s : σ}

/-- **INVARIANTS**: induction on the run. -/
theorem Reaches.invariant {init Inv : σ → Prop} (hinit : ∀ s, init s → Inv s)
    (hstep : ∀ s l, Inv s → ok s l → Inv (step s l)) (h : Reaches step ok init s) : Inv s := by
  induction h with
  | start hs => exact hinit _ hs
  | next _ hok ih => exact hstep _ _ ih hok

/-- `P` holds in every state of the run of `es` from `s`. -/
def Throughout (P : σ → Prop) (step : σ → ℓ → σ) (s : σ) : List ℓ → Prop
  | [] => P s
  | e :: es => P s ∧ Throughout P step (step s e) es

/-- Every event of the run meets `ok` in the state it is taken in. -/
def AllMeet (ok : σ → ℓ → Prop) (step : σ → ℓ → σ) (s : σ) : List ℓ → Prop
  | [] => True
  | e :: es => ok s e ∧ AllMeet ok step (step s e) es

/-- A weaker condition on the events. -/
theorem AllMeet.imp {ok' : σ → ℓ → Prop} {es : List ℓ} (h : AllMeet ok step s es)
    (himp : ∀ s e, ok s e → ok' s e) : AllMeet ok' step s es := by
  induction es generalizing s with
  | nil => trivial
  | cons e es ih => exact ⟨himp s e h.1, ih h.2⟩

theorem Reaches.extend {init : σ → Prop} {es : List ℓ} (h : Reaches step ok init s)
    (hes : AllMeet ok step s es) :
    Reaches step ok init (es.foldl step s) := by
  induction es generalizing s with
  | nil => exact h
  | cons e es ih => exact ih (h.next hes.1) hes.2

theorem Throughout.start {es : List ℓ} (h : Throughout P step s es) : P s := by
  cases es with
  | nil => exact h
  | cons e es => exact h.1

/-- **EXACT RUNS UNDER AN INVARIANT** `I` that each event keeps. -/
theorem throughout_iff_under {I : σ → Prop}
    (hstep : ∀ s e, I s → P s → I (step s e) ∧ (P (step s e) ↔ ok s e)) (hI : I s) (hs : P s)
    (es : List ℓ) : Throughout P step s es ↔ AllMeet ok step s es := by
  induction es generalizing s with
  | nil => exact iff_of_true hs trivial
  | cons e es ih =>
    obtain ⟨hI', hiff⟩ := hstep s e hI hs
    constructor
    · rintro ⟨_, hrest⟩
      exact ⟨hiff.mp hrest.start, (ih hI' hrest.start).mp hrest⟩
    · rintro ⟨hok, hrest⟩
      exact ⟨hs, (ih hI' (hiff.mpr hok)).mpr hrest⟩

/-- **EXACT RUNS**: where each event keeps `P` exactly when it meets `ok`, a run has `P` throughout
    exactly when all its events do. -/
theorem throughout_iff (hstep : ∀ s e, P s → (P (step s e) ↔ ok s e)) (hs : P s) (es : List ℓ) :
    Throughout P step s es ↔ AllMeet ok step s es :=
  throughout_iff_under (I := fun _ => True) (fun s e _ h => ⟨trivial, hstep s e h⟩) trivial hs es

/-- The newest entry filed under `k`. -/
def latest [DecidableEq κ] (key : α → κ) (k : κ) (log : List α) : Option α :=
  log.find? fun a => key a = k

theorem latest_cons_self [DecidableEq κ] {k : κ} {a : α} (h : key a = k) (log : List α) :
    latest key k (a :: log) = some a :=
  List.find?_cons_of_pos (decide_eq_true h)

theorem latest_cons_ne [DecidableEq κ] {k : κ} {a : α} (h : key a ≠ k) (log : List α) :
    latest key k (a :: log) = latest key k log :=
  List.find?_cons_of_neg (by simpa using h)

theorem latest_key [DecidableEq κ] {k : κ} {log : List α} {a : α} (h : latest key k log = some a) :
    key a = k := by
  simpa using List.find?_some h

/-- **REFINING THE KEY** keeps the newest entry, when it has the finer key itself. -/
theorem latest_refine [DecidableEq κ] [DecidableEq κ'] {fine : α → κ'} {k : κ} {j : κ'} {log : List α}
    {a : α} (hfine : ∀ b, fine b = j → key b = k) (h : latest key k log = some a) (ha : fine a = j) :
    latest fine j log = some a := by
  induction log with
  | nil => nomatch h
  | cons b log ih =>
    by_cases hb : key b = k
    · rw [latest_cons_self hb] at h
      cases h
      exact latest_cons_self ha log
    · rw [latest_cons_ne hb] at h
      rw [latest_cons_ne fun hj => hb (hfine b hj)]
      exact ih h

end Run
