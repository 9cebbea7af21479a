import Mathlib

/-!
# Calls — clients that share a server, one call at a time

Several clients run programs against one server. A program is a tree: it has returned, or it
waits for the answer to a CALL. The server says which answers a call may get and what it does to
the shared world; a call that fails, or whose answer is lost after it took effect, is one more
answer the server may give. Between two calls the world may DRIFT.
-/

namespace Calls

open Relation Function

variable {Q : Type} {A : Q → Type} {ρ ρ' σ ι : Type}

/-- A client's program: it is done, or it makes a call and goes on with the answer. -/
inductive Prog (A : Q → Type) (ρ : Type) where
  | ret (r : ρ)
  | call (q : Q) (k : A q → Prog A ρ)

/-- Run `p`, then what `f` makes of its result. -/
def Prog.bind : Prog A ρ → (ρ → Prog A ρ') → Prog A ρ'
  | .ret r, f => f r
  | .call q k, f => .call q fun a => (k a).bind f

instance : Monad (Prog A) where
  pure := .ret
  bind := .bind

/-- The program that makes one call and returns its answer. -/
def ask (q : Q) : Prog A (A q) := .call q .ret

def Prog.result : Prog A ρ → Option ρ
  | .ret r => some r
  | .call _ _ => none

variable {P' : σ → Prop} {p : Prog A ρ}

theorem Prog.result_some {r : ρ} (h : p.result = some r) : p = .ret r := by
  cases p with
  | ret r' => exact congrArg Prog.ret (Option.some.inj h)
  | call q k => nomatch h

/-- Some answers to its calls make the program return `r`. -/
inductive Prog.Gives : Prog A ρ → ρ → Prop where
  | ret (r : ρ) : Gives (.ret r) r
  | call {q : Q} {k : A q → Prog A ρ} {r : ρ} (a : A q) : Gives (k a) r → Gives (.call q k) r

variable {post : ρ → σ → Prop} {f : ρ → Prog A ρ'}

theorem Prog.bind_congr {g : ρ → Prog A ρ'} (h : ∀ r, p.Gives r → f r = g r) :
    p >>= f = p >>= g := by
  show p.bind f = p.bind g
  induction p with
  | ret r => exact h r (.ret r)
  | call q k ih => exact congrArg (Prog.call q) (funext fun a => ih a fun r hr => h r (.call a hr))

theorem Prog.Gives.of_bind {r : ρ'} (h : (p >>= f).Gives r) :
    ∃ r₀, p.Gives r₀ ∧ (f r₀).Gives r := by
  induction p with
  | ret r₀ => exact ⟨r₀, .ret r₀, h⟩
  | call q k ih =>
    cases h with
    | call a h =>
      obtain ⟨r₀, hr₀, hr⟩ := ih a h
      exact ⟨r₀, .call a hr₀, hr⟩

theorem Prog.Gives.of_pure {r r' : ρ} (h : (pure r : Prog A ρ).Gives r') : r' = r := by
  cases h with
  | ret => rfl

/-- What a client's call may do to the world and answer, and how the world may change besides. -/
structure Server (ι : Type) (A : Q → Type) (σ : Type) where
  serve : ι → (q : Q) → σ → A q → σ → Prop
  drift : σ → σ → Prop

/-- The world, and where each client is in its program. -/
structure System (ι : Type) (A : Q → Type) (ρ σ : Type) where
  world : σ
  prog : ι → Prog A ρ

/-- A client's call is answered, or the world drifts. -/
inductive Step [DecidableEq ι] (S : Server ι A σ) : System ι A ρ σ → System ι A ρ σ → Prop where
  | call {s : System ι A ρ σ} {i : ι} {q : Q} {k : A q → Prog A ρ} {a : A q} {w : σ} :
      s.prog i = .call q k → S.serve i q s.world a w →
      Step S s ⟨w, update s.prog i (k a)⟩
  | drift {s : System ι A ρ σ} {w : σ} : S.drift s.world w → Step S s ⟨w, s.prog⟩

/-- The client `i` is done and has returned `r`. -/
def System.Returned (s : System ι A ρ σ) (i : ι) (r : ρ) : Prop := s.prog i = .ret r

/-- An invariant of the world, and for each client what the others and the drift may do between
    two of its calls. -/
structure Contract (S : Server ι A σ) where
  inv : σ → Prop
  rely : ι → σ → σ → Prop
  refl : ∀ i s, rely i s s
  trans : ∀ i {s₁ s₂ s₃}, rely i s₁ s₂ → rely i s₂ s₃ → rely i s₁ s₃
  drift_inv : ∀ {s s'}, inv s → S.drift s s' → inv s'
  drift_rely : ∀ {s s'} i, inv s → S.drift s s' → rely i s s'

variable {s : System ι A ρ σ}

section

variable {S : Server ι A σ} (C : Contract S) (i : ι)

/-- The program keeps the invariant, does to the others only what they rely on, and returns with
    `post`, whatever they do in between. -/
def Safe (post : ρ → σ → Prop) : Prog A ρ → σ → Prop
  | .ret r, s => ∀ s', C.rely i s s' → C.inv s' → post r s'
  | .call q k, s => ∀ s₁ a s₂, C.rely i s s₁ → C.inv s₁ → S.serve i q s₁ a s₂ →
      C.inv s₂ ∧ (∀ j, j ≠ i → C.rely j s₁ s₂) ∧ Safe post (k a) s₂

variable {C i}

theorem Safe.later {s s' : σ} (h : Safe C i post p s) (hs : C.rely i s s') : Safe C i post p s' := by
  cases p with
  | ret r =>
    intro s₁ h₁ hinv
    exact h s₁ (C.trans i hs h₁) hinv
  | call q k =>
    intro s₁ a s₂ h₁ hinv hserve
    exact h s₁ a s₂ (C.trans i hs h₁) hinv hserve

theorem Contract.leads_step [DecidableEq ι] (C : Contract S) {post : ι → ρ → σ → Prop}
    {s' : System ι A ρ σ} (hinv : C.inv s.world) (hsafe : ∀ i, Safe C i (post i) (s.prog i) s.world)
    (hstep : Step S s s') :
    C.inv s'.world ∧ ∀ i, Safe C i (post i) (s'.prog i) s'.world := by
  cases hstep with
  | @call i q k a w hprog hserve =>
    have hi := hsafe i
    rw [hprog] at hi
    obtain ⟨hinv', hothers, hk⟩ := hi _ _ _ (C.refl i _) hinv hserve
    refine ⟨hinv', fun j => ?_⟩
    by_cases hj : j = i
    · subst hj
      show Safe C j (post j) (update s.prog j (k a) j) w
      rw [update_self]
      exact hk
    · show Safe C j (post j) (update s.prog i (k a) j) w
      rw [update_of_ne hj]
      exact (hsafe j).later (hothers j hj)
  | drift hdrift =>
    exact ⟨C.drift_inv hinv hdrift, fun i => (hsafe i).later (C.drift_rely i hinv hdrift)⟩

/-- **EVERY INTERLEAVING** of safe programs keeps the invariant, and leaves each of them safe:
    induction on the run. -/
theorem Contract.leads [DecidableEq ι] (C : Contract S) {post : ι → ρ → σ → Prop} {s₀ : System ι A ρ σ}
    (hinv : C.inv s₀.world) (hsafe : ∀ i, Safe C i (post i) (s₀.prog i) s₀.world)
    (hrun : ReflTransGen (Step S) s₀ s) :
    C.inv s.world ∧ ∀ i, Safe C i (post i) (s.prog i) s.world := by
  induction hrun with
  | refl => exact ⟨hinv, hsafe⟩
  | tail _ hstep ih => exact C.leads_step ih.1 ih.2 hstep

theorem Safe.returned {r : ρ} (h : Safe C i post (s.prog i) s.world) (hinv : C.inv s.world)
    (hr : s.Returned i r) :
    post r s.world := by
  rw [hr] at h
  exact h _ (C.refl i _) hinv

-- ── triples

variable (C i)

/-- `P` survives what the client `i` relies on. -/
def Stable (P : σ → Prop) : Prop := ∀ s s', C.inv s → C.inv s' → C.rely i s s' → P s → P s'

/-- From a world with `P` the program is safe and returns with `post`. -/
def Triple (P : σ → Prop) (p : Prog A ρ) (post : ρ → σ → Prop) : Prop :=
  ∀ s, C.inv s → P s → Safe C i post p s

variable {C i}

variable {P : σ → Prop}

theorem Triple.ret {r : ρ} (hP : Stable C i P) (h : ∀ s, C.inv s → P s → post r s) :
    Triple C i P (pure r) post := by
  intro s hinv hs s' hlater hinv'
  exact h s' hinv' (hP s s' hinv hinv' hlater hs)

theorem Triple.done (r : ρ) : Triple C i P (pure r) fun _ _ => True :=
  fun _ _ _ _ _ _ => trivial

/-- The rule for one call: what it asks is checked in the world the call is served in. -/
theorem Triple.ask {q : Q} {post : A q → σ → Prop} (hP : Stable C i P)
    (hpost : ∀ a, Stable C i (post a)) (h : ∀ s a s', C.inv s → P s → S.serve i q s a s' →
      C.inv s' ∧ (∀ j, j ≠ i → C.rely j s s') ∧ post a s') : Triple C i P (ask q) post := by
  intro s hinv hs s₁ a s₂ hlater hinv₁ hserve
  obtain ⟨hinv₂, hothers, ha⟩ := h s₁ a s₂ hinv₁ (hP s s₁ hinv hinv₁ hlater hs) hserve
  refine ⟨hinv₂, hothers, fun s₃ h₃ hinv₃ => ?_⟩
  exact hpost a s₂ s₃ hinv₂ hinv₃ h₃ ha

theorem Safe.bind {mid : ρ → σ → Prop} {post : ρ' → σ → Prop} {s : σ} (hinv : C.inv s)
    (hp : Safe C i mid p s) (hf : ∀ r, Triple C i (mid r) (f r) post) : Safe C i post (p.bind f) s := by
  induction p generalizing s with
  | ret r => exact hf r s hinv (hp s (C.refl i s) hinv)
  | call q k ih =>
    intro s₁ a s₂ h₁ hinv₁ hserve
    obtain ⟨hinv₂, hothers, hk⟩ := hp s₁ a s₂ h₁ hinv₁ hserve
    exact ⟨hinv₂, hothers, ih a hinv₂ hk⟩

theorem Triple.bind {post : ρ' → σ → Prop} (mid : ρ → σ → Prop) (hp : Triple C i P p mid)
    (hf : ∀ r, Triple C i (mid r) (f r) post) : Triple C i P (p >>= f) post :=
  fun s hinv hs => Safe.bind hinv (hp s hinv hs) hf

theorem Triple.strengthen (h : Triple C i P p post) (hP : ∀ s, C.inv s → P' s → P s) :
    Triple C i P' p post :=
  fun s hinv hs => h s hinv (hP s hinv hs)

theorem Safe.weaken {post' : ρ → σ → Prop} {s : σ} (h : Safe C i post p s)
    (hpost : ∀ r s, post r s → post' r s) : Safe C i post' p s := by
  induction p generalizing s with
  | ret r => exact fun s' hlater hinv => hpost r s' (h s' hlater hinv)
  | call q k ih =>
    intro s₁ a s₂ h₁ hinv₁ hserve
    obtain ⟨hinv₂, hothers, hk⟩ := h s₁ a s₂ h₁ hinv₁ hserve
    exact ⟨hinv₂, hothers, ih a hk⟩

theorem Triple.weaken {post' : ρ → σ → Prop} (h : Triple C i P p post)
    (hpost : ∀ r s, post r s → post' r s) : Triple C i P p post' :=
  fun s hinv hs => (h s hinv hs).weaken hpost

theorem Triple.given {c : Prop} (h : c → Triple C i P p post) :
    Triple C i (fun s => c ∧ P s) p post :=
  fun s hinv hs => h hs.1 s hinv hs.2

theorem Triple.ite {c : Prop} [Decidable c] {p' : Prog A ρ} (hp : c → Triple C i P p post)
    (hp' : ¬c → Triple C i P p' post) : Triple C i P (if c then p else p') post := by
  split
  · rename_i hc
    exact hp hc
  · rename_i hc
    exact hp' hc

theorem Stable.and (h : Stable C i P) (h' : Stable C i P') : Stable C i fun s => P s ∧ P' s :=
  fun s s' hinv hinv' hlater hs =>
    ⟨h s s' hinv hinv' hlater hs.1, h' s s' hinv hinv' hlater hs.2⟩

theorem Stable.const (p : Prop) : Stable C i fun _ => p := fun _ _ _ _ _ h => h

variable {ε : Type}

/-- A result that is an error, or a value with `R`. -/
def Okay (R : ρ → σ → Prop) (r : Except ε ρ) (s : σ) : Prop := ∀ v, r = .ok v → R v s

variable {R : ρ → σ → Prop}

theorem Okay.stable (h : ∀ v, Stable C i (R v)) (r : Except ε ρ) : Stable C i (Okay R r) :=
  fun s s' hinv hinv' hlater hs v hv => h v s s' hinv hinv' hlater (hs v hv)

theorem Triple.fails (e : ε) : Triple C i P (pure (.error e) : Prog A (Except ε ρ)) (Okay R) := by
  intro s _ _ s' _ _ v hv
  nomatch hv

theorem Triple.returns {v : ρ} (hP : Stable C i P)
    (h : ∀ s, P s → R v s) : Triple C i P (pure (.ok v) : Prog A (Except ε ρ)) (Okay R) := by
  refine .ret hP fun s _ hs v' hv' => ?_
  cases hv'
  exact h s hs

theorem Triple.whenOk {v : ρ} {p : Prog A ρ'} {post : ρ' → σ → Prop}
    (h : Triple C i (R v) p post) : Triple C i (Okay R (.ok v : Except ε ρ)) p post :=
  h.strengthen fun _ _ hs => hs v rfl

theorem Triple.bindOk {k : Except ε ρ → Prog A ρ'} {p : Prog A (Except ε ρ)} {post : ρ' → σ → Prop}
    (hp : Triple C i P p (Okay R)) (herr : ∀ e, Triple C i (fun _ => True) (k (.error e)) post)
    (hok : ∀ v, Triple C i (R v) (k (.ok v)) post) : Triple C i P (p >>= k) post := by
  refine .bind _ hp fun r => ?_
  cases r with
  | error e => exact (herr e).strengthen fun _ _ _ => trivial
  | ok v => exact .whenOk (hok v)

theorem Triple.bindNone {k : Option ε → Prog A ρ'} {p : Prog A (Option ε)} {P' : σ → Prop}
    {post : ρ' → σ → Prop} (hp : Triple C i P p fun _ => P')
    (hsome : ∀ e, Triple C i (fun _ => True) (k (some e)) post)
    (hnone : Triple C i P' (k none) post) : Triple C i P (p >>= k) post := by
  refine .bind _ hp fun r => ?_
  cases r with
  | some e => exact (hsome e).strengthen fun _ _ _ => trivial
  | none => exact hnone

theorem Triple.askQuiet {q : Q} {post : A q → σ → Prop} (hP : Stable C i P)
    (hpost : ∀ a, Stable C i (post a))
    (h : ∀ s a s', C.inv s → P s → S.serve i q s a s' → s' = s ∧ post a s) :
    Triple C i P (Calls.ask q) post := by
  refine .ask hP hpost fun s a s' hinv hs hserve => ?_
  obtain ⟨rfl, ha⟩ := h s a s' hinv hs hserve
  exact ⟨hinv, fun j _ => C.refl j s', ha⟩

/-- A value with `R`, or an error with `E`. -/
def Ends (R : ρ → σ → Prop) (E : σ → Prop) : Except ε ρ → σ → Prop
  | .ok v, s => R v s
  | .error _, s => E s

theorem Ends.stable {E : σ → Prop} (hR : ∀ v, Stable C i (R v)) (hE : Stable C i E)
    (r : Except ε ρ) : Stable C i (Ends R E r) := by
  cases r with
  | ok v => exact hR v
  | error e => exact hE

variable (C i) in
/-- From a world with `P` the program is safe; it returns a value with `R` or fails with `E`. -/
def Attempt (P : σ → Prop) (x : ExceptT ε (Prog A) ρ) (R : ρ → σ → Prop) (E : σ → Prop) : Prop :=
  Triple C i P x.run (Ends R E)

variable {P E : σ → Prop} {R : ρ → σ → Prop} {R' : ρ' → σ → Prop} {x : ExceptT ε (Prog A) ρ}

theorem Attempt.pure {v : ρ} (hP : Stable C i P) (h : ∀ s, P s → R v s) :
    Attempt C i P (pure v : ExceptT ε (Prog A) ρ) R E :=
  Triple.ret hP fun s _ hs => h s hs

theorem Attempt.throw {e : ε} (hP : Stable C i P) (h : ∀ s, P s → E s) :
    Attempt C i P (throw e : ExceptT ε (Prog A) ρ) R E :=
  Triple.ret hP fun s _ hs => h s hs

theorem Attempt.bind {f : ρ → ExceptT ε (Prog A) ρ'} (hE : Stable C i E) (hx : Attempt C i P x R E)
    (hf : ∀ v, Attempt C i (R v) (f v) R' E) :
    Attempt C i P (x >>= f) R' E := by
  refine Triple.bind (Ends R E) hx fun r => ?_
  cases r with
  | ok v => exact hf v
  | error e => exact .ret hE fun s _ hs => hs

theorem Attempt.strengthen (h : Attempt C i P x R E) (hP : ∀ s, P' s → P s) : Attempt C i P' x R E :=
  Triple.strengthen h fun s _ hs => hP s hs

theorem Attempt.ite {c : Prop} [Decidable c] {x' : ExceptT ε (Prog A) ρ} (hx : c → Attempt C i P x R E)
    (hx' : ¬c → Attempt C i P x' R E) :
    Attempt C i P (if c then x else x') R E := by
  split
  · rename_i hc
    exact hx hc
  · rename_i hc
    exact hx' hc

/-- What is done to the text of an error matters to nobody. -/
theorem Attempt.adapt {ε' : Type} {g : ε → ε'} (hR : ∀ v, Stable C i (R v)) (hE : Stable C i E)
    (h : Attempt C i P x R E) : Attempt C i P (x.adapt g) R E := by
  refine Triple.bind (Ends R E) h fun r => ?_
  cases r with
  | ok v => exact .ret (hR v) fun s _ hs => hs
  | error e => exact .ret hE fun s _ hs => hs

end

/-- A stored object, if any, and the revision of its last write. -/
structure Versioned (α : Type) where
  rev : Nat
  val : Option α
  deriving DecidableEq

namespace Versioned

variable {α : Type} {a b c : Versioned α}

/-- A write gives the object a revision it never had. -/
def write (d : Versioned α) (v : α) : Versioned α := ⟨d.rev + 1, some v⟩

/-- `b` is the object at a later moment than `a`. -/
def Later (a b : Versioned α) : Prop := a.rev ≤ b.rev ∧ (b.rev = a.rev → b = a)

theorem Later.refl (a : Versioned α) : a.Later a := ⟨Nat.le_refl _, fun _ => rfl⟩

theorem Later.trans (h : a.Later b) (h' : b.Later c) : a.Later c := by
  refine ⟨Nat.le_trans h.1 h'.1, fun hrev => ?_⟩
  have hb : b.rev = a.rev := Nat.le_antisymm (hrev ▸ h'.1) h.1
  exact (h'.2 (hrev.trans hb.symm)).trans (h.2 hb)

theorem later_write (d : Versioned α) (v : α) : d.Later (d.write v) := by
  refine ⟨Nat.le_succ _, fun hrev => ?_⟩
  exact absurd hrev (Nat.succ_ne_self _)

/-- **A CONDITIONAL WRITE REPLACES WHAT WAS READ**: at the revision read, the object is the one
    read. -/
theorem Later.unchanged (h : a.Later b) (hrev : b.rev = a.rev) : b.val = a.val :=
  congrArg Versioned.val (h.2 hrev)

end Versioned

/-- Let the clients call in the order of the list; `act` is how the server answers. -/
def exec [DecidableEq ι] (act : ι → (q : Q) → σ → A q × σ) :
    List ι → System ι A ρ σ → System ι A ρ σ
  | [], s => s
  | i :: is, s =>
    match s.prog i with
    | .ret _ => exec act is s
    | .call q k =>
      exec act is ⟨(act i q s.world).2, update s.prog i (k (act i q s.world).1)⟩

variable {act : ι → (q : Q) → σ → A q × σ}

theorem exec_leads_within [DecidableEq ι] {S : Server ι A σ} (W : σ → Prop)
    (hact : ∀ i q w, W w → S.serve i q w (act i q w).1 (act i q w).2 ∧ W (act i q w).2)
    (is : List ι) (s : System ι A ρ σ) (hs : W s.world) :
    ReflTransGen (Step S) s (exec act is s) := by
  induction is generalizing s with
  | nil => exact .refl
  | cons i is ih =>
    unfold exec
    cases hprog : s.prog i with
    | ret r => exact ih s hs
    | call q k =>
      obtain ⟨hserve, hw⟩ := hact i q s.world hs
      exact .head (.call hprog hserve) (ih _ hw)

theorem exec_leads [DecidableEq ι] {S : Server ι A σ}
    (hact : ∀ i q w, S.serve i q w (act i q w).1 (act i q w).2) (is : List ι)
    (s : System ι A ρ σ) : ReflTransGen (Step S) s (exec act is s) :=
  exec_leads_within (fun _ => True) (fun i q w _ => ⟨hact i q w, trivial⟩) is s trivial

end Calls
