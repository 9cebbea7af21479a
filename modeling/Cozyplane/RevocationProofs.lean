import Cozyplane.EndpointWritersProofs

/-!
# Endpoint revocation is permanent

Any number of processes run the endpoint writers on one host. A process may die at any point and
then loses the lock; a call may fail without effect, or take effect and report an error; links come
and go. The kernel keeps a log of every write of an alias, of a `ports` row and of a `locals` row.

The argument needs one fact about each writer: it never writes over a mark. Under the lock a
writer has SEEN an alias when a link that is marked now was marked in what it read; nobody else
can mark the link before it lets go of the lock.
-/

namespace CozyRevocation

open Calls Relation CozyPacket CozyMaps CozyDatapath CozyVethRecord CozyEndpointWriters Function

/-- A link of the host. `birth` tells it from every other link that ever had its index. -/
structure Veth where
  birth : Nat
  veth : Bool
  name : String
  aliasText : String
  deriving DecidableEq

/-- What a write does. -/
inductive Effect where
  | setAlias (text : String)
  | putPort (rawNet : U32)
  | putLocal (key : LocalKey)
  deriving DecidableEq

/-- A write that concerns the link of an index: which link that was, and whether its alias was
    revoked. -/
structure Write where
  index : U32
  birth : Option Nat
  after : Bool
  effect : Effect
  deriving DecidableEq

/-- What may be written about a revoked endpoint. -/
def Effect.quarantines : Effect → Prop
  | .setAlias text => revoked text = true
  | .putPort rawNet => rawNet = portQuarantine
  | .putLocal _ => False

/-- The host: links, maps, lock, processes and the log. -/
structure World (ι : Type) where
  links : U32 → Option Veth
  ports : U32 → Option U32
  locals : LocalKey → Option Endpoint
  holder : Option ι
  alive : ι → Bool
  births : Nat
  log : List Write

variable {ι : Type}

/-- The log entry of an effect. -/
def World.entry (w : World ι) (index : U32) (effect : Effect) : Write :=
  ⟨index, (w.links index).map Veth.birth, (w.links index).any fun l => revoked l.aliasText, effect⟩

/-- An alias is written. -/
def World.setAlias (w : World ι) (index : U32) (l : Veth) (text : String) : World ι :=
  { w with links := update w.links index (some { l with aliasText := text }),
           log := w.entry index (.setAlias text) :: w.log }

/-- A row of `ports` is written. -/
def World.putPort (w : World ι) (index rawNet : U32) : World ι :=
  { w with ports := update w.ports index (some rawNet),
           log := w.entry index (.putPort rawNet) :: w.log }

/-- A row of `locals` is written. -/
def World.putLocal (w : World ι) (key : LocalKey) (ep : Endpoint) : World ι :=
  { w with locals := update w.locals key (some ep),
           log := w.entry ep.ifindex (.putLocal key) :: w.log }

/-- The link as netlink shows it. -/
def Veth.link (index : U32) (l : Veth) : Link := ⟨index, l.veth, l.name, l.aliasText⟩

/-- What a call does for a live process. A write that fails has no effect, or has its effect and
    the answer says otherwise. -/
def effectOf [DecidableEq ι] (i : ι) : (q : Request) → World ι → Answer q → World ι → Prop
  | .lock, w, a, w' =>
    (w' = w ∧ a ≠ Except.ok ()) ∨ (w.holder = none ∧ w' = { w with holder := some i })
  | .unlock, w, _, w' => w' = if w.holder = some i then { w with holder := none } else w
  | .linkByIndex index, w, a, w' => w' = w ∧
    ∀ link, a = Except.ok link → ∃ l, w.links index = some l ∧ link = l.link index
  | .linkList, w, a, w' => w' = w ∧
    ∀ links, a = Except.ok links → ∀ link ∈ links, ∃ l, w.links link.index = some l ∧
      link = l.link link.index
  | .setAlias index text, w, a, w' =>
    (w' = w ∧ a ≠ Except.ok ()) ∨ ∃ l, w.links index = some l ∧ w' = w.setAlias index l text
  | .getPort index, w, a, w' => w' = w ∧ ∀ v, a = Except.ok v → v = w.ports index
  | .putPort index rawNet, w, a, w' =>
    (w' = w ∧ a ≠ Except.ok ()) ∨ w' = w.putPort index rawNet
  | .getLocal key, w, a, w' => w' = w ∧ ∀ v, a = Except.ok v → v = w.locals key
  | .putLocal key ep, w, a, w' => (w' = w ∧ a ≠ Except.ok ()) ∨ w' = w.putLocal key ep
  | .delLocal key, w, a, w' =>
    (w' = w ∧ a ≠ Except.ok ()) ∨ w' = { w with locals := update w.locals key none }
  | .fwdCidrs, w, _, w' => w' = w
  | .putFwdCidr _, w, _, w' => w' = w
  | .delFwdCidr _, w, _, w' => w' = w
  | .fabricRouteIP _, w, _, w' => w' = w
  | .fabricRouteOwned _ _, w, _, w' => w' = w
  | .addFabricNeigh _ _ _, w, _, w' => w' = w
  | .setBridge _ _ _ _, w, _, w' => w' = w
  | .delOwnedBridge _ _, w, _, w' => w' = w

/-- What happens besides: links vanish and new ones appear under a birth never used; map rows
    vanish; processes die and lose the lock. -/
structure Drift (w w' : World ι) : Prop where
  links : ∀ index l, w'.links index = some l → w.links index = some l ∨
    (l.aliasText = "" ∧ w.births ≤ l.birth ∧ l.birth < w'.births)
  births : w.births ≤ w'.births
  ports : ∀ index v, w'.ports index = some v → w.ports index = some v
  locals : ∀ key ep, w'.locals key = some ep → w.locals key = some ep
  alive : ∀ i, w'.alive i = true → w.alive i = true
  holder : w'.holder = w.holder ∨ (w'.holder = none ∧ ∀ i, w.holder = some i → w'.alive i = false)
  log : w'.log = w.log

/-- The host as a server of calls. -/
def host (ι : Type) [DecidableEq ι] : Server ι Answer (World ι) where
  serve i q w a w' := w.alive i = true ∧ effectOf i q w a w'
  drift := Drift

/-- Nothing but quarantine was ever written over a mark. -/
structure Inv (w : World ι) : Prop where
  born : ∀ index l, w.links index = some l → l.birth < w.births
  log : ∀ e ∈ w.log, e.after = true → e.effect.quarantines

/-- The links are the same, or new ones without an alias. -/
def Renewed (w w' : World ι) : Prop :=
  ∀ index l, w'.links index = some l → w.links index = some l ∨ l.aliasText = ""

/-- While `i` lives and holds the lock, nobody else changes an alias. -/
def Rely (i : ι) (w w' : World ι) : Prop :=
  w'.alive i = true → w.alive i = true ∧
    (w.holder = some i → w'.holder = some i ∧ Renewed w w')

theorem Renewed.refl (w : World ι) : Renewed w w := fun _ _ h => .inl h

theorem Rely.refl (i : ι) (w : World ι) : Rely i w w := fun h => ⟨h, fun hold => ⟨hold, .refl w⟩⟩

theorem Rely.trans {i : ι} {w₁ w₂ w₃ : World ι} (h : Rely i w₁ w₂) (h' : Rely i w₂ w₃) :
    Rely i w₁ w₃ := by
  intro halive
  obtain ⟨halive₂, hlater⟩ := h' halive
  obtain ⟨halive₁, hfirst⟩ := h halive₂
  refine ⟨halive₁, fun hold => ?_⟩
  obtain ⟨hold₂, hrenewed⟩ := hfirst hold
  obtain ⟨hold₃, hrenewed'⟩ := hlater hold₂
  refine ⟨hold₃, fun index l hl => ?_⟩
  rcases hrenewed' index l hl with hmid | hempty
  · exact hrenewed index l hmid
  · exact .inr hempty

variable {w w' : World ι}

/-- Drift writes nothing. -/
theorem Drift.inv (h : Inv w) (hd : Drift w w') : Inv w' where
  born := by
    intro index l hl
    rcases hd.links index l hl with hold | ⟨_, _, hnew⟩
    · exact Nat.lt_of_lt_of_le (h.born index l hold) hd.births
    · exact hnew
  log := by
    rw [hd.log]
    exact h.log

/-- Drift takes no lock from a live holder. -/
theorem Drift.rely (i : ι) (hd : Drift w w') : Rely i w w' := by
  intro halive
  refine ⟨hd.alive i halive, fun hold => ⟨?_, fun index l hl => ?_⟩⟩
  · rcases hd.holder with hsame | ⟨_, hdead⟩
    · rw [hsame, hold]
    · rw [hdead i hold] at halive
      nomatch halive
  · rcases hd.links index l hl with hold | ⟨hempty, _⟩
    · exact .inl hold
    · exact .inr hempty

variable [DecidableEq ι]

/-- What the writers rely on. -/
def contract (ι : Type) [DecidableEq ι] : Contract (host ι) where
  inv := Inv
  rely := Rely
  refl := Rely.refl
  trans := fun _ => Rely.trans
  drift_inv := fun h hd => Drift.inv h hd
  drift_rely := fun i _ hd => Drift.rely i hd

/-- An index, and whether an alias read for it was marked. -/
abbrev Mark := U32 × Bool

/-- What was read of a link. -/
def markOf (link : Link) : Mark := (link.index, revoked link.aliasText)

/-- No link was marked after it was read. -/
def Shown (read : List Mark) (w : World ι) : Prop :=
  ∀ m ∈ read, ∀ l, w.links m.1 = some l → revoked l.aliasText = true → m.2 = true

/-- `i` holds the lock, and what it read still stands. -/
def Seen (i : ι) (read : List Mark) (w : World ι) : Prop :=
  w.alive i = true → w.holder = some i ∧ Shown read w

variable {i : ι} {read read' : List Mark}

omit [DecidableEq ι] in
theorem Seen.mono (h : Seen i read w) (hsub : ∀ m ∈ read', m ∈ read) : Seen i read' w :=
  fun halive => ⟨(h halive).1, fun m hm => (h halive).2 m (hsub m hm)⟩

omit [DecidableEq ι] in
theorem Seen.forget (h : Seen i read w) : Seen i [] w := h.mono nofun

/-- Under the lock, what was read stands. -/
theorem Seen.stable (read : List Mark) : Stable (contract ι) i (Seen i read) := by
  intro w w' _ _ hlater h halive
  obtain ⟨halive₀, hheld⟩ := hlater halive
  obtain ⟨hold, hread⟩ := h halive₀
  obtain ⟨hold', hrenewed⟩ := hheld hold
  refine ⟨hold', fun m hm l hl hrev => ?_⟩
  rcases hrenewed m.1 l hl with hsame | hempty
  · exact hread m hm l hsame hrev
  · rw [hempty] at hrev
    nomatch hrev

/-- Under the lock the program ends with a value of which `F` holds and with `read'` seen, or with
    an error and the lock still held. -/
def Does (i : ι) (read : List Mark) {ρ : Type} (x : Kernel ρ) (F : ρ → Prop)
    (read' : ρ → List Mark) : Prop :=
  Attempt (contract ι) i (Seen i read) x (fun v w => F v ∧ Seen i (read' v) w) (Seen i [])

/-- A program that needs no more than the lock. -/
def Keeps (i : ι) {ρ : Type} (x : Kernel ρ) : Prop := Does i [] x (fun _ => True) fun _ => []

variable {ρ ρ' : Type} {x : Kernel ρ} {F : ρ → Prop} {after : ρ → List Mark}

variable {f : ρ → Kernel ρ'}

/-- Sequences compose. -/
theorem Does.bind {F' : ρ' → Prop} {after' : ρ' → List Mark} (hx : Does i read x F after)
    (hf : ∀ v, F v → Does i (after v) (f v) F' after') :
    Does i read (x >>= f) F' after' :=
  Attempt.bind (.stable []) hx fun v => .given (hf v)

theorem Does.pure (v : ρ) : Does i read (pure v) (· = v) fun _ => read :=
  Attempt.pure (.stable read) fun _ hs => ⟨rfl, hs⟩

/-- More may have been read. -/
theorem Does.strengthen {read₀ : List Mark} (h : Does i read x F after)
    (hsub : ∀ m ∈ read, m ∈ read₀) : Does i read₀ x F after :=
  Attempt.strengthen h fun _ hs => hs.mono hsub

theorem Does.weaken {F' : ρ → Prop} {after' : ρ → List Mark} (h : Does i read x F after)
    (hF : ∀ v, F v → F' v ∧ ∀ m ∈ after' v, m ∈ after v) : Does i read x F' after' := by
  refine Triple.weaken h fun r w hr => ?_
  cases r with
  | ok v => exact ⟨(hF v hr.1).1, hr.2.mono (hF v hr.1).2⟩
  | error e => exact hr

theorem Does.keeps (h : Does i [] x F after) : Keeps i x :=
  h.weaken fun _ _ => ⟨trivial, nofun⟩

theorem Keeps.of_read (h : Keeps i x) : Does i read x (fun _ => True) fun _ => [] :=
  Does.strengthen h nofun

/-- What follows needs only the lock. -/
theorem Does.then_keeps (hx : Does i read x F after) (hf : ∀ v, F v → Keeps i (f v)) :
    Does i read (x >>= f) (fun _ => True) fun _ => [] :=
  Does.bind hx fun v hv => (hf v hv).of_read

theorem Keeps.bind (hx : Keeps i x) (hf : ∀ v, Keeps i (f v)) :
    Keeps i (x >>= f) :=
  Does.bind hx fun v _ => hf v

theorem keeps_pure (v : ρ) : Keeps i (pure v : Kernel ρ) := (Does.pure v).keeps

theorem refuse_does (c : Prop) [Decidable c] (e : Err) :
    Does i read (refuse c e) (fun _ => ¬c) fun _ => read := by
  refine .ite (fun _ => ?_) fun hc => ?_
  · exact .throw (.stable read) fun _ hs => hs.forget
  · exact .pure (.stable read) fun _ hs => ⟨hc, hs⟩

theorem onlyIf_does {c : Prop} [Decidable c] {y : Kernel Unit}
    (hy : c → Does i read y (fun _ => True) fun _ => read) :
    Does i read (onlyIf c y) (fun _ => True) fun _ => read := by
  refine .ite hy fun _ => ?_
  exact .pure (.stable read) fun _ hs => ⟨trivial, hs⟩

theorem orRefuse_does (v : Option ρ) (e : Err) :
    Does i read (orRefuse v e) (fun r => v = some r) fun _ => read := by
  cases v with
  | none => exact .throw (.stable read) fun _ hs => hs.forget
  | some r => exact Attempt.pure (.stable read) fun _ hs => ⟨rfl, hs⟩

theorem Does.wrap {label : String} (h : Does i read x F after) : Does i read (wrap label x) F after :=
  Attempt.adapt (fun _ => (Stable.const _).and (.stable _)) (.stable []) h

theorem Does.forM {α : Type} {l : List α} {f : α → Kernel PUnit}
    (h : ∀ a ∈ l, Does i read (f a) (fun _ => True) fun _ => read) :
    Does i read (l.forM f) (fun _ => True) fun _ => read := by
  induction l with
  | nil => exact Attempt.pure (.stable read) fun _ hs => ⟨trivial, hs⟩
  | cons a l ih =>
    refine .bind (h a (.head _)) fun _ _ => ?_
    exact ih fun b hb => h b (List.mem_cons_of_mem a hb)

/-- A cleanup keeps the lock as well. -/
theorem onFailure_keeps {cleanup : Kernel Unit} (hx : Keeps i x) (hc : Keeps i cleanup) :
    Keeps i (onFailure x cleanup) := by
  refine Triple.bind _ hx fun r => ?_
  cases r with
  | ok v => exact .ret ((Stable.const _).and (.stable [])) fun _ _ hs => hs
  | error e =>
    refine .bind (fun _ => Seen i []) (.weaken hc fun r w hr => ?_) fun _ => ?_
    · cases r with
      | ok v => exact hr.2
      | error e => exact hr
    · exact .ret (.stable []) fun _ _ hs => hs

theorem ifindex_does (index : U32) : Does i read (ifindex index) (· = index) fun _ => read := by
  refine .ite (fun _ => ?_) fun _ => Does.pure index
  exact .throw (.stable read) fun _ hs => hs.forget

-- ── the calls

variable {q : Request}

theorem quiet (hq : ∀ w a w', effectOf i q w a w' → w' = w) :
    Triple (contract ι) i (Seen i read) (ask q) fun _ => Seen i read :=
  Triple.askQuiet (.stable read) (fun _ => .stable read) fun w a w' _ hs hserve =>
    ⟨hq w a w' hserve.2, hs⟩

variable {text : String} {keep : List Mark}

variable {p : Prog Answer (Except Err ρ)}

theorem Does.of_seen (h : Triple (contract ι) i (Seen i read) p fun _ => Seen i keep) :
    Does i read (.mk p) (fun _ => True) fun _ => keep := by
  refine Triple.weaken h fun r w hr => ?_
  cases r with
  | ok v => exact ⟨trivial, hr⟩
  | error e => exact hr.forget

theorem ends_stable (F : ρ → Prop) (after : ρ → List Mark) (r : Except Err ρ) :
    Stable (contract ι) i (Ends (fun v w => F v ∧ Seen i (after v) w) (Seen i []) r) :=
  Ends.stable (fun v => (Stable.const (F v)).and (.stable (after v))) (.stable []) r

/-- A link that was read is seen. -/
theorem linkByIndex_does (index : U32) :
    Does i [] (linkByIndex index) (fun link => link.index = index) fun link => [markOf link] := by
  refine .askQuiet (.stable []) (ends_stable _ _) fun w a w' _ hs hserve => ?_
  obtain ⟨_, rfl, hread⟩ := hserve
  refine ⟨rfl, ?_⟩
  cases a with
  | error e => exact hs
  | ok link =>
    obtain ⟨l, hl, rfl⟩ := hread link rfl
    refine ⟨rfl, fun halive => ⟨(hs halive).1, fun m hm l' hl' hrev => ?_⟩⟩
    obtain rfl := List.mem_singleton.mp hm
    cases hl.symm.trans hl'
    exact hrev

/-- All links that were listed are seen. -/
theorem linkList_does :
    Does (ι := ι) i [] linkList (fun _ => True) fun links => links.map markOf := by
  refine .askQuiet (.stable []) (ends_stable _ _) fun w a w' _ hs hserve => ?_
  obtain ⟨_, rfl, hread⟩ := hserve
  refine ⟨rfl, ?_⟩
  cases a with
  | error e => exact hs
  | ok links =>
    refine ⟨trivial, fun halive => ⟨(hs halive).1, fun m hm l' hl' hrev => ?_⟩⟩
    obtain ⟨link, hlink, rfl⟩ := List.mem_map.mp hm
    obtain ⟨l, hl, heq⟩ := hread links rfl link hlink
    cases hl.symm.trans hl'
    show revoked link.aliasText = true
    rw [heq]
    exact hrev

/-- A write under the lock. The others rely on nothing then. -/
theorem write (h : ∀ w a w', effectOf i q w a w' → Inv w → Shown read w →
      Inv w' ∧ w'.alive = w.alive ∧ w'.holder = w.holder ∧ Shown keep w') :
    Triple (contract ι) i (Seen i read) (ask q) fun _ => Seen i keep := by
  refine .ask (.stable read) (fun _ => .stable keep) fun w a w' hinv hs hserve => ?_
  obtain ⟨halive, heffect⟩ := hserve
  obtain ⟨hold, hshown⟩ := hs halive
  obtain ⟨hinv', halive', hold', hshown'⟩ := h w a w' heffect hinv hshown
  refine ⟨hinv', fun j hj hj_alive => ?_, fun _ => ⟨hold'.trans hold, hshown'⟩⟩
  refine ⟨halive' ▸ hj_alive, fun hj_holds => ?_⟩
  exact absurd (Option.some.inj (hj_holds.symm.trans hold)) hj

omit [DecidableEq ι] in
/-- A write that respects marks keeps the invariant. -/
theorem Inv.write (h : Inv w) {e : Write} (hlog : w'.log = e :: w.log)
    (he : e.after = true → e.effect.quarantines)
    (hborn : ∀ index l, w'.links index = some l → l.birth < w'.births) : Inv w' where
  born := hborn
  log := by
    rw [hlog]
    intro e' he'
    rcases List.mem_cons.mp he' with rfl | hold
    · exact he
    · exact h.log e' hold

variable {link : Link} {effect : Effect}

variable {index : U32}

omit [DecidableEq ι] in
theorem Shown.entry (h : Shown read w) {mark : Bool} (hread : (index, mark) ∈ read)
    (hafter : (w.entry index effect).after = true) : mark = true := by
  obtain ⟨l, hl, hrev⟩ := (Option.any_eq_true _ _).mp hafter
  exact h (index, mark) hread l hl hrev

/-- An alias is written over what was seen. -/
theorem linkSetAlias_does (mark : Bool) (hread : (index, mark) ∈ read)
    (hmark : mark = true → revoked text = true)
    (hkeep : ∀ m ∈ keep, m ∈ read ∧ revoked text = false) :
    Does i read (linkSetAlias index text) (fun _ => True) fun _ => keep := by
  refine .of_seen (write fun w a w' heffect hinv hshown => ?_)
  rcases heffect with ⟨rfl, _⟩ | ⟨l, hl, rfl⟩
  · exact ⟨hinv, rfl, rfl, fun m hm => hshown m (hkeep m hm).1⟩
  refine ⟨hinv.write rfl (fun hafter => hmark (hshown.entry hread hafter)) ?_, rfl, rfl, ?_⟩
  · intro index' l' hl'
    by_cases hindex : index' = index
    · subst hindex
      cases (update_self (f := w.links) ..).symm.trans hl'
      exact hinv.born index' l hl
    · exact hinv.born index' l' ((update_of_ne hindex ..).symm.trans hl')
  · intro m hm l' hl' hrev
    by_cases hindex : m.1 = index
    · have hl' : update w.links index (some { l with aliasText := text }) m.1 = some l' := hl'
      rw [hindex, update_self] at hl'
      cases hl'
      exact absurd hrev (by rw [(hkeep m hm).2]; exact nofun)
    · exact hshown m (hkeep m hm).1 l' ((update_of_ne hindex ..).symm.trans hl') hrev

theorem linkSetAlias_over (hread : markOf link ∈ read)
    (hmark : revoked link.aliasText = true → revoked text = true) :
    Does i read (linkSetAlias link.index text) (fun _ => True) fun _ => [] :=
  linkSetAlias_does (revoked link.aliasText) hread hmark nofun

theorem linkSetAlias_active (hread : markOf link ∈ read) (hclear : revoked link.aliasText = false) :
    Does i read (linkSetAlias link.index text) (fun _ => True) fun _ => [] :=
  linkSetAlias_over hread fun hrev => absurd hrev (by rw [hclear]; exact nofun)

/-- A port row is written over what was seen. -/
theorem portsPut_does {rawNet : U32} (h : rawNet = portQuarantine ∨ (index, false) ∈ read) :
    Does i read (portsPut index rawNet) (fun _ => True) fun _ => read := by
  refine .of_seen (write fun w a w' heffect hinv hshown => ?_)
  rcases heffect with ⟨rfl, _⟩ | rfl
  · exact ⟨hinv, rfl, rfl, hshown⟩
  refine ⟨hinv.write rfl (fun hafter => ?_) hinv.born, rfl, rfl, hshown⟩
  rcases h with hq | hread
  · exact hq
  · nomatch hshown.entry hread hafter

/-- A local row needs an unmarked link. -/
theorem localsPut_does {key : LocalKey} {ep : Endpoint} (h : (ep.ifindex, false) ∈ read) :
    Does i read (localsPut key ep) (fun _ => True) fun _ => read := by
  refine .of_seen (write fun w a w' heffect hinv hshown => ?_)
  rcases heffect with ⟨rfl, _⟩ | rfl
  · exact ⟨hinv, rfl, rfl, hshown⟩
  · refine ⟨hinv.write rfl (fun hafter => ?_) hinv.born, rfl, rfl, hshown⟩
    nomatch hshown.entry h hafter

theorem localsDelete_does (key : LocalKey) :
    Does i read (localsDelete key) (fun _ => True) fun _ => read := by
  refine .of_seen (write fun w a w' heffect hinv hshown => ?_)
  rcases heffect with ⟨rfl, _⟩ | rfl
  · exact ⟨hinv, rfl, rfl, hshown⟩
  · exact ⟨⟨hinv.born, hinv.log⟩, rfl, rfl, hshown⟩

variable {X : Texts}

theorem readsRevoked_eq (text : String) : readsRevoked X text = revoked text := by
  rw [Bool.eq_iff_iff, ← parse_quarantine_iff (X := X)]
  unfold readsRevoked
  simp only [Option.any_eq_true, beq_iff_eq]

theorem not_revoked_of_any {p : Record → Bool}
    (h : ¬((parseVethAlias X text).any fun r => r.rawNet == portQuarantine || p r) = true) :
    revoked text = false := by
  rw [Bool.eq_false_iff]
  intro hrev
  rw [parse_of_revoked hrev] at h
  exact h rfl

/-- An active record is not revoked. -/
theorem activeRecord_some {r : Record} (h : activeRecord X text = some r) :
    revoked text = false ∧ r.rawNet ≠ portQuarantine := by
  obtain ⟨hparse, hnet⟩ := Option.filter_eq_some_iff.mp h
  have hne : r.rawNet ≠ portQuarantine := bne_iff_ne.mp hnet
  exact ⟨not_revoked_of_parse hparse hne, hne⟩

theorem checkPort_does (index netID : U32) :
    Does i [] (checkPort X index netID) (fun _ => True)
      fun _ => if netID = portQuarantine then [] else [(index, false)] := by
  refine .ite (fun hne => ?_) fun hq => ?_
  · rw [if_neg hne]
    refine Does.bind (linkByIndex_does index) fun link hindex => ?_
    refine (refuse_does _ _).weaken fun _ hnot => ⟨trivial, fun m hm => ?_⟩
    obtain rfl := List.mem_singleton.mp hm
    rw [List.mem_singleton, markOf, hindex, not_revoked_of_any hnot]
  · rw [if_pos (not_not.mp hq)]
    exact keeps_pure ()

theorem setPortNet_keeps (index netID : U32) : Keeps i (setPortNet X index netID) := by
  refine Does.bind (ifindex_does index) fun key hkey => ?_
  refine .bind (checkPort_does index netID) fun _ _ => ?_
  refine .wrap ((portsPut_does ?_).weaken fun _ _ => ⟨trivial, nofun⟩)
  by_cases hq : netID = portQuarantine
  · exact .inl hq
  · rw [if_neg hq, hkey]
    exact .inr (.head _)

theorem getPortState_keeps (index : U32) : Keeps i (getPortState index) := by
  refine Does.bind (ifindex_does index) fun key _ => ?_
  exact .wrap (.of_seen (quiet fun _ _ _ h => h.1))

variable (net : U32) (d : ForwardingEndpoint) (snapshot : Except Err (List (FwdCidrKey × U8)))
  (ip : Addr)

theorem getLocal_does :
    Does i read (getLocal net ip) (fun _ => True) fun _ => read :=
  Does.wrap (.of_seen (quiet fun _ _ _ h => h.1))

theorem delLocalAt_does (index : U32) :
    Does i read (delLocalAt net ip index) (fun _ => True) fun _ => read := by
  refine .bind (getLocal_does net ip) fun found _ => ?_
  exact onlyIf_does fun _ => .wrap (localsDelete_does _)

theorem setLocal_keeps (index : U32) : Keeps i (setLocal X net ip index) := by
  refine Does.bind (ifindex_does index) fun key hkey => ?_
  refine .bind (.wrap (linkByIndex_does index)) fun link hindex => ?_
  refine .weaken (onlyIf_does fun _ => ?_) fun _ _ => ⟨trivial, nofun⟩
  refine .bind (refuse_does _ _) fun _ hnot => ?_
  refine .wrap (localsPut_does ?_)
  rw [List.mem_singleton, markOf, not_revoked_of_any hnot, hindex, hkey]

theorem setVethAlias_keeps (link : Link) (r : Record) : Keeps i (setVethAlias X link r) := by
  refine Does.bind (linkByIndex_does link.index) fun current hindex => ?_
  refine .bind (refuse_does _ _) fun _ hnot => ?_
  refine .wrap (linkSetAlias_does (revoked current.aliasText) ?_ ?_ nofun)
  · rw [← hindex]
    exact .head _
  · intro hrev
    rw [revoked_fullAlias]
    by_contra hne
    exact hnot ⟨(readsRevoked_eq _).trans hrev, hne⟩

theorem refreshLocals_keeps (r : Record) (index : U32) : Keeps i (refreshLocals X r index) := by
  refine .forM fun ip _ => ?_
  refine .bind (getLocal_does _ _) fun found _ => ?_
  exact onlyIf_does fun _ => setLocal_keeps _ _ _

theorem endpointVeth_does (link : Link) (containerID ifName : String) (id : PortVethIdentity) :
    Does i [] (endpointVeth X link containerID ifName id) (fun _ => True)
      fun current => [(current.index, false)] := by
  refine .bind (linkByIndex_does link.index) fun current _ => ?_
  refine .bind (refuse_does _ _) fun _ _ => ?_
  refine .bind (refuse_does _ _) fun _ hnot => ?_
  refine .bind (refuse_does _ _) fun _ _ => ?_
  refine .bind (refuse_does _ _) fun _ _ => ?_
  refine (Does.pure current).weaken fun v hv => ⟨trivial, fun m hm => ?_⟩
  subst hv
  obtain rfl := List.mem_singleton.mp hm
  rw [readsRevoked_eq, Bool.not_eq_true] at hnot
  rw [List.mem_singleton, markOf, hnot]

theorem setEndpointVethAlias_keeps (link : Link) (r : Record) (containerID ifName : String)
    (id : PortVethIdentity) : Keeps i (setEndpointVethAlias X link r containerID ifName id) := by
  refine Does.bind (endpointVeth_does link containerID ifName id) fun current _ => ?_
  refine .bind (refuse_does _ _) fun _ _ => ?_
  exact linkSetAlias_does false (.head _) nofun nofun

theorem stageLink_does {net : U32} {ip : Addr} {uid : String} {staged : Bool}
    (hread : markOf link ∈ read) :
    Does i read (stageLink X net ip uid staged link) (fun _ => True) fun _ => read := by
  have hskip : Does i read (pure () : Kernel Unit) (fun _ => True) fun _ => read :=
    (Does.pure ()).weaken fun _ _ => ⟨trivial, fun _ hm => hm⟩
  refine .ite (fun _ => hskip) fun _ => ?_
  cases hr : activeRecord X link.aliasText with
  | none => exact hskip
  | some r =>
    obtain ⟨hclear, hne⟩ := activeRecord_some hr
    refine .ite (fun _ => hskip) fun _ => ?_
    refine Does.bind (linkSetAlias_does (revoked link.aliasText) hread (fun hrev => ?_) fun m hm =>
      ⟨hm, ?_⟩) fun _ _ => onlyIf_does fun _ => delLocalAt_does _ _ _
    · exact absurd hrev (by rw [hclear]; exact nofun)
    · rw [Bool.eq_false_iff, ne_eq, revoked_fullAlias]
      exact hne

theorem cutover_keeps (containerID ifName : String) (portUID : Option String) (index : U32) :
    Keeps i (cutover X net ip containerID ifName portUID index) := by
  refine Does.bind (linkByIndex_does index) fun link _ => ?_
  refine .bind (refuse_does _ _) fun _ _ => ?_
  refine .bind (orRefuse_does _ _) fun r hr => ?_
  refine .bind (refuse_does _ _) fun _ _ => ?_
  refine .bind (refuse_does _ _) fun _ _ => ?_
  refine .bind (refuse_does _ _) fun _ _ => ?_
  have hclear := (activeRecord_some (Option.filter_eq_some_iff.mp hr).1).1
  exact .bind (linkSetAlias_active (.head _) hclear) fun _ _ => setLocal_keeps _ _ _

theorem clearFwdCidrs_keeps (index : U32) : Keeps i (clearFwdCidrs index) := by
  refine Does.bind (.wrap (.of_seen (quiet fun _ _ _ h => h))) fun rows _ => ?_
  exact .forM fun kv _ => .of_seen (quiet fun _ _ _ h => h)

theorem setFwdCidr_keeps (index : U32) (cidr : String) : Keeps i (setFwdCidr X index cidr) := by
  unfold setFwdCidr
  split
  · exact .throw (.stable []) fun _ hs => hs
  · exact .of_seen (quiet fun _ _ _ h => h)

theorem syncCidrs_keeps (rows : List (FwdCidrKey × U8)) (want : List FwdCidrKey) :
    Keeps i (syncCidrs rows want) := by
  refine Does.bind (.forM fun kv _ => ?_) fun _ _ => .forM fun key _ => ?_
  · exact .of_seen (quiet fun _ _ _ h => h)
  · exact .of_seen (quiet fun _ _ _ h => h)

theorem keeps_mk_pure (r : Except Err ρ) : Keeps i (.mk (pure r) : Kernel ρ) := by
  cases r with
  | ok v => exact keeps_pure v
  | error e => exact .throw (.stable []) fun _ hs => hs

theorem regrant_keeps (rawNet : U32) (link : Link) (r : Record) :
    Keeps i (regrant X d snapshot rawNet link r) := by
  refine .bind (onFailure_keeps (setVethAlias_keeps _ _) (setPortNet_keeps _ _)) fun _ => ?_
  refine .bind (setPortNet_keeps _ _) fun _ => ?_
  refine .bind (keeps_mk_pure _) fun want => ?_
  refine .bind (keeps_mk_pure _) fun rows => ?_
  refine .bind (syncCidrs_keeps _ _) fun _ => ?_
  exact .bind (setVethAlias_keeps _ _) fun _ => setPortNet_keeps _ _

theorem syncLink_keeps (rawNet : U32) : Keeps i (syncLink X d snapshot rawNet) := by
  refine .then_keeps (linkByIndex_does d.ifindex) fun link _ => ?_
  refine onlyIf_does fun _ => ?_
  refine .then_keeps (orRefuse_does _ _) fun r _ => ?_
  exact onlyIf_does fun _ => regrant_keeps _ _ _ _ _

theorem syncVethForwarding_keeps : Keeps i (syncVethForwarding X d snapshot) := by
  refine .bind (getPortState_keeps _) fun found => ?_
  cases found with
  | none => exact keeps_pure ()
  | some rawNet => exact onlyIf_does fun _ => syncLink_keeps _ _ _

/-- After an error the next entry is tried, still under the lock. -/
theorem Keeps.held (h : Keeps i x) :
    Triple (contract ι) i (Seen i []) x.run fun _ => Seen i [] := by
  refine .weaken h fun r w hr => ?_
  cases r with
  | ok v => exact hr.2
  | error e => exact hr

theorem syncEntries_held (entries : List ForwardingEndpoint) :
    Triple (contract ι) i (Seen i []) (syncEntries X snapshot entries) fun _ => Seen i [] := by
  induction entries with
  | nil => exact .ret (.stable []) fun _ _ hs => hs
  | cons d ds ih =>
    refine .bind _ (syncVethForwarding_keeps d snapshot).held fun r => ?_
    cases r with
    | ok v => exact ih
    | error e => exact .bind _ ih fun es => .ret (.stable []) fun _ _ hs => hs

theorem sever_keeps (index : U32) (expectedAlias : String) :
    Keeps i (sever X index expectedAlias) := by
  refine .then_keeps (linkByIndex_does index) fun link _ => ?_
  refine .ite (fun _ => keeps_pure _) fun _ => ?_
  refine Keeps.bind (onFailure_keeps (setVethAlias_keeps _ _) (setPortNet_keeps _ _)) fun _ => ?_
  exact .bind (setPortNet_keeps _ _) fun _ => keeps_pure _

/-- A program that may start without the lock. -/
def Runs (i : ι) {ρ : Type} (x : Kernel ρ) : Prop :=
  Attempt (contract ι) i (fun _ => True) x (fun _ _ => True) fun _ => True

theorem lock_taken :
    Triple (contract ι) i (fun _ => True) (ask (A := Answer) .lock) (Okay fun _ => Seen i []) := by
  refine .ask (A := Answer) (q := .lock) (.const True)
    (.stable fun _ => .stable []) fun w a w' hinv _ hserve => ?_
  obtain ⟨_, heffect⟩ := hserve
  rcases heffect with ⟨rfl, hne⟩ | ⟨hfree, rfl⟩
  · exact ⟨hinv, fun j _ => .refl j w', fun v hv => absurd hv hne⟩
  refine ⟨⟨hinv.born, hinv.log⟩, fun j _ halive => ⟨halive, fun hold => ?_⟩,
    fun _ _ _ => ⟨rfl, nofun⟩⟩
  rw [hfree] at hold
  nomatch hold

theorem lock_released {P : World ι → Prop} (hP : Stable (contract ι) i P) :
    Triple (contract ι) i P (ask (A := Answer) .unlock) fun _ _ => True := by
  refine .ask (A := Answer) (q := .unlock) hP (fun _ => .const True)
    fun w a w' hinv _ hserve => ?_
  obtain ⟨_, heffect⟩ := hserve
  change w' = if w.holder = some i then { w with holder := none } else w at heffect
  split at heffect
  · rename_i hheld
    subst heffect
    refine ⟨⟨hinv.born, hinv.log⟩, fun j hj halive => ⟨halive, fun hold => ?_⟩, trivial⟩
    exact absurd (Option.some.inj (hold.symm.trans hheld)) hj
  · subst heffect
    exact ⟨hinv, fun j _ => .refl j w', trivial⟩

/-- **ONE SECTION UNDER THE LOCK.** -/
theorem runs_lock {fn : Kernel ρ} (h : Triple (contract ι) i (Seen i []) fn.run fun _ => Seen i []) :
    Runs i (withBridgeLock fn) := by
  have hdone : ∀ r : Except Err ρ, Triple (contract ι) i (fun _ => True)
      (pure r : Prog Answer _) (Ends (fun _ _ => True) fun _ => True) := by
    intro r
    refine .ret (.const True) fun _ _ _ => ?_
    cases r with
    | ok v | error e => trivial
  refine Triple.bind _ lock_taken fun a => ?_
  cases a with
  | error e => exact (hdone (.error e)).strengthen fun _ _ _ => trivial
  | ok u =>
    refine .whenOk (.bind _ h fun r => ?_)
    exact .bind _ (lock_released (.stable [])) fun _ => hdone r

/-- Sequences compose without the lock. -/
theorem Runs.bind (hx : Runs i x) (hf : ∀ v, Runs i (f v)) :
    Runs i (x >>= f) :=
  Attempt.bind (.const True) hx hf

theorem runs_pure (v : ρ) : Runs i (pure v : Kernel ρ) :=
  Attempt.pure (.const True) fun _ _ => trivial

theorem runs_throw (e : Err) : Runs i (throw e : Kernel ρ) :=
  Attempt.throw (.const True) fun _ _ => trivial

theorem runs_refuse (c : Prop) [Decidable c] (e : Err) : Runs i (refuse c e) :=
  Attempt.ite (fun _ => runs_throw e) fun _ => runs_pure ()

theorem runs_onlyIf {c : Prop} [Decidable c] {y : Kernel Unit} (hy : Runs i y) :
    Runs i (onlyIf c y) :=
  Attempt.ite (fun _ => hy) fun _ => runs_pure ()

theorem Runs.wrap {label : String} (h : Runs i x) : Runs i (wrap label x) :=
  Attempt.adapt (fun _ => .const True) (.const True) h

theorem runs_forM {α : Type} {l : List α} {f : α → Kernel PUnit} (h : ∀ a, Runs i (f a)) :
    Runs i (l.forM f) := by
  induction l with
  | nil => exact runs_pure _
  | cons a l ih => exact .bind (h a) fun _ => ih

theorem runs_ifindex (index : U32) : Runs i (ifindex index) :=
  Attempt.ite (fun _ => runs_throw _) fun _ => runs_pure index

theorem runs_quiet (hq : ∀ w a w', effectOf i q w a w' → w' = w) :
    Triple (contract ι) i (fun _ => True) (ask q) fun _ _ => True :=
  Triple.askQuiet (.const True) (fun _ => .const True) fun w a w' _ _ hserve =>
    ⟨hq w a w' hserve.2, trivial⟩

theorem Runs.of_triple (h : Triple (contract ι) i (fun _ => True) p fun _ _ => True) :
    Runs i (.mk p : Kernel ρ) := by
  refine .weaken h fun r w _ => ?_
  cases r with
  | ok v | error e => trivial

-- ── the writers

theorem setVethSandbox_runs (link : Link) (containerID ifName : String) :
    Runs i (setVethSandbox X link containerID ifName) := by
  refine runs_lock (Keeps.held ?_)
  refine Does.bind (linkByIndex_does link.index) fun current _ => ?_
  refine .bind (orRefuse_does _ _) fun r hr => ?_
  refine .bind (refuse_does _ _) fun _ _ => ?_
  refine linkSetAlias_over (.head _) fun hrev => ?_
  -- a marked record is written back as a marked one
  rw [parse_of_revoked hrev] at hr
  rw [revoked_fullAlias, ← Option.some.inj hr]

theorem adoptVethPortIdentity_runs (index : U32) (expectedAlias : String) (id : PortVethIdentity) :
    Runs i (adoptVethPortIdentity X index expectedAlias id) := by
  refine runs_lock (Keeps.held ?_)
  refine Does.bind (linkByIndex_does index) fun link _ => ?_
  refine .bind (refuse_does _ _) fun _ hsame => ?_
  refine .bind (orRefuse_does _ _) fun r hr => ?_
  refine .bind (refuse_does _ _) fun _ _ => ?_
  refine .bind (refuse_does _ _) fun _ _ => ?_
  have hclear : revoked link.aliasText = false := by
    rw [not_not.mp (not_or.mp hsame).2]
    exact (activeRecord_some (Option.filter_eq_some_iff.mp hr).1).1
  refine .bind (linkSetAlias_active (.head _) hclear) fun _ _ => ?_
  exact Keeps.bind (onlyIf_does fun _ => refreshLocals_keeps _ _) fun _ => keeps_pure _

theorem recordLegacyVethSandbox_runs (index : U32) (expectedAlias containerID ifName : String) :
    Runs i (recordLegacyVethSandbox X index expectedAlias containerID ifName) := by
  refine .bind (runs_refuse _ _) fun _ => runs_lock (Keeps.held ?_)
  refine Does.bind (linkByIndex_does index) fun link _ => ?_
  refine .bind (refuse_does _ _) fun _ hsame => ?_
  refine .bind (orRefuse_does _ _) fun r hr => ?_
  refine .bind (refuse_does _ _) fun _ _ => ?_
  refine .bind (refuse_does _ _) fun _ _ => ?_
  have hclear : revoked link.aliasText = false := by
    rw [not_not.mp (not_or.mp hsame).2]
    exact (activeRecord_some hr).1
  exact linkSetAlias_active (.head _) hclear

theorem setLocalStaging_runs (uid : String) (staged : Bool) :
    Runs i (setLocalStaging X net ip uid staged) := by
  refine runs_lock (Keeps.held (Does.bind linkList_does fun links _ => ?_))
  refine .weaken (.forM fun link hlink => ?_) fun _ _ => ⟨trivial, nofun⟩
  exact stageLink_does (List.mem_map_of_mem hlink)

theorem ensureLocalFromVeth_runs (containerID ifName : String) (portUID : Option String) :
    Runs i (ensureLocalFromVeth X net ip containerID ifName portUID) := by
  have hsearch : Runs i (vethForAddr X net ip containerID ifName) := by
    refine .bind (.wrap (.of_triple (runs_quiet fun _ _ _ h => h.1))) fun links => ?_
    split
    · exact runs_pure _
    · exact runs_pure _
    · exact runs_throw _
  refine .bind hsearch fun found => ?_
  cases found with
  | none => exact runs_pure _
  | some index => exact .bind (runs_lock (cutover_keeps _ _ _ _ _ _).held) fun _ => runs_pure _

theorem lockedSetPortNet_runs (index netID : U32) : Runs i (lockedSetPortNet X index netID) :=
  Runs.bind (runs_ifindex index) fun _ => runs_lock (setPortNet_keeps _ _).held

theorem lockedSetLocal_runs (index : U32) :
    Runs i (lockedSetLocal X net ip index) :=
  Runs.bind (runs_ifindex index) fun _ => runs_lock (setLocal_keeps _ _ _).held

theorem delLocalIfOwned_runs (index : U32) :
    Runs i (delLocalIfOwned net ip index) :=
  runs_lock (delLocalAt_does net ip index).keeps.held

theorem rebuildLocal_runs (l : Link) (index rawNet : U32) (ip : Addr) :
    Runs i (rebuildLocal X l index rawNet ip) := by
  refine .ite (fun _ => ?_) fun _ => .ite (fun _ => runs_pure _) fun _ =>
    lockedSetLocal_runs _ _ _
  refine runs_lock (Keeps.held ?_)
  refine .bind (.of_seen (quiet fun _ _ _ h => h)) fun owned => ?_
  exact .ite (fun _ => setLocal_keeps _ _ _) fun _ => delLocalAt_does _ _ _

/-- The value read before the first section may be out of date; each section looks at the link
    again. -/
theorem rebuildVeth_runs (l : Link) (index : U32) (r : Record) : Runs i (rebuildVeth X l index r) := by
  refine .bind (lockedSetPortNet_runs _ _) fun _ => runs_onlyIf ?_
  refine .bind (runs_forM (rebuildLocal_runs l index r.rawNet)) fun _ => ?_
  split
  · refine runs_onlyIf ?_
    refine .bind (.of_triple (runs_quiet fun _ _ _ h => h)) fun fabric => runs_onlyIf ?_
    refine .bind (.of_triple (runs_quiet fun _ _ _ h => h)) fun _ => runs_lock (quiet ?_)
    exact fun _ _ _ h => h
  · exact runs_pure _

theorem configureEndpoint_runs (link : Link) (r : Record) (containerID ifName : String)
    (id : PortVethIdentity) (cidrs : List String) :
    Runs i (configureEndpoint X link r containerID ifName id cidrs) := by
  refine runs_lock (Keeps.held ?_)
  refine .bind (endpointVeth_does _ _ _ _).keeps fun _ => ?_
  refine .bind (setPortNet_keeps _ _) fun _ => ?_
  refine .bind (setEndpointVethAlias_keeps _ _ _ _ _) fun _ => ?_
  refine .bind (clearFwdCidrs_keeps _) fun _ => ?_
  refine .bind (onlyIf_does fun _ => .forM fun cidr _ => setFwdCidr_keeps _ _) fun _ => ?_
  refine .bind (setVethAlias_keeps _ _) fun _ => ?_
  exact .bind (.forM fun ip _ => setLocal_keeps _ _ _) fun _ => setPortNet_keeps _ _

theorem syncEndpointForwarding_runs (entries : List ForwardingEndpoint) :
    Runs i (syncEndpointForwarding X entries) := by
  refine runs_onlyIf (runs_lock ?_)
  refine .bind _ (quiet (q := .fwdCidrs) fun _ _ _ h => h) fun snapshot => ?_
  refine .bind _ (syncEntries_held snapshot entries) fun es => ?_
  exact .ret (.stable []) fun _ _ hs => hs

theorem severVethIfOwned_runs (vpcIP : Addr) (index : U32) (expectedAlias fabricIP : String) :
    Runs i (severVethIfOwned X net vpcIP index expectedAlias fabricIP) := by
  refine .bind (runs_lock (sever_keeps index expectedAlias).held) fun owned => ?_
  cases owned with
  | none => exact runs_pure _
  | some link =>
    refine .bind (.wrap (.of_triple (runs_quiet fun _ _ _ h => h))) fun address => ?_
    refine .bind (runs_onlyIf (.wrap (runs_lock (quiet fun _ _ _ h => h)))) fun _ => ?_
    refine .bind (.wrap (delLocalIfOwned_runs _ _ _)) fun _ => ?_
    exact .bind (runs_forM fun ip => .wrap (delLocalIfOwned_runs _ _ _)) fun _ => runs_pure _

/-- **EVERY WRITER** keeps the marks. -/
theorem writer_runs (c : Writer) : Runs i (c.run X) := by
  cases c with
  | setVethAlias link r => exact runs_lock (setVethAlias_keeps link r).held
  | setVethSandbox link cid iface => exact setVethSandbox_runs link cid iface
  | adoptVethPortIdentity index text id =>
    exact .bind (adoptVethPortIdentity_runs index text id) fun _ => runs_pure _
  | recordLegacyVethSandbox index text cid iface =>
    exact recordLegacyVethSandbox_runs index text cid iface
  | setEndpointVethAlias link r cid iface id =>
    exact runs_lock (setEndpointVethAlias_keeps link r cid iface id).held
  | setLocalStaging net ip uid staged => exact setLocalStaging_runs net ip uid staged
  | ensureLocalFromVeth net ip cid iface portUID =>
    exact .bind (ensureLocalFromVeth_runs net ip cid iface portUID) fun _ => runs_pure _
  | rebuildVeth l index r => exact rebuildVeth_runs l index r
  | setPortNet index netID => exact lockedSetPortNet_runs index netID
  | setLocal net ip index => exact lockedSetLocal_runs net ip index
  | delLocalIfOwned net ip index => exact delLocalIfOwned_runs net ip index
  | prepareEndpointHooks link cid iface id =>
    exact runs_lock (Keeps.bind (endpointVeth_does link cid iface id).keeps fun _ =>
      setPortNet_keeps _ _).held
  | configureEndpoint link r cid iface id cidrs => exact configureEndpoint_runs link r cid iface id cidrs
  | syncEndpointForwarding entries => exact syncEndpointForwarding_runs entries
  | severVethIfOwned net vpcIP index text fabric =>
    exact .bind (severVethIfOwned_runs net vpcIP index text fabric) fun _ => runs_pure _

theorem runAll_safe (cs : List Writer) :
    Triple (contract ι) i (fun _ => True) (runAll X cs) fun _ _ => True := by
  induction cs with
  | nil => exact .done _
  | cons c cs ih =>
    refine .bind (fun _ _ => True) (.weaken (writer_runs c) fun _ _ _ => trivial) ?_
    exact fun _ => ih

/-- What a call can do to the links and the log. -/
inductive Change (w w' : World ι) : Prop where
  | quiet : w'.links = w.links → w'.log = w.log → w'.births = w.births → Change w w'
  | setAlias (index : U32) (l : Veth) (text : String) :
      w.links index = some l → w' = w.setAlias index l text → Change w w'
  | put (index : U32) (effect : Effect) : w'.links = w.links →
      w'.log = w.entry index effect :: w.log → w'.births = w.births → Change w w'

omit [DecidableEq ι] in
theorem Change.refl (w : World ι) : Change w w := .quiet rfl rfl rfl

theorem effectOf_change {a : Answer q} (h : effectOf i q w a w') : Change w w' := by
  cases q with
  | lock =>
    rcases h with ⟨rfl, _⟩ | ⟨_, rfl⟩
    · exact .refl _
    · exact .quiet rfl rfl rfl
  | unlock =>
    change w' = if w.holder = some i then { w with holder := none } else w at h
    split at h
    · exact h ▸ .quiet rfl rfl rfl
    · exact h ▸ .refl _
  | linkByIndex index | linkList => exact h.1 ▸ .refl _
  | setAlias index text =>
    rcases h with ⟨rfl, _⟩ | ⟨l, hl, rfl⟩
    · exact .refl _
    · exact .setAlias index l text hl rfl
  | getPort index => exact h.1 ▸ .refl _
  | putPort index rawNet =>
    rcases h with ⟨rfl, _⟩ | rfl
    · exact .refl _
    · exact .put index _ rfl rfl rfl
  | getLocal key => exact h.1 ▸ .refl _
  | putLocal key ep =>
    rcases h with ⟨rfl, _⟩ | rfl
    · exact .refl _
    · exact .put ep.ifindex _ rfl rfl rfl
  | delLocal key =>
    rcases h with ⟨rfl, _⟩ | rfl
    · exact .refl _
    · exact .quiet rfl rfl rfl
  | fwdCidrs | putFwdCidr key | delFwdCidr key | fabricRouteIP index
  | fabricRouteOwned index ip | addFabricNeigh fabric veth mac
  | setBridge fabric vpcIP veth net | delOwnedBridge fabric veth =>
    exact (show w' = w from h) ▸ .refl _

-- ── the mark stays

/-- The veth of that birth has been marked: where it still is, it is marked. -/
structure Marked (index : U32) (birth : Nat) (w : World ι) : Prop where
  mark : ∀ l, w.links index = some l → l.birth = birth → revoked l.aliasText = true
  born : birth < w.births

/-- What was logged from `w` to `w'` about the veth is quarantine. -/
def Quarantined (index : U32) (birth : Nat) (w w' : World ι) : Prop :=
  ∃ later, w'.log = later ++ w.log ∧
    ∀ e ∈ later, e.index = index → e.birth = some birth → e.effect.quarantines

section

variable {index : U32} {birth : Nat} {w w' w'' : World ι}

omit [DecidableEq ι]

theorem Quarantined.same (h : w'.log = w.log) : Quarantined index birth w w' :=
  ⟨[], h, nofun⟩

theorem Quarantined.trans (h : Quarantined index birth w w')
    (h' : Quarantined index birth w' w'') : Quarantined index birth w w'' := by
  obtain ⟨later, hlog, hall⟩ := h
  obtain ⟨later', hlog', hall'⟩ := h'
  refine ⟨later' ++ later, by rw [hlog', hlog, List.append_assoc], fun e he => ?_⟩
  rcases List.mem_append.mp he with hnew | hold
  · exact hall' e hnew
  · exact hall e hold

theorem Marked.entry (h : Marked index birth w) (hinv : Inv w') {j : U32}
    (hlog : w'.log = w.entry j effect :: w.log) (hj : j = index)
    (hbirth : (w.links j).map Veth.birth = some birth) : effect.quarantines := by
  subst hj
  obtain ⟨l, hl, hlb⟩ := Option.map_eq_some_iff.mp hbirth
  refine hinv.log (w.entry j effect) (hlog ▸ (.head _)) ?_
  show (w.links j).any (fun l => revoked l.aliasText) = true
  rw [hl]
  exact h.mark l hl hlb

theorem Marked.one (h : Marked index birth w) (hinv : Inv w') {j : U32}
    (hlog : w'.log = w.entry j effect :: w.log) : Quarantined index birth w w' := by
  refine ⟨[w.entry j effect], hlog, fun e he hindex hbirth => ?_⟩
  obtain rfl := List.mem_singleton.mp he
  exact h.entry hinv hlog hindex hbirth

/-- A marked link stays marked. -/
theorem Marked.change (h : Marked index birth w) (hinv : Inv w') (hc : Change w w') :
    Marked index birth w' ∧ Quarantined index birth w w' := by
  cases hc with
  | quiet hlinks hlog hbirths => exact ⟨⟨hlinks ▸ h.mark, hbirths ▸ h.born⟩, .same hlog⟩
  | put j effect hlinks hlog hbirths => exact ⟨⟨hlinks ▸ h.mark, hbirths ▸ h.born⟩, h.one hinv hlog⟩
  | setAlias j l text hl heq =>
    subst heq
    refine ⟨⟨fun l' hl' hlb => ?_, h.born⟩, h.one hinv rfl⟩
    by_cases hj : index = j
    · have hl' : update w.links j (some { l with aliasText := text }) index = some l' := hl'
      rw [hj, update_self] at hl'
      cases hl'
      exact h.entry hinv rfl hj.symm (by rw [hl]; exact congrArg some hlb)
    · exact h.mark l' ((update_of_ne hj ..).symm.trans hl') hlb

/-- A link that appears is another one. -/
theorem Marked.drift (h : Marked index birth w) (hd : Drift w w') :
    Marked index birth w' ∧ Quarantined index birth w w' := by
  refine ⟨⟨fun l hl hlb => ?_, Nat.lt_of_lt_of_le h.born hd.births⟩, .same hd.log⟩
  rcases hd.links index l hl with hold | ⟨_, hnew, _⟩
  · exact h.mark l hold hlb
  · exact absurd (hlb ▸ hnew) (Nat.not_le.mpr h.born)

end

variable {s : System ι Answer Unit (World ι)}

/-- One step keeps the mark. -/
theorem Marked.step {birth : Nat} {s' : System ι Answer Unit (World ι)}
    (h : Marked index birth s.world) (hinv : Inv s'.world) (hstep : Step (host ι) s s') :
    Marked index birth s'.world ∧ Quarantined index birth s.world s'.world := by
  cases hstep with
  | call hprog hserve => exact h.change hinv (effectOf_change hserve.2)
  | drift hdrift => exact h.drift hdrift

/-- Nothing is logged yet, and the links have their births. -/
structure World.Starts (w : World ι) : Prop where
  log : w.log = []
  born : ∀ index l, w.links index = some l → l.birth < w.births

omit [DecidableEq ι] in
theorem World.Starts.inv (h : w.Starts) : Inv w :=
  ⟨h.born, by rw [h.log]; exact nofun⟩

/-- The processes at their start. -/
def start (X : Texts) (w₀ : World ι) (calls : ι → List Writer) : System ι Answer Unit (World ι) :=
  ⟨w₀, fun i => runAll X (calls i)⟩

/-- Every run keeps the invariant. -/
theorem run_inv {w₀ : World ι} (h₀ : w₀.Starts) {calls : ι → List Writer}
    (hrun : ReflTransGen (Step (host ι)) (start X w₀ calls) s) : Inv s.world := by
  have hinv : (contract ι).inv (start X w₀ calls).world := h₀.inv
  have hsafe : ∀ i, Safe (contract ι) i (fun _ _ => True) ((start X w₀ calls).prog i)
      (start X w₀ calls).world := fun i => runAll_safe (calls i) w₀ h₀.inv trivial
  exact ((contract ι).leads hinv hsafe hrun).1

/-- **REVOCATION IS PERMANENT** in every interleaving the lock allows, with any kernel call failing
    and any process dying: once a veth is marked it stays so while it exists, and only the mark and
    the quarantine value are written about it. -/
theorem revocation_permanent {w₀ : World ι} (h₀ : w₀.Starts) {calls : ι → List Writer}
    {s s' : System ι Answer Unit (World ι)}
    (hrun : ReflTransGen (Step (host ι)) (start X w₀ calls) s)
    (hlater : ReflTransGen (Step (host ι)) s s') {index : U32} {l : Veth}
    (hl : s.world.links index = some l) (hrev : revoked l.aliasText = true) :
    (∀ l', s'.world.links index = some l' → l'.birth = l.birth → revoked l'.aliasText = true) ∧
    ∃ later, s'.world.log = later ++ s.world.log ∧
      ∀ e ∈ later, e.index = index → e.birth = some l.birth → e.effect.quarantines := by
  have hstart : Marked index l.birth s.world := by
    refine ⟨fun l' hl' _ => ?_, (run_inv h₀ hrun).born index l hl⟩
    cases hl.symm.trans hl'
    exact hrev
  have hall : Marked index l.birth s'.world ∧ Quarantined index l.birth s.world s'.world := by
    induction hlater with
    | refl => exact ⟨hstart, .same rfl⟩
    | tail hmid hstep ih =>
      have hinv := run_inv h₀ (hrun.trans (hmid.tail hstep))
      obtain ⟨hmarked, hnew⟩ := ih.1.step hinv hstep
      exact ⟨hmarked, ih.2.trans hnew⟩
  exact ⟨hall.1.mark, hall.2⟩

/-- Every alias is taken. -/
def obligingAlias (w : World ι) (index : U32) (text : String) : Except Err Unit × World ι :=
  match w.links index with
  | none => (.error "no link", w)
  | some l => (.ok (), w.setAlias index l text)

/-- A kernel in which every call succeeds; only a lock that is taken is refused. -/
def obliging (i : ι) : (q : Request) → World ι → Answer q × World ι
  | .lock, w => if w.holder = none then (.ok (), { w with holder := some i }) else (.error "busy", w)
  | .unlock, w => ((), if w.holder = some i then { w with holder := none } else w)
  | .linkByIndex index, w => ((w.links index).elim (.error "no link") fun l => .ok (l.link index), w)
  | .linkList, w => (.ok [], w)
  | .setAlias index text, w => obligingAlias w index text
  | .getPort index, w => (.ok (w.ports index), w)
  | .putPort index rawNet, w => (.ok (), w.putPort index rawNet)
  | .getLocal key, w => (.ok (w.locals key), w)
  | .putLocal key ep, w => (.ok (), w.putLocal key ep)
  | .delLocal key, w =>
    (.ok (), { w with locals := update w.locals key none })
  | .fwdCidrs, w => (.ok [], w)
  | .putFwdCidr _, w => (.ok (), w)
  | .delFwdCidr _, w => (.ok (), w)
  | .fabricRouteIP _, w => (.ok "", w)
  | .fabricRouteOwned _ _, w => (.ok false, w)
  | .addFabricNeigh _ _ _, w => (.ok (), w)
  | .setBridge _ _ _ _, w => (.ok (), w)
  | .delOwnedBridge _ _, w => (.ok (), w)

/-- No process dies. -/
def AllAlive (w : World ι) : Prop := ∀ i, w.alive i = true

theorem obliging_serves (i : ι) (q : Request) (w : World ι) (hw : AllAlive w) :
    (host ι).serve i q w (obliging i q w).1 (obliging i q w).2 ∧ AllAlive (obliging i q w).2 := by
  cases q with
  | lock =>
    show (w.alive i = true ∧ effectOf i .lock w (ite _ _ _ : _ × _).1 (ite _ _ _ : _ × _).2) ∧
      AllAlive (ite _ _ _ : _ × _).2
    split
    · rename_i hfree
      exact ⟨⟨hw i, .inr ⟨hfree, rfl⟩⟩, hw⟩
    · exact ⟨⟨hw i, .inl ⟨rfl, nofun⟩⟩, hw⟩
  | unlock =>
    refine ⟨⟨hw i, rfl⟩, ?_⟩
    show AllAlive (ite _ _ _)
    split
    · exact hw
    · exact hw
  | linkByIndex index =>
    refine ⟨⟨hw i, rfl, fun link hlink => ?_⟩, hw⟩
    change ((w.links index).elim (.error "no link") fun l => .ok (l.link index)) = Except.ok link
      at hlink
    cases hl : w.links index with
    | none => rw [hl] at hlink; nomatch hlink
    | some l => rw [hl] at hlink; exact ⟨l, rfl, (Except.ok.inj hlink).symm⟩
  | linkList =>
    refine ⟨⟨hw i, rfl, fun links hlinks link hlink => ?_⟩, hw⟩
    cases hlinks
    nomatch hlink
  | setAlias index text =>
    show (w.alive i = true ∧ effectOf i (.setAlias index text) w (obligingAlias w index text).1
      (obligingAlias w index text).2) ∧ AllAlive (obligingAlias w index text).2
    unfold obligingAlias
    cases hl : w.links index with
    | none => exact ⟨⟨hw i, .inl ⟨rfl, nofun⟩⟩, hw⟩
    | some l => exact ⟨⟨hw i, .inr ⟨l, hl, rfl⟩⟩, hw⟩
  | getPort index => exact ⟨⟨hw i, rfl, fun v hv => (Except.ok.inj hv).symm⟩, hw⟩
  | putPort index rawNet => exact ⟨⟨hw i, .inr rfl⟩, hw⟩
  | getLocal key => exact ⟨⟨hw i, rfl, fun v hv => (Except.ok.inj hv).symm⟩, hw⟩
  | putLocal key ep | delLocal key => exact ⟨⟨hw i, .inr rfl⟩, hw⟩
  | fwdCidrs | putFwdCidr key | delFwdCidr key | fabricRouteIP index
  | fabricRouteOwned index ip | addFabricNeigh fabric veth mac
  | setBridge fabric vpcIP veth net | delOwnedBridge fabric veth => exact ⟨⟨hw i, rfl⟩, hw⟩

def bareTexts : Texts where
  namespaceName _ := true
  objectName _ := true
  parseIP _ := none
  digest _ := 0#256
  parseMAC _ := none
  parseCIDR _ := none
  macString _ := ""
  ipString _ := ""
  escape s := s
  unescape s := some s

/-- One veth without a record. -/
def bareHost : World Bool where
  links index := if index = 7#32 then some ⟨0, true, "cph0", ""⟩ else none
  ports _ := none
  locals _ := none
  holder := none
  alive _ := true
  births := 1
  log := []

theorem bareHost_starts : bareHost.Starts where
  log := rfl
  born := by
    intro index l hl
    change (if index = 7#32 then some _ else none) = some l at hl
    split at hl
    · cases hl
      exact Nat.one_pos
    · nomatch hl

/-- The agent revokes the endpoint; a CNI process that started before programs its port. -/
def severRace : Bool → List Writer
  | false => [.severVethIfOwned 200#32 0#128 7#32 "" ""]
  | true => [.setPortNet 7#32 200#32]

/-- The alias is marked. -/
def severed : System Bool Answer Unit (World Bool) :=
  exec obliging [false, false, false, false] (start bareTexts bareHost severRace)

/-- The port is quarantined, the lock changes hands, and the other process is refused. -/
def settled : System Bool Answer Unit (World Bool) :=
  exec obliging [false, false, true, true, true] severed

theorem revocation_permanent_race :
    severed.world.links 7#32 = some ⟨0, true, "cph0", revokedMark⟩ ∧
    (∀ l', settled.world.links 7#32 = some l' → l'.birth = 0 → revoked l'.aliasText = true) ∧
    ∃ later, settled.world.log = later ++ severed.world.log ∧
      ∀ e ∈ later, e.index = 7#32 → e.birth = some 0 → e.effect.quarantines := by
  have hlink : severed.world.links 7#32 = some ⟨0, true, "cph0", revokedMark⟩ := by decide +kernel
  have halive : AllAlive bareHost := fun _ => rfl
  refine ⟨hlink, ?_⟩
  exact revocation_permanent (l := ⟨0, true, "cph0", revokedMark⟩) bareHost_starts
    (exec_leads_within AllAlive obliging_serves _ _ halive)
    (exec_leads_within AllAlive obliging_serves _ _ (fun _ => rfl)) hlink (by decide +kernel)

end CozyRevocation
