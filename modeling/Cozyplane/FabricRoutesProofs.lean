import Cozyplane.RunProofs

/-!
# Fabric routes — what a resync recovers

Each agent keeps one host route of network 0 for every FabricIP on another node. An event handler
and a resync both end in `reconcileLocked`, which rereads the informer's store; a failed call is
only logged.

Store, node index, handler and resync take turns in any order the mutex allows: the store may
change between two objects of a resync.
-/

namespace CozyFabricRoutes

open Run Function

/-- `FabricIP`: store key, address and node; a deletion may be under way. -/
structure FabricIP where
  name : String
  address : String
  node : String
  deleting : Bool
  deriving DecidableEq

/-- The agent's node, and the key of `hostCIDR` in the routes for a text `net.ParseIP` reads. -/
structure Config (κ : Type) where
  self : String
  route : String → Option κ
  route_empty : route "" = none

/-- The routes of network 0. -/
abbrev Routes (κ : Type) := κ → Option (BitVec 32)

/-- The informer's store, the nodes' addresses, the routes, the objects `apply` is yet to see, and
    what the resync that holds the mutex has left. -/
structure State (κ : Type) where
  store : String → Option FabricIP
  nodes : String → Option (BitVec 32)
  routes : Routes κ
  queue : List FabricIP
  todo : Option (List FabricIP)

/-- Of the calls that `apply` or a visit makes, the first `done` succeed. -/
inductive Event where
  | change (name : String) (obj : Option FabricIP)
  | node (name : String) (ip : Option (BitVec 32))
  | apply (done : Nat)
  | resync (objs : List FabricIP)
  | visit (done : Nat)

variable {κ : Type}

def current (C : Config κ) (s : State κ) (key : String) : Option (FabricIP × κ) :=
  match s.store key with
  | none => none
  | some fip => if fip.deleting then none else (C.route fip.address).map (fip, ·)

/-- Where a claim's address is, if that is another node. -/
def target (C : Config κ) (s : State κ) (fip : FabricIP) : Option (BitVec 32) :=
  if fip.node = "" ∨ fip.node = C.self then none else s.nodes fip.node

def departed (C : Config κ) (s : State κ) (key previous : String) : Option κ :=
  if previous ≠ "" ∧ previous ≠ ((current C s key).map (·.1.address)).getD "" then C.route previous
  else none

/-- The calls of `reconcileLocked`: `DelRemote` has no target. -/
def calls (C : Config κ) (s : State κ) (key previous : String) : List (κ × Option (BitVec 32)) :=
  (departed C s key previous).toList.map (·, none) ++
    (current C s key).toList.map fun (fip, k) => (k, target C s fip)

def Stored (s : State κ) (fip : FabricIP) : Prop := s.store fip.name = some fip

/-- Where the route of a stored claim leads, if it has one. -/
def wanted (C : Config κ) (s : State κ) (fip : FabricIP) : Option (BitVec 32) :=
  if fip.deleting then none else target C s fip

variable {C : Config κ} {s : State κ} {key previous : String} {fip : FabricIP} {k : κ}

theorem current_some (h : current C s key = some (fip, k)) :
    s.store key = some fip ∧ C.route fip.address = some k := by
  simp only [current] at h
  split at h
  · nomatch h
  rename_i f hs
  split at h
  · nomatch h
  obtain ⟨k', hk, heq⟩ := Option.map_eq_some_iff.mp h
  cases heq
  exact ⟨hs, hk⟩

theorem mem_calls {n : BitVec 32} (h : (k, some n) ∈ calls C s key previous) :
    ∃ fip, s.store key = some fip ∧ C.route fip.address = some k := by
  simp only [calls, List.mem_append, List.mem_map, Option.mem_toList] at h
  rcases h with ⟨_, -, heq⟩ | ⟨⟨f, k'⟩, hc, heq⟩
  · nomatch heq
  · obtain ⟨rfl, -⟩ := Prod.mk.inj heq
    exact ⟨f, current_some hc⟩

theorem calls_head (s : State κ) (key : String) (h : C.route previous = some k) :
    ∃ v rest, calls C s key previous = (k, v) :: rest := by
  have hne : previous ≠ "" := by
    rintro rfl
    nomatch C.route_empty.symm.trans h
  simp only [calls, departed]
  cases hc : current C s key with
  | none => exact ⟨none, [], by simp [hne, h]⟩
  | some c =>
    by_cases heq : previous = c.1.address
    · cases h.symm.trans (heq ▸ (current_some hc).2)
      exact ⟨target C s c.1, [], by simp [heq]⟩
    · exact ⟨none, _, by simp [hne, heq, h]; rfl⟩

theorem mem_calls_stored (h : Stored s fip) {v : Option (BitVec 32)} :
    (k, v) ∈ calls C s fip.name fip.address ↔ C.route fip.address = some k ∧ wanted C s fip = v := by
  have hs : s.store fip.name = some fip := h
  have hempty := C.route_empty
  simp only [calls, departed, current, hs, wanted]
  cases fip.deleting <;> cases hr : C.route fip.address <;> grind

variable [DecidableEq κ]

def put (routes : Routes κ) (call : κ × Option (BitVec 32)) : Routes κ :=
  update routes call.1 call.2

/-- `reconcileLocked` returns at the first error. -/
def reconcileLocked (C : Config κ) (s : State κ) (key previous : String) (done : Nat) :
    Routes κ × Bool :=
  (((calls C s key previous).take done).foldl put s.routes,
    (calls C s key previous).length ≤ done)

/-- A change of the store queues the old and the new object; an error ends a resync. -/
def step (C : Config κ) (s : State κ) : Event → State κ
  | .change name obj =>
    { s with store := update s.store name obj
             queue := s.queue ++ ((s.store name).toList ++ obj.toList) }
  | .node name ip => { s with nodes := update s.nodes name ip }
  | .apply done =>
    match s.queue with
    | [] => s
    | fip :: queue => { s with queue, routes := (reconcileLocked C s fip.name fip.address done).1 }
  | .resync objs => { s with todo := some objs }
  | .visit done =>
    match s.todo with
    | some (fip :: todo) =>
      let r := reconcileLocked C s fip.name fip.address done
      { s with routes := r.1, todo := if r.2 then some todo else none }
    | _ => { s with todo := none }

/-- What the informer and the mutex allow; `store.List` has any order. -/
def Enabled (s : State κ) : Event → Prop
  | .change name obj => ∀ fip ∈ obj, fip.name = name
  | .apply _ => s.todo = none
  | .resync objs => s.todo = none ∧ ∀ fip, fip ∈ objs ↔ Stored s fip
  | _ => True

def Claimed (C : Config κ) (s : State κ) (k : κ) : Prop :=
  ∃ fip, (Stored s fip ∨ fip ∈ s.queue) ∧ C.route fip.address = some k

/-- As `syncInitial` leaves it, and as it stays: the routes are of claims. -/
structure Initial (C : Config κ) (s : State κ) : Prop where
  named : ∀ key fip, s.store key = some fip → fip.name = key
  claimed : ∀ k, s.routes k ≠ none → Claimed C s k

/-- A handler's first call fails only where its address has no route or is still claimed. -/
def Kept (C : Config κ) (s : State κ) : Event → Prop
  | .apply 0 => ∀ fip queue, s.queue = fip :: queue → ∀ k, C.route fip.address = some k →
      s.routes k = none ∨ Claimed C { s with queue } k
  | _ => True

-- ── runs

theorem foldl_put (cs : List (κ × Option (BitVec 32))) (r : Routes κ) (k : κ) :
    cs.foldl put r k = r k ∧ (∀ v, (k, v) ∉ cs) ∨ ∃ v, cs.foldl put r k = v ∧ (k, v) ∈ cs := by
  induction cs generalizing r with
  | nil => exact .inl ⟨rfl, nofun⟩
  | cons c cs ih =>
    have hput : put r c k = if k = c.1 then c.2 else r k := update_apply ..
    rw [List.foldl_cons]
    rcases ih (put r c) with ⟨heq, hno⟩ | ⟨v, heq, hmem⟩
    · grind
    · exact .inr ⟨v, heq, .tail _ hmem⟩

theorem claimed_step (hinv : Initial C s) {e : Event} (hok : Enabled s e ∧ Kept C s e) :
    Initial C (step C s e) := by
  obtain ⟨hnamed, hclaimed⟩ := hinv
  -- a route after some of the calls for an object
  have hcalls : ∀ {fip : FabricIP} {done k},
      (reconcileLocked C s fip.name fip.address done).1 k ≠ none →
      (∃ f, Stored s f ∧ C.route f.address = some k) ∨
        s.routes k ≠ none ∧ (C.route fip.address = some k → done = 0) := by
    intro fip done k hk
    rcases foldl_put ((calls C s fip.name fip.address).take done) s.routes k with ⟨heq, hno⟩ |
        ⟨v, hv, hmem⟩
    · refine .inr ⟨heq ▸ hk, fun hroute => ?_⟩
      obtain ⟨v, rest, hcs⟩ := calls_head s fip.name hroute
      cases done with
      | zero => rfl
      | succ done => exact absurd (by rw [hcs]; exact .head _) (hno v)
    · obtain ⟨n, rfl⟩ := Option.ne_none_iff_exists'.mp fun hn => hk (hv.trans hn)
      obtain ⟨f, hs, hroute⟩ := mem_calls (List.mem_of_mem_take hmem)
      exact .inl ⟨f, by rw [Stored, hnamed _ f hs, hs], hroute⟩
  cases e with
  | change name obj =>
    have hname : ∀ fip ∈ obj, fip.name = name := hok.1
    refine ⟨fun key fip h => ?_, fun k hk => ?_⟩
    · simp only [step, update_apply] at h
      grind
    · -- an object that leaves the store is queued
      obtain ⟨fip, hfip, hroute⟩ := hclaimed k hk
      refine ⟨fip, ?_, hroute⟩
      simp only [step, Stored, update_apply, List.mem_append, Option.mem_toList] at hfip ⊢
      grind
  | node name ip | resync objs => exact ⟨hnamed, hclaimed⟩
  | apply done =>
    cases hq : s.queue with
    | nil => simpa only [step, hq] using ⟨hnamed, hclaimed⟩
    | cons fip queue =>
      simp only [step, hq]
      refine ⟨hnamed, fun k hk => ?_⟩
      rcases hcalls hk with ⟨f, hf, hroute⟩ | ⟨hr, hdone⟩
      · exact ⟨f, .inl hf, hroute⟩
      by_cases hfk : C.route fip.address = some k
      · cases hdone hfk
        exact (hok.2 fip queue hq k hfk).resolve_left hr
      · obtain ⟨f, hf, hroute⟩ := hclaimed k hr
        refine ⟨f, hf.imp_right fun hmem => ?_, hroute⟩
        rw [hq] at hmem
        exact (List.mem_cons.mp hmem).resolve_left fun heq => hfk (heq ▸ hroute)
  | visit done =>
    simp only [step]
    split
    · exact ⟨hnamed, fun k hk => (hcalls hk).elim (fun ⟨f, hf, hroute⟩ => ⟨f, .inl hf, hroute⟩)
        fun h => hclaimed k h.1⟩
    · exact ⟨hnamed, hclaimed⟩

/-- A resync in which no call fails and the store rests; a visit makes two calls at most. -/
def quietResync (C : Config κ) (s : State κ) (objs : List FabricIP) : State κ :=
  (objs.map fun _ => .visit 2).foldl (step C) (step C s (.resync objs))

theorem visits_routes {objs : List FabricIP} (h : s.todo = some objs) :
    ((objs.map fun _ => .visit 2).foldl (step C) s).routes =
      (objs.flatMap fun fip => calls C s fip.name fip.address).foldl put s.routes := by
  induction objs generalizing s with
  | nil => rfl
  | cons fip objs ih =>
    have hlen : (calls C s fip.name fip.address).length ≤ 2 := by
      simp only [calls, List.length_append, List.length_map]
      grind
    have hstep : step C s (.visit 2) = { s with
        todo := some objs, routes := (calls C s fip.name fip.address).foldl put s.routes } := by
      simp [step, h, reconcileLocked, List.take_of_length_le hlen, hlen]
    rw [List.map_cons, List.foldl_cons, List.flatMap_cons, List.foldl_append, hstep, ih rfl]
    rfl

/-- **RECOVERY**: runs whose handlers lose no route end, after a resync without failures, with
    exactly one route for each live claim on another node with a known address. -/
theorem routes_recover
    (h : Reaches (step C) (fun s e => Enabled s e ∧ Kept C s e) (Initial C) s)
    (hqueue : s.queue = []) {objs : List FabricIP} (hobjs : Enabled s (.resync objs))
    (hd : ∀ f ∈ objs, ∀ g ∈ objs, ∀ k, C.route f.address = some k → C.route g.address = some k →
      f = g) (k : κ) (n : BitVec 32) :
    (quietResync C s objs).routes k = some n ↔
      ∃ fip, Stored s fip ∧ C.route fip.address = some k ∧ wanted C s fip = some n := by
  have hinv : Initial C s := h.invariant (fun _ h => h) fun _ _ hinv hok => claimed_step hinv hok
  obtain ⟨cs, hcs⟩ : ∃ cs, cs = objs.flatMap fun fip => calls C s fip.name fip.address := ⟨_, rfl⟩
  have hwrites : ∀ v, (k, v) ∈ cs ↔
      ∃ fip ∈ objs, C.route fip.address = some k ∧ wanted C s fip = v := by
    intro v
    rw [hcs, List.mem_flatMap]
    exact exists_congr fun fip => and_congr_right fun hf => mem_calls_stored ((hobjs.2 fip).mp hf)
  have hroutes : (quietResync C s objs).routes = cs.foldl put s.routes :=
    (visits_routes rfl).trans (by rw [hcs]; rfl)
  rw [hroutes]
  rcases foldl_put cs s.routes k with ⟨heq, hno⟩ | ⟨v, heq, hmem⟩
  · -- no visit wrote the route, so no stored claim has the address
    have hnone : ¬ ∃ fip, Stored s fip ∧ C.route fip.address = some k := by
      rintro ⟨fip, hf, hroute⟩
      exact hno _ ((hwrites _).mpr ⟨fip, (hobjs.2 fip).mpr hf, hroute, rfl⟩)
    refine iff_of_false (fun hr => ?_) fun ⟨fip, hf, hroute, _⟩ => hnone ⟨fip, hf, hroute⟩
    obtain ⟨fip, hf, hroute⟩ := hinv.claimed k (by rw [← heq, hr]; nofun)
    rw [hqueue] at hf
    exact hnone ⟨fip, hf.resolve_right nofun, hroute⟩
  · obtain ⟨fip, hf, hroute, hv⟩ := (hwrites _).mp hmem
    rw [heq, ← hv]
    refine ⟨fun h => ⟨fip, (hobjs.2 fip).mp hf, hroute, h⟩, ?_⟩
    rintro ⟨g, hg, hroute', hn⟩
    rwa [hd fip hf g ((hobjs.2 g).mpr hg) k hroute hroute']

def demo : Config String := ⟨"a", fun t => if t = "10.0.0.7" then some t else none, rfl⟩

def claim : FabricIP := ⟨"x", "10.0.0.7", "b", false⟩

/-- The node of the claim is known, and nothing else. -/
def fresh : State String :=
  ⟨fun _ => none, fun n => if n = "b" then some 0xc0000201#32 else none, fun _ => none, [], none⟩

theorem fresh_initial : Initial demo fresh := ⟨nofun, fun _ h => absurd rfl h⟩

theorem routes_recover_claim :
    (quietResync demo ([.change "x" (some claim), .apply 0].foldl (step demo) fresh)
      [claim]).routes "10.0.0.7" = some 0xc0000201#32 := by
  have hmeet : AllMeet (fun s e => Enabled s e ∧ Kept demo s e) (step demo) fresh
      [.change "x" (some claim), .apply 0] :=
    ⟨⟨by simp [Enabled, claim], trivial⟩, ⟨rfl, fun _ _ _ _ _ => .inl rfl⟩, trivial⟩
  refine (routes_recover ((Reaches.start fresh_initial).extend hmeet) rfl ⟨rfl, fun fip => ?_⟩
    (fun f hf g hg _ _ _ => ?_) _ _).mpr ⟨claim, rfl, rfl, rfl⟩
  · show fip ∈ [claim] ↔ update (fun _ => none) "x" (some claim) fip.name = some fip
    grind [update_apply, claim]
  · rw [List.mem_singleton.mp hf, List.mem_singleton.mp hg]

/-- **A DELETED CLAIM KEEPS ITS ROUTE** when its handler's deletion fails: the store is empty, so
    that a resync visits nothing. -/
theorem deleted_route_stays :
    ∃ s, Reaches (step demo) Enabled (Initial demo) s ∧ s.queue = [] ∧ (∀ n, s.store n = none) ∧
      Enabled s (.resync []) ∧ (quietResync demo s []).routes "10.0.0.7" = some 0xc0000201#32 := by
  have hmeet : AllMeet Enabled (step demo) fresh
      [.change "x" (some claim), .apply 1, .change "x" none, .apply 0] :=
    ⟨by simp [Enabled, claim], rfl, by simp [Enabled], rfl, trivial⟩
  have hnone : ∀ n, update (update (fun _ => none) "x" (some claim)) "x" none n = none := by
    intro n
    rw [update_idem, update_apply]
    split <;> rfl
  exact ⟨_, (Reaches.start fresh_initial).extend hmeet, rfl, hnone,
    ⟨rfl, fun fip => ⟨nofun, fun h => nomatch (hnone fip.name).symm.trans h⟩⟩, rfl⟩

end CozyFabricRoutes
