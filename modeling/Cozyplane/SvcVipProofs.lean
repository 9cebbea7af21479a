import Cozyplane.ClaimStoreProofs
import Cozyplane.KernelMapProofs
import Cozyplane.RunProofs
import Cozyplane.ServiceProofs

/-!
# ServiceVIPs — from the objects to the backend a packet gets

The agent compiles the ServiceVIPs of a snapshot to rows of `svc_vips` and syncs them. The map is
shared with kpr, which owns the rows of network 0; the two write at the same time, without a lock
between them.
-/

namespace CozySvcVip

open CozyPacket CozyMaps CozyService CozyDatapath KernelMap Run
open CozyBoundaryCompile (VPCRef)
open CozyCidr (addr128)
open CozyClaimStore (Texts VIPPort BackendPort ServiceVIPSpec serviceVIPName)

/-- A backend of a ServiceVIP. -/
structure Backend where
  ip : String
  ports : List BackendPort
  deriving DecidableEq

/-- The fields of a ServiceVIP the compiler reads; the two UIDs are annotations. -/
structure ServiceVIP where
  name : String
  spec : ServiceVIPSpec
  vpcUID : String
  serviceUID : String
  deleting : Bool
  clientIP : Bool
  backends : List Backend
  deriving DecidableEq

/-- What is read of a VPC. -/
structure VPC where
  ref : VPCRef
  uid : String
  vni : Int
  deleting : Bool
  deriving DecidableEq

/-- `serviceidentity.MatchesVPC`. -/
def matchesVPC (X : Texts) (v : ServiceVIP) (c : VPC) : Bool :=
  c.uid != "" && decide (0 < c.vni) && decide (c.vni < 2 ^ 22) && !v.deleting && !c.deleting &&
    v.spec.vpcRef == c.ref && v.vpcUID == c.uid && v.name == serviceVIPName X c.vni v.spec.ip

-- ── the budgets

def countBackend (work : Nat) (b : Backend) : Except String Nat :=
  if 2 ^ 20 < work + b.ports.length then .error "ServiceVIP input work budget exceeded"
  else .ok (work + b.ports.length)

/-- The work and the ports counted so far, and one ServiceVIP more. -/
def countVIP (n : Nat × Nat) (v : ServiceVIP) : Except String (Nat × Nat) :=
  if 4096 < v.spec.ports.length ∨ 4096 < v.backends.length then
    .error ("ServiceVIP " ++ v.name ++ " exceeds port/backend budget")
  else
    match v.backends.foldlM countBackend (n.1 + v.spec.ports.length + v.backends.length) with
    | .error e => .error e
    | .ok work =>
      if 2 ^ 20 < work ∨ 16384 < n.2 + v.spec.ports.length then
        .error "ServiceVIP snapshot budget exceeded"
      else .ok (work, n.2 + v.spec.ports.length)

def preflight (all : List ServiceVIP) : Except String (Nat × Nat) :=
  if 65536 < all.length then .error "ServiceVIP object budget exceeded"
  else all.foldlM countVIP (all.length, 0)

-- ── compilation

abbrev PortKey := String × Int

/-- `byPort`: a declared port has a bucket. -/
abbrev ByPort := PortKey → Option (List SvcBackend)

def declared (p : VIPPort) : Bool :=
  (p.protocol == "TCP" || p.protocol == "UDP") && decide (0 < p.port) && decide (p.port ≤ 65535)

def declarePorts (ports : List VIPPort) : ByPort :=
  ports.foldl (fun m p => if declared p then Function.update m (p.protocol, p.port) (some []) else m)
    fun _ => none

def svcMaxBackends : Nat := 16

def addPort (ip : Addr) (m : ByPort) (bp : BackendPort) : ByPort :=
  match m (bp.protocol, bp.port) with
  | none => m
  | some bucket =>
    if bp.targetPort ≤ 0 ∨ 65535 < bp.targetPort then m
    else if bucket.length = svcMaxBackends then m
    else Function.update m (bp.protocol, bp.port)
      (some (bucket ++ [⟨ip, BitVec.ofInt 16 bp.targetPort⟩]))

def addBackend (X : Texts) (m : ByPort) (b : Backend) : ByPort :=
  match X.parseIP b.ip with
  | none => m
  | some ip => b.ports.foldl (addPort ip) m

/-- `datapath.SvcEntry`. -/
structure SvcEntry where
  net : U32
  vip : Addr
  proto : U8
  port : U16
  backends : List SvcBackend
  affinity : Bool
  deriving DecidableEq

def entryOf (v : ServiceVIP) (c : VPC) (vip : Addr) (p : VIPPort) (bs : List SvcBackend) : SvcEntry :=
  ⟨BitVec.ofInt 32 c.vni, vip, if p.protocol = "UDP" then ipprotoUdp else ipprotoTcp,
    BitVec.ofInt 16 p.port, bs, v.clientIP⟩

def compileVIP (X : Texts) (lookup : VPCRef → Option VPC) (v : ServiceVIP) : List SvcEntry :=
  match lookup v.spec.vpcRef with
  | none => []
  | some c =>
    if !matchesVPC X v c || v.serviceUID == "" then []
    else
      match X.parseIP v.spec.ip with
      | none => []
      | some vip =>
        let byPort := v.backends.foldl (addBackend X) (declarePorts v.spec.ports)
        v.spec.ports.filterMap fun p => (byPort (p.protocol, p.port)).map (entryOf v c vip p)

/-- The served ServiceVIPs as rows. -/
def compileServiceVIPs (X : Texts) (lookup : VPCRef → Option VPC) (all : List ServiceVIP) :
    Except String (List SvcEntry) :=
  (preflight all).map fun _ => all.flatMap (compileVIP X lookup)

-- ── what the buckets hold

def Capped (m : ByPort) : Prop := ∀ k old, m k = some old → old.length ≤ svcMaxBackends

/-- The step appends `g` to the buckets there are, as far as they have room. -/
def Appends (step : ByPort → ByPort) (g : PortKey → List SvcBackend) : Prop :=
  ∀ m, Capped m → ∀ k, step m k = (m k).map fun old => (old ++ g k).take svcMaxBackends

theorem take_append_take {α : Type} (n : Nat) (a b : List α) :
    (a.take n ++ b).take n = (a ++ b).take n := by
  rw [List.take_append, List.take_append, List.take_take, Nat.min_self, List.length_take]
  congr 2
  omega

variable {step₁ : ByPort → ByPort} {g : PortKey → List SvcBackend}

theorem Appends.capped (h : Appends step₁ g) {m : ByPort} (hm : Capped m) : Capped (step₁ m) := by
  intro k new hnew
  rw [h m hm k, Option.map_eq_some_iff] at hnew
  obtain ⟨old, -, rfl⟩ := hnew
  exact List.length_take_le _ _

theorem Appends.nothing {m : ByPort} (hm : Capped m) (k : PortKey) :
    m k = (m k).map fun old => (old ++ []).take svcMaxBackends := by
  cases hk : m k with
  | none => rfl
  | some old => simp [List.take_of_length_le (hm k old hk)]

/-- A loop appends what its steps append. Induction on the list. -/
theorem Appends.foldl {α : Type} {f : ByPort → α → ByPort} {g : α → PortKey → List SvcBackend}
    (h : ∀ x, Appends (fun m => f m x) (g x)) (xs : List α) :
    Appends (fun m => xs.foldl f m) fun k => xs.flatMap fun x => g x k := by
  induction xs with
  | nil =>
    intro m hm k
    exact Appends.nothing hm k
  | cons x xs ih =>
    intro m hm k
    show xs.foldl f (f m x) k = (m k).map fun old =>
      (old ++ (x :: xs).flatMap fun x => g x k).take svcMaxBackends
    have hrest : xs.foldl f (f m x) k = _ := ih (f m x) ((h x).capped hm) k
    have hone : f m x k = _ := h x m hm k
    rw [hrest, hone, Option.map_map]
    cases m k with
    | none => rfl
    | some old =>
      show some ((((old ++ g x k).take _) ++ xs.flatMap fun x => g x k).take _) = some _
      rw [take_append_take, List.flatMap_cons, List.append_assoc]

/-- What a port of a backend offers under a service port. -/
def offered (ip : Addr) (k : PortKey) (bp : BackendPort) : List SvcBackend :=
  if (bp.protocol, bp.port) = k ∧ 0 < bp.targetPort ∧ bp.targetPort ≤ 65535 then
    [⟨ip, BitVec.ofInt 16 bp.targetPort⟩]
  else []

def offers (X : Texts) (k : PortKey) (b : Backend) : List SvcBackend :=
  match X.parseIP b.ip with
  | none => []
  | some ip => b.ports.flatMap (offered ip k)

theorem addPort_appends (ip : Addr) (bp : BackendPort) :
    Appends (fun m => addPort ip m bp) fun k => offered ip k bp := by
  intro m hm k
  show addPort ip m bp k = (m k).map fun old => (old ++ offered ip k bp).take svcMaxBackends
  by_cases hoff : (bp.protocol, bp.port) = k ∧ 0 < bp.targetPort ∧ bp.targetPort ≤ 65535
  · have hone : offered ip k bp = [⟨ip, BitVec.ofInt 16 bp.targetPort⟩] := if_pos hoff
    obtain ⟨rfl, hpos, hle⟩ := hoff
    unfold addPort
    cases hbucket : m (bp.protocol, bp.port) with
    | none => simp [hbucket]
    | some bucket =>
      have hlen := hm _ _ hbucket
      dsimp only
      rw [if_neg (by omega), hone, Option.map_some]
      by_cases hfull : bucket.length = svcMaxBackends
      · rw [if_pos hfull, hbucket, List.take_append_of_le_length (by omega), ← hfull,
          List.take_length]
      · rw [if_neg hfull, Function.update_self, List.take_of_length_le]
        rw [List.length_append, List.length_singleton]
        omega
  · have hnone : offered ip k bp = [] := if_neg hoff
    rw [hnone, ← Appends.nothing hm]
    unfold addPort
    cases hbucket : m (bp.protocol, bp.port) with
    | none => rfl
    | some bucket =>
      dsimp only
      split
      · rfl
      split
      · rfl
      · exact Function.update_of_ne (fun hk => hoff ⟨hk.symm, by omega, by omega⟩) _ _

theorem addBackend_appends (X : Texts) (b : Backend) :
    Appends (fun m => addBackend X m b) fun k => offers X k b := by
  intro m hm k
  show addBackend X m b k = _
  unfold addBackend offers
  cases X.parseIP b.ip with
  | none => exact Appends.nothing hm k
  | some ip => exact Appends.foldl (addPort_appends ip) b.ports m hm k

theorem declarePorts_eq (ports : List VIPPort) (k : PortKey) : declarePorts ports k =
    if ∃ p ∈ ports, declared p = true ∧ (p.protocol, p.port) = k then some [] else none := by
  unfold declarePorts
  induction ports using List.reverseRecOn with
  | nil => simp
  | append_singleton ports p ih =>
    rw [List.foldl_append, List.foldl_cons, List.foldl_nil]
    by_cases hp : declared p = true ∧ (p.protocol, p.port) = k
    · rw [if_pos hp.1, ← hp.2, Function.update_self, if_pos ⟨p, by simp, hp.1, rfl⟩]
    · have hothers : (∃ q ∈ ports ++ [p], declared q = true ∧ (q.protocol, q.port) = k) ↔
          ∃ q ∈ ports, declared q = true ∧ (q.protocol, q.port) = k := by
        simp only [List.mem_append, List.mem_singleton, or_and_right, exists_or, exists_eq_left, hp,
          or_false]
      simp only [hothers, ← ih]
      split
      · rename_i hd
        exact Function.update_of_ne (fun hk => hp ⟨hd, hk.symm⟩) _ _
      · rfl

/-- **THE BUCKETS** of the declared ports hold what the backends offer, the first sixteen. -/
theorem fillBackends_eq (X : Texts) (ports : List VIPPort) (bs : List Backend) (k : PortKey) :
    bs.foldl (addBackend X) (declarePorts ports) k =
      if ∃ p ∈ ports, declared p = true ∧ (p.protocol, p.port) = k then
        some ((bs.flatMap (offers X k)).take svcMaxBackends)
      else none := by
  have hcapped : Capped (declarePorts ports) := by
    intro k old hold
    rw [declarePorts_eq] at hold
    split at hold
    · cases hold
      exact Nat.zero_le _
    · cases hold
  refine (Appends.foldl (addBackend_appends X) bs _ hcapped k).trans ?_
  rw [declarePorts_eq]
  split
  · rfl
  · rfl

/-- The ServiceVIP is served in the VPC, under the address. -/
def Serves (X : Texts) (lookup : VPCRef → Option VPC) (v : ServiceVIP) (c : VPC) (vip : Addr) : Prop :=
  lookup v.spec.vpcRef = some c ∧ matchesVPC X v c = true ∧ v.serviceUID ≠ "" ∧
    X.parseIP v.spec.ip = some vip

/-- The backends a port is compiled with. -/
def backendsOf (X : Texts) (v : ServiceVIP) (p : VIPPort) : List SvcBackend :=
  (v.backends.flatMap (offers X (p.protocol, p.port))).take svcMaxBackends

theorem mem_compileVIP {X : Texts} {lookup : VPCRef → Option VPC} {v : ServiceVIP} {e : SvcEntry} :
    e ∈ compileVIP X lookup v ↔ ∃ c vip, Serves X lookup v c vip ∧ ∃ p ∈ v.spec.ports,
      declared p = true ∧ e = entryOf v c vip p (backendsOf X v p) := by
  unfold compileVIP Serves
  cases hlookup : lookup v.spec.vpcRef with
  | none => simp
  | some c =>
    dsimp only
    by_cases hskip : (!matchesVPC X v c || v.serviceUID == "") = true
    · rw [if_pos hskip]
      rw [Bool.or_eq_true, Bool.not_eq_true', beq_iff_eq] at hskip
      refine iff_of_false (List.not_mem_nil) ?_
      rintro ⟨c', vip, ⟨hc, hm, hu, -⟩, -⟩
      cases hc
      rcases hskip with h | h
      · rw [h] at hm
        cases hm
      · exact hu h
    rw [if_neg hskip]
    rw [Bool.not_eq_true, Bool.or_eq_false_iff, Bool.not_eq_false', beq_eq_false_iff_ne] at hskip
    cases hvip : X.parseIP v.spec.ip with
    | none => simp
    | some vip =>
      rw [List.mem_filterMap]
      constructor
      · rintro ⟨p, hp, he⟩
        rw [fillBackends_eq] at he
        split at he
        · rename_i hdecl
          obtain ⟨q, -, hq, hkey⟩ := hdecl
          have hdp : declared p = true := by
            rw [← hq]
            unfold declared
            rw [(Prod.mk.inj hkey).1, (Prod.mk.inj hkey).2]
          exact ⟨c, vip, ⟨rfl, hskip.1, hskip.2, rfl⟩, p, hp, hdp, (Option.some.inj he).symm⟩
        · cases he
      · rintro ⟨c', vip', ⟨hc, -, -, hv⟩, p, hp, hdp, rfl⟩
        cases hc
        cases hv
        refine ⟨p, hp, ?_⟩
        rw [fillBackends_eq, if_pos ⟨p, hp, hdp, rfl⟩]
        rfl

-- ── the sync

abbrev Rows := KMap SvcKey SvcVal

def svcKey (e : SvcEntry) : SvcKey := ⟨e.net, addr128 e.vip, e.proto, e.port⟩

/-- The backends as the array of a row. -/
def svcCells (e : SvcEntry) : List SvcBackend :=
  (e.backends.take svcMaxBackends).map fun b => ⟨addr128 b.ip, b.port⟩

def svcVal (e : SvcEntry) : SvcVal :=
  ⟨BitVec.ofNat 32 (svcCells e).length, if e.affinity then 1#32 else 0#32,
    fun i => (svcCells e).getD i.val ⟨0#128, 0#16⟩⟩

/-- `svc_vips` has 16384 entries. -/
def desiredRows (entries : List SvcEntry) : Except String Rows :=
  entries.foldlM (fun want e => putDesired 16384 want (svcKey e) (svcVal e)) ∅

theorem countVIP_ports {n n' : Nat × Nat} {v : ServiceVIP} (h : countVIP n v = .ok n') :
    n'.2 = n.2 + v.spec.ports.length ∧ n'.2 ≤ 16384 := by
  unfold countVIP at h
  split at h
  · cases h
  split at h
  · cases h
  split at h
  · cases h
  · cases h
    exact ⟨rfl, by omega⟩

/-- The ports of an accepted snapshot are counted. Induction on the list. -/
theorem countVIP_total {all : List ServiceVIP} {n n' : Nat × Nat}
    (h : all.foldlM countVIP n = .ok n') (hn : n.2 ≤ 16384) :
    n.2 + (all.map fun v => v.spec.ports.length).sum ≤ 16384 := by
  induction all generalizing n with
  | nil => simpa using hn
  | cons v all ih =>
    obtain ⟨n₁, hone, hrest⟩ := Accumulate.bind_ok h
    obtain ⟨hports, hle⟩ := countVIP_ports hone
    have := ih hrest hle
    rw [List.map_cons, List.sum_cons]
    omega

theorem compile_length {X : Texts} {lookup : VPCRef → Option VPC} {all : List ServiceVIP}
    {entries : List SvcEntry} (h : compileServiceVIPs X lookup all = .ok entries) :
    entries = all.flatMap (compileVIP X lookup) ∧ entries.length ≤ 16384 := by
  unfold compileServiceVIPs preflight at h
  split at h
  · cases h
  cases hcount : all.foldlM countVIP (all.length, 0) with
  | error e =>
    rw [hcount] at h
    cases h
  | ok n =>
    rw [hcount] at h
    cases h
    have htotal := countVIP_total hcount (Nat.zero_le _)
    have hone : ∀ v : ServiceVIP, (compileVIP X lookup v).length ≤ v.spec.ports.length := by
      intro v
      unfold compileVIP
      split
      · exact Nat.zero_le _
      split
      · exact Nat.zero_le _
      split
      · exact Nat.zero_le _
      · exact List.length_filterMap_le _ _
    refine ⟨rfl, ?_⟩
    rw [List.length_flatMap]
    have := List.sum_le_sum fun v (_ : v ∈ all) => hone v
    omega

/-- Wanted rows come from the entries, and there is room for them. Induction on the entries. -/
theorem desiredRows_ok {entries : List SvcEntry} {want : Rows}
    (h : want.keys.length + entries.length ≤ 16384) :
    ∃ want', entries.foldlM (fun want e => putDesired 16384 want (svcKey e) (svcVal e)) want =
        (.ok want' : Except String Rows) ∧
      ∀ k, (∃ e ∈ entries, svcKey e = k ∧ want'.lookup k = some (svcVal e)) ∨
        (∀ e ∈ entries, svcKey e ≠ k) ∧ want'.lookup k = want.lookup k := by
  induction entries generalizing want with
  | nil => exact ⟨want, rfl, fun k => .inr ⟨fun e he => (nomatch he), rfl⟩⟩
  | cons e entries ih =>
    rw [List.length_cons] at h
    have hput : putDesired 16384 want (svcKey e) (svcVal e) = .ok (want.insert (svcKey e) (svcVal e)) :=
      if_neg fun hfull => by omega
    have hlen : (want.insert (svcKey e) (svcVal e)).keys.length ≤ want.keys.length + 1 := by
      rw [AList.keys_insert, List.length_cons]
      exact Nat.succ_le_succ List.length_erase_le
    have hroom : (want.insert (svcKey e) (svcVal e)).keys.length + entries.length ≤ 16384 := by omega
    obtain ⟨want', hrest, hrows⟩ := ih hroom
    refine ⟨want', by rw [List.foldlM_cons, hput]; exact hrest, fun k => ?_⟩
    rcases hrows k with ⟨e', he', hk, hrow⟩ | ⟨hnone, hrow⟩
    · exact .inl ⟨e', .tail _ he', hk, hrow⟩
    by_cases hk : svcKey e = k
    · refine .inl ⟨e, .head _, hk, hrow.trans ?_⟩
      rw [← hk, AList.lookup_insert]
    · refine .inr ⟨fun e' he' => ?_, hrow.trans (AList.lookup_insert_ne (Ne.symm hk))⟩
      rcases List.mem_cons.mp he' with rfl | he'
      · exact hk
      · exact hnone e' he'

section Compiled

variable {X : Texts} {lookup : VPCRef → Option VPC} {all : List ServiceVIP} {entries : List SvcEntry}

/-- An accepted snapshot has room: each key has the row of an entry with it. -/
theorem compiled_rows (h : compileServiceVIPs X lookup all = .ok entries) :
    ∃ want, desiredRows entries = .ok want ∧
      ∀ k, (∃ e ∈ entries, svcKey e = k ∧ want.lookup k = some (svcVal e)) ∨
        (∀ e ∈ entries, svcKey e ≠ k) ∧ want.lookup k = none := by
  have hroom : (∅ : Rows).keys.length + entries.length ≤ 16384 := by
    show 0 + _ ≤ 16384
    rw [Nat.zero_add]
    exact (compile_length h).2
  exact desiredRows_ok hroom

/-- **COMPILED ROWS ARE TENANT ROWS**: a ServiceVIP is only served in a VPC with an identifier. -/
theorem compiled_tenant {want : Rows} (h : compileServiceVIPs X lookup all = .ok entries)
    (hwant : desiredRows entries = .ok want) : ∀ k ∈ want, k.net ≠ 0#32 := by
  obtain ⟨want', hok, hrows⟩ := compiled_rows h
  obtain rfl : want' = want := Except.ok.inj (hok.symm.trans hwant)
  obtain ⟨rfl, -⟩ := compile_length h
  intro k hk
  rcases hrows k with ⟨e, he, rfl, -⟩ | ⟨-, hrow⟩
  · obtain ⟨v, -, he⟩ := List.mem_flatMap.mp he
    obtain ⟨c, vip, ⟨-, hmatch, -, -⟩, p, -, -, rfl⟩ := mem_compileVIP.mp he
    have hvni : 0 < c.vni ∧ c.vni < 2 ^ 22 := by
      simp only [matchesVPC, Bool.and_eq_true, decide_eq_true_eq] at hmatch
      exact ⟨hmatch.1.1.1.1.1.1.2, hmatch.1.1.1.1.1.2⟩
    show BitVec.ofInt 32 c.vni ≠ 0#32
    intro hzero
    have hnat : (c.vni % (2 ^ 32 : Nat)).toNat = 0 := by
      rw [← BitVec.toNat_ofInt, hzero]
      rfl
    omega
  · exact absurd hk (AList.lookup_eq_none.mp hrow)

end Compiled

/-- The operations of `SyncServiceVIPs`, in some order of either iteration: the rows of network 0 are
    kpr's. -/
def SyncOps (rows want : Rows) (ops : List (Op SvcKey SvcVal)) : Prop :=
  ∃ (dels : List SvcKey) (puts : List (Sigma fun _ : SvcKey => SvcVal)),
    ops = dels.map .del ++ puts.map putOp ∧
    (∀ k, k ∈ dels ↔ k.net ≠ 0#32 ∧ k ∈ rows ∧ k ∉ want) ∧ puts.Perm want.entries

/-- A call of the agent: the rows it found, those it wants, and the operations it has left. -/
structure Call where
  before : Rows
  want : Rows
  left : List (Op SvcKey SvcVal)

/-- The map and the call under way. `alone` is what kpr's operations leave on their own, and
    `settled` what the last call wanted, if it succeeded. -/
structure State where
  rows : Rows
  call : Option Call
  alone : Rows
  settled : Option Rows

/-- An operation of kpr, or a step of the agent. -/
inductive Event where
  | kpr (o : Op SvcKey SvcVal)
  | start (entries : List SvcEntry) (ops : List (Op SvcKey SvcVal))
  | write
  | stop

/-- The next operation of the call. -/
def State.write (s : State) : State :=
  match s.call with
  | some ⟨before, want, o :: left⟩ =>
    { s with rows := apply s.rows o, call := some ⟨before, want, left⟩ }
  | _ => s

/-- The call returns; it has failed if anything is left. -/
def State.stop (s : State) : State :=
  match s.call with
  | some c => { s with call := none, settled := if c.left.isEmpty then some c.want else none }
  | none => s

def State.step (s : State) : Event → State
  | .kpr o => { s with rows := apply s.rows o, alone := apply s.alone o }
  | .start entries ops =>
    -- a call that cannot say what it wants writes nothing
    match desiredRows entries with
    | .ok want => { s with call := some ⟨s.rows, want, ops⟩, settled := none }
    | .error _ => { s with settled := none }
  | .write => s.write
  | .stop => s.stop

/-- kpr writes rows of network 0. The agent's calls exclude each other, and sync compiled snapshots. -/
def Valid (s : State) : Event → Prop
  | .kpr o => o.key.net = 0#32
  | .start entries ops => s.call = none ∧
    (∃ X lookup all, compileServiceVIPs X lookup all = .ok entries) ∧
    ∀ want, desiredRows entries = .ok want → SyncOps s.rows want ops
  | .write => True
  | .stop => True

def Started (s : State) : Prop := s.alone = s.rows ∧ s.call = none ∧ s.settled = none

/-- Every tenant row is the wanted one, or still the one the call found, with an operation left. -/
structure Call.Good (c : Call) (rows : Rows) : Prop where
  left : ∀ o ∈ c.left, o.key.net ≠ 0#32 ∧ o.value = c.want.lookup o.key
  row : ∀ k, k.net ≠ 0#32 → rows.lookup k = c.want.lookup k ∨
    rows.lookup k = c.before.lookup k ∧ ∃ o ∈ c.left, o.key = k

/-- Each writer has its own rows. -/
structure Inv (s : State) : Prop where
  platform : ∀ k, k.net = 0#32 → s.rows.lookup k = s.alone.lookup k
  call : ∀ c, s.call = some c → c.Good s.rows ∧ s.settled = none
  settled : ∀ want, s.settled = some want → ∀ k, k.net ≠ 0#32 → s.rows.lookup k = want.lookup k

theorem SyncOps.good {rows want : Rows} {ops : List (Op SvcKey SvcVal)} (h : SyncOps rows want ops)
    (hwant : ∀ k ∈ want, k.net ≠ 0#32) : Call.Good ⟨rows, want, ops⟩ rows := by
  obtain ⟨dels, puts, rfl, hdels, hputs⟩ := h
  have hlook : ∀ e : Sigma fun _ : SvcKey => SvcVal, e ∈ puts ↔ want.lookup e.1 = some e.2 :=
    fun e => hputs.mem_iff.trans AList.mem_lookup_iff.symm
  constructor
  · intro o ho
    rcases List.mem_append.mp ho with ho | ho
    · obtain ⟨k, hk, rfl⟩ := List.mem_map.mp ho
      obtain ⟨hnet, -, hnot⟩ := (hdels k).mp hk
      exact ⟨hnet, (AList.lookup_eq_none.mpr hnot).symm⟩
    · obtain ⟨e, he, rfl⟩ := List.mem_map.mp ho
      have hrow := (hlook e).mp he
      exact ⟨hwant e.1 (mem_iff_lookup.mpr ⟨e.2, hrow⟩), hrow.symm⟩
  · intro k hk
    cases hw : want.lookup k with
    | some v => exact .inr ⟨rfl, putOp ⟨k, v⟩, List.mem_append_right _
        (List.mem_map_of_mem ((hlook ⟨k, v⟩).mpr hw)), rfl⟩
    | none =>
      by_cases hr : k ∈ rows
      · exact .inr ⟨rfl, .del k, List.mem_append_left _ (List.mem_map_of_mem
          ((hdels k).mpr ⟨hk, hr, AList.lookup_eq_none.mp hw⟩)), rfl⟩
      · exact .inl (AList.lookup_eq_none.mpr hr)

/-- An operation of the call: its row is the wanted one from here on. -/
theorem Call.Good.write {before want rows : Rows} {o : Op SvcKey SvcVal}
    {left : List (Op SvcKey SvcVal)} (h : Call.Good ⟨before, want, o :: left⟩ rows) :
    Call.Good ⟨before, want, left⟩ (apply rows o) := by
  refine ⟨fun o' ho' => h.left o' (.tail _ ho'), fun k hk => ?_⟩
  by_cases hok : k = o.key
  · subst hok
    exact .inl ((lookup_apply_self rows o).trans (h.left o (.head _)).2)
  rw [lookup_apply_ne rows hok]
  refine (h.row k hk).imp_right fun ⟨hrow, o', ho', hkey⟩ => ⟨hrow, o', ?_, hkey⟩
  rcases List.mem_cons.mp ho' with rfl | ho'
  · exact absurd hkey.symm hok
  · exact ho'

theorem Inv.step {s : State} {e : Event} (h : Inv s) (hok : Valid s e) : Inv (s.step e) := by
  cases e with
  | kpr o =>
    have htenant : ∀ k : SvcKey, k.net ≠ 0#32 → (apply s.rows o).lookup k = s.rows.lookup k :=
      fun k hk => lookup_apply_ne s.rows fun heq => hk (heq ▸ hok)
    refine ⟨fun k hk => ?_, fun c hc => ?_, fun want hw k hk => ?_⟩
    · show (apply s.rows o).lookup k = (apply s.alone o).lookup k
      by_cases heq : k = o.key
      · rw [heq, lookup_apply_self, lookup_apply_self]
      · rw [lookup_apply_ne _ heq, lookup_apply_ne _ heq, h.platform k hk]
    · obtain ⟨hgood, hset⟩ := h.call c hc
      refine ⟨⟨hgood.left, fun k hk => ?_⟩, hset⟩
      show (apply s.rows o).lookup k = _ ∨ (apply s.rows o).lookup k = _ ∧ _
      rw [htenant k hk]
      exact hgood.row k hk
    · exact (htenant k hk).trans (h.settled want hw k hk)
  | start entries ops =>
    obtain ⟨-, ⟨X, lookup, all, hcompile⟩, hops⟩ := hok
    show Inv (match desiredRows entries with
      | .ok want => { s with call := some ⟨s.rows, want, ops⟩, settled := none }
      | .error _ => { s with settled := none })
    cases hwant : desiredRows entries with
    | error e =>
      exact ⟨h.platform, fun c hc => ⟨(h.call c hc).1, rfl⟩, fun want hw => nomatch hw⟩
    | ok want =>
      refine ⟨h.platform, fun c hc => ?_, fun want hw => nomatch hw⟩
      cases hc
      exact ⟨(hops want hwant).good (compiled_tenant hcompile hwant), rfl⟩
  | write =>
    show Inv s.write
    unfold State.write
    split
    · rename_i before want o left hcall
      obtain ⟨hgood, hset⟩ := h.call _ hcall
      refine ⟨fun k hk => ?_, fun c hc => ?_, fun want hw => ?_⟩
      · refine (lookup_apply_ne s.rows fun heq => ?_).trans (h.platform k hk)
        exact (hgood.left o (.head _)).1 (heq ▸ hk)
      · cases hc
        exact ⟨hgood.write, hset⟩
      · exact nomatch hset.symm.trans hw
    · exact h
  | stop =>
    show Inv s.stop
    unfold State.stop
    split
    · rename_i c hcall
      obtain ⟨hgood, -⟩ := h.call c hcall
      refine ⟨h.platform, fun c hc => (nomatch hc), fun want hw k hk => ?_⟩
      dsimp only at hw
      split at hw
      · rename_i hdone
        cases hw
        refine (hgood.row k hk).resolve_right ?_
        rintro ⟨-, o, ho, -⟩
        rw [List.isEmpty_iff.mp hdone] at ho
        exact nomatch ho
      · exact nomatch hw
    · exact h

theorem inv_of_reaches {s : State} (h : Reaches State.step Valid Started s) : Inv s := by
  refine h.invariant (fun s hs => ?_) fun s e hs hok => hs.step hok
  obtain ⟨halone, hcall, hset⟩ := hs
  exact ⟨fun k _ => by rw [halone], fun c hc => (nomatch hcall.symm.trans hc),
    fun want hw => nomatch hset.symm.trans hw⟩

/-- **TWO WRITERS, ONE MAP**: kpr's rows are what its own operations make of them; a call leaves each
    tenant row as it found it or as it wants it, and one that succeeds leaves exactly what it wants. -/
theorem rows_partitioned {s : State} (h : Reaches State.step Valid Started s) :
    (∀ k, k.net = 0#32 → s.rows.lookup k = s.alone.lookup k) ∧
    (∀ c, s.call = some c → ∀ k, k.net ≠ 0#32 →
      s.rows.lookup k = c.before.lookup k ∨ s.rows.lookup k = c.want.lookup k) ∧
    ∀ want, s.settled = some want → ∀ k, k.net ≠ 0#32 → s.rows.lookup k = want.lookup k := by
  have hinv := inv_of_reaches h
  refine ⟨hinv.platform, fun c hc k hk => ?_, hinv.settled⟩
  exact ((hinv.call c hc).1.row k hk).symm.imp_left And.left

-- ── from the objects to a packet

/-- The backend a new flow gets is one of the row's cells. -/
theorem svcPick_cell (e : SvcEntry) (hne : (svcVal e).n ≠ 0#32) (p : Pkt) (sport dport : U16) :
    ∃ b ∈ e.backends, (svcPick (svcVal e) none p sport dport).backend = addr128 b.ip ∧
      (svcPick (svcVal e) none p sport dport).tport = b.port := by
  have hlt := svcIndex_lt (svcVal e) p sport dport hne
  generalize hi : svcIndex (svcVal e) p sport dport = i at hlt
  have hcells : (svcCells e).length ≤ 16 := by
    rw [svcCells, List.length_map]
    exact List.length_take_le _ _
  have hn : (svcVal e).n.toNat = (svcCells e).length := by
    show (BitVec.ofNat 32 (svcCells e).length).toNat = _
    rw [BitVec.toNat_ofNat, Nat.mod_eq_of_lt (by omega)]
  have hin : i.val < (svcCells e).length := by
    unfold svcRows at hlt
    omega
  have hcell : (svcVal e).be i = (svcCells e)[i.val] := List.getD_eq_getElem _ _ hin
  obtain ⟨b, hb, heq⟩ := List.mem_map.mp (List.getElem_mem hin)
  refine ⟨b, List.mem_of_mem_take hb, ?_⟩
  show ((svcVal e).be _).ip = _ ∧ ((svcVal e).be _).port = _
  rw [hi, hcell]
  unfold svcCells at heq ⊢
  rw [← heq]
  exact ⟨rfl, rfl⟩

/-- A declared port of a ServiceVIP has the key. -/
def At (X : Texts) (lookup : VPCRef → Option VPC) (key : SvcKey) (v : ServiceVIP) (q : VIPPort) : Prop :=
  ∃ c vip, Serves X lookup v c vip ∧ q ∈ v.spec.ports ∧ declared q = true ∧
    svcKey (entryOf v c vip q []) = key

section

variable {X : Texts} {lookup : VPCRef → Option VPC} {all : List ServiceVIP} {entries : List SvcEntry}
  {s : State} {m : Maps} {f : Flows} {skb : Skb} {p : Pkt} {srcnet dstnet : U32} {sport dport : U16}

/-- The row of a key after a sync: none, or that of a ServiceVIP with the key. -/
theorem settled_row (hcompile : compileServiceVIPs X lookup all = .ok entries)
    (hrun : Reaches State.step Valid Started s)
    (hsettled : ∀ want, desiredRows entries = .ok want → s.settled = some want) {k : SvcKey}
    (hk : k.net ≠ 0#32) :
    (s.rows.lookup k = none ∧ ∀ v ∈ all, ∀ q, ¬At X lookup k v q) ∨
      ∃ v ∈ all, ∃ q, At X lookup k v q ∧
        ∃ e : SvcEntry, e.backends = backendsOf X v q ∧ s.rows.lookup k = some (svcVal e) := by
  obtain ⟨want, hwant, hrows⟩ := compiled_rows hcompile
  obtain ⟨rfl, -⟩ := compile_length hcompile
  rw [(inv_of_reaches hrun).settled want (hsettled want hwant) k hk]
  rcases hrows k with ⟨e, he, hek, hrow⟩ | ⟨hnone, hrow⟩
  · obtain ⟨v, hv, he⟩ := List.mem_flatMap.mp he
    obtain ⟨c, vip, hserves, q, hq, hdecl, rfl⟩ := mem_compileVIP.mp he
    exact .inr ⟨v, hv, q, ⟨c, vip, hserves, hq, hdecl, hek⟩, _, rfl, hrow⟩
  · refine .inl ⟨hrow, ?_⟩
    rintro v hv q ⟨c, vip, hserves, hq, hdecl, hkey⟩
    exact hnone _ (List.mem_flatMap.mpr ⟨v, hv, mem_compileVIP.mpr ⟨c, vip, hserves, q, hq, hdecl, rfl⟩⟩)
      hkey

/-- **A NEW FLOW GETS A LISTED BACKEND**: after a sync of the snapshot, whatever kpr does meanwhile, a
    packet to an address and port that no ServiceVIP declares is left alone, and any other goes to a
    backend that a ServiceVIP with that port lists, unless it lists none. -/
theorem forward_listed (hcompile : compileServiceVIPs X lookup all = .ok entries)
    (hrun : Reaches State.step Valid Started s)
    (hsettled : ∀ want, desiredRows entries = .ok want → s.settled = some want)
    (hmap : ∀ k, m.svcVips k = s.rows.lookup k) (hnet : dstnet ≠ 0#32)
    (hfresh : f.svcFwd ⟨srcnet, p.proto, sport, p.src, p.dst, dport⟩ = none)
    (hports : svcPorts skb.frame p = some (sport, dport)) :
    ((∀ v ∈ all, ∀ q, ¬At X lookup ⟨dstnet, p.dst, p.proto, dport⟩ v q) ∧
      svcForward m f skb p srcnet dstnet = (f, skb, p)) ∨
    ∃ v ∈ all, ∃ q, At X lookup ⟨dstnet, p.dst, p.proto, dport⟩ v q ∧
      ((backendsOf X v q = [] ∧ svcForward m f skb p srcnet dstnet = (f, skb, p)) ∨
      ∃ b ∈ backendsOf X v q,
        (svcForward m f skb p srcnet dstnet).2.2 = { p with dst := addr128 b.ip } ∧
        ∃ pin, (svcForward m f skb p srcnet dstnet).1.svcFwd
            ⟨srcnet, p.proto, sport, p.src, p.dst, dport⟩ = some pin ∧
          pin.backend = addr128 b.ip ∧ pin.tport = b.port) := by
  unfold svcForward
  rw [hports]
  dsimp only
  rw [hmap]
  rcases settled_row hcompile hrun hsettled (k := ⟨dstnet, p.dst, p.proto, dport⟩) hnet with
    ⟨hrow, hnobody⟩ | ⟨v, hv, q, hat, e, hbackends, hrow⟩
  · rw [hrow]
    exact .inl ⟨hnobody, rfl⟩
  refine .inr ⟨v, hv, q, hat, ?_⟩
  rw [hrow]
  dsimp only
  by_cases hempty : (svcVal e).n = 0#32
  · rw [if_pos hempty]
    refine .inl ⟨?_, rfl⟩
    have hlen : (BitVec.ofNat 32 (svcCells e).length).toNat = 0 := by
      rw [show BitVec.ofNat 32 (svcCells e).length = 0#32 from hempty]
      rfl
    rw [BitVec.toNat_ofNat, svcCells, List.length_map, List.length_take] at hlen
    rw [← hbackends]
    refine List.length_eq_zero_iff.mp ?_
    unfold svcMaxBackends at hlen
    omega
  · rw [if_neg hempty, hfresh]
    obtain ⟨b, hb, hip, hport⟩ := svcPick_cell e hempty p sport dport
    rw [hbackends] at hb
    exact .inr ⟨b, hb, by rw [hip], _, Function.update_self .., hip, hport⟩

end

def demoTexts : Texts :=
  { CozyClaimStore.raceTexts with
    ipString := fun a => if a = 1 then "10.0.0.1" else "10.0.0.9"
    parseIP := fun s => if s = "10.0.0.1" then some 1 else if s = "10.0.0.2" then some 2
      else if s = "10.0.0.3" then some 3 else if s = "10.0.0.9" then some 9 else none }

/-- 10.0.0.1 port 80, served by 10.0.0.2 and 10.0.0.3. -/
def webVIP : ServiceVIP :=
  ⟨"sv5.10-0-0-1", ⟨⟨"t", "net"⟩, "10.0.0.1", [⟨"TCP", 80⟩]⟩, "u", "s", false, false,
    [⟨"10.0.0.2", [⟨⟨"TCP", 80⟩, 8080⟩]⟩, ⟨"10.0.0.3", [⟨⟨"TCP", 80⟩, 8081⟩]⟩]⟩

/-- 10.0.0.9 port 53, served by 10.0.0.3. -/
def dnsVIP : ServiceVIP :=
  ⟨"sv5.10-0-0-9", ⟨⟨"t", "net"⟩, "10.0.0.9", [⟨"UDP", 53⟩]⟩, "u", "r", false, true,
    [⟨"10.0.0.3", [⟨⟨"UDP", 53⟩, 5353⟩]⟩]⟩

def demoLookup (_ : VPCRef) : Option VPC := some ⟨⟨"t", "net"⟩, "u", 5, false⟩

def webEntry : SvcEntry := ⟨5#32, 1#128, 6#8, 80#16, [⟨2#128, 8080#16⟩, ⟨3#128, 8081#16⟩], false⟩
def dnsEntry : SvcEntry := ⟨5#32, 9#128, 17#8, 53#16, [⟨3#128, 5353#16⟩], true⟩

theorem both_compiled :
    compileServiceVIPs demoTexts demoLookup [webVIP, dnsVIP] = .ok [webEntry, dnsEntry] := by
  decide +kernel

theorem web_compiled : compileServiceVIPs demoTexts demoLookup [webVIP] = .ok [webEntry] := by
  decide +kernel

/-- A ClusterIP of kpr, with the backends it has at first and later. -/
def clusterKey : SvcKey := ⟨0#32, 7#128, 6#8, 443#16⟩
def clusterVal (n : U32) : SvcVal := ⟨n, 0#32, fun _ => ⟨4#128, 6443#16⟩⟩

def putRow (e : SvcEntry) : Op SvcKey SvcVal := .put (svcKey e) (svcVal e)

/-- Both ServiceVIPs are synced; kpr changes its row between the two writes. -/
def bothSynced : List Event :=
  [.kpr (.put clusterKey (clusterVal 1#32)), .start [webEntry, dnsEntry] [putRow dnsEntry, putRow webEntry],
    .write, .kpr (.put clusterKey (clusterVal 2#32)), .write, .stop]

/-- The second ServiceVIP is gone; the next sync has deleted its row and not yet written the other. -/
def dnsGone : List Event := [.start [webEntry] [.del (svcKey dnsEntry), putRow webEntry], .write]

def emptyState : State := ⟨∅, none, ∅, none⟩
def syncedState : State := bothSynced.foldl State.step emptyState
def goneState : State := dnsGone.foldl State.step syncedState

theorem synced_reached : Reaches State.step Valid Started syncedState := by
  refine Reaches.extend (.start (s := emptyState) ⟨rfl, rfl, rfl⟩)
    ⟨rfl, ⟨rfl, ⟨_, _, _, both_compiled⟩, ?_⟩, trivial, rfl, trivial, trivial, trivial⟩
  intro want hwant
  cases hwant
  refine ⟨[], _, rfl, fun k => iff_of_false List.not_mem_nil ?_, .refl _⟩
  -- the only row is kpr's
  rintro ⟨hnet, hin, -⟩
  obtain rfl : k = clusterKey := by
    rcases AList.mem_insert _ |>.mp hin with hk | hk
    · exact hk
    · exact absurd hk (AList.notMem_empty k)
  exact hnet rfl

theorem gone_reached : Reaches State.step Valid Started goneState := by
  refine synced_reached.extend ⟨⟨rfl, ⟨_, _, _, web_compiled⟩, ?_⟩, trivial, trivial⟩
  intro want hwant
  cases hwant
  refine ⟨[svcKey dnsEntry], _, rfl, fun k => ?_, .refl _⟩
  have hrows : k ∈ syncedState.rows ↔ k = svcKey webEntry ∨ k = clusterKey ∨ k = svcKey dnsEntry := by
    show k ∈ ((((∅ : Rows).insert clusterKey _).insert (svcKey dnsEntry) _).insert clusterKey _).insert
      (svcKey webEntry) _ ↔ _
    simp only [AList.mem_insert, AList.notMem_empty, or_false]
    tauto
  have hwant : k ∈ (∅ : Rows).insert (svcKey webEntry) (svcVal webEntry) ↔ k = svcKey webEntry := by
    rw [AList.mem_insert, or_iff_left (AList.notMem_empty k)]
  rw [List.mem_singleton, hrows]
  constructor
  · rintro rfl
    exact ⟨by decide, .inr (.inr rfl), fun h => absurd (hwant.mp h) (by decide)⟩
  · rintro ⟨hnet, rfl | rfl | rfl, hnot⟩
    · exact absurd (hwant.mpr rfl) hnot
    · exact absurd rfl hnet
    · rfl

/-- kpr's row is its own, the deleted row is as wanted, and the other still as found. -/
theorem rows_partitioned_gone :
    goneState.rows.lookup clusterKey = some (clusterVal 2#32) ∧
    (∃ c, goneState.call = some c ∧ ∀ k, k.net ≠ 0#32 →
      goneState.rows.lookup k = c.before.lookup k ∨ goneState.rows.lookup k = c.want.lookup k) ∧
    goneState.rows.lookup (svcKey dnsEntry) = none ∧
    syncedState.rows.lookup (svcKey dnsEntry) = some (svcVal dnsEntry) := by
  obtain ⟨hkpr, hcall, -⟩ := rows_partitioned gone_reached
  refine ⟨(hkpr clusterKey rfl).trans rfl, ⟨_, rfl, hcall _ rfl⟩, by decide +kernel, ?_⟩
  exact (rows_partitioned synced_reached).2.2 _ rfl _ (by decide)

def demoSkb : Skb :=
  ⟨.ip4 ⟨4#4, 5#4, 0#16, 6#8, 0x0a000003#32, 0x0a000001#32⟩ [20#8, 233#8, 0#8, 80#8], 0#32, 2#32, 2#32,
    none, none⟩

def demoPkt : Pkt := ⟨false, 6#8, 3#128, 1#128⟩

def demoMaps : Maps := { Maps.empty with svcVips := syncedState.rows.lookup }

/-- A new flow to the web address goes to one of its two backends. -/
theorem forward_listed_web :
    ∃ b ∈ [⟨2#128, 8080#16⟩, ⟨3#128, 8081#16⟩],
      (svcForward demoMaps Flows.empty demoSkb demoPkt 5#32 5#32).2.2 =
        { demoPkt with dst := addr128 (SvcBackend.ip b) } := by
  have hsettled : ∀ want, desiredRows [webEntry, dnsEntry] = .ok want →
      syncedState.settled = some want := by
    intro want hwant
    cases hwant
    rfl
  have hmap : ∀ k, demoMaps.svcVips k = syncedState.rows.lookup k := fun _ => rfl
  have hports : svcPorts demoSkb.frame demoPkt = some (5353#16, 80#16) := by decide
  have hfresh : Flows.empty.svcFwd
    ⟨5#32, demoPkt.proto, 5353#16, demoPkt.src, demoPkt.dst, 80#16⟩ = none := rfl
  have hbackends : backendsOf demoTexts webVIP ⟨"TCP", 80⟩ = [⟨2#128, 8080#16⟩, ⟨3#128, 8081#16⟩] := by
    decide +kernel
  rcases forward_listed both_compiled synced_reached hsettled hmap (show 5#32 ≠ 0#32 by decide) hfresh
    hports with ⟨hnone, -⟩ | ⟨v, hv, q, ⟨c, vip, hserves, hq, -, hkey⟩, hsent⟩
  · exact absurd ⟨_, 1#128, ⟨rfl, by decide +kernel, by decide, by decide⟩, .head _, by decide,
      by decide⟩ (hnone webVIP (.head _) ⟨"TCP", 80⟩)
  · rcases List.mem_cons.mp hv with rfl | hv
    · cases List.mem_singleton.mp hq
      rw [hbackends] at hsent
      rcases hsent with ⟨hempty, -⟩ | ⟨b, hb, hdst, -⟩
      · nomatch hempty
      · exact ⟨b, hb, hdst⟩
    · -- the other ServiceVIP has another port
      cases List.mem_singleton.mp hv
      cases List.mem_singleton.mp hq
      have hport : 53#16 = 80#16 := congrArg SvcKey.port hkey
      exact absurd hport (by decide)

end CozySvcVip
