import Cozyplane.CidrProofs
import Cozyplane.DatapathProofs
import Cozyplane.RunProofs
import Cozyplane.ShadowArrayProofs

/-!
# Route syncs — vpc_routes and the bitmap of blocked scopes behind one guard

`SyncRoutesScoped` replaces the route table and the bitmap of the scopes whose owner is denied.
The bitmap is an array of 1024 cells of 128 words, one bit a VNI; the manager keeps its non-zero
cells in memory and writes only what changed. `routes_blocked` reads the guard, then the bit.
-/

namespace CozyRoutes

open PrefixTable Accumulate KernelMap Phased Run ShadowArray
open CozyPacket CozyMaps CozyDatapath CozyCidr

/-- What the route code calls outside the repository: `net.ParseCIDR` and `IP.String`. -/
structure Texts where
  parseCIDR : String → Option IPNet
  ipString : Addr → String

/-- `RouteNextHop`; a nil address is `none`, any other is in its 16-byte form. -/
structure RouteNextHop where
  gwIP : Option Addr
  nodeIP : Option Addr
  deriving DecidableEq

/-- `RouteEntry` of the Go side. -/
structure DesiredRoute where
  scope : U32
  cidr : String
  nextHops : List RouteNextHop
  gwIP : Option Addr
  nodeIP : Option Addr
  vpn : Bool
  deriving DecidableEq

variable (X : Texts)

def lpmKey (scope : U32) (cidr : String) : Except String (RowKey (32 + 128)) :=
  match X.parseCIDR cidr with
  | none => .error ("parse CIDR \"" ++ cidr ++ "\": invalid CIDR address: " ++ cidr)
  | some c => .ok ⟨32 + (cidrRange c).plen, scope ++ (cidrRange c).addr⟩

/-- One next hop of `routeMapEntry`. -/
def hopEntry (h : RouteNextHop) : Except String GwEntry :=
  match h.gwIP with
  | none => .error "route next-hop IP: invalid IP \"<nil>\""
  | some gw =>
    match h.nodeIP with
    | none => .ok ⟨addr128 gw, 0#32⟩
    | some n =>
      if is4In6 n then .ok ⟨addr128 gw, n.extractLsb' 0 32⟩
      else .error ("route node IP \"" ++ X.ipString n ++ "\" is not IPv4")

def noHop : GwEntry := ⟨0#128, 0#32⟩

/-- The two slots, filled in order. -/
def hopEntries : List RouteNextHop → Except String (GwEntry × GwEntry)
  | [] => .ok (noHop, noHop)
  | [a] => (hopEntry X a).map fun x => (x, noHop)
  | a :: b :: _ =>
    match hopEntry X a with
    | .error e => .error e
    | .ok x => (hopEntry X b).map fun y => (x, y)

/-- The next hops in force: the single-hop fields stand in for an empty list. -/
def DesiredRoute.hops (d : DesiredRoute) : List RouteNextHop :=
  if d.nextHops = [] ∧ d.gwIP.isSome then [⟨d.gwIP, d.nodeIP⟩] else d.nextHops

/-- `routeMapEntry`. A route without next hops keeps its prefix, with one empty slot and no VPN
    flag. -/
def routeMapEntry (d : DesiredRoute) : Except String (RowKey (32 + 128) × RouteEntry) :=
  match lpmKey X d.scope d.cidr with
  | .error e => .error e
  | .ok key =>
    if 2 < d.hops.length then
      .error ("route " ++ d.cidr ++ " has " ++ toString d.hops.length ++
        " next-hops; expected at most 2")
    else
      match hopEntries X d.hops with
      | .error e => .error e
      | .ok (hop0, hop1) =>
        .ok (key, { hop0, hop1,
                    count := if d.hops.length = 2 then 2#8 else 1#8
                    flags := if d.vpn ∧ d.hops ≠ [] then 1#8 else 0#8 })

/-- A tenant's VNI. -/
def inVniRange (scope : U32) : Bool := scope != 0#32 && decide (scope.toNat < 2 ^ 22)

def vpcRoutesEntries : Nat := 4096

/-- The wanted rows of `vpc_routes`. -/
def routeRows (desired : List DesiredRoute) : Except String (KMap (RowKey (32 + 128)) RouteEntry) :=
  forEach desired (fun d want =>
    if inVniRange d.scope = false then .error "route scope outside tenant VNI range"
    else
      match routeMapEntry X d with
      | .error e => .error e
      | .ok (key, e) => putDesired vpcRoutesEntries want key e) ∅

variable {scope : U32}

theorem lpmKey_ok {cidr : String} {k : RowKey (32 + 128)} (h : lpmKey X scope cidr = .ok k) :
    ∃ c, X.parseCIDR cidr = some c ∧ k = ⟨32 + (cidrRange c).plen, scope ++ (cidrRange c).addr⟩ := by
  unfold lpmKey at h
  cases hc : X.parseCIDR cidr with
  | none =>
    rw [hc] at h
    nomatch h
  | some c =>
    rw [hc] at h
    exact ⟨c, rfl, (Except.ok.inj h).symm⟩

theorem routeMapEntry_ok {d : DesiredRoute} {k : RowKey (32 + 128)} {e : RouteEntry}
    (h : routeMapEntry X d = .ok (k, e)) :
    lpmKey X d.scope d.cidr = .ok k ∧ d.hops.length ≤ 2 ∧
      ∃ hop0 hop1, hopEntries X d.hops = .ok (hop0, hop1) ∧ e.hop0 = hop0 ∧ e.hop1 = hop1 ∧
        e.count = if d.hops.length = 2 then 2#8 else 1#8 := by
  unfold routeMapEntry at h
  cases hk : lpmKey X d.scope d.cidr with
  | error msg =>
    rw [hk] at h
    nomatch h
  | ok key =>
    rw [hk] at h
    by_cases hlen : 2 < d.hops.length
    · simp only [if_pos hlen] at h
      nomatch h
    simp only [if_neg hlen] at h
    cases hh : hopEntries X d.hops with
    | error msg =>
      rw [hh] at h
      nomatch h
    | ok hops =>
      obtain ⟨hop0, hop1⟩ := hops
      rw [hh] at h
      cases h
      exact ⟨rfl, Nat.not_lt.mp hlen, hop0, hop1, rfl, rfl, rfl, rfl⟩

variable {desired : List DesiredRoute}

theorem routeRows_rows {want : KMap (RowKey (32 + 128)) RouteEntry} (h : routeRows X desired = .ok want) :
    (∀ k e, want.lookup k = some e → ∃ d ∈ desired, routeMapEntry X d = .ok (k, e)) ∧
      ∀ d ∈ desired, ∃ k e, routeMapEntry X d = .ok (k, e) ∧ ∃ e', want.lookup k = some e' := by
  have hstep : ∀ d ∈ desired, ∀ s s' : KMap (RowKey (32 + 128)) RouteEntry,
      (∀ k e, s.lookup k = some e → ∃ d ∈ desired, routeMapEntry X d = .ok (k, e)) →
      (if inVniRange d.scope = false then Except.error "route scope outside tenant VNI range"
        else
          match routeMapEntry X d with
          | .error e => .error e
          | .ok (key, e) => putDesired vpcRoutesEntries s key e) = .ok s' →
      (∀ k e, s'.lookup k = some e → ∃ d ∈ desired, routeMapEntry X d = .ok (k, e)) ∧
        (∀ k, (∃ e, s.lookup k = some e) → ∃ e, s'.lookup k = some e) ∧
        ∃ k e, routeMapEntry X d = .ok (k, e) ∧ ∃ e', s'.lookup k = some e' := by
    intro d hd s s' hs hstep
    split at hstep
    · nomatch hstep
    split at hstep
    · nomatch hstep
    rename_i key e hrow
    obtain rfl := putDesired_ok hstep
    refine ⟨fun k e' hk => ?_, fun k hk => ?_, key, e, hrow, e, AList.lookup_insert _⟩
    · rcases lookup_insert_some.mp hk with ⟨rfl, rfl⟩ | ⟨-, hk⟩
      · exact ⟨d, hd, hrow⟩
      · exact hs k e' hk
    · rw [← mem_iff_lookup] at hk ⊢
      exact AList.mem_insert s |>.mpr (.inr hk)
  obtain ⟨hsound, -, hcomplete⟩ := forEach_establishes (fun _ _ hk => hk)
    (fun _ _ _ hab hbc k hk => hbc k (hab k hk))
    (fun d s s' hle ⟨k, e, hd, hk⟩ => ⟨k, e, hd, hle k hk⟩) hstep ∅ want
    (fun _ _ hk => nomatch hk) h
  exact ⟨hsound, hcomplete⟩

/-- `struct route_scope_guard`. -/
abbrev Cell := Fin 128 → U32

/-- `scope >> 12`. -/
def pageOf (scope : U32) : Nat := (scope >>> 12).toNat

/-- `(scope >> 5) & 127`. -/
def wordOf (scope : U32) : Fin 128 :=
  ⟨((scope >>> 5) &&& 127#32).toNat, by
    rw [BitVec.toNat_and]
    exact Nat.lt_of_le_of_lt Nat.and_le_right (by decide)⟩

/-- `1 << (scope & 31)`. -/
def bitOf (scope : U32) : U32 := 1#32 <<< (scope &&& 31#32).toNat

def blockScope (cell : Cell) (scope : U32) : Cell :=
  Function.update cell (wordOf scope) (cell (wordOf scope) ||| bitOf scope)

/-- The test of `routes_blocked`. -/
def scopeBit (cell : Cell) (scope : U32) : Bool := cell (wordOf scope) &&& bitOf scope != 0#32

theorem pageOf_lt (h : scope.toNat < 2 ^ 22) : pageOf scope < 1024 := by
  unfold pageOf
  rw [BitVec.toNat_ushiftRight, Nat.shiftRight_eq_div_pow]
  omega

theorem inVniRange_lt (h : inVniRange scope = true) : scope.toNat < 2 ^ 22 :=
  of_decide_eq_true (Bool.and_eq_true_iff.mp h).2

/-- One blocked scope: its cell is read, changed and stored. -/
def addScope (scope : U32) (cells : KMap (Fin 1024) Cell) : Except String (KMap (Fin 1024) Cell) :=
  if h : inVniRange scope = true then
    let page : Fin 1024 := ⟨pageOf scope, pageOf_lt (inVniRange_lt h)⟩
    .ok (cells.insert page (blockScope (cellAt cells page) scope))
  else .error "blocked scope outside tenant VNI range"

def scopeCells (blocked : List U32) : Except String (KMap (Fin 1024) Cell) :=
  forEach blocked addScope ∅

theorem toNat_split (scope : U32) :
    scope.toNat = pageOf scope * 4096 + (wordOf scope).val * 32 + (scope &&& 31#32).toNat := by
  have hpage : pageOf scope = scope.toNat / 4096 := by
    unfold pageOf
    rw [BitVec.toNat_ushiftRight, Nat.shiftRight_eq_div_pow]
  have hword : (wordOf scope).val = scope.toNat / 32 % 128 := by
    show ((scope >>> 5) &&& 127#32).toNat = _
    rw [BitVec.toNat_and, BitVec.toNat_ushiftRight, Nat.shiftRight_eq_div_pow]
    exact Nat.and_two_pow_sub_one_eq_mod _ 7
  have hbit : (scope &&& 31#32).toNat = scope.toNat % 32 := by
    exact Nat.and_two_pow_sub_one_eq_mod _ 5
  omega

theorem bit_lt (scope : U32) : (scope &&& 31#32).toNat < 32 := by
  exact Nat.lt_of_le_of_lt Nat.and_le_right (by decide)

theorem scopeBit_eq (cell : Cell) (scope : U32) :
    scopeBit cell scope = (cell (wordOf scope)).getLsbD (scope &&& 31#32).toNat := by
  have hand : cell (wordOf scope) &&& bitOf scope =
      if (cell (wordOf scope)).getLsbD (scope &&& 31#32).toNat
      then BitVec.twoPow 32 (scope &&& 31#32).toNat else 0#32 := BitVec.and_twoPow _ _
  unfold scopeBit
  rw [hand]
  cases hbit : (cell (wordOf scope)).getLsbD (scope &&& 31#32).toNat with
  | true =>
    have hne : BitVec.twoPow 32 (scope &&& 31#32).toNat ≠ 0#32 := by
      intro hzero
      have hnat := congrArg BitVec.toNat hzero
      rw [BitVec.toNat_twoPow_of_lt (bit_lt scope)] at hnat
      exact Nat.two_pow_pos _ |>.ne' hnat
    simpa using hne
  | false => rfl

/-- **BLOCKING A SCOPE** sets its bit and no other of its page. -/
theorem scopeBit_blockScope (cell : Cell) {s n : U32} (hpage : pageOf n = pageOf s) :
    scopeBit (blockScope cell s) n = true ↔ n = s ∨ scopeBit cell n = true := by
  rw [scopeBit_eq, scopeBit_eq]
  unfold blockScope
  by_cases hword : wordOf n = wordOf s
  · have hsame : n = s ↔ (n &&& 31#32).toNat = (s &&& 31#32).toNat := by
      constructor
      · rintro rfl
        rfl
      · intro hbit
        apply BitVec.eq_of_toNat_eq
        rw [toNat_split n, toNat_split s, hpage, hword, hbit]
    have hone : (bitOf s).getLsbD (n &&& 31#32).toNat =
        (decide ((s &&& 31#32).toNat < 32) && decide ((s &&& 31#32).toNat = (n &&& 31#32).toNat)) :=
      BitVec.getLsbD_twoPow _ _
    rw [decide_eq_true (bit_lt s), Bool.true_and] at hone
    rw [hword, Function.update_self, BitVec.getLsbD_or, hone, hsame, Bool.or_eq_true,
      decide_eq_true_iff, or_comm]
    exact or_congr_left eq_comm
  · rw [Function.update_of_ne hword]
    constructor
    · exact .inr
    · rintro (rfl | hset)
      · exact absurd rfl hword
      · exact hset

def bitSet (cells : Fin 1024 → Cell) (n : U32) : Bool :=
  if h : pageOf n < 1024 then scopeBit (cells ⟨pageOf n, h⟩) n else false

theorem bitSet_iff {cells : Fin 1024 → Cell} {n : U32} : bitSet cells n = true ↔
    ∃ h : pageOf n < 1024, scopeBit (cells ⟨pageOf n, h⟩) n = true := by
  unfold bitSet
  by_cases h : pageOf n < 1024
  · rw [dif_pos h]
    exact ⟨fun hb => ⟨h, hb⟩, fun ⟨_, hb⟩ => hb⟩
  rw [dif_neg h]
  constructor
  · intro hb
    nomatch hb
  · rintro ⟨hlt, -⟩
    exact absurd hlt h

theorem addScope_adds (scope : U32) :
    Adds (fun (cells : KMap (Fin 1024) Cell) n => bitSet (cellAt cells) n = true) (addScope scope)
      (fun n => n = scope) := by
  intro cells cells' h n
  unfold addScope at h
  by_cases hrange : inVniRange scope = true
  · rw [dif_pos hrange] at h
    cases h
    show bitSet (cellAt (AList.insert _ _ cells)) n = true ↔
      bitSet (cellAt cells) n = true ∨ n = scope
    by_cases hpage : pageOf n = pageOf scope
    · have hlt : pageOf scope < 1024 := pageOf_lt (inVniRange_lt hrange)
      have hfin : ∀ h : pageOf n < 1024, (⟨pageOf n, h⟩ : Fin 1024) = ⟨pageOf scope, hlt⟩ :=
        fun _ => Fin.ext hpage
      have hread (cs : Fin 1024 → Cell) :
          bitSet cs n = true ↔ scopeBit (cs ⟨pageOf scope, hlt⟩) n = true := by
        rw [bitSet_iff]
        constructor
        · rintro ⟨h, hb⟩
          rwa [hfin h] at hb
        · intro hb
          have h : pageOf n < 1024 := hpage ▸ hlt
          refine ⟨h, ?_⟩
          rwa [hfin h]
      rw [hread, hread, cellAt_insert_self, scopeBit_blockScope _ hpage, or_comm]
    · have hother : n ≠ scope := fun he => hpage (congrArg pageOf he)
      rw [bitSet_iff, bitSet_iff, or_iff_left hother]
      refine exists_congr fun h => ?_
      rw [cellAt_insert_ne]
      exact fun he => hpage (Fin.mk.inj he)
  · rw [dif_neg hrange] at h
    nomatch h

variable {blocked : List U32}

/-- **THE CELLS HOLD EXACTLY THE BLOCKED SCOPES.** -/
theorem scopeCells_iff {cells : KMap (Fin 1024) Cell} (h : scopeCells blocked = .ok cells) (n : U32) :
    bitSet (cellAt cells) n = true ↔ n ∈ blocked := by
  have hall := Adds.forEach blocked (fun scope _ => addScope_adds scope) ∅ cells h n
  have hnone : ¬ bitSet (cellAt (∅ : KMap (Fin 1024) Cell)) n = true := by
    rw [bitSet_iff]
    rintro ⟨hlt, hb⟩
    rw [scopeBit_eq] at hb
    have hzero : (0#32).getLsbD (n &&& 31#32).toNat = true := hb
    rw [BitVec.getLsbD_zero] at hzero
    nomatch hzero
  rw [hall, or_iff_right hnone]
  constructor
  · rintro ⟨scope, hmem, rfl⟩
    exact hmem
  · intro hmem
    exact ⟨n, hmem, rfl⟩

/-- The guard cell, `vpc_routes`, and `route_scopes` with its shadow. -/
structure Routes where
  armed : Bool
  rows : KMap (RowKey (32 + 128)) RouteEntry
  scopes : Shadowed (Fin 1024) Cell

/-- A write of a route sync. -/
inductive RouteWrite where
  | arm
  | disarm
  | row (o : Op (RowKey (32 + 128)) RouteEntry)
  | scope (w : ShadowArray.Write (Fin 1024) Cell)

def Routes.write (s : Routes) : RouteWrite → Routes
  | .arm => { s with armed := true }
  | .disarm => { s with armed := false }
  | .row o => { s with rows := apply s.rows o }
  | .scope w => { s with scopes := s.scopes.write w }

/-- The preflight of both maps, then `syncMap(VpcRoutes)`. -/
def rowsPhase (desired : List DesiredRoute) (blocked : List U32) : Phase Routes RouteWrite :=
  fun s ws => ∃ want cells ops, routeRows X desired = .ok want ∧ scopeCells blocked = .ok cells ∧
    Syncs s.rows want ops ∧ ws = ops.map .row

def pages : List (Fin 1024) := List.finRange 1024

/-- `syncRouteScopes`. -/
def scopesPhase (blocked : List U32) : Phase Routes RouteWrite := fun s ws =>
  ∃ cells ws', scopeCells blocked = .ok cells ∧ syncPhase pages cells s.scopes ws' ∧
    ws = ws'.map .scope

/-- Arm, write rows and cells, disarm. -/
def syncRoutesScoped (desired : List DesiredRoute) (blocked : List U32) :
    List (Phase Routes RouteWrite) :=
  once .arm :: ([rowsPhase X desired blocked, scopesPhase blocked] ++ [once .disarm])

def blockRoutes : List (Phase Routes RouteWrite) := [once .arm]

theorem exec_row (ops : List (Op (RowKey (32 + 128)) RouteEntry)) (s : Routes) :
    exec Routes.write s (ops.map .row) = { s with rows := applyAll s.rows ops } := by
  induction ops generalizing s with
  | nil => rfl
  | cons o ops ih =>
    rw [List.map_cons, exec_cons, ih]
    rfl

theorem exec_scope (ws : List (ShadowArray.Write (Fin 1024) Cell)) (s : Routes) :
    exec Routes.write s (ws.map .scope) =
      { s with scopes := exec Shadowed.write s.scopes ws } := by
  induction ws generalizing s with
  | nil => rfl
  | cons w ws ih =>
    rw [List.map_cons, exec_cons, ih]
    rfl

/-- What a successful `SyncRoutesScoped` published. -/
structure Published (desired : List DesiredRoute) (blocked : List U32) (s : Routes) : Prop where
  disarmed : s.armed = false
  seeded : s.scopes.seeded = true
  rows : ∃ want, routeRows X desired = .ok want ∧ ∀ k, s.rows.lookup k = want.lookup k
  scopes : ∀ n, bitSet s.scopes.kernel n = true ↔ n ∈ blocked

theorem work_keeps_armed (desired : List DesiredRoute) (blocked : List U32) :
    ∀ ph ∈ [rowsPhase X desired blocked, scopesPhase blocked],
      Keeps Routes.write (fun s => s.armed = true) ph := by
  intro ph hph
  refine .of_writes fun s ws hws w hw s' hs' => ?_
  rcases List.mem_cons.mp hph with rfl | hph
  · obtain ⟨-, -, ops, -, -, -, rfl⟩ := hws
    obtain ⟨o, -, rfl⟩ := List.mem_map.mp hw
    exact hs'
  obtain rfl := List.mem_singleton.mp hph
  obtain ⟨-, ws', -, -, rfl⟩ := hws
  obtain ⟨o, -, rfl⟩ := List.mem_map.mp hw
  exact hs'

theorem mem_pages (p : Fin 1024) : p ∈ pages := List.mem_finRange p

/-- Every phase keeps the shadow in step with the array. -/
theorem work_keeps_tracked (desired : List DesiredRoute) (blocked : List U32) :
    ∀ ph ∈ syncRoutesScoped X desired blocked,
      Keeps Routes.write (fun s => Tracked s.scopes) ph := by
  have honce : ∀ w : RouteWrite, (∀ s : Routes, (s.write w).scopes = s.scopes) →
      Keeps Routes.write (fun s => Tracked s.scopes) (once w) := by
    intro w hw
    refine .of_writes fun s ws hws w' hw' s' hs' => ?_
    obtain rfl : ws = [w] := hws
    obtain rfl := List.mem_singleton.mp hw'
    rw [hw s']
    exact hs'
  intro ph hph
  rcases List.mem_cons.mp hph with rfl | hph
  · exact honce .arm fun _ => rfl
  rcases List.mem_cons.mp hph with rfl | hph
  · refine .of_writes fun s ws hws w hw s' hs' => ?_
    obtain ⟨-, -, ops, -, -, -, rfl⟩ := hws
    obtain ⟨o, -, rfl⟩ := List.mem_map.mp hw
    exact hs'
  rcases List.mem_cons.mp hph with rfl | hph
  · intro s ws done hs hws hpre
    obtain ⟨cells, ws', -, hsync, rfl⟩ := hws
    rw [List.prefix_iff_eq_take.mp hpre, ← List.map_take, exec_scope]
    exact sync_keeps mem_pages cells s.scopes ws' _ hs hsync (List.take_prefix ..)
  · obtain rfl := List.mem_singleton.mp hph
    exact honce .disarm fun _ => rfl

variable {s : Routes} {ws : List RouteWrite}

/-- **A SUCCESSFUL SYNC PUBLISHES ITS ARGUMENTS.** -/
theorem sync_published (hs : Tracked s.scopes)
    (h : Completes Routes.write (syncRoutesScoped X desired blocked) s ws) :
    Published X desired blocked (exec Routes.write s ws) := by
  obtain ⟨ws', hwork, hend⟩ := guarded_completes h
  rw [hend]
  obtain ⟨ws₁, ws₂, rfl, hrows, hscopes⟩ := completes_cons.mp hwork
  obtain ⟨want, cells, ops, hwant, hcells, hsyncs, rfl⟩ := hrows
  obtain ⟨cells', ws'', hcells', hsync, rfl⟩ : scopesPhase blocked _ ws₂ :=
    completes_singleton.mp hscopes
  cases hcells.symm.trans hcells'
  rw [exec_row] at hsync
  rw [exec_append, exec_row, exec_scope]
  obtain ⟨hseeded, hall⟩ := sync_completes mem_pages hs hsync
  refine ⟨rfl, hseeded, ⟨want, hwant, hsyncs.lookup⟩, fun n => ?_⟩
  rw [← scopeCells_iff hcells n]
  have hkernel : (exec Shadowed.write s.scopes ws'').kernel = cellAt cells :=
    funext fun p => (hall p).1
  show bitSet (exec Shadowed.write s.scopes ws'').kernel n = true ↔ _
  rw [hkernel]

theorem sync_succeeds {want cells} (hwant : routeRows X desired = .ok want)
    (hcells : scopeCells blocked = .ok cells) (s : Routes) :
    ∃ ws, Completes Routes.write (syncRoutesScoped X desired blocked) s ws := by
  have hscopes : ∀ t : Routes, ∃ ws, scopesPhase blocked t ws := by
    intro t
    cases hseeded : t.scopes.seeded with
    | false => exact ⟨_, cells, _, hcells, .inl ⟨hseeded, rfl⟩, rfl⟩
    | true => exact ⟨_, cells, _, hcells, .inr ⟨hseeded, _, _, .refl _, .refl _, rfl⟩, rfl⟩
  have hrows : rowsPhase X desired blocked (s.write .arm) _ :=
    ⟨want, cells, _, hwant, hcells, syncOps_syncs s.rows want, rfl⟩
  obtain ⟨ws, hws⟩ := hscopes (exec Routes.write (s.write .arm) _)
  exact ⟨_, completes_once_cons.mpr ⟨_, rfl, .cons hrows (.cons hws (.cons rfl .nil))⟩⟩

/-- The maps `routes_blocked` and `route_of` read. -/
def routeMaps (m : Maps) (s : Routes) : Maps :=
  { m with
    vpcRoutes := mapTable s.rows
    routeGuard := if s.armed then 1#32 else 0#32
    routeScopes := fun n => bitSet s.scopes.kernel (BitVec.ofNat 32 n) }

theorem routesBlocked_armed (m : Maps) (h : s.armed = true) (n : U32) :
    routesBlocked (routeMaps m s) n = true := by
  have hguard : (routeMaps m s).routeGuard = 1#32 := by
    show (if s.armed then 1#32 else 0#32) = 1#32
    rw [h]
    rfl
  unfold routesBlocked
  rw [hguard]
  rfl

theorem routesBlocked_disarmed (m : Maps) (h : s.armed = false) {n : U32} (hn : n.toNat < 2 ^ 22) :
    routesBlocked (routeMaps m s) n = bitSet s.scopes.kernel n := by
  have hguard : (routeMaps m s).routeGuard = 0#32 := by
    show (if s.armed then 1#32 else 0#32) = 0#32
    rw [h]
    rfl
  have hpage : decide (1024 ≤ (n >>> 12).toNat) = false :=
    decide_eq_false (Nat.not_le.mpr (pageOf_lt hn))
  unfold routesBlocked
  rw [hguard, hpage]
  show bitSet s.scopes.kernel (BitVec.ofNat 32 n.toNat) = _
  rw [BitVec.ofNat_toNat, BitVec.setWidth_eq]

-- ── runs

/-- The two calls. -/
inductive Call where
  | sync (desired : List DesiredRoute) (blocked : List U32)
  | block

def Call.phases : Call → List (Phase Routes RouteWrite)
  | .sync desired blocked => syncRoutesScoped X desired blocked
  | .block => blockRoutes

/-- The state; the arguments of the last sync that succeeded; and that a call closed the routes
    since. -/
structure World where
  routes : Routes
  last : Option (List DesiredRoute × List U32)
  closed : Bool

/-- A call and the writes it made. -/
structure Event where
  call : Call
  writes : List RouteWrite
  finished : Bool

def World.step (w : World) (e : Event) : World :=
  let routes := exec Routes.write w.routes e.writes
  match e.call, e.finished with
  | .sync desired blocked, true => ⟨routes, some (desired, blocked), false⟩
  | .block, true => ⟨routes, w.last, true⟩
  | _, false => ⟨routes, w.last, w.closed || !e.writes.isEmpty⟩

def Event.valid (w : World) (e : Event) : Prop :=
  Ends Routes.write (e.call.phases X) w.routes e.writes e.finished

/-- What `Load` leaves: the guard armed, the shadow empty and not seeded, and whatever an earlier
    process left in the maps. -/
structure Loaded (w : World) : Prop where
  armed : w.routes.armed = true
  shadow : w.routes.scopes.shadow = ∅
  unseeded : w.routes.scopes.seeded = false
  closed : w.closed = true

/-- Closed is armed, open is published. -/
structure Inv (w : World) : Prop where
  tracked : Tracked w.routes.scopes
  closed : w.closed = true → w.routes.armed = true
  opened : w.closed = false → ∃ desired blocked, w.last = some (desired, blocked) ∧
    Published X desired blocked w.routes

theorem loaded_inv {w : World} (h : Loaded w) : Inv X w := by
  refine ⟨fun hseeded => ?_, fun _ => h.armed, fun hopen => ?_⟩
  · rw [h.unseeded] at hseeded
    nomatch hseeded
  · rw [h.closed] at hopen
    nomatch hopen

theorem call_cut {c : Call} (h : Cut Routes.write (c.phases X) s ws) :
    ws = [] ∨ (exec Routes.write s ws).armed = true := by
  obtain ⟨hstops, hnot⟩ := h
  cases c with
  | sync desired blocked =>
    have hcases : ws = [] ∨ (exec Routes.write s ws).armed = true ∨
        Completes Routes.write (syncRoutesScoped X desired blocked) s ws :=
      guarded_stops (fun _ => rfl) (work_keeps_armed X desired blocked) hstops
    rcases hcases with hnone | harmed | hall
    · exact .inl hnone
    · exact .inr harmed
    · exact absurd hall hnot
  | block =>
    rcases stops_once hstops with rfl | rfl
    · exact .inl rfl
    · exact .inr rfl

theorem call_tracked {c : Call} (hs : Tracked s.scopes) (h : Stops Routes.write (c.phases X) s ws) :
    Tracked (exec Routes.write s ws).scopes := by
  cases c with
  | sync desired blocked => exact Stops.invariant (work_keeps_tracked X desired blocked) h hs
  | block =>
    rcases stops_once h with rfl | rfl
    · exact hs
    · exact hs

/-- **ONE CALL** keeps the invariant. -/
theorem step_inv {w : World} {e : Event} (hw : Inv X w) (h : e.valid X w) : Inv X (w.step e) := by
  obtain ⟨call, ws, finished⟩ := e
  have htracked : Tracked (exec Routes.write w.routes ws).scopes :=
    call_tracked X hw.tracked (Ends.stops h)
  cases finished with
  | true =>
    cases call with
    | sync desired blocked =>
      refine ⟨htracked, (nomatch ·), fun _ => ⟨desired, blocked, rfl, ?_⟩⟩
      exact sync_published X hw.tracked h
    | block =>
      have hws : ws = [.arm] := completes_once.mp h
      subst hws
      exact ⟨htracked, fun _ => rfl, (nomatch ·)⟩
  | false =>
    have hstep : w.step ⟨call, ws, false⟩ =
        ⟨exec Routes.write w.routes ws, w.last, w.closed || !ws.isEmpty⟩ := by
      cases call with
      | sync desired blocked | block => rfl
    rw [hstep]
    rcases call_cut X h with rfl | harmed
    · -- no write was made: nothing changed
      rw [List.isEmpty_nil, Bool.not_true, Bool.or_false]
      exact hw
    refine ⟨htracked, fun _ => harmed, fun hopen => ?_⟩
    cases ws with
    | nil =>
      rw [List.isEmpty_nil, Bool.not_true, Bool.or_false] at hopen
      exact hw.opened hopen
    | cons x ws =>
      rw [List.isEmpty_cons, Bool.not_false, Bool.or_true] at hopen
      nomatch hopen

/-- **ROUTES ARE GUARDED** in every run, cut anywhere: a scope is blocked and a row held exactly as
    the last successful sync said, until a call closes the routes; then every scope is blocked,
    inside a call from its first write on. -/
theorem routes_guarded (m : Maps) {w : World} (h : Reaches World.step (Event.valid X) Loaded w) :
    (w.closed = false → ∃ desired blocked, w.last = some (desired, blocked) ∧
      (∀ n : U32, n.toNat < 2 ^ 22 →
        (routesBlocked (routeMaps m w.routes) n = true ↔ n ∈ blocked)) ∧
      ∃ want, routeRows X desired = .ok want ∧
        (∀ e, e ∈ (routeMaps m w.routes).vpcRoutes ↔ want.lookup (rowKey e) = some e.val) ∧
        (∀ k e, want.lookup k = some e → ∃ d ∈ desired, routeMapEntry X d = .ok (k, e)) ∧
        ∀ d ∈ desired, ∃ k e, routeMapEntry X d = .ok (k, e) ∧ ∃ e', want.lookup k = some e') ∧
    (w.closed = true → ∀ n, routesBlocked (routeMaps m w.routes) n = true) ∧
    ((routeMaps m w.routes).routeGuard = 0#32 → ∀ p c, w.routes.scopes.shadow.lookup p = some c ↔
      w.routes.scopes.kernel p = c ∧ c ≠ 0) ∧
    ∀ (c : Call) ws, Cut Routes.write (c.phases X) w.routes ws → ws ≠ [] →
      ∀ n, routesBlocked (routeMaps m (exec Routes.write w.routes ws)) n = true := by
  have hstart : ∀ w, Loaded w → Inv X w := fun _ => loaded_inv X
  have hnext : ∀ w e, Inv X w → Event.valid X w e → Inv X (w.step e) := fun _ _ => step_inv X
  have hw : Inv X w := h.invariant hstart hnext
  refine ⟨fun hopen => ?_, fun hclosed => routesBlocked_armed m (hw.closed hclosed), ?_, ?_⟩
  · obtain ⟨desired, blocked, hlast, hpub⟩ := hw.opened hopen
    refine ⟨desired, blocked, hlast, fun n hn => ?_, ?_⟩
    · rw [routesBlocked_disarmed m hpub.disarmed hn]
      exact hpub.scopes n
    · obtain ⟨want, hwant, hlookup⟩ := hpub.rows
      refine ⟨want, hwant, fun e => ?_, routeRows_rows X hwant⟩
      rw [← hlookup]
      exact mem_mapTable
  · intro hguard p c
    have hopen : w.closed = false := by
      by_contra hc
      have harmed := hw.closed ((Bool.not_eq_false _).mp hc)
      have hone : (routeMaps m w.routes).routeGuard = 1#32 := by
        show (if w.routes.armed then 1#32 else 0#32) = 1#32
        rw [harmed]
        rfl
      rw [hone] at hguard
      nomatch hguard
    obtain ⟨_, _, _, hpub⟩ := hw.opened hopen
    exact (hw.tracked hpub.seeded p).lookup_iff
  · intro c ws hcut hne n
    exact routesBlocked_armed m ((call_cut X hcut).resolve_left hne) n

/-- One prefix, behind a local leg. -/
def oneRoute : DesiredRoute := ⟨5#32, "10.9.0.0/16", [⟨some 0xffff0a000009#128, none⟩], none, none, true⟩

def oneText : Texts where
  parseCIDR s := if s = "10.9.0.0/16" then some (.mask4 0x0a090000#32 16) else none
  ipString _ := ""

def loadedWorld : World := ⟨⟨true, ∅, ⟨fun _ => 0, ∅, false⟩⟩, none, true⟩

/-- The row of `oneRoute`: 10.9.0.0/16 of scope 5, with one next hop of a VPN gateway. -/
def oneRow : Entry (32 + 128) RouteEntry :=
  ⟨144, 5#32 ++ v4To128 0x0a090000#32, ⟨⟨v4To128 0x0a000009#32, 0#32⟩, noHop, 1#8, 1#8⟩⟩

/-- With one route published and scope 6 denied, the table is its row, scope 6 is blocked and scope 5
    is not. -/
theorem routes_guarded_oneRoute : ∃ w, Reaches World.step (Event.valid oneText) Loaded w ∧
    (∀ e, e ∈ (routeMaps Maps.empty w.routes).vpcRoutes ↔ e = oneRow) ∧
    routesBlocked (routeMaps Maps.empty w.routes) 6#32 = true ∧
    routesBlocked (routeMaps Maps.empty w.routes) 5#32 = false := by
  have hwant : ∃ want, routeRows oneText [oneRoute] = .ok want := ⟨_, rfl⟩
  have hcells : ∃ cells, scopeCells [6#32] = .ok cells := ⟨_, rfl⟩
  have hentry : routeMapEntry oneText oneRoute = .ok (rowKey oneRow, oneRow.val) := by decide +kernel
  obtain ⟨want, hwant⟩ := hwant
  obtain ⟨cells, hcells⟩ := hcells
  obtain ⟨ws, hws⟩ := sync_succeeds oneText hwant hcells loadedWorld.routes
  have hrun : Reaches World.step (Event.valid oneText) Loaded
      (loadedWorld.step ⟨.sync [oneRoute] [6#32], ws, true⟩) :=
    .next (.start ⟨rfl, rfl, rfl, rfl⟩) hws
  obtain ⟨desired, blocked, hlast, hiff, rows, _, hmem, hsound, hcomplete⟩ :=
    (routes_guarded oneText Maps.empty hrun).1 rfl
  cases hlast
  have honly : ∀ k e, rows.lookup k = some e → k = rowKey oneRow ∧ e = oneRow.val := by
    intro k e hk
    obtain ⟨d, hd, hd'⟩ := hsound k e hk
    obtain rfl := List.mem_singleton.mp hd
    exact Prod.mk.inj (Except.ok.inj (hd'.symm.trans hentry))
  refine ⟨_, hrun, fun e => (hmem e).trans ⟨fun he => ?_, ?_⟩, (hiff 6#32 (by decide)).mpr (by decide), ?_⟩
  · obtain ⟨plen, key, val⟩ := e
    obtain ⟨hkey, rfl⟩ := honly _ _ he
    obtain ⟨rfl, rfl⟩ := RowKey.mk.inj hkey
    rfl
  · rintro rfl
    obtain ⟨k, e, _, e', he'⟩ := hcomplete oneRoute (List.mem_singleton_self _)
    obtain ⟨rfl, rfl⟩ := honly _ _ he'
    exact he'
  · rw [Bool.eq_false_iff, ne_eq, hiff 5#32 (by decide)]
    decide

end CozyRoutes
