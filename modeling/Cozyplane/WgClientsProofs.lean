import Cozyplane.WgStateProofs

/-!
# WireGuard client addresses — replicas that edit one document

The allocation document is the data of one Secret. `allocateWGClients`,
`releaseWGClientReservations` and `persistWGClientAppliances` read it, ask the API server for
other things, and write it back at the revision they read. Any number of them run at once, for
any gateways; calls fail, and VPCs are deleted and created again meanwhile.
-/

namespace CozyWgClients

open Calls Relation KernelMap
open CozyVniAlloc (Err errorf)
open CozyWgState

/-- The Secret, as far as it is read. -/
structure Secret where
  label : Option String
  owners : List String
  deleting : Bool
  data : Option State

/-- The Secret a load makes up where there is none. -/
def Secret.fresh : Secret := ⟨some "true", [], false, none⟩

/-- A VPNConnection as a release finds it; `finalizer` says that it has the client finalizer. -/
structure LiveConn where
  uid : String
  deleting : Bool
  finalizer : Bool
  deriving DecidableEq

/-- The edit a write comes from, with what it went by. It is recorded with the commit; the server
    does not look at it. -/
inductive Edit where
  | allocate (gw : Gateway) (vpcs : List VPC) (conns : List Conn)
  | persist (gw : Gateway)
  | release (gw : Gateway) (active : List String) (deleting : Bool) (scopes : List String)

/-- The calls. `configApplied` is `wgClientConfigApplied`, `remember` is
    `rememberWGClientAppliances`, `currentAppliances` is what a release lists, and `cleanup` is
    `cleanupUnreservedWGClientFinalizers`. -/
inductive Request where
  | getSecret
  | createSecret (secret : Secret) (edit : Edit)
  | updateSecret (secret : Secret) (rev : Nat) (edit : Edit)
  | configApplied (gw : Gateway)
  | remember (gw : Gateway) (record : GatewayReservation)
  | getConnection (name : String)
  | removeFinalizer (name : String)
  | currentAppliances (gw : Gateway) (record : GatewayReservation)
  | getVPC (name : String)
  | cleanup (gw : Gateway) (deleting : Bool)

def Answer : Request → Type
  | .getSecret => Except Err (Secret × Nat)
  | .createSecret _ _ => Except Err Unit
  | .updateSecret _ _ _ => Except Err Unit
  | .configApplied _ => Except Err Bool
  | .remember _ _ => Except Err (List String × KMap String String)
  | .getConnection _ => Except Err LiveConn
  | .removeFinalizer _ => Except Err Unit
  | .currentAppliances _ _ => Except Err (List String × KMap String String)
  | .getVPC _ => Except Err String
  | .cleanup _ _ => Except Err Unit

abbrev Call (ρ : Type) : Type := Prog Answer ρ

def getSecret : Call (Except Err (Secret × Nat)) := ask (A := Answer) .getSecret

def createSecret (secret : Secret) (edit : Edit) : Call (Except Err Unit) :=
  ask (A := Answer) (.createSecret secret edit)

def updateSecret (secret : Secret) (rev : Nat) (edit : Edit) : Call (Except Err Unit) :=
  ask (A := Answer) (.updateSecret secret rev edit)

def configApplied (gw : Gateway) : Call (Except Err Bool) := ask (A := Answer) (.configApplied gw)

def remember (gw : Gateway) (record : GatewayReservation) :
    Call (Except Err (List String × KMap String String)) :=
  ask (A := Answer) (.remember gw record)

def getConnection (name : String) : Call (Except Err LiveConn) :=
  ask (A := Answer) (.getConnection name)

def removeFinalizer (name : String) : Call (Except Err Unit) :=
  ask (A := Answer) (.removeFinalizer name)

def currentAppliances (gw : Gateway) (record : GatewayReservation) :
    Call (Except Err (List String × KMap String String)) :=
  ask (A := Answer) (.currentAppliances gw record)

def getVPC (name : String) : Call (Except Err String) := ask (A := Answer) (.getVPC name)

def cleanup (gw : Gateway) (deleting : Bool) : Call (Except Err Unit) :=
  ask (A := Answer) (.cleanup gw deleting)

section

variable (X : Env)

/-- The checks on a Secret that was found. -/
def decode (secret : Secret) : Except Err State :=
  if secret.label ≠ some "true" ∨ secret.owners ≠ [] ∨ secret.deleting then
    .error (errorf "WireGuard allocation state is not controller-managed")
  else
    match secret.data with
    | none => .error (errorf "WireGuard allocation state exceeds its byte budget or is missing")
    | some state =>
      if wgClientStateBytes < X.size state then
        .error (errorf "WireGuard allocation state exceeds its byte budget or is missing")
      else
        match checkState X state with
        | .error e => .error e
        | .ok () => .ok state

/-- `loadWGClientState`; the Secret read, if there is one, comes with its revision. -/
def loadWGClientState : Call (Except Err (Option (Secret × Nat) × State)) := do
  match ← getSecret with
  | .error e =>
    if e.reason = .notFound then pure (.ok (none, State.empty)) else pure (.error e)
  | .ok (secret, rev) =>
    match decode X secret with
    | .error e => pure (.error e)
    | .ok state => pure (.ok (some (secret, rev), state))

def saveWGClientState (read : Option (Secret × Nat)) (state : State) (edit : Edit) :
    Call (Except Err Unit) :=
  if wgClientStateBytes < X.size state then
    pure (.error (errorf "WireGuard allocation state exceeds byte budget"))
  else
    match read with
    | none => createSecret { Secret.fresh with data := some state } edit
    | some (secret, rev) =>
      if secret.data.any (X.sameBytes · state) then pure (.ok ())
      else updateSecret { secret with data := some state } rev edit

/-- Too many recorded VPCs: the old ones go if no appliance runs with them any more. -/
def clearScopes (gw : Gateway) (scopes : List String) (record : GatewayReservation) :
    Call (Except Err GatewayReservation) := do
  if record.vpcs.length ≤ 20 then pure (.ok record)
  else
    match ← configApplied gw with
    | .ok true => pure (.ok { record with vpcs := scopes })
    | _ => pure (.error
        (errorf "WireGuard VPC scope changes await prior configuration cleanup"))

/-- `rememberWGClientAppliances`: only the witnesses of the record change. -/
def rememberWGClientAppliances (gw : Gateway) (record : GatewayReservation) :
    Call (Except Err GatewayReservation) := do
  match ← remember gw record with
  | .error e => pure (.error e)
  | .ok (pods, ports) => pure (.ok { record with podUIDs := pods, portUIDs := ports })

/-- `allocateWGClients`; it returns the connections with their addresses. -/
def allocateWGClients (gw : Gateway) (vpcs : List VPC) (conns : List Conn) :
    Call (Except Err (List Conn)) := do
  if gw.uid = "" then pure (.error (errorf "WireGuard client gateway has no UID"))
  else
    match ← loadWGClientState X with
    | .error e => pure (.error e)
    | .ok (read, state) =>
      let record := openRecord gw state
      if record.name ≠ gw.name then
        pure (.error (errorf "WireGuard allocation gateway identity mismatch"))
      else if vpcs.any (fun vpc => vpc.uid == "") then
        pure (.error (errorf "WireGuard served VPC has no UID"))
      else
        let scopes := vpcs.map VPC.uid
        match ← clearScopes gw scopes { record with vpcs := addScopes scopes record.vpcs } with
        | .error e => pure (.error e)
        | .ok record =>
          match ← rememberWGClientAppliances gw record with
          | .error e => pure (.error e)
          | .ok record =>
            match allocateRecord X gw vpcs conns state record with
            | .error e => pure (.error e)
            | .ok (state', conns') =>
              match ← saveWGClientState X read state' (.allocate gw vpcs conns) with
              | .error e => pure (.error e)
              | .ok () => pure (.ok conns')

def persistWGClientAppliances (gw : Gateway) : Call (Except Err Unit) := do
  match ← loadWGClientState X with
  | .error e => pure (.error e)
  | .ok (read, state) =>
    match state.gateways.lookup gw.uid with
    | none => pure (.ok ())
    | some record =>
      match ← rememberWGClientAppliances gw record with
      | .error e => pure (.error e)
      | .ok record =>
        saveWGClientState X read ⟨state.gateways.insert gw.uid record⟩ (.persist gw)

/-- The loop of a release over the reserved clients. -/
def dropClients (active : List String) (deleting : Bool) :
    List (Sigma fun _ : String => ClientReservation) → KMap String ClientReservation →
    Call (Except Err (KMap String ClientReservation))
  | [], clients => pure (.ok clients)
  | e :: es, clients =>
    if stays active deleting e.1 then dropClients active deleting es clients
    else do
      match ← getConnection e.2.name with
      | .error err =>
        if err.reason = .notFound then dropClients active deleting es (clients.erase e.1)
        else pure (.error err)
      | .ok c =>
        if c.uid = e.1 ∧ deleting = false ∧ c.deleting = false then
          pure (.error
            (errorf "active WireGuard client is missing from the configuration snapshot"))
        else if c.uid = e.1 ∧ c.finalizer then
          match ← removeFinalizer e.2.name with
          | .error err => pure (.error err)
          | .ok () => dropClients active deleting es (clients.erase e.1)
        else dropClients active deleting es (clients.erase e.1)

/-- The UIDs of the VPCs the gateway names. -/
def currentScopes : List String → List String → Call (Except Err (List String))
  | [], scopes => pure (.ok scopes)
  | ref :: refs, scopes => do
    match ← getVPC ref with
    | .error e => pure (.error e)
    | .ok uid => currentScopes refs (scopes ++ [uid])

def saveAndCleanup (gw : Gateway) (deleting : Bool) (read : Option (Secret × Nat)) (state : State)
    (edit : Edit) : Call (Except Err Unit) := do
  match ← saveWGClientState X read state edit with
  | .error e => pure (.error e)
  | .ok () => cleanup gw deleting

def releaseWGClientReservations (gw : Gateway) (conns : List Conn) (deleting : Bool) :
    Call (Except Err Unit) := do
  match ← loadWGClientState X with
  | .error e => pure (.error e)
  | .ok (read, state) =>
    match state.gateways.lookup gw.uid with
    | none => cleanup gw deleting
    | some record =>
      let active := conns.map Conn.uid
      match ← dropClients active deleting record.clients.entries record.clients with
      | .error e => pure (.error e)
      | .ok clients =>
        if deleting then
          saveAndCleanup X gw deleting read ⟨state.gateways.erase gw.uid⟩
            (.release gw active true [])
        else
          match ← currentAppliances gw { record with clients := clients } with
          | .error e => pure (.error e)
          | .ok (pods, ports) =>
            match ← currentScopes gw.refs [] with
            | .error e => pure (.error e)
            | .ok scopes =>
              saveAndCleanup X gw deleting read ⟨state.gateways.insert gw.uid
                (releasedRecord gw clients scopes pods ports record)⟩
                (.release gw active false scopes)

end

/-- One call of one of the three functions. -/
inductive Job where
  | allocate (gw : Gateway) (vpcs : List VPC) (conns : List Conn)
  | persist (gw : Gateway)
  | release (gw : Gateway) (conns : List Conn) (deleting : Bool)

def run (X : Env) : Job → Call (Except Err (List Conn))
  | .allocate gw vpcs conns => allocateWGClients X gw vpcs conns
  | .persist gw => do pure ((← persistWGClientAppliances X gw).map fun _ => [])
  | .release gw conns d => do pure ((← releaseWGClientReservations X gw conns d).map fun _ => [])

/-- A write of the document that took effect. -/
structure Commit where
  edit : Edit
  before : State
  after : State

/-- The Secret, the commits with the newest first, and the UIDs of the VPCs there are. -/
structure World where
  secret : Versioned Secret
  commits : List Commit
  vpcs : String → Option String

/-- The document, empty where there is none. -/
def World.state (w : World) : State := (w.secret.val.bind Secret.data).getD State.empty

/-- A write of the Secret takes effect. -/
def World.commit (w : World) (edit : Edit) (secret : Secret) : World :=
  { w with secret := w.secret.write secret,
           commits := ⟨edit, w.state, secret.data.getD State.empty⟩ :: w.commits }

def World.fresh (vpcs : String → Option String) : World := ⟨⟨0, none⟩, [], vpcs⟩

/-- What the API server may do with a call. Only the two writes have an effect: a create where there
    is no Secret, an update at the revision read; a failed one may have it too. -/
def serve : (q : Request) → World → Answer q → World → Prop
  | .getSecret, w, a, w' => w' = w ∧
    ∀ secret rev, a = Except.ok (secret, rev) → w.secret.val = some secret ∧ w.secret.rev = rev
  | .createSecret secret edit, w, a, w' =>
    (w' = w ∧ a ≠ Except.ok ()) ∨ (w.secret.val = none ∧ w' = w.commit edit secret)
  | .updateSecret secret rev edit, w, a, w' =>
    (w' = w ∧ a ≠ Except.ok ()) ∨
      (w.secret.val ≠ none ∧ w.secret.rev = rev ∧ w' = w.commit edit secret)
  | .getVPC name, w, a, w' => w' = w ∧ ∀ uid, a = Except.ok uid → w.vpcs name = some uid
  | .configApplied _, w, _, w' => w' = w
  | .remember _ _, w, _, w' => w' = w
  | .getConnection _, w, _, w' => w' = w
  | .removeFinalizer _, w, _, w' => w' = w
  | .currentAppliances _ _, w, _, w' => w' = w
  | .cleanup _ _, w, _, w' => w' = w

/-- VPCs come and go between the calls; nobody else writes the Secret. -/
def apiServer (ι : Type) : Server ι Answer World where
  serve _ := serve
  drift w w' := w'.secret = w.secret ∧ w'.commits = w.commits

/-- The state the newest commit left. -/
def latest : List Commit → State
  | [] => State.empty
  | c :: _ => c.after

/-- Each commit replaced what the one before it left. -/
def Chained : List Commit → Prop
  | [] => True
  | c :: cs => c.before = latest cs ∧ Chained cs

variable {state : State} {edit : Edit}

section

variable (X : Env)

def Edit.Applies (e : Edit) (before after : State) : Prop :=
  match e with
  | .allocate gw vpcs conns => ∃ record out,
      record.pools = (openRecord gw before).pools ∧
      record.clients = (openRecord gw before).clients ∧
      allocateRecord X gw vpcs conns before record = .ok (after, out)
  | .persist gw => ∃ record pods ports, before.gateways.lookup gw.uid = some record ∧
      after = ⟨before.gateways.insert gw.uid { record with podUIDs := pods, portUIDs := ports }⟩
  | .release gw _ true _ => after = ⟨before.gateways.erase gw.uid⟩
  | .release gw active false scopes => ∃ record pods ports,
      before.gateways.lookup gw.uid = some record ∧
      after = ⟨before.gateways.insert gw.uid (releasedRecord gw (restrict (stays active false)
        record.clients) scopes pods ports record)⟩

/-- The document is the last commit's. -/
structure Inv (w : World) : Prop where
  absent : w.secret.val = none → w.commits = []
  current : w.state = latest w.commits
  chained : Chained w.commits
  derived : ∀ c ∈ w.commits, c.edit.Applies X c.before c.after

theorem Inv.fresh (vpcs : String → Option String) : Inv X (World.fresh vpcs) where
  absent := fun _ => rfl
  current := rfl
  chained := trivial
  derived := nofun

variable {X}

theorem Inv.commit {w : World} (h : Inv X w) {secret : Secret}
    (hd : edit.Applies X w.state (secret.data.getD State.empty)) :
    Inv X (w.commit edit secret) where
  absent := (nomatch ·)
  current := rfl
  chained := ⟨h.current, h.chained⟩
  derived := by
    intro c hc
    rcases List.mem_cons.mp hc with rfl | hold
    · exact hd
    · exact h.derived c hold

variable (X) in
/-- What the invocations rely on: the Secret is never taken back. -/
def contract (ι : Type) : Contract (apiServer ι) where
  inv := Inv X
  rely := fun _ w w' => w.secret.Later w'.secret
  refl := fun _ w => .refl _
  trans := by
    intro _ w₁ w₂ w₃ h h'
    exact h.trans h'
  drift_inv := by
    intro w w' h hd
    have hstate : w'.state = w.state := by
      unfold World.state
      rw [hd.1]
    refine ⟨?_, ?_, ?_, ?_⟩
    · rw [hd.1, hd.2]
      exact h.absent
    · rw [hstate, hd.2]
      exact h.current
    · rw [hd.2]
      exact h.chained
    · rw [hd.2]
      exact h.derived
  drift_rely := by
    intro w w' _ _ hd
    show w.secret.Later w'.secret
    rw [hd.1]
    exact .refl _

/-- The state was decoded from what was read, which the Secret once was. -/
def Loaded (read : Option (Secret × Nat)) (state : State) (w : World) : Prop :=
  match read with
  | none => state = State.empty
  | some (secret, rev) => secret.data = some state ∧
      ∃ d : Versioned Secret, d.Later w.secret ∧ d.val = some secret ∧ d.rev = rev

variable {ι : Type} {i : ι}

theorem Loaded.stable (read : Option (Secret × Nat)) (state : State) :
    Stable (contract X ι) i (Loaded read state) := by
  intro w w' _ _ hlater h
  cases read with
  | none => exact h
  | some r =>
    obtain ⟨hdata, d, hd, hval, hrev⟩ := h
    exact ⟨hdata, d, hd.trans hlater, hval, hrev⟩

theorem quiet {q : Request} {P : World → Prop} (hq : ∀ w a w', serve q w a w' → w' = w)
    (hP : Stable (contract X ι) i P) :
    Triple (contract X ι) i P (ask q : Call (Answer q)) fun _ => P :=
  Triple.askQuiet hP (fun _ => hP) fun w a w' _ hw hserve => ⟨hq w a w' hserve, hw⟩

theorem decode_ok {secret : Secret} (h : decode X secret = .ok state) :
    secret.data = some state := by
  unfold decode at h
  split at h
  · nomatch h
  split at h
  · nomatch h
  rename_i s hdata
  split at h
  · nomatch h
  split at h
  · nomatch h
  exact hdata.trans (congrArg some (Except.ok.inj h))

theorem load_spec : Triple (contract X ι) i (fun _ => True) (loadWGClientState X)
    (Okay fun r w => Loaded r.1 r.2 w) := by
  have hget : Triple (contract X ι) i (fun _ => True) getSecret
      (Okay fun r w => ∃ d : Versioned Secret, d.Later w.secret ∧ d.val = some r.1 ∧ d.rev = r.2) := by
    refine .askQuiet (A := Answer) (q := .getSecret) (.const True) ?_ ?_
    · refine .stable fun r w w' _ _ hlater => ?_
      rintro ⟨d, hd, hval⟩
      exact ⟨d, hd.trans hlater, hval⟩
    · rintro w a w' _ _ ⟨rfl, hread⟩
      refine ⟨rfl, fun r hr => ⟨w'.secret, .refl _, hread r.1 r.2 hr⟩⟩
  refine .bindOk hget (fun e => .ite (fun _ => .returns (.const True)
    fun _ _ => rfl) fun _ => .fails e) fun r => ?_
  obtain ⟨secret, rev⟩ := r
  dsimp only
  cases hdecode : decode X secret with
  | error e => exact .fails e
  | ok state =>
    have hreturn : Triple (contract X ι) i (Loaded (some (secret, rev)) state)
        (pure (.ok (some (secret, rev), state) : Except Err _))
        (Okay fun r w => Loaded r.1 r.2 w) :=
      Triple.returns (.stable _ _) fun _ h => h
    exact hreturn.strengthen fun w _ h => ⟨decode_ok hdecode, h⟩

/-- **A SAVE COMMITS AGAINST WHAT WAS LOADED**, and only while the document is that one. -/
theorem save_spec {read : Option (Secret × Nat)} {state' : State} (hd : edit.Applies X state state') :
    Triple (contract X ι) i (Loaded read state) (saveWGClientState X read state' edit)
      fun _ _ => True := by
  refine .ite (fun _ => .done _) fun _ => ?_
  cases read with
  | none =>
    refine .ask (A := Answer) (q := .createSecret _ edit) (.stable none state)
      (fun _ => .const True) fun w a w' hinv hloaded hserve => ?_
    rcases hserve with ⟨rfl, _⟩ | ⟨habsent, rfl⟩
    · exact ⟨hinv, fun j _ => .refl _, trivial⟩
    have hstate : w.state = state := by
      rw [show state = State.empty from hloaded]
      unfold World.state
      rw [habsent]
      rfl
    refine ⟨hinv.commit ?_, fun j _ => Versioned.later_write _ _, trivial⟩
    rw [hstate]
    exact hd
  | some r =>
    obtain ⟨secret, rev⟩ := r
    refine .ite (fun _ => .done _) fun _ => ?_
    refine .ask (A := Answer) (q := .updateSecret _ rev edit)
      (.stable (some (secret, rev)) state) (fun _ => .const True)
      fun w a w' hinv hloaded hserve => ?_
    rcases hserve with ⟨rfl, _⟩ | ⟨_, hrev, rfl⟩
    · exact ⟨hinv, fun j _ => .refl _, trivial⟩
    obtain ⟨hdata, d, hlater, hval, hdrev⟩ := hloaded
    have hstate : w.state = state := by
      unfold World.state
      rw [hlater.unchanged (hrev.trans hdrev.symm), hval, Option.bind_some, hdata]
      rfl
    refine ⟨hinv.commit ?_, fun j _ => Versioned.later_write _ _, trivial⟩
    rw [hstate]
    exact hd

-- ── the three functions

variable {P : World → Prop}

theorem clearScopes_spec (hP : Stable (contract X ι) i P) (gw : Gateway) (scopes : List String)
    (record : GatewayReservation) : Triple (contract X ι) i P (clearScopes gw scopes record)
      (Okay fun r w => (∃ vpcs, r = { record with vpcs := vpcs }) ∧ P w) := by
  refine .ite (fun _ => ?_) fun _ => ?_
  · exact .returns hP fun w hw => ⟨⟨record.vpcs, rfl⟩, hw⟩
  · refine .bind _ (quiet (q := .configApplied gw) (fun _ _ _ h => h) hP) fun a => ?_
    cases a with
    | error e => exact .fails _
    | ok applied =>
      cases applied with
      | false => exact .fails _
      | true => exact .returns hP fun w hw => ⟨⟨scopes, rfl⟩, hw⟩

theorem remember_spec (hP : Stable (contract X ι) i P) (gw : Gateway)
    (record : GatewayReservation) :
    Triple (contract X ι) i P (rememberWGClientAppliances gw record)
      (Okay fun r w => (∃ pods ports, r = { record with podUIDs := pods, portUIDs := ports }) ∧
        P w) := by
  refine .bind _ (quiet (q := .remember gw record) (fun _ _ _ h => h) hP) fun a => ?_
  cases a with
  | error e => exact .fails e
  | ok r => exact .returns hP fun w hw => ⟨⟨r.1, r.2, rfl⟩, hw⟩

theorem allocate_spec (gw : Gateway) (vpcs : List VPC) (conns : List Conn) :
    Triple (contract X ι) i (fun _ => True) (allocateWGClients X gw vpcs conns)
      fun _ _ => True := by
  refine .ite (fun _ => .done _) fun _ =>
    Triple.bindOk load_spec (fun _ => .done _) fun r => ?_
  obtain ⟨read, state⟩ := r
  have hstable := Loaded.stable (X := X) (ι := ι) (i := i) read state
  refine .ite (fun _ => .done _) fun _ => .ite (fun _ => .done _) fun _ =>
    Triple.bindOk (clearScopes_spec hstable gw _ _) (fun _ => .done _) fun kept =>
    Triple.given ?_
  rintro ⟨scopes, rfl⟩
  refine .bindOk (remember_spec hstable gw _) (fun _ => .done _) fun record =>
    Triple.given ?_
  rintro ⟨pods, ports, rfl⟩
  dsimp only
  -- the record the allocation works on has the pools and the clients that were read
  split
  · exact .done _
  rename_i state' conns' hallocate
  have happlies : (Edit.allocate gw vpcs conns).Applies X state state' :=
    ⟨{ openRecord gw state with vpcs := scopes, podUIDs := pods, portUIDs := ports }, conns',
      rfl, rfl, hallocate⟩
  refine .bind _ (save_spec happlies) fun a => ?_
  cases a with
  | error e | ok u => exact .done _

theorem persist_spec (gw : Gateway) :
    Triple (contract X ι) i (fun _ => True) (persistWGClientAppliances X gw) fun _ _ => True := by
  refine .bindOk load_spec (fun _ => .done _) fun r => ?_
  obtain ⟨read, state⟩ := r
  dsimp only
  cases hrecord : state.gateways.lookup gw.uid with
  | none => exact .done _
  | some record =>
    refine .bindOk (remember_spec (.stable read state) gw record)
      (fun _ => .done _) fun r => .given ?_
    rintro ⟨pods, ports, rfl⟩
    exact save_spec ⟨record, pods, ports, hrecord, rfl⟩

/-- The loop over the clients erases those that do not stay. Induction on the clients still to
    come. -/
theorem dropClients_spec (hP : Stable (contract X ι) i P) (active : List String)
    (deleting : Bool) (es : List (Sigma fun _ : String => ClientReservation))
    (clients : KMap String ClientReservation) :
    Triple (contract X ι) i P (dropClients active deleting es clients)
      (Okay fun m w => m = eraseUnless (stays active deleting) (es.map Sigma.fst) clients ∧
        P w) := by
  induction es generalizing clients with
  | nil => exact .returns hP fun w hw => ⟨rfl, hw⟩
  | cons e es ih =>
    unfold dropClients
    by_cases hstays : stays active deleting e.1 = true
    · have hkept : eraseUnless (stays active deleting) ((e :: es).map Sigma.fst) clients =
          eraseUnless (stays active deleting) (es.map Sigma.fst) clients := by
        show eraseUnless _ _ (if stays active deleting e.1 then clients else _) = _
        rw [if_pos hstays]
      rw [if_pos hstays, hkept]
      exact ih clients
    · have hdropped : eraseUnless (stays active deleting) ((e :: es).map Sigma.fst) clients =
          eraseUnless (stays active deleting) (es.map Sigma.fst) (clients.erase e.1) := by
        show eraseUnless _ _ (if stays active deleting e.1 then clients else _) = _
        rw [if_neg hstays]
      rw [if_neg hstays, hdropped]
      refine .bind _ (quiet (q := .getConnection e.2.name) (fun _ _ _ h => h) hP) fun a => ?_
      cases a with
      | error err => exact .ite (fun _ => ih _) fun _ => .fails err
      | ok c =>
        refine .ite (fun _ => .fails _) fun _ => .ite (fun _ => ?_) fun _ => ih _
        refine .bind _ (quiet (q := .removeFinalizer e.2.name) (fun _ _ _ h => h) hP)
          fun a => ?_
        cases a with
        | error err => exact .fails err
        | ok u => exact ih _

theorem currentScopes_spec (hP : Stable (contract X ι) i P) (refs scopes : List String) :
    Triple (contract X ι) i P (currentScopes refs scopes) (Okay fun _ w => P w) := by
  induction refs generalizing scopes with
  | nil => exact .returns hP fun w hw => hw
  | cons ref refs ih =>
    refine .bind _ (quiet (q := .getVPC ref) (fun _ _ _ h => h.1) hP) fun a => ?_
    cases a with
    | error e => exact .fails e
    | ok uid => exact ih _

theorem saveAndCleanup_spec {gw : Gateway} {deleting : Bool} {read : Option (Secret × Nat)}
    {state' : State} (hd : edit.Applies X state state') :
    Triple (contract X ι) i (Loaded read state) (saveAndCleanup X gw deleting read state' edit)
      fun _ _ => True := by
  refine .bind _ (save_spec hd) fun a => ?_
  cases a with
  | error e => exact .done _
  | ok u => exact quiet (q := .cleanup gw deleting) (fun _ _ _ h => h) (.const True)

theorem release_spec (gw : Gateway) (conns : List Conn) (deleting : Bool) :
    Triple (contract X ι) i (fun _ => True) (releaseWGClientReservations X gw conns deleting)
      fun _ _ => True := by
  refine .bindOk load_spec (fun _ => .done _) fun r => ?_
  obtain ⟨read, state⟩ := r
  have hstable := Loaded.stable (X := X) (ι := ι) (i := i) read state
  dsimp only
  cases hrecord : state.gateways.lookup gw.uid with
  | none =>
    refine (quiet (q := .cleanup gw deleting) (fun _ _ _ h => h) hstable).weaken ?_
    exact fun _ _ _ => trivial
  | some record =>
    refine .bindOk (dropClients_spec hstable _ deleting _ _) (fun _ => .done _)
      fun clients => .given ?_
    rintro rfl
    refine .ite (fun hdeleting => ?_) fun hlive => ?_
    · exact saveAndCleanup_spec rfl
    · obtain rfl : deleting = false := Bool.eq_false_of_not_eq_true hlive
      refine .bind _ (quiet (q := .currentAppliances gw _) (fun _ _ _ h => h) hstable)
        fun a => ?_
      cases a with
      | error e => exact .done _
      | ok r =>
        exact .bindOk (currentScopes_spec hstable gw.refs []) (fun _ => .done _)
          fun scopes => saveAndCleanup_spec ⟨record, r.1, r.2, hrecord, rfl⟩

theorem run_spec (job : Job) :
    Triple (contract X ι) i (fun _ => True) (run X job) fun _ _ => True := by
  cases job with
  | allocate gw vpcs conns => exact allocate_spec gw vpcs conns
  | persist gw => exact .bind _ (persist_spec gw) fun _ => .done _
  | release gw conns deleting => exact .bind _ (release_spec gw conns deleting) fun _ => .done _

variable [DecidableEq ι]

variable (X) in
/-- The invocations before their first call, with no Secret. -/
def start (job : ι → Job) (vpcs : String → Option String) :
    System ι Answer (Except Err (List Conn)) World :=
  ⟨World.fresh vpcs, fun i => run X (job i)⟩

/-- **THE EDITS ARE SERIAL**: each commit is its edit applied to the state the commit before it
    left. -/
theorem serialised {job : ι → Job} {vpcs : String → Option String}
    {s : System ι Answer (Except Err (List Conn)) World}
    (hrun : ReflTransGen (Step (apiServer ι)) (start X job vpcs) s) : Inv X s.world := by
  have hinv : (contract X ι).inv (start X job vpcs).world := Inv.fresh X vpcs
  have hsafe : ∀ i, Safe (contract X ι) i (fun _ _ => True) ((start X job vpcs).prog i)
      (start X job vpcs).world := fun i => run_spec (job i) _ hinv trivial
  exact ((contract X ι).leads hinv hsafe hrun).1

omit [DecidableEq ι] in
theorem openRecord_good {s : State} (h : Good X s) (gw : Gateway) :
    GoodClients X (openRecord gw s).pools (openRecord gw s).clients := by
  unfold openRecord
  cases hl : s.gateways.lookup gw.uid with
  | none => exact ⟨fun _ _ => (nomatch ·), fun _ _ => (nomatch ·), fun _ _ _ _ _ => (nomatch ·)⟩
  | some g => exact h.clients gw.uid g hl

variable (X) in
/-- What an edit has to meet: a release of a live gateway fits the state it replaces. -/
def Edit.Fits (e : Edit) (before : State) : Prop :=
  match e with
  | .release gw active false scopes => ∀ record, before.gateways.lookup gw.uid = some record →
      CozyWgState.Fits X before gw active scopes record
  | _ => True

theorem Edit.Applies.good_iff {e : Edit} {before after : State} (h : e.Applies X before after)
    (hgood : Good X before) : Good X after ↔ e.Fits X before := by
  cases e with
  | allocate gw vpcs conns =>
    obtain ⟨record, out, hpools, hclients, hok⟩ := h
    refine iff_of_true (allocateRecord_good hgood ?_ hok) trivial
    rw [hpools, hclients]
    exact openRecord_good hgood gw
  | persist gw =>
    obtain ⟨record, pods, ports, hrecord, rfl⟩ := h
    refine iff_of_true (hgood.insert (hgood.clients gw.uid record hrecord) ?_) trivial
    intro id g hid hg hmeet
    exact hgood.pools gw.uid id record g (Ne.symm hid) hrecord hg hmeet
  | release gw active deleting scopes =>
    cases deleting with
    | true =>
      obtain rfl : after = ⟨before.gateways.erase gw.uid⟩ := h
      exact iff_of_true (hgood.erase gw.uid) trivial
    | false =>
      obtain ⟨record, pods, ports, hrecord, rfl⟩ := h
      refine (releasedRecord_good_iff hgood hrecord).trans ⟨fun h r hr => ?_, fun h => ?_⟩
      · obtain rfl : record = r := Option.some.inj (hrecord.symm.trans hr)
        exact h
      · exact h record hrecord

theorem Edit.Applies.steady {e : Edit} {before after : State} (h : e.Applies X before after) :
    Steady before after := by
  cases e with
  | allocate gw vpcs conns =>
    obtain ⟨record, out, _, hclients, hok⟩ := h
    refine allocateRecord_steady (fun g hg => ?_) hok
    rw [hclients]
    unfold openRecord
    rw [hg]
    rfl
  | persist gw =>
    obtain ⟨record, pods, ports, hrecord, rfl⟩ := h
    refine steady_insert fun g hg uid c c' hc hc' => ?_
    obtain rfl : record = g := Option.some.inj (hrecord.symm.trans hg)
    exact Option.some.inj (hc'.symm.trans hc)
  | release gw active deleting scopes =>
    cases deleting with
    | true =>
      obtain rfl : after = ⟨before.gateways.erase gw.uid⟩ := h
      exact steady_erase before gw.uid
    | false =>
      obtain ⟨record, pods, ports, hrecord, rfl⟩ := h
      exact releasedRecord_steady hrecord

/-- Along the commits, good states and edits that fit go together. Induction on the commits, the
    oldest first. -/
theorem Chained.good_iff {cs : List Commit} (hchained : Chained cs)
    (hderived : ∀ c ∈ cs, c.edit.Applies X c.before c.after) :
    (∀ c ∈ cs, Good X c.after) ↔ ∀ c ∈ cs, c.edit.Fits X c.before := by
  induction cs with
  | nil => exact ⟨fun _ => nofun, fun _ => nofun⟩
  | cons c cs ih =>
    obtain ⟨hbefore, hrest⟩ := hchained
    have ih := ih hrest fun d hd => hderived d (List.mem_cons_of_mem c hd)
    have hc := hderived c (.head _)
    -- the state a commit replaces is the one the commits before it left
    have hgood : (∀ d ∈ cs, Good X d.after) → Good X c.before := by
      intro hall
      rw [hbefore]
      cases cs with
      | nil => exact good_empty
      | cons d ds => exact hall d (.head _)
    rw [List.forall_mem_cons, List.forall_mem_cons, ih]
    refine and_congr_left fun hfits => hc.good_iff (hgood (ih.mpr hfits))

/-- No two clients that a VPC reaches have an address in common. -/
def Unshared (s : State) : Prop :=
  ∀ id id' uid uid' g g' c c', s.gateways.lookup id = some g → s.gateways.lookup id' = some g' →
    Meet g.vpcs g'.vpcs → g.clients.lookup uid = some c → g'.clients.lookup uid' = some c' →
    (id, uid) ≠ (id', uid') → c.addresses.Disjoint c'.addresses

theorem good_unshared {s : State} (h : Good X s) : Unshared s := by
  intro id id' uid uid' g g' c c' hg hg' hmeet hc hc' hne
  exact h.apart hg hg' hmeet hc hc' hne

/-- **CLIENT ADDRESSES**, over every run: a reservation does not change while its UID stays
    reserved, and no address is twice in a VPC exactly if every committed release fits the state it
    replaced. -/
theorem reservations_exact {job : ι → Job} {vpcs : String → Option String}
    {s : System ι Answer (Except Err (List Conn)) World}
    (hrun : ReflTransGen (Step (apiServer ι)) (start X job vpcs) s) :
    s.world.state = latest s.world.commits ∧ Chained s.world.commits ∧
    (∀ c ∈ s.world.commits, Steady c.before c.after) ∧
    ((∀ c ∈ s.world.commits, Good X c.after ∧ Unshared c.after) ↔
      ∀ c ∈ s.world.commits, c.edit.Fits X c.before) := by
  have hinv := serialised hrun
  refine ⟨hinv.current, hinv.chained, fun c hc => (hinv.derived c hc).steady, ?_⟩
  rw [← hinv.chained.good_iff hinv.derived]
  exact forall₂_congr fun c _ => ⟨And.left, fun hgood => ⟨hgood, good_unshared hgood⟩⟩

end

-- ── a release by a replica with an old gateway object

/-- Addresses are written as numbers, and there is one prefix. -/
def rankText (ip : CozyCidr.Ip) : String := String.ofList (Nat.toDigits 10 ip.rank)

def ofRank (n : Nat) : Option CozyCidr.Ip :=
  if n < 2 ^ 32 then some (.v4 (BitVec.ofNat 32 n)) else some (.v6 (BitVec.ofNat 128 (n - 2 ^ 32)))

theorem ofRank_rank (ip : CozyCidr.Ip) : ofRank ip.rank = some ip := by
  cases ip with
  | v4 a =>
    have hlt : a.toNat < 2 ^ 32 := a.isLt
    simp only [ofRank, CozyCidr.Ip.rank, if_pos hlt, BitVec.ofNat_toNat, BitVec.setWidth_eq]
  | v6 a =>
    have hge : ¬2 ^ 32 + a.toNat < 2 ^ 32 := Nat.not_lt.mpr (Nat.le_add_right _ _)
    simp only [ofRank, CozyCidr.Ip.rank, if_neg hge, Nat.add_sub_cancel_left, BitVec.ofNat_toNat,
      BitVec.setWidth_eq]

def tenNet : CozyCidr.NetPrefix := .v4 0x0a000000#32 24

def oneNet : Env where
  parsePrefix s := if s = "10.0.0.0/24" then some tenNet else none
  prefixString p := if p = tenNet then "10.0.0.0/24" else ""
  parseAddr s := (CozyRouteCompile.parseDigits s.toList).bind ofRank
  addrString := rankText
  objectName _ := true
  clientProblem _ _ _ _ := ""
  size _ := 1
  sameBytes _ _ := false
  parseAddr_addrString := by
    intro ip
    unfold rankText
    rw [String.toList_ofList, CozyClaimName.parseDigits_toDigits]
    exact ofRank_rank ip

def tenPool : AddressPool := ⟨"clients", "10.0.0.0/24"⟩

/-- The gateway `b`, serving the VPC of this name. -/
def gatewayB (ref : String) : Gateway := ⟨"b", "gw-b", [ref], [tenPool]⟩

def gatewayA : Gateway := ⟨"a", "gw-a", ["v1"], [tenPool]⟩

def vpcOne : VPC := ⟨"v1", "u1", 0⟩

def vpcTwo : VPC := ⟨"v2", "u2", 0⟩

def clientConn (name uid key ref : String) : Conn :=
  ⟨name, uid, some ⟨⟨key, [], "", [], 0⟩, some ⟨[ref], ["clients"]⟩⟩, false, [], []⟩

def clientB (ref : String) : Conn := clientConn "client-b" "cb" "kb" ref

def clientA : Conn := clientConn "client-a" "ca" "ka" "v1"

/-- One replica allocates for `b` in `v1` and releases at the end of that reconcile (0 and 4). In
    between `b` moves to `v2` (1 and 2) and `a` starts to serve `v1` (3). -/
def staleJobs : Fin 5 → Job
  | 0 => .allocate (gatewayB "v1") [vpcOne] [clientB "v1"]
  | 1 => .allocate (gatewayB "v2") [vpcTwo] [clientB "v2"]
  | 2 => .release (gatewayB "v2") [clientB "v2"] false
  | 3 => .allocate gatewayA [vpcOne] [clientA]
  | 4 => .release (gatewayB "v1") [clientB "v1"] false

def twoVPCs (name : String) : Option String :=
  if name = "v1" then some "u1" else if name = "v2" then some "u2" else none

def plainRead (w : World) : Except Err (Secret × Nat) :=
  match w.secret.val with
  | some secret => .ok (secret, w.secret.rev)
  | none => .error ⟨.notFound, "not found"⟩

def plainCreate (secret : Secret) (edit : Edit) (w : World) : Except Err Unit × World :=
  match w.secret.val with
  | none => (.ok (), w.commit edit secret)
  | some _ => (.error ⟨.alreadyExists, "already exists"⟩, w)

def plainUpdate (secret : Secret) (rev : Nat) (edit : Edit) (w : World) : Except Err Unit × World :=
  if w.secret.val.isSome ∧ w.secret.rev = rev then (.ok (), w.commit edit secret)
  else (.error ⟨.conflict, "conflict"⟩, w)

def plainVPC (name : String) (w : World) : Except Err String :=
  match w.vpcs name with
  | some uid => .ok uid
  | none => .error ⟨.notFound, "not found"⟩

/-- The server serves every call. -/
def plainAct : (q : Request) → World → Answer q × World
  | .getSecret, w => (plainRead w, w)
  | .createSecret secret edit, w => plainCreate secret edit w
  | .updateSecret secret rev edit, w => plainUpdate secret rev edit w
  | .configApplied _, w => (.ok true, w)
  | .remember _ _, w => (.ok ([], ∅), w)
  | .getConnection _, w => (.error ⟨.notFound, "not found"⟩, w)
  | .removeFinalizer _, w => (.ok (), w)
  | .currentAppliances _ _, w => (.ok ([], ∅), w)
  | .getVPC name, w => (plainVPC name w, w)
  | .cleanup _ _, w => (.ok (), w)

theorem plainAct_served (q : Request) (w : World) : serve q w (plainAct q w).1 (plainAct q w).2 := by
  cases q with
  | getSecret =>
    refine ⟨rfl, fun secret rev ha => ?_⟩
    change plainRead w = _ at ha
    unfold plainRead at ha
    cases hval : w.secret.val with
    | none => rw [hval] at ha; nomatch ha
    | some found =>
      rw [hval] at ha
      cases ha
      exact ⟨rfl, rfl⟩
  | createSecret secret edit =>
    show serve (.createSecret secret edit) w (plainCreate secret edit w).1 (plainCreate secret edit w).2
    unfold plainCreate
    cases hval : w.secret.val with
    | none => exact .inr ⟨hval, rfl⟩
    | some found => exact .inl ⟨rfl, (nomatch ·)⟩
  | updateSecret secret rev edit =>
    show serve (.updateSecret secret rev edit) w (plainUpdate secret rev edit w).1 (plainUpdate secret rev edit w).2
    unfold plainUpdate
    split
    · rename_i hrev
      exact .inr ⟨Option.isSome_iff_ne_none.mp hrev.1, hrev.2, rfl⟩
    · exact .inl ⟨rfl, (nomatch ·)⟩
  | configApplied gw | remember gw record | getConnection name | removeFinalizer name
  | currentAppliances gw record => rfl
  | getVPC name =>
    refine ⟨rfl, fun uid ha => ?_⟩
    change plainVPC name w = _ at ha
    unfold plainVPC at ha
    cases hvpc : w.vpcs name with
    | none => rw [hvpc] at ha; nomatch ha
    | some found =>
      rw [hvpc] at ha
      exact congrArg some (Except.ok.inj ha)
  | cleanup gw deleting => rfl

abbrev StaleSystem := System (Fin 5) Answer (Except Err (List Conn)) World

/-- The invocations run one after the other. -/
def inTurn (is : List (Fin 5)) : StaleSystem :=
  exec (fun _ => plainAct) (is.flatMap (List.replicate 5)) (start oneNet staleJobs twoVPCs)

theorem inTurn_reached (is : List (Fin 5)) :
    ReflTransGen (Step (apiServer (Fin 5))) (start oneNet staleJobs twoVPCs) (inTurn is) :=
  exec_leads (fun _ => plainAct_served) _ _

/-- A release whose kept clients use declared pools, in VPCs that no other gateway serves. -/
def Edit.separate (before : State) : Edit → Bool
  | .release gw active false scopes => (before.gateways.lookup gw.uid).all fun record =>
      (record.clients.entries.all fun c => !active.contains c.1 || c.2.pools.all gw.declares) &&
        before.gateways.entries.all fun g => g.1 == gw.uid || scopes.all fun v => !g.2.vpcs.contains v
  | _ => true

theorem Edit.fits_of_separate {X : Env} {e : Edit} {s : State} (h : e.separate s = true) :
    e.Fits X s := by
  cases e with
  | allocate gw vpcs conns => exact trivial
  | persist gw => exact trivial
  | release gw active deleting scopes =>
    cases deleting with
    | true => exact trivial
    | false =>
      intro record hrecord
      have hall : (s.gateways.lookup gw.uid).all _ = true := h
      rw [hrecord, Option.all_some, Bool.and_eq_true, List.all_eq_true, List.all_eq_true] at hall
      refine ⟨fun uid c hc hactive pool hpool => ?_, fun id g hid hg ⟨v, hv, hv'⟩ => ?_⟩
      · have hkept := hall.1 ⟨uid, c⟩ (AList.mem_lookup_iff.mp hc)
        rw [List.contains_iff_mem.mpr hactive, Bool.not_true, Bool.false_or] at hkept
        exact List.all_eq_true.mp hkept pool hpool
      · have hother := hall.2 ⟨id, g⟩ (AList.mem_lookup_iff.mp hg)
        rw [beq_eq_false_iff_ne.mpr hid, Bool.false_or, List.all_eq_true] at hother
        have hout := hother v hv
        rw [List.contains_iff_mem.mpr hv'] at hout
        nomatch hout

/-- `b` in `v2` and `a` in `v1` allocate, `b` releases, and the move of `b` to `v1` is refused. -/
def moveRefused : StaleSystem := inTurn [1, 3, 2, 0]

theorem reservations_exact_refused :
    (moveRefused.world.commits.map fun c => c.edit.separate c.before) = [true, true, true] ∧
    (moveRefused.prog 0).result =
      some (.error (errorf "WireGuard pools overlap another gateway serving the same VPC")) ∧
    ∀ c ∈ moveRefused.world.commits, Good oneNet c.after ∧ Unshared c.after := by
  refine ⟨by decide +kernel, by decide +kernel, ?_⟩
  refine (reservations_exact (inTurn_reached [1, 3, 2, 0])).2.2.2.mpr ?_
  have hall : moveRefused.world.commits.all (fun c => c.edit.separate c.before) = true := by
    decide +kernel
  intro c hc
  exact Edit.fits_of_separate (List.all_eq_true.mp hall c hc)

def staleRelease : StaleSystem := inTurn [0, 1, 2, 3, 4]

def shape (uid : String) (g : GatewayReservation) :
    List String × Option String × Option (List String) :=
  (g.vpcs, g.pools.lookup "clients", (g.clients.lookup uid).map ClientReservation.addresses)

theorem staleRelease_records :
    (staleRelease.world.state.gateways.lookup "a").map (shape "ca") =
      some (["u1"], some "10.0.0.0/24", some ["167772161"]) ∧
    (staleRelease.world.state.gateways.lookup "b").map (shape "cb") =
      some (["u1"], some "10.0.0.0/24", some ["167772161"]) := by
  decide +kernel

theorem shape_some {o : Option GatewayReservation} {uid cidr : String} {vpcs addresses : List String}
    (h : o.map (shape uid) = some (vpcs, some cidr, some addresses)) :
    ∃ g c, o = some g ∧ g.vpcs = vpcs ∧ g.clients.lookup uid = some c ∧ c.addresses = addresses := by
  obtain ⟨g, hg, hshape⟩ := Option.map_eq_some_iff.mp h
  obtain ⟨hvpcs, hrest⟩ := Prod.mk.inj hshape
  obtain ⟨c, hc, haddr⟩ := Option.map_eq_some_iff.mp (Prod.mk.inj hrest).2
  exact ⟨g, c, hg, hvpcs, hc, haddr⟩

/-- **A STALE RELEASE SHARES AN ADDRESS**: in the end `a` and `b` are in one VPC, and both clients
    have 10.0.0.1. -/
theorem stale_release_shares_address :
    ReflTransGen (Step (apiServer (Fin 5))) (start oneNet staleJobs twoVPCs) staleRelease ∧
    ∃ c ∈ staleRelease.world.commits, ¬Good oneNet c.after ∧ ¬Unshared c.after := by
  have hreached : ReflTransGen (Step (apiServer (Fin 5))) _ staleRelease :=
    inTurn_reached [0, 1, 2, 3, 4]
  have hshared : ¬Unshared staleRelease.world.state := by
    intro h
    obtain ⟨ga, ca, hga, hva, hca, haa⟩ := shape_some staleRelease_records.1
    obtain ⟨gb, cb, hgb, hvb, hcb, hab⟩ := shape_some staleRelease_records.2
    have hmeet : Meet ga.vpcs gb.vpcs := by
      rw [hva, hvb]
      exact ⟨"u1", .head _, .head _⟩
    have hdisjoint := h "a" "b" "ca" "cb" ga gb ca cb hga hgb hmeet hca hcb (by decide)
    rw [haa, hab] at hdisjoint
    exact hdisjoint (.head _) (.head _)
  refine ⟨hreached, ?_⟩
  have hcurrent := (serialised hreached).current
  cases hcommits : staleRelease.world.commits with
  | nil =>
    rw [hcurrent, hcommits] at hshared
    exact absurd (good_unshared (good_empty (X := oneNet))) hshared
  | cons c cs =>
    rw [hcurrent, hcommits] at hshared
    exact ⟨c, .head _, fun hgood => hshared (good_unshared hgood), hshared⟩

end CozyWgClients
