import Cozyplane.SgMembersProofs

/-!
# Veth records — what the alias of a host veth says

The maps a pod's datapath lives in are rebuilt from the ALIAS of its host veth: a line of
`key=value` fields with the network, the addresses, the sandbox and the Port generation. A
revoked endpoint keeps only the mark `revoked=1`.
-/

namespace CozyVethRecord

open CozyPacket CozyDatapath

/-- A hardware address. -/
abbrev Mac := List U8

/-- `net.ParseMAC`, the printed forms of addresses, `url.QueryEscape` with its inverse, and
    `net.ParseCIDR` for the allowlist of a grant. -/
structure Texts extends CozySgMembers.Texts where
  parseMAC : String → Option Mac
  parseCIDR : String → Option CozyCidr.IPNet
  macString : Mac → String
  ipString : Addr → String
  escape : String → String
  unescape : String → Option String

/-- What the parser reads off an alias. -/
structure Record where
  rawNet : U32
  ips : List Addr
  mac : Mac
  deriving DecidableEq

/-- `PortVethIdentity`. -/
structure PortVethIdentity where
  uid : String
  staged : Bool
  deriving DecidableEq

def vethAliasPrefix : String := "cozyplane:1;"

def revokedMark : String := vethAliasPrefix ++ "revoked=1"

def flagText (rawNet flag : U32) : String := if hasBit rawNet flag then "1" else "0"

section

variable (X : Texts)

def formatVethAlias (rawNet : U32) (ips : List Addr) (mac : Mac) : String :=
  if rawNet = portQuarantine then revokedMark
  else
    vethAliasPrefix ++ "net=" ++ toString (portNet rawNet).toNat ++
      ";gw=" ++ flagText rawNet portFGateway ++ ";fwd=" ++ flagText rawNet portFForward ++
      ";scoped=" ++ flagText rawNet portFFwdScoped ++ ";mac=" ++ X.macString mac ++
      ";ips=" ++ ",".intercalate (ips.map X.ipString)

def aliasWithSandbox (text containerID ifName : String) : String :=
  if containerID = "" ∨ ifName = "" then text
  else text ++ ";container=" ++ X.escape containerID ++ ";ifname=" ++ X.escape ifName

def aliasWithPortIdentity (text : String) (id : PortVethIdentity) : String :=
  let named := if id.uid ≠ "" then text ++ ";port=" ++ X.escape id.uid else text
  if id.staged then named ++ ";s=1" else named

/-- The alias the writers compose. -/
def fullAlias (r : Record) (containerID ifName : String) (id : PortVethIdentity) : String :=
  aliasWithPortIdentity X
    (aliasWithSandbox X (formatVethAlias X r.rawNet r.ips r.mac) containerID ifName) id

end

-- ── reading

/-- `strings.Split`. -/
def split (sep : Char) (s : List Char) : List (List Char) := s.splitOn sep

/-- `strings.Cut(kv, "=")`. -/
def cutEq (kv : List Char) : Option (String × String) :=
  match kv.dropWhile (· ≠ '=') with
  | [] => none
  | _ :: v => some (String.ofList (kv.takeWhile (· ≠ '=')), String.ofList v)

/-- The alias is the mark, or starts with it as a field. -/
def revoked (text : String) : Bool :=
  text == revokedMark || (revokedMark ++ ";").toList.isPrefixOf text.toList

def knownFields : List String :=
  ["net", "gw", "fwd", "scoped", "mac", "ips", "container", "ifname", "port", "portuid", "s",
   "staged"]

/-- The fields in the order read; an unknown or repeated key makes the alias malformed. -/
def readFields : List (List Char) → List (String × String) → Option (List (String × String))
  | [], fields => some fields
  | kv :: rest, fields =>
    match cutEq kv with
    | none => none
    | some (k, v) =>
      if (fields.lookup k).isSome then none
      else if k ∉ knownFields then none
      else readFields rest (fields ++ [(k, v)])

/-- `strconv.ParseUint(s, 10, 32)`, and the range of network ids: 0, or a VNI. -/
def parseNetID (s : String) : Option U32 :=
  if s = "" then none
  else
    match CozyRouteCompile.parseDigits s.toList with
    | none => none
    | some n => if n ≠ 0 ∧ (n < 100 ∨ 4194303 < n) then none else some (BitVec.ofNat 32 n)

def parseGw (s : String) : Option U32 :=
  if s = "0" then some 0#32 else if s = "1" then some portFGateway else none

/-- An alias from before multi-attach has no such field. -/
def parseFwd (s : String) : Option U32 :=
  if s = "" ∨ s = "0" then some 0#32 else if s = "1" then some portFForward else none

/-- A grant written before scopes existed is read as scoped. -/
def parseScoped (fwd : U32) (s : String) : Option U32 :=
  if s = "0" then some 0#32
  else if s = "1" then if fwd = 0#32 then none else some portFFwdScoped
  else if s = "" then some (if fwd = 0#32 then 0#32 else portFFwdScoped)
  else none

section

variable (X : Texts)

def parseRecord (fields : List (String × String)) : Option Record := do
  let field k := (fields.lookup k).getD ""
  let netID ← parseNetID (field "net")
  let gw ← parseGw (field "gw")
  let fwd ← parseFwd (field "fwd")
  let scp ← parseScoped fwd (field "scoped")
  let rawNet := netID ||| gw ||| fwd ||| scp
  if netID = 0#32 ∧ rawNet ≠ 0#32 then none
  else
    let mac ← X.parseMAC (field "mac")
    let ips ← (split ',' (field "ips").toList).mapM fun s => X.parseIP (String.ofList s)
    if ips = [] then none else some ⟨rawNet, ips, mac⟩

/-- The record of an alias, if it is one. -/
def parseVethAlias (text : String) : Option Record :=
  if revoked text then some ⟨portQuarantine, [], []⟩
  else
    match text.toList.dropPrefix? vethAliasPrefix.toList with
    | none => none
    | some body => (readFields (split ';' body) []).bind (parseRecord X)

/-- One field of `VethSandbox`; a value that does not unescape voids the witness. -/
def readSandbox : List (List Char) → String × String → String × String
  | [], found => found
  | field :: rest, found =>
    match cutEq field with
    | none => readSandbox rest found
    | some (key, coded) =>
      match X.unescape coded with
      | none => ("", "")
      | some value =>
        readSandbox rest (if key = "container" then (value, found.2)
          else if key = "ifname" then (found.1, value) else found)

/-- `VethSandbox`: container id and interface name. -/
def vethSandbox (text : String) : String × String :=
  if (parseVethAlias X text).isNone then ("", "")
  else readSandbox X (split ';' text.toList) ("", "")

/-- One field of `VethPortIdentity`; a malformed state must not activate locals. -/
def readIdentity (id : PortVethIdentity) (field : List Char) : PortVethIdentity :=
  match cutEq field with
  | none => id
  | some (key, value) =>
    if key = "portuid" ∨ key = "port" then { id with uid := (X.unescape value).getD "" }
    else if key = "staged" ∨ key = "s" then { id with staged := value ≠ "0" }
    else id

def vethPortIdentity (text : String) : PortVethIdentity :=
  (split ';' text.toList).foldl (readIdentity X) ⟨"", false⟩

end

variable {X : Texts}

variable {s : String}

theorem parseNetID_lt {n : U32} (h : parseNetID s = some n) :
    n.getLsbD 28 = false := by
  unfold parseNetID at h
  split at h
  · nomatch h
  split at h
  · nomatch h
  split at h
  · nomatch h
  rename_i v _ hrange
  cases h
  have hv : v < 2 ^ 28 := by omega
  rw [BitVec.getLsbD_ofNat, Nat.testBit_lt_two_pow hv, Bool.and_false]

theorem parseGw_bit {v : U32} (h : parseGw s = some v) : v.getLsbD 28 = false := by
  unfold parseGw at h
  split at h
  · cases h; rfl
  split at h
  · cases h; rfl
  · nomatch h

theorem parseFwd_bit {v : U32} (h : parseFwd s = some v) : v.getLsbD 28 = false := by
  unfold parseFwd at h
  split at h
  · cases h; rfl
  split at h
  · cases h; rfl
  · nomatch h

theorem parseScoped_bit {fwd v : U32} (h : parseScoped fwd s = some v) :
    v.getLsbD 28 = false := by
  unfold parseScoped at h
  split at h
  · cases h; rfl
  split at h
  · split at h
    · nomatch h
    · cases h; rfl
  split at h
  · cases h
    split
    · rfl
    · rfl
  · nomatch h

/-- Bit 28 tells a network id with flags from the quarantine value. -/
theorem parseRecord_bit {fields : List (String × String)} {r : Record}
    (h : parseRecord X fields = some r) : r.rawNet.getLsbD 28 = false := by
  unfold parseRecord at h
  simp only [bind, Option.bind_eq_some_iff] at h
  obtain ⟨netID, hnet, gw, hgw, fwd, hfwd, scp, hscp, h⟩ := h
  split at h
  · nomatch h
  simp only [Option.bind_eq_some_iff] at h
  obtain ⟨mac, _, ips, _, h⟩ := h
  split at h
  · nomatch h
  cases h
  simp only [BitVec.getLsbD_or, parseNetID_lt hnet, parseGw_bit hgw, parseFwd_bit hfwd,
    parseScoped_bit hscp, Bool.or_false]

/-- **THE MARK IS WHAT THE PARSER READS AS QUARANTINE**, and nothing else is. -/
theorem parse_quarantine_iff (text : String) :
    (∃ r, parseVethAlias X text = some r ∧ r.rawNet = portQuarantine) ↔ revoked text = true := by
  unfold parseVethAlias
  split
  · rename_i hrev
    exact ⟨fun _ => hrev, fun _ => ⟨_, rfl, rfl⟩⟩
  rename_i hrev
  refine ⟨?_, fun h => absurd h hrev⟩
  rintro ⟨r, hr, hq⟩
  split at hr
  · nomatch hr
  obtain ⟨fields, _, hrec⟩ := Option.bind_eq_some_iff.mp hr
  have hbit := parseRecord_bit hrec
  rw [hq] at hbit
  nomatch hbit

theorem parse_of_revoked {text : String} (h : revoked text = true) :
    parseVethAlias X text = some ⟨portQuarantine, [], []⟩ := by
  unfold parseVethAlias
  rw [if_pos h]

theorem not_revoked_of_parse {text : String} {r : Record} (h : parseVethAlias X text = some r)
    (hr : r.rawNet ≠ portQuarantine) : revoked text = false := by
  by_contra hrev
  rw [Bool.not_eq_false] at hrev
  rw [parse_of_revoked hrev] at h
  exact hr (Option.some.inj h ▸ rfl)

/-- The text is extended by nothing, or by further fields. -/
def Extends (text long : String) : Prop :=
  ∃ s : List Char, (s = [] ∨ s.head? = some ';') ∧ long.toList = text.toList ++ s

theorem Extends.refl (text : String) : Extends text text :=
  ⟨[], .inl rfl, (List.append_nil _).symm⟩

theorem Extends.trans {a b c : String} (h : Extends a b) (h' : Extends b c) : Extends a c := by
  obtain ⟨s, hs, hb⟩ := h
  obtain ⟨t, ht, hc⟩ := h'
  refine ⟨s ++ t, ?_, by rw [hc, hb, List.append_assoc]⟩
  rcases hs with rfl | hs
  · exact ht
  · exact .inr (List.head?_append_of_ne_nil s (by rintro rfl; nomatch hs) ▸ hs)

theorem Extends.append (text : String) {field : String} (h : field.toList.head? = some ';') :
    Extends text (text ++ field) :=
  ⟨field.toList, .inr h, String.toList_append⟩

theorem extends_aliasWithSandbox (text containerID ifName : String) :
    Extends text (aliasWithSandbox X text containerID ifName) := by
  unfold aliasWithSandbox
  split
  · exact .refl text
  · simp only [String.append_assoc]
    exact .append text (by rw [String.toList_append]; rfl)

theorem extends_aliasWithPortIdentity (text : String) (id : PortVethIdentity) :
    Extends text (aliasWithPortIdentity X text id) := by
  unfold aliasWithPortIdentity
  have hnamed : Extends text (if id.uid ≠ "" then text ++ ";port=" ++ X.escape id.uid else text) := by
    split
    · rw [String.append_assoc]
      exact .append text (by rw [String.toList_append]; rfl)
    · exact .refl text
  dsimp only
  split
  · exact hnamed.trans (.append _ rfl)
  · exact hnamed

theorem revoked_of_extends {long : String} (h : Extends revokedMark long) :
    revoked long = true := by
  obtain ⟨s, hs, hlong⟩ := h
  unfold revoked
  rw [Bool.or_eq_true, beq_iff_eq, List.isPrefixOf_iff_prefix]
  rcases hs with rfl | hs
  · exact .inl (String.toList_injective (by rw [hlong, List.append_nil]))
  obtain ⟨t, rfl⟩ := List.head?_eq_some_iff.mp hs
  refine .inr ⟨t, ?_⟩
  rw [hlong, String.toList_append, List.append_assoc]
  rfl

theorem not_revoked_of_net {long : String} {s : List Char}
    (h : long.toList = (vethAliasPrefix ++ "net=").toList ++ s) : revoked long = false := by
  rw [Bool.eq_false_iff]
  intro hrev
  unfold revoked at hrev
  rw [Bool.or_eq_true, beq_iff_eq, List.isPrefixOf_iff_prefix] at hrev
  have hmark : revokedMark.toList <+: long.toList := by
    rcases hrev with rfl | hpre
    · exact List.prefix_refl _
    · exact (List.prefix_append revokedMark.toList ";".toList).trans
        (String.toList_append ▸ hpre)
  have hnet : (vethAliasPrefix ++ "net=").toList <+: long.toList := ⟨s, h.symm⟩
  have hlt := List.prefix_of_prefix_length_le hnet hmark (by decide)
  exact absurd hlt (by decide)

/-- **WRITERS MARK EXACTLY THE QUARANTINE VALUE**: the alias of a record is revoked iff the record
    carries it. -/
theorem revoked_fullAlias (r : Record) (containerID ifName : String) (id : PortVethIdentity) :
    revoked (fullAlias X r containerID ifName id) = true ↔ r.rawNet = portQuarantine := by
  have hext : Extends (formatVethAlias X r.rawNet r.ips r.mac) (fullAlias X r containerID ifName id) :=
    (extends_aliasWithSandbox _ _ _).trans (extends_aliasWithPortIdentity _ _)
  unfold formatVethAlias at hext
  split at hext
  · rename_i hq
    exact ⟨fun _ => hq, fun _ => revoked_of_extends hext⟩
  rename_i hq
  refine ⟨fun hrev => ?_, fun h => absurd h hq⟩
  obtain ⟨s, _, hlong⟩ := hext
  simp only [String.append_assoc] at hlong
  rw [← String.append_assoc, String.toList_append, List.append_assoc] at hlong
  rw [not_revoked_of_net hlong] at hrev
  nomatch hrev

end CozyVethRecord
