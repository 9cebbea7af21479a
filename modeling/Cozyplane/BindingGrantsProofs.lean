import Cozyplane.BoundaryCompileProofs

/-!
# Binding grants — one answer from a list and from a stream

VPCBindings grant a VPC to a consumer namespace: to attach to it and, on top, to forward foreign
addresses, any or those of the prefixes they list. `BindingGrantsWithBudget` resolves a list of
them; callers that page through the API feed a `BindingGrantAccumulator` one by one instead. The
accumulator has three absorbing states: a blanket grant, too many prefixes, a prefix that is none.
-/

namespace CozyGrants

open CozyBoundaryCompile (VPCRef)

/-- The fields of a VPCBinding that grants are resolved from. -/
structure VPCBinding where
  ns : String
  terminating : Bool
  vpcRef : VPCRef
  allowForwarding : Bool
  forwardingCIDRs : List String
  deriving DecidableEq

/-- A list of pointers; `none` is nil. -/
abbrev Bindings := List (Option VPCBinding)

/-- Who asks for which VPC; `MaxForwardingPrefixes` (4096 in the source), and which texts
    `net.ParseCIDR` accepts. -/
structure Request where
  consumerNS : String
  vpc : VPCRef
  budget : Nat
  isCIDR : String → Bool

/-- The VPC of a binding: an empty namespace is the binding's own. -/
def VPCBinding.target (b : VPCBinding) : VPCRef :=
  { b.vpcRef with ns := if b.vpcRef.ns = "" then b.ns else b.vpcRef.ns }

variable (q : Request)

/-- `BindingAuthorizesAttachment`. -/
def bindingAuthorizesAttachment : Option VPCBinding → Bool
  | none => false
  | some b => if b.ns ≠ q.consumerNS ∨ b.terminating = true then false else b.target == q.vpc

/-- One prefix of `ValidateForwardingPrefixes`, with its index. -/
def prefixProblem (e : String × Nat) : Option String :=
  if 64 < e.1.utf8ByteSize then
    some ("forwarding prefix at index " ++ toString e.2 ++ " exceeds 64 bytes")
  else if q.isCIDR e.1 then none
  else some ("forwarding prefix at index " ++ toString e.2 ++ " is not a valid IP CIDR")

/-- The text for too many prefixes. -/
def budgetProblem : String := "forwarding grant exceeds " ++ toString q.budget ++ " input prefixes"

/-- `ValidateForwardingPrefixes`, as its error. -/
def validateForwardingPrefixes (cidrs : List String) : Option String :=
  if q.budget < cidrs.length then some (budgetProblem q)
  else cidrs.zipIdx.findSome? (prefixProblem q)

/-- `BindingGrantAccumulator`, without the request. -/
structure Accumulator where
  attached : Bool
  forwarding : Bool
  blanket : Bool
  cidrs : List String
  err : Option String
  deriving DecidableEq

/-- Nothing granted yet. -/
def newBindingGrantAccumulator : Accumulator := ⟨false, false, false, [], none⟩

namespace Accumulator

variable (g : Accumulator)

/-- The end of `Add`, for a grant with prefixes. No more than the budget is ever held, so the
    subtraction stays above zero. -/
def addScoped (cidrs : List String) : Accumulator :=
  if g.blanket || g.err.isSome then g
  else
    match (if q.budget - g.cidrs.length < cidrs.length then some (budgetProblem q)
      else validateForwardingPrefixes q cidrs) with
    | some e => { g with err := some e, cidrs := [] }
    | none => { g with cidrs := g.cidrs ++ cidrs }

/-- `Add`: one binding. -/
def add : Option VPCBinding → Accumulator
  | none => g
  | some b =>
    if bindingAuthorizesAttachment q (some b) = false then g
    else if b.allowForwarding = false then { g with attached := true }
    else if b.forwardingCIDRs = [] then ⟨true, true, true, [], none⟩
    else addScoped q { g with attached := true, forwarding := true } b.forwardingCIDRs

end Accumulator

/-- What both ways return. -/
structure Grants where
  attached : Bool
  forwarding : Bool
  cidrs : List String
  err : Option String
  deriving DecidableEq

/-- `Result`. -/
def Accumulator.result (g : Accumulator) : Grants :=
  match g.err with
  | some e => ⟨g.attached, false, [], some e⟩
  | none => ⟨g.attached, g.forwarding, g.cidrs, none⟩

/-- The bindings added one by one. -/
def streamed (bs : Bindings) : Accumulator := bs.foldl (Accumulator.add q) newBindingGrantAccumulator

/-- The prefixes of a grant that allows forwarding. -/
def forwardingOf : Option VPCBinding → Option (List String)
  | none => none
  | some b =>
    if bindingAuthorizesAttachment q (some b) && b.allowForwarding then some b.forwardingCIDRs else none

/-- A grant without prefixes. -/
def isBlanket (b : Option VPCBinding) : Bool := forwardingOf q b == some []

/-- `BindingGrantsWithBudget`. -/
def bindingGrantsWithBudget (bs : Bindings) : Grants :=
  if bs.any (isBlanket q) then ⟨true, true, [], none⟩ else (streamed q bs).result

/-- The prefixes of the live grants, duplicates included. -/
def scopedCIDRs (bs : Bindings) : List String := bs.flatMap fun b => (forwardingOf q b).getD []

/-- The prefixes are within the budget, and each is one. -/
def Fits (cidrs : List String) : Prop :=
  cidrs.length ≤ q.budget ∧ ∀ c ∈ cidrs, c.utf8ByteSize ≤ 64 ∧ q.isCIDR c = true

/-- What some bindings grant: a live blanket grant wins; otherwise the prefixes, or the attachment
    alone where they do not fit. -/
inductive Answer (bs : Bindings) : Grants → Prop where
  | blanket : bs.any (isBlanket q) = true → Answer bs ⟨true, true, [], none⟩
  | refused (e : String) : bs.any (isBlanket q) = false → ¬ Fits q (scopedCIDRs q bs) →
      Answer bs ⟨true, false, [], some e⟩
  | granted : bs.any (isBlanket q) = false → Fits q (scopedCIDRs q bs) →
      Answer bs ⟨bs.any (bindingAuthorizesAttachment q), bs.any fun b => (forwardingOf q b).isSome,
        scopedCIDRs q bs, none⟩

variable {q}

theorem validate_none {cidrs : List String} :
    validateForwardingPrefixes q cidrs = none ↔ Fits q cidrs := by
  have hone : ∀ e : String × Nat, prefixProblem q e = none ↔
      e.1.utf8ByteSize ≤ 64 ∧ q.isCIDR e.1 = true := by
    intro e
    simp only [prefixProblem]
    split_ifs with hlong hparse
    · exact iff_of_false nofun fun h => absurd hlong (Nat.not_lt.mpr h.1)
    · exact iff_of_true rfl ⟨Nat.not_lt.mp hlong, hparse⟩
    · exact iff_of_false nofun fun h => hparse h.2
  simp only [validateForwardingPrefixes, Fits]
  split_ifs with hover
  · exact iff_of_false nofun fun h => absurd hover (Nat.not_lt.mpr h.1)
  rw [and_iff_right (Nat.not_lt.mp hover), List.findSome?_eq_none_iff]
  constructor
  · intro h c hc
    rw [← List.zipIdx_map_fst 0 cidrs] at hc
    obtain ⟨e, he, rfl⟩ := List.mem_map.mp hc
    exact (hone e).mp (h e he)
  · intro h e he
    exact (hone e).mpr (h e.1 (List.fst_mem_of_mem_zipIdx he))

theorem fits_append {a b : List String} :
    Fits q (a ++ b) ↔ Fits q a ∧ ¬ q.budget - a.length < b.length ∧ Fits q b := by
  simp only [Fits, List.length_append, List.forall_mem_append]
  constructor
  · rintro ⟨hlen, ha, hb⟩
    exact ⟨⟨by omega, ha⟩, by omega, by omega, hb⟩
  · rintro ⟨⟨hlen, ha⟩, hroom, -, hb⟩
    exact ⟨by omega, ha, hb⟩

-- ── one binding more

variable {b : Option VPCBinding} {g : Accumulator}

theorem addScoped_flags (g : Accumulator) (cidrs : List String) :
    (g.addScoped q cidrs).attached = g.attached ∧ (g.addScoped q cidrs).forwarding = g.forwarding ∧
      (g.addScoped q cidrs).blanket = g.blanket := by
  simp only [Accumulator.addScoped]
  split
  · exact ⟨rfl, rfl, rfl⟩
  split
  · exact ⟨rfl, rfl, rfl⟩
  · exact ⟨rfl, rfl, rfl⟩

theorem add_unrelated (h : bindingAuthorizesAttachment q b = false) : ∀ g, Accumulator.add q g b = g := by
  intro g
  cases b with
  | none => rfl
  | some b => exact if_pos h

theorem forwardingOf_none (h : bindingAuthorizesAttachment q b = false) : forwardingOf q b = none := by
  cases b with
  | none => rfl
  | some b => simp [forwardingOf, h]

theorem add_flags (g : Accumulator) (b : Option VPCBinding) :
    (g.add q b).attached = (g.attached || bindingAuthorizesAttachment q b) ∧
      (g.add q b).forwarding = (g.forwarding || (forwardingOf q b).isSome) ∧
      (g.add q b).blanket = (g.blanket || isBlanket q b) := by
  cases hauth : bindingAuthorizesAttachment q b with
  | false => simp [add_unrelated hauth, isBlanket, forwardingOf_none hauth]
  | true =>
    cases b with
    | none => nomatch hauth
    | some b =>
      simp only [Accumulator.add, isBlanket, forwardingOf, hauth]
      cases b.allowForwarding with
      | false => simp
      | true => by_cases hnil : b.forwardingCIDRs = [] <;> simp [hnil, addScoped_flags]

/-- What an accumulator holds after a blanket grant, or after these prefixes without one. -/
structure Holds (q : Request) (cidrs : List String) (g : Accumulator) : Prop where
  blanket : g.blanket = true → g.cidrs = [] ∧ g.err = none
  fits : g.blanket = false → Fits q cidrs → g.cidrs = cidrs ∧ g.err = none
  beyond : g.blanket = false → ¬ Fits q cidrs → g.err.isSome = true

theorem addScoped_holds {all cidrs : List String} (h : Holds q all g) :
    Holds q (all ++ cidrs) (g.addScoped q cidrs) := by
  simp only [Accumulator.addScoped]
  split
  · rename_i hdone
    rw [Bool.or_eq_true] at hdone
    refine ⟨h.blanket, fun hopen hall => ?_, fun hopen _ => ?_⟩
    · have hnone := (h.fits hopen (fits_append.mp hall).1).2
      simp [hopen, hnone] at hdone
    · exact hdone.resolve_left fun hb => nomatch hopen.symm.trans hb
  rename_i hopen
  rw [Bool.or_eq_true, not_or, Bool.not_eq_true, Bool.not_eq_true] at hopen
  have hall : Fits q all := by
    by_contra hno
    nomatch hopen.2.symm.trans (h.beyond hopen.1 hno)
  obtain ⟨hcidrs, hnone⟩ := h.fits hopen.1 hall
  have hblanket : ∀ {P : Prop}, g.blanket = true → P := fun hb => nomatch hopen.1.symm.trans hb
  rw [hcidrs]
  split
  · rename_i e he
    refine ⟨hblanket, fun _ hnew => ?_, fun _ _ => rfl⟩
    obtain ⟨-, hroom, hvalid⟩ := fits_append.mp hnew
    rw [if_neg hroom, validate_none.mpr hvalid] at he
    nomatch he
  · rename_i he
    split_ifs at he with hroom
    refine ⟨hblanket, fun _ _ => ⟨rfl, hnone⟩, fun _ hno => ?_⟩
    exact absurd (fits_append.mpr ⟨hall, hroom, validate_none.mp he⟩) hno

/-- **ONE BINDING MORE**: its prefixes join the others. -/
theorem add_holds {all : List String} (h : Holds q all g) :
    Holds q (all ++ (forwardingOf q b).getD []) (g.add q b) := by
  cases hauth : bindingAuthorizesAttachment q b with
  | false =>
    rw [add_unrelated hauth, forwardingOf_none hauth, Option.getD_none, List.append_nil]
    exact h
  | true =>
    cases b with
    | none => nomatch hauth
    | some b =>
    simp only [Accumulator.add, forwardingOf, hauth]
    cases b.allowForwarding with
    | false =>
      simp only [Bool.true_eq_false, if_false, if_true, Bool.and_false, Bool.false_eq_true,
        Option.getD_none, List.append_nil]
      exact ⟨h.blanket, h.fits, h.beyond⟩
    | true =>
      simp only [Bool.true_eq_false, if_false, Bool.and_self, if_true, Option.getD_some]
      split
      · exact ⟨fun _ => ⟨rfl, rfl⟩, nofun, nofun⟩
      · exact addScoped_holds ⟨h.blanket, h.fits, h.beyond⟩

theorem streamed_snoc (bs : Bindings) (b : Option VPCBinding) :
    streamed q (bs ++ [b]) = (streamed q bs).add q b := List.foldl_append

theorem streamed_flags (bs : Bindings) :
    (streamed q bs).attached = bs.any (bindingAuthorizesAttachment q) ∧
      (streamed q bs).forwarding = (bs.any fun b => (forwardingOf q b).isSome) ∧
      (streamed q bs).blanket = bs.any (isBlanket q) := by
  induction bs using List.reverseRecOn with
  | nil => exact ⟨rfl, rfl, rfl⟩
  | append_singleton bs b ih =>
    obtain ⟨ha, hf, hb⟩ := add_flags (q := q) (streamed q bs) b
    rw [streamed_snoc, ha, hf, hb, ih.1, ih.2.1, ih.2.2]
    simp

theorem streamed_holds (bs : Bindings) : Holds q (scopedCIDRs q bs) (streamed q bs) := by
  induction bs using List.reverseRecOn with
  | nil => exact ⟨nofun, fun _ _ => ⟨rfl, rfl⟩, fun _ hno => absurd ⟨Nat.zero_le _, nofun⟩ hno⟩
  | append_singleton bs b ih =>
    rw [streamed_snoc, scopedCIDRs, List.flatMap_append, List.flatMap_singleton]
    exact add_holds ih

variable {bs : Bindings}

theorem attached_of_forwarding (hb : b ∈ bs) (h : forwardingOf q b ≠ none) :
    (streamed q bs).attached = true := by
  rw [(streamed_flags bs).1]
  refine List.any_eq_true.mpr ⟨b, hb, ?_⟩
  by_contra hno
  exact h (forwardingOf_none (Bool.eq_false_iff.mpr hno))

/-- **THE STREAM** gives the answer. -/
theorem streamed_answer (bs : Bindings) : Answer q bs (streamed q bs).result := by
  obtain ⟨hatt, hfwd, hblk⟩ := streamed_flags (q := q) bs
  have h := streamed_holds (q := q) bs
  cases hany : bs.any (isBlanket q) with
  | true =>
    obtain ⟨hnil, hnone⟩ := h.blanket (hblk.trans hany)
    obtain ⟨b, hb, hblanket⟩ := List.any_eq_true.mp hany
    have hsome : forwardingOf q b = some [] := eq_of_beq hblanket
    have hatt' := attached_of_forwarding hb (hsome ▸ Option.some_ne_none _)
    rw [List.any_eq_true.mpr ⟨b, hb, by rw [hsome]; rfl⟩] at hfwd
    simp only [Accumulator.result, hnone, hatt', hfwd, hnil]
    exact .blanket hany
  | false =>
    by_cases hfits : Fits q (scopedCIDRs q bs)
    · obtain ⟨hcidrs, hnone⟩ := h.fits (hblk.trans hany) hfits
      simp only [Accumulator.result, hnone, hatt, hfwd, hcidrs]
      exact .granted hany hfits
    obtain ⟨e, he⟩ := Option.isSome_iff_exists.mp (h.beyond (hblk.trans hany) hfits)
    -- a prefix that is refused comes with an attachment
    obtain ⟨c, hc⟩ : ∃ c, c ∈ scopedCIDRs q bs := by
      refine List.exists_mem_of_ne_nil _ fun hnil => hfits ?_
      rw [hnil]
      exact ⟨Nat.zero_le _, nofun⟩
    obtain ⟨b, hb, hin⟩ := List.mem_flatMap.mp hc
    have hatt' : (streamed q bs).attached = true := by
      refine attached_of_forwarding hb fun hnone => ?_
      rw [hnone] at hin
      nomatch hin
    simp only [Accumulator.result, he, hatt']
    exact .refused e hany hfits

/-- The list stops at a blanket grant, to which the stream comes in the end. -/
theorem grants_eq_streamed (bs : Bindings) : bindingGrantsWithBudget q bs = (streamed q bs).result := by
  simp only [bindingGrantsWithBudget]
  split
  · rename_i hany
    have h := streamed_answer (q := q) bs
    generalize (streamed q bs).result = r at h ⊢
    cases h with
    | blanket _ => rfl
    | refused _ hno _ | granted hno _ => nomatch hany.symm.trans hno
  · rfl

/-- The same rights, the same prefixes, and an error on both sides or on none. -/
def Grants.Agree (a b : Grants) : Prop :=
  a.attached = b.attached ∧ a.forwarding = b.forwarding ∧ a.cidrs.Perm b.cidrs ∧
    a.err.isSome = b.err.isSome

theorem Answer.perm {bs' : Bindings} {r r' : Grants} (h : bs'.Perm bs) (hr : Answer q bs r)
    (hr' : Answer q bs' r') : r'.Agree r := by
  have hblk : bs'.any (isBlanket q) = bs.any (isBlanket q) := h.any_eq
  have hperm : (scopedCIDRs q bs').Perm (scopedCIDRs q bs) := h.flatMap_right _
  have hfits : Fits q (scopedCIDRs q bs') ↔ Fits q (scopedCIDRs q bs) := by
    simp only [Fits, hperm.length_eq, hperm.mem_iff]
  cases hr with
  | blanket hany =>
    cases hr' with
    | blanket _ => exact ⟨rfl, rfl, .refl _, rfl⟩
    | refused _ hno _ | granted hno _ => nomatch hno.symm.trans (hblk.trans hany)
  | refused _ hany hover =>
    cases hr' with
    | blanket hyes => nomatch hyes.symm.trans (hblk.trans hany)
    | refused _ _ _ => exact ⟨rfl, rfl, .refl _, rfl⟩
    | granted _ hyes => exact absurd (hfits.mp hyes) hover
  | granted hany hok =>
    cases hr' with
    | blanket hyes => nomatch hyes.symm.trans (hblk.trans hany)
    | refused _ _ hno => exact absurd (hfits.mpr hok) hno
    | granted _ _ => exact ⟨h.any_eq, h.any_eq, hperm, rfl⟩

/-- Terminating, of another namespace, or for another VPC. -/
def Unrelated (q : Request) (b : VPCBinding) : Prop :=
  b.terminating = true ∨ b.ns ≠ q.consumerNS ∨ b.target ≠ q.vpc

/-- **ONE ANSWER**: the accumulator, fed in any order, agrees with the list; the list gives the
    answer of its bindings; and an unrelated binding changes nothing. -/
theorem grants_streamed (q : Request) (bs : Bindings) :
    (∀ bs', bs'.Perm bs → (streamed q bs').result.Agree (bindingGrantsWithBudget q bs)) ∧
    Answer q bs (bindingGrantsWithBudget q bs) ∧
    ∀ b before after, Unrelated q b → bs = before ++ some b :: after →
      bindingGrantsWithBudget q bs = bindingGrantsWithBudget q (before ++ after) ∧
        streamed q bs = streamed q (before ++ after) := by
  rw [grants_eq_streamed]
  refine ⟨fun bs' h => (streamed_answer bs).perm h (streamed_answer bs'), streamed_answer bs, ?_⟩
  rintro b before after hb rfl
  have hno : bindingAuthorizesAttachment q (some b) = false := by
    rcases hb with hb | hb | hb <;> simp [bindingAuthorizesAttachment, hb]
  have hsame : streamed q (before ++ some b :: after) = streamed q (before ++ after) := by
    simp only [streamed, List.foldl_append, List.foldl_cons, add_unrelated hno]
  rw [grants_eq_streamed, hsame]
  exact ⟨rfl, rfl⟩

end CozyGrants
