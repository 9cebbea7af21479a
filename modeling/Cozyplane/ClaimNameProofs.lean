import Cozyplane.RouteCompileProofs

/-!
# Claim names — `<kind><vni>.<escaped-ip>` and back

A Port and a ServiceVIP are named by the address they hold. `ParseClaim` splits such a name
into its VNI and the escaped address.
-/

namespace CozyClaimName

open CozyRouteCompile

/-- An optional sign, and the rest. -/
def signed : List Char → Bool × List Char
  | '+' :: ds => (false, ds)
  | '-' :: ds => (true, ds)
  | ds => (false, ds)

/-- `strconv.ParseInt(s, 10, 32)`. -/
def parseInt32 (cs : List Char) : Option Int :=
  let (neg, ds) := signed cs
  if ds = [] then none
  else
    match parseDigits ds with
    | none => none
    | some n =>
      let v : Int := if neg then -n else n
      if v < -2 ^ 31 ∨ 2 ^ 31 ≤ v then none else some v

theorem parseDigits_toDigits (n : Nat) : parseDigits (Nat.toDigits 10 n) = some n := by
  have hdigits : (Nat.toDigits 10 n).all Char.isDigit = true := by
    rw [List.all_eq_true]
    intro c hc
    exact Nat.isDigit_of_mem_toDigits (by decide) (by decide) hc
  unfold parseDigits
  rw [if_pos hdigits]
  exact congrArg some (Nat.ofDigitChars_eq_foldl.symm.trans Nat.ofDigitChars_ten_toDigits)

theorem signed_toDigits (n : Nat) : signed (Nat.toDigits 10 n) = (false, Nat.toDigits 10 n) := by
  cases hds : Nat.toDigits 10 n with
  | nil => rfl
  | cons c ds =>
    have hc : c.isDigit = true :=
      Nat.isDigit_of_mem_toDigits (b := 10) (n := n) (by decide) (by decide)
        (by rw [hds]; exact List.mem_cons_self)
    unfold signed
    split
    · rename_i h
      cases h
      exact absurd hc (by decide)
    · rename_i h
      cases h
      exact absurd hc (by decide)
    · rfl

/-- **DECIMAL ROUND TRIP**: what `FormatInt` wrote, `ParseInt` reads. -/
theorem parseInt32_toString {v : Int} (h₀ : 0 ≤ v) (h₁ : v < 2 ^ 31) :
    parseInt32 (toString v).toList = some v := by
  obtain ⟨n, rfl⟩ := Int.eq_ofNat_of_zero_le h₀
  have htext : (toString (n : Int)).toList = Nat.toDigits 10 n := Nat.toList_repr
  rw [htext]
  unfold parseInt32
  rw [signed_toDigits]
  have hrange : ¬((n : Int) < -2 ^ 31 ∨ 2 ^ 31 ≤ (n : Int)) := by omega
  simp only [Nat.toDigits_ne_nil, if_false, parseDigits_toDigits, Bool.false_eq_true,
    if_neg hrange]

/-- `strings.Cut(s, ".")`. -/
def cutDot (s : List Char) : Option (List Char × List Char) :=
  match s.dropWhile (· ≠ '.') with
  | [] => none
  | _ :: rest => some (s.takeWhile (· ≠ '.'), rest)

def parseClaim (kind name : String) : Option (Int × String) :=
  match name.toList.dropPrefix? kind.toList with
  | none => none
  | some rest =>
    match cutDot rest with
    | none => none
    | some (vniStr, esc) =>
      if vniStr = [] ∨ esc = [] then none
      else
        match parseInt32 vniStr with
        | none => none
        | some n => if n < 100 ∨ 4194303 < n then none else some (n, String.ofList esc)

def claimPrefixPort : String := "v"

def claimPrefixServiceVIP : String := "sv"

example : parseClaim claimPrefixPort "v200.10-0-0-1" = some (200, "10-0-0-1") := by decide

end CozyClaimName
