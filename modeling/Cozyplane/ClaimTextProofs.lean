import Cozyplane.ClaimStoreProofs

/-!
# Claim texts — the name of an address, and back

The name of a Port or a ServiceVIP is made of the VNI and the canonical text of the address, with
its separators escaped. A text is a list of PIECES between separators, and an IPv6 text has empty
pieces where zeros are left out; the escaped text still shows them.
-/

namespace CozyClaimText

open CozyPacket (Addr)
open CozyCidr (is4In6)
open CozyRouteCompile (escapeIP portName digitsOf hexEncode)
open CozyClaimName CozyClaimStore

def digitVal (c : Char) : Nat := ((List.range 16).find? fun d => Nat.digitChar d == c).getD 0

def hexChar (c : Char) : Bool := (List.range 16).any fun d => Nat.digitChar d == c

def valueOf (b : Nat) (cs : List Char) : Nat := cs.foldl (fun n c => b * n + digitVal c) 0

theorem digit_facts : ∀ d < 16,
    digitVal (Nat.digitChar d) = d ∧ hexChar (Nat.digitChar d) = true := by
  decide

/-- Digits are hexadecimal ones, and give the number back. Induction on the number. -/
theorem toDigits_spec {b : Nat} (h₁ : 1 < b) (h₂ : b ≤ 16) (n : Nat) :
    valueOf b (Nat.toDigits b n) = n ∧ ∀ c ∈ Nat.toDigits b n, hexChar c = true := by
  induction n using Nat.strong_induction_on with
  | _ n ih =>
    by_cases hn : n < b
    · obtain ⟨hval, hhex⟩ := digit_facts n (by omega)
      rw [Nat.toDigits_of_lt_base hn]
      exact ⟨by simp [valueOf, hval], by simpa using hhex⟩
    have hr : n % b < b := Nat.mod_lt _ (by omega)
    obtain ⟨hval, hhex⟩ := ih (n / b) (Nat.div_lt_self (by omega) h₁)
    obtain ⟨hval', hhex'⟩ := digit_facts (n % b) (by omega)
    have hsplit := Nat.toDigits_append_toDigits h₁
      (Nat.div_pos (Nat.le_of_not_lt hn) (by omega) : 0 < n / b) hr
    rw [Nat.div_add_mod, Nat.toDigits_of_lt_base hr] at hsplit
    rw [← hsplit]
    constructor
    · unfold valueOf at hval ⊢
      rw [List.foldl_append, hval, List.foldl_cons, List.foldl_nil, hval', Nat.div_add_mod]
    · intro c hc
      rcases List.mem_append.mp hc with hc | hc
      · exact hhex c hc
      · rw [List.mem_singleton.mp hc]
        exact hhex'

theorem map_valueOf {b : Nat} (h₁ : 1 < b) (h₂ : b ≤ 16) (ns : List Nat) :
    (ns.map (Nat.toDigits b)).map (valueOf b) = ns := by
  rw [List.map_map]
  exact (List.map_congr_left fun n _ => (toDigits_spec h₁ h₂ n).1).trans (List.map_id ns)

theorem digitsOf_length (b k n : Nat) : (digitsOf b k n).length = k := by
  induction k generalizing n with
  | zero => rfl
  | succ k ih => simp [digitsOf, ih]

theorem digitsOf_lt {b : Nat} (hb : 0 < b) (k n : Nat) : ∀ d ∈ digitsOf b k n, d < b := by
  induction k generalizing n with
  | zero => simp [digitsOf]
  | succ k ih =>
    intro d hd
    rcases List.mem_append.mp hd with hd | hd
    · exact ih _ d hd
    · rw [List.mem_singleton.mp hd]
      exact Nat.mod_lt _ hb

def ofDigits (b : Nat) (ds : List Nat) : Nat := ds.foldl (fun n d => b * n + d) 0

theorem ofDigits_digitsOf {b k n : Nat} (h : n < b ^ k) : ofDigits b (digitsOf b k n) = n := by
  induction k generalizing n with
  | zero =>
    rw [Nat.pow_zero] at h
    exact (Nat.lt_one_iff.mp h).symm
  | succ k ih =>
    rw [Nat.pow_succ'] at h
    have hhigh := ih (Nat.div_lt_of_lt_mul h)
    unfold ofDigits at hhigh ⊢
    rw [digitsOf, List.foldl_append, hhigh, List.foldl_cons, List.foldl_nil, Nat.div_add_mod]

theorem digitsOf_inj {b k m n : Nat} (hm : m < b ^ k) (hn : n < b ^ k)
    (h : digitsOf b k m = digitsOf b k n) : m = n := by
  rw [← ofDigits_digitsOf hm, h, ofDigits_digitsOf hn]

-- ── the canonical text

/-- The first of the longest runs of zeros, of two at least: where it starts, and its length. -/
def zeroRun (gs : List Nat) : Nat × Nat :=
  (List.range gs.length).foldl (fun best i =>
    let l := ((gs.drop i).takeWhile (· == 0)).length
    if 2 ≤ l ∧ best.2 < l then (i, l) else best) (0, 0)

/-- The groups on one side of a run; none leave an empty piece. -/
def side (gs : List Nat) : List (List Char) :=
  if gs = [] then [[]] else gs.map (Nat.toDigits 16)

def pieces6 (gs : List Nat) : List (List Char) :=
  let run := zeroRun gs
  if run.2 = 0 then gs.map (Nat.toDigits 16)
  else side (gs.take run.1) ++ [] :: side (gs.drop (run.1 + run.2))

def pieces (a : Addr) : List (List Char) :=
  if is4In6 a then (digitsOf 256 4 (a.toNat % 2 ^ 32)).map (Nat.toDigits 10)
  else pieces6 (digitsOf 65536 8 a.toNat)

/-- `net.IP.String`: dotted decimal, or groups with the longest run of zeros left out. -/
def text (a : Addr) : List Char := [if is4In6 a then '.' else ':'].intercalate (pieces a)

theorem zeroRun_spec (gs : List Nat) : gs = gs.take (zeroRun gs).1 ++
    (List.replicate (zeroRun gs).2 0 ++ gs.drop ((zeroRun gs).1 + (zeroRun gs).2)) := by
  unfold zeroRun
  refine List.foldlRecOn (motive := fun r : Nat × Nat => gs = gs.take r.1 ++
    (List.replicate r.2 0 ++ gs.drop (r.1 + r.2))) _ _ (by simp) fun best hbest i _ => ?_
  dsimp only
  split
  · have hzeros : (gs.drop i).takeWhile (· == 0) =
        List.replicate ((gs.drop i).takeWhile (· == 0)).length 0 :=
      List.eq_replicate_of_mem fun n hn => by simpa using List.mem_takeWhile_imp hn
    have hrest : (gs.drop i).dropWhile (· == 0) =
        gs.drop (i + ((gs.drop i).takeWhile (· == 0)).length) := by
      rw [← List.drop_drop]
      conv_rhs => rw [← List.takeWhile_append_dropWhile (p := (· == 0)) (l := gs.drop i)]
      rw [List.drop_left' (by simp)]
    rw [← hzeros, ← hrest, List.takeWhile_append_dropWhile, List.take_append_drop]
  · exact hbest

/-- The groups that the pieces of an IPv6 text stand for. -/
def expand (k : Nat) (ps : List (List Char)) : List Nat :=
  let before := (ps.takeWhile (· ≠ [])).map (valueOf 16)
  let after := ((ps.reverse.takeWhile (· ≠ [])).reverse).map (valueOf 16)
  if [] ∈ ps then before ++ (List.replicate (k - before.length - after.length) 0 ++ after)
  else ps.map (valueOf 16)

theorem takeWhile_pieces (ns : List Nat) (r : List (List Char)) :
    (ns.map (Nat.toDigits 16) ++ [] :: r).takeWhile (· ≠ []) = ns.map (Nat.toDigits 16) := by
  rw [List.takeWhile_append_of_pos]
  · simp
  · intro p hp
    obtain ⟨n, -, rfl⟩ := List.mem_map.mp hp
    simp [Nat.toDigits_ne_nil]

theorem side_takeWhile (gs : List Nat) (r : List (List Char)) :
    (side gs ++ [] :: r).takeWhile (· ≠ []) = gs.map (Nat.toDigits 16) ∧
    ((side gs).reverse ++ [] :: r).takeWhile (· ≠ []) = (gs.map (Nat.toDigits 16)).reverse := by
  unfold side
  split
  · rename_i h
    simp [h]
  · rw [← List.map_reverse]
    exact ⟨takeWhile_pieces gs r, takeWhile_pieces gs.reverse r⟩

/-- **COMPRESSED TEXTS EXPAND** to the groups they were made from. -/
theorem expand_pieces6 (gs : List Nat) : expand gs.length (pieces6 gs) = gs := by
  have hrun := zeroRun_spec gs
  unfold pieces6 expand
  generalize zeroRun gs = run at hrun ⊢
  dsimp only
  split
  · rw [if_neg]
    · exact map_valueOf (by decide) (by decide) gs
    · intro hmem
      obtain ⟨n, -, hnil⟩ := List.mem_map.mp hmem
      exact Nat.toDigits_ne_nil hnil
  · rw [if_pos (by simp), (side_takeWhile _ _).1, List.reverse_append, List.reverse_cons,
      List.append_assoc, List.singleton_append, (side_takeWhile _ _).2, List.reverse_reverse,
      map_valueOf (by decide) (by decide), map_valueOf (by decide) (by decide)]
    have hlen := congrArg List.length hrun
    rw [List.length_append, List.length_append, List.length_replicate] at hlen
    rw [show gs.length - (gs.take run.1).length - (gs.drop (run.1 + run.2)).length = run.2 by omega]
    exact hrun.symm

variable {a b : Addr}

theorem pieces_spec (a : Addr) :
    1 < (pieces a).length ∧ ∀ p ∈ pieces a, ∀ c ∈ p, hexChar c = true := by
  have hmap : ∀ (b : Nat) (ns : List Nat), 1 < b → b ≤ 16 →
      ∀ p ∈ ns.map (Nat.toDigits b), ∀ c ∈ p, hexChar c = true := by
    intro b ns h₁ h₂ p hp
    obtain ⟨n, -, rfl⟩ := List.mem_map.mp hp
    exact (toDigits_spec h₁ h₂ n).2
  have hside : ∀ gs, ∀ p ∈ side gs, ∀ c ∈ p, hexChar c = true := by
    intro gs
    unfold side
    split
    · simp
    · exact hmap 16 gs (by decide) (by decide)
  unfold pieces pieces6
  dsimp only
  split
  · exact ⟨by simp [digitsOf_length], hmap 10 _ (by decide) (by decide)⟩
  split
  · exact ⟨by simp [digitsOf_length], hmap 16 _ (by decide) (by decide)⟩
  · refine ⟨?_, fun p hp => ?_⟩
    · have hpos : ∀ gs, 0 < (side gs).length := by
        intro gs
        unfold side
        split
        · decide
        · rename_i hne
          simpa [List.length_pos_iff] using hne
      have := hpos ((digitsOf 65536 8 a.toNat).take (zeroRun (digitsOf 65536 8 a.toNat)).1)
      rw [List.length_append, List.length_cons]
      omega
    rcases List.mem_append.mp hp with hp | hp
    · exact hside _ p hp
    rcases List.mem_cons.mp hp with rfl | hp
    · simp
    · exact hside _ p hp

theorem pieces_families (ns : List Nat) (hns : ns.length = 4) (n : Nat) :
    ns.map (Nat.toDigits 10) ≠ pieces6 (digitsOf 65536 8 n) := by
  intro h
  unfold pieces6 at h
  dsimp only at h
  split at h
  · have hlen := congrArg List.length h
    rw [List.length_map, List.length_map, digitsOf_length] at hlen
    omega
  · have hmem : [] ∈ ns.map (Nat.toDigits 10) := by
      rw [h]
      simp
    obtain ⟨m, -, hnil⟩ := List.mem_map.mp hmem
    exact Nat.toDigits_ne_nil hnil

theorem pieces_inj (h : pieces a = pieces b) : a = b := by
  unfold pieces at h
  by_cases ha : is4In6 a = true
  · by_cases hb : is4In6 b = true
    · rw [if_pos ha, if_pos hb] at h
      have hbytes := congrArg (List.map (valueOf 10)) h
      rw [map_valueOf (by decide) (by decide), map_valueOf (by decide) (by decide)] at hbytes
      have hlow := digitsOf_inj (by omega) (by omega) hbytes
      have hhigh : ∀ {x : Addr}, is4In6 x = true → x.toNat / 2 ^ 32 = 65535 := by
        intro x hx
        have hx := congrArg BitVec.toNat (eq_of_beq hx)
        rw [BitVec.extractLsb'_toNat, Nat.shiftRight_eq_div_pow] at hx
        have := x.isLt
        simp at hx
        omega
      have := hhigh ha
      have := hhigh hb
      exact BitVec.eq_of_toNat_eq (by omega)
    · rw [if_pos ha, if_neg hb] at h
      exact absurd h (pieces_families _ (digitsOf_length ..) _)
  · by_cases hb : is4In6 b = true
    · rw [if_neg ha, if_pos hb] at h
      exact absurd h.symm (pieces_families _ (digitsOf_length ..) _)
    · rw [if_neg ha, if_neg hb] at h
      have hexpand := congrArg (expand 8) h
      have hgroups := fun n => expand_pieces6 (digitsOf 65536 8 n)
      simp only [digitsOf_length] at hgroups
      rw [hgroups, hgroups] at hexpand
      exact BitVec.eq_of_toNat_eq (digitsOf_inj (lt_of_lt_of_eq a.isLt (by decide))
        (lt_of_lt_of_eq b.isLt (by decide)) hexpand)

theorem hexEncode_spec (a : Addr) : (hexEncode a).toList.map digitVal = digitsOf 16 32 a.toNat ∧
    ∀ c ∈ (hexEncode a).toList, hexChar c = true := by
  have hlt := digitsOf_lt (b := 16) (by decide) 32 a.toNat
  unfold hexEncode
  rw [String.toList_ofList, List.map_map]
  constructor
  · exact (List.map_congr_left fun d hd => (digit_facts d (hlt d hd)).1).trans (List.map_id _)
  · intro c hc
    obtain ⟨d, hd, rfl⟩ := List.mem_map.mp hc
    exact (digit_facts d (hlt d hd)).2

-- ── the escaped text

theorem hexChar_facts {c : Char} (h : hexChar c = true) :
    c ≠ '.' ∧ c ≠ ':' ∧ c ≠ '-' ∧ c ≠ 'x' ∧ (c.isDigit || c.isLower) = true := by
  obtain ⟨d, hd, hc⟩ := List.any_eq_true.mp h
  have hall : ∀ d < 16, Nat.digitChar d ≠ '.' ∧ Nat.digitChar d ≠ ':' ∧ Nat.digitChar d ≠ '-' ∧
      Nat.digitChar d ≠ 'x' ∧ ((Nat.digitChar d).isDigit || (Nat.digitChar d).isLower) = true := by
    decide
  rw [← eq_of_beq hc]
  exact hall d (List.mem_range.mp hd)

theorem intercalate_cons {s : Char} {p q : List Char} {ps : List (List Char)} :
    [s].intercalate (p :: q :: ps) = p ++ s :: [s].intercalate (q :: ps) := by
  simp [List.intercalate]

theorem map_intercalate (f : Char → Char) (s : Char) (ps : List (List Char)) :
    ([s].intercalate ps).map f = [f s].intercalate (ps.map (List.map f)) := by
  induction ps with
  | nil => rfl
  | cons p ps ih =>
    cases ps with
    | nil => simp [List.intercalate]
    | cons q ps =>
      rw [intercalate_cons, List.map_append, List.map_cons, ih]
      exact intercalate_cons.symm

theorem intercalate_chars {s : Char} {P : Char → Prop} {ps : List (List Char)} (hs : P s)
    (h : ∀ p ∈ ps, ∀ c ∈ p, P c) : ∀ c ∈ [s].intercalate ps, P c := by
  induction ps with
  | nil => simp [List.intercalate]
  | cons p ps ih =>
    have hp := h p (.head _)
    have hps := ih fun q hq => h q (.tail _ hq)
    cases ps with
    | nil => simpa [List.intercalate] using hp
    | cons q ps =>
      intro c hc
      rw [intercalate_cons] at hc
      rcases List.mem_append.mp hc with hc | hc
      · exact hp c hc
      rcases List.mem_cons.mp hc with rfl | hc
      · exact hs
      · exact hps c hc

theorem intercalate_edges {s : Char} {ps : List (List Char)} (hps : ps ≠ [])
    (h : ∀ p ∈ ps, p ≠ [] ∧ ∀ c ∈ p, hexChar c = true) : ∃ c l r d, [s].intercalate ps = c :: l ∧
      [s].intercalate ps = r ++ [d] ∧ hexChar c = true ∧ hexChar d = true := by
  induction ps with
  | nil => exact absurd rfl hps
  | cons p ps ih =>
    obtain ⟨hne, hhex⟩ := h p (.head _)
    obtain ⟨c, cs, rfl⟩ := List.exists_cons_of_ne_nil hne
    cases ps with
    | nil =>
      have hone : [s].intercalate [c :: cs] = c :: cs := by simp [List.intercalate]
      exact ⟨c, cs, _, _, hone, hone.trans (List.dropLast_append_getLast hne).symm,
        hhex c (.head _), hhex _ (List.getLast_mem hne)⟩
    | cons q ps =>
      obtain ⟨-, -, r, d, -, hr, -, hd⟩ := ih (List.cons_ne_nil _ _) fun p hp => h p (.tail _ hp)
      refine ⟨c, _, (c :: cs) ++ s :: r, d, intercalate_cons, ?_, hhex c (.head _), hd⟩
      rw [intercalate_cons, hr]
      simp

theorem pieces_split {s : Char} (hs : hexChar s = false) (a : Addr) :
    ([s].intercalate (pieces a)).splitOn s = pieces a :=
  List.splitOn_intercalate s
    (fun p hp hc => Bool.false_ne_true (hs.symm.trans ((pieces_spec a).2 p hp s hc)))
    (List.ne_nil_of_length_pos (Nat.lt_of_succ_lt (pieces_spec a).1))

/-- The texts of the Go library: `net.IP.String`, and `netip.ParseAddr` reads it. -/
structure Texts extends toStore : CozyClaimStore.Texts where
  ipString_eq : ∀ a, ipString a = String.ofList (text a)
  parseAddr6_text : ∀ a, is4In6 a = false → parseAddr6 (ipString a) = some a

/-- The address of a canonical IPv6 text. -/
def readText6 (s : String) : Addr :=
  BitVec.ofNat 128 (ofDigits 65536 (expand 8 (s.toList.splitOn ':')))

/-- The address of a canonical text: an IPv4 one has dots, and the mapped prefix. -/
def readText (s : String) : Addr :=
  if '.' ∈ s.toList then
    BitVec.ofNat 128 (0xffff * 2 ^ 32 + ofDigits 256 ((s.toList.splitOn '.').map (valueOf 10)))
  else readText6 s

/-- A reader of canonical texts, which meets the law. -/
def canonicalTexts : Texts where
  parseCIDR _ := none
  ipString a := String.ofList (text a)
  parseIP s := some (readText s)
  parseAddr6 s := some (readText6 s)
  parseMAC s := if s = "02:00:00:00:00:01" then some [2, 0, 0, 0, 0, 1] else none
  reserved _ := false
  ipString_eq _ := rfl
  parseAddr6_text a h := by
    have hgroups := expand_pieces6 (digitsOf 65536 8 a.toNat)
    rw [digitsOf_length] at hgroups
    have hfam : ¬is4In6 a = true := by simp [h]
    rw [readText6, String.toList_ofList, text, if_neg hfam, pieces_split (by decide) a, pieces, if_neg hfam,
      hgroups, ofDigits_digitsOf (lt_of_lt_of_eq a.isLt (by decide)), BitVec.ofNat_toNat,
      BitVec.setWidth_eq]

def escaped (X : Texts) (a : Addr) : List Char := (escapeIP X.toNames (X.ipString a)).toList

theorem escaped_cases (X : Texts) (a : Addr) :
    (escaped X a = ['-'].intercalate (pieces a) ∧ (escaped X a).head? ≠ some '-' ∧
      (escaped X a).getLast? ≠ some '-') ∨ escaped X a = 'x' :: (hexEncode a).toList := by
  have hmap : ((X.ipString a).map fun c => if c = '.' ∨ c = ':' then '-' else c).toList =
      ['-'].intercalate (pieces a) := by
    rw [X.ipString_eq, String.toList_map, String.toList_ofList]
    unfold text
    rw [map_intercalate]
    congr 1
    · cases is4In6 a <;> rfl
    · refine (List.map_congr_left fun p hp => ?_).trans (List.map_id _)
      refine (List.map_congr_left fun c hc => ?_).trans (List.map_id _)
      obtain ⟨hdot, hcolon, -⟩ := hexChar_facts ((pieces_spec a).2 p hp c hc)
      rw [if_neg (not_or.mpr ⟨hdot, hcolon⟩)]
      rfl
  unfold escaped escapeIP
  dsimp only
  split
  · rename_i hedge
    rw [hmap] at hedge
    have hfam : is4In6 a = false := by
      by_contra h4
      have h4 := Bool.eq_true_of_not_eq_false h4
      have hdigits := (pieces_spec a).2
      unfold pieces at hedge hdigits
      rw [if_pos h4] at hedge hdigits
      obtain ⟨c, l, r, d, hc, hd, hhc, hhd⟩ := intercalate_edges (s := '-')
        (List.ne_nil_of_length_pos (by simp [digitsOf])) fun p hp => ⟨by
          obtain ⟨n, -, rfl⟩ := List.mem_map.mp hp
          exact Nat.toDigits_ne_nil, hdigits p hp⟩
      rcases hedge with hedge | hedge
      · rw [hc] at hedge
        exact (hexChar_facts hhc).2.2.1 (Option.some.inj hedge)
      · rw [hd, List.getLast?_concat] at hedge
        exact (hexChar_facts hhd).2.2.1 (Option.some.inj hedge)
    rw [X.parseAddr6_text a hfam]
    exact .inr (by simp)
  · rename_i hedge
    exact .inl ⟨hmap, not_or.mp hedge⟩

/-- **AN ADDRESS IS KNOWN BY ITS ESCAPED TEXT.** -/
theorem escaped_inj (X : Texts) (h : escaped X a = escaped X b) : a = b := by
  have hdash : ∀ a : Addr, ∀ l, ['-'].intercalate (pieces a) ≠ 'x' :: l := by
    intro a l heq
    have hx := intercalate_chars (s := '-') (P := fun c => c ≠ 'x') (by decide)
      (fun p hp c hc => (hexChar_facts ((pieces_spec a).2 p hp c hc)).2.2.2.1) 'x'
      (by rw [heq]; exact .head _)
    exact hx rfl
  rcases escaped_cases X a with ⟨ha, -⟩ | ha
  · rcases escaped_cases X b with ⟨hb, -⟩ | hb
    · rw [ha, hb] at h
      refine pieces_inj ?_
      rw [← pieces_split (s := '-') (by decide) a, h, pieces_split (by decide) b]
    · exact absurd ((ha.symm.trans h).trans hb) (hdash a _)
  · rcases escaped_cases X b with ⟨hb, -⟩ | hb
    · exact absurd ((hb.symm.trans h.symm).trans ha) (hdash b _)
    · rw [ha, hb] at h
      have hval := congrArg (List.map digitVal) (List.cons.inj h).2
      rw [(hexEncode_spec a).1, (hexEncode_spec b).1] at hval
      exact BitVec.eq_of_toNat_eq (digitsOf_inj (lt_of_lt_of_eq a.isLt (by decide))
        (lt_of_lt_of_eq b.isLt (by decide)) hval)

-- ── names

/-- The text of a VNI: a sign where it is negative, and digits. -/
theorem vniText_spec (vni : Int) : valueOf 10 (toString vni).toList = vni.natAbs ∧
    ('-' ∈ (toString vni).toList ↔ vni < 0) ∧ ∃ sign ds, (toString vni).toList = sign ++ ds ∧
      (∀ c ∈ sign, c = '-') ∧ ds ≠ [] ∧ ∀ c ∈ ds, hexChar c = true := by
  have hdigits := toDigits_spec (b := 10) (by decide) (by decide)
  cases vni with
  | ofNat n =>
    have htext : (toString (Int.ofNat n)).toList = Nat.toDigits 10 n := Nat.toList_repr
    rw [htext]
    refine ⟨(hdigits n).1, ?_, [], _, rfl, by simp, Nat.toDigits_ne_nil, (hdigits n).2⟩
    exact ⟨fun h => absurd rfl (hexChar_facts ((hdigits n).2 _ h)).2.2.1,
      fun h => absurd h (Int.not_lt.mpr (Int.natCast_nonneg n))⟩
  | negSucc n =>
    have htext : (toString (Int.negSucc n)).toList = '-' :: Nat.toDigits 10 (n + 1) := by
      show (Int.repr (Int.negSucc n)).toList = _
      simp [Int.repr]
    rw [htext]
    exact ⟨(hdigits (n + 1)).1, by simp, ['-'], _, rfl, by simp, Nat.toDigits_ne_nil,
      (hdigits (n + 1)).2⟩

theorem dot_notMem_vniText (vni : Int) : '.' ∉ (toString vni).toList := by
  obtain ⟨-, -, sign, ds, htext, hsign, -, hds⟩ := vniText_spec vni
  rw [htext]
  intro hmem
  rcases List.mem_append.mp hmem with hmem | hmem
  · cases hsign _ hmem
  · exact (hexChar_facts (hds _ hmem)).1 rfl

def kindText : Kind → String
  | .port => claimPrefixPort
  | .vip => claimPrefixServiceVIP

/-- `PortName` and `ServiceVIPName` of an address. -/
def nameOf (X : Texts) : Kind → Int → Addr → String
  | .port, vni, a => portName X.toNames vni (X.ipString a)
  | .vip, vni, a => serviceVIPName X.toStore vni (X.ipString a)

theorem nameOf_toList (X : Texts) (kind : Kind) (vni : Int) (a : Addr) :
    (nameOf X kind vni a).toList = (kindText kind).toList ++ ((toString vni).toList ++ '.' :: escaped X a) := by
  cases kind with
  | port | vip => simp [nameOf, portName, serviceVIPName, kindText, claimPrefixPort,
      claimPrefixServiceVIP, escaped]

/-- A label of an object name. -/
def Label (l : List Char) : Prop :=
  l ≠ [] ∧ (∀ c ∈ l, (c.isDigit || c.isLower) = true ∨ c = '-') ∧ l.head? ≠ some '-' ∧
    l.getLast? ≠ some '-'

theorem label_of_hex {c : Char} {l ds : List Char} (hc : c.isLower = true ∧ c ≠ '-') (hds : ds ≠ [])
    (hl : ∀ d ∈ l, d.isLower = true ∨ d = '-') (h : ∀ d ∈ ds, hexChar d = true) :
    Label (c :: (l ++ ds)) := by
  have hlast := List.dropLast_append_getLast hds
  refine ⟨by simp, fun d hd => ?_, fun heq => hc.2 (Option.some.inj heq), fun heq => ?_⟩
  · rcases List.mem_cons.mp hd with rfl | hd
    · exact .inl (by rw [hc.1, Bool.or_true])
    rcases List.mem_append.mp hd with hd | hd
    · exact (hl d hd).imp_left fun h => by rw [h, Bool.or_true]
    · exact .inl (hexChar_facts (h d hd)).2.2.2.2
  · rw [← hlast, ← List.append_assoc, ← List.cons_append, List.getLast?_concat] at heq
    exact (hexChar_facts (h _ (List.getLast_mem hds))).2.2.1 (Option.some.inj heq)

theorem escaped_label (X : Texts) (a : Addr) : Label (escaped X a) ∧ '.' ∉ escaped X a := by
  rcases escaped_cases X a with ⟨ha, hhead, hlast⟩ | ha
  · have hchars : ∀ c ∈ escaped X a, ((c.isDigit || c.isLower) = true ∨ c = '-') ∧ c ≠ '.' := by
      rw [ha]
      refine intercalate_chars ⟨.inr rfl, by decide⟩ fun p hp c hc => ?_
      obtain ⟨hdot, -, -, -, hlow⟩ := hexChar_facts ((pieces_spec a).2 p hp c hc)
      exact ⟨.inl hlow, hdot⟩
    refine ⟨⟨fun hnil => ?_, fun c hc => (hchars c hc).1, hhead, hlast⟩,
      fun hmem => (hchars _ hmem).2 rfl⟩
    have hlen := (pieces_spec a).1
    rw [← pieces_split (s := '-') (by decide) a, ← ha, hnil] at hlen
    simp at hlen
  · obtain ⟨hval, hhex⟩ := hexEncode_spec a
    have hne : (hexEncode a).toList ≠ [] := by
      intro hnil
      have hlen := congrArg List.length hval
      rw [hnil, digitsOf_length] at hlen
      cases hlen
    rw [ha]
    generalize (hexEncode a).toList = ds at hhex hne
    refine ⟨label_of_hex (l := []) ⟨rfl, by decide⟩ hne (by simp) hhex, fun hmem => ?_⟩
    rcases List.mem_cons.mp hmem with heq | hmem
    · cases heq
    · exact (hexChar_facts (hhex _ hmem)).1 rfl

theorem nameOf_split (X : Texts) (kind : Kind) (vni : Int) (a : Addr) :
    (nameOf X kind vni a).toList.splitOn '.' =
      [(kindText kind).toList ++ (toString vni).toList, escaped X a] := by
  rw [nameOf_toList]
  refine Eq.trans (congrArg (List.splitOn '.') ?_) (List.splitOn_intercalate '.' ?_ (by simp))
  · simp [List.intercalate]
  intro l hl hmem
  rcases List.mem_cons.mp hl with rfl | hl
  · rcases List.mem_append.mp hmem with hmem | hmem
    · cases kind with
      | port | vip => simp [kindText, claimPrefixPort, claimPrefixServiceVIP] at hmem
    · exact dot_notMem_vniText vni hmem
  · rw [List.mem_singleton.mp hl] at hmem
    exact (escaped_label X a).2 hmem

theorem nameOf_labels (X : Texts) (kind : Kind) (vni : Int) (a : Addr) :
    ∀ l ∈ (nameOf X kind vni a).toList.splitOn '.', Label l := by
  intro l hl
  rw [nameOf_split] at hl
  rcases List.mem_cons.mp hl with rfl | hl
  · obtain ⟨-, -, sign, ds, htext, hsign, hne, hds⟩ := vniText_spec vni
    rw [htext]
    cases kind with
    | port =>
      exact label_of_hex (l := sign) ⟨rfl, by decide⟩ hne (fun d hd => .inr (hsign d hd)) hds
    | vip =>
      refine label_of_hex (l := 'v' :: sign) ⟨rfl, by decide⟩ hne (fun d hd => ?_) hds
      rcases List.mem_cons.mp hd with rfl | hd
      · exact .inl rfl
      · exact .inr (hsign d hd)
  · rw [List.mem_singleton.mp hl]
    exact (escaped_label X a).1

theorem nameOf_inj (X : Texts) (kind : Kind) {vni vni' : Int}
    (h : nameOf X kind vni a = nameOf X kind vni' b) : vni = vni' ∧ a = b := by
  have hlabels := congrArg (fun n => n.toList.splitOn '.') h
  rw [nameOf_split, nameOf_split] at hlabels
  obtain ⟨hvni, hesc⟩ := List.cons.inj hlabels
  have htext := List.append_cancel_left hvni
  obtain ⟨hval, hneg, -⟩ := vniText_spec vni
  obtain ⟨hval', hneg', -⟩ := vniText_spec vni'
  rw [htext] at hval hneg
  have hsign := hneg.symm.trans hneg'
  exact ⟨by omega, escaped_inj X (List.singleton_inj.mp hesc)⟩

theorem parseClaim_nameOf (X : Texts) (kind : Kind) {vni : Int} (a : Addr) (h₁ : 100 ≤ vni)
    (h₂ : vni ≤ 4194303) : parseClaim (kindText kind) (nameOf X kind vni a) =
      some (vni, escapeIP X.toNames (X.ipString a)) := by
  have hdrop : ∀ l r : List Char, (l ++ r).dropPrefix? l = some r := by
    intro l r
    induction l with
    | nil => simp
    | cons c l ih => simpa [List.dropPrefix?] using ih
  obtain ⟨-, -, sign, ds, htext, -, hds, -⟩ := vniText_spec vni
  have hne : (toString vni).toList ≠ [] := by
    rw [htext]
    exact fun h => hds (List.append_eq_nil_iff.mp h).2
  have hdot : ∀ c ∈ (toString vni).toList, decide (c ≠ '.') = true := fun c hc =>
    decide_eq_true fun h => dot_notMem_vniText vni (h ▸ hc)
  have hcut : cutDot ((toString vni).toList ++ '.' :: escaped X a) =
      some ((toString vni).toList, escaped X a) := by
    unfold cutDot
    rw [List.dropWhile_append_of_pos hdot, List.takeWhile_append_of_pos hdot]
    simp
  unfold parseClaim
  rw [nameOf_toList, hdrop]
  simp only [hcut, hne, (escaped_label X a).1.1, or_self, if_false,
    parseInt32_toString (v := vni) (by omega) (by omega)]
  rw [if_neg (by omega), escaped, String.ofList_toList]

/-- **CLAIM NAMES IDENTIFY ADDRESSES.** `parseClaim` gives the VNI and the escaped text back, that
    text determines the address, every label is one of an object name, names are injective, and an
    accepted Port is named after exactly one VNI and address. -/
theorem claim_names (X : Texts) :
    (∀ kind vni a, 100 ≤ vni → vni ≤ 4194303 → parseClaim (kindText kind) (nameOf X kind vni a) =
      some (vni, escapeIP X.toNames (X.ipString a))) ∧
    (∃ recover : String → Addr, ∀ a, recover (escapeIP X.toNames (X.ipString a)) = a) ∧
    (∀ kind vni a, ∀ l ∈ (nameOf X kind vni a).toList.splitOn '.', Label l) ∧
    (∀ kind vni vni' a b, nameOf X kind vni a = nameOf X kind vni' b → vni = vni' ∧ a = b) ∧
    ∀ p : Port, p.validate X.toStore = [] →
      ∃! claim : Int × Addr, p.name = nameOf X .port claim.1 claim.2 := by
  have hinj : Function.Injective fun a => escapeIP X.toNames (X.ipString a) := fun a b h =>
    escaped_inj X (congrArg String.toList h)
  refine ⟨fun kind _ a => parseClaim_nameOf X kind a, hinj.hasLeftInverse, nameOf_labels X,
    fun kind _ _ _ _ => nameOf_inj X kind, fun p hp => ?_⟩
  obtain ⟨vni, a, -, hname, -, htext⟩ := validate_nil (o := .port p) hp
  rw [← htext] at hname
  refine ⟨(vni, a), hname, fun claim hclaim => ?_⟩
  obtain ⟨rfl, rfl⟩ := nameOf_inj X .port (hname.symm.trans hclaim)
  rfl

/-- The Port of a virtual machine's NIC at an address. -/
def nicPort (name ip : String) : Port :=
  ⟨name, "vm", "nic0", ⟨⟨"t", "net"⟩, ip, "02:00:00:00:00:01", "t"⟩, []⟩

example : (nicPort "v100.fd00--1-2" "fd00::1:2").validate canonicalTexts.toStore = [] ∧
    nameOf canonicalTexts .port 100 0xfd000000000000000000000000010002#128 = "v100.fd00--1-2" := by
  decide +kernel

example : (nicPort "v100.10-1-0-2" "10.1.0.2").validate canonicalTexts.toStore = [] ∧
    nameOf canonicalTexts .port 100 0xffff0a010002#128 = "v100.10-1-0-2" := by
  decide +kernel

end CozyClaimText
