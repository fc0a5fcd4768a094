/-
# The fragment of the last upstream release

`validateLegacySambaSharesConfig` of `service/samba_legacy_config.go` accepts a Samba fragment as the
one the last upstream release wrote for the rows of the database. That release wrote the rows in no
fixed order, so the fragment is cut into stanzas against a map from stanza to the number of rows that
still need it. The map is given here by the stanzas that are left, each as often as it is counted, and
`range n keys` is the order in which Go's `n`-th iteration over it yields its keys.
-/
import ReCasaOS.Samba.ConfigDirectory
import ReCasaOS.Lib.Result

namespace ReCasaOS.Samba

open Lib FileSecurity List

/-! ## 1. Stanzas -/

/-- A row of `o_shares`, as far as it is read here. -/
structure SharesDBModel where
  id : Nat
  path : Bytes

def maxManagedSambaShares : Nat := 256

def SharesDBModel.invalid (share : SharesDBModel) : Bool :=
  share.path = [] || 4096 < share.path.length || !validString share.path

/-- The lines of `legacySambaShareStanza`, without the last line break. -/
def legacyLines (name path : Bytes) : List Bytes :=
  [[], utf8 "[" ++ name ++ utf8 "]", utf8 "comment = CasaOS share " ++ name, utf8 "public = Yes",
    utf8 "path = " ++ path, utf8 "browseable = Yes", utf8 "read only = No", utf8 "guest ok = Yes",
    utf8 "create mask = 0777", utf8 "directory mask = 0777", utf8 "force user = root", []]

def legacySambaShareStanza (name path : Bytes) : Bytes :=
  List.intercalate [10] (legacyLines name path) ++ [10]

def SharesDBModel.stanza (share : SharesDBModel) : Bytes :=
  legacySambaShareStanza (base share.path) share.path

/-- The stanza is still needed and comes next. -/
abbrev Fits (left : List Bytes) (rest stanza : Bytes) : Prop := stanza ∈ left ∧ stanza <+: rest

/-- The loop over the keys of the map. -/
def matchStanza (left : List Bytes) (rest : Bytes) :
    (keys : List Bytes) → (matched : Bytes) → Except OpError Bytes
  | [], matched => pure matched
  | stanza :: keys, matched =>
    if ¬ Fits left rest stanza then matchStanza left rest keys matched
    else if matched ≠ [] ∧ matched ≠ stanza then
      .error (textError "legacy Samba fragment has an ambiguous stanza boundary")
    else matchStanza left rest keys stanza

/-- The loop over the fragment, of which `rest` is to be read; the result is what is left. -/
def consumeStanzas (range : Nat → List Bytes) (n : Nat) (left : List Bytes) (rest : Bytes) :
    Except OpError (List Bytes) :=
  if rest = [] then pure left
  else do
    let matched ← matchStanza left rest (range n) []
    if matched = [] then
      .error (textError "legacy Samba fragment contains an unknown or modified stanza")
    else consumeStanzas range (n + 1) (left.erase matched) (rest.drop matched.length)
termination_by rest.length
decreasing_by grind [List.length_pos_iff]

def validateLegacySambaSharesConfig (range : Nat → List Bytes → List Bytes)
    (shares : List SharesDBModel) (data : Bytes) : Except OpError Unit := do
  check (maxManagedSambaShares < shares.length) (textError "legacy Samba share count exceeds 256")
  check (maxSambaConfigBytes < data.length) (textError "legacy Samba fragment exceeds 4194304 bytes")
  -- the loop over the rows stops at the first invalid one
  let refused := shares.find? SharesDBModel.invalid
  check refused.isSome
    (textError s!"validate legacy Samba share {refused.elim 0 SharesDBModel.id}: invalid persisted path")
  let stanzas := shares.map SharesDBModel.stanza
  check (data.length ≠ (stanzas.map List.length).sum)
    (textError "legacy Samba fragment does not byte-match database paths")
  let left ← consumeStanzas (fun n => range n stanzas.dedup) 0 stanzas data
  check (left ≠ []) (textError "legacy Samba fragment is missing a database stanza")

/-! ## 2. One stanza after the other -/

section

variable {left keys : List Bytes} {rest matched s : Bytes} {range : Nat → List Bytes}

lemma matchStanza_eq_ok (hne : [] ∉ keys) : matchStanza left rest keys matched = .ok s ↔
    (∀ k ∈ keys, Fits left rest k → k = s) ∧ (matched ≠ [] → matched = s) ∧
      (s = matched ∨ s ∈ keys ∧ Fits left rest s) := by
  induction keys generalizing matched with
  | nil =>
    simp only [matchStanza, pure_eq_ok]
    grind
  | cons k keys ih =>
    unfold matchStanza
    split
    · grind
    · split
      · grind
      · grind

/-- The answer of one iteration does not depend on its order. -/
lemma matchStanza_order {keys' : List Bytes} (hp : keys.Perm keys') (hne : [] ∉ keys) :
    matchStanza left rest keys matched = matchStanza left rest keys' matched := by
  induction hp generalizing matched with
  | nil => rfl
  | cons k _ ih => simp only [matchStanza, ih (not_mem_of_not_mem_cons hne)]
  | swap a b keys =>
    simp only [matchStanza]
    grind
  | trans hp _ ih ih' => exact (ih hne).trans (ih' (mt hp.mem_iff.mpr hne))

/-! ## 3. The whole fragment -/

variable (hne : ∀ n, [] ∉ range n)
include hne

lemma consumeStanzas_order {range' : Nat → List Bytes} (hp : ∀ n, (range n).Perm (range' n)) (n : Nat) :
    consumeStanzas range n left rest = consumeStanzas range' n left rest := by
  fun_induction consumeStanzas range n left rest with
  | case1 => simp [consumeStanzas]
  | case2 n left rest hrest ih =>
    rw [consumeStanzas.eq_def range', if_neg hrest, matchStanza_order (hp n) (hne n)]
    congr 1
    funext matched
    split
    · rfl
    · exact ih matched ‹_›

/-- What is accepted is a concatenation of stanzas that were left. -/
lemma consumeStanzas_sound {n : Nat} {final : List Bytes}
    (h : consumeStanzas range n left rest = .ok final) :
    ∃ used : List Bytes, rest = used.flatten ∧ left.Perm (used ++ final) := by
  fun_induction consumeStanzas range n left rest with
  | case1 => exact ⟨[], rfl, by cases h; rfl⟩
  | case2 n left rest hrest ih =>
    obtain ⟨matched, hma, h⟩ := bind_eq_ok.mp h
    split at h
    · cases h
    next hmatched =>
      obtain ⟨-, hleft, tail, rfl⟩ := ((matchStanza_eq_ok (hne n)).mp hma).2.2.resolve_left hmatched
      obtain ⟨used, hused, hp⟩ := ih matched hmatched h
      rw [drop_left] at hused
      exact ⟨matched :: used, by rw [hused, flatten_cons],
        (perm_cons_erase hleft).trans (hp.cons matched)⟩

/-- Stanzas of which none continues another are found again. -/
lemma consumeStanzas_complete {used : List Bytes} (n : Nat) (hp : left.Perm used)
    (hkeys : ∀ n, ∀ s ∈ used, s ∈ range n)
    (hfree : ∀ r, ∀ a ∈ used, ∀ b ∈ used, a <+: r → b <+: r → a = b) :
    consumeStanzas range n left used.flatten = .ok [] := by
  induction used generalizing n left with
  | nil => simp [consumeStanzas, hp.eq_nil]
  | cons s used ih =>
    have hs : s ≠ [] := fun h => hne n (h ▸ hkeys n s (.head _))
    have hfit : Fits left (s :: used).flatten s := ⟨hp.mem_iff.mpr (.head _), by simp⟩
    have hma : matchStanza left (s :: used).flatten (range n) [] = .ok s := by
      refine (matchStanza_eq_ok (hne n)).mpr ⟨fun k _ hk => ?_, fun h => absurd rfl h,
        .inr ⟨hkeys n s (.head _), hfit⟩⟩
      exact hfree _ k (hp.mem_iff.mp hk.1) s (.head _) hk.2 hfit.2
    rw [consumeStanzas, if_neg (by simp [hs]), hma, ok_bind, if_neg hs, flatten_cons, drop_left]
    refine ih (n + 1) ?_ (fun n a ha => hkeys n a (.tail _ ha)) fun r a ha b hb =>
      hfree r a (.tail _ ha) b (.tail _ hb)
    simpa using hp.erase s

end

/-! ## 4. Paths without line breaks -/

lemma notMem_base {b : UInt8} {path : Bytes} (h : b ∉ path) (hdot : b ≠ 46) (hsl : b ≠ 47) :
    b ∉ base path := by
  simp only [base]
  split
  · simpa using hdot
  · split
    · simpa using hsl
    · rw [mem_reverse]
      intro hb
      have hstrip := (dropWhile_sublist _).mem ((takeWhile_sublist _).mem hb)
      exact h (mem_reverse.mp hstrip)

lemma splitByte_stanza {share : SharesDBModel} (h : 10 ∉ share.path) (tail : Bytes) :
    splitByte 10 (share.stanza ++ tail) =
      legacyLines (base share.path) share.path ++ splitByte 10 tail := by
  have hlines : ∀ line ∈ legacyLines (base share.path) share.path, 10 ∉ line := by
    simp [legacyLines, h, notMem_base h]
    decide
  have hnil : legacyLines (base share.path) share.path ≠ [] := cons_ne_nil _ _
  rw [SharesDBModel.stanza, legacySambaShareStanza, append_assoc, singleton_append,
    splitByte_append, splitByte_intercalate hnil hlines]

/-- Two stanzas at one place are the same, line by line. -/
lemma stanza_unique {a b : SharesDBModel} {r : Bytes} (ha : 10 ∉ a.path) (hb : 10 ∉ b.path)
    (har : a.stanza <+: r) (hbr : b.stanza <+: r) : a.stanza = b.stanza := by
  obtain ⟨x, rfl⟩ := har
  obtain ⟨y, hy⟩ := hbr
  have hsplit := congrArg (splitByte 10) hy
  rw [splitByte_stanza ha, splitByte_stanza hb] at hsplit
  exact congrArg (intercalate [10] · ++ [10]) (append_inj hsplit rfl).1.symm

/-! ## 5. Recognition -/

/-- The limits on the rows and the fragment. -/
def WithinLimits (shares : List SharesDBModel) (data : Bytes) : Prop :=
  shares.length ≤ maxManagedSambaShares ∧ data.length ≤ maxSambaConfigBytes ∧
    ∀ share ∈ shares, share.invalid = false

variable {range : Nat → List Bytes → List Bytes}

lemma validate_eq_ok {shares : List SharesDBModel} {data : Bytes} :
    validateLegacySambaSharesConfig range shares data = .ok () ↔ WithinLimits shares data ∧
      data.length = ((shares.map SharesDBModel.stanza).map length).sum ∧
      consumeStanzas (fun n => range n (shares.map SharesDBModel.stanza).dedup) 0
        (shares.map SharesDBModel.stanza) data = .ok [] := by
  simp [validateLegacySambaSharesConfig, WithinLimits, bind_eq_ok, and_assoc]

/-- **The fragment of the rows is recognised.** What is accepted is within the limits and a
concatenation of the rows' stanzas in some order, each as often as there are rows for it; every such
concatenation is accepted if no path has a line break; and the answer does not depend on the orders in
which the map is iterated. -/
theorem legacy_fragment_recognised (hrange : ∀ n keys, (range n keys).Perm keys)
    (shares : List SharesDBModel) (data : Bytes) :
    (validateLegacySambaSharesConfig range shares data = .ok () → WithinLimits shares data ∧
      ∃ stanzas : List Bytes, stanzas.Perm (shares.map SharesDBModel.stanza) ∧ data = stanzas.flatten) ∧
    (WithinLimits shares data → (∀ share ∈ shares, 10 ∉ share.path) →
      ∀ stanzas : List Bytes, stanzas.Perm (shares.map SharesDBModel.stanza) → data = stanzas.flatten →
        validateLegacySambaSharesConfig range shares data = .ok ()) ∧
    ∀ range' : Nat → List Bytes → List Bytes, (∀ n keys, (range' n keys).Perm keys) →
      validateLegacySambaSharesConfig range shares data =
        validateLegacySambaSharesConfig range' shares data := by
  have hkeys : ∀ n s, s ∈ range n (shares.map SharesDBModel.stanza).dedup ↔
      s ∈ shares.map SharesDBModel.stanza := by
    intro n s
    rw [(hrange n _).mem_iff, mem_dedup]
  have hne : ∀ n, [] ∉ range n (shares.map SharesDBModel.stanza).dedup := by
    simp [hkeys, SharesDBModel.stanza, legacySambaShareStanza]
  rw [validate_eq_ok]
  refine ⟨fun ⟨hlim, _, hrun⟩ => ⟨hlim, ?_⟩, fun hlim hpaths stanzas hp hdata => ⟨hlim, ?_, ?_⟩,
    fun range' hrange' => ?_⟩
  · obtain ⟨used, hused, hp⟩ := consumeStanzas_sound hne hrun
    exact ⟨used, (append_nil used ▸ hp).symm, hused⟩
  · rw [hdata, length_flatten, (hp.map length).sum_eq]
  · rw [hdata]
    refine consumeStanzas_complete hne 0 hp.symm (fun n s hs => (hkeys n s).mpr (hp.mem_iff.mp hs)) ?_
    intro r a ha b hb
    obtain ⟨x, hx, rfl⟩ := mem_map.mp (hp.mem_iff.mp ha)
    obtain ⟨y, hy, rfl⟩ := mem_map.mp (hp.mem_iff.mp hb)
    exact stanza_unique (hpaths x hx) (hpaths y hy)
  · simp only [validateLegacySambaSharesConfig]
    rw [consumeStanzas_order hne fun n => (hrange n _).trans (hrange' n _).symm]

/-- Two rows, found in the other order. -/
theorem swapped_stanzas_recognised : validateLegacySambaSharesConfig (fun _ keys => keys.reverse)
    [⟨1, [47, 97]⟩, ⟨2, [47, 98]⟩] [SharesDBModel.stanza ⟨2, [47, 98]⟩,
      SharesDBModel.stanza ⟨1, [47, 97]⟩].flatten = .ok () :=
  (legacy_fragment_recognised (fun _ keys => keys.reverse_perm) _ _).2.1
    ⟨by decide, by decide +kernel, by decide⟩ (by decide) _ (.swap _ _ _) rfl

end ReCasaOS.Samba
