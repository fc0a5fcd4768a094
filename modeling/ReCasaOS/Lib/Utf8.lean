/-
# UTF-8, as the Go standard library decodes it

`decodeRune` is `utf8.DecodeRune`, with the accept ranges of `unicode/utf8`: overlong forms,
surrogates and values above `U+10FFFF` are refused. Go answers a bad byte with the pair
`(RuneError, 1)`; here a bad byte is `none`, and `runes` skips one byte for it, so a `range`
loop over a string sees the list `runes s`.
-/
import ReCasaOS.Lib.Bytes

namespace ReCasaOS.Lib

open List Option

variable {s : Bytes}

/-- A continuation byte `10xxxxxx`. -/
def isContinuation (b : UInt8) : Bool := decide (0x80 ≤ b) && decide (b ≤ 0xBF)

/-- The least second byte after a three- or four-byte lead (`acceptRanges`). -/
def secondByteLo (b0 : UInt8) : UInt8 :=
  if b0 = 0xE0 then 0xA0 else if b0 = 0xF0 then 0x90 else 0x80

/-- The greatest second byte after a three- or four-byte lead. -/
def secondByteHi (b0 : UInt8) : UInt8 :=
  if b0 = 0xED then 0x9F else if b0 = 0xF4 then 0x8F else 0xBF

/-- The six payload bits of a continuation byte. -/
def payload (b : UInt8) : Nat := b.toNat % 64

/-- `utf8.DecodeRune`: the first rune and its width, or `none` where Go answers
`(RuneError, 1)`. -/
def decodeRune : Bytes → Option (Nat × Nat)
  | [] => none
  | b0 :: rest =>
    if b0 < 0x80 then
      some (b0.toNat, 1)
    else if b0 < 0xC2 then
      none
    else if b0 < 0xE0 then
      match rest with
      | b1 :: _ =>
        if isContinuation b1 then some (b0.toNat % 32 * 64 + payload b1, 2) else none
      | _ => none
    else if b0 < 0xF0 then
      match rest with
      | b1 :: b2 :: _ =>
        if secondByteLo b0 ≤ b1 ∧ b1 ≤ secondByteHi b0 ∧ isContinuation b2 then
          some (b0.toNat % 16 * 4096 + payload b1 * 64 + payload b2, 3)
        else none
      | _ => none
    else if b0 < 0xF5 then
      match rest with
      | b1 :: b2 :: b3 :: _ =>
        if secondByteLo b0 ≤ b1 ∧ b1 ≤ secondByteHi b0 ∧ isContinuation b2
            ∧ isContinuation b3 then
          some (b0.toNat % 8 * 262144 + payload b1 * 4096 + payload b2 * 64 + payload b3, 4)
        else none
      | _ => none
    else
      none

/-- The runes of a `range` loop over the string; `fuel` bounds the number of turns. -/
def runesWithin : (fuel : Nat) → Bytes → List (Option Nat)
  | 0, _ => []
  | _ + 1, [] => []
  | fuel + 1, b :: rest =>
    match decodeRune (b :: rest) with
    | some (r, width) => some r :: runesWithin fuel ((b :: rest).drop width)
    | none => none :: runesWithin fuel rest

/-- The runes of a string, `none` for each byte that starts no rune. Every turn consumes a
byte, so the length of the string is fuel enough. -/
def runes (s : Bytes) : List (Option Nat) := runesWithin s.length s

def runeError : Nat := 0xFFFD

/-- `utf8.AppendRune` onto nothing: surrogates and values out of range become `RuneError`. -/
def encodeRune (r : Nat) : Bytes :=
  let r := if r > 0x10FFFF ∨ (0xD800 ≤ r ∧ r ≤ 0xDFFF) then runeError else r
  if r < 0x80 then [UInt8.ofNat r]
  else if r < 0x800 then [UInt8.ofNat (0xC0 + r / 64), UInt8.ofNat (0x80 + r % 64)]
  else if r < 0x10000 then
    [UInt8.ofNat (0xE0 + r / 4096), UInt8.ofNat (0x80 + r / 64 % 64), UInt8.ofNat (0x80 + r % 64)]
  else
    [UInt8.ofNat (0xF0 + r / 262144), UInt8.ofNat (0x80 + r / 4096 % 64),
      UInt8.ofNat (0x80 + r / 64 % 64), UInt8.ofNat (0x80 + r % 64)]

def validString (s : Bytes) : Bool := (runes s).all Option.isSome

example : validString [0x61, 0xC3, 0xA9, 0xE2, 0x82, 0xAC, 0xF0, 0x9F, 0x98, 0x80] = true := by
  decide

example : validString [0xC0, 0x80] = false ∧ validString [0xED, 0xA0, 0x80] = false := by decide

def isControl (r : Nat) : Bool := decide (r ≤ 0x1F) || (decide (0x7F ≤ r) && decide (r ≤ 0x9F))

/-- The ranges of `unicode.Cf`, the format characters. -/
def formatRanges : List (Nat × Nat) :=
  [(0xAD, 0xAD), (0x600, 0x605), (0x61C, 0x61C), (0x6DD, 0x6DD), (0x70F, 0x70F), (0x890, 0x891),
    (0x8E2, 0x8E2), (0x180E, 0x180E), (0x200B, 0x200F), (0x202A, 0x202E), (0x2060, 0x2064),
    (0x2066, 0x206F), (0xFEFF, 0xFEFF), (0xFFF9, 0xFFFB), (0x110BD, 0x110BD), (0x110CD, 0x110CD),
    (0x13430, 0x1343F), (0x1BCA0, 0x1BCA3), (0x1D173, 0x1D17A), (0xE0001, 0xE0001),
    (0xE0020, 0xE007F)]

/-- `unicode.Is(unicode.Cf, r)`. -/
def isFormat (r : Nat) : Bool :=
  formatRanges.any fun range => decide (range.1 ≤ r) && decide (r ≤ range.2)

/-! ## What is decoded is what would be encoded -/

/-- The four forms of an encoded rune, in numbers. -/
inductive RuneForm : Bytes → Nat → Nat → Prop
  | one {b0 rest} (h0 : b0.toNat < 0x80) : RuneForm (b0 :: rest) b0.toNat 1
  | two {b0 b1 rest} (h0 : 0xC2 ≤ b0.toNat ∧ b0.toNat < 0xE0)
      (h1 : 0x80 ≤ b1.toNat ∧ b1.toNat ≤ 0xBF) :
      RuneForm (b0 :: b1 :: rest) (b0.toNat % 32 * 64 + b1.toNat % 64) 2
  | three {b0 b1 b2 rest} (h0 : 0xE0 ≤ b0.toNat ∧ b0.toNat < 0xF0)
      (h1 : 0x80 ≤ b1.toNat ∧ b1.toNat ≤ 0xBF) (h2 : 0x80 ≤ b2.toNat ∧ b2.toNat ≤ 0xBF)
      (overlong : b0.toNat = 0xE0 → 0xA0 ≤ b1.toNat)
      (surrogate : b0.toNat = 0xED → b1.toNat ≤ 0x9F) :
      RuneForm (b0 :: b1 :: b2 :: rest)
        (b0.toNat % 16 * 4096 + b1.toNat % 64 * 64 + b2.toNat % 64) 3
  | four {b0 b1 b2 b3 rest} (h0 : 0xF0 ≤ b0.toNat ∧ b0.toNat < 0xF5)
      (h1 : 0x80 ≤ b1.toNat ∧ b1.toNat ≤ 0xBF) (h2 : 0x80 ≤ b2.toNat ∧ b2.toNat ≤ 0xBF)
      (h3 : 0x80 ≤ b3.toNat ∧ b3.toNat ≤ 0xBF)
      (overlong : b0.toNat = 0xF0 → 0x90 ≤ b1.toNat)
      (range : b0.toNat = 0xF4 → b1.toNat ≤ 0x8F) :
      RuneForm (b0 :: b1 :: b2 :: b3 :: rest)
        (b0.toNat % 8 * 262144 + b1.toNat % 64 * 4096 + b2.toNat % 64 * 64 + b3.toNat % 64) 4

variable {r width : Nat}

/-- An accepted rune takes at least one byte, and all its bytes are there. -/
lemma RuneForm.width_bounds (h : RuneForm s r width) : 1 ≤ width ∧ width ≤ s.length := by
  cases h <;> simp

lemma isContinuation_iff {b : UInt8} : isContinuation b ↔ 0x80 ≤ b.toNat ∧ b.toNat ≤ 0xBF := by
  simp only [isContinuation, Bool.and_eq_true, decide_eq_true_eq, UInt8.le_iff_toNat_le]
  rfl

lemma secondByte_range {b0 b1 : UInt8} (h : secondByteLo b0 ≤ b1 ∧ b1 ≤ secondByteHi b0) :
    (0x80 ≤ b1.toNat ∧ b1.toNat ≤ 0xBF) ∧ (b0.toNat = 0xE0 → 0xA0 ≤ b1.toNat) ∧
      (b0.toNat = 0xED → b1.toNat ≤ 0x9F) ∧ (b0.toNat = 0xF0 → 0x90 ≤ b1.toNat) ∧
      (b0.toNat = 0xF4 → b1.toNat ≤ 0x8F) := by
  simp only [secondByteLo, secondByteHi, UInt8.le_iff_toNat_le, apply_ite UInt8.toNat,
    ← UInt8.toNat_inj] at h
  simp at h
  split_ifs at h <;> omega

lemma runeForm_of_decodeRune : ∀ {s : Bytes}, decodeRune s = some (r, width) → RuneForm s r width
  | [], h => by cases h
  | b0 :: rest, h => by
    have hlt : ∀ c : UInt8, b0 < c ↔ b0.toNat < c.toNat := fun _ => UInt8.lt_iff_toNat_lt
    simp only [decodeRune] at h
    by_cases h80 : b0 < 0x80
    · rw [if_pos h80, some.injEq, Prod.mk.injEq] at h
      obtain ⟨rfl, rfl⟩ := h
      exact .one ((hlt _).mp h80)
    by_cases hC2 : b0 < 0xC2
    · rw [if_neg h80, if_pos hC2] at h
      cases h
    rw [if_neg h80, if_neg hC2] at h
    have h0 : 0xC2 ≤ b0.toNat := Nat.le_of_not_lt (mt (hlt 0xC2).mpr hC2)
    by_cases hE0 : b0 < 0xE0
    · rw [if_pos hE0] at h
      match rest, h with
      | b1 :: rest, h =>
        obtain ⟨h1, hrune⟩ := ite_none_right_eq_some.mp h
        obtain ⟨rfl, rfl⟩ := Prod.mk.inj (some.inj hrune)
        exact .two ⟨h0, (hlt _).mp hE0⟩ (isContinuation_iff.mp h1)
    rw [if_neg hE0] at h
    replace h0 : 0xE0 ≤ b0.toNat := Nat.le_of_not_lt (mt (hlt 0xE0).mpr hE0)
    by_cases hF0 : b0 < 0xF0
    · rw [if_pos hF0] at h
      match rest, h with
      | b1 :: b2 :: rest, h =>
        obtain ⟨⟨hlo, hhi, h2⟩, hrune⟩ := ite_none_right_eq_some.mp h
        obtain ⟨h1, hover, hsur, -, -⟩ := secondByte_range ⟨hlo, hhi⟩
        obtain ⟨rfl, rfl⟩ := Prod.mk.inj (some.inj hrune)
        exact .three ⟨h0, (hlt _).mp hF0⟩ h1 (isContinuation_iff.mp h2) hover hsur
    rw [if_neg hF0] at h
    replace h0 : 0xF0 ≤ b0.toNat := Nat.le_of_not_lt (mt (hlt 0xF0).mpr hF0)
    by_cases hF5 : b0 < 0xF5
    · rw [if_pos hF5] at h
      match rest, h with
      | b1 :: b2 :: b3 :: rest, h =>
        obtain ⟨⟨hlo, hhi, h2, h3⟩, hrune⟩ := ite_none_right_eq_some.mp h
        obtain ⟨h1, -, -, hover, hrange⟩ := secondByte_range ⟨hlo, hhi⟩
        obtain ⟨rfl, rfl⟩ := Prod.mk.inj (some.inj hrune)
        exact .four ⟨h0, (hlt _).mp hF5⟩ h1 (isContinuation_iff.mp h2)
          (isContinuation_iff.mp h3) hover hrange
    · rw [if_neg hF5] at h
      cases h

lemma ofNat_eq {b : UInt8} {n : Nat} (h : n = b.toNat) : UInt8.ofNat n = b := by
  rw [h, UInt8.ofNat_toNat]

/-- Encoding a decoded rune gives back the bytes it was decoded from. -/
lemma RuneForm.take_eq (h : RuneForm s r width) : s.take width = encodeRune r := by
  cases h with
  | @one b0 rest h0 =>
    have hr : ¬ (b0.toNat > 0x10FFFF ∨ (0xD800 ≤ b0.toNat ∧ b0.toNat ≤ 0xDFFF)) := by omega
    simp [encodeRune, hr, h0]
  | @two b0 b1 rest h0 h1 =>
    generalize hr : b0.toNat % 32 * 64 + b1.toNat % 64 = r
    have hv : ¬ (r > 0x10FFFF ∨ (0xD800 ≤ r ∧ r ≤ 0xDFFF)) := by omega
    simp only [encodeRune, if_neg hv]
    rw [if_neg (by omega), if_pos (by omega), ofNat_eq (b := b0) (by omega),
      ofNat_eq (b := b1) (by omega)]
    rfl
  | @three b0 b1 b2 rest h0 h1 h2 hover hsur =>
    generalize hr : b0.toNat % 16 * 4096 + b1.toNat % 64 * 64 + b2.toNat % 64 = r
    have hv : ¬ (r > 0x10FFFF ∨ (0xD800 ≤ r ∧ r ≤ 0xDFFF)) := by omega
    simp only [encodeRune, if_neg hv]
    rw [if_neg (by omega), if_neg (by omega), if_pos (by omega), ofNat_eq (b := b0) (by omega),
      ofNat_eq (b := b1) (by omega), ofNat_eq (b := b2) (by omega)]
    rfl
  | @four b0 b1 b2 b3 rest h0 h1 h2 h3 hover hrange =>
    generalize hr : b0.toNat % 8 * 262144 + b1.toNat % 64 * 4096 + b2.toNat % 64 * 64 + b3.toNat % 64 = r
    have hv : ¬ (r > 0x10FFFF ∨ (0xD800 ≤ r ∧ r ≤ 0xDFFF)) := by omega
    simp only [encodeRune, if_neg hv]
    rw [if_neg (by omega), if_neg (by omega), if_neg (by omega), ofNat_eq (b := b0) (by omega),
      ofNat_eq (b := b1) (by omega), ofNat_eq (b := b2) (by omega), ofNat_eq (b := b3) (by omega)]
    rfl

lemma secondByte_accepts {b0 b1 : UInt8} (h1 : 0x80 ≤ b1.toNat ∧ b1.toNat ≤ 0xBF)
    (hE0 : b0.toNat = 0xE0 → 0xA0 ≤ b1.toNat) (hED : b0.toNat = 0xED → b1.toNat ≤ 0x9F)
    (hF0 : b0.toNat = 0xF0 → 0x90 ≤ b1.toNat) (hF4 : b0.toNat = 0xF4 → b1.toNat ≤ 0x8F) :
    secondByteLo b0 ≤ b1 ∧ b1 ≤ secondByteHi b0 := by
  simp only [secondByteLo, secondByteHi, UInt8.le_iff_toNat_le, apply_ite UInt8.toNat,
    ← UInt8.toNat_inj]
  simp
  split_ifs <;> omega

lemma decodeRune_of_form (h : RuneForm s r width) : decodeRune s = some (r, width) := by
  have hlt : ∀ {b : UInt8} (c : UInt8), b.toNat < c.toNat → b < c := fun _ => UInt8.lt_iff_toNat_lt.mpr
  have hge : ∀ {b : UInt8} (c : UInt8), c.toNat ≤ b.toNat → ¬ b < c := fun c hle hlt =>
    not_lt.mpr hle (UInt8.lt_iff_toNat_lt.mp hlt)
  cases h with
  | one h0 => exact if_pos (hlt 0x80 h0)
  | @two b0 b1 rest h0 h1 =>
    have h80 : ¬ b0 < 0x80 := hge 0x80 (le_trans (by decide) h0.1)
    simp only [decodeRune]
    rw [if_neg h80, if_neg (hge 0xC2 h0.1), if_pos (hlt 0xE0 h0.2),
      if_pos (isContinuation_iff.mpr h1)]
    rfl
  | @three b0 b1 b2 rest h0 h1 h2 hover hsur =>
    have h80 : ¬ b0 < 0x80 := hge 0x80 (le_trans (by decide) h0.1)
    have hC2 : ¬ b0 < 0xC2 := hge 0xC2 (le_trans (by decide) h0.1)
    obtain ⟨hlo, hhi⟩ := secondByte_accepts h1 hover hsur (by omega) (by omega)
    simp only [decodeRune]
    rw [if_neg h80, if_neg hC2, if_neg (hge 0xE0 h0.1), if_pos (hlt 0xF0 h0.2),
      if_pos ⟨hlo, hhi, isContinuation_iff.mpr h2⟩]
    rfl
  | @four b0 b1 b2 b3 rest h0 h1 h2 h3 hover hrange =>
    have h80 : ¬ b0 < 0x80 := hge 0x80 (le_trans (by decide) h0.1)
    have hC2 : ¬ b0 < 0xC2 := hge 0xC2 (le_trans (by decide) h0.1)
    have hE0 : ¬ b0 < 0xE0 := hge 0xE0 (le_trans (by decide) h0.1)
    obtain ⟨hlo, hhi⟩ := secondByte_accepts h1 (by omega) (by omega) hover hrange
    simp only [decodeRune]
    rw [if_neg h80, if_neg hC2, if_neg hE0, if_neg (hge 0xF0 h0.1), if_pos (hlt 0xF5 h0.2),
      if_pos ⟨hlo, hhi, isContinuation_iff.mpr h2, isContinuation_iff.mpr h3⟩]
    rfl

lemma RuneForm.append (h : RuneForm s r width) (rest : Bytes) : RuneForm (s ++ rest) r width := by
  cases h with
  | one h0 => exact .one h0
  | two h0 h1 => exact .two h0 h1
  | three h0 h1 h2 hover hsur => exact .three h0 h1 h2 hover hsur
  | four h0 h1 h2 h3 hover hrange => exact .four h0 h1 h2 h3 hover hrange

/-- Text that is nothing but encoded runes. -/
inductive RuneText : Bytes → Prop
  | nil : RuneText []
  | cons {s : Bytes} {r width : Nat} (head : RuneForm s r width) (tail : RuneText (s.drop width)) :
      RuneText s

lemma runesWithin_all_iff : ∀ {fuel : Nat} {s : Bytes}, s.length ≤ fuel →
      ((runesWithin fuel s).all isSome ↔ RuneText s)
  | 0, s, hfuel => by
    obtain rfl : s = [] := length_eq_zero_iff.mp (Nat.le_zero.mp hfuel)
    exact iff_of_true rfl .nil
  | fuel + 1, [], _ => iff_of_true rfl .nil
  | fuel + 1, b :: rest, hfuel => by
    rw [length_cons] at hfuel
    have hdr : ∀ {r width : Nat}, RuneForm (b :: rest) r width →
        ((b :: rest).drop width).length ≤ fuel := by
      intro r width hform
      have hwidth := hform.width_bounds
      rw [length_drop, length_cons]
      omega
    rw [runesWithin]
    constructor
    · intro hall
      cases hrune : decodeRune (b :: rest) with
      | none => simp [hrune] at hall
      | some rune =>
        have hform := runeForm_of_decodeRune hrune
        simp only [hrune, all_cons, isSome_some, Bool.true_and] at hall
        exact .cons hform ((runesWithin_all_iff (hdr hform)).mp hall)
    · intro htext
      cases htext with
      | cons hform htail =>
        simp only [decodeRune_of_form hform, all_cons, isSome_some, Bool.true_and]
        exact (runesWithin_all_iff (hdr hform)).mpr htail

lemma validString_iff : validString s ↔ RuneText s :=
  runesWithin_all_iff (Nat.le_refl _)

/-- An ASCII byte is a rune of its own wherever it stands. -/
lemma mem_runesWithin {b : UInt8} (hb : b.toNat < 0x80) : ∀ {fuel : Nat} {s : Bytes},
    s.length ≤ fuel → b ∈ s → some b.toNat ∈ runesWithin fuel s
  | 0, [], _, hmem => nomatch hmem
  | fuel + 1, c :: rest, hfuel, hmem => by
    rw [runesWithin]
    split
    next r width hdec =>
      have hform := runeForm_of_decodeRune hdec
      rw [← take_append_drop width (c :: rest), mem_append] at hmem
      rcases hmem with hmem | hmem
      · -- the bytes of a longer rune are not ASCII
        cases hform <;> grind
      · have := hform.width_bounds
        exact mem_cons_of_mem _ (mem_runesWithin hb (by grind) hmem)
    next hdec =>
      rcases mem_cons.mp hmem with rfl | hmem
      · cases hdec.symm.trans (decodeRune_of_form (.one hb))
      · exact mem_cons_of_mem _ (mem_runesWithin hb (Nat.le_of_succ_le_succ hfuel) hmem)

lemma validString_append {t : Bytes} (hs : validString s) (ht : validString t) :
    validString (s ++ t) := by
  rw [validString_iff] at hs ht ⊢
  induction hs with
  | nil => exact ht
  | cons hform _ ih =>
    refine .cons (hform.append t) ?_
    rw [drop_append_of_le_length hform.width_bounds.2]
    exact ih

end ReCasaOS.Lib
