/-
# JSON text, as `encoding/json` writes it

`json.Marshal` of strings, integers and arrays, with HTML escaping on (its default): `<`, `>`,
`&` and the control bytes become six-byte escapes, `U+2028` and `U+2029` too, and a byte that
starts no rune becomes the escape of `U+FFFD`. Whatever the string, no byte of it takes more than six
(`length_quote_le`).

The second half reads such text back. The readers accept what the writers write, with
arbitrary text behind it, and the round trips say so; they are not a general JSON parser.
-/
import ReCasaOS.Lib.Utf8

namespace ReCasaOS.Lib.Json

open ReCasaOS.Lib List Option

/-! ## 1. Writers -/

/-- The escape of an ASCII byte. -/
def escapeByte (b : UInt8) : Bytes :=
  if b = 0x5C ∨ b = 0x22 then [0x5C, b]
  else if b = 0x08 then [0x5C, 0x62]
  else if b = 0x0C then [0x5C, 0x66]
  else if b = 0x0A then [0x5C, 0x6E]
  else if b = 0x0D then [0x5C, 0x72]
  else if b = 0x09 then [0x5C, 0x74]
  else if b < 0x20 ∨ b = 0x3C ∨ b = 0x3E ∨ b = 0x26 then
    [0x5C, 0x75, 0x30, 0x30, hexDigit (b.toNat / 16), hexDigit (b.toNat % 16)]
  else [b]

/-- The text of a rune beyond ASCII that was decoded from `raw`. -/
def escapeRune (r : Nat) (raw : Bytes) : Bytes :=
  if r = 0x2028 ∨ r = 0x2029 then [0x5C, 0x75, 0x32, 0x30, 0x32, hexDigit (r % 16)] else raw

/-- The loop of `appendString`; `fuel` bounds the number of turns. -/
def escapeWithin : (fuel : Nat) → Bytes → Bytes
  | 0, _ => []
  | _ + 1, [] => []
  | fuel + 1, b :: rest =>
    if b < 0x80 then escapeByte b ++ escapeWithin fuel rest
    else
      match decodeRune (b :: rest) with
      | some (r, width) =>
        escapeRune r ((b :: rest).take width) ++ escapeWithin fuel ((b :: rest).drop width)
      | none => [0x5C, 0x75, 0x66, 0x66, 0x66, 0x64] ++ escapeWithin fuel rest

/-- A string between its quotes. -/
def quote (s : Bytes) : Bytes := 0x22 :: (escapeWithin s.length s ++ [0x22])

/-- The decimal digits of a number. -/
def decimal (n : Nat) : Bytes :=
  if n < 10 then [UInt8.ofNat (48 + n)] else decimal (n / 10) ++ [UInt8.ofNat (48 + n % 10)]

/-- A signed integer. -/
def integer (i : Int) : Bytes := if i < 0 then 45 :: decimal i.natAbs else decimal i.natAbs

/-- Texts with commas between them. -/
def commas : List Bytes → Bytes
  | [] => []
  | [item] => item
  | item :: next :: items => item ++ 0x2C :: commas (next :: items)

def array (items : List Bytes) : Bytes := 0x5B :: (commas items ++ [0x5D])

/-! ## 2. How long the text gets -/

lemma length_escapeByte_le (b : UInt8) : (escapeByte b).length ≤ 6 := by
  unfold escapeByte
  split_ifs <;> simp

lemma length_escapeRune_le {r : Nat} {raw : Bytes} (h : 1 ≤ raw.length) :
    (escapeRune r raw).length ≤ 6 * raw.length := by
  unfold escapeRune
  split_ifs
  · simp
    omega
  · omega

lemma length_escapeWithin_le :
    ∀ (fuel : Nat) (s : Bytes), (escapeWithin fuel s).length ≤ 6 * s.length
  | 0, s => by simp [escapeWithin]
  | fuel + 1, [] => by simp [escapeWithin]
  | fuel + 1, b :: rest => by
    have hrs := length_escapeWithin_le fuel rest
    rw [escapeWithin]
    by_cases hascii : b < 0x80
    · have hbyte := length_escapeByte_le b
      rw [if_pos hascii, length_append, length_cons]
      omega
    · rw [if_neg hascii]
      cases hrune : decodeRune (b :: rest) with
      | none =>
        simp only [length_append, length_cons, length_nil]
        omega
      | some rune =>
        obtain ⟨r, width⟩ := rune
        have hwidth := (runeForm_of_decodeRune hrune).width_bounds
        have hdr := length_escapeWithin_le fuel ((b :: rest).drop width)
        have htake : ((b :: rest).take width).length = width := by
          rw [length_take]
          omega
        have hraw : (escapeRune r ((b :: rest).take width)).length ≤ _ :=
          length_escapeRune_le (by omega)
        rw [length_drop] at hdr
        rw [length_append]
        omega

/-- **No byte of a string takes more than six bytes of text.** -/
theorem length_quote_le (s : Bytes) : (quote s).length ≤ 6 * s.length + 2 := by
  have h := length_escapeWithin_le s.length s
  rw [quote, length_cons, length_append, length_singleton]
  omega

lemma length_decimal_le : ∀ {k n : Nat}, n < 10 ^ (k + 1) → (decimal n).length ≤ k + 1
  | 0, n, h => by
    rw [decimal, if_pos (by simpa using h)]
    simp
  | k + 1, n, h => by
    rw [decimal]
    by_cases hsmall : n < 10
    · rw [if_pos hsmall]
      simp
    · have hdiv : n / 10 < 10 ^ (k + 1) := by
        rw [Nat.div_lt_iff_lt_mul (by decide)]
        exact h
      have hlen := length_decimal_le hdiv
      rw [if_neg hsmall, length_append, length_singleton]
      omega

lemma length_integer_le {k : Nat} {i : Int} (h : i.natAbs < 10 ^ (k + 1)) :
    (integer i).length ≤ k + 2 := by
  have hlen := length_decimal_le h
  unfold integer
  split_ifs
  · rw [length_cons]
    omega
  · omega

lemma length_commas_le {n : Nat} : ∀ {items : List Bytes}, (∀ item ∈ items, item.length ≤ n) →
      (commas items).length ≤ items.length * (n + 1)
  | [], _ => by simp [commas]
  | [item], h => by
    have hit := h item (.head _)
    simp only [commas, length_cons, length_nil]
    omega
  | item :: next :: items, h => by
    have hit := h item (.head _)
    have htail := length_commas_le (fun i hi => h i (.tail _ hi))
    rw [commas, length_append, length_cons, length_cons, Nat.succ_mul]
    omega

lemma length_array_le {n : Nat} {items : List Bytes} (h : ∀ item ∈ items, item.length ≤ n) :
    (array items).length ≤ items.length * (n + 1) + 2 := by
  have hcommas := length_commas_le h
  rw [array, length_cons, length_append, length_singleton]
  omega

/-! ## 3. Readers -/

def hexValue (b : UInt8) : Option Nat :=
  if 48 ≤ b ∧ b ≤ 57 then some (b.toNat - 48)
  else if 97 ≤ b ∧ b ≤ 102 then some (b.toNat - 87)
  else if 65 ≤ b ∧ b ≤ 70 then some (b.toNat - 55)
  else none

/-- The rune of four hexadecimal digits. -/
def hexRune (d3 d2 d1 d0 : UInt8) : Option Nat := do
  let n3 ← hexValue d3
  let n2 ← hexValue d2
  let n1 ← hexValue d1
  let n0 ← hexValue d0
  pure (n3 * 4096 + n2 * 256 + n1 * 16 + n0)

/-- The byte of a two-byte escape. -/
def shortEscape (e : UInt8) : Option UInt8 :=
  if e = 0x5C ∨ e = 0x22 ∨ e = 0x2F then some e
  else if e = 0x62 then some 0x08
  else if e = 0x66 then some 0x0C
  else if e = 0x6E then some 0x0A
  else if e = 0x72 then some 0x0D
  else if e = 0x74 then some 0x09
  else none

/-- Puts what was read before in front of what is read next. -/
def prepend (front : Bytes) (next : Option (Bytes × Bytes)) : Option (Bytes × Bytes) :=
  next.map fun read => (front ++ read.1, read.2)

/-- The rest of a string behind its opening quote, and what follows the closing one. -/
def readBody : Bytes → Option (Bytes × Bytes)
  | [] => none
  | b :: rest =>
    if b = 0x22 then some ([], rest)
    else if b = 0x5C then
      match rest with
      | [] => none
      | e :: rest =>
        if e = 0x75 then
          match rest with
          | d3 :: d2 :: d1 :: d0 :: rest =>
            (hexRune d3 d2 d1 d0).bind fun r => prepend (encodeRune r) (readBody rest)
          | _ => none
        else (shortEscape e).bind fun c => prepend [c] (readBody rest)
    else if b < 0x20 then none
    else prepend [b] (readBody rest)

def readString : Bytes → Option (Bytes × Bytes)
  | b :: rest => if b = 0x22 then readBody rest else none
  | [] => none

/-- The digits at the front, behind a number already read. -/
def readDigits (acc : Nat) : Bytes → Nat × Bytes
  | [] => (acc, [])
  | b :: rest =>
    if 48 ≤ b ∧ b ≤ 57 then readDigits (acc * 10 + (b.toNat - 48)) rest else (acc, b :: rest)

def readInteger : Bytes → Option (Int × Bytes)
  | [] => none
  | b :: rest =>
    if b = 45 then some (-((readDigits 0 rest).1 : Int), (readDigits 0 rest).2)
    else some (((readDigits 0 (b :: rest)).1 : Int), (readDigits 0 (b :: rest)).2)

/-- The text behind a fixed one. -/
def readLiteral (literal data : Bytes) : Option Bytes :=
  if literal.isPrefixOf data then some (data.drop literal.length) else none

/-- Items with commas between them, up to the closing bracket; `fuel` bounds their number. -/
def readItems {α : Type} (readItem : Bytes → Option (α × Bytes)) :
    (fuel : Nat) → Bytes → Option (List α × Bytes)
  | 0, _ => none
  | fuel + 1, data =>
    (readItem data).bind fun read =>
      match read.2 with
      | [] => none
      | b :: rest =>
        if b = 0x5D then some ([read.1], rest)
        else if b = 0x2C then
          (readItems readItem fuel rest).map fun more => (read.1 :: more.1, more.2)
        else none

def readArray {α : Type} (readItem : Bytes → Option (α × Bytes)) : Bytes → Option (List α × Bytes)
  | b :: c :: rest =>
    if b ≠ 0x5B then none
    else if c = 0x5D then some ([], rest)
    else readItems readItem (c :: rest).length (c :: rest)
  | _ => none

/-! ## 4. What was written is what is read -/

lemma prepend_prepend (a b : Bytes) (next : Option (Bytes × Bytes)) :
    prepend a (prepend b next) = prepend (a ++ b) next := by
  cases next <;> simp [prepend]

lemma hexValue_hexDigit : ∀ {n : Nat}, n < 16 → hexValue (hexDigit n) = some n := by
  decide

lemma encodeRune_ascii {b : UInt8} (h : b < 0x80) : encodeRune b.toNat = [b] := by
  have hlt : b.toNat < 0x80 := UInt8.lt_iff_toNat_lt.mp h
  have hform : RuneForm [b] b.toNat 1 := .one hlt
  exact hform.take_eq.symm

lemma readBody_plain {b : UInt8} (hquote : b ≠ 0x22) (hsl : b ≠ 0x5C) (hctl : ¬ b < 0x20)
    (rest : Bytes) : readBody (b :: rest) = prepend [b] (readBody rest) := by
  rw [readBody.eq_def]
  simp only [if_neg hquote, if_neg hsl, if_neg hctl]

lemma readBody_quote (rest : Bytes) : readBody (0x22 :: rest) = some ([], rest) := by
  rw [readBody.eq_def]
  simp

lemma readBody_short {e c : UInt8} (he : e ≠ 0x75) (h : shortEscape e = some c) (rest : Bytes) :
    readBody (0x5C :: e :: rest) = prepend [c] (readBody rest) := by
  rw [readBody.eq_def]
  simp [if_neg he, h]

lemma readBody_hex {d3 d2 d1 d0 : UInt8} {r : Nat} (h : hexRune d3 d2 d1 d0 = some r)
    (rest : Bytes) :
    readBody (0x5C :: 0x75 :: d3 :: d2 :: d1 :: d0 :: rest)
      = prepend (encodeRune r) (readBody rest) := by
  rw [readBody.eq_def]
  simp [h]

lemma readBody_escapeByte {b : UInt8} (h : b < 0x80) (rest : Bytes) :
    readBody (escapeByte b ++ rest) = prepend [b] (readBody rest) := by
  have hnibbles : hexRune 0x30 0x30 (hexDigit (b.toNat / 16)) (hexDigit (b.toNat % 16))
      = some b.toNat := by
    have hlt := b.toNat_lt
    have hz : hexValue 0x30 = some 0 := rfl
    rw [hexRune, hz, hexValue_hexDigit (by omega), hexValue_hexDigit (by omega)]
    simp only [Option.pure_def, bind_eq_bind, bind_some, some.injEq]
    omega
  unfold escapeByte
  split_ifs with hself h8 hC hA hD h9 hhex
  · rcases hself with rfl | rfl <;> exact readBody_short (by decide) rfl rest
  · exact h8 ▸ readBody_short (by decide) rfl rest
  · exact hC ▸ readBody_short (by decide) rfl rest
  · exact hA ▸ readBody_short (by decide) rfl rest
  · exact hD ▸ readBody_short (by decide) rfl rest
  · exact h9 ▸ readBody_short (by decide) rfl rest
  · rw [← encodeRune_ascii h]
    exact readBody_hex hnibbles rest
  · rw [not_or] at hself hhex
    exact readBody_plain hself.2 hself.1 hhex.1 rest

variable {rest : Bytes}

lemma readBody_raw : ∀ {raw : Bytes}, (∀ b ∈ raw, 0x80 ≤ b.toNat) →
      readBody (raw ++ rest) = prepend raw (readBody rest)
  | [], _ => by simp [prepend]
  | b :: raw, h => by
    have hb := h b (.head _)
    have hquote : b ≠ 0x22 := by
      rintro rfl
      exact absurd hb (by decide)
    have hsl : b ≠ 0x5C := by
      rintro rfl
      exact absurd hb (by decide)
    have hctl : ¬ b < 0x20 := by
      exact Nat.not_lt.mpr (Nat.le_trans (by decide) hb)
    rw [cons_append, readBody_plain hquote hsl hctl,
      readBody_raw fun c hc => h c (.tail _ hc), prepend_prepend]
    rfl

/-- The reader undoes the text of a rune beyond ASCII. -/
lemma readBody_escapeRune {s : Bytes} {r width : Nat} (h : RuneForm s r width)
    (hascii : ∀ b ∈ s.head?, ¬ b < 0x80) (rest : Bytes) :
    readBody (escapeRune r (s.take width) ++ rest) = prepend (s.take width) (readBody rest) := by
  unfold escapeRune
  split_ifs with hr
  · rw [h.take_eq]
    rcases hr with rfl | rfl <;> rfl
  · refine readBody_raw fun b hb => ?_
    cases h with
    | one h0 => exact absurd (UInt8.lt_iff_toNat_lt.mpr h0) (hascii _ rfl)
    | two h0 h1 =>
      simp only [take, mem_cons, not_mem_nil, or_false] at hb
      rcases hb with rfl | rfl <;> omega
    | three h0 h1 h2 =>
      simp only [take, mem_cons, not_mem_nil, or_false] at hb
      rcases hb with rfl | rfl | rfl <;> omega
    | four h0 h1 h2 h3 =>
      simp only [take, mem_cons, not_mem_nil, or_false] at hb
      rcases hb with rfl | rfl | rfl | rfl <;> omega

/-- The string loop, on a string all of whose runes are accepted. -/
lemma readBody_escapeWithin : ∀ {fuel : Nat} {s : Bytes}, s.length ≤ fuel →
      ((runesWithin fuel s).all isSome) →
      readBody (escapeWithin fuel s ++ 0x22 :: rest) = some (s, rest)
  | 0, s, hfuel, _ => by
    have hs : s = [] := length_eq_zero_iff.mp (Nat.le_zero.mp hfuel)
    simp [hs, escapeWithin, readBody_quote]
  | fuel + 1, [], _, _ => by simp [escapeWithin, readBody_quote]
  | fuel + 1, b :: tail, hfuel, hv => by
    rw [length_cons] at hfuel
    rw [runesWithin] at hv
    rw [escapeWithin]
    cases hrune : decodeRune (b :: tail) with
    | none => simp [hrune] at hv
    | some rune =>
      obtain ⟨r, width⟩ := rune
      have hform := runeForm_of_decodeRune hrune
      have hwidth := hform.width_bounds
      simp only [hrune, all_cons, isSome_some, Bool.true_and] at hv
      have hdr : ((b :: tail).drop width).length ≤ fuel := by
        rw [length_drop, length_cons]
        omega
      have ih : readBody (escapeWithin fuel ((b :: tail).drop width) ++ 0x22 :: rest) = _ :=
        readBody_escapeWithin hdr hv
      by_cases hascii : b < 0x80
      · obtain ⟨rfl, rfl⟩ : b.toNat = r ∧ 1 = width := by
          simpa [decodeRune, hascii] using hrune
        rw [if_pos hascii, append_assoc, readBody_escapeByte hascii]
        exact congrArg (prepend [b]) ih
      · have hhd : ∀ c ∈ (b :: tail).head?, ¬ c < 0x80 := by
          intro c hc
          rw [head?_cons, mem_some_iff] at hc
          exact hc ▸ hascii
        rw [if_neg hascii, append_assoc, readBody_escapeRune hform hhd, ih]
        simp [prepend]

/-- **A valid string is read back**, whatever follows it. -/
theorem readString_quote {s : Bytes} (h : validString s) (rest : Bytes) :
    readString (quote s ++ rest) = some (s, rest) := by
  have hbody : readBody (escapeWithin s.length s ++ 0x22 :: rest) = _ :=
    readBody_escapeWithin (le_refl _) h
  simpa [quote, readString] using hbody

/-- Reading a number puts its digits behind what was read before. -/
lemma readDigits_decimal : ∀ (n : Nat) (rest : Bytes),
    readDigits 0 (decimal n ++ rest) = readDigits n rest := by
  have hdigit : ∀ (acc d : Nat) (rest : Bytes), d < 10 →
      readDigits acc (UInt8.ofNat (48 + d) :: rest) = readDigits (acc * 10 + d) rest := by
    intro acc d rest hd
    have hnat : (UInt8.ofNat (48 + d)).toNat = 48 + d := by
      rw [UInt8.toNat_ofNat']
      omega
    have hrange : 48 ≤ UInt8.ofNat (48 + d) ∧ UInt8.ofNat (48 + d) ≤ 57 := by
      rw [UInt8.le_iff_toNat_le, UInt8.le_iff_toNat_le, hnat]
      exact ⟨Nat.le_add_right 48 d, Nat.add_le_add_left (Nat.le_of_lt_succ hd) 48⟩
    rw [readDigits, if_pos hrange, hnat, Nat.add_sub_cancel_left]
  intro n
  induction n using Nat.strong_induction_on with
  | _ n ih =>
    intro rest
    rw [decimal]
    by_cases hsmall : n < 10
    · rw [if_pos hsmall, singleton_append, hdigit 0 n rest hsmall]
      simp
    · rw [if_neg hsmall, append_assoc, ih (n / 10) (by omega), singleton_append,
        hdigit _ _ rest (by omega)]
      congr 1
      omega

lemma readDigits_stop {acc : Nat}
    (h : ∀ b ∈ rest.head?, ¬ (48 ≤ b ∧ b ≤ 57)) : readDigits acc rest = (acc, rest) := by
  cases rest with
  | nil => rfl
  | cons b rest => rw [readDigits, if_neg (h b rfl)]

/-- A number has a first digit, and that is no minus sign. -/
lemma decimal_cons (n : Nat) : ∃ d digits, decimal n = d :: digits ∧ d ≠ 45 := by
  induction n using Nat.strong_induction_on with
  | _ n ih =>
    rw [decimal]
    by_cases hsmall : n < 10
    · refine ⟨_, [], if_pos hsmall, fun hminus => ?_⟩
      have hnat := congrArg UInt8.toNat hminus
      rw [UInt8.toNat_ofNat'] at hnat
      change _ = 45 at hnat
      omega
    · obtain ⟨d, digits, hdigits, hd⟩ := ih (n / 10) (by omega)
      exact ⟨d, digits ++ [UInt8.ofNat (48 + n % 10)], by rw [if_neg hsmall, hdigits]; rfl, hd⟩

lemma readInteger_integer (i : Int) (h : ∀ b ∈ rest.head?, ¬ (48 ≤ b ∧ b ≤ 57)) :
    readInteger (integer i ++ rest) = some (i, rest) := by
  have hrd := (readDigits_decimal i.natAbs rest).trans (readDigits_stop h)
  unfold integer
  split_ifs with hneg
  · rw [cons_append, readInteger, if_pos rfl, hrd]
    simp only [some.injEq, Prod.mk.injEq, and_true]
    omega
  · obtain ⟨d, digits, hdigits, hd⟩ := decimal_cons i.natAbs
    rw [hdigits, cons_append] at hrd ⊢
    rw [readInteger, if_neg hd, hrd]
    simp only [some.injEq, Prod.mk.injEq, and_true]
    omega

lemma readLiteral_append (literal rest : Bytes) :
    readLiteral literal (literal ++ rest) = some rest := by
  simp [readLiteral]

lemma readItems_commas {α : Type} {readItem : Bytes → Option (α × Bytes)} {text : α → Bytes} :
    ∀ {items : List α} {fuel : Nat}, items ≠ [] → items.length ≤ fuel →
      (∀ a ∈ items, ∀ tail, readItem (text a ++ tail) = some (a, tail)) →
      readItems readItem fuel (commas (items.map text) ++ 0x5D :: rest) = some (items, rest)
  | [a], fuel + 1, _, _, hrd => by
    simp [commas, readItems, hrd a mem_cons_self]
  | a :: b :: items, fuel + 1, _, hfuel, hrd => by
    have ih : readItems readItem fuel (commas ((b :: items).map text) ++ 0x5D :: rest) = _ :=
      readItems_commas (cons_ne_nil _ _) (Nat.le_of_succ_le_succ hfuel)
        (fun c hc => hrd c (.tail _ hc))
    rw [map_cons] at ih
    simp only [map_cons, commas, append_assoc, cons_append, readItems,
      hrd a (.head _), bind_some, ih]
    rfl

lemma length_le_commas : ∀ {items : List Bytes}, (∀ item ∈ items, 1 ≤ item.length) →
    items.length ≤ (commas items).length
  | [], _ => Nat.zero_le _
  | [item], h => h item (.head _)
  | item :: next :: items, h => by
    have htail := length_le_commas (fun i hi => h i (.tail _ hi))
    simp only [commas, length_append, length_cons] at htail ⊢
    omega

/-- **An array is read back** when its items are. -/
theorem readArray_array {α : Type} {readItem : Bytes → Option (α × Bytes)} {text : α → Bytes}
    {items : List α} (htext : ∀ a ∈ items, ∃ b bytes, text a = b :: bytes ∧ b ≠ 0x5D)
    (hrd : ∀ a ∈ items, ∀ tail, readItem (text a ++ tail) = some (a, tail)) (rest : Bytes) :
    readArray readItem (array (items.map text) ++ rest) = some (items, rest) := by
  cases items with
  | nil => rfl
  | cons a items =>
    obtain ⟨b, tail, hfst, hb⟩ : ∃ b tail, commas ((a :: items).map text) = b :: tail ∧ b ≠ 0x5D := by
      obtain ⟨b, bytes, hab, hb⟩ := htext a (.head _)
      cases items with
      | nil => exact ⟨b, bytes, by simp [commas, hab], hb⟩
      | cons next items =>
        refine ⟨b, bytes ++ 0x2C :: commas ((next :: items).map text), ?_, hb⟩
        simp [commas, hab]
    have hcnt : ((a :: items).map text).length ≤ (commas ((a :: items).map text)).length := by
      refine length_le_commas fun item hit => ?_
      obtain ⟨c, hc, rfl⟩ := mem_map.mp hit
      obtain ⟨_, _, htextc, _⟩ := htext c hc
      simp [htextc]
    rw [length_map, hfst] at hcnt
    have hitems : readItems readItem (b :: (tail ++ 0x5D :: rest)).length
        (commas ((a :: items).map text) ++ 0x5D :: rest) = some (a :: items, rest) := by
      refine readItems_commas (cons_ne_nil _ _) ?_ hrd
      simp only [length_cons, length_append] at hcnt ⊢
      omega
    rw [hfst, cons_append] at hitems
    simp only [array, hfst, cons_append, append_assoc, nil_append, readArray,
      if_neg hb, ne_eq, not_true_eq_false, if_false, hitems]

end ReCasaOS.Lib.Json
