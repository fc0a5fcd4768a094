/-
# The string functions of the Go standard library

`strings.TrimSpace`, `strings.ToLower`, `strings.TrimSuffix`, `strings.HasPrefix` and
`strings.Split`, on byte strings. White space is the Unicode property `White_Space`, as
`unicode.IsSpace` has it. The lower-case mapping of the runes beyond ASCII is a parameter of
`toLower`: nothing above this file depends on it.

The lemmas are about plain text, the bytes from `!` to `~`: trimming leaves it alone, and so
does lower-casing when there is no capital letter.
-/
import ReCasaOS.Lib.Utf8

namespace ReCasaOS.Lib

open List

variable {b sep : UInt8} {s : Bytes}

/-! ## 1. White space -/

/-- The runes of `unicode.IsSpace`. -/
def spaceRunes : List Nat :=
  [0x09, 0x0A, 0x0B, 0x0C, 0x0D, 0x20, 0x85, 0xA0, 0x1680, 0x2000, 0x2001, 0x2002, 0x2003, 0x2004,
    0x2005, 0x2006, 0x2007, 0x2008, 0x2009, 0x200A, 0x2028, 0x2029, 0x202F, 0x205F, 0x3000]

/-- A string starts (ends) with a space rune exactly when it starts (ends) with one of these. -/
def spaceEncodings : List Bytes := spaceRunes.map encodeRune

/-- Drops the encodings that stand at the front; `fuel` bounds their number. -/
def trimLeading (encodings : List Bytes) : (fuel : Nat) → Bytes → Bytes
  | 0, s => s
  | fuel + 1, s =>
    match encodings.find? (fun e => e.isPrefixOf s) with
    | some e => trimLeading encodings fuel (s.drop e.length)
    | none => s

/-- `strings.TrimLeftFunc(s, unicode.IsSpace)`. -/
def trimLeftSpace (s : Bytes) : Bytes := trimLeading spaceEncodings s.length s

/-- `strings.TrimRightFunc(s, unicode.IsSpace)`. -/
def trimRightSpace (s : Bytes) : Bytes :=
  (trimLeading (spaceEncodings.map List.reverse) s.length s.reverse).reverse

def trimSpace (s : Bytes) : Bytes := trimRightSpace (trimLeftSpace s)

/-- A printable ASCII byte that is not a blank. -/
def isPlain (b : UInt8) : Bool := decide (0x21 ≤ b) && decide (b ≤ 0x7E)

/-- Nothing is dropped from a string that starts with no encoding. -/
lemma trimLeading_of_head {encodings : List Bytes}
    (h : ∀ e ∈ encodings, e.isPrefixOf (b :: s) = false) (fuel : Nat) :
    trimLeading encodings fuel (b :: s) = b :: s := by
  cases fuel with
  | zero => rfl
  | succ fuel =>
    have hno : encodings.find? (fun e => e.isPrefixOf (b :: s)) = none := by
      rw [find?_eq_none]
      intro e he
      simp [h e he]
    rw [trimLeading, hno]

/-- No encoding of a space starts or ends with a plain byte. -/
lemma space_ends_not_plain : ∀ e ∈ spaceEncodings, e ≠ [] ∧ (e.head?.all fun b => !isPlain b) ∧
      (e.reverse.head?.all fun b => !isPlain b) := by
  decide

/-- A string that starts with a plain byte starts with no string that starts otherwise. -/
lemma isPrefixOf_plain {e : Bytes} (hne : e ≠ []) (he : (e.head?.all fun c => !isPlain c))
    (hb : isPlain b) : e.isPrefixOf (b :: s) = false := by
  cases e with
  | nil => exact absurd rfl hne
  | cons c e =>
    have hc : isPlain c = false := by simpa using he
    have hcb : c ≠ b := by
      rintro rfl
      rw [hb] at hc
      cases hc
    simp [isPrefixOf, hcb]

/-- **Trimming leaves plain text alone.** -/
theorem trimSpace_plain (h : ∀ b ∈ s, isPlain b) : trimSpace s = s := by
  have hleft : trimLeftSpace s = s := by
    cases s with
    | nil => rfl
    | cons b s =>
      refine trimLeading_of_head (fun e he => ?_) _
      obtain ⟨hne, hhd, -⟩ := space_ends_not_plain e he
      exact isPrefixOf_plain hne hhd (h b (.head _))
  have hright : (trimLeading (spaceEncodings.map reverse) s.length s.reverse) = s.reverse := by
    cases hs : s.reverse with
    | nil =>
      obtain rfl : s = [] := by simpa using hs
      rfl
    | cons b t =>
      have hb : isPlain b := h b (mem_reverse.mp (hs ▸ (.head _)))
      refine trimLeading_of_head (fun e he => ?_) _
      obtain ⟨e, hmem, rfl⟩ := mem_map.mp he
      obtain ⟨hne, -, hla⟩ := space_ends_not_plain e hmem
      exact isPrefixOf_plain (by simpa using hne) hla hb
  rw [trimSpace, hleft, trimRightSpace, hright, reverse_reverse]

lemma mem_trimLeading {encodings : List Bytes} (hb : ∀ e ∈ encodings, b ∉ e) (fuel : Nat) :
    ∀ {s : Bytes}, b ∈ s → b ∈ trimLeading encodings fuel s := by
  induction fuel with
  | zero => exact fun h => h
  | succ fuel ih =>
    intro s h
    unfold trimLeading
    split
    next e he =>
      have hpre : e.isPrefixOf s := by simpa using find?_some he
      obtain ⟨rest, rfl⟩ := isPrefixOf_iff_prefix.mp hpre
      rw [drop_left]
      exact ih ((mem_append.mp h).resolve_left (hb e (mem_of_find?_eq_some he)))
    · exact h

lemma mem_trimSpace (hb : isPlain b) (h : b ∈ s) : b ∈ trimSpace s := by
  have hspace : ∀ e ∈ spaceEncodings, ∀ c ∈ e, isPlain c = false := by decide +kernel
  have hne : ∀ e ∈ spaceEncodings, b ∉ e := by
    intro e he hmem
    rw [hspace e he b hmem] at hb
    cases hb
  refine mem_reverse.mpr (mem_trimLeading (fun e he => ?_) _ (mem_reverse.mpr ?_))
  · obtain ⟨e, hmem, rfl⟩ := mem_map.mp he
    exact fun hb => hne e hmem (mem_reverse.mp hb)
  · exact mem_trimLeading hne _ h

/-! ## 2. Case, affixes and splitting -/

/-- `unicode.ToLower` on ASCII. -/
def lowerByte (b : UInt8) : UInt8 := if 0x41 ≤ b ∧ b ≤ 0x5A then b + 32 else b

/-- `unicode.ToLower`; `lowerRune` is its table beyond ASCII. -/
def lowerOf (lowerRune : Nat → Nat) (r : Nat) : Nat :=
  if r < 0x80 then (lowerByte (UInt8.ofNat r)).toNat else lowerRune r

/-- `strings.ToLower`: byte by byte on ASCII, else rune by rune, with `RuneError` for every byte
that starts no rune. -/
def toLower (lowerRune : Nat → Nat) (s : Bytes) : Bytes :=
  if s.all (fun b => decide (b < 0x80)) then s.map lowerByte
  else (runes s).flatMap fun r => encodeRune (lowerOf lowerRune (r.getD runeError))

def hasPrefix (s start : Bytes) : Bool := start.isPrefixOf s

/-- `strings.HasSuffix(s, ending)`. -/
def hasSuffix (s ending : Bytes) : Bool := ending.isSuffixOf s

def trimSuffix (s ending : Bytes) : Bytes :=
  if ending.isSuffixOf s then s.take (s.length - ending.length) else s

/-- `strings.Split` at a single byte. -/
def splitByte (sep : UInt8) : Bytes → List Bytes
  | [] => [[]]
  | b :: rest =>
    match splitByte sep rest with
    | label :: labels => if b = sep then [] :: label :: labels else (b :: label) :: labels
    | [] => []

/-- `strings.Fields`, with the field that is being read; `fuel` bounds the length. -/
def fieldsFrom (field : Bytes) : (fuel : Nat) → Bytes → List Bytes
  | fuel + 1, b :: s =>
    match spaceEncodings.find? (fun e => e.isPrefixOf (b :: s)) with
    | some e => [field].filter (· ≠ []) ++ fieldsFrom [] fuel ((b :: s).drop e.length)
    | none => fieldsFrom (field ++ [b]) fuel s
  | _, _ => [field].filter (· ≠ [])

def fields (s : Bytes) : List Bytes := fieldsFrom [] s.length s

/-- `strings.Cut` at a single byte; there is nothing behind a separator that is not there. -/
def cutByte (sep : UInt8) (s : Bytes) : Bytes × Option Bytes :=
  (s.takeWhile (· != sep), (s.dropWhile (· != sep)).tail?)

/-- `strings.Contains(s, part)`. -/
def containsText (s part : Bytes) : Bool := s.tails.any fun rest => part.isPrefixOf rest

/-- `strings.ContainsAny(s, chars)`, of ASCII characters. -/
def containsAny (s chars : Bytes) : Bool := s.any fun b => chars.contains b

/-- `strings.IndexByte(s, b) >= 0`. -/
def containsByte (s : Bytes) (b : UInt8) : Bool := decide (b ∈ s)

@[simp] lemma containsByte_eq_false : containsByte s b = false ↔ b ∉ s :=
  decide_eq_false_iff_not

/-- Lower-casing leaves ASCII text without capital letters alone. -/
lemma toLower_of_lower {lowerRune : Nat → Nat} (h : ∀ b ∈ s, b < 0x80 ∧ ¬ (0x41 ≤ b ∧ b ≤ 0x5A)) :
    toLower lowerRune s = s := by
  have hascii : s.all (fun b => decide (b < 0x80)) := by
    rw [all_eq_true]
    intro b hb
    exact decide_eq_true (h b hb).1
  rw [toLower, if_pos hascii]
  refine (map_congr_left (g := id) fun b hb => ?_).trans (List.map_id s)
  exact if_neg (h b hb).2

lemma trimSuffix_of_getLast (h : s.getLast? ≠ some b) : trimSuffix s [b] = s := by
  rw [trimSuffix, if_neg]
  intro hsuffix
  obtain ⟨t, rfl⟩ := isSuffixOf_iff_suffix.mp hsuffix
  simp at h

lemma splitByte_ne_nil (sep : UInt8) (s : Bytes) : splitByte sep s ≠ [] := by
  induction s with
  | nil => simp [splitByte]
  | cons b rest ih =>
    cases hrs : splitByte sep rest with
    | nil => exact absurd hrs ih
    | cons label labels =>
      simp only [splitByte, hrs]
      split <;> simp

/-- A byte in front opens a new part or belongs to the first one. -/
lemma splitByte_cons (sep b : UInt8) (s : Bytes) :
    ∃ label labels, splitByte sep s = label :: labels ∧
      splitByte sep (b :: s) = if b = sep then [] :: label :: labels else (b :: label) :: labels := by
  obtain ⟨label, labels, hs⟩ := exists_cons_of_ne_nil (splitByte_ne_nil sep s)
  exact ⟨label, labels, hs, by simp only [splitByte, hs]⟩

/-- Every byte of the string is the separator or stands in a part. -/
lemma mem_splitByte (h : b ∈ s) : b = sep ∨ ∃ label ∈ splitByte sep s, b ∈ label := by
  induction s with
  | nil => cases h
  | cons c s ih =>
    obtain ⟨label, labels, hs, hcons⟩ := splitByte_cons sep c s
    rw [hcons]
    split <;> simp only [exists_mem_cons_iff] at ih ⊢ <;> grind

lemma intercalate_splitByte (sep : UInt8) : ∀ s : Bytes, intercalate [sep] (splitByte sep s) = s
  | [] => rfl
  | b :: rest => by
    obtain ⟨label, labels, hrs⟩ := exists_cons_of_ne_nil (splitByte_ne_nil sep rest)
    have ih := intercalate_splitByte sep rest
    simp only [splitByte, hrs] at ih ⊢
    by_cases hb : b = sep
    · rw [if_pos hb, hb, intercalate_cons_cons, ih]
      rfl
    · rw [if_neg hb, intercalate_cons_cons_left, ih]

lemma splitByte_append (sep : UInt8) (a b : Bytes) :
    splitByte sep (a ++ sep :: b) = splitByte sep a ++ splitByte sep b := by
  induction a with
  | nil =>
    obtain ⟨label, labels, hb⟩ := exists_cons_of_ne_nil (splitByte_ne_nil sep b)
    simp only [nil_append, splitByte, hb, if_true, cons_append]
  | cons c a ih =>
    obtain ⟨label, labels, ha⟩ := exists_cons_of_ne_nil (splitByte_ne_nil sep a)
    simp only [cons_append, splitByte, ih, ha]
    split <;> rfl

lemma splitByte_of_not_mem (h : sep ∉ s) : splitByte sep s = [s] := by
  induction s with
  | nil => rfl
  | cons b s ih =>
    obtain ⟨hb, hs⟩ := not_or.mp (mt mem_cons.mpr h)
    simp only [splitByte, ih hs, if_neg (Ne.symm hb)]

lemma splitByte_intercalate {parts : List Bytes} (hne : parts ≠ [])
    (h : ∀ part ∈ parts, sep ∉ part) : splitByte sep (intercalate [sep] parts) = parts := by
  induction parts with
  | nil => exact absurd rfl hne
  | cons part parts ih =>
    have hpart := splitByte_of_not_mem (h part (.head _))
    cases parts with
    | nil => rw [intercalate_singleton, hpart]
    | cons next parts =>
      have hrs := ih (cons_ne_nil _ _) fun p hp => h p (.tail _ hp)
      rw [intercalate_cons_cons, append_assoc, singleton_append, splitByte_append,
        hpart, hrs, singleton_append]

lemma cutByte_append {key : Bytes} (h : sep ∉ key) (value : Bytes) :
    cutByte sep (key ++ sep :: value) = (key, some value) := by
  have hkey : ∀ b ∈ key, (b != sep) := fun b hb => bne_iff_ne.mpr fun hsm => h (hsm ▸ hb)
  simp [cutByte, takeWhile_append_of_pos hkey, dropWhile_append_of_pos hkey]

lemma sep_not_mem_of_mem_splitByte {part : Bytes} (h : part ∈ splitByte sep s) : sep ∉ part := by
  induction s generalizing part with
  | nil =>
    obtain rfl := mem_singleton.mp h
    exact not_mem_nil
  | cons b s ih =>
    obtain ⟨label, labels, hs, hcons⟩ := splitByte_cons sep b s
    grind

/-- A string is valid when its parts between ASCII separators are. -/
lemma validString_of_splitByte (hsep : sep < 0x80)
    (h : ∀ part ∈ splitByte sep s, validString part) : validString s := by
  have hsepText : validString [sep] :=
    validString_iff.mpr (.cons (.one (UInt8.lt_iff_toNat_lt.mp hsep)) .nil)
  have hall : ∀ parts : List Bytes, (∀ part ∈ parts, validString part) →
      validString (intercalate [sep] parts) := by
    intro parts
    induction parts with
    | nil => exact fun _ => rfl
    | cons part parts ih =>
      intro hparts
      have hpart := hparts part (.head _)
      have htail := ih fun p hp => hparts p (.tail _ hp)
      cases parts with
      | nil => rwa [intercalate_singleton]
      | cons next parts =>
        rw [intercalate_cons_cons]
        exact validString_append (validString_append hpart hsepText) htail
  rw [← intercalate_splitByte sep s]
  exact hall _ h

/-- A string that ends with the separator has an empty last part, after some other part. -/
lemma splitByte_of_getLast : ∀ {s : Bytes}, s.getLast? = some sep →
      ∃ label labels, splitByte sep s = label :: (labels ++ [[]])
  | [], h => by cases h
  | [c], h => by
    obtain rfl : c = sep := by simpa using h
    exact ⟨[], [], by simp [splitByte]⟩
  | c :: d :: rest, h => by
    have hla : (d :: rest).getLast? = some sep := by simpa using h
    obtain ⟨label, labels, hrs⟩ := splitByte_of_getLast hla
    rw [splitByte, hrs]
    by_cases hc : c = sep
    · exact ⟨[], label :: labels, by simp [hc]⟩
    · exact ⟨c :: label, labels, by simp [hc]⟩

end ReCasaOS.Lib
