/-
# Byte strings, as the Go standard library sees them

Nothing in this file knows about a particular program. It fixes the vocabulary in which the
binary formats above it are written:

* `Bytes` is a Go `[]byte` (or a Go `string`, which is the same thing with another type name);
* `slice` is `data[lo:hi]`, `toArr` is `copy` into a zeroed array;
* `putUint16` and `uint16` are `binary.BigEndian.PutUint16` and `Uint16`, and so for 32 and 64;
* `≤` on `Bytes` is the order of `bytes.Compare`, and `sortAsc` is the sort it induces;
* `readFull` is `io.ReadFull`, on a reader given by the bytes it delivers before it fails.
-/
import Mathlib.Data.List.Lex
import Mathlib.Data.List.Sort
import Mathlib.Data.Vector.Basic

namespace ReCasaOS.Lib

open List

/-- A Go byte slice, or the bytes of a Go string. -/
abbrev Bytes := List UInt8

instance instLawfulBEqBytes : LawfulBEq Bytes := inferInstance

/-- A Go array `[n]byte`. -/
abbrev Arr (n : Nat) := List.Vector UInt8 n

/-! ## 1. The order of `bytes.Compare` -/

instance instLinearOrderUInt8 : LinearOrder UInt8 where
  le_refl := UInt8.le_refl
  le_trans _ _ _ := UInt8.le_trans
  lt_iff_le_not_ge a b := by
    simp only [UInt8.lt_iff_toNat_lt, UInt8.le_iff_toNat_le]
    omega
  le_antisymm _ _ := UInt8.le_antisymm
  le_total := UInt8.le_total
  toDecidableLE := inferInstance
  toDecidableEq := inferInstance
  toDecidableLT := inferInstance

/-- Arrays compare as the byte strings they hold. -/
instance instLinearOrderArr (n : Nat) : LinearOrder (Arr n) := inferInstanceAs (LinearOrder (Subtype _))

/-- The ascending order of `sort.Strings`, and of a `sort.Slice` by `bytes.Compare`. -/
def sortAsc {α : Type} [LinearOrder α] (l : List α) : List α := l.insertionSort (· ≤ ·)

section

variable {α : Type} [LinearOrder α]

lemma sortAsc_perm (l : List α) : (sortAsc l).Perm l := perm_insertionSort _ l

@[simp] lemma mem_sortAsc {l : List α} {a : α} : a ∈ sortAsc l ↔ a ∈ l :=
  (sortAsc_perm l).mem_iff

@[simp] lemma length_sortAsc (l : List α) : (sortAsc l).length = l.length :=
  (sortAsc_perm l).length_eq

/-- Sorting distinct elements gives a strictly ascending list. -/
lemma sortAsc_strict {l : List α} (h : l.Nodup) : (sortAsc l).Pairwise (· < ·) := by
  have hle : (sortAsc l).Pairwise (· ≤ ·) := pairwise_insertionSort _ l
  have hnd : (sortAsc l).Nodup := (sortAsc_perm l).nodup_iff.mpr h
  exact (hle.and hnd).imp fun hab => lt_of_le_of_ne hab.1 hab.2

/-- **A strictly ascending list is the sorted form of every permutation of it.** This is what
lets an encoder that iterates an unordered map agree with a parser that demands an order. -/
theorem sortAsc_eq_of_perm {l m : List α} (hm : m.Pairwise (· < ·)) (h : l.Perm m) :
    sortAsc l = m := by
  have hle : (sortAsc l).Pairwise (· ≤ ·) := pairwise_insertionSort _ l
  exact ((sortAsc_perm l).trans h).eq_of_pairwise' hle (hm.imp le_of_lt)

omit [LinearOrder α] in
lemma nodup_eraseDups [BEq α] [LawfulBEq α] : ∀ l : List α, l.eraseDups.Nodup
  | [] => by simp
  | a :: l => by
    rw [eraseDups_cons, nodup_cons, mem_eraseDups]
    exact ⟨by simp, nodup_eraseDups _⟩
termination_by l => l.length
decreasing_by exact Nat.lt_succ_of_le (List.length_filter_le _ _)

end

/-! ## 2. Slices and arrays -/

/-- `data[lo:hi]`. -/
def slice (data : Bytes) (lo hi : Nat) : Bytes := (data.drop lo).take (hi - lo)

/-- `copy(array[:], data)` into a zeroed `[n]byte`. -/
def toArr (n : Nat) (data : Bytes) : Arr n :=
  ⟨(data ++ List.replicate n 0).take n, by simp⟩

/-- The zero value of `[n]byte`. -/
def zeroArr (n : Nat) : Arr n := ⟨List.replicate n 0, by simp⟩

variable {data : Bytes}
variable {n lo hi value : Nat}

lemma toArr_val (h : data.length = n) : (toArr n data).1 = data := by
  subst h
  simp [toArr]

@[simp] lemma toArr_arr (a : Arr n) : toArr n a.1 = a :=
  Subtype.ext (toArr_val a.2)

@[simp] lemma length_arr (a : Arr n) : a.1.length = n := a.2

lemma length_slice (h : hi ≤ data.length) : (slice data lo hi).length = hi - lo := by
  simp only [slice, length_take, length_drop]
  omega

/-- Reading a field that starts where the rest of the input starts. -/
lemma slice_of_drop {field rest : Bytes} (h : data.drop lo = field ++ rest)
    (hlen : hi - lo = field.length) : slice data lo hi = field := by
  rw [slice, h, hlen, take_left]

lemma drop_of_drop {field rest : Bytes} (h : data.drop lo = field ++ rest)
    (hhi : hi = lo + field.length) : data.drop hi = rest := by
  rw [hhi, ← drop_drop, h, drop_left]

lemma take_append_slice (hle : lo ≤ hi) : data.take lo ++ slice data lo hi = data.take hi := by
  rw [slice, ← take_add, Nat.add_sub_cancel' hle]

lemma drop_eq_slice_append (hle : lo ≤ hi) : data.drop lo = slice data lo hi ++ data.drop hi := by
  have hdr : data.drop hi = (data.drop lo).drop (hi - lo) := by
    rw [drop_drop]
    congr 1
    omega
  rw [hdr, slice, take_append_drop]

lemma slice_to_end (h : data.length ≤ hi) : slice data lo hi = data.drop lo :=
  take_of_length_le (by rw [length_drop]; omega)

lemma drop_eq_getD_cons {i : Nat} (h : i < data.length) :
    data.drop i = data.getD i 0 :: data.drop (i + 1) := by
  rw [drop_eq_getElem_cons h, getD_eq_getElem?_getD, getElem?_eq_getElem h, Option.getD_some]

/-- `io.ReadFull` of `n` bytes from a reader that delivers `random` and then fails: the bytes
and the reader that is left. -/
def readFull (n : Nat) (random : Bytes) : Option (Bytes × Bytes) :=
  if random.length < n then none else some (random.take n, random.drop n)

lemma readFull_eq_some {rnd out rest : Bytes} :
    readFull n rnd = some (out, rest) ↔ rnd = out ++ rest ∧ out.length = n := by
  unfold readFull
  split
  next hsh =>
    simp only [reduceCtorEq, false_iff, not_and]
    rintro rfl hlen
    rw [length_append] at hsh
    omega
  next hlong =>
    rw [Option.some.injEq, Prod.mk.injEq]
    constructor
    · rintro ⟨rfl, rfl⟩
      exact ⟨(take_append_drop n rnd).symm, by rw [length_take]; omega⟩
    · rintro ⟨rfl, rfl⟩
      exact ⟨take_left, drop_left⟩

/-- `hex.EncodeToString` of one nibble. -/
def hexDigit (n : Nat) : UInt8 := if n < 10 then UInt8.ofNat (48 + n) else UInt8.ofNat (87 + n)

/-- `hex.EncodeToString`. -/
def hexEncode (data : Bytes) : Bytes :=
  data.flatMap fun b => [hexDigit (b.toNat / 16), hexDigit (b.toNat % 16)]

/-- `binary.BigEndian.PutUint16` of `uint16(value)`. -/
def putUint16 (value : Nat) : Bytes := [UInt8.ofNat (value / 256), UInt8.ofNat value]

/-- `binary.BigEndian.Uint16`, which reads the first two bytes. -/
def uint16 : Bytes → Nat
  | hi :: lo :: _ => hi.toNat * 256 + lo.toNat
  | _ => 0

@[simp] lemma length_putUint16 (value : Nat) : (putUint16 value).length = 2 := rfl

lemma uint16_lt (data : Bytes) : uint16 data < 65536 := by
  match data with
  | [] => decide
  | [_] => simp [uint16]
  | hi :: lo :: _ =>
    have h1 := hi.toNat_lt
    have h2 := lo.toNat_lt
    simp only [uint16]
    omega

lemma uint16_putUint16 (h : value < 65536) (rest : Bytes) :
    uint16 (putUint16 value ++ rest) = value := by
  simp only [putUint16, cons_append, uint16, UInt8.toNat_ofNat']
  omega

lemma putUint16_uint16 (h : 2 ≤ data.length) : putUint16 (uint16 data) = data.take 2 := by
  match data, h with
  | hi :: lo :: rest, _ =>
    have h2 := lo.toNat_lt
    have hhi : (hi.toNat * 256 + lo.toNat) / 256 = hi.toNat := by omega
    have hlo : UInt8.ofNat (hi.toNat * 256 + lo.toNat) = lo := by
      apply UInt8.toNat_inj.mp
      rw [UInt8.toNat_ofNat']
      omega
    simp [putUint16, uint16, hhi, hlo]

/-- `binary.BigEndian.PutUint32` of `uint32(value)`. -/
def putUint32 (value : Nat) : Bytes := putUint16 (value / 65536) ++ putUint16 (value % 65536)

def uint32 (data : Bytes) : Nat := uint16 data * 65536 + uint16 (data.drop 2)

def putUint64 (value : Nat) : Bytes :=
  putUint32 (value / 4294967296) ++ putUint32 (value % 4294967296)

def uint64 (data : Bytes) : Nat := uint32 data * 4294967296 + uint32 (data.drop 4)

@[simp] lemma length_putUint32 (value : Nat) : (putUint32 value).length = 4 := rfl

@[simp] lemma length_putUint64 (value : Nat) : (putUint64 value).length = 8 := rfl

lemma uint32_putUint32 (h : value < 4294967296) (rest : Bytes) :
    uint32 (putUint32 value ++ rest) = value := by
  have hhi : uint16 (putUint16 (value / 65536) ++ (putUint16 (value % 65536) ++ rest)) = _ :=
    uint16_putUint16 (by omega) _
  have hlo : uint16 (putUint16 (value % 65536) ++ rest) = _ := uint16_putUint16 (by omega) _
  have hdr : (putUint32 value ++ rest).drop 2 = putUint16 (value % 65536) ++ rest := rfl
  rw [uint32, hdr, hlo, putUint32, append_assoc, hhi]
  omega

lemma uint64_putUint64 (h : value < 18446744073709551616) (rest : Bytes) :
    uint64 (putUint64 value ++ rest) = value := by
  have hhi : uint32 (putUint32 (value / 4294967296) ++ (putUint32 (value % 4294967296) ++ rest)) = _ :=
    uint32_putUint32 (by omega) _
  have hlo : uint32 (putUint32 (value % 4294967296) ++ rest) = _ := uint32_putUint32 (by omega) _
  have hdr : (putUint64 value ++ rest).drop 4 = putUint32 (value % 4294967296) ++ rest := rfl
  rw [uint64, hdr, hlo, putUint64, append_assoc, hhi]
  omega

lemma uint32_lt (data : Bytes) : uint32 data < 4294967296 := by
  have hhi := uint16_lt data
  have hlo := uint16_lt (data.drop 2)
  rw [uint32]
  omega

lemma uint64_lt (data : Bytes) : uint64 data < 18446744073709551616 := by
  have hhi := uint32_lt data
  have hlo := uint32_lt (data.drop 4)
  rw [uint64]
  omega

lemma putUint32_uint32 (h : 4 ≤ data.length) : putUint32 (uint32 data) = data.take 4 := by
  have hlo := uint16_lt (data.drop 2)
  have hdiv : uint32 data / 65536 = uint16 data := by rw [uint32]; omega
  have hmod : uint32 data % 65536 = uint16 (data.drop 2) := by rw [uint32]; omega
  have hrs : 2 ≤ (data.drop 2).length := by rw [length_drop]; omega
  rw [putUint32, hdiv, hmod, putUint16_uint16 (by omega), putUint16_uint16 hrs, ← take_add]

lemma putUint64_uint64 (h : 8 ≤ data.length) : putUint64 (uint64 data) = data.take 8 := by
  have hlo := uint32_lt (data.drop 4)
  have hdiv : uint64 data / 4294967296 = uint32 data := by rw [uint64]; omega
  have hmod : uint64 data % 4294967296 = uint32 (data.drop 4) := by rw [uint64]; omega
  have hrs : 4 ≤ (data.drop 4).length := by rw [length_drop]; omega
  rw [putUint64, hdiv, hmod, putUint32_uint32 (by omega), putUint32_uint32 hrs, ← take_add]

/-! ## 4. Length-prefixed fields -/

/-- A byte string behind its own length. -/
def lengthPrefixed (value : Bytes) : Bytes := putUint16 value.length ++ value

@[simp] lemma length_lengthPrefixed (value : Bytes) :
    (lengthPrefixed value).length = value.length + 2 := by
  simp [lengthPrefixed]
  omega

/-- **Length-prefixed fields are unambiguous**, whatever follows them. -/
theorem lengthPrefixed_append_inj {a b r s : Bytes}
    (h : lengthPrefixed a ++ r = lengthPrefixed b ++ s) (ha : a.length < 65536)
    (hb : b.length < 65536) : a = b ∧ r = s := by
  simp only [lengthPrefixed, append_assoc] at h
  have hlen : a.length = b.length := by
    have h16 := congrArg uint16 h
    rwa [uint16_putUint16 ha, uint16_putUint16 hb] at h16
  rw [hlen] at h
  exact append_inj (append_cancel_left h) hlen

lemma flatMap_lengthPrefixed_inj :
    ∀ {as bs : List Bytes}, as.length = bs.length → (∀ a ∈ as, a.length < 65536) →
      (∀ b ∈ bs, b.length < 65536) → as.flatMap lengthPrefixed = bs.flatMap lengthPrefixed →
      as = bs
  | [], [], _, _, _, _ => rfl
  | a :: as, b :: bs, hlen, ha, hb, h => by
    rw [flatMap_cons, flatMap_cons] at h
    obtain ⟨rfl, htail⟩ := lengthPrefixed_append_inj h (ha a (.head _)) (hb b (.head _))
    rw [flatMap_lengthPrefixed_inj (Nat.succ.inj hlen) (fun x hx => ha x (.tail _ hx))
      (fun x hx => hb x (.tail _ hx)) htail]

end ReCasaOS.Lib
