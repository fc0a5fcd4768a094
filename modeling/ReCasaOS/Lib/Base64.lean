/-
# Base64 without padding

`base64.RawURLEncoding.EncodeToString`: three bytes are four digits of the URL-safe alphabet, and what
is left over at the end is cut short instead of padded.

Nothing decodes these strings. All that their users need is that they are as long as they should be
and consist of digits of the alphabet.
-/
import ReCasaOS.Lib.Bytes

namespace ReCasaOS.Lib

open List

/-- `A-Za-z0-9-_`. -/
def base64Digit (n : Nat) : UInt8 :=
  if n < 26 then UInt8.ofNat (65 + n)
  else if n < 52 then UInt8.ofNat (71 + n)
  else if n < 62 then UInt8.ofNat (n - 4)
  else if n = 62 then 45
  else 95

def base64RawURL : Bytes → Bytes
  | a :: b :: c :: rest =>
    base64Digit (a.toNat / 4) :: base64Digit (a.toNat % 4 * 16 + b.toNat / 16)
      :: base64Digit (b.toNat % 16 * 4 + c.toNat / 64) :: base64Digit (c.toNat % 64)
      :: base64RawURL rest
  | [a, b] =>
    [base64Digit (a.toNat / 4), base64Digit (a.toNat % 4 * 16 + b.toNat / 16),
      base64Digit (b.toNat % 16 * 4)]
  | [a] => [base64Digit (a.toNat / 4), base64Digit (a.toNat % 4 * 16)]
  | [] => []

/-- A byte of the URL-safe alphabet. -/
def isBase64URL (b : UInt8) : Bool :=
  (0x41 ≤ b && b ≤ 0x5A) || (0x61 ≤ b && b ≤ 0x7A) || (0x30 ≤ b && b ≤ 0x39) || b == 45 || b == 95

lemma isBase64URL_digit {n : Nat} (h : n < 64) : isBase64URL (base64Digit n) := by
  have hall : ∀ n < 64, isBase64URL (base64Digit n) := by decide
  exact hall n h

lemma isBase64URL_of_mem {data : Bytes} {b : UInt8} (hb : b ∈ base64RawURL data) :
    isBase64URL b := by
  fun_induction base64RawURL data with
  | case1 x y z rest ih =>
    have hx := x.toNat_lt
    have hy := y.toNat_lt
    have hz := z.toNat_lt
    simp only [mem_cons] at hb
    rcases hb with rfl | rfl | rfl | rfl | hb
    · exact isBase64URL_digit (by omega)
    · exact isBase64URL_digit (by omega)
    · exact isBase64URL_digit (by omega)
    · exact isBase64URL_digit (by omega)
    · exact ih hb
  | case2 x y =>
    have hx := x.toNat_lt
    have hy := y.toNat_lt
    simp only [mem_cons, not_mem_nil, or_false] at hb
    rcases hb with rfl | rfl | rfl
    · exact isBase64URL_digit (by omega)
    · exact isBase64URL_digit (by omega)
    · exact isBase64URL_digit (by omega)
  | case3 x =>
    have hx := x.toNat_lt
    simp only [mem_cons, not_mem_nil, or_false] at hb
    rcases hb with rfl | rfl
    · exact isBase64URL_digit (by omega)
    · exact isBase64URL_digit (by omega)
  | case4 => cases hb

lemma length_base64RawURL (data : Bytes) :
    (base64RawURL data).length = (data.length * 8 + 5) / 6 := by
  fun_induction base64RawURL data with
  | case1 x y z rest ih =>
    simp only [length_cons, ih]
    omega
  | case2 x y => simp
  | case3 x => simp
  | case4 => rfl

end ReCasaOS.Lib
