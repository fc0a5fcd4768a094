/-
# Authenticated encryption with associated data

An `Aead` is a pair of functions, and nothing in this file knows how they are computed. The
two notions that the users of an AEAD assume of it are

* `Lawful`: opening what was sealed, under the same key, nonce and associated data, gives the
  plaintext back, and sealing adds a fixed overhead to the length;
* `IdealOver log`: `decrypt` succeeds on a tuple only if the tuple is one of the sealings in
  `log`, and then returns its plaintext. This is the unforgeability of an ideal AEAD, with the
  log as the record of every call of `encrypt`.
-/
import ReCasaOS.Lib.Bytes

namespace ReCasaOS.Lib

/-- `cipher.AEAD` over a type of keys: `encrypt key nonce plaintext aad` is `Seal`, and
`decrypt key nonce ciphertext aad` is `Open`. -/
structure Aead (Key : Type) where
  encrypt : Key → Bytes → Bytes → Bytes → Bytes
  decrypt : Key → Bytes → Bytes → Bytes → Option Bytes

/-- One call of `Seal`: what went in and what came out. -/
structure Sealing (Key : Type) where
  key : Key
  nonce : Bytes
  plaintext : Bytes
  aad : Bytes
  ciphertext : Bytes
  deriving DecidableEq

namespace Aead

variable {Key : Type}

/-- The correctness of an AEAD with the given overhead. -/
structure Lawful (A : Aead Key) (overhead : Nat) : Prop where
  decrypt_encrypt : ∀ key nonce plaintext aad,
    A.decrypt key nonce (A.encrypt key nonce plaintext aad) aad = some plaintext
  length_encrypt : ∀ key nonce plaintext aad,
    (A.encrypt key nonce plaintext aad).length = plaintext.length + overhead

/-- The record of one call of `encrypt`. -/
def record (A : Aead Key) (key : Key) (nonce plaintext aad : Bytes) : Sealing Key :=
  ⟨key, nonce, plaintext, aad, A.encrypt key nonce plaintext aad⟩

/-- The unforgeability of an ideal AEAD whose calls of `encrypt` are recorded in `log`. -/
def IdealOver (A : Aead Key) (log : List (Sealing Key)) : Prop :=
  ∀ key nonce ciphertext aad plaintext, A.decrypt key nonce ciphertext aad = some plaintext →
    ⟨key, nonce, plaintext, aad, ciphertext⟩ ∈ log

end Aead

end ReCasaOS.Lib
