/-
# The providers of an OAuth configuration

`pkg/oauthsecurity/config.go` reads a provider from environment variables of its own: the variable of
a setting is `RECASAOS_OAUTH_`, the provider's name in capitals, `_` and the setting. A name may hold
`_` itself, so a variable does not show where the name ends. It is read from the other side: no
setting ends in `_` and another setting (`ending_unique`). Hence two providers share no variable, and
what is loaded for one does not depend on the other (`provider_settings_apart`).

`ParsePublicHTTPSURL` is a parameter, and so are the lower-case letters beyond ASCII.
-/
import ReCasaOS.OAuth.StateStore

namespace ReCasaOS.OAuth

open Lib List

/-! ## 1. The variables of a provider -/

def ascii (s : String) : Bytes := s.toUTF8.data.toList

inductive Setting
  | authURL
  | tokenURL
  | clientID
  | redirectURI
  | scopes
  | pkce
  | clientSecret
  | clientSecretFile
  | authStyle

def Setting.suffix : Setting → String
  | authURL => "AUTH_URL"
  | tokenURL => "TOKEN_URL"
  | clientID => "CLIENT_ID"
  | redirectURI => "REDIRECT_URI"
  | scopes => "SCOPES"
  | pkce => "PKCE"
  | clientSecret => "CLIENT_SECRET"
  | clientSecretFile => "CLIENT_SECRET_FILE"
  | authStyle => "AUTH_STYLE"

def upperByte (b : UInt8) : UInt8 := if 0x61 ≤ b ∧ b ≤ 0x7A then b - 32 else b

/-- What stands behind the name in the variable of a setting. -/
def Setting.ending (s : Setting) : Bytes := ascii ("_" ++ s.suffix)

/-- `strings.ToUpper` of a provider name, which is ASCII, goes byte by byte. -/
def providerVariable (name : Bytes) (s : Setting) : Bytes :=
  ascii "RECASAOS_OAUTH_" ++ (name.map upperByte ++ s.ending)

/-- The list of the providers, and the key of the stored tokens or the file it stands in. -/
def globalVariables : List Bytes :=
  ["RECASAOS_OAUTH_PROVIDERS", "RECASAOS_OAUTH_TOKEN_KEY", "RECASAOS_OAUTH_TOKEN_KEY_FILE"].map ascii

/-! ## 2. Loading a provider -/

inductive AuthStyle
  | body
  | basic

structure Provider where
  name : Bytes
  authURL : Bytes
  tokenURL : Bytes
  clientID : Bytes
  clientSecret : Bytes
  redirectURI : Bytes
  scopes : List Bytes
  authStyle : AuthStyle

def validCredential (limit : Nat) (value : Bytes) : Bool :=
  decide (value ≠ [] ∧ value.length ≤ limit ∧ trimSpace value = value) && value.all isPlain

def validClientID (value : Bytes) : Bool := validCredential 256 value

def validClientSecret (value : Bytes) : Bool := validCredential 4096 value

def isScopeByte (b : UInt8) : Bool :=
  (0x61 ≤ b && b ≤ 0x7A) || (0x41 ≤ b && b ≤ 0x5A) || (0x30 ≤ b && b ≤ 0x39)
    || (ascii "._~:/-").contains b

def parseScopes (value : Bytes) : Except Unit (List Bytes) := do
  let scopes := fields value
  check (scopes.length = 0 ∨ 16 < scopes.length) ()
  check (!scopes.all fun field => decide (field.length ≤ 64) && field.all isScopeByte) ()
  check (¬ scopes.Nodup) ()
  pure scopes

/-- An error is the text behind `invalid OAuth provider configuration: `. -/
def loadProvider (lowerRune : Nat → Nat) (parsePublicHTTPSURL : Bytes → Bool)
    (lookup readCredential : Bytes → Option Bytes) (name : Bytes) : Except String Provider := do
  let required (s : Setting) : Except String Bytes :=
    orError ((lookup (providerVariable name s)).filter (· ≠ [])) (s.suffix.toLower ++ " is missing")
  let authURL ← required .authURL
  let tokenURL ← required .tokenURL
  let clientID ← required .clientID
  let redirectURI ← required .redirectURI
  let scopeValue ← required .scopes
  check (!parsePublicHTTPSURL authURL) "auth url"
  check (!parsePublicHTTPSURL tokenURL) "token url"
  check (!parsePublicHTTPSURL redirectURI) "redirect uri"
  check (!validClientID clientID) "client id"
  let scopes ← (parseScopes scopeValue).mapError fun _ => "scopes"
  let word (value : Bytes) := toLower lowerRune (trimSpace value)
  check ((lookup (providerVariable name .pkce)).map word ≠ some (ascii "true")) "pkce must be true"
  let clientSecret ←
    match lookup (providerVariable name .clientSecret),
      lookup (providerVariable name .clientSecretFile) with
    | some secret, none => orError (some secret |>.filter validClientSecret) "client secret"
    | none, some file =>
      orError ((readCredential file).filter validClientSecret) "client secret credential"
    | _, _ => .error "exactly one client secret source is required"
  let authStyle ←
    match (lookup (providerVariable name .authStyle)).map word with
    | none => pure .body
    | some style =>
      if style = ascii "body" then pure .body
      else if style = ascii "basic" then pure .basic
      else .error "auth style"
  pure ⟨name, authURL, tokenURL, clientID, clientSecret, redirectURI, scopes, authStyle⟩

/-! ## 3. No variable is read twice -/

lemma ending_unique {s t : Setting} (h : s.ending <:+ t.ending) : s = t := by
  cases s <;> cases t <;> first | rfl | exact absurd h (by decide +kernel)

lemma ending_global (s : Setting) : ∀ v ∈ globalVariables, ¬ s.ending <:+ v := by
  cases s <;> decide +kernel

/-- Capital letters are not among the bytes of a name, so `upperByte` forgets nothing. -/
lemma upperByte_inj {b c : UInt8} (hb : isProviderByte b) (hc : isProviderByte c)
    (h : upperByte b = upperByte c) : b = c := by
  grind [isProviderByte, upperByte]

lemma map_upperByte_inj {a b : Bytes} (ha : a.all isProviderByte) (hb : b.all isProviderByte)
    (h : a.map upperByte = b.map upperByte) : a = b := by
  induction a generalizing b with
  | nil => simpa using h.symm
  | cons x a ih =>
    cases b with
    | nil => simp at h
    | cons y b =>
      simp only [all_cons, Bool.and_eq_true, map_cons, cons.injEq] at ha hb h
      rw [upperByte_inj ha.1 hb.1 h.1, ih ha.2 hb.2 h.2]

/-- The variable tells the setting, from its end, and then the name. -/
lemma providerVariable_inj {a b : Bytes} (ha : validProviderName a) (hb : validProviderName b)
    {s t : Setting} (h : providerVariable a s = providerVariable b t) : a = b := by
  have htail := append_cancel_left h
  have hst : s = t := by
    have hs : s.ending <:+ b.map upperByte ++ t.ending := ⟨_, htail⟩
    rcases suffix_or_suffix_of_suffix hs (suffix_append _ _) with hle | hle
    · exact ending_unique hle
    · exact (ending_unique hle).symm
  subst hst
  simp only [validProviderName, Bool.and_eq_true] at ha hb
  exact map_upperByte_inj ha.1.1.2 hb.1.1.2 (append_cancel_right htail)

lemma providerVariable_notGlobal (name : Bytes) (s : Setting) :
    providerVariable name s ∉ globalVariables := fun h =>
  ending_global s _ h ⟨_, append_assoc _ _ _⟩

lemma loadProvider_congr {lowerRune : Nat → Nat} {parsePublicHTTPSURL : Bytes → Bool}
    {lookup lookup' readCredential : Bytes → Option Bytes} {name : Bytes}
    (h : ∀ s, lookup (providerVariable name s) = lookup' (providerVariable name s)) :
    loadProvider lowerRune parsePublicHTTPSURL lookup readCredential name =
      loadProvider lowerRune parsePublicHTTPSURL lookup' readCredential name := by
  simp only [loadProvider, h]

/-- **Providers do not interfere**: two providers share no variable with each other or with the rest
of the configuration, so environments that differ in the variables of one, in the list or in the
token key load the other alike. -/
theorem provider_settings_apart {a b : Bytes} (ha : validProviderName a) (hb : validProviderName b)
    (hab : a ≠ b) :
    (∀ s, providerVariable a s ∉ globalVariables ∧ ∀ t, providerVariable a s ≠ providerVariable b t) ∧
    ∀ (lowerRune : Nat → Nat) (parsePublicHTTPSURL : Bytes → Bool)
      (lookup lookup' readCredential : Bytes → Option Bytes),
      (∀ v, lookup v ≠ lookup' v → v ∈ globalVariables ∨ ∃ t, v = providerVariable b t) →
      loadProvider lowerRune parsePublicHTTPSURL lookup readCredential a =
        loadProvider lowerRune parsePublicHTTPSURL lookup' readCredential a := by
  have hapart : ∀ s t, providerVariable a s ≠ providerVariable b t := fun _ _ h =>
    hab (providerVariable_inj ha hb h)
  refine ⟨fun s => ⟨providerVariable_notGlobal a s, hapart s⟩, ?_⟩
  intro lowerRune parsePublicHTTPSURL lookup lookup' readCredential hdiffer
  refine loadProvider_congr fun s => ?_
  by_contra hne
  rcases hdiffer _ hne with hglobal | ⟨t, ht⟩
  · exact providerVariable_notGlobal a s hglobal
  · exact hapart s t ht

/-- The second name goes on where the settings of the first begin. -/
theorem box_client_apart :
    validProviderName (ascii "box") ∧ validProviderName (ascii "box_client") ∧
    ∀ s t, providerVariable (ascii "box") s ≠ providerVariable (ascii "box_client") t :=
  ⟨by decide +kernel, by decide +kernel, fun s =>
    ((provider_settings_apart (by decide +kernel) (by decide +kernel) (by decide +kernel)).1 s).2⟩

end ReCasaOS.OAuth
