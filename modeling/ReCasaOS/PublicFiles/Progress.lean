/-
# Downloads that must make progress

`progressBoundedWriter` (`pkg/publicfiles/server.go`) sits between the file handler and the connection.
Before it lets a body write through it sets a write deadline, the earlier of two: the idle deadline,
counted from now, and the rate deadline, counted from the start of the response, which grows with the
bytes that were accepted.

The connection and the clock are an environment that answers as it likes: writes are short or fail,
deadlines are refused. What a download does is then a property of the history of requests: a body
write is sent only to a history that is ready for it (`MayWrite`). The first part of the module is the
arithmetic of the rate deadline, on machine words as the source has it.
-/
import ReCasaOS.FileSecurity.ManagedTree
import ReCasaOS.Lib.Dialogue

namespace ReCasaOS.PublicFiles

open Lib FileSecurity List

/-! ## 1. The time that a number of bytes may take -/

/-- The constant `math.MaxInt64`. -/
def maxInt64 : Int := 2 ^ 63 - 1

/-- The duration `time.Second`, in nanoseconds. -/
def second : Nat := 1000000000

/-- The product of `bits.Mul64`, as a high and a low word. -/
def mul64 (x y : Nat) : Nat × Nat := (x * y / 2 ^ 64, x * y % 2 ^ 64)

/-- Quotient and remainder of `bits.Div64`. -/
def div64 (high low y : Nat) : Nat × Nat :=
  ((high * 2 ^ 64 + low) / y, (high * 2 ^ 64 + low) % y)

/-- The end of `rateAllowance`: round up, then saturate. The quotient is a `uint64`, and `quotient++`
wraps. -/
def roundUp (quotient remainder : Nat) : Int :=
  if remainder ≠ 0 ∧ quotient = maxInt64 then maxInt64
  else
    let quotient := if remainder ≠ 0 then (quotient + 1) % 2 ^ 64 else quotient
    if maxInt64 < quotient then maxInt64 else quotient

def rateAllowance (byteCount bytesPerSecond : Int) : Int :=
  if byteCount ≤ 0 ∨ bytesPerSecond ≤ 0 then 0
  else
    let (high, low) := mul64 byteCount.toNat second
    let divisor := bytesPerSecond.toNat
    if divisor ≤ high then maxInt64
    else
      let (quotient, remainder) := div64 high low divisor
      roundUp quotient remainder

/-- What the rate allows over the integers: the time rounded up, and at most the longest duration. -/
def exactAllowance (byteCount bytesPerSecond : Int) : Int :=
  min ⌈(byteCount * second : ℚ) / bytesPerSecond⌉ maxInt64

/-- The quotient is the largest word and there is a remainder. -/
def Wraps (byteCount bytesPerSecond : Int) : Prop :=
  bytesPerSecond * (2 ^ 64 - 1) < byteCount * second ∧ byteCount * second < bytesPerSecond * 2 ^ 64

instance (byteCount bytesPerSecond : Int) : Decidable (Wraps byteCount bytesPerSecond) :=
  inferInstanceAs (Decidable (_ ∧ _))

section

variable {byteCount rate : Int}

lemma div64_mul64 (x y div : Nat) :
    div64 (mul64 x y).1 (mul64 x y).2 div = (x * y / div, x * y % div) := by
  have hwords : x * y / 2 ^ 64 * 2 ^ 64 + x * y % 2 ^ 64 = x * y := Nat.div_add_mod' _ _
  simp only [div64, mul64, hwords]

lemma ceil_div_eq (total divisor : Nat) (hdivi : 0 < divisor) :
    ⌈(total : ℚ) / divisor⌉ = (total / divisor + if total % divisor ≠ 0 then 1 else 0 : Nat) := by
  have hpos : (0 : ℚ) < divisor := by exact_mod_cast hdivi
  have hspt : divisor * (total / divisor) + total % divisor = total := Nat.div_add_mod total divisor
  have hrem : total % divisor < divisor := Nat.mod_lt total hdivi
  generalize total / divisor = quotient at hspt ⊢
  generalize total % divisor = remainder at hspt hrem ⊢
  rw [Int.ceil_eq_iff, lt_div_iff₀ hpos, div_le_iff₀ hpos]
  subst hspt
  by_cases hz : remainder = 0
  · subst hz
    constructor <;> simp <;> nlinarith
  · have hone : (1 : ℚ) ≤ remainder := by exact_mod_cast Nat.one_le_iff_ne_zero.mpr hz
    have hlt : (remainder : ℚ) < divisor := by exact_mod_cast hrem
    rw [if_pos hz]
    push_cast
    constructor <;> nlinarith

lemma roundUp_eq {quotient remainder : Nat} (hword : quotient < 2 ^ 64) :
    roundUp quotient remainder = if remainder ≠ 0 ∧ quotient = 2 ^ 64 - 1 then 0
        else min ((quotient + if remainder ≠ 0 then 1 else 0 : Nat) : Int) maxInt64 := by
  unfold roundUp maxInt64
  by_cases hz : remainder = 0
  · simp only [hz, ne_eq, not_true_eq_false, false_and, if_false, add_zero]
    split <;> omega
  · simp only [ne_eq, hz, not_false_eq_true, true_and, if_true]
    by_cases hla : quotient = 2 ^ 64 - 1
    · subst hla
      norm_num
    · have hmod : (quotient + 1) % 2 ^ 64 = quotient + 1 := Nat.mod_eq_of_lt (by omega)
      split
      · omega
      · split <;> omega

lemma wraps_iff {total divisor : Nat} (hdivi : 0 < divisor) :
    divisor * (2 ^ 64 - 1) < total ∧ total < divisor * 2 ^ 64
      ↔ total % divisor ≠ 0 ∧ total / divisor = 2 ^ 64 - 1 := by
  have hspt : divisor * (total / divisor) + total % divisor = total := Nat.div_add_mod total divisor
  have hrem : total % divisor < divisor := Nat.mod_lt total hdivi
  constructor
  · rintro ⟨hlow, hhigh⟩
    have hquot : total / divisor = 2 ^ 64 - 1 :=
      Nat.div_eq_of_lt_le (by rw [mul_comm]; exact hlow.le) (by rw [mul_comm]; exact hhigh)
    rw [hquot] at hspt
    exact ⟨by omega, hquot⟩
  · rintro ⟨hz, hquot⟩
    rw [hquot] at hspt
    constructor <;> omega

/-- **What `rateAllowance` returns.** -/
theorem rateAllowance_eq (hbs : 0 < byteCount) (hrate : 0 < rate) : rateAllowance byteCount rate
      = if Wraps byteCount rate then 0 else exactAllowance byteCount rate := by
  obtain ⟨bytes, rfl⟩ := Int.eq_ofNat_of_zero_le hbs.le
  obtain ⟨divisor, rfl⟩ := Int.eq_ofNat_of_zero_le hrate.le
  have hdivi : 0 < divisor := by exact_mod_cast hrate
  have hpos : ¬((bytes : Int) ≤ 0 ∨ (divisor : Int) ≤ 0) := by omega
  have hwraps : Wraps bytes divisor
      ↔ bytes * second % divisor ≠ 0 ∧ bytes * second / divisor = 2 ^ 64 - 1 := by
    rw [← wraps_iff hdivi, Wraps, second]
    omega
  have hexact : exactAllowance bytes divisor
      = min ((bytes * second / divisor + if bytes * second % divisor ≠ 0 then 1 else 0 : Nat) : Int)
          maxInt64 := by
    rw [exactAllowance, ← ceil_div_eq _ _ hdivi]
    push_cast
    rfl
  simp only [rateAllowance, if_neg hpos, Int.toNat_natCast, div64_mul64]
  generalize htot : bytes * second = total at hwraps hexact
  by_cases hlarge : divisor ≤ (mul64 bytes second).1
  · -- The quotient does not fit a word, so the exact time is beyond every duration.
    have hquot : 2 ^ 64 ≤ total / divisor := by
      rw [mul64, htot] at hlarge
      rw [Nat.le_div_iff_mul_le hdivi, Nat.mul_comm]
      exact (Nat.le_div_iff_mul_le (by norm_num)).mp hlarge
    rw [if_pos hlarge, if_neg (by rw [hwraps]; omega), hexact]
    unfold maxInt64
    omega
  · have hquot : total / divisor < 2 ^ 64 := by
      rw [mul64, htot] at hlarge
      rw [Nat.div_lt_iff_lt_mul hdivi, Nat.mul_comm]
      exact (Nat.div_lt_iff_lt_mul (by norm_num)).mp (Nat.lt_of_not_le hlarge)
    rw [if_neg hlarge, roundUp_eq hquot, hexact]
    exact if_congr hwraps.symm rfl rfl

lemma exactAllowance_pos (hbs : 0 < byteCount) (hrate : 0 < rate) :
    0 < exactAllowance byteCount rate := by
  have hceil : 0 < ⌈(byteCount * second : ℚ) / rate⌉ := by
    rw [Int.ceil_pos]
    have hs : (0 : ℚ) < second := by norm_num [second]
    positivity
  exact lt_min hceil (by norm_num [maxInt64])

lemma exactAllowance_le_of_le {more : Int} (hrate : 0 < rate) (hle : byteCount ≤ more) :
    exactAllowance byteCount rate ≤ exactAllowance more rate := by
  unfold exactAllowance
  gcongr

lemma exactAllowance_le_of_rate_le {slower : Int} (hbs : 0 < byteCount) (hslower : 0 < slower)
    (hle : slower ≤ rate) : exactAllowance byteCount rate ≤ exactAllowance byteCount slower := by
  unfold exactAllowance
  gcongr

/-- A larger exact time is a larger allowance, unless it wrapped. -/
lemma ite_wraps_le_iff {small large : Int} {w w' : Prop} [Decidable w] [Decidable w']
    (hpos : 0 < small) (hle : small ≤ large) :
    (if w then 0 else small) ≤ (if w' then 0 else large) ↔ (w' → w) := by
  by_cases hw : w <;> by_cases hw' : w' <;> simp [hw, hw'] <;> omega

/-- **The rate allowance is exact and saturating, except where it wraps.** For positive bytes and
rates it is the exact time, unless the quotient of the division is the largest word and there is a
remainder; it grows with the bytes, and falls with the rate, exactly as far as the larger side does not
wrap alone. -/
theorem rateAllowance_exact_iff_not_wraps (byteCount rate : Int) (hbytes : 0 < byteCount)
    (hrate : 0 < rate) :
    (rateAllowance byteCount rate = exactAllowance byteCount rate ↔ ¬Wraps byteCount rate) ∧
    (∀ more, byteCount ≤ more → (rateAllowance byteCount rate ≤ rateAllowance more rate ↔
        (Wraps more rate → Wraps byteCount rate))) ∧
    (∀ slower, 0 < slower → slower ≤ rate →
      (rateAllowance byteCount rate ≤ rateAllowance byteCount slower ↔
        (Wraps byteCount slower → Wraps byteCount rate))) := by
  have hpos := exactAllowance_pos hbytes hrate
  refine ⟨?_, fun more hmore => ?_, fun slower hslower hle => ?_⟩
  · rw [rateAllowance_eq hbytes hrate]
    by_cases hwraps : Wraps byteCount rate <;> simp [hwraps]
    exact hpos.ne
  · rw [rateAllowance_eq hbytes hrate, rateAllowance_eq (hbytes.trans_le hmore) hrate]
    exact ite_wraps_le_iff hpos (exactAllowance_le_of_le hrate hmore)
  · rw [rateAllowance_eq hbytes hrate, rateAllowance_eq hbytes hslower]
    exact ite_wraps_le_iff hpos (exactAllowance_le_of_rate_le hbytes hslower hle)

/-- One byte before the bytes that wrap at this rate. -/
theorem rateAllowance_exact_below_wrap : (0 < (865595018914746 : Int) ∧ 0 < (46924 : Int)) ∧
    rateAllowance 865595018914746 46924 = exactAllowance 865595018914746 46924 :=
  ⟨by decide,
    (rateAllowance_exact_iff_not_wraps 865595018914746 46924 (by decide) (by decide)).1.mpr
      (by decide)⟩

/-- One byte more, and the client that had the longest time has none. -/
theorem rateAllowance_wraps_to_zero :
    rateAllowance 865595018914746 46924 = maxInt64 ∧ rateAllowance 865595018914747 46924 = 0 ∧
    rateAllowance 865595018914747 46925 = maxInt64 ∧
    exactAllowance 865595018914747 46924 = maxInt64 := by
  refine ⟨by decide, by decide, by decide, ?_⟩
  have hceil : (2 ^ 63 - 1 : Int) ≤ ⌈((865595018914747 : Int) * second : ℚ) / (46924 : Int)⌉ := by
    refine Int.le_ceil_iff.mpr ?_
    norm_num [second]
  exact min_eq_right hceil

end

/-! ## 2. The writer -/

/-- What the writer asks of the clock, of the connection and of the response below it. Times and
durations are nanoseconds, and the zero time is 0. -/
inductive ResponseRequest where
  | now
  | setWriteDeadline (deadline : Int)
  | delHeader (name : String)
  | setHeader (name value : String)
  | writeHeader (status : Nat)
  | write (payload : Bytes)
  deriving DecidableEq, Repr

/-- The answers; a write returns the bytes it accepted and its error. -/
abbrev ResponseAnswer : ResponseRequest → Type
  | .now => Int
  | .setWriteDeadline _ => Option OpError
  | .delHeader _ | .setHeader _ _ | .writeHeader _ => Unit
  | .write _ => Int × Option OpError

structure ProgressBoundedWriter where
  started : Int
  idleTimeout : Int
  minimumGrace : Int
  minimumRate : Int
  bodyBytes : Int
  lastProgress : Int
  wroteHeader : Bool
  writeErr : Option OpError

/-- The writer and what was said so far. -/
structure Download where
  writer : ProgressBoundedWriter
  history : History ResponseAnswer

def errDownloadDeadlineUnavailable : OpError :=
  textError "public file download deadline control is unavailable"

def errDownloadWriteIdleExceeded : OpError :=
  textError "public file download write idle deadline exceeded"

/-- The constant `maxDownloadDeadlineCreditBytes`. -/
def maxDownloadDeadlineCreditBytes : Int := 65536

/-- The sum of byte counts, which stops at the largest `int64`. -/
def saturatingAdd (count more : Int) : Int :=
  if maxInt64 - count < more then maxInt64 else count + more

/-- The settings of `httpServerConfig` that the writer takes. -/
structure DownloadConfig where
  idleTimeout : Int
  minimumRateGrace : Int
  minimumRate : Int

def downloadHeaders : List String :=
  ["Accept-Ranges", "Content-Disposition", "Content-Encoding", "Content-Location", "Content-Length",
    "Content-Range", "Content-Type", "ETag", "Last-Modified", "Trailer", "Transfer-Encoding"]

namespace Download

variable (env : Environment ResponseAnswer)

def ask {ε : Type} (q : ResponseRequest) : Fallible Download ε (ResponseAnswer q) := fun s =>
  (.ok (env s.history q), { s with history := s.history ++ [⟨q, env s.history q⟩] })

def update {ε : Type} (f : ProgressBoundedWriter → ProgressBoundedWriter) : Fallible Download ε Unit :=
  .modify fun s => { s with writer := f s.writer }

/-- The bytes that the rate deadline counts for a write of `nextBytes`. -/
def accountedBytes (bodyBytes : Int) (nextBytes : Nat) : Int :=
  if 0 < nextBytes then saturatingAdd bodyBytes (min nextBytes maxDownloadDeadlineCreditBytes)
  else bodyBytes

/-- The deadline for a write of `nextBytes` at time `now`. -/
def deadlineAt (w : ProgressBoundedWriter) (now : Int) (nextBytes : Nat) : Int :=
  let rateDeadline :=
    w.started + w.minimumGrace + rateAllowance (accountedBytes w.bodyBytes nextBytes) w.minimumRate
  if rateDeadline < now + w.idleTimeout then rateDeadline else now + w.idleTimeout

/-- The start stands for a progress at the zero time. -/
def resetProgress (w : ProgressBoundedWriter) : ProgressBoundedWriter :=
  if w.lastProgress = 0 then { w with lastProgress := w.started } else w

def setDeadline (nextBytes : Nat) : Fallible Download OpError Unit := do
  let now : Int ← ask env .now
  update resetProgress
  let s ← .get
  .guard (s.writer.lastProgress + s.writer.idleTimeout ≤ now) errDownloadWriteIdleExceeded
  let err : Option OpError ← ask env (.setWriteDeadline (deadlineAt s.writer now nextBytes))
  match err with
  | some err => .fail (.joined [errDownloadDeadlineUnavailable, err])
  | none => pure ()

def clearDownloadRepresentationHeaders : List String → Fallible Download Empty Unit
  | [] => pure ()
  | name :: names => do
    ask env (.delHeader name)
    clearDownloadRepresentationHeaders names

def forwardHeader (status : Nat) : Except OpError Unit → Fallible Download Empty Unit
  | .error err => do
    update fun w => { w with writeErr := some err }
    clearDownloadRepresentationHeaders env downloadHeaders
    ask env (.setHeader "Content-Length" "0")
    ask env (.setHeader "Connection" "close")
    ask env (.writeHeader 500)
  | .ok () => ask env (.writeHeader status)

/-- The deadline that the first `WriteHeader` sets. -/
def headerDeadline : Fallible Download OpError Unit := do
  update fun w => { w with wroteHeader := true }
  setDeadline env 0

def writeHeader (status : Nat) : Fallible Download Empty Unit := do
  let s ← .get
  if s.writer.wroteHeader then pure ()
  else do
    let deadline ← .attempt (headerDeadline env)
    forwardHeader env status deadline

/-- What `Write` notes of a write that made progress. -/
def noteProgress (written : Int) : Fallible Download Empty Unit :=
  if 0 < written then do
    let now : Int ← ask env .now
    update fun w =>
      { w with lastProgress := now, bodyBytes := saturatingAdd w.bodyBytes written }
  else pure ()

def noteFailure : Option OpError → Fallible Download Empty Unit
  | some err => update fun w => { w with writeErr := some err }
  | none => pure ()

def writeBody (payload : Bytes) : Except OpError Unit → Fallible Download Empty (Int × Option OpError)
  | .error err => do
    update fun w => { w with writeErr := some err }
    pure (0, some err)
  | .ok () => do
    let answer : Int × Option OpError ← ask env (.write payload)
    noteProgress env answer.1
    noteFailure answer.2
    pure answer

/-- The first `if` of `Write`. -/
def ensureHeader : Fallible Download Empty Unit := do
  let s ← .get
  if s.writer.wroteHeader then pure () else writeHeader env 200

def write (payload : Bytes) : Fallible Download Empty (Int × Option OpError) := do
  ensureHeader env
  let s ← .get
  match s.writer.writeErr with
  | some err => pure (0, some err)
  | none => do
    let deadline ← .attempt (setDeadline env payload.length)
    writeBody env payload deadline

end Download

/-- A call of the handler above. -/
inductive DownloadCall where
  | writeHeader (status : Nat)
  | write (payload : Bytes)
  deriving DecidableEq, Repr

namespace Download

variable (env : Environment ResponseAnswer)

/-- The writer that `progressBoundedDownloadHandler` makes. -/
def start (config : DownloadConfig) : Download where
  writer :=
    { started := env [] .now, idleTimeout := config.idleTimeout, minimumGrace := config.minimumRateGrace,
      minimumRate := config.minimumRate, bodyBytes := 0, lastProgress := env [] .now,
      wroteHeader := false, writeErr := none }
  history := [⟨.now, env [] .now⟩]

def serve (s : Download) : DownloadCall → Download
  | .writeHeader status => (writeHeader env status s).2
  | .write payload => (write env payload s).2

def serveAll (config : DownloadConfig) (calls : List DownloadCall) : Download :=
  calls.foldl (serve env) (start env config)

/-- The call meets an error: `Write` returns it, and `WriteHeader` keeps it for the next `Write`. -/
def Fails (s : Download) : DownloadCall → Prop
  | .writeHeader _ => s.writer.wroteHeader = false ∧ ∃ err, (headerDeadline env s).1 = .error err
  | .write payload => ∃ written err, (write env payload s).1 = .ok (written, some err)

end Download

/-! ## 3. What a history says -/

section

/-- The reading of the clock. -/
def reading : Exchange ResponseAnswer → Option Int
  | ⟨.now, time⟩ => some time
  | _ => none

/-- The body bytes that a request got accepted. -/
def written : Exchange ResponseAnswer → Int
  | ⟨.write _, answer⟩ => max answer.1 0
  | _ => 0

/-- The error that the request was answered with. -/
def failure : Exchange ResponseAnswer → Option OpError
  | ⟨.write _, answer⟩ => answer.2
  | ⟨.setWriteDeadline _, err⟩ => err
  | _ => none

def sendsHeader : ResponseRequest → Bool
  | .writeHeader _ => true
  | _ => false

def sendsBody : ResponseRequest → Bool
  | .write _ => true
  | _ => false

def accepted : History ResponseAnswer → Int
  | [] => 0
  | e :: rest => written e + accepted rest

/-- The clock never went back. -/
def NonDecreasing (h : History ResponseAnswer) : Prop := (h.filterMap reading).Pairwise (· ≤ ·)

/-- The time of the last accepted byte: the reading right after the last write that made progress, or
the start. -/
def LastAccepted (started : Int) (h : History ResponseAnswer) (last : Int) : Prop :=
  (last = started ∧ ∀ e ∈ h, written e = 0) ∨
  ∃ before e after, h = before ++ e :: ⟨.now, last⟩ :: after ∧ 0 < written e ∧ ∀ e ∈ after, written e = 0

/-- **The history is ready for a body write of so many bytes.** A deadline was set just before, within
both bounds; less than the idle time has passed since the last accepted byte, and nothing failed. -/
def MayWrite (config : DownloadConfig) (started : Int) (size : Nat) (h : History ResponseAnswer) : Prop :=
  ∃ before now deadline last,
    h = before ++ [⟨.now, now⟩, ⟨.setWriteDeadline deadline, none⟩] ∧
    LastAccepted started h last ∧ now < last + config.idleTimeout ∧
    deadline ≤ now + config.idleTimeout ∧
    deadline ≤ started + config.minimumRateGrace
      + rateAllowance (min (accepted h + min (size : Int) maxDownloadDeadlineCreditBytes) maxInt64)
          config.minimumRate ∧
    ∀ e ∈ h, failure e = none

variable {h : History ResponseAnswer} {started last : Int}

lemma accepted_append (h new : History ResponseAnswer) :
    accepted (h ++ new) = accepted h + accepted new := by
  induction h with
  | nil => simp [accepted]
  | cons e rest ih => simp only [cons_append, accepted, ih, add_assoc]

/-- A request without accepted bytes does not move the last progress. -/
lemma LastAccepted.snoc (hla : LastAccepted started h last) {e : Exchange ResponseAnswer}
    (he : written e = 0) : LastAccepted started (h ++ [e]) last := by
  have hsnoc : ∀ {l : History ResponseAnswer}, (∀ e ∈ l, written e = 0) →
      ∀ d ∈ l ++ [e], written d = 0 := by
    intro l hl d hd
    rcases mem_append.mp hd with hd | hd
    · exact hl d hd
    · obtain rfl := mem_singleton.mp hd
      exact he
  rcases hla with ⟨rfl, hno⟩ | ⟨before, d, after, rfl, hd, haf⟩
  · exact .inl ⟨rfl, hsnoc hno⟩
  · exact .inr ⟨before, d, after ++ [e], by simp, hd, hsnoc haf⟩

lemma NonDecreasing.of_append {new : History ResponseAnswer} (hclk : NonDecreasing (h ++ new)) :
    NonDecreasing h := by
  rw [NonDecreasing, filterMap_append] at hclk
  exact (pairwise_append.mp hclk).1

lemma LastAccepted.started_le {rest : History ResponseAnswer}
    (hla : LastAccepted started (⟨.now, started⟩ :: rest) last)
    (hclk : NonDecreasing (⟨.now, started⟩ :: rest)) : started ≤ last := by
  have hlater : ∀ time ∈ rest.filterMap reading, started ≤ time := (pairwise_cons.mp hclk).1
  rcases hla with ⟨rfl, -⟩ | ⟨before, e, after, heq, -, -⟩
  · exact le_refl _
  · have hmem : ⟨.now, last⟩ ∈ (⟨.now, started⟩ :: rest : History ResponseAnswer) := by
      rw [heq]
      simp
    rcases mem_cons.mp hmem with hfst | hmem
    · cases hfst
      exact le_refl _
    · exact hlater last (mem_filterMap.mpr ⟨_, hmem, rfl⟩)

end

/-! ## 4. One call -/

/-- Requests that neither send the header nor a part of the body. -/
def isSilent (q : ResponseRequest) : Prop := sendsHeader q = false ∧ sendsBody q = false

/-- When the body may be sent, as far as the clock did not go back. -/
def bodyReady (config : DownloadConfig) (started : Int) (q : ResponseRequest)
    (before : History ResponseAnswer) : Prop :=
  ∀ payload, q = .write payload → NonDecreasing before → MayWrite config started payload.length before

/-- The writer's counters are what the history says. `setDeadline` takes a progress at the zero time for
none, so the last progress may also stand at the start. -/
structure Accounted (config : DownloadConfig) (started : Int) (s : Download) : Prop where
  guarded : Guarded (bodyReady config started) s.history
  opened : ∃ rest, s.history = ⟨.now, started⟩ :: rest
  since : s.writer.started = started
  idle : s.writer.idleTimeout = config.idleTimeout
  grace : s.writer.minimumGrace = config.minimumRateGrace
  rate : s.writer.minimumRate = config.minimumRate
  body : s.writer.bodyBytes = min (accepted s.history) maxInt64
  progress : ∃ last, LastAccepted started s.history last ∧
    (s.writer.lastProgress = last ∨ s.writer.lastProgress = started)

section

variable {env : Environment ResponseAnswer} {config : DownloadConfig} {started : Int}
variable {s : Download}

open Download

variable {q : ResponseRequest} {h : History ResponseAnswer} {t : Download}

lemma ask_ends {ε : Type} {P : ResponseAnswer q → Download → Prop} {E : ε → Download → Prop}
    (hP : ∀ a, P a { s with history := s.history ++ [⟨q, a⟩] }) :
    (ask env q : Fallible Download ε (ResponseAnswer q)).Ends s P E :=
  .of_ok rfl (hP (env s.history q))

lemma update_ends {ε : Type} {f : ProgressBoundedWriter → ProgressBoundedWriter}
    {P : Unit → Download → Prop} {E : ε → Download → Prop}
    (hP : P () { s with writer := f s.writer }) : (update f : Fallible Download ε Unit).Ends s P E :=
  .of_ok rfl hP

lemma written_of_not_sendsBody (a : ResponseAnswer q) (hq : sendsBody q = false) :
    written ⟨q, a⟩ = 0 := by
  cases q with
  | write payload => cases hq
  | _ => rfl

lemma Accounted.snoc (hs : Accounted config started s) (a : ResponseAnswer q)
    (hrdy : bodyReady config started q s.history) (hwr : written ⟨q, a⟩ = 0) :
    Accounted config started { s with history := s.history ++ [⟨q, a⟩] } := by
  obtain ⟨rest, hrs⟩ := hs.opened
  obtain ⟨last, hla, hpg⟩ := hs.progress
  refine ⟨hs.guarded.snoc a hrdy, ⟨rest ++ [⟨q, a⟩], ?_⟩, hs.since, hs.idle, hs.grace, hs.rate, ?_,
    last, hla.snoc hwr, hpg⟩
  · rw [hrs]
    rfl
  · rw [accepted_append, accepted, hwr, accepted]
    simpa using hs.body

lemma bodyReady_of_not_sendsBody (hq : sendsBody q = false) : bodyReady config started q h := by
  rintro payload rfl
  cases hq

lemma Accounted.say (hs : Accounted config started s) (a : ResponseAnswer q)
    (hq : sendsBody q = false) :
    Accounted config started { s with history := s.history ++ [⟨q, a⟩] } :=
  hs.snoc a (bodyReady_of_not_sendsBody hq) (written_of_not_sendsBody a hq)

lemma Accounted.reset (hs : Accounted config started s) :
    Accounted config started { s with writer := resetProgress s.writer } := by
  unfold resetProgress
  split
  · obtain ⟨last, hla, -⟩ := hs.progress
    exact ⟨hs.guarded, hs.opened, hs.since, hs.idle, hs.grace, hs.rate, hs.body, last, hla,
      .inr hs.since⟩
  · exact hs

lemma saturatingAdd_eq {total count : Int} (hcnt : 0 ≤ count) :
    saturatingAdd (min total maxInt64) count = min (total + count) maxInt64 := by
  unfold saturatingAdd maxInt64
  split <;> omega

variable {payload : Bytes}

/-- A write that made progress, and the reading of the clock after it. -/
lemma Accounted.advance (hs : Accounted config started s) {count : Int}
    (err : Option OpError) (now : Int) (hrdy : bodyReady config started (.write payload) s.history)
    (hcnt : 0 < count) :
    Accounted config started
      ⟨{ s.writer with lastProgress := now, bodyBytes := saturatingAdd s.writer.bodyBytes count },
        s.history ++ [⟨.write payload, (count, err)⟩] ++ [⟨.now, now⟩]⟩ := by
  have hwr : written ⟨.write payload, (count, err)⟩ = count := max_eq_left hcnt.le
  obtain ⟨rest, hrs⟩ := hs.opened
  refine ⟨(hs.guarded.snoc _ hrdy).snoc _ nofun,
    ⟨rest ++ [⟨.write payload, (count, err)⟩] ++ [⟨.now, now⟩], ?_⟩, hs.since, hs.idle, hs.grace, hs.rate,
    ?_, now, ?_, .inl rfl⟩
  · rw [hrs]
    rfl
  · rw [accepted_append, accepted_append, accepted, hwr, accepted, hs.body,
      saturatingAdd_eq hcnt.le]
    simp [accepted, written]
  · exact .inr ⟨s.history, _, [], by simp, hwr ▸ hcnt, nofun⟩

lemma accountedBytes_eq (hs : Accounted config started s) (size : Nat) :
    accountedBytes s.writer.bodyBytes size
      = min (accepted s.history + min (size : Int) maxDownloadDeadlineCreditBytes) maxInt64 := by
  unfold accountedBytes
  rw [hs.body]
  split
  case isTrue hsz =>
    refine saturatingAdd_eq (le_min ?_ ?_)
    · omega
    · decide
  case isFalse hsz =>
    obtain rfl : size = 0 := by omega
    simp [maxDownloadDeadlineCreditBytes]

lemma deadlineAt_le_idle (w : ProgressBoundedWriter) (now : Int) (size : Nat) :
    deadlineAt w now size ≤ now + w.idleTimeout := by
  simp only [deadlineAt]
  split <;> omega

lemma deadlineAt_le_rate (w : ProgressBoundedWriter) (now : Int) (size : Nat) :
    deadlineAt w now size
      ≤ w.started + w.minimumGrace + rateAllowance (accountedBytes w.bodyBytes size) w.minimumRate := by
  simp only [deadlineAt]
  split <;> omega

/-- Nothing was answered with an error. -/
def Clean (h : History ResponseAnswer) : Prop := ∀ e ∈ h, failure e = none

lemma Clean.snoc {e : Exchange ResponseAnswer} (hh : Clean h) (he : failure e = none) :
    Clean (h ++ [e]) := by
  intro d hd
  rcases mem_append.mp hd with hd | hd
  · exact hh d hd
  · obtain rfl := mem_singleton.mp hd
    exact he

/-- The download went on without the header and the body. -/
structure Prepares (config : DownloadConfig) (started : Int) (s t : Download) : Prop where
  accounted : Accounted config started t
  header : t.writer.wroteHeader = s.writer.wroteHeader
  err : t.writer.writeErr = s.writer.writeErr
  silent : Grows isSilent s.history t.history

lemma Prepares.say (ht : Prepares config started s t) (a : ResponseAnswer q) (hq : isSilent q) :
    Prepares config started s { t with history := t.history ++ [⟨q, a⟩] } :=
  ⟨ht.accounted.say a hq.2, ht.header, ht.err, ht.silent.trans (.single a hq)⟩

lemma Prepares.reset (ht : Prepares config started s t) :
    Prepares config started s { t with writer := resetProgress t.writer } := by
  have hhdr : (resetProgress t.writer).wroteHeader = t.writer.wroteHeader := by
    unfold resetProgress
    split <;> rfl
  have herr : (resetProgress t.writer).writeErr = t.writer.writeErr := by
    unfold resetProgress
    split <;> rfl
  exact ⟨ht.accounted.reset, hhdr.trans ht.header, herr.trans ht.err, ht.silent⟩

/-- **A deadline that was set.** The history is ready for a body write of so many bytes. -/
theorem Accounted.mayWrite {w : ProgressBoundedWriter} {now : Int} {size : Nat}
    (hs : Accounted config started ⟨w, h ++ [⟨.now, now⟩]⟩)
    (hid : ¬w.lastProgress + w.idleTimeout ≤ now) (hcln : Clean h)
    (hclk : NonDecreasing (h ++ [⟨.now, now⟩])) :
    MayWrite config started size
      (h ++ [⟨.now, now⟩] ++ [⟨.setWriteDeadline (deadlineAt w now size), none⟩]) := by
  obtain ⟨last, hla, hpg⟩ := hs.progress
  obtain ⟨rest, hrs⟩ := hs.opened
  have hrecent : w.lastProgress ≤ last := by
    rcases hpg with heq | heq
    · exact heq.le
    · simp only at hrs
      rw [hrs] at hla hclk
      exact heq.le.trans (hla.started_le hclk)
  refine ⟨h, now, deadlineAt w now size, last, by simp, hla.snoc rfl, ?_, ?_, ?_, ?_⟩
  · rw [← hs.idle]
    simp only
    omega
  · rw [← hs.idle]
    exact deadlineAt_le_idle w now size
  · have hrate := deadlineAt_le_rate w now size
    have hcnt := accountedBytes_eq hs size
    rw [accepted_append, ← hs.since, ← hs.grace, ← hs.rate]
    simp only [accepted, written, add_zero]
    rwa [hcnt] at hrate
  · exact (hcln.snoc rfl).snoc rfl

/-- **One deadline.** -/
theorem setDeadline_ends (hs : Accounted config started s) (size : Nat) :
    (setDeadline env size).Ends s
      (fun _ t => Prepares config started s t ∧ (Clean s.history → Clean t.history) ∧
        (Clean s.history → NonDecreasing t.history → MayWrite config started size t.history))
      fun _ t => Prepares config started s t := by
  have hsrt : Prepares config started s s := ⟨hs, rfl, rfl, .refl _⟩
  refine .seq (ask_ends fun now => .seq (update_ends (.seq (.get ?_))))
  refine .seq (.guard (fun _ => ?_) fun hid => ?_)
  · exact (hsrt.say now ⟨rfl, rfl⟩).reset
  · have hnow := (hsrt.say now ⟨rfl, rfl⟩).reset
    refine .seq (ask_ends fun err => ?_)
    cases err with
    | some err => exact .fail (hnow.say (q := .setWriteDeadline _) (some err) ⟨rfl, rfl⟩)
    | none =>
      refine .pure ⟨hnow.say (q := .setWriteDeadline _) none ⟨rfl, rfl⟩,
        fun hcln => (hcln.snoc rfl).snoc rfl, fun hcln hclk => ?_⟩
      exact hnow.accounted.mayWrite hid hcln hclk.of_append

/-- The state of a download between calls. -/
structure Bounded (config : DownloadConfig) (started : Int) (s : Download) : Prop where
  accounted : Accounted config started s
  headers : s.history.countP (fun e => sendsHeader e.1) = if s.writer.wroteHeader then 1 else 0
  unwritten : s.writer.wroteHeader = false → s.writer.writeErr = none
  clean : s.writer.writeErr = none → Clean s.history

lemma countP_grows {t : History ResponseAnswer} (ht : Grows isSilent h t) :
    t.countP (fun e => sendsHeader e.1) = h.countP fun e => sendsHeader e.1 := by
  obtain ⟨new, rfl, hnew⟩ := ht
  have hz : new.countP (fun e => sendsHeader e.1) = 0 :=
    countP_eq_zero.mpr fun e he => by simp [(hnew e he).1]
  rw [countP_append, hz, add_zero]

lemma clearDownloadRepresentationHeaders_ends (ht : Prepares config started s t)
    (names : List String) :
    (clearDownloadRepresentationHeaders env names).Ends t (fun _ u => Prepares config started s u)
      fun _ _ => False := by
  induction names generalizing t with
  | nil => exact .pure ht
  | cons name names ih =>
    exact .seq (ask_ends fun a => ih (ht.say (q := .delHeader name) a ⟨rfl, rfl⟩))

/-- The header goes out, whether or not the deadline could be set. -/
lemma forwardHeader_ends (hs : Bounded config started s) (hunwr : s.writer.wroteHeader = false)
    (ht : Prepares config started { s with writer := { s.writer with wroteHeader := true } } t)
    (status : Nat) (deadline : Except OpError Unit) (hcln : deadline = .ok () → Clean t.history) :
    (forwardHeader env status deadline).Ends t
      (fun _ u => Bounded config started u ∧ u.writer.wroteHeader ∧
        u.writer.writeErr = failureOf deadline)
      fun _ _ => False := by
  have hcnt : ∀ {h : History ResponseAnswer} (status : Nat), Grows isSilent s.history h →
      (h ++ [⟨.writeHeader status, ()⟩] : History ResponseAnswer).countP (fun e => sendsHeader e.1)
        = 1 := by
    intro h status hgrows
    rw [countP_append, countP_grows hgrows, hs.headers, hunwr]
    rfl
  cases deadline with
  | error err =>
    have hfa : Prepares config started
        { s with writer := { s.writer with wroteHeader := true, writeErr := some err } }
        { t with writer := { t.writer with writeErr := some err } } :=
      ⟨⟨ht.accounted.guarded, ht.accounted.opened, ht.accounted.since, ht.accounted.idle,
        ht.accounted.grace, ht.accounted.rate, ht.accounted.body, ht.accounted.progress⟩,
        ht.header, rfl, ht.silent⟩
    refine .seq (update_ends (.bind (clearDownloadRepresentationHeaders_ends hfa _) fun _ u hu => ?_))
    refine .seq (ask_ends fun a => .seq (ask_ends fun b => ask_ends fun c => ?_))
    have hset := (hu.say (q := .setHeader _ _) a ⟨rfl, rfl⟩).say (q := .setHeader _ _) b ⟨rfl, rfl⟩
    refine ⟨⟨hset.accounted.say (q := .writeHeader _) c rfl, ?_, ?_, ?_⟩, hset.header, hset.err⟩
    · rw [show _ = true from hset.header]
      exact hcnt _ hset.silent
    · intro hf
      rw [show _ = true from hset.header] at hf
      cases hf
    · intro hno
      rw [show _ = some err from hset.err] at hno
      cases hno
  | ok =>
    refine ask_ends fun a => ⟨⟨ht.accounted.say (q := .writeHeader _) a rfl, ?_, ?_, ?_⟩, ht.header, ?_⟩
    · rw [show _ = true from ht.header]
      exact hcnt _ ht.silent
    · intro hf
      rw [show _ = true from ht.header] at hf
      cases hf
    · intro _
      exact (hcln rfl).snoc rfl
    · exact ht.err.trans (hs.unwritten hunwr)

lemma headerDeadline_ends (hs : Bounded config started s) : (headerDeadline env).Ends s
      (fun _ t => Prepares config started { s with writer := { s.writer with wroteHeader := true } } t ∧
        (Clean s.history → Clean t.history))
      fun _ t => Prepares config started { s with writer := { s.writer with wroteHeader := true } } t := by
  have hmarked : Accounted config started { s with writer := { s.writer with wroteHeader := true } } :=
    ⟨hs.accounted.guarded, hs.accounted.opened, hs.accounted.since, hs.accounted.idle,
      hs.accounted.grace, hs.accounted.rate, hs.accounted.body, hs.accounted.progress⟩
  refine .seq (update_ends ((setDeadline_ends hmarked 0).mono ?_ fun _ _ ht => ht))
  exact fun _ _ ht => ⟨ht.1, ht.2.1⟩

/-- **`WriteHeader`.** It keeps the error of its deadline, and does nothing when it is called again. -/
theorem writeHeader_ends (hs : Bounded config started s) (status : Nat) :
    (writeHeader env status).Ends s (fun _ t => Bounded config started t ∧ t.writer.wroteHeader ∧
        (s.writer.wroteHeader → t = s) ∧
        (s.writer.wroteHeader = false → t.writer.writeErr = failureOf (headerDeadline env s).1))
      fun _ _ => False := by
  refine .seq (.get ?_)
  by_cases hwt : s.writer.wroteHeader
  · rw [if_pos hwt]
    exact .pure ⟨hs, hwt, fun _ => rfl, fun hf => by rw [hwt] at hf; cases hf⟩
  · rw [if_neg hwt]
    have hunwr : s.writer.wroteHeader = false := by simpa using hwt
    have hcln := hs.clean (hs.unwritten hunwr)
    have hddl := @headerDeadline_ends env _ _ _ hs
    refine .seq (.attempt ⟨fun a ha => ?_, fun err herr => ?_⟩)
    · obtain ⟨ht, hkeeps⟩ := hddl.1 a ha
      refine (forwardHeader_ends hs hunwr ht status (.ok a) fun _ => hkeeps hcln).mono ?_ nofun
      rintro _ u ⟨hu, hhdr, herr⟩
      exact ⟨hu, hhdr, fun htrue => absurd htrue hwt, fun _ => by rw [herr, ha]⟩
    · have ht := hddl.2 err herr
      refine (forwardHeader_ends hs hunwr ht status (.error err) nofun).mono ?_ nofun
      rintro _ u ⟨hu, hhdr, hk⟩
      exact ⟨hu, hhdr, fun htrue => absurd htrue hwt, fun _ => by rw [hk, herr]⟩

lemma noteProgress_ends {count : Int} {err : Option OpError}
    (hs : Accounted config started s) (hrdy : bodyReady config started (.write payload) s.history) :
    (noteProgress env count).Ends { s with history := s.history ++ [⟨.write payload, (count, err)⟩] }
      (fun _ t => Accounted config started t ∧ t.writer.wroteHeader = s.writer.wroteHeader ∧
        t.writer.writeErr = s.writer.writeErr ∧
        t.history.countP (fun e => sendsHeader e.1) = s.history.countP (fun e => sendsHeader e.1) ∧
        (Clean s.history → err = none → Clean t.history))
      fun _ _ => False := by
  unfold noteProgress
  split
  case isTrue hcnt =>
    refine .seq (ask_ends fun now => update_ends ⟨hs.advance err now hrdy hcnt, rfl, rfl, ?_, ?_⟩)
    · simp [sendsHeader]
    · rintro hcln rfl
      exact (hcln.snoc rfl).snoc rfl
  case isFalse hcnt =>
    have hwr : written ⟨.write payload, (count, err)⟩ = 0 := max_eq_right (not_lt.mp hcnt)
    refine .pure ⟨hs.snoc _ hrdy hwr, rfl, rfl, ?_, ?_⟩
    · simp [sendsHeader]
    · rintro hcln rfl
      exact hcln.snoc rfl

variable (hs : Bounded config started s)
include hs

/-- The body is written, or the error of the deadline kept. -/
lemma writeBody_ends (hwt : s.writer.wroteHeader)
    (hno : s.writer.writeErr = none) (ht : Prepares config started s t)
    (deadline : Except OpError Unit)
    (hset : deadline = .ok () → Clean t.history ∧ (NonDecreasing t.history →
      MayWrite config started payload.length t.history)) :
    (writeBody env payload deadline).Ends t
      (fun ans u => Bounded config started u ∧ u.writer.wroteHeader ∧
        u.writer.writeErr = ans.2)
      fun _ _ => False := by
  have hhdr : t.writer.wroteHeader := ht.header.trans hwt
  have hcnt : t.history.countP (fun e => sendsHeader e.1) = 1 := by
    rw [countP_grows ht.silent, hs.headers, if_pos hwt]
  cases deadline with
  | error err =>
    refine .seq (update_ends (.pure ⟨⟨?_, ?_, ?_, nofun⟩, hhdr, rfl⟩))
    · exact ⟨ht.accounted.guarded, ht.accounted.opened, ht.accounted.since, ht.accounted.idle,
        ht.accounted.grace, ht.accounted.rate, ht.accounted.body, ht.accounted.progress⟩
    · exact hcnt.trans (if_pos hhdr).symm
    · intro hf
      exact absurd (hhdr.symm.trans hf) nofun
  | ok =>
    obtain ⟨hcln, hmay⟩ := hset rfl
    have hrdy : bodyReady config started (.write payload) t.history := by
      rintro _ ⟨⟩ hclk
      exact hmay hclk
    refine .seq (ask_ends fun ans => .bind (noteProgress_ends ht.accounted hrdy) ?_)
    rintro _ u ⟨hu, hhdr', herr, hcnt', hkeeps⟩
    have hwt' : u.writer.wroteHeader := hhdr'.trans hhdr
    have hone := hcnt'.trans hcnt
    obtain ⟨written, err⟩ := ans
    cases err with
    | some err =>
      refine .seq ?_
      unfold noteFailure
      refine update_ends (.pure ⟨⟨?_, ?_, ?_, nofun⟩, hwt', rfl⟩)
      · exact ⟨hu.guarded, hu.opened, hu.since, hu.idle, hu.grace, hu.rate, hu.body, hu.progress⟩
      · exact hone.trans (if_pos hwt').symm
      · intro hf
        exact absurd (hwt'.symm.trans hf) nofun
    | none =>
      have herr' : u.writer.writeErr = none := herr.trans (ht.err.trans hno)
      refine .seq (.pure (.pure ⟨⟨hu, hone.trans (if_pos hwt').symm, ?_, ?_⟩, hwt', herr'⟩))
      · exact fun _ => herr'
      · exact fun _ => hkeeps hcln rfl

lemma ensureHeader_ends : (ensureHeader env).Ends s
      (fun _ t => Bounded config started t ∧ t.writer.wroteHeader ∧
        (s.writer.wroteHeader → t = s))
      fun _ _ => False := by
  refine .seq (.get ?_)
  split
  case isTrue hwt => exact .pure ⟨hs, hwt, fun _ => rfl⟩
  case isFalse hwt =>
    exact (writeHeader_ends hs 200).mono (fun _ _ ht => ⟨ht.1, ht.2.1, ht.2.2.1⟩) nofun

/-- **`Write`.** It keeps the error it returns, and does nothing once an error is kept. -/
theorem write_ends (payload : Bytes) : (write env payload).Ends s
      (fun ans t => Bounded config started t ∧ t.writer.wroteHeader ∧
        t.writer.writeErr = ans.2 ∧
        (s.writer.wroteHeader → s.writer.writeErr ≠ none → t = s))
      fun _ _ => False := by
  refine .bind (ensureHeader_ends hs) ?_
  rintro _ t ⟨ht, hwt, hsm⟩
  refine .seq (.get ?_)
  cases hk : t.writer.writeErr with
  | some err => exact .pure ⟨ht, hwt, hk, fun htrue _ => hsm htrue⟩
  | none =>
    have hcln := ht.clean hk
    have hddl := @setDeadline_ends env _ _ _ ht.accounted payload.length
    have hfst : s.writer.wroteHeader → s.writer.writeErr ≠ none → False := by
      intro htrue hso
      rw [hsm htrue] at hk
      exact hso hk
    refine .seq (.attempt ⟨fun a ha => ?_, fun err herr => ?_⟩)
    · obtain ⟨hu, hkeeps, hmay⟩ := hddl.1 a ha
      refine (writeBody_ends ht hwt hk hu (.ok a) fun _ => ⟨hkeeps hcln, hmay hcln⟩).mono ?_ nofun
      rintro ans v ⟨hv, hhdr, herr⟩
      exact ⟨hv, hhdr, herr, fun htrue hso => (hfst htrue hso).elim⟩
    · refine (writeBody_ends ht hwt hk (hddl.2 err herr) (.error err) nofun).mono ?_ nofun
      rintro ans v ⟨hv, hhdr, herr⟩
      exact ⟨hv, hhdr, herr, fun htrue hso => (hfst htrue hso).elim⟩

end

/-! ## 5. Whole downloads -/

section

open Download

variable {env : Environment ResponseAnswer} {config : DownloadConfig} {started : Int}
variable {s : Download}

lemma start_bounded (env : Environment ResponseAnswer) (config : DownloadConfig) :
    Bounded config (env [] .now) (start env config) := by
  refine ⟨⟨Guarded.nil.snoc _ nofun, ⟨[], rfl⟩, rfl, rfl, rfl, rfl, rfl, ?_⟩, rfl, fun _ => rfl,
    fun _ => ?_⟩
  · refine ⟨env [] .now, .inl ⟨rfl, fun e he => ?_⟩, .inl rfl⟩
    obtain rfl := mem_singleton.mp he
    rfl
  · intro e he
    obtain rfl := mem_singleton.mp he
    rfl

/-- **One call.** -/
theorem serve_bounded (hs : Bounded config started s) (call : DownloadCall) :
    Bounded config started (serve env s call) ∧ (serve env s call).writer.wroteHeader ∧
    (s.writer.wroteHeader → s.writer.writeErr ≠ none → serve env s call = s) ∧
    (Fails env s call → (serve env s call).writer.writeErr ≠ none) := by
  cases call with
  | writeHeader status =>
    obtain ⟨a, t, hrun, ht, hwt, hsm, herr⟩ := (@writeHeader_ends env _ _ _ hs status).returns
    have hserve : serve env s (.writeHeader status) = t := congrArg Prod.snd hrun
    rw [hserve]
    refine ⟨ht, hwt, fun htrue _ => hsm htrue, ?_⟩
    rintro ⟨hf, err, hfls⟩
    rw [herr hf, hfls]
    exact nofun
  | write payload =>
    obtain ⟨ans, t, hrun, ht, hwt, herr, hsm⟩ := (@write_ends env _ _ _ hs payload).returns
    have hserve : serve env s (.write payload) = t := congrArg Prod.snd hrun
    rw [hserve]
    refine ⟨ht, hwt, hsm, ?_⟩
    rintro ⟨written, err, hfls⟩
    rw [hrun] at hfls
    rw [herr, Except.ok.inj hfls]
    exact nofun

/-- **All calls.** -/
theorem foldl_serve_bounded (hs : Bounded config started s) (calls : List DownloadCall) :
    Bounded config started (calls.foldl (serve env) s) ∧
    (calls ≠ [] → (calls.foldl (serve env) s).writer.wroteHeader) ∧
    (s.writer.wroteHeader → s.writer.writeErr ≠ none → calls.foldl (serve env) s = s) := by
  induction calls generalizing s with
  | nil => exact ⟨hs, fun h => absurd rfl h, fun _ _ => rfl⟩
  | cons call calls ih =>
    obtain ⟨hca, hwt, hsm, -⟩ := @serve_bounded env _ _ _ hs call
    obtain ⟨hrs, hlater, hsts⟩ := ih hca
    refine ⟨hrs, fun _ => ?_, fun htrue hso => ?_⟩
    · by_cases hem : calls = []
      · rw [hem]
        exact hwt
      · exact hlater hem
    · rw [foldl_cons, hsm htrue hso] at *
      exact hsts htrue hso

/-- **Slow downloads are bounded.** Whatever the handler calls and however the connection and the
clock answer, as long as the clock does not go back: every body write follows a deadline set just before
it, within the idle time from now and within the grace and the rate's time from the start, while the idle
time since the last accepted byte has not passed and nothing has failed; the header is sent once; and
after a call that met an error nothing is sent at all. -/
theorem slow_downloads_bounded (env : Environment ResponseAnswer) (config : DownloadConfig)
    (calls : List DownloadCall) (hclock : NonDecreasing (serveAll env config calls).history) :
    (∀ before payload answer after,
      (serveAll env config calls).history = before ++ ⟨.write payload, answer⟩ :: after →
      MayWrite config (env [] .now) payload.length before) ∧
    (serveAll env config calls).history.countP (fun e => sendsHeader e.1)
      = (if calls = [] then 0 else 1) ∧
    ∀ first call rest, calls = first ++ call :: rest → Fails env (serveAll env config first) call →
      serveAll env config calls = serveAll env config (first ++ [call]) := by
  have hstart := start_bounded env config
  obtain ⟨hbounded, hheader, -⟩ := @foldl_serve_bounded env _ _ _ hstart calls
  refine ⟨fun before payload answer after heq => ?_, ?_, ?_⟩
  · have hready := hbounded.accounted.guarded before (.write payload) answer after heq payload rfl
    rw [heq] at hclock
    exact hready hclock.of_append
  · by_cases hempty : calls = []
    · rw [if_pos hempty, hempty]
      rfl
    · rw [if_neg hempty]
      exact hbounded.headers.trans (if_pos (hheader hempty))
  · rintro first call rest rfl hfails
    have hfirst := (@foldl_serve_bounded env _ _ _ hstart first).1
    obtain ⟨hcall, hwrote, -, hkept⟩ := @serve_bounded env _ _ _ hfirst call
    have hstays := (@foldl_serve_bounded env _ _ _ hcall rest).2.2 hwrote (hkept hfails)
    simp only [serveAll, foldl_append, foldl_cons, foldl_nil]
    exact hstays

/-- A connection that takes one byte at a time, with a clock that counts what was said. -/
def slowConnection : Environment ResponseAnswer
  | h, .now => h.length
  | _, .setWriteDeadline _ => none
  | _, .write payload => (min payload.length 1, none)
  | _, .delHeader _ | _, .setHeader _ _ | _, .writeHeader _ => ()

theorem slowConnection_bounded :
    NonDecreasing (serveAll slowConnection ⟨30, 30, 65536⟩ [.write [1, 2], .write [2]]).history ∧
    (serveAll slowConnection ⟨30, 30, 65536⟩ [.write [1, 2], .write [2]]).history.countP
      (fun e => sendsBody e.1) = 2 ∧
    (serveAll slowConnection ⟨30, 30, 65536⟩ [.write [1, 2], .write [2]]).history.countP
      (fun e => sendsHeader e.1) = 1 := by
  have hclock :
      NonDecreasing (serveAll slowConnection ⟨30, 30, 65536⟩ [.write [1, 2], .write [2]]).history := by
    unfold NonDecreasing
    decide
  exact ⟨hclock, by decide, (slow_downloads_bounded slowConnection _ _ hclock).2.1⟩

end

end ReCasaOS.PublicFiles
