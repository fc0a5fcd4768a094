/-
# What a cloud storage removal sends

What `RemoveStorage` may send, whatever the environment answers. A delete request ends a history whose
last two observations showed the storage gone, an unmount request ends one whose last list showed it
mounted where it belongs, and there is no mount request (`removalReady`). The requests between are
questions and need no proof; the loop of `settleCloudMountState` carries the observation before
(`Steady`).
-/
import ReCasaOS.Cloud.Storage

namespace ReCasaOS.Cloud

open Lib List

/-! ## 1. Lists of mounts -/

section

variable {ε : Type} {mountPoint remote : Bytes}
variable {list : List MountRecord}

/-- The record of a storage that is mounted where it belongs. -/
def mountedRecord (mountPoint remote : Bytes) : MountRecord := ⟨mountPoint, remote, []⟩

lemma mountListContainsFrom_eq_ok {found listed : Bool}
    (h : (mountListContainsFrom mountPoint remote found list : Except (CloudError ε) Bool) = .ok listed) :
    list.filter (fun mounted => mounted.fs == remote)
      = (if listed ∧ found = false then [mountedRecord mountPoint remote] else []) ∧
    (found → listed) := by
  induction list generalizing found with
  | nil =>
    obtain rfl : found = listed := Except.ok.inj h
    cases found <;> simp
  | cons mounted rest ih =>
    rw [mountListContainsFrom] at h
    by_cases hfs : mounted.fs = remote
    · rw [if_neg fun h => h.2 hfs, if_neg fun h => h hfs] at h
      split_ifs at h with hpa hpoint hfnd
      obtain ⟨hrs, hlstd⟩ := ih h
      obtain rfl : found = false := by simpa using hfnd
      have hrcd : mounted = mountedRecord mountPoint remote := by
        obtain ⟨point, fs, path⟩ := mounted
        simp only [ne_eq, not_not] at hpa hpoint hfs
        rw [hpa, hpoint, hfs]
        rfl
      rw [filter_cons_of_pos (by simpa using hfs), hrs, hlstd rfl, hrcd]
      simp
    · rw [filter_cons_of_neg (by simpa using hfs)]
      split_ifs at h with hoth
      exact ih h

/-- A list that does not contain the storage has no record of it. -/
lemma forall_fs_ne_of_contains
    (h : (mountListContains list mountPoint remote : Except (CloudError ε) Bool) = .ok false) :
    ∀ mounted ∈ list, mounted.fs ≠ remote := by
  have hfilter := (mountListContainsFrom_eq_ok h).1
  intro mounted hmem hfs
  have hin : mounted ∈ list.filter (fun mounted => mounted.fs == remote) :=
    mem_filter.mpr ⟨hmem, by simpa using hfs⟩
  rw [hfilter] at hin
  simp at hin

/-- A list that contains it has one record, as it should be. -/
lemma filter_fs_of_contains
    (h : (mountListContains list mountPoint remote : Except (CloudError ε) Bool) = .ok true) :
    list.filter (fun mounted => mounted.fs == remote) = [mountedRecord mountPoint remote] :=
  (mountListContainsFrom_eq_ok h).1

lemma topologyEntry_injective : Function.Injective MountRecord.topologyEntry := by
  rintro ⟨point, fs, path⟩ ⟨point', fs', path'⟩ h
  obtain ⟨hpoint, hrs⟩ := Prod.mk.inj (toLex.injective h)
  obtain ⟨hfs, hpa⟩ := Prod.mk.inj (toLex.injective hrs)
  exact MountRecord.mk.injEq .. ▸ ⟨hpoint, hfs, hpa⟩

/-- Lists with the same canonical form have the same records. -/
lemma perm_of_sameCloudMountTopology {first second : List MountRecord}
    (h : sameCloudMountTopology first second) : first.Perm second := by
  have heq : canonicalCloudMountTopology first = canonicalCloudMountTopology second := by
    simpa [sameCloudMountTopology] using h
  have hpm : (first.map MountRecord.topologyEntry).Perm (second.map MountRecord.topologyEntry) := by
    refine (sortAsc_perm _).symm.trans ?_
    change (canonicalCloudMountTopology first).Perm _
    rw [heq]
    exact sortAsc_perm _
  exact (map_perm_map_iff topologyEntry_injective).mp hpm

end

/-! ## 2. Histories -/

def CloudRequest.isMount : CloudRequest → Bool
  | .mount _ _ => true
  | _ => false

def CloudRequest.isUnmount : CloudRequest → Bool
  | .unmount _ => true
  | _ => false

def CloudRequest.isDelete : CloudRequest → Bool
  | .deleteConfigByName _ => true
  | _ => false

/-- A request of the loop between two observations. -/
def CloudRequest.isClock : CloudRequest → Bool
  | .now => true
  | .wait _ => true
  | .contextErr => true
  | _ => false

/-- A request that changes nothing of what is mounted or configured. -/
def CloudRequest.Reads (q : CloudRequest) : Prop :=
  q.isMount = false ∧ q.isUnmount = false ∧ q.isDelete = false

section

variable {ε : Type} (kinds : ErrorKinds ε) (mountPoint remote : Bytes)

/-- An observation in which both authorities say `expected`: two lists with the same records, and the
state of the kernel between them. -/
def Frame (expected : Bool) (f : CloudHistory ε) : Prop :=
  ∃ before state after,
    f = [⟨.getMountList, .ok before⟩, ⟨.isMountPoint mountPoint, state⟩, ⟨.getMountList, .ok after⟩] ∧
    before.Perm after ∧
    (mountListContains before mountPoint remote : Except (CloudError ε) Bool) = .ok expected ∧
    (mountListContains after mountPoint remote : Except (CloudError ε) Bool) = .ok expected ∧
    managedMountState kinds state = (expected, none)

/-- The history ends in two such observations, with nothing but the clock between them. -/
def Settled (expected : Bool) (h : CloudHistory ε) : Prop :=
  ∃ before first between second, h = before ++ first ++ between ++ second ∧
    Frame kinds mountPoint remote expected first ∧ (∀ e ∈ between, e.1.isClock) ∧
    Frame kinds mountPoint remote expected second

/-- What the loop knows of its count. -/
def Steady (expected : Bool) (consecutive : Nat) (h : CloudHistory ε) : Prop :=
  consecutive = 0 ∨ consecutive = 1 ∧ ∃ before frame between, h = before ++ frame ++ between ∧
    Frame kinds mountPoint remote expected frame ∧ ∀ e ∈ between, e.1.isClock

/-- The history ends in a list with one record of the storage, at its place, and a look at the
kernel. -/
def JustListed (h : CloudHistory ε) : Prop :=
  ∃ before list state,
    h = before ++ [⟨.getMountList, .ok list⟩, ⟨.isMountPoint mountPoint, state⟩] ∧
    list.filter (fun mounted => mounted.fs == remote) = [mountedRecord mountPoint remote]

/-- When a removal may send a request. -/
def removalReady : CloudRequest → CloudHistory ε → Prop
  | .mount _ _, _ => False
  | .unmount point, h => point = mountPoint ∧ JustListed mountPoint remote h ∧
    ∀ e ∈ h, e.1.isUnmount = false
  | .deleteConfigByName name, h => name = remote ∧ Settled kinds mountPoint remote false h ∧
    ∀ e ∈ h, e.1.isDelete = false
  | _, _ => True

end

section

variable {ε : Type} {env : CloudEnvironment ε} {kinds : ErrorKinds ε} {settings : StorageSettings}
variable {mountPoint remote : Bytes} {h : CloudHistory ε} {exp : Bool}

lemma removalReady_of_reads {q : CloudRequest} (hq : q.Reads) (h : CloudHistory ε) :
    removalReady kinds mountPoint remote q h := by
  obtain ⟨hmnt, hunmount, hdelete⟩ := hq
  cases q with
  | mount => cases hmnt
  | unmount => cases hunmount
  | deleteConfigByName => cases hdelete
  | _ => trivial

/-! ## 3. Programs that only ask -/

lemma orFail_ends {α : Type} {ans : CloudProgram ε (Except ε α)} {f : CloudError ε → CloudError ε}
    {P : α → CloudHistory ε → Prop} {E : CloudError ε → CloudHistory ε → Prop}
    (hans : ans.Ends h (fun x t => (∀ a, x = .ok a → P a t) ∧
      ∀ err, x = .error err → E (f (.external err)) t) E) : (orFail ans f).Ends h P E := by
  refine .bind hans fun x t hx => .ofExcept (fun a ha => ?_) fun e he => ?_
  · exact hx.1 a (mapError_eq_ok.mp ha)
  · cases x with
    | ok a => cases he
    | error err =>
      cases he
      exact hx.2 err rfl

lemma orFail_asks {α : Type} {ans : CloudProgram ε (Except ε α)} {f : CloudError ε → CloudError ε}
    {p : CloudRequest → Prop} (hans : ans.Asks p) : (orFail ans f).Asks p :=
  hans.bind fun _ => .ofExcept _

lemma getConfigByNameLocked_asks (name : Bytes) :
    (getConfigByNameLocked env name).Asks CloudRequest.Reads := by
  refine (Fallible.Asks.ofExcept _).bind fun exp => ?_
  refine (orFail_asks (.ask ⟨rfl, rfl, rfl⟩)).bind fun cfg => ?_
  refine Fallible.Asks.guard.bind fun _ => ?_
  exact (orFail_asks (.ask ⟨rfl, rfl, rfl⟩)).bind fun _ => .pure cfg

/-! ## 4. The loop -/

lemma listErr_eq_none {before after : Except ε (List MountRecord)} {state : Bool × Option ε}
    (h : (cloudMountObservation mountPoint remote before state after).listErr = none) :
    ∃ first second listed, before = .ok first ∧ after = .ok second ∧ first.Perm second ∧
      (mountListContains first mountPoint remote : Except (CloudError ε) Bool) = .ok listed ∧
      (mountListContains second mountPoint remote : Except (CloudError ε) Bool) = .ok listed ∧
      cloudMountObservation mountPoint remote before state after = ⟨state.1, listed,
        state.2.map fun err => .wrapped "inspect kernel mount boundary" (.external err), none, none⟩ := by
  unfold cloudMountObservation at h ⊢
  split at h
  next first second =>
    split at h
    next listedBefore listedAfter hbef haf =>
      split_ifs at h with hchg
      simp only [not_or, ne_eq, not_not, Bool.not_eq_false] at hchg
      obtain ⟨hsm, rfl⟩ := hchg
      refine ⟨first, second, listedBefore, rfl, rfl, perm_of_sameCloudMountTopology hsm, hbef, haf, ?_⟩
      exact if_neg (by simp [hsm])
    · cases h
  · cases h

/-- An observation that shows what is expected is a frame. -/
lemma frame_of_shows {before after : Except ε (List MountRecord)} {state : Except ε Bool}
    (hshows : (cloudMountObservation mountPoint remote before (managedMountState kinds state) after).Shows
      exp) :
    Frame kinds mountPoint remote exp
      [⟨.getMountList, before⟩, ⟨.isMountPoint mountPoint, state⟩, ⟨.getMountList, after⟩] := by
  unfold CloudMountObservation.Shows at hshows
  simp only [Bool.and_eq_true, Option.isNone_iff_eq_none, beq_iff_eq] at hshows
  obtain ⟨⟨⟨hmountErr, hlistErr⟩, hmtd⟩, hlstd⟩ := hshows
  obtain ⟨first, second, listed, rfl, rfl, hpm, hfst, hsnd, heq⟩ := listErr_eq_none hlistErr
  rw [heq] at hmountErr hmtd hlstd
  subst hlstd
  exact ⟨first, state, second, rfl, hpm, hfst, hsnd,
    Prod.ext hmtd (Option.map_eq_none_iff.mp hmountErr)⟩

lemma observe_ends (env : CloudEnvironment ε) (kinds : ErrorKinds ε) (mountPoint remote : Bytes)
    (exp : Bool) (h : CloudHistory ε) :
    (observeCloudMountState env kinds mountPoint remote).Ends h
      (fun observation t => Grows CloudRequest.Reads h t ∧ (observation.Shows exp →
        ∃ f, t = h ++ f ∧ Frame kinds mountPoint remote exp f))
      fun _ _ => False := by
  refine .seq (.ask fun before => .seq (.ask fun state => .seq (.ask fun after => .pure ⟨?_,
    fun hshows => ?_⟩)))
  · exact ((Grows.single before ⟨rfl, rfl, rfl⟩).trans (.single state ⟨rfl, rfl, rfl⟩)).trans
      (.single after ⟨rfl, rfl, rfl⟩)
  · refine ⟨_, ?_, frame_of_shows hshows⟩
    rw [append_assoc, append_assoc]
    rfl

/-- Between two observations there is nothing but the clock. -/
lemma awaitNextSample_asks (deadline : Int) :
    (awaitNextSample env settings deadline).Asks fun q => q.isClock := by
  refine .bind (.ask rfl) fun contextErr => ?_
  cases contextErr with
  | some err => exact .pure _
  | none =>
    refine .bind (.ask rfl) fun now => ?_
    split
    · exact .pure _
    · exact .bind (.ask rfl) fun err => .pure _

variable (q : CloudRequest)

lemma reads_of_isClock (hq : q.isClock) : q.Reads := by
  cases q <;> first | exact ⟨rfl, rfl, rfl⟩ | cases hq

/-- A frame stays the last one while the clock is asked. -/
lemma Steady.grows {shown : Nat} {t : CloudHistory ε}
    (hs : Steady kinds mountPoint remote exp shown h)
    (ht : Grows (fun q => q.isClock) h t) :
    Steady kinds mountPoint remote exp shown t := by
  rcases hs with hz | ⟨hone, before, frame, between, rfl, hfr, hbetw⟩
  · exact .inl hz
  · obtain ⟨new, rfl, hnew⟩ := ht
    refine .inr ⟨hone, before, frame, between ++ new, append_assoc _ _ _, hfr, fun e he => ?_⟩
    exact (mem_append.mp he).elim (hbetw e) (hnew e)

lemma Steady.observed {shown : Nat} {t : CloudHistory ε} {shows : Bool}
    (hs : Steady kinds mountPoint remote exp shown h)
    (ht : shows → ∃ f, t = h ++ f ∧ Frame kinds mountPoint remote exp f) :
    (2 ≤ (if shows then shown + 1 else 0) → Settled kinds mountPoint remote exp t) ∧
    (¬ 2 ≤ (if shows then shown + 1 else 0) →
      Steady kinds mountPoint remote exp (if shows then shown + 1 else 0) t) := by
  cases shows with
  | false => exact ⟨fun htwo => absurd htwo (by simp), fun _ => Or.inl rfl⟩
  | true =>
    obtain ⟨f, rfl, hf⟩ := ht rfl
    rcases hs with rfl | ⟨rfl, before, frame, between, rfl, hfr, hbetw⟩
    · refine ⟨fun h => absurd h (by decide), fun _ => .inr ⟨rfl, h, f, [], ?_, hf, fun e he => nomatch he⟩⟩
      exact (append_nil _).symm
    · exact ⟨fun _ => ⟨before, frame, between, f, rfl, hfr, hbetw, hf⟩,
        fun h => absurd (le_refl 2) h⟩

/-- **The loop converges on two frames in a row**, and asks only. -/
theorem settleLoop_ends (deadline : Int) :
    ∀ (fuel shown samples : Nat) (last : CloudMountObservation ε) (h : CloudHistory ε),
      Steady kinds mountPoint remote exp shown h →
      (settleLoop env kinds settings mountPoint remote exp deadline fuel shown samples last).Ends h
        (fun res t => Grows CloudRequest.Reads h t ∧
          (res.converged → Settled kinds mountPoint remote exp t))
        fun _ t => Grows CloudRequest.Reads h t
  | 0, _, _, _, h, _ => .fail (.refl h)
  | fuel + 1, shown, samples, last, h, hsteady => by
    refine .seq (.ask fun now => ?_)
    have hnow : Grows (fun q => q.isClock) h (h ++ [⟨.now, now⟩]) := .single now rfl
    split
    · exact .pure ⟨(hnow.mono reads_of_isClock), fun hcvg => nomatch hcvg⟩
    refine .bind ((observe_ends env kinds mountPoint remote exp _).mono (fun _ _ ho => ho)
      fun _ _ hf => hf.elim) fun observation t hobs => ?_
    have hrd := (hnow.mono reads_of_isClock).trans hobs.1
    obtain ⟨hset, hgoing⟩ := (hsteady.grows hnow).observed hobs.2
    generalize (if observation.Shows exp then shown + 1 else 0) = count at hset hgoing ⊢
    by_cases hunsafe : observation.unsafeTopology.isSome
    · rw [if_pos hunsafe]
      exact .pure ⟨hrd, fun hcvg => nomatch hcvg⟩
    rw [if_neg hunsafe]
    by_cases htwo : 2 ≤ count
    · rw [if_pos htwo]
      exact .pure ⟨hrd, fun _ => hset htwo⟩
    · rw [if_neg htwo]
      refine .seq ((awaitNextSample_asks deadline).ends (fun stop u hu => ?_)
        fun _ u hu => hrd.trans (hu.mono reads_of_isClock))
      have hrd' := hrd.trans (hu.mono reads_of_isClock)
      cases stop with
      | some err => exact .pure ⟨hrd', fun hcvg => nomatch hcvg⟩
      | none =>
        refine (settleLoop_ends deadline fuel _ (samples + 1) observation u
          ((hgoing htwo).grows hu)).mono (fun res v hv => ?_) fun e v hv => hrd'.trans hv
        exact ⟨hrd'.trans hv.1, hv.2⟩

lemma settleCloudMountState_ends (env : CloudEnvironment ε) (kinds : ErrorKinds ε)
    (settings : StorageSettings) (fuel : Nat) (mountPoint remote : Bytes) (exp : Bool)
    (h : CloudHistory ε) :
    (settleCloudMountState env kinds settings fuel mountPoint remote exp).Ends h
      (fun res t => Grows CloudRequest.Reads h t ∧
        (res.converged → Settled kinds mountPoint remote exp t))
      fun _ t => Grows CloudRequest.Reads h t := by
  refine .seq (.ask fun now => ?_)
  have hnow : Grows CloudRequest.Reads h (h ++ [⟨.now, now⟩]) := .single now ⟨rfl, rfl, rfl⟩
  refine (settleLoop_ends _ fuel 0 0 .none _ (.inl rfl)).mono (fun res t ht => ?_) fun e t ht => ?_
  · exact ⟨hnow.trans ht.1, ht.2⟩
  · exact hnow.trans ht

/-! ## 5. The removal -/

/-- An unmount or a delete request. -/
def CloudRequest.removes (q : CloudRequest) : Bool := q.isUnmount || q.isDelete

lemma unmounting_reads (hq : q.Reads) :
    q.removes = false ∧ ∀ u : CloudHistory ε, removalReady kinds mountPoint remote q u := by
  refine ⟨?_, removalReady_of_reads hq⟩
  rw [CloudRequest.removes, hq.2.1, hq.2.2]
  rfl

lemma deleting_reads (hq : q.Reads) :
    q.isDelete = false ∧ ∀ u : CloudHistory ε, removalReady kinds mountPoint remote q u :=
  ⟨hq.2.2, removalReady_of_reads hq⟩

/-- The unmount request, after a list that has shown the mount. -/
lemma unmountListed_ends {listed : Bool} {list : List MountRecord} {state : Except ε Bool}
    (hh : Unsent (removalReady kinds mountPoint remote) CloudRequest.removes h)
    (hlstd : (mountListContains list mountPoint remote : Except (CloudError ε) Bool) = .ok listed)
    {P : Option ε → CloudHistory ε → Prop} {E : CloudError ε → CloudHistory ε → Prop}
    (hP : ∀ err t, Unsent (removalReady kinds mountPoint remote) CloudRequest.isDelete t → P err t) :
    (unmountListed env listed mountPoint).Ends
      (h ++ [⟨.getMountList, .ok list⟩, ⟨.isMountPoint mountPoint, state⟩]) P E := by
  have hgrows : Grows CloudRequest.Reads h
      (h ++ [⟨.getMountList, .ok list⟩, ⟨.isMountPoint mountPoint, state⟩]) := by
    refine ⟨_, rfl, fun e he => ?_⟩
    rcases mem_cons.mp he with rfl | he
    · exact ⟨rfl, rfl, rfl⟩
    · obtain rfl := mem_singleton.mp he
      exact ⟨rfl, rfl, rfl⟩
  have ht := hh.grows unmounting_reads hgrows
  have hrmvs : ∀ e ∈ h ++ [⟨.getMountList, .ok list⟩, ⟨.isMountPoint mountPoint, state⟩],
      e.1.isUnmount = false ∧ e.1.isDelete = false := fun e he => by
    simpa [CloudRequest.removes] using ht.2 e he
  cases listed with
  | false => exact .pure (hP _ _ ⟨ht.1, fun e he => (hrmvs e he).2⟩)
  | true =>
    refine .ask fun err => hP err _ ⟨?_, fun e he => ?_⟩
    · refine ht.1.snoc err ⟨rfl, ⟨h, list, state, rfl, filter_fs_of_contains hlstd⟩, fun e he => ?_⟩
      exact (hrmvs e he).1
    · rcases mem_append.mp he with he | he
      · exact (hrmvs e he).2
      · obtain rfl := mem_singleton.mp he
        rfl

section

variable (hremote : (cloudRemoteFromMountPoint mountPoint : Except (CloudError ε) Bytes) = .ok remote)
include hremote

lemma unmountStorageLocked_ends {fuel : Nat}
    (hh : Unsent (removalReady kinds mountPoint remote) CloudRequest.removes h) :
    (unmountStorageLocked env kinds settings fuel mountPoint).Ends h
      (fun _ t => Unsent (removalReady kinds mountPoint remote) CloudRequest.isDelete t)
      fun _ t => Guarded (removalReady kinds mountPoint remote) t := by
  refine .seq (.ofExcept (fun r hr => ?_) fun _ _ => hh.1)
  obtain rfl := Except.ok.inj (hremote.symm.trans hr)
  refine hh.asks_then unmounting_reads (getConfigByNameLocked_asks _).onError fun cfg t ht => ?_
  refine ht.asks_then unmounting_reads .guard fun _ t ht => ?_
  refine ht.asks_then unmounting_reads (orFail_asks (.ask ⟨rfl, rfl, rfl⟩)) fun _ t ht => ?_
  refine ht.asks_then unmounting_reads (orFail_asks (.ask ⟨rfl, rfl, rfl⟩)) fun _ t ht => ?_
  refine ht.asks_then unmounting_reads (orFail_asks (.ask ⟨rfl, rfl, rfl⟩)) fun cfg t ht => ?_
  refine ht.asks_then unmounting_reads .guard fun _ t ht => ?_
  -- The list that decides comes now.
  refine .seq (orFail_ends (.ask fun ans => ⟨fun list hlist => ?_, fun err herr => ?_⟩))
  swap
  · exact (ht.grows unmounting_reads (.single ans ⟨rfl, rfl, rfl⟩)).1
  subst hlist
  have hlist := ht.grows unmounting_reads (.single (q := .getMountList) (.ok list) ⟨rfl, rfl, rfl⟩)
  refine .seq (.ofExcept (fun listed hlstd => ?_) fun _ _ => hlist.1)
  refine .seq (.ask fun state => ?_)
  have hsta := hlist.grows unmounting_reads
    (.single (q := .isMountPoint mountPoint) state ⟨rfl, rfl, rfl⟩)
  refine .seq (.ofExcept (fun _ _ => ?_) fun _ _ => hsta.1)
  refine .seq (.guard (fun _ => hsta.1) fun _ => ?_)
  rw [append_assoc, singleton_append]
  refine .seq (unmountListed_ends ht hlstd fun err u hu => ?_)
  refine .seq ((settleCloudMountState_ends env kinds settings fuel mountPoint remote false u).mono
    (fun settlement v hv => ?_) fun _ v hv => (hu.grows deleting_reads hv).1)
  have hv' := hu.grows deleting_reads hv.1
  exact .guard (fun _ => hv'.1) fun _ => hv'

/-- Why the removal may say that it is done. -/
def ConfigGone (remote : Bytes) (h : CloudHistory ε) : Prop :=
  (∃ before, h = before ++ [⟨.deleteConfigByName remote, none⟩]) ∨
  ∃ before remotes, h = before ++ [⟨.getAllConfigName, .ok remotes⟩] ∧ remote ∉ remotes

lemma cloudMountPointForRemote_eq_ok {point : Bytes}
    (hpoint : (cloudMountPointForRemote remote : Except (CloudError ε) Bytes) = .ok point) :
    point = mountPoint := by
  obtain ⟨-, hremote⟩ := check_bind_eq_ok.mp hremote
  obtain ⟨exp, hexp, hremote⟩ := bind_eq_ok.mp hremote
  obtain ⟨hsm, hremote⟩ := check_bind_eq_ok.mp hremote
  obtain rfl := pure_eq_ok.mp hremote
  have heq := Except.ok.inj (hpoint.symm.trans (mapError_eq_ok.mp hexp))
  exact heq.trans (not_not.mp hsm)

end

lemma confirmDeleted_ends {err : ε} (hh : Guarded (removalReady kinds mountPoint remote) h) :
    (confirmDeleted env remote err).Ends h
      (fun _ t => Guarded (removalReady kinds mountPoint remote) t ∧ ConfigGone remote t)
      fun _ t => Guarded (removalReady kinds mountPoint remote) t := by
  refine .seq (.ask fun ans => ?_)
  have ht := hh.snoc (q := .getAllConfigName) ans trivial
  refine .ofExcept (fun _ hok => ⟨ht, ?_⟩) fun _ _ => ht
  cases ans with
  | error listErr => cases hok
  | ok remotes =>
    have habs := check_eq_ok.mp hok
    exact Or.inr ⟨h, remotes, rfl, fun hmem => habs (by simpa [remoteListContains] using hmem)⟩

lemma deleteConfigByNameLocked_ends {fuel : Nat}
    (hremote : (cloudRemoteFromMountPoint mountPoint : Except (CloudError ε) Bytes) = .ok remote)
    (hh : Unsent (removalReady kinds mountPoint remote) CloudRequest.isDelete h) :
    (deleteConfigByNameLocked env kinds settings fuel remote).Ends h
      (fun _ t => Guarded (removalReady kinds mountPoint remote) t ∧ ConfigGone remote t)
      fun _ t => Guarded (removalReady kinds mountPoint remote) t := by
  refine .seq (.ofExcept (fun point hpoint => ?_) fun _ _ => hh.1)
  obtain rfl := cloudMountPointForRemote_eq_ok hremote hpoint
  refine hh.asks_then deleting_reads (getConfigByNameLocked_asks _) fun _ t ht => ?_
  refine ht.asks_then deleting_reads (orFail_asks (.ask ⟨rfl, rfl, rfl⟩)) fun _ t ht => ?_
  refine .seq ((settleCloudMountState_ends env kinds settings fuel point remote false t).mono
    (fun settlement u hu => ?_) fun _ u hu => (ht.grows deleting_reads hu).1)
  have hu' := ht.grows deleting_reads hu.1
  refine .seq (.guard (fun _ => hu'.1) fun hcvg => .seq (.ask fun deleteErr => ?_))
  have hset := hu.2 (by simpa using hcvg)
  have hv := hu'.1.snoc (q := .deleteConfigByName remote) deleteErr ⟨rfl, hset, hu'.2⟩
  cases deleteErr with
  | none => exact .pure ⟨hv, .inl ⟨u, rfl⟩⟩
  | some err => exact confirmDeleted_ends hv

lemma removeStorage_ends (env : CloudEnvironment ε) (kinds : ErrorKinds ε)
    (settings : StorageSettings) (fuel : Nat)
    (hremote : (cloudRemoteFromMountPoint mountPoint : Except (CloudError ε) Bytes) = .ok remote) :
    (removeStorage env kinds settings fuel mountPoint).Ends []
      (fun _ t => Guarded (removalReady kinds mountPoint remote) t ∧ ConfigGone remote t)
      fun _ t => Guarded (removalReady kinds mountPoint remote) t := by
  have hsrt : Unsent (removalReady kinds mountPoint remote) CloudRequest.removes ([] : CloudHistory ε) :=
    ⟨.nil, fun e he => nomatch he⟩
  refine .seq (.ofExcept (fun r hr => ?_) fun _ _ => .nil)
  obtain rfl := Except.ok.inj (hremote.symm.trans hr)
  refine hsrt.asks_then unmounting_reads (getConfigByNameLocked_asks _).onError fun cfg t ht => ?_
  refine ht.asks_then unmounting_reads .guard fun _ t ht => ?_
  refine .bind (unmountStorageLocked_ends hremote ht) fun _ t ht => ?_
  refine ht.asks_then deleting_reads (getConfigByNameLocked_asks _).onError fun cfg t ht => ?_
  refine ht.asks_then deleting_reads .guard fun _ t ht => ?_
  exact deleteConfigByNameLocked_ends hremote ht

end

/-! ## 6. What the requests of a removal rest on -/

section

variable {ε : Type} {kinds : ErrorKinds ε} {mountPoint remote : Bytes}

/-- An observation without the storage: the lists have the same records, none of them of the remote, and
the kernel knows no mount at the mount point between them. -/
def AbsentFrame (kinds : ErrorKinds ε) (mountPoint remote : Bytes) (f : CloudHistory ε) : Prop :=
  ∃ before state after,
    f = [⟨.getMountList, .ok before⟩, ⟨.isMountPoint mountPoint, state⟩, ⟨.getMountList, .ok after⟩] ∧
    before.Perm after ∧ (∀ mounted ∈ before, mounted.fs ≠ remote) ∧
    (∀ mounted ∈ after, mounted.fs ≠ remote) ∧
    (state = .ok false ∨ ∃ err, state = .error err ∧ kinds.notExist err)

/-- The history ends in two such observations, with nothing but the clock between them. -/
def AbsentTwice (kinds : ErrorKinds ε) (mountPoint remote : Bytes) (h : CloudHistory ε) : Prop :=
  ∃ before first between second, h = before ++ first ++ between ++ second ∧
    AbsentFrame kinds mountPoint remote first ∧ (∀ e ∈ between, e.1.isClock) ∧
    AbsentFrame kinds mountPoint remote second

lemma managedMountState_absent {state : Except ε Bool}
    (h : managedMountState kinds state = (false, none)) :
    state = .ok false ∨ ∃ err, state = .error err ∧ kinds.notExist err := by
  cases state with
  | ok mounted => exact .inl (congrArg Except.ok (Prod.mk.inj h).1)
  | error err =>
    rw [managedMountState] at h
    split_ifs at h with hmissing
    · exact .inr ⟨err, rfl, hmissing⟩
    · cases (Prod.mk.inj h).2

lemma Frame.absent {f : CloudHistory ε} (h : Frame kinds mountPoint remote false f) :
    AbsentFrame kinds mountPoint remote f := by
  obtain ⟨before, state, after, rfl, hpm, hbef, haf, hsta⟩ := h
  exact ⟨before, state, after, rfl, hpm, forall_fs_ne_of_contains hbef,
    forall_fs_ne_of_contains haf, managedMountState_absent hsta⟩

lemma Settled.absent {h : CloudHistory ε} (hs : Settled kinds mountPoint remote false h) :
    AbsentTwice kinds mountPoint remote h := by
  obtain ⟨before, first, between, second, rfl, hfst, hbetw, hsnd⟩ := hs
  exact ⟨before, first, between, second, rfl, hfst.absent, hbetw, hsnd.absent⟩

/-- **A removal is gated on proof of absence**, whatever the environment answers. The delete request is
sent at most once, after two observations in a row without the storage; the unmount request is sent at
most once, after a list with exactly one record of the remote, at its mount point and without a path;
there is no mount request; and where the removal succeeds, the delete request was answered without an
error, or the remote is not among the configurations that rclone lists. For a mount point that belongs
to no remote nothing is sent. -/
theorem cloud_removal_gated (env : CloudEnvironment ε) (kinds : ErrorKinds ε) (settings : StorageSettings)
    (fuel : Nat) (mountPoint : Bytes) :
    (∀ err, cloudRemoteFromMountPoint mountPoint = .error err →
      removeStorage env kinds settings fuel mountPoint [] = (.error err, [])) ∧
    ∀ remote, (cloudRemoteFromMountPoint mountPoint : Except (CloudError ε) Bytes) = .ok remote →
      ∀ result history, removeStorage env kinds settings fuel mountPoint [] = (result, history) →
        history.countP (fun e => e.1.isDelete) ≤ 1 ∧
        (∀ before name answer after, history = before ++ ⟨.deleteConfigByName name, answer⟩ :: after →
          name = remote ∧ AbsentTwice kinds mountPoint remote before) ∧
        history.countP (fun e => e.1.isUnmount) ≤ 1 ∧
        (∀ before point answer after, history = before ++ ⟨.unmount point, answer⟩ :: after →
          point = mountPoint ∧ JustListed mountPoint remote before) ∧
        (∀ e ∈ history, e.1.isMount = false) ∧
        (result = .ok () → ConfigGone remote history) := by
  refine ⟨fun err herr => ?_, fun remote hremote result history hrun => ?_⟩
  · have hfail := congrArg (Fallible.ofExcept (σ := CloudHistory ε)) herr
    unfold removeStorage
    rw [hfail]
    rfl
  have hends := removeStorage_ends env kinds settings fuel hremote
  unfold Fallible.Ends at hends
  rw [hrun] at hends
  have hguarded : Guarded (removalReady kinds mountPoint remote) history := by
    cases result with
    | ok u => exact (hends.1 u rfl).1
    | error err => exact hends.2 err rfl
  refine ⟨?_, fun before name answer after heq => ?_, ?_, fun before point answer after heq => ?_,
    fun e he => ?_, fun hok => (hends.1 () hok).2⟩
  · refine (hguarded.mono fun q t hq hdelete => ?_).countP_le_one
    cases q with
    | deleteConfigByName name => exact hq.2.2
    | _ => cases hdelete
  · have hready := hguarded _ _ _ _ heq
    exact ⟨hready.1, hready.2.1.absent⟩
  · refine (hguarded.mono fun q t hq hunmount => ?_).countP_le_one
    cases q with
    | unmount point => exact hq.2.2
    | _ => cases hunmount
  · have hready := hguarded _ _ _ _ heq
    exact ⟨hready.1, hready.2.1⟩
  · obtain ⟨before, after, heq⟩ := append_of_mem he
    have hready := hguarded before e.1 e.2 after heq
    cases hq : e.1 with
    | mount point filesystem =>
      rw [hq] at hready
      exact hready.elim
    | _ => rfl

end

/-- `/mnt/a`. -/
def samplePoint : Bytes := [47, 109, 110, 116, 47, 97]

/-- An rclone with the remote `a`, which is mounted until its unmount, the tenth request. -/
def sampleEnvironment : CloudEnvironment Unit := fun h q =>
  let gone := decide (10 ≤ h.length)
  match q with
  | .getMountList => .ok (if gone then [] else [⟨samplePoint, [97], []⟩])
  | .isMountPoint _ => .ok (!gone)
  | .getConfigByName _ =>
    .ok (AList.insert [109, 111, 117, 110, 116, 95, 112, 111, 105, 110, 116] samplePoint ∅)
  | .getAllConfigName => .ok [[97]]
  | .readDir => .ok false
  | .now => 0
  | .mount _ _ | .unmount _ | .deleteConfigByName _ | .closeDirectory | .wait _ | .contextErr => none
  | .managedRootsForMount _ | .acquireMutation | .mkdirAll _ | .openDirectory _ => .ok ()

def sampleRemoval : Except (CloudError Unit) Unit × CloudHistory Unit :=
  removeStorage sampleEnvironment ⟨fun _ => false, fun _ => false⟩ ⟨0, 0⟩ 2 samplePoint []

theorem sampleRemoval_gated :
    (cloudRemoteFromMountPoint samplePoint : Except (CloudError Unit) Bytes) = .ok [97] ∧
    sampleRemoval.2.countP (fun e => e.1.isUnmount) = 1 ∧
    sampleRemoval.2.countP (fun e => e.1.isDelete) = 1 ∧ ConfigGone [97] sampleRemoval.2 := by
  have hremote : (cloudRemoteFromMountPoint samplePoint : Except (CloudError Unit) Bytes) = .ok [97] := rfl
  have hsome : sampleRemoval.1.toOption = some () := by decide +kernel
  have hok : sampleRemoval.1 = .ok () := ok_of_toOption hsome
  have hrun : sampleRemoval = (sampleRemoval.1, sampleRemoval.2) := Prod.mk.eta.symm
  exact ⟨hremote, by decide +kernel, by decide +kernel,
    ((cloud_removal_gated sampleEnvironment ⟨fun _ => false, fun _ => false⟩ ⟨0, 0⟩ 2 samplePoint).2 [97]
      hremote sampleRemoval.1 sampleRemoval.2 hrun).2.2.2.2.2 hok⟩

end ReCasaOS.Cloud
