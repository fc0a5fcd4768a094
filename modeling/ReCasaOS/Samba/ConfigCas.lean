/-
# No foreign config is lost

What `publishSambaConfigCAS` and `removeSambaConfigCAS` do to the files of others, whatever the others
do to the target between two system calls and whichever calls fail.

Moves and exchanges lose nothing, so a file can only be lost where it is emptied and unlinked, and
there it has been compared with a snapshot. `ConfigDirectory.Good` says that every file that others
have put under the target is still there, under the target or under a name that blocks all further
calls, unless others took it away or it was equal to a snapshot that a call may discard.
-/
import ReCasaOS.Samba.ConfigDirectory
import ReCasaOS.Lib.Invariant
import ReCasaOS.Lib.Transition

namespace ReCasaOS.Samba

open Lib FileSecurity List Option AList Function

variable {d t : ConfigDirectory}

/-! ## 1. The invariant -/

section

variable {δ : Type} {sha256 : Bytes → δ} {d t u : ConfigDirectory}

/-- The file is what the snapshot says: identity, permission and digest. -/
structure Matches (sha256 : Bytes → δ) (s : SambaConfigSnapshot) (file : ConfigFile) : Prop where
  present : s.present
  identity : file.identity = s.identity
  permission : file.permission = s.permission
  digest : sha256 file.data = sha256 s.data

namespace ConfigDirectory

/-- The file `i` is linked, under the target or under a name that nothing gets past, with the content
that it had. -/
def Kept (d : ConfigDirectory) (i : Nat) (file : ConfigFile) : Prop :=
  (∃ name, d.names.lookup name = some i ∧ (name = d.target ∨ unresolved name)) ∧ d.files i = file

/-- The file `i` is not one of others that has to be kept. -/
def Expendable (sha256 : Bytes → δ) (d : ConfigDirectory) (i : Nat) : Prop :=
  ∀ file, (i, file) ∈ d.history.placed →
    i ∈ d.history.dropped ∨ ∃ s ∈ d.history.owned, Matches sha256 s file

structure Good (sha256 : Bytes → δ) (d : ConfigDirectory) : Prop where
  bound : ∀ name i, d.names.lookup name = some i → i < d.next
  placed : ∀ p ∈ d.history.placed, p.1 < d.next
  kept : ∀ p ∈ d.history.placed, d.Kept p.1 p.2 ∨ p.1 ∈ d.history.dropped ∨
    ∃ s ∈ d.history.owned, Matches sha256 s p.2

/-- Nothing but others has worked on the directory. -/
structure Idle (d t : ConfigDirectory) : Prop where
  target : t.target = d.target
  names : ∀ name, name ≠ d.target → t.names.lookup name = d.names.lookup name
  files : ∀ i, i < d.next → t.files i = d.files i
  next : d.next ≤ t.next
  displaced : t.history.displaced = d.history.displaced
  owned : t.history.owned = d.history.owned
  placed : ∀ p ∈ t.history.placed, p ∈ d.history.placed ∨ d.next ≤ p.1
  dropped : ∀ i ∈ d.history.dropped, i ∈ t.history.dropped

lemma Idle.refl (d : ConfigDirectory) : d.Idle d :=
  ⟨rfl, fun _ _ => rfl, fun _ _ => rfl, Nat.le_refl _, rfl, rfl, fun _ => Or.inl, fun _ => id⟩

lemma Idle.trans (h : d.Idle t) (h' : t.Idle u) : d.Idle u where
  target := h'.target.trans h.target
  names name hnm := (h'.names name (h.target ▸ hnm)).trans (h.names name hnm)
  files i hi := (h'.files i (Nat.lt_of_lt_of_le hi h.next)).trans (h.files i hi)
  next := h.next.trans h'.next
  displaced := h'.displaced.trans h.displaced
  owned := h'.owned.trans h.owned
  placed p hp := by
    rcases h'.placed p hp with hp | hp
    · exact h.placed p hp
    · exact .inr (h.next.trans hp)
  dropped i hi := h'.dropped i (h.dropped i hi)

lemma idle_apply (d : ConfigDirectory) (turn : Foreign) : d.Idle (d.apply turn) := by
  cases turn with
  | put regular elsewhere permission data =>
    refine ⟨rfl, fun name hnm => lookup_insert_ne hnm, fun i hi => ?_, Nat.le_succ _, rfl,
      rfl, fun p hp => ?_, fun i hi => mem_append_left _ hi⟩
    · exact update_of_ne (ne_of_lt hi) _ _
    · grind [ConfigDirectory.apply]
  | remove =>
    exact ⟨rfl, fun name hnm => lookup_erase_ne hnm, fun _ _ => rfl, le_refl _, rfl, rfl,
      fun _ => Or.inl, fun i hi => mem_append_left _ hi⟩

variable {i : Nat}

lemma Kept.apply (hd : d.Good sha256) (turn : Foreign) {file : ConfigFile} (h : d.Kept i file) :
    (d.apply turn).Kept i file ∨ i ∈ (d.apply turn).history.dropped := by
  obtain ⟨⟨name, hnm, hplace⟩, hfi⟩ := h
  by_cases htgt : name = d.target
  · subst htgt
    refine .inr ?_
    cases turn with
    | put | remove =>
      refine mem_append_right _ ?_
      rw [hnm]
      exact mem_singleton_self i
  · have hid := idle_apply d turn
    refine .inl ⟨⟨name, (hid.names name htgt).trans hnm, ?_⟩, ?_⟩
    · exact hid.target.symm ▸ hplace
    · exact (hid.files i (hd.bound name i hnm)).trans hfi

lemma Good.apply (hd : d.Good sha256) (turn : Foreign) : (d.apply turn).Good sha256 := by
  have hid := idle_apply d turn
  have hold : ∀ p ∈ d.history.placed, (d.apply turn).Kept p.1 p.2 ∨
      p.1 ∈ (d.apply turn).history.dropped ∨
      ∃ s ∈ (d.apply turn).history.owned, Matches sha256 s p.2 := by
    intro p hp
    rcases hd.kept p hp with h | h | h
    · rcases h.apply hd turn with h | h
      · exact .inl h
      · exact .inr (.inl h)
    · exact .inr (.inl (hid.dropped _ h))
    · rw [← hid.owned] at h
      exact .inr (.inr h)
  cases turn with
  | put regular elsewhere permission data =>
    have hself : (d.names.insert d.target d.next).lookup d.target = some d.next :=
      lookup_insert d.names
    refine ⟨fun name i hnm => ?_, fun p hp => ?_, fun p hp => ?_⟩
    · have := hd.bound name i
      grind [ConfigDirectory.apply]
    · have := hd.placed p
      grind [ConfigDirectory.apply]
    · rcases mem_append.mp hp with hp | hp
      · exact hold p hp
      · rw [mem_singleton.mp hp]
        exact .inl ⟨⟨d.target, hself, .inl rfl⟩, update_self _ _ _⟩
  | remove =>
    refine ⟨fun name i hnm => ?_, hd.placed, hold⟩
    have := hd.bound name i
    grind [ConfigDirectory.apply]

/-- All that others do before a call, by induction on their turns. -/
lemma idle_interfere (hd : d.Good sha256) : d.interfere.Good sha256 ∧ d.Idle d.interfere := by
  have hfold : ∀ (turns : List Foreign) (t : ConfigDirectory), t.Good sha256 →
      (turns.foldl ConfigDirectory.apply t).Good sha256 ∧ t.Idle (turns.foldl ConfigDirectory.apply t) := by
    intro turns
    induction turns with
    | nil => exact fun t ht => ⟨ht, .refl t⟩
    | cons turn turns ih =>
      intro t ht
      obtain ⟨hg, hid⟩ := ih (t.apply turn) (ht.apply turn)
      exact ⟨hg, (idle_apply t turn).trans hid⟩
  have hsrt : ({ d with schedule := d.schedule.tail } : ConfigDirectory).Good sha256 :=
    ⟨hd.bound, hd.placed, hd.kept⟩
  obtain ⟨hg, hid⟩ := hfold (d.schedule.head?.getD []) _ hsrt
  exact ⟨hg, hid.1, hid.2, hid.3, hid.4, hid.5, hid.6, hid.7, hid.8⟩

lemma Expendable.idle (h : Expendable sha256 d i)
    (hi : i < d.next) (hid : d.Idle t) : Expendable sha256 t i := by
  intro file hfi
  rcases hid.placed _ hfi with hfi | hnew
  · rcases h file hfi with h | h
    · exact .inl (hid.dropped i h)
    · exact .inr (hid.owned.symm ▸ h)
  · exact absurd hnew (Nat.not_le_of_lt hi)

/-- A file that is now what a snapshot of the calls says is expendable. -/
lemma Good.expendable (hd : d.Good sha256)
    {s : SambaConfigSnapshot} (hs : s ∈ d.history.owned) (h : Matches sha256 s (d.files i)) :
    Expendable sha256 d i := by
  intro file hfi
  rcases hd.kept _ hfi with hk | hdrpd
  · have hsm : d.files i = file := hk.2
    exact .inr ⟨s, hs, hsm ▸ h⟩
  · exact hdrpd

/-! ## 2. What the calls do to the directory -/

lemma Good.own (hd : d.Good sha256) (s : SambaConfigSnapshot) : (d.own s).Good sha256 := by
  refine ⟨hd.bound, hd.placed, fun p hp => ?_⟩
  rcases hd.kept p hp with h | h | ⟨s', hs', h⟩
  · exact .inl h
  · exact .inr (.inl h)
  · exact .inr (.inr ⟨s', mem_append_left _ hs', h⟩)

lemma Good.write (hd : d.Good sha256) (hi : Expendable sha256 d i)
    (f : ConfigFile → ConfigFile) : (d.write i f).Good sha256 := by
  refine ⟨hd.bound, hd.placed, fun p hp => ?_⟩
  by_cases h : p.1 = i
  · exact .inr (h ▸ hi p.2 (h ▸ hp))
  · rcases hd.kept p hp with ⟨hnm, hfi⟩ | hrs
    · exact .inl ⟨hnm, (update_of_ne h _ _).trans hfi⟩
    · exact .inr hrs

lemma relabel_history (d : ConfigDirectory) (old new : Bytes) (names : NameTable Bytes Nat) :
    (d.relabel old new names).history.placed = d.history.placed ∧
      (d.relabel old new names).history.dropped = d.history.dropped ∧
      (d.relabel old new names).history.owned = d.history.owned := by
  unfold ConfigDirectory.relabel
  split <;> simp

section

variable (hd : d.Good sha256)
include hd

/-- A change of names that loses no file which has to be kept. -/
lemma Good.relabel {old new : Bytes} {names : NameTable Bytes Nat}
    (hbd : ∀ name i, names.lookup name = some i → ∃ name', d.names.lookup name' = some i)
    (hk : ∀ name i, d.names.lookup name = some i → (name = d.target ∨ unresolved name) →
      Expendable sha256 d i ∨ ∃ name', names.lookup name' = some i ∧ (name' = d.target ∨
      unresolved name')) :
    (d.relabel old new names).Good sha256 := by
  obtain ⟨hplc, hdrpd, hown⟩ := relabel_history d old new names
  refine ⟨fun name i hnm => ?_, fun p hp => hd.placed p (hplc ▸ hp), fun p hp => ?_⟩
  · obtain ⟨name', hnm'⟩ := hbd name i hnm
    exact hd.bound name' i hnm'
  · rw [hplc] at hp
    rw [hdrpd, hown]
    rcases hd.kept p hp with ⟨⟨name, hnm, hplace⟩, hfi⟩ | hrs
    · rcases hk name p.1 hnm hplace with hexpd | ⟨name', hnm', hplace'⟩
      · exact .inr (hexpd p.2 hp)
      · exact .inl ⟨⟨name', hnm', hplace'⟩, hfi⟩
    · exact .inr hrs

lemma Good.create {name : Bytes} {perm i : Nat} (h : (d.createExclusive name perm).1 = .ok i) :
    (d.createExclusive name perm).2.Good sha256 ∧ i = d.next ∧
      (d.createExclusive name perm).2.names.lookup name = some i ∧
      (d.createExclusive name perm).2.next = d.next + 1 ∧
      (d.createExclusive name perm).2.target = d.target ∧
      (d.createExclusive name perm).2.history = d.history := by
  unfold ConfigDirectory.createExclusive at h ⊢
  cases hfe : d.names.lookup name with
  | some j =>
    rw [hfe] at h
    cases h
  | none =>
    rw [hfe] at h
    cases h
    refine ⟨⟨fun other i hoth => ?_, fun p hp => Nat.lt_succ_of_lt (hd.placed p hp), fun p hp => ?_⟩,
      rfl, lookup_insert _, rfl, rfl, rfl⟩
    · have := hd.bound other i
      grind
    · rcases hd.kept p hp with ⟨⟨other, hoth, hplace⟩, hfi⟩ | hrs
      · have hne : other ≠ name := by grind
        refine .inl ⟨⟨other, (lookup_insert_ne hne).trans hoth, hplace⟩, ?_⟩
        exact (update_of_ne (ne_of_lt (hd.placed p hp)) _ _).trans hfi
      · exact .inr hrs

lemma Good.renameNoReplace (old : Bytes) {new : Bytes} (hnew : new = d.target ∨ unresolved new) :
    (d.renameNoReplace old new).2.Good sha256 := by
  unfold ConfigDirectory.renameNoReplace
  split
  · exact hd
  · exact hd
  next i hold hfe =>
    refine hd.relabel (fun name k hnm => ?_) fun name k hnm hplace => .inr ?_
    · rw [NameTable.lookup_move hold] at hnm
      grind
    · refine ⟨NameTable.moveName old new name, NameTable.lookup_moveName hold hfe hnm, ?_⟩
      grind [NameTable.moveName]

lemma Good.renameExchange {old new : Bytes} (hold : old = d.target ∨ unresolved old)
    (hnew : new = d.target ∨ unresolved new) : (d.renameExchange old new).2.Good sha256 := by
  unfold ConfigDirectory.renameExchange
  split
  next i j hi hj =>
    refine hd.relabel (fun name k hnm => ?_) fun name k hnm hplace => .inr ?_
    · rw [NameTable.lookup_exchange hi hj] at hnm
      grind
    · refine ⟨NameTable.exchangeName old new name, NameTable.lookup_exchangeName hi hj hnm, ?_⟩
      grind [NameTable.exchangeName]
  · exact hd

lemma Good.unlinkat {name : Bytes}
    (hnm : ∀ i, d.names.lookup name = some i → Expendable sha256 d i) :
    (d.unlinkat name).2.Good sha256 := by
  unfold ConfigDirectory.unlinkat
  split
  · exact hd
  next i hi =>
    refine hd.relabel (fun other k hoth => ?_) fun other k hoth hplace => ?_
    · grind
    · by_cases h : other = name
      · exact .inl (hnm k (h ▸ hoth))
      · exact Or.inr ⟨other, by grind, hplace⟩

end

end ConfigDirectory

end

/-! ## 3. Programs that only look -/

section

variable {α ε δ : Type} {sha256 : Bytes → δ} {w : Faulty ConfigDirectory} {d : ConfigDirectory}

instance instIsPreorderIdle : IsPreorder ConfigDirectory ConfigDirectory.Idle where
  refl := .refl
  trans _ _ _ := .trans

/-- The program changes nothing. -/
abbrev Asks (sha256 : Bytes → δ) (m : Fallible (Faulty ConfigDirectory) ε α) : Prop :=
  m.Keeps (ConfigDirectory.Good sha256) ConfigDirectory.Idle

/-- A good directory in which only others have worked since `d`. -/
def Looked (sha256 : Bytes → δ) (d t : ConfigDirectory) : Prop := t.Good sha256 ∧ d.Idle t

lemma Asks.looked {m : Fallible (Faulty ConfigDirectory) ε α} (hm : Asks sha256 m)
    (hw : Looked sha256 d w.state) : m.Stays w (Looked sha256 d) :=
  hm.ends hw.1 (fun _ _ ht hid => ⟨ht, hw.2.trans hid⟩) fun _ _ ht hid => ⟨ht, hw.2.trans hid⟩

/-- A system call that does nothing when it fails, in the directory that the others have left. -/
lemma syscall_ends {eff : ConfigDirectory → Except Errno α × ConfigDirectory}
    {P : α → Faulty ConfigDirectory → Prop} {E : Errno → Faulty ConfigDirectory → Prop}
    (hw : Looked sha256 d w.state) (hsafe : ∀ t e, (eff t).1 = .error e → (eff t).2 = t)
    (hok : ∀ a t faults, Looked sha256 d t → (eff t).1 = .ok a → P a ⟨(eff t).2, faults⟩)
    (herr : ∀ e t, Looked sha256 d t.state → E e t) : (syscall eff).Ends w P E := by
  obtain ⟨hg, hid⟩ := ConfigDirectory.idle_interfere hw.1
  have hlooked : Looked sha256 d w.state.interfere := ⟨hg, hw.2.trans hid⟩
  refine .seq (.modify (.call (fun failure _ => ?_) (fun a ha => ?_) fun e he => ?_))
  · exact herr failure.code _ hlooked
  · exact hok a _ _ hlooked ha
  · refine herr e _ ?_
    dsimp only at he ⊢
    rw [hsafe _ e he]
    exact hlooked

lemma asking_ends {ans : ConfigDirectory → Except Errno α} (hw : Looked sha256 d w.state) :
    (asking ans).Ends w (fun a t => Looked sha256 d t.state ∧ ans t.state = .ok a)
      (fun _ t => Looked sha256 d t.state) :=
  syscall_ends hw (fun _ _ _ => rfl) (fun _ _ _ ht ha => ⟨ht, ha⟩) fun _ _ ht => ht

lemma asks_asking (ans : ConfigDirectory → Except Errno α) : Asks sha256 (asking ans) :=
  fun _ hw => (asking_ends ⟨hw, .refl _⟩).imp fun _ _ h => h.1

lemma asks_sync : Asks sha256 sync := (asks_asking _).onError

lemma asks_close : Asks sha256 close := (asks_asking _).onError

lemma asks_readOpened (base requiredMarker : Bytes) (fd : Nat) :
    Asks sha256 (readOpened base requiredMarker fd) := by
  refine .bind (asks_asking _).onError fun info => .bind (asks_asking _).onError.attempt fun data => ?_
  refine .bind asks_close.attempt fun closed => ?_
  split
  · exact .bind .guard fun _ => .bind .guard fun _ => .pure _
  · exact .fail _

lemma asks_readSnapshot (base : Bytes) (required : Bool) (requiredMarker : Bytes) :
    Asks sha256 (readSnapshot base required requiredMarker) := by
  refine .bind (asks_asking _).attempt fun named => ?_
  cases named with
  | error code =>
    dsimp only
    split
    · exact .pure _
    · exact .fail _
  | ok named =>
    refine .bind .guard fun _ => .bind (asks_asking _).onError fun fd => ?_
    refine .bind (asks_asking _).onError fun opened => .bind .guard fun _ => .bind .guard fun _ => ?_
    exact asks_readOpened _ _ _

lemma asks_openSambaConfigDirectory : Asks sha256 openSambaConfigDirectory := (asks_asking _).onError

lemma asks_refuseQuarantine : Asks sha256 refuseQuarantine := by
  refine .bind (asks_asking _).onError fun _ => .bind (asks_asking _).onError.attempt fun entries => ?_
  refine .bind asks_close.attempt fun closed => ?_
  split
  · exact .guard
  · exact .fail _

lemma randomSambaCASName_ends {marker base : Bytes} (hw : Looked sha256 d w.state) :
    (randomSambaCASName marker base).Ends w
      (fun name t => (∃ rnd, name = casName marker base rnd) ∧ Looked sha256 d t.state)
      (fun _ t => Looked sha256 d t.state) := by
  refine .seq (.onError (syscall_ends hw (fun _ _ he => by cases he) (fun rnd t _ ht _ => ?_)
    fun _ _ ht => ht))
  exact .pure ⟨⟨rnd, rfl⟩, ⟨ht.1.bound, ht.1.placed, ht.1.kept⟩,
    ht.2.1, ht.2.2, ht.2.3, ht.2.4, ht.2.5, ht.2.6, ht.2.7, ht.2.8⟩

lemma randomQuarantineName_ends {base : Bytes} (tries : Nat) :
    ∀ {w : Faulty ConfigDirectory}, Looked sha256 d w.state →
      (randomQuarantineName base tries).Ends w
        (fun name t => (∃ rnd, name = casName sambaConfigQuarantineMarker base rnd) ∧
          Looked sha256 d t.state) (fun _ t => Looked sha256 d t.state) := by
  induction tries with
  | zero => exact fun hw => .fail hw
  | succ tries ih =>
    intro w hw
    refine .bind (randomSambaCASName_ends hw) fun name t ⟨hnm, ht⟩ => ?_
    refine .seq (.attempt ((asking_ends ht).mono (fun _ u hu => ih hu.1) fun code u hu => ?_))
    dsimp only
    split
    · exact .pure ⟨hnm, hu⟩
    · exact .fail hu

/-- What was read from an open file, if it is not longer than a config may be. -/
lemma readOpened_ends {base : Bytes} {i : Nat} (hw : Looked sha256 d w.state) (hi : i < d.next) :
    (readOpened base [] i).Ends w
      (fun s t => s = (d.files i).snapshot base ∧ Looked sha256 d t.state)
      (fun _ t => Looked sha256 d t.state) := by
  refine .bind (.onError (asking_ends hw)) fun info t1 ⟨h1, hinfo⟩ => ?_
  refine .seq (.attempt (.onError ((asking_ends h1).mono (fun data t2 ⟨h2, hda⟩ => ?_) fun _ t2 h2 => ?_)))
  · refine .seq (.attempt ((asks_close.looked h2).mono (fun _ t3 h3 => ?_) fun _ _ h3 => .fail h3))
    refine .seq (.guard (fun _ => h3) fun hlen => .seq (.guard (fun _ => h3) fun _ => .pure ⟨?_, h3⟩))
    have hda : data = (d.files i).data := by
      rw [← Except.ok.inj hda, h2.2.files i hi] at hlen ⊢
      rw [length_take] at hlen
      exact take_of_length_le (by omega)
    rw [← Except.ok.inj hinfo, hda]
    unfold ConfigDirectory.stat ConfigFile.snapshot
    rw [h1.2.files i hi]
  · exact .seq (.attempt ((asks_close.looked h2).mono (fun _ _ h3 => .fail h3) fun _ _ h3 => .fail h3))

lemma openat_eq_ok {name : Bytes} {i fd : Nat} (hnm : d.names.lookup name = some i)
    (h : d.openat name = .ok fd) : fd = i := by
  unfold ConfigDirectory.openat at h
  rw [hnm] at h
  dsimp only at h
  split at h
  · exact (Except.ok.inj h).symm
  · cases h

/-- **What is read under a name that others do not touch is the file there.** -/
theorem readSnapshot_ends {name : Bytes} {i : Nat} (hw : w.state.Good sha256)
    (hnm : w.state.names.lookup name = some i) (hpriv : name ≠ w.state.target) :
    (readSnapshot name true []).Ends w
      (fun s t => s = (w.state.files i).snapshot name ∧ Looked sha256 w.state t.state)
      (fun _ t => Looked sha256 w.state t.state) := by
  refine .seq (.attempt ((asking_ends ⟨hw, .refl _⟩).mono (fun named t1 ⟨h1, _⟩ =>
    ?_) fun code t1 h1 => ?_))
  · refine .seq (.guard (fun _ => h1) fun _ => ?_)
    refine .bind (.onError (asking_ends h1)) fun fd t2 ⟨h2, hop⟩ => ?_
    obtain rfl := openat_eq_ok ((h2.2.names name hpriv).trans hnm) hop
    refine .bind (.onError (asking_ends h2)) fun opened t3 ⟨h3, _⟩ => ?_
    refine .seq (.guard (fun _ => h3) fun _ => .seq (.guard (fun _ => h3) fun _ => ?_))
    exact readOpened_ends h3 (hw.bound name fd hnm)
  · dsimp only
    split
    next habs =>
      cases habs.2
    · exact .fail h1

end

/-! ## 4. Programs that discard -/

/-- The call has neither another target nor other snapshots to discard, and if `quiet` it has left the
target to the others. -/
structure Steady (quiet : Prop) (d t : ConfigDirectory) : Prop where
  target : t.target = d.target
  owned : t.history.owned = d.history.owned
  displaced : quiet → t.history.displaced = d.history.displaced

lemma Steady.refl (quiet : Prop) (d : ConfigDirectory) : Steady quiet d d := ⟨rfl, rfl, fun _ => rfl⟩

variable {quiet : Prop}

lemma Steady.trans {u : ConfigDirectory} (h : Steady quiet d t)
    (h' : Steady quiet t u) : Steady quiet d u :=
  ⟨h'.target.trans h.target, h'.owned.trans h.owned,
    fun hqt => (h'.displaced hqt).trans (h.displaced hqt)⟩

lemma Steady.weaken {quiet' : Prop} (h : Steady quiet d t) (himp : quiet' → quiet) :
    Steady quiet' d t :=
  ⟨h.target, h.owned, fun hqt => h.displaced (himp hqt)⟩

lemma ConfigDirectory.Idle.steady (h : d.Idle t) (quiet : Prop) : Steady quiet d t :=
  ⟨h.target, h.owned, fun _ => h.displaced⟩

variable {old new : Bytes}

lemma steady_relabel {names : NameTable Bytes Nat}
    (h : quiet → old ≠ d.target ∧ new ≠ d.target) : Steady quiet d (d.relabel old new names) := by
  unfold ConfigDirectory.relabel
  split
  · exact ⟨rfl, rfl, by grind⟩
  · exact ⟨rfl, rfl, fun _ => rfl⟩

lemma steady_renameNoReplace (h : quiet → old ≠ d.target ∧ new ≠ d.target) :
    Steady quiet d (d.renameNoReplace old new).2 := by
  unfold ConfigDirectory.renameNoReplace
  split
  · exact .refl _ _
  · exact .refl _ _
  · exact steady_relabel h

variable {e : Errno}

lemma renameNoReplace_failed
    (h : (d.renameNoReplace old new).1 = .error e) : (d.renameNoReplace old new).2 = d := by
  grind [ConfigDirectory.renameNoReplace]

lemma renameExchange_failed
    (h : (d.renameExchange old new).1 = .error e) : (d.renameExchange old new).2 = d := by
  grind [ConfigDirectory.renameExchange]

lemma createExclusive_failed {name : Bytes} {perm : Nat}
    (h : (d.createExclusive name perm).1 = .error e) :
    (d.createExclusive name perm).2 = d := by
  grind [ConfigDirectory.createExclusive]

lemma unlinkat_failed {name : Bytes} (h : (d.unlinkat name).1 = .error e) :
    (d.unlinkat name).2 = d := by
  grind [ConfigDirectory.unlinkat]

lemma length_casName (marker base : Bytes) (rnd : Arr 16) :
    base.length < (casName marker base rnd).length := by
  simp only [casName, length_cons, length_append]
  omega

lemma casName_ne_target {base : Bytes} (hlong : d.target.length ≤ base.length) (marker : Bytes)
    (rnd : Arr 16) : casName marker base rnd ≠ d.target := by
  intro h
  have hlen := h ▸ length_casName marker base rnd
  omega

lemma unresolved_quarantine (base : Bytes) (random : Arr 16) :
    unresolved (casName sambaConfigQuarantineMarker base random) := by
  have hmarker : sambaConfigQuarantineMarker <:+: casName sambaConfigQuarantineMarker base random :=
    ⟨46 :: base, hexEncode random.1, by simp [casName]⟩
  unfold unresolved
  rw [decide_eq_true hmarker]
  rfl

lemma unresolved_staging (base : Bytes) (random : Arr 16) :
    unresolved (casName stagingMarker base random) := by
  have hmarker : stagingMarker <:+: casName stagingMarker base random :=
    ⟨46 :: base, hexEncode random.1, by simp [casName]⟩
  have hdot : hasPrefix (casName stagingMarker base random) [46] := rfl
  unfold unresolved
  rw [decide_eq_true hmarker, hdot]
  exact Bool.or_true _

section

variable {α δ : Type} {sha256 : Bytes → δ} {w : Faulty ConfigDirectory} {d : ConfigDirectory}
variable {quiet : Prop} {i : Nat} {P : α → Faulty ConfigDirectory → Prop}
variable {t u : ConfigDirectory} {s expected candidate : SambaConfigSnapshot} {stg : Bytes}
  {others : List (Option OpError)}

/-- A good directory that the call has left steady since `d`. -/
def Spared (sha256 : Bytes → δ) (quiet : Prop) (d t : ConfigDirectory) : Prop :=
  t.Good sha256 ∧ Steady quiet d t

lemma Looked.spared (h : Looked sha256 t u) (ht : Steady quiet d t) : Spared sha256 quiet d u :=
  ⟨h.1, ht.trans (h.2.steady quiet)⟩

lemma Spared.weaken {quiet' : Prop} (h : Spared sha256 quiet t u) (ht : Steady quiet' d t)
    (himp : quiet' → quiet) : Spared sha256 quiet' d u :=
  ⟨h.1, ht.trans (h.2.weaken himp)⟩

lemma Spared.looked (h : Spared sha256 quiet d w.state) : Looked sha256 w.state w.state := ⟨h.1, .refl _⟩

lemma Asks.spared {ε : Type} {m : Fallible (Faulty ConfigDirectory) ε α} (hm : Asks sha256 m)
    (hw : Spared sha256 quiet d w.state) : m.Stays w (Spared sha256 quiet d) :=
  (hm.looked hw.looked).mono (fun _ _ h => h.spared hw.2) fun _ _ h => h.spared hw.2

variable {old name retainedName : Bytes}

lemma Spared.renameNoReplace {new : Bytes} (h : Spared sha256 quiet d t)
    (hnew : new = d.target ∨ unresolved new)
    (hqt : quiet → old ≠ d.target ∧ new ≠ d.target) :
    Spared sha256 quiet d (t.renameNoReplace old new).2 := by
  rw [← h.2.target] at hnew hqt
  exact ⟨h.1.renameNoReplace old hnew, h.2.trans (steady_renameNoReplace hqt)⟩

/-- The name is the call's own, and nothing has to be kept of the file behind it. -/
structure Mine (sha256 : Bytes → δ) (d : ConfigDirectory) (name : Bytes) (i : Nat) : Prop where
  lookup : d.names.lookup name = some i
  private_ : name ≠ d.target
  expendable : d.Expendable sha256 i

lemma Mine.idle (h : Mine sha256 d name i) (hd : d.Good sha256) (hid : d.Idle t) :
    Mine sha256 t name i where
  lookup := (hid.names name h.private_).trans h.lookup
  private_ := hid.target.symm ▸ h.private_
  expendable := h.expendable.idle (hd.bound name i h.lookup) hid

/-- A directory in which the file `i` is left to the call, under the name. -/
def Owns (sha256 : Bytes → δ) (d : ConfigDirectory) (name : Bytes) (i : Nat) (t : ConfigDirectory) :
    Prop :=
  Spared sha256 True d t ∧ Mine sha256 t name i

lemma Looked.owns (h : Looked sha256 t u) (ht : Owns sha256 d name i t) : Owns sha256 d name i u :=
  ⟨h.spared ht.1.2, ht.2.idle ht.1.1 h.2⟩

lemma Asks.owns {ε : Type} {m : Fallible (Faulty ConfigDirectory) ε α} (hm : Asks sha256 m)
    (hw : Owns sha256 d name i w.state) : m.Stays w (Owns sha256 d name i) :=
  (hm.looked hw.1.looked).mono (fun _ _ h => h.owns hw) fun _ _ h => h.owns hw

lemma writing_ends {f : ConfigFile → ConfigFile} (hw : Owns sha256 d name i w.state) :
    (writing i f).Stays w (Owns sha256 d name i) := by
  unfold writing plainly
  refine .onError (syscall_ends hw.1.looked (fun _ _ he => by cases he) (fun _ t _ ht _ => ?_)
    fun _ _ ht => ht.owns hw)
  obtain ⟨⟨hg, hsteady⟩, hmine⟩ := ht.owns hw
  exact ⟨⟨hg.write hmine.expendable f, hsteady.target, hsteady.owned, hsteady.displaced⟩,
    hmine.lookup, hmine.private_, hmine.expendable⟩

lemma sanitize_ends {moved : SambaConfigSnapshot} (hw : Owns sha256 d retainedName i w.state) :
    (sanitize moved retainedName).Stays w (Spared sha256 True d) := by
  have hfa : ∀ (e : OpError) (t : Faulty ConfigDirectory), Owns sha256 d retainedName i t.state →
      Spared sha256 True d t.state := fun _ _ h => h.1
  refine .seq (.onError ((asking_ends hw.1.looked).mono (fun opened t ⟨ht, hop⟩ => ?_) fun _ _ ht =>
    ht.spared hw.1.2))
  have hown := ht.owns hw
  obtain rfl := openat_eq_ok hown.2.lookup hop
  refine .seq ((Asks.owns (asks_asking _).onError.attempt hown).mono (fun info t1 h1 => ?_) hfa)
  refine .seq (.guard (fun _ => h1.1) fun _ => ?_)
  refine .seq ((writing_ends h1).mono (fun _ t2 h2 => ?_) hfa)
  refine .seq ((writing_ends h2).mono (fun _ t3 h3 => ?_) hfa)
  refine .seq ((Asks.owns (asks_asking _).onError h3).mono (fun _ t4 h4 => ?_) hfa)
  refine .seq ((asks_close.owns h4).mono (fun _ t5 h5 => ?_) hfa)
  refine .seq ((Asks.owns (asks_readSnapshot _ _ _).attempt h5).mono (fun final t6 h6 => ?_) hfa)
  refine .seq (.guard (fun _ => h6.1) fun _ => ?_)
  refine .seq (.onError (syscall_ends h6.1.looked (fun _ _ => unlinkat_failed) (fun _ v _ hv _ => ?_)
    fun _ _ ht => ht.spared h6.1.2))
  obtain ⟨⟨hg, hsteady⟩, hmine⟩ := hv.owns h6
  refine asks_sync.spared ⟨hg.unlinkat fun k hk => ?_, hsteady.trans ?_⟩
  · obtain rfl := some.inj (hmine.lookup.symm.trans hk)
    exact hmine.expendable
  · unfold ConfigDirectory.unlinkat
    rw [hmine.lookup]
    exact steady_relabel fun _ => ⟨hmine.private_, hmine.private_⟩

/-- The call's own name is given back to the target or to a name that blocks. -/
lemma putBack_ends {base : Bytes} {inspectErr : Option OpError}
    (hw : Spared sha256 quiet d w.state) (hpriv : retainedName ≠ d.target)
    (hplace : base = d.target ∨ unresolved base) (hqt : quiet → base ≠ d.target) :
    (putBack base retainedName inspectErr).Stays w (Spared sha256 quiet d) := by
  refine .seq (.attempt (.onError (syscall_ends hw.looked (fun _ _ => renameNoReplace_failed)
    (fun _ v _ hv _ => .fail ?_) fun _ _ ht => .fail (ht.spared hw.2))))
  exact (hv.spared hw.2).renameNoReplace hplace fun h => ⟨hpriv, hqt h⟩

/-- What a move of the call's own leaves: the file is behind the new name, and nothing else is new. -/
lemma renameNoReplace_moved {new : Bytes} (h : (d.renameNoReplace old new).1 = .ok ()) :
    ∃ i, d.names.lookup old = some i ∧ (d.renameNoReplace old new).2.names.lookup new = some i ∧
      (d.renameNoReplace old new).2.history.placed = d.history.placed ∧
      (d.renameNoReplace old new).2.history.dropped = d.history.dropped := by
  unfold ConfigDirectory.renameNoReplace at h ⊢
  split at h
  · cases h
  · cases h
  next i hold hfe =>
    rw [hold]
    obtain ⟨hplc, hdrpd, -⟩ := d.relabel_history old new (d.names.move old new)
    exact ⟨i, rfl, (NameTable.lookup_move hold).trans (if_pos rfl), hplc, hdrpd⟩

/-- What is under a name of the call's own is moved to a name that blocks. -/
lemma quarantineUnknown_ends {base : Bytes} (hw : Spared sha256 True d w.state)
    (hlong : d.target.length ≤ base.length) (hpriv : base ≠ d.target) :
    (quarantineUnknown base).Stays w (Spared sha256 True d) := by
  refine .seq (.attempt ((asking_ends hw.looked).mono (fun _ u hu => ?_) fun code u hu => ?_))
  · refine .seq ((randomQuarantineName_ends 16 hu.1).mono (fun name t ⟨⟨rnd, hnm⟩, ht⟩ => ?_)
      fun _ _ ht => ht.spared hw.2)
    subst hnm
    refine .seq (.onError (syscall_ends ht (fun _ _ => renameNoReplace_failed) (fun _ v _ hv _ => ?_)
      fun _ _ hv => hv.spared hw.2))
    refine asks_sync.spared ((hv.spared hw.2).renameNoReplace (.inr (unresolved_quarantine base rnd))
      fun _ => ⟨hpriv, casName_ne_target hlong _ _⟩)
  · dsimp only
    split
    · exact .pure (hu.spared hw.2)
    · exact .fail (hu.spared hw.2)

/-- Every file that is what the snapshot says may be discarded. -/
def Covers (sha256 : Bytes → δ) (d : ConfigDirectory) (s : SambaConfigSnapshot) : Prop :=
  ∀ file, Matches sha256 s file → ∃ s' ∈ d.history.owned, Matches sha256 s' file

lemma covers_of_mem (h : s ∈ d.history.owned) : Covers sha256 d s :=
  fun _ hmats => ⟨s, h, hmats⟩

lemma matches_snapshot (file : ConfigFile) (base : Bytes) : Matches sha256 (file.snapshot base) file :=
  ⟨rfl, rfl, rfl, rfl⟩

variable [DecidableEq δ]

lemma equalTo_eq_some {read : Except OpError SambaConfigSnapshot}
    (h : equalTo sha256 expected read = some s) :
    read = .ok s ∧ sambaConfigSnapshotsEqual sha256 expected s := by
  obtain ⟨hrd, hequal⟩ := filter_eq_some_iff.mp h
  cases read with
  | error e => cases hrd
  | ok s' => exact ⟨congrArg Except.ok (some.inj hrd), hequal⟩

lemma matches_of_equal (hpres : s.present)
    (h : sambaConfigSnapshotsEqual sha256 expected s) {file : ConfigFile}
    (hfi : Matches sha256 s file) : Matches sha256 expected file := by
  unfold sambaConfigSnapshotsEqual at h
  split at h
  · cases h
  next hsm =>
    have hexp : expected.present := (not_not.mp hsm).trans hpres
    rw [if_neg (by rw [hexp]; exact Bool.noConfusion), decide_eq_true_iff] at h
    exact ⟨hexp, hfi.identity.trans h.1.symm, hfi.permission.trans h.2.1.symm,
      hfi.digest.trans h.2.2.symm⟩

/-- The file behind the retained name goes, if it is the expected one, or back. -/
lemma discardMoved_ends (hw : Spared sha256 quiet d w.state)
    (hlk : w.state.names.lookup retainedName = some i) (hpriv : retainedName ≠ d.target)
    (hplace : expected.base = d.target ∨ unresolved expected.base)
    (hqt : quiet → expected.base ≠ d.target)
    (hdisc : Covers sha256 w.state expected ∨ w.state.Expendable sha256 i) :
    (discardMoved sha256 expected retainedName).Stays w (Spared sha256 quiet d) := by
  have hmine : retainedName ≠ w.state.target := hw.2.target.symm ▸ hpriv
  refine .seq (.attempt ((readSnapshot_ends hw.1 hlk hmine).mono (fun read t hrd => ?_)
    fun _ t ht => putBack_ends (ht.spared hw.2) hpriv hplace hqt))
  obtain ⟨rfl, ht⟩ := hrd
  split
  next moved hequal =>
    obtain ⟨hmvd, hsm⟩ := equalTo_eq_some hequal
    cases hmvd
    have hexpd : w.state.Expendable sha256 i := by
      rcases hdisc with hcov | hexpd
      · obtain ⟨s, hs, hmats⟩ := hcov _ (matches_of_equal rfl hsm (matches_snapshot _ _))
        exact hw.1.expendable hs hmats
      · exact hexpd
    have hown : Owns sha256 w.state retainedName i w.state :=
      ⟨⟨hw.1, .refl _ _⟩, hlk, hmine, hexpd⟩
    exact (sanitize_ends (ht.owns hown)).mono (fun _ _ h => h.weaken hw.2 fun _ => trivial)
      fun _ _ h => h.weaken hw.2 fun _ => trivial
  · exact putBack_ends (ht.spared hw.2) hpriv hplace hqt

/-- **Discarding is safe** for a snapshot of the calls, under any name, and for a file of the call's
own. -/
theorem discard_ends (hw : Spared sha256 quiet d w.state)
    (hlong : d.target.length ≤ expected.base.length)
    (hplace : expected.base = d.target ∨ unresolved expected.base)
    (hqt : quiet → expected.base ≠ d.target)
    (hdisc : Covers sha256 w.state expected ∨ ∃ i, Mine sha256 w.state expected.base i) :
    (discardSambaConfigSnapshotIfOwned sha256 expected).Stays w (Spared sha256 quiet d) := by
  unfold discardSambaConfigSnapshotIfOwned
  split
  · exact .pure hw
  refine .seq ((Asks.looked (asks_readSnapshot _ _ _).attempt hw.looked).mono (fun cur t ht => ?_)
    fun _ _ ht => ht.spared hw.2)
  split
  · exact .fail (ht.spared hw.2)
  refine .seq ((randomQuarantineName_ends 16 ht).mono (fun name t1 ⟨⟨rnd, hnm⟩, ht1⟩ => ?_)
    fun _ _ ht => ht.spared hw.2)
  subst hnm
  refine .seq (.onError (syscall_ends ht1 (fun _ _ => renameNoReplace_failed)
    (fun _ v _ hv hmvd => ?_) fun _ _ ht => ht.spared hw.2))
  -- the file that is moved need not be the one that was read
  have hpriv := casName_ne_target hlong sambaConfigQuarantineMarker rnd
  have hren : Spared sha256 quiet d (v.renameNoReplace expected.base _).2 :=
    (hv.spared hw.2).renameNoReplace (.inr (unresolved_quarantine expected.base rnd)) fun h =>
      ⟨hqt h, hpriv⟩
  obtain ⟨i, hi, hlk, hplc, hdrpd⟩ := renameNoReplace_moved hmvd
  have hown := hren.2.owned.trans hw.2.owned.symm
  refine discardMoved_ends hren hlk hpriv hplace hqt ?_
  rcases hdisc with hcov | ⟨j, hmine⟩
  · refine .inl fun file hfi => ?_
    rw [hown]
    exact hcov file hfi
  · have hmine := hmine.idle hw.1 hv.2
    obtain rfl := some.inj (hmine.lookup.symm.trans hi)
    refine .inr fun file hfi => ?_
    rw [hdrpd, hown, ← hv.2.owned]
    exact hmine.expendable file (hplc ▸ hfi)

/-- A staging name that the call may clear: it is its own, long enough, and blocks. -/
structure Staging (d : ConfigDirectory) (name : Bytes) : Prop where
  private_ : name ≠ d.target
  long : d.target.length ≤ name.length
  blocks : unresolved name

lemma Staging.of_target (h : Staging d name) (htgt : t.target = d.target) : Staging t name :=
  ⟨htgt.symm ▸ h.private_, htgt.symm ▸ h.long, h.blocks⟩

lemma staging_casName (rnd : Arr 16) : Staging d (casName stagingMarker d.target rnd) :=
  ⟨casName_ne_target (Nat.le_refl _) _ _, (length_casName _ _ _).le, unresolved_staging _ _⟩

lemma discardTemporary_ends (hw : Spared sha256 True d w.state) (hstg : Staging d expected.base)
    (hdisc : Covers sha256 w.state expected ∨ ∃ i, Mine sha256 w.state expected.base i) :
    (discardTemporarySambaConfigSnapshotIfOwned sha256 expected).Stays w (Spared sha256 True d) := by
  refine .seq (.attempt ((discard_ends hw hstg.long (.inr hstg.blocks)
    (fun _ => hstg.private_) hdisc).mono (fun _ t ht => .pure ht) fun e t ht => ?_))
  exact .seq (.attempt ((quarantineUnknown_ends ht hstg.long hstg.private_).mono
    (fun _ _ hu => .fail hu) fun _ _ hu => .fail hu))

variable {err : OpError}

omit [DecidableEq δ] in
lemma quarantineAndFail_ends (hw : Spared sha256 True d w.state) (hstg : Staging d stg) :
    (quarantineAndFail stg err others : Action α).Ends w P
      (fun _ t => Spared sha256 True d t.state) :=
  .seq (.attempt ((quarantineUnknown_ends hw hstg.long hstg.private_).mono
    (fun _ _ hu => .fail hu) fun _ _ hu => .fail hu))

lemma discardAndFail_ends (hw : Spared sha256 True d w.state)
    (hstg : Staging d expected.base) (hcov : Covers sha256 w.state expected) :
    (discardAndFail sha256 expected err others : Action α).Ends w P
      (fun _ t => Spared sha256 True d t.state) :=
  .seq (.attempt ((discardTemporary_ends hw hstg (.inl hcov)).mono
    (fun _ _ hu => .fail hu) fun _ _ hu => .fail hu))

/-! ## 5. Staging and publication -/

omit [DecidableEq δ] in
lemma createStaging_ends {perm : Nat} (tries : Nat) :
    ∀ {w : Faulty ConfigDirectory}, Spared sha256 True d w.state →
      (createStaging d.target perm tries).Ends w
        (fun p t => Owns sha256 d p.1 p.2 t.state ∧ Staging d p.1)
        (fun _ t => Spared sha256 True d t.state) := by
  induction tries with
  | zero => exact fun hw => .fail hw
  | succ tries ih =>
    intro w hw
    refine .seq ((randomSambaCASName_ends hw.looked).mono (fun name t ⟨⟨rnd, hnm⟩, ht⟩ => ?_)
      fun _ _ ht => ht.spared hw.2)
    subst hnm
    refine .seq (.attempt (syscall_ends ht (fun _ _ => createExclusive_failed) (fun i v _ hv hi => ?_)
      fun code v hv => ?_))
    · obtain ⟨hg, rfl, hlk, -, htgt, hhist⟩ := hv.1.create hi
      have hs := (hv.spared hw.2).2
      have hstg := staging_casName (d := d) rnd
      refine .pure ⟨⟨⟨hg, htgt.trans hs.target, hhist ▸ hs.owned, fun h => hhist ▸ hs.displaced h⟩,
        hlk, ?_, fun file hfi => ?_⟩, hstg⟩
      · exact (hstg.of_target (htgt.trans hs.target)).private_
      · -- the number is new, so no file of others has it
        rw [hhist] at hfi
        exact absurd (hv.1.placed _ hfi) (lt_irrefl _)
    · dsimp only
      split
      · exact ih (hv.spared hw.2)
      · exact .fail (hv.spared hw.2)

lemma closeRetained_ends {cause : OpError} (hw : Owns sha256 d stg i w.state)
    (hstg : Staging d stg) :
    (closeRetained sha256 stg i cause : Action α).Ends w P
      (fun _ t => Spared sha256 True d t.state) := by
  have hfa : ∀ (e : OpError) (t : Faulty ConfigDirectory), Owns sha256 d stg i t.state →
      Spared sha256 True d t.state := fun _ _ h => h.1
  refine .seq ((Fallible.Stays.attempt (writing_ends hw)).mono (fun _ t1 h1 => ?_) hfa)
  refine .seq ((Fallible.Stays.attempt (writing_ends h1)).mono (fun _ t2 h2 => ?_) hfa)
  refine .seq ((Asks.owns (asks_asking _).onError.attempt h2).mono (fun info t3 h3 => ?_) hfa)
  refine .seq ((Asks.owns asks_close.attempt h3).mono (fun closed t4 h4 => ?_) hfa)
  cases info with
  | error statErr => exact .fail h4.1
  | ok info =>
    exact .seq (.attempt ((discardTemporary_ends h4.1 hstg (.inr ⟨i, h4.2⟩)).mono
      (fun _ _ ht => .fail ht) fun _ _ ht => .fail ht))

lemma stage_ends {data : Bytes} {perm : Nat} (hw : Owns sha256 d stg i w.state)
    (hstg : Staging d stg) :
    (stage sha256 data perm stg i).Ends w
      (fun s t => (∃ file : ConfigFile, s = file.snapshot stg) ∧ Spared sha256 True d t.state)
      (fun _ t => Spared sha256 True d t.state) := by
  refine .seq (.attempt (.seq ((writing_ends hw).mono (fun _ t1 h1 => ?_) fun _ _ h =>
    closeRetained_ends h hstg)))
  refine .seq ((writing_ends h1).mono (fun _ t2 h2 => ?_) fun _ _ h => closeRetained_ends h hstg)
  refine (Asks.owns (asks_asking _).onError h2).mono (fun _ t3 h3 => ?_) fun _ _ h =>
    closeRetained_ends h hstg
  refine .seq (.attempt (.seq ((asks_close.owns h3).mono (fun _ t4 h4 => ?_) fun _ _ h =>
    quarantineAndFail_ends h.1 hstg)))
  exact (readSnapshot_ends h4.1.1 h4.2.lookup h4.2.private_).mono
    (fun _ t ht => .pure ⟨⟨_, ht.1⟩, ht.2.spared h4.1.2⟩) fun _ _ ht =>
      quarantineAndFail_ends (ht.spared h4.1.2) hstg

/-- What was read under the staging name and equals a snapshot of the calls may be discarded. -/
lemma covers_of_equal {read : SambaConfigSnapshot} (hs : s ∈ d.history.owned)
    (hpres : read.present) (hequal : sambaConfigSnapshotsEqual sha256 s read) :
    Covers sha256 d read :=
  fun _ hfi => ⟨s, hs, matches_of_equal hpres hequal hfi⟩

/-- After an exchange the file that was at the target is behind the staging name. -/
lemma renameExchange_moved (hold : old ≠ d.target)
    (h : (d.renameExchange old d.target).1 = .ok ()) :
    ∃ i, (d.renameExchange old d.target).2.names.lookup old = some i ∧
      (d.renameExchange old d.target).2.history.displaced
        = d.history.displaced ++ [some (i, d.files i)] ∧
      (d.renameExchange old d.target).2.files = d.files := by
  unfold ConfigDirectory.renameExchange at h ⊢
  split at h
  next i j hi hj =>
    refine ⟨j, ?_, ?_, rfl⟩
    · exact (NameTable.lookup_exchange hi hj).trans ((if_neg hold).trans (if_pos rfl))
    · simp only [ConfigDirectory.relabel, or_true, if_true, hj, map_some]
  · cases h

omit [DecidableEq δ] in
lemma Spared.renameExchange (h : Spared sha256 False d t) (hstg : Staging d stg) :
    Spared sha256 False d (t.renameExchange stg d.target).2 := by
  refine ⟨h.1.renameExchange (.inr hstg.blocks) (.inl h.2.target.symm), h.2.trans ?_⟩
  unfold ConfigDirectory.renameExchange
  split
  · exact steady_relabel fun h => h.elim
  · exact .refl _ _

omit [DecidableEq δ] in
lemma syncAndFail_ends (hw : Spared sha256 quiet d w.state) :
    (syncAndFail err others : Action α).Ends w P (fun _ t => Spared sha256 quiet d t.state) :=
  .seq ((Asks.spared asks_sync.attempt hw).mono (fun _ _ ht => .fail ht) fun _ _ ht => ht)

section

variable (hw : Spared sha256 False d w.state)
include hw

/-- What came back under the staging name is discarded if it is the candidate, and kept if not. -/
lemma settleRollBack_ends {displacedErr : Option OpError}
    (hlk : w.state.names.lookup stg = some i) (hstg : Staging d stg)
    (hcand : candidate ∈ d.history.owned) :
    (settleRollBack sha256 stg candidate displacedErr : Action α).Ends w P
      (fun _ t => Spared sha256 False d t.state) := by
  -- both ways end with a sync, after steps that leave the target alone
  have hstg' := hstg.of_target hw.2.target
  have hsy : ∀ {err : OpError} {others : List (Option OpError)} {x : Faulty ConfigDirectory},
      Spared sha256 True w.state x.state →
      (syncAndFail err others : Action α).Ends x P (fun _ t => Spared sha256 False d t.state) :=
    fun hx => syncAndFail_ends (hx.weaken hw.2 fun h => h.elim)
  have hunk : ∀ {err : OpError} {inspectErr : Option OpError} (u : Faulty ConfigDirectory),
      Looked sha256 w.state u.state → (do
        let quarantined ← Fallible.attempt (quarantineUnknown stg)
        syncAndFail err [displacedErr, inspectErr, failureOf quarantined] : Action α).Ends u P
          (fun _ t => Spared sha256 False d t.state) :=
    fun u hu => .seq (.attempt ((quarantineUnknown_ends (hu.spared (.refl _ _)) hstg'.long
      hstg'.private_).mono (fun _ _ hx => hsy hx) fun _ _ hx => hsy hx))
  refine .seq (.attempt ((readSnapshot_ends hw.1 hlk hstg'.private_).mono
    (fun read u hrd => ?_) fun _ u hu => hunk u hu))
  obtain ⟨rfl, hu⟩ := hrd
  split
  next rolledBack hequal =>
    obtain ⟨hok, hsm⟩ := equalTo_eq_some hequal
    cases hok
    have hown := (hu.spared hw.2).2.owned
    have hcov := covers_of_equal (hown.symm ▸ hcand) rfl hsm
    exact .seq (.attempt ((discardTemporary_ends (hu.spared (.refl _ _)) hstg' (.inl hcov)).mono
      (fun _ _ hx => hsy hx) fun _ _ hx => hsy hx))
  · exact hunk u hu

/-- Undoing an exchange loses nothing either, and the call fails. -/
lemma rollBack_ends {displacedErr : Option OpError} (hstg : Staging d stg)
    (hba : expected.base = d.target) (hcand : candidate ∈ d.history.owned) :
    (rollBack sha256 expected stg candidate displacedErr : Action α).Ends w P
      (fun _ t => Spared sha256 False d t.state) := by
  have hquar : ∀ {err : OpError} {others : List (Option OpError)} (t : Faulty ConfigDirectory),
      Spared sha256 False d t.state →
      (quarantineAndFail stg err others : Action α).Ends t P
        (fun _ t => Spared sha256 False d t.state) :=
    fun t ht => (quarantineAndFail_ends (d := t.state) ⟨ht.1, .refl _ _⟩
      (hstg.of_target ht.2.target)).impError fun _ _ h => h.weaken ht.2 fun h => h.elim
  refine .seq ((Asks.spared (asks_readSnapshot _ _ _).attempt hw).mono (fun cur t ht => ?_)
    fun _ _ ht => ht)
  split
  · exact hquar t ht
  · rw [hba]
    refine .seq (.attempt (.onError (syscall_ends ht.looked (fun _ _ => renameExchange_failed)
      (fun _ v _ hv hmvd => ?_) fun _ v hv => hquar _ (hv.spared ht.2))))
    have hs := hv.spared ht.2
    rw [← hs.2.target] at hmvd
    obtain ⟨i, hi, -⟩ := renameExchange_moved (hstg.of_target hs.2.target).private_ hmvd
    rw [hs.2.target] at hi
    exact settleRollBack_ends (hs.renameExchange hstg) hi hstg hcand

/-- After an exchange with the target: the call reports its candidate only if the file that came out
is the expected one. -/
lemma settleExchange_ends (hlk : w.state.names.lookup stg = some i)
    (hstg : Staging d stg) (hba : expected.base = d.target)
    (hexp : expected ∈ d.history.owned) (hcand : candidate ∈ d.history.owned) :
    (settleExchange sha256 expected stg candidate).Ends w
      (fun _ t => Spared sha256 True w.state t.state ∧ Matches sha256 expected (w.state.files i))
      (fun _ t => Spared sha256 False d t.state) := by
  have hstg' := hstg.of_target hw.2.target
  refine .seq (.attempt ((readSnapshot_ends hw.1 hlk hstg'.private_).mono
    (fun read u hrd => ?_) fun _ u hu => rollBack_ends (hu.spared hw.2) hstg hba hcand))
  obtain ⟨rfl, hu⟩ := hrd
  split
  next displaced hequal =>
    obtain ⟨hok, hsm⟩ := equalTo_eq_some hequal
    cases hok
    have hmats := matches_of_equal rfl hsm (matches_snapshot (w.state.files i) stg)
    have hown := (hu.spared hw.2).2.owned
    have hcov := covers_of_equal (hown.symm ▸ hexp) rfl hsm
    have hdisc := discardTemporary_ends (hu.spared (.refl True _)) hstg' (.inl hcov)
    refine .bind (Fallible.Ends.attempt (P := fun _ t => Spared sha256 True w.state t.state) hdisc)
      fun discarded x hx => ?_
    exact .seq ((Asks.spared asks_sync.attempt hx).mono (fun _ _ hy => .pure ⟨hy, hmats⟩)
      fun _ _ hy => hy.weaken hw.2 fun h => h.elim)
  · exact rollBack_ends (hu.spared hw.2) hstg hba hcand

end

/-- The target was as the snapshot says when a call put a file there. -/
def Expected (sha256 : Bytes → δ) (expected : SambaConfigSnapshot)
    (displaced : Option (Nat × ConfigFile)) : Prop :=
  (expected.present = false → displaced = none) ∧
    (expected.present → ∃ p, displaced = some p ∧ Matches sha256 expected p.2)

/-- The directory after a call that has published. -/
structure Publishes (sha256 : Bytes → δ) (expected : SambaConfigSnapshot) (d t : ConfigDirectory) :
    Prop where
  target : t.target = d.target
  displaced : ∃ displaced, t.history.displaced = d.history.displaced ++ [displaced] ∧
    Expected sha256 expected displaced

omit [DecidableEq δ] in
lemma renameNoReplace_target (h : (d.renameNoReplace old d.target).1 = .ok ()) :
    (d.renameNoReplace old d.target).2.history.displaced = d.history.displaced ++ [none] := by
  unfold ConfigDirectory.renameNoReplace at h ⊢
  split at h
  · cases h
  · cases h
  next i hold hfe =>
    simp only [ConfigDirectory.relabel, or_true, if_true, hfe, map_none]

/-- **A candidate is reported only if the target was as expected.** -/
theorem publishStaged_ends (hw : w.state.Good sha256) (hstg : Staging w.state stg)
    (hba : expected.base = w.state.target) (hcandidateBase : candidate.base = stg)
    (hexp : expected ∈ w.state.history.owned) (hcand : candidate ∈ w.state.history.owned) :
    (publishStaged sha256 expected stg candidate).Ends w
      (fun _ t => t.state.Good sha256 ∧ Publishes sha256 expected w.state t.state)
      (fun _ t => t.state.Good sha256 ∧ t.state.target = w.state.target) := by
  -- if the file did not get to the target, it is still the candidate under the staging name
  have hdisc : ∀ {err : OpError} (t : Faulty ConfigDirectory), Looked sha256 w.state t.state →
      (discardAndFail sha256 candidate err [] : Action (SambaConfigSnapshot × Option OpError)).Ends t
        (fun _ t => t.state.Good sha256 ∧ Publishes sha256 expected w.state t.state)
        (fun _ t => t.state.Good sha256 ∧ t.state.target = w.state.target) := by
    intro err t ht
    have hcov : Covers sha256 t.state candidate := covers_of_mem (ht.2.owned.symm ▸ hcand)
    exact (discardAndFail_ends (ht.spared (.refl True _)) (hcandidateBase.symm ▸ hstg) hcov).impError
      fun _ _ h => ⟨h.1, h.2.target⟩
  have hlooked : Looked sha256 w.state w.state := ⟨hw, .refl _⟩
  unfold publishStaged
  rw [hba]
  split
  next habs =>
    refine .seq (.attempt (syscall_ends hlooked (fun _ _ => renameNoReplace_failed)
      (fun _ v _ hv hmvd => ?_) fun _ v hv => hdisc _ hv))
    have hmove : Spared sha256 False w.state (v.renameNoReplace stg w.state.target).2 :=
      (hv.spared (.refl _ _)).renameNoReplace (.inl rfl) fun h => h.elim
    have hdisp : (v.renameNoReplace stg w.state.target).2.history.displaced
        = w.state.history.displaced ++ [none] := by
      rw [← hv.2.target] at hmvd ⊢
      rw [renameNoReplace_target hmvd, hv.2.displaced]
    refine .seq ((Asks.looked asks_sync.attempt hmove.looked).mono (fun _ t ht => .pure ⟨ht.1, ?_⟩)
      fun _ t ht => ⟨ht.1, (ht.spared hmove.2).2.target⟩)
    refine ⟨(ht.spared hmove.2).2.target, none, ht.2.displaced.trans hdisp, fun _ => rfl, ?_⟩
    intro hpres
    cases habs.symm.trans hpres
  next hpres =>
    have hpres := Bool.eq_true_of_not_eq_false hpres
    refine .seq (.attempt (syscall_ends hlooked (fun _ _ => renameExchange_failed)
      (fun _ v _ hv hmvd => ?_) fun _ v hv => hdisc _ hv))
    have hmove : Spared sha256 False w.state (v.renameExchange stg w.state.target).2 :=
      (hv.spared (.refl _ _)).renameExchange hstg
    rw [← hv.2.target] at hmvd
    obtain ⟨i, hi, hdisp, hfiles⟩ :=
      renameExchange_moved (hstg.of_target hv.2.target).private_ hmvd
    rw [hv.2.target] at hi hdisp hfiles
    refine (settleExchange_ends hmove hi hstg hba hexp hcand).mono
      (fun _ t ⟨ht, hmats⟩ => ⟨ht.1, ?_⟩) fun _ t ht => ⟨ht.1, ht.2.target⟩
    refine ⟨ht.2.target.trans hmove.2.target, some (i, v.files i), ?_, fun habs => ?_,
      fun _ => ⟨_, rfl, ?_⟩⟩
    · rw [ht.2.displaced trivial, hdisp, hv.2.displaced]
    · cases habs.symm.trans hpres
    · exact (congrFun hfiles i) ▸ hmats

omit [DecidableEq δ] in
lemma opening_ends {α : Type} {rest : Action α} {P : α → Faulty ConfigDirectory → Prop}
    {E : OpError → Faulty ConfigDirectory → Prop} (hw : w.state.Good sha256)
    (hE : ∀ e t, Looked sha256 w.state t.state → E e t)
    (hrs : ∀ t, Looked sha256 w.state t.state → rest.Ends t P E) :
    (do openSambaConfigDirectory; refuseQuarantine; rest : Action α).Ends w P E := by
  refine .seq ((asks_openSambaConfigDirectory.looked ⟨hw, .refl _⟩).mono (fun _ t1 h1 => ?_) hE)
  exact .seq ((asks_refuseQuarantine.looked h1).mono (fun _ t2 h2 => hrs t2 h2) hE)

/-- What a call of `publishSambaConfigCAS` keeps, and when it reports its candidate. -/
lemma publishSambaConfigCAS_ends (data : Bytes) (perm : Nat) (hw : w.state.Good sha256)
    (hba : expected.base = w.state.target) :
    (publishSambaConfigCAS sha256 expected data perm).Ends w
      (fun _ t => t.state.Good sha256 ∧ Publishes sha256 expected w.state t.state)
      (fun _ t => t.state.Good sha256 ∧ t.state.target = w.state.target) := by
  refine opening_ends hw (fun _ _ ht => ⟨ht.1, ht.2.target⟩) fun t2 h2 => ?_
  refine .seq (.modify (.seq ?_))
  rw [show expected.base = (t2.state.own expected).target from hba.trans h2.2.target.symm]
  refine (createStaging_ends (d := t2.state.own expected) 16 ⟨h2.1.own expected, .refl True _⟩).mono
    (fun p t3 ⟨h3, hstg⟩ => ?_) fun _ _ ht => ⟨ht.1, ht.2.target.trans h2.2.target⟩
  refine .seq ((stage_ends h3 hstg).mono (fun s t4 ⟨⟨file, hs⟩, h4⟩ => ?_) fun _ _ ht =>
    ⟨ht.1, ht.2.target.trans h2.2.target⟩)
  subst hs
  refine .seq (.modify ?_)
  have htgt : t4.state.target = w.state.target := h4.2.target.trans h2.2.target
  have hdisp : t4.state.history.displaced = w.state.history.displaced :=
    (h4.2.displaced trivial).trans h2.2.displaced
  have hexp : expected ∈ (t4.state.own (file.snapshot p.1)).history.owned := by
    refine mem_append_left _ ?_
    rw [h4.2.owned]
    exact mem_append_right _ (mem_singleton_self expected)
  have hcand : file.snapshot p.1 ∈ (t4.state.own (file.snapshot p.1)).history.owned :=
    mem_append_right _ (mem_singleton_self _)
  have hends := publishStaged_ends (w := ⟨t4.state.own (file.snapshot p.1), t4.faults⟩)
    (h4.1.own (file.snapshot p.1)) (hstg.of_target h4.2.target) (hba.trans htgt.symm) rfl
    hexp hcand
  refine hends.mono (fun _ t ht => ⟨ht.1, ht.2.target.trans htgt, ?_⟩) fun _ t ht =>
    ⟨ht.1, ht.2.trans htgt⟩
  obtain ⟨displaced, hlog, hexp⟩ := ht.2.displaced
  exact ⟨displaced, hlog.trans (congrArg (· ++ [displaced]) hdisp), hexp⟩

lemma removeSambaConfigCAS_ends (hw : w.state.Good sha256) (hba : expected.base = w.state.target) :
    (removeSambaConfigCAS sha256 expected).Stays w
      fun t => t.Good sha256 ∧ t.target = w.state.target := by
  refine opening_ends hw (fun _ _ ht => ⟨ht.1, ht.2.target⟩) fun t2 h2 => ?_
  have htgt : expected.base = t2.state.target := hba.trans h2.2.target.symm
  have hfinal : ∀ t : ConfigDirectory, Spared sha256 False (t2.state.own expected) t →
      t.Good sha256 ∧ t.target = w.state.target := fun t ht => ⟨ht.1, ht.2.target.trans h2.2.target⟩
  have hdisc := discard_ends (w := ⟨t2.state.own expected, t2.faults⟩)
    ⟨h2.1.own expected, .refl False _⟩ (congrArg length htgt).symm.le (.inl htgt)
    (fun h => h.elim) (.inl (covers_of_mem (mem_append_right _ (mem_singleton_self expected))))
  refine .seq (.modify (.seq (hdisc.mono (fun _ t3 h3 => ?_) fun _ t ht => hfinal _ ht)))
  refine .seq (.attempt ((asking_ends h3.looked).mono (fun _ u hu => .fail (hfinal _ (hu.1.spared h3.2)))
    fun code u hu => ?_))
  dsimp only
  split
  · exact (asks_sync.spared (hu.spared h3.2)).mono (fun _ _ h => hfinal _ h) fun _ _ h => hfinal _ h
  · exact .fail (hfinal _ (hu.spared h3.2))

end

/-! ## 6. Refusal -/

section

variable {α δ : Type} {sha256 : Bytes → δ} {d : ConfigDirectory} {w : Faulty ConfigDirectory}

/-- Only others have worked on the directory: it is what some of their turns make of it. -/
def Untouched (d t : ConfigDirectory) : Prop := ∃ turns : Nat, t = ConfigDirectory.interfere^[turns] d

lemma Untouched.interfere {t : ConfigDirectory} (h : Untouched d t) : Untouched d t.interfere := by
  obtain ⟨turns, rfl⟩ := h
  exact ⟨turns + 1, (iterate_succ_apply' _ _ _).symm⟩

lemma Untouched.idle {t : ConfigDirectory} (hd : d.Good sha256) (h : Untouched d t) :
    t.Good sha256 ∧ d.Idle t := by
  obtain ⟨turns, rfl⟩ := h
  induction turns with
  | zero => exact ⟨hd, .refl d⟩
  | succ turns ih =>
    rw [iterate_succ_apply']
    obtain ⟨hg, hid⟩ := ConfigDirectory.idle_interfere ih.1
    exact ⟨hg, ih.2.trans hid⟩

lemma asking_untouched {ans : ConfigDirectory → Except Errno α} (hw : Untouched d w.state) :
    (asking ans).Ends w (fun a t => Untouched d t.state ∧ ans t.state = .ok a)
      (fun _ t => Untouched d t.state) :=
  .seq (.modify (.call (fun _ _ => hw.interfere) (fun _ ha => ⟨hw.interfere, ha⟩) fun _ _ => hw.interfere))

lemma asked_untouched {ε : Type} {ans : ConfigDirectory → Except Errno α}
    {f : Faulty ConfigDirectory → Errno → ε} (hw : Untouched d w.state) :
    ((asking ans).onError f).Stays w (Untouched d) :=
  .onError ((asking_untouched hw).imp fun _ _ h => h.1)

lemma close_untouched (hw : Untouched d w.state) : close.Stays w (Untouched d) := asked_untouched hw

/-- **Nothing gets past an unresolved name.** -/
theorem refuseQuarantine_refuses (hd : d.Good sha256) {name : Bytes} (hpriv : name ≠ d.target)
    (hunre : unresolved name) (hnm : (d.names.lookup name).isSome)
    (hw : Untouched d w.state) :
    refuseQuarantine.Ends w (fun _ _ => False) (fun _ t => Untouched d t.state) := by
  refine .seq ((asked_untouched hw).imp fun _ t1 h1 => ?_)
  refine .seq (.attempt (.onError ((asking_untouched h1).mono (fun entries t2 ⟨h2, hes⟩ => ?_)
    fun _ t2 h2 => ?_)))
  · refine .seq (.attempt ((close_untouched h2).mono (fun _ t3 h3 => ?_) fun _ _ h3 => .fail h3))
    refine .guard (fun _ => h3) fun hpasses => hpasses ?_
    cases hes
    rw [List.any_eq_true]
    refine ⟨name, ?_, hunre⟩
    rw [← (h2.idle hd).2.names name hpriv, lookup_isSome] at hnm
    exact hnm
  · exact .seq (.attempt ((close_untouched h2).mono (fun _ _ h3 => .fail h3) fun _ _ h3 => .fail h3))

lemma refused_ends (hd : d.Good sha256) {name : Bytes} (hpriv : name ≠ d.target)
    (hunre : unresolved name) (hnm : (d.names.lookup name).isSome)
    (faults : List (Option Failure)) {rest : Action α} {P : α → Faulty ConfigDirectory → Prop} :
    (do openSambaConfigDirectory; refuseQuarantine; rest : Action α).Ends ⟨d, faults⟩ P
      (fun _ t => Untouched d t.state) := by
  have hop : openSambaConfigDirectory.Stays ⟨d, faults⟩ (Untouched d) := asked_untouched ⟨0, rfl⟩
  refine .seq (hop.imp fun _ t h => ?_)
  exact .seq ((refuseQuarantine_refuses hd hpriv hunre hnm h).imp fun _ _ h => h.elim)

end

/-! ## 7. Runs of calls -/

section

variable {δ : Type} [DecidableEq δ]

/-- Calls for the target, and what others do between them and in them. -/
inductive CasStep (sha256 : Bytes → δ) : ConfigDirectory → ConfigDirectory → Prop
  | publish {d : ConfigDirectory} (expected : SambaConfigSnapshot) (data : Bytes) (permission : Nat)
      (faults : List (Option Failure)) (hbase : expected.base = d.target) :
      CasStep sha256 d (publishSambaConfigCAS sha256 expected data permission ⟨d, faults⟩).2.state
  | remove {d : ConfigDirectory} (expected : SambaConfigSnapshot) (faults : List (Option Failure))
      (hbase : expected.base = d.target) :
      CasStep sha256 d (removeSambaConfigCAS sha256 expected ⟨d, faults⟩).2.state
  | others {d : ConfigDirectory} (turn : Foreign) : CasStep sha256 d (d.apply turn)
  | schedule {d : ConfigDirectory} (schedule : List (List Foreign)) :
      CasStep sha256 d { d with schedule := schedule }

/-- A directory before the first call. What is at the target is a file of others. -/
structure ConfigDirectory.Starts (d : ConfigDirectory) : Prop where
  bound : ∀ name i, d.names.lookup name = some i → i < d.next
  history : d.history = ⟨(d.names.lookup d.target).toList.map fun i => (i, d.files i), [], [], []⟩

variable {sha256 : Bytes → δ} {d d₀ : ConfigDirectory}

omit [DecidableEq δ] in
lemma ConfigDirectory.Starts.good (h : d.Starts) : d.Good sha256 := by
  have hplc : ∀ p ∈ d.history.placed, d.names.lookup d.target = some p.1 ∧ d.files p.1 = p.2 := by
    intro p hp
    rw [h.history] at hp
    obtain ⟨i, hi, rfl⟩ := mem_map.mp hp
    exact ⟨mem_toList.mp hi, rfl⟩
  refine ⟨h.bound, fun p hp => h.bound _ _ (hplc p hp).1, fun p hp => .inl ?_⟩
  exact ⟨⟨d.target, (hplc p hp).1, .inl rfl⟩, (hplc p hp).2⟩

lemma CasStep.good {t : ConfigDirectory} (hst : CasStep sha256 d t) (hd : d.Good sha256) :
    t.Good sha256 := by
  cases hst with
  | publish expected data permission faults hba =>
    rcases (publishSambaConfigCAS_ends (w := ⟨d, faults⟩) data permission hd hba).cases with
      ⟨_, t, hrun, h⟩ | ⟨_, t, hrun, h⟩
    all_goals
      rw [hrun]
      exact h.1
  | remove expected faults hba =>
    rcases (removeSambaConfigCAS_ends (w := ⟨d, faults⟩) hd hba).cases with
      ⟨_, t, hrun, h⟩ | ⟨_, t, hrun, h⟩
    all_goals
      rw [hrun]
      exact h.1
  | others turn => exact hd.apply turn
  | schedule schedule => exact ⟨hd.bound, hd.placed, hd.kept⟩

lemma ConfigDirectory.good_of_run (hsrt : d0.Starts) (hrun : Reaches (CasStep sha256) d0 d) :
    d.Good sha256 :=
  hrun.invariant hsrt.good fun _ _ h hst => hst.good h

/-- **The compare and swap of a Samba config loses no foreign update.** In every run of calls and of
others, with any faults: every file that others have put under the target is still linked, under the
target or under a staging or quarantine name, and as it was, unless others have taken it from the
target themselves, or in identity, permission and digest it was what a call expected or had staged. A
call reports its candidate only if what it put aside was what it expected. And while an unresolved
name is left, every call fails and leaves the directory to the others. -/
theorem samba_cas_keeps_foreign_files (hstart : d₀.Starts) (hrun : Reaches (CasStep sha256) d₀ d) :
    (∀ p ∈ d.history.placed, d.Kept p.1 p.2 ∨ p.1 ∈ d.history.dropped ∨
      ∃ s ∈ d.history.owned, Matches sha256 s p.2) ∧
    (∀ (expected : SambaConfigSnapshot) (data : Bytes) (permission : Nat)
      (faults : List (Option Failure)) (candidate : SambaConfigSnapshot) (err : Option OpError)
      (t : Faulty ConfigDirectory), expected.base = d.target →
      publishSambaConfigCAS sha256 expected data permission ⟨d, faults⟩ = (.ok (candidate, err), t) →
      ∃ displaced, t.state.history.displaced = d.history.displaced ++ [displaced] ∧
        (expected.present = false → displaced = none) ∧
        (expected.present = true → ∃ p, displaced = some p ∧ Matches sha256 expected p.2 ∧
          (Function.Injective sha256 → p.2.data = expected.data))) ∧
    ∀ (name : Bytes) (expected : SambaConfigSnapshot) (data : Bytes) (permission : Nat)
      (faults : List (Option Failure)), name ≠ d.target → unresolved name = true →
      (d.names.lookup name).isSome = true →
      (∃ err t, publishSambaConfigCAS sha256 expected data permission ⟨d, faults⟩ = (.error err, t) ∧
        Untouched d t.state) ∧
      ∃ err t, removeSambaConfigCAS sha256 expected ⟨d, faults⟩ = (.error err, t) ∧
        Untouched d t.state := by
  have hd : d.Good sha256 := ConfigDirectory.good_of_run hstart hrun
  refine ⟨hd.kept, ?_, ?_⟩
  · intro expected data permission faults candidate err t hbase hpublish
    have hends := (publishSambaConfigCAS_ends (w := ⟨d, faults⟩) data permission hd hbase).1
      (candidate, err) (by rw [hpublish])
    rw [hpublish] at hends
    obtain ⟨displaced, hlog, habsent, hpresent⟩ := hends.2.displaced
    refine ⟨displaced, hlog, habsent, fun h => ?_⟩
    obtain ⟨p, hp, hmatches⟩ := hpresent h
    exact ⟨p, hp, hmatches, fun hsha => hsha hmatches.digest⟩
  · intro name expected data permission faults hprivate hunresolved hname
    have hrefused : ∀ {α : Type} {rest : Action α}, ∃ err t,
        (do openSambaConfigDirectory; refuseQuarantine; rest : Action α) ⟨d, faults⟩ = (.error err, t) ∧
          Untouched d t.state := by
      intro α rest
      rcases (refused_ends hd hprivate hunresolved hname faults (P := fun _ _ => False)).cases with
        ⟨_, _, -, h⟩ | h
      · exact h.elim
      · exact h
    exact ⟨hrefused, hrefused⟩

/-! The number of a removed file may come back. A call finds a file that it did not expect, and undoes
its exchange; before that, others remove the candidate and put a file with the same content there,
which gets the inode number that has just become free. -/

def sampleForeign : ConfigFile := ⟨(0, 1), true, 0, 0o600, [70]⟩

def sampleRandomName (draw : Nat) : Arr 16 := ⟨List.replicate 16 (UInt8.ofNat draw), List.length_replicate⟩

def sampleDirectory : ConfigDirectory where
  names := (∅ : NameTable Bytes Nat).insert [116] 0
  files := fun _ => sampleForeign
  next := 1
  target := [116]
  schedule := List.replicate 29 [] ++ [[.remove, .put true 0 0o600 [67]]]
  inode := fun _ => (0, 2)
  random := sampleRandomName
  drawn := 0
  history := ⟨[(0, sampleForeign)], [], [], []⟩

/-- What the call expects is no longer there. -/
def sampleExpected : SambaConfigSnapshot := ⟨[116], true, [69], 0o600, (0, 5)⟩

def samplePublished : ConfigDirectory :=
  (publishSambaConfigCAS (id : Bytes → Bytes) sampleExpected [67] 0o600 ⟨sampleDirectory, []⟩).2.state

lemma sampleDirectory_starts : sampleDirectory.Starts := by
  refine ⟨fun name i hnm => ?_, rfl⟩
  simp only [sampleDirectory, NameTable.lookup_bind, lookup_empty] at hnm
  grind [sampleDirectory]

lemma samplePublished_reached :
    Reaches (CasStep (id : Bytes → Bytes)) sampleDirectory samplePublished :=
  .single (.publish sampleExpected [67] 0o600 [] rfl)

/-- Both foreign files were moved away from the target; one is back. -/
theorem samplePublished_keeps : samplePublished.history.placed.map Prod.fst = [0, 2] ∧
    ∀ p ∈ samplePublished.history.placed, samplePublished.Kept p.1 p.2 ∨
      p.1 ∈ samplePublished.history.dropped ∨
      ∃ s ∈ samplePublished.history.owned, Matches id s p.2 :=
  ⟨by decide +kernel, (samba_cas_keeps_foreign_files sampleDirectory_starts samplePublished_reached).1⟩

/-- A file that others have put under the target, and have not taken away, was moved from there, emptied
and unlinked by the call, although it is not what the call expected. -/
theorem samplePublished_loses : ∃ file : ConfigFile, (2, file) ∈ samplePublished.history.placed ∧
    some (2, file) ∈ samplePublished.history.displaced ∧ 2 ∉ samplePublished.history.dropped ∧
    file.identity ≠ sampleExpected.identity ∧ file.data ≠ sampleExpected.data ∧
    2 ∉ samplePublished.names.entries.map Sigma.snd ∧ (samplePublished.files 2).data ≠ file.data := by
  refine ⟨⟨(0, 2), true, 0, 0o600, [67]⟩, ?_⟩
  decide +kernel

end

end ReCasaOS.Samba
