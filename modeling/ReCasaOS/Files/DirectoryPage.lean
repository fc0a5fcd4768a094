/-
# Directory listings by the page

`GetDirPathPage` (`service/system.go`) turns a page number and a size into an offset, scans the whole
directory in bounded reads, and keeps the part of the visible entries that is asked for. The scan stops
with an error when there are more raw entries than `ManagedDirectoryRawScanLimit`; one entry more than
the limit is asked for to find that out. The context of the request is not cancelled here.
-/
import Mathlib.Data.List.Induction
import Mathlib.Tactic.SplitIfs
import ReCasaOS.Lib.Path
import ReCasaOS.Lib.Result

namespace ReCasaOS.Files

open Lib List

/-! ## 1. The plan -/

def managedDirectoryPageLimit : Int := 512

def managedDirectoryLegacyPageSize : Int := 100000

def managedDirectoryRawScanLimit : Nat := 10000

def managedDirectoryReadBatchSize : Nat := 256

/-- `int(^uint(0) >> 1)`. -/
def maxInt : Int := 9223372036854775807

/-- What is left of a number in an `int64`. -/
def toInt64 (n : Int) : Int := n.bmod (2 ^ 64)

structure ManagedDirectoryPagePlan where
  offset : Int
  retainedSize : Int
  legacy : Bool
  deriving DecidableEq, Repr

inductive DirectoryError
  | invalidPage
  | scanLimit
  | noProgress
  | statEntry (err : String)
  | readDirectory (err : String)
  | close (err : String)
  | join (resultErr closeErr : DirectoryError)
  deriving DecidableEq, Repr

def planManagedDirectoryPage (index size : Int) : Except DirectoryError ManagedDirectoryPagePlan :=
  let legacyListing := decide (index = 1 ∧ size = managedDirectoryLegacyPageSize)
  let retainedSize := if legacyListing then (managedDirectoryRawScanLimit : Int) else size
  if index < 1 ∨ retainedSize < 1 ∨ legacyListing = false ∧ managedDirectoryPageLimit < size ∨
      maxInt / retainedSize < index - 1 then .error .invalidPage
  else .ok ⟨toInt64 ((index - 1) * retainedSize), retainedSize, legacyListing⟩

/-- **No offset overflows**, and only the legacy size is not what it says. -/
theorem planManagedDirectoryPage_ok {index size : Int} {plan : ManagedDirectoryPagePlan}
    (h : planManagedDirectoryPage index size = .ok plan) :
    plan.offset = (index - 1) * plan.retainedSize ∧ 0 ≤ plan.offset ∧ plan.offset ≤ maxInt ∧
      1 ≤ plan.retainedSize ∧ (size ≠ managedDirectoryLegacyPageSize → plan.retainedSize = size) := by
  unfold planManagedDirectoryPage at h
  dsimp only at h
  generalize hleg : decide (index = 1 ∧ size = managedDirectoryLegacyPageSize) = legacy at h
  generalize hret : (if legacy then (managedDirectoryRawScanLimit : Int) else size)
    = retainedSize at h
  split_ifs at h with hbad
  simp only [not_or, not_lt] at hbad
  obtain ⟨hindex, hpos, -, hquot⟩ := hbad
  have hle : (index - 1) * retainedSize ≤ maxInt :=
    (Int.mul_le_mul_of_nonneg_right hquot (by omega)).trans (Int.ediv_mul_le _ (by omega))
  have hnonneg : 0 ≤ (index - 1) * retainedSize := Int.mul_nonneg (by omega) (by omega)
  have hexact : toInt64 ((index - 1) * retainedSize) = (index - 1) * retainedSize := by
    unfold maxInt at hle
    exact Int.bmod_eq_of_le_mul_two (by omega) (by omega)
  rw [hexact] at h
  cases h
  refine ⟨rfl, hnonneg, hle, hpos, fun hsz => ?_⟩
  simp [← hret, ← hleg, hsz]

/-! ## 2. The scan -/

structure FileInfo where
  isDir : Bool
  isRegular : Bool
  modTime : Nat
  size : Int
  deriving DecidableEq, Repr

/-- `model.Path`. -/
structure PathEntry where
  name : Bytes
  path : Bytes
  isDir : Bool
  date : Nat
  size : Int
  deriving DecidableEq, Repr

/-- The error of a `statEntry`, and whether it is `fs.ErrNotExist`. -/
structure StatError where
  text : String
  notExist : Bool
  deriving DecidableEq, Repr

/-- What a scan knows of its directory: its path, the targets of active operations, whether `.temp` is
filtered, and `statEntry`. -/
structure ListedDirectory where
  directoryPath : Bytes
  hiddenTargets : List Bytes
  filterInternalEntries : Bool
  statEntry : Bytes → Except StatError FileInfo

/-- `.temp`. -/
def tempName : Bytes := [46, 116, 101, 109, 112]

/-- The variables `page` and `total`. -/
structure Window where
  page : List PathEntry
  total : Nat
  deriving DecidableEq, Repr

/-- An entry that counts, and that belongs to the page or not. -/
def Window.add (offset : Int) (size : Int) (w : Window) (entry : PathEntry) : Window :=
  if (w.total : Int) < offset ∨ size ≤ w.page.length then { w with total := w.total + 1 }
  else ⟨w.page ++ [entry], w.total + 1⟩

/-- What a call of `ReadDir` returns. -/
structure DirRead where
  entries : List Bytes
  /-- `io.EOF` is `some none`. -/
  readErr : Option (Option String)

namespace ListedDirectory

variable (dir : ListedDirectory)

/-- An entry that is not filtered. -/
def visible (name : Bytes) (info : FileInfo) : Option PathEntry :=
  let filePath := joinPath [dir.directoryPath, name]
  if info.isDir = false ∧ info.isRegular = false then none
  else if dir.filterInternalEntries ∧ name = tempName ∧ info.isDir then none
  else if filePath ∈ dir.hiddenTargets then none
  else some ⟨name, filePath, info.isDir, info.modTime, info.size⟩

/-- The body of the loop over the entries of one read. -/
def visit (offset size : Int) (w : Window) (name : Bytes) : Except DirectoryError Window :=
  match dir.statEntry name with
  | .error infoErr => if infoErr.notExist then .ok w else .error (.statEntry infoErr.text)
  | .ok info =>
    match dir.visible name info with
    | none => .ok w
    | some entry => .ok (w.add offset size entry)

/-- The loop; after the given reads the directory is at its end. -/
def scan (offset size : Int) : List DirRead → (rawScanned : Nat) → Window → Except DirectoryError Window
  | [], _, w => .ok w
  | ⟨entries, readErr⟩ :: reads, rawScanned, w =>
    if managedDirectoryRawScanLimit - rawScanned < entries.length then .error .scanLimit
    else if entries = [] ∧ readErr = none then .error .noProgress
    else do
      let w ← entries.foldlM (dir.visit offset size) w
      match readErr with
      | some none => pure w
      | some (some err) => .error (.readDirectory err)
      | none => scan offset size reads (rawScanned + entries.length) w

def readManagedDirectoryPage (offset size : Int) (reads : List DirRead) (closeErr : Option String) :
    Except DirectoryError (List PathEntry × Nat) :=
  if offset < 0 ∨ size < 1 then .error .invalidPage
  else
    match dir.scan offset size reads 0 ⟨[], 0⟩, closeErr with
    | .ok w, none => .ok (w.page, w.total)
    | .ok _, some err => .error (.close err)
    | .error resultErr, none => .error resultErr
    | .error resultErr, some err => .error (.join resultErr (.close err))

/-- `GetDirPathPage` of a directory that could be opened. -/
def getDirPathPage (index size : Int) (reads : List DirRead) (closeErr : Option String) :
    Except DirectoryError (List PathEntry × Nat) := do
  let plan ← planManagedDirectoryPage index size
  dir.readManagedDirectoryPage plan.offset plan.retainedSize reads closeErr

end ListedDirectory

/-- How many entries the scan asks for. -/
def readSize (rawScanned : Nat) : Nat :=
  if managedDirectoryRawScanLimit - rawScanned < managedDirectoryReadBatchSize then
    managedDirectoryRawScanLimit - rawScanned + 1
  else managedDirectoryReadBatchSize

/-- The reads hand out the entries in pieces of at most the size that is asked for; the end is reported
with the last piece or after it. -/
def Splits : (rawScanned : Nat) → (entries : List Bytes) → List DirRead → Prop
  | _, entries, [] => entries = []
  | rawScanned, entries, ⟨piece, none⟩ :: reads => piece ≠ [] ∧ piece.length ≤ readSize rawScanned ∧
    ∃ rest, entries = piece ++ rest ∧ Splits (rawScanned + piece.length) rest reads
  | rawScanned, entries, ⟨piece, some err⟩ :: _ => err = none ∧ piece.length ≤ readSize rawScanned ∧
    entries = piece

/-! ## 3. The window -/

/-- The window over a list is the part of it that belongs to the page, and its length. -/
lemma foldl_add (off size : Nat) (entries : List PathEntry) :
    entries.foldl (Window.add off size) ⟨[], 0⟩ = ⟨(entries.drop off).take size, entries.length⟩ := by
  induction entries using reverseRecOn with
  | nil => simp
  | append_singleton entries entry ih =>
    simp only [foldl_append, ih, foldl_cons, foldl_nil, Window.add, drop_append,
      take_append, length_take, length_drop, length_append, length_singleton]
    split_ifs with h
    · rcases Nat.lt_or_ge entries.length off with hbef | hbeh
      · rw [drop_eq_nil_of_le (by simp; omega : [entry].length ≤ off - entries.length)]
        simp
      · rw [Nat.sub_eq_zero_of_le (by omega : size ≤ entries.length - off)]
        simp
    · obtain ⟨room, hrm⟩ := Nat.exists_eq_add_of_lt (by omega : entries.length - off < size)
      rw [Nat.sub_eq_zero_of_le (by omega : off ≤ entries.length), hrm]
      simp [add_assoc]

lemma flatMap_range_pieces {α : Type} (l : List α) (n size : Nat) :
    (range n).flatMap (fun k => (l.drop (k * size)).take size) = l.take (n * size) := by
  induction n with
  | zero => simp
  | succ n ih => rw [range_succ, flatMap_append, ih, Nat.succ_mul, take_add]; simp

/-! ## 4. Pages -/

variable {dir : ListedDirectory} {entries : List Bytes}

/-- The entries that a listing shows, in the order of the scan. -/
def ListedDirectory.listing (dir : ListedDirectory) (entries : List Bytes) : List PathEntry :=
  entries.filterMap fun name => (dir.statEntry name).toOption.bind (dir.visible name)

section

variable (hstat : ∀ name ∈ entries, ∃ info, dir.statEntry name = .ok info)
include hstat

/-- The loop over the entries of one read, if they are all there. -/
lemma foldlM_visit (off size : Int) (w : Window) : entries.foldlM (dir.visit off size) w
      = .ok ((dir.listing entries).foldl (Window.add off size) w) := by
  induction entries generalizing w with
  | nil => rfl
  | cons name entries ih =>
    obtain ⟨⟨info, hinfo⟩, hrs⟩ := forall_mem_cons.mp hstat
    cases hent : dir.visible name info <;>
      simp [ListedDirectory.visit, ListedDirectory.listing, hinfo, hent, ok_bind, ih hrs,
        Except.toOption]

/-- **The scan sees every entry once**, however they are read, or reports that there are too many. -/
theorem scan_eq (off size : Int) {reads : List DirRead} {rawScanned : Nat}
    (hrds : Splits rawScanned entries reads) (hraw : rawScanned ≤ managedDirectoryRawScanLimit)
    (w : Window) :
    dir.scan off size reads rawScanned w =
      if rawScanned + entries.length ≤ managedDirectoryRawScanLimit then
        .ok ((dir.listing entries).foldl (Window.add off size) w)
      else .error .scanLimit := by
  induction reads generalizing entries rawScanned w with
  | nil =>
    obtain rfl : entries = [] := hrds
    simp [ListedDirectory.scan, hraw, ListedDirectory.listing]
  | cons read reads ih =>
    obtain ⟨piece, readErr⟩ := read
    cases readErr with
    | some err =>
      obtain ⟨rfl, -, rfl⟩ := hrds
      simp only [ListedDirectory.scan, foldlM_visit hstat, ok_bind, reduceCtorEq, and_false, if_false]
      split_ifs with hmany hft
      · omega
      · rfl
      · rfl
      · omega
    | none =>
      obtain ⟨hne, -, rest, rfl, hrs⟩ := hrds
      obtain ⟨hpiece, hlater⟩ := forall_mem_append.mp hstat
      simp only [ListedDirectory.scan, foldlM_visit hpiece, ok_bind, hne, false_and, if_false,
        length_append]
      split_ifs with hmany hft
      · omega
      · rfl
      · rw [ih hlater hrs (by omega), if_pos (by omega)]
        simp [ListedDirectory.listing]
      · rw [ih hlater hrs (by omega), if_neg (by omega)]

lemma readManagedDirectoryPage_eq {reads : List DirRead} (hrds : Splits 0 entries reads)
    {off size : Int} (hoffs : 0 ≤ off) (hsz : 1 ≤ size) :
    dir.readManagedDirectoryPage off size reads none =
      if entries.length ≤ managedDirectoryRawScanLimit then
        .ok (((dir.listing entries).drop off.toNat).take size.toNat, (dir.listing entries).length)
      else .error .scanLimit := by
  obtain ⟨off, rfl⟩ := Int.eq_ofNat_of_zero_le hoffs
  obtain ⟨size, rfl⟩ := Int.eq_ofNat_of_zero_le (Int.le_trans (by decide) hsz)
  unfold ListedDirectory.readManagedDirectoryPage
  rw [if_neg (by omega), scan_eq hstat _ _ hrds (Nat.zero_le _), foldl_add, Nat.zero_add]
  split_ifs <;> rfl

end

/-- **The pages of one size partition the listing.** No accepted page has an offset that overflows.
Page `index` has the visible entries from `(index - 1) * size` on and the number of all of them, unless
there are more raw entries than may be scanned; and the pages put together are the listing. -/
theorem directory_pages_partition (hstat : ∀ name ∈ entries, ∃ info, dir.statEntry name = .ok info)
    {reads : Int → List DirRead} (hreads : ∀ index, Splits 0 entries (reads index)) {size : Int}
    (hsize : size ≠ managedDirectoryLegacyPageSize) :
    (∀ index size plan, planManagedDirectoryPage index size = .ok plan →
      plan.offset = (index - 1) * plan.retainedSize ∧ 0 ≤ plan.offset ∧ plan.offset ≤ maxInt) ∧
    (∀ index plan, planManagedDirectoryPage index size = .ok plan →
      dir.getDirPathPage index size (reads index) none =
        if entries.length ≤ managedDirectoryRawScanLimit then
          .ok (((dir.listing entries).drop ((index - 1) * size).toNat).take size.toNat,
            (dir.listing entries).length)
        else .error .scanLimit) ∧
    ∀ (n : Nat) (pages : Nat → List PathEntry),
      (∀ k < n, ∃ total, dir.getDirPathPage (k + 1) size (reads (k + 1)) none = .ok (pages k, total)) →
      (range n).flatMap pages = (dir.listing entries).take (n * size.toNat) := by
  -- the pages are put together from what each of them is
  refine ⟨fun index size plan hplan => ?_, (fun hpage => ⟨hpage, fun n pages hpages => ?_⟩)
    fun index plan hplan => ?_⟩
  · obtain ⟨hoffset, hnonneg, hle, -⟩ := planManagedDirectoryPage_ok hplan
    exact ⟨hoffset, hnonneg, hle⟩
  · obtain ⟨hoffset, hnonneg, -, hpositive, hretained⟩ := planManagedDirectoryPage_ok hplan
    rw [hretained hsize] at hoffset hpositive
    rw [ListedDirectory.getDirPathPage, hplan, ok_bind, hretained hsize,
      readManagedDirectoryPage_eq hstat (hreads index) hnonneg hpositive, hoffset]
  · rw [← flatMap_range_pieces]
    refine flatMap_congr fun k hk => ?_
    obtain ⟨total, hread⟩ := hpages k (mem_range.mp hk)
    obtain ⟨plan, hplan, -⟩ := bind_eq_ok.mp hread
    obtain ⟨-, -, -, hpositive, hretained⟩ := planManagedDirectoryPage_ok hplan
    have hoffset : (((k : Int) + 1 - 1) * size).toNat = k * size.toNat := by
      rw [Int.add_sub_cancel, Int.toNat_mul (by omega) (by omega), Int.toNat_natCast]
    rw [hpage _ plan hplan, hoffset] at hread
    split_ifs at hread
    exact (Prod.mk.inj (Except.ok.inj hread)).1.symm

/-- Two files and a directory, next to a `.temp` that is not shown. -/
def sampleDirectory : ListedDirectory :=
  ⟨[47, 100], [], true, fun name => .ok ⟨name == tempName || name == [99], true, 0, 1⟩⟩

/-- The second page of two has the third of the three. -/
theorem sampleDirectory_second_page :
    sampleDirectory.getDirPathPage 2 2 [⟨[[97], tempName, [98]], none⟩, ⟨[[99]], some none⟩] none
      = .ok ([⟨[99], [47, 100, 47, 99], true, 0, 1⟩], 3) := by
  have hsplits : Splits 0 [[97], tempName, [98], [99]] [⟨[[97], tempName, [98]], none⟩, ⟨[[99]],
    some none⟩] :=
    ⟨by simp, by decide, _, rfl, rfl, by decide, rfl⟩
  exact ((directory_pages_partition (fun name _ => ⟨_, rfl⟩) (fun _ => hsplits) (by decide)).2.1 2
    ⟨2, 2, false⟩ (by decide)).trans (by decide)

end ReCasaOS.Files
