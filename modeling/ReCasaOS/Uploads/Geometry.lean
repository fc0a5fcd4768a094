/-
# The geometry of an upload

`UploadFile` accepts a chunk by three checks on five numbers of the client, two of them in
`pkg/filesecurity` and one in the service. They are inequalities on products of `int64`s.

Here they are written on machine words, with products and differences that wrap, and shown to be the
checks on integers that the session uses (`uploadChecksWord_eq`): each product is reached only behind the
checks that bound it. What the checks accept is then linear arithmetic: the number of chunks is fixed by
the sizes (`ShapeOf`), the size of a chunk by its position, and the chunks lie side by side.
-/
import ReCasaOS.Uploads.Session

namespace ReCasaOS.Uploads

open Lib FileSecurity

/-! ## 1. The checks on machine words -/

/-- The `int64` that an operation stores. -/
def int64 (value : Int) : Int := Int.bmod value (2 ^ 64)

/-- The value is an `int64`. -/
def InInt64 (value : Int) : Prop := -2 ^ 63 ≤ value ∧ value < 2 ^ 63

lemma int64_of_inInt64 {value : Int} (h : InInt64 value) : int64 value = value := by
  obtain ⟨hlow, hhigh⟩ := h
  exact Int.bmod_eq_of_le (by omega) (by omega)

/-- The function `ValidateUploadSizes`, with its product as it is stored. -/
def validateUploadSizesWord (chunkSize currentChunkSize totalSize totalChunks : Int) :
    Except OpError Unit := do
  check (chunkSize < 1 ∨ chunkSize > maxUploadChunkSize)
    (textError "chunkSize must be between 1 and 268435456")
  check (currentChunkSize < 0 ∨ currentChunkSize > chunkSize ∨ currentChunkSize > maxUploadChunkSize)
    (textError "currentChunkSize is out of range")
  check (totalSize < 0 ∨ totalSize > maxUploadTotalSize) (textError "totalSize is out of range")
  check (totalChunks < 1 ∨ totalChunks > maxUploadChunks)
    (textError "totalChunks must be between 1 and 256")
  check (totalSize > int64 (totalChunks * chunkSize))
    (textError "totalSize exceeds declared chunk capacity")
  check (totalSize = 0 ∧ (totalChunks ≠ 1 ∨ currentChunkSize ≠ 0))
    (textError "zero-byte upload metadata is inconsistent")
  check (totalSize > 0 ∧ currentChunkSize = 0) (textError "non-empty upload chunk is empty")

/-- The function `validateChunkShape`, with its products and differences as they are stored. -/
def validateChunkShapeWord (chunkNumber chunkSize currentChunkSize totalChunks totalSize : Int) :
    Except OpError Unit := do
  if totalSize = 0 then pure ()
  else
    let minimumSize := int64 (int64 (totalChunks - 1) * chunkSize)
    check (totalSize ≤ minimumSize)
      (textError "totalSize is inconsistent with totalChunks and chunkSize")
    let expectedCurrentSize :=
      if chunkNumber = totalChunks then int64 (totalSize - minimumSize) else chunkSize
    check (currentChunkSize ≠ expectedCurrentSize)
      (textError "currentChunkSize is inconsistent with chunk position")

/-- The checks of `UploadFile` on the numbers of a chunk. -/
def uploadChecksWord (chunkSize currentChunkSize totalSize totalChunks chunkNumber : Int) :
    Except OpError Unit := do
  validateChunk totalChunks chunkNumber
  validateUploadSizesWord chunkSize currentChunkSize totalSize totalChunks
  validateChunkShapeWord chunkNumber chunkSize currentChunkSize totalChunks totalSize

/-- The same on integers. -/
def uploadChecks (chunkSize currentChunkSize totalSize totalChunks chunkNumber : Int) :
    Except OpError Unit := do
  validateChunk totalChunks chunkNumber
  validateUploadSizes chunkSize currentChunkSize totalSize totalChunks
  validateChunkShape chunkNumber chunkSize currentChunkSize totalChunks totalSize

/-- What the two functions of `pkg/filesecurity` check of the metadata, and what `validateChunkShape`
adds to it. -/
structure ShapeOf (chunkSize totalSize totalChunks : Int) : Prop where
  chunkSize_pos : 1 ≤ chunkSize
  chunkSize_le : chunkSize ≤ maxUploadChunkSize
  totalSize_nonneg : 0 ≤ totalSize
  totalSize_le : totalSize ≤ maxUploadTotalSize
  totalChunks_pos : 1 ≤ totalChunks
  totalChunks_le : totalChunks ≤ maxUploadChunks
  fits : totalSize ≤ totalChunks * chunkSize
  needed : (totalChunks - 1) * chunkSize < totalSize ∨ (totalSize = 0 ∧ totalChunks = 1)

/-- The size of a chunk, by its position. -/
def chunkExtent (chunkSize totalSize chunkNumber : Int) : Int :=
  min chunkSize (totalSize - (chunkNumber - 1) * chunkSize)

section

variable {chunkSize currentChunkSize totalSize totalChunks chunkNumber : Int}

lemma mul_bounds (chunkSize count : Int) (hsz : 1 ≤ chunkSize)
    (hsizes : chunkSize ≤ maxUploadChunkSize) (hcnt : 0 ≤ count) (hcts : count ≤ maxUploadChunks) :
    0 ≤ count * chunkSize ∧ count * chunkSize ≤ 68719476736 := by
  simp only [maxUploadChunkSize, maxUploadChunks, Nat.cast_ofNat] at hsizes hcts
  constructor
  · positivity
  · nlinarith

lemma validateChunk_eq_ok (u : Unit) : validateChunk totalChunks chunkNumber = .ok u ↔
      1 ≤ totalChunks ∧ totalChunks ≤ maxUploadChunks ∧ 1 ≤ chunkNumber ∧ chunkNumber ≤ totalChunks := by
  simp only [validateChunk, check_bind_eq_ok, check_eq_ok]
  omega

lemma validateUploadSizes_eq_ok (u : Unit) :
    validateUploadSizes chunkSize currentChunkSize totalSize totalChunks = .ok u ↔
      (1 ≤ chunkSize ∧ chunkSize ≤ maxUploadChunkSize) ∧
      (0 ≤ currentChunkSize ∧ currentChunkSize ≤ chunkSize) ∧
      (0 ≤ totalSize ∧ totalSize ≤ maxUploadTotalSize) ∧
      (1 ≤ totalChunks ∧ totalChunks ≤ maxUploadChunks) ∧ totalSize ≤ totalChunks * chunkSize ∧
      (totalSize = 0 → totalChunks = 1 ∧ currentChunkSize = 0) ∧
      (0 < totalSize → currentChunkSize ≠ 0) := by
  simp only [validateUploadSizes, check_bind_eq_ok, check_eq_ok]
  generalize totalChunks * chunkSize = product
  omega

/-- **No overflow.** The checks on machine words are the checks on integers. -/
theorem validateUploadSizesWord_eq :
    validateUploadSizesWord chunkSize currentChunkSize totalSize totalChunks
      = validateUploadSizes chunkSize currentChunkSize totalSize totalChunks := by
  unfold validateUploadSizesWord validateUploadSizes
  refine bind_congr_ok fun _ hsz => bind_congr_ok fun _ _ => bind_congr_ok fun _ _ =>
    bind_congr_ok fun _ hcnt => ?_
  rw [check_eq_ok] at hsz hcnt
  have hproduct : int64 (totalChunks * chunkSize) = totalChunks * chunkSize := by
    have hbounds := mul_bounds chunkSize totalChunks (by omega) (by omega) (by omega) (by omega)
    exact int64_of_inInt64 ⟨by omega, by omega⟩
  rw [hproduct]

lemma validateChunkShapeWord_eq
    (hsizes : validateUploadSizes chunkSize currentChunkSize totalSize totalChunks = .ok ()) :
    validateChunkShapeWord chunkNumber chunkSize currentChunkSize totalChunks totalSize
      = validateChunkShape chunkNumber chunkSize currentChunkSize totalChunks totalSize := by
  obtain ⟨hsz, -, htot, hcnt, -, -, -⟩ := (validateUploadSizes_eq_ok ()).mp hsizes
  have hbounds := mul_bounds chunkSize (totalChunks - 1) hsz.1 hsz.2 (by omega) (by omega)
  have hless : int64 (totalChunks - 1) = totalChunks - 1 := by
    simp only [maxUploadChunks] at hcnt
    exact int64_of_inInt64 ⟨by omega, by omega⟩
  have hproduct : int64 ((totalChunks - 1) * chunkSize) = (totalChunks - 1) * chunkSize :=
    int64_of_inInt64 ⟨by omega, by omega⟩
  have hrs : int64 (totalSize - (totalChunks - 1) * chunkSize)
      = totalSize - (totalChunks - 1) * chunkSize := by
    simp only [maxUploadTotalSize, maxUploadChunkSize, maxUploadChunks] at htot
    exact int64_of_inInt64 ⟨by omega, by omega⟩
  simp only [validateChunkShapeWord, validateChunkShape, hless, hproduct, hrs]

lemma uploadChecksWord_eq :
    uploadChecksWord chunkSize currentChunkSize totalSize totalChunks chunkNumber
      = uploadChecks chunkSize currentChunkSize totalSize totalChunks chunkNumber := by
  unfold uploadChecksWord uploadChecks
  refine bind_congr_ok fun _ _ => ?_
  rw [validateUploadSizesWord_eq]
  exact bind_congr_ok fun _ hsizes => validateChunkShapeWord_eq hsizes

/-- The size of a chunk, in the source's words: a full chunk, or what is left for the last. -/
lemma chunkExtent_eq (hshape : ShapeOf chunkSize totalSize totalChunks) (hlow : 1 ≤ chunkNumber)
    (hhigh : chunkNumber ≤ totalChunks) :
    chunkExtent chunkSize totalSize chunkNumber
      = if chunkNumber = totalChunks then totalSize - (totalChunks - 1) * chunkSize else chunkSize := by
  have hsz := hshape.chunkSize_pos
  have hft := hshape.fits
  split
  case isTrue hla =>
    subst hla
    refine min_eq_right ?_
    linarith
  case isFalse hla =>
    have hbef : chunkNumber * chunkSize ≤ (totalChunks - 1) * chunkSize :=
      mul_le_mul_of_nonneg_right (by omega) (by omega)
    rcases hshape.needed with hneeded | ⟨-, hone⟩
    · refine min_eq_left ?_
      linarith
    · omega

lemma chunkExtent_bounds (hshape : ShapeOf chunkSize totalSize totalChunks) (hlow : 1 ≤ chunkNumber)
    (hhigh : chunkNumber ≤ totalChunks) :
    0 ≤ chunkExtent chunkSize totalSize chunkNumber ∧
    chunkExtent chunkSize totalSize chunkNumber ≤ chunkSize ∧
    (totalSize = 0 ↔ chunkExtent chunkSize totalSize chunkNumber = 0) := by
  have hsz := hshape.chunkSize_pos
  have hft := hshape.fits
  rw [chunkExtent_eq hshape hlow hhigh]
  rcases hshape.needed with hneeded | ⟨rfl, rfl⟩
  · have hcnt : 0 ≤ (totalChunks - 1) * chunkSize :=
      mul_nonneg (by linarith [hshape.totalChunks_pos]) (by omega)
    split
    · refine ⟨by linarith, by linarith, ?_⟩
      constructor <;> intro <;> linarith
    · refine ⟨by omega, le_refl _, ?_⟩
      constructor <;> intro <;> linarith
  · rw [if_pos (by omega)]
    omega

/-- **What the checks accept.** The metadata have the shape, and the chunk has the size of its
position. -/
theorem uploadChecks_eq_ok :
    uploadChecks chunkSize currentChunkSize totalSize totalChunks chunkNumber = .ok () ↔
      ShapeOf chunkSize totalSize totalChunks ∧ (1 ≤ chunkNumber ∧ chunkNumber ≤ totalChunks) ∧
      currentChunkSize = chunkExtent chunkSize totalSize chunkNumber := by
  simp only [uploadChecks, bind_eq_ok, validateChunk_eq_ok, validateUploadSizes_eq_ok]
  constructor
  · rintro ⟨-, ⟨-, -, hlow, hhigh⟩, -, ⟨hsz, hcur, htot, hcnt, hft, hz, -⟩, hexact⟩
    by_cases hem : totalSize = 0
    · obtain ⟨hone, hno⟩ := hz hem
      have hshape : ShapeOf chunkSize totalSize totalChunks :=
        ⟨hsz.1, hsz.2, htot.1, htot.2, hcnt.1, hcnt.2, hft, .inr ⟨hem, hone⟩⟩
      refine ⟨hshape, ⟨hlow, hhigh⟩, ?_⟩
      rw [chunkExtent_eq hshape hlow hhigh, if_pos (by omega), hem, hone, hno]
      ring
    · simp only [validateChunkShape, if_neg hem, check_bind_eq_ok, check_eq_ok, not_le, ne_eq,
        not_not] at hexact
      have hshape : ShapeOf chunkSize totalSize totalChunks :=
        ⟨hsz.1, hsz.2, htot.1, htot.2, hcnt.1, hcnt.2, hft, .inl hexact.1⟩
      exact ⟨hshape, ⟨hlow, hhigh⟩, hexact.2.trans (chunkExtent_eq hshape hlow hhigh).symm⟩
  · rintro ⟨hshape, ⟨hlow, hhigh⟩, rfl⟩
    obtain ⟨hnonneg, hle, hz⟩ := chunkExtent_bounds hshape hlow hhigh
    have hone : totalSize = 0 → totalChunks = 1 := by
      intro hem
      rcases hshape.needed with hneeded | ⟨-, hone⟩
      · have hcnt : 0 ≤ (totalChunks - 1) * chunkSize :=
          mul_nonneg (by linarith [hshape.totalChunks_pos]) (by linarith [hshape.chunkSize_pos])
        omega
      · exact hone
    refine ⟨(), ⟨hshape.totalChunks_pos, hshape.totalChunks_le, hlow, hhigh⟩, (),
      ⟨⟨hshape.chunkSize_pos, hshape.chunkSize_le⟩, ⟨hnonneg, hle⟩,
        ⟨hshape.totalSize_nonneg, hshape.totalSize_le⟩, ⟨hshape.totalChunks_pos, hshape.totalChunks_le⟩,
        hshape.fits, fun hem => ⟨hone hem, hz.mp hem⟩, fun hpos hno => ?_⟩, ?_⟩
    · exact hpos.ne' (hz.mpr hno)
    · by_cases hem : totalSize = 0
      · rw [validateChunkShape, if_pos hem]
        rfl
      · simp only [validateChunkShape, if_neg hem, check_bind_eq_ok, check_eq_ok, not_le, ne_eq,
          not_not]
        refine ⟨?_, chunkExtent_eq hshape hlow hhigh⟩
        rcases hshape.needed with hneeded | ⟨hno, -⟩
        · exact hneeded
        · exact absurd hno hem

end

/-! ## 2. The chunks of an upload -/

section

variable {chunkSize totalSize totalChunks : Int}

section

variable (hshape : ShapeOf chunkSize totalSize totalChunks)
include hshape

/-- The products and differences of the checks are in range. -/
lemma ShapeOf.no_overflow : InInt64 (totalChunks * chunkSize) ∧ InInt64 (totalChunks - 1) ∧
    InInt64 ((totalChunks - 1) * chunkSize) ∧ InInt64 (totalSize - (totalChunks - 1) * chunkSize) := by
  obtain ⟨hsz, hsizes, htot, htotals, hcnt, hcts, -, -⟩ := hshape
  have hall := mul_bounds chunkSize totalChunks hsz hsizes (by omega) hcts
  have hless := mul_bounds chunkSize (totalChunks - 1) hsz hsizes (by omega) (by omega)
  simp only [maxUploadTotalSize, maxUploadChunkSize, maxUploadChunks] at hcts htotals
  refine ⟨⟨?_, ?_⟩, ⟨?_, ?_⟩, ⟨?_, ?_⟩, ?_, ?_⟩ <;> omega

lemma ShapeOf.totalChunks_eq : totalChunks = max 1 ⌈(totalSize : ℚ) / chunkSize⌉ := by
  have hsz : (0 : ℚ) < chunkSize := by exact_mod_cast hshape.chunkSize_pos
  rcases hshape.needed with hneeded | ⟨rfl, rfl⟩
  · have hceil : ⌈(totalSize : ℚ) / chunkSize⌉ = totalChunks := by
      rw [Int.ceil_eq_iff, lt_div_iff₀ hsz, div_le_iff₀ hsz]
      exact ⟨by exact_mod_cast hneeded, by exact_mod_cast hshape.fits⟩
    rw [hceil, max_eq_right hshape.totalChunks_pos]
  · simp

/-- **The sizes add up.** -/
theorem ShapeOf.sum_chunkExtent :
    ∑ chunkNumber ∈ Finset.Icc 1 totalChunks, chunkExtent chunkSize totalSize chunkNumber
      = totalSize := by
  have hla : totalChunks ∈ Finset.Icc 1 totalChunks :=
    Finset.mem_Icc.mpr ⟨hshape.totalChunks_pos, le_refl _⟩
  have hfull : ∀ chunkNumber ∈ (Finset.Icc 1 totalChunks).erase totalChunks,
      chunkExtent chunkSize totalSize chunkNumber = chunkSize := by
    intro chunkNumber hmem
    obtain ⟨hne, hmem⟩ := Finset.mem_erase.mp hmem
    obtain ⟨hlow, hhigh⟩ := Finset.mem_Icc.mp hmem
    rw [chunkExtent_eq hshape hlow hhigh, if_neg hne]
  have hcard : (((Finset.Icc 1 totalChunks).erase totalChunks).card : Int) = totalChunks - 1 := by
    have hpos := hshape.totalChunks_pos
    rw [Finset.card_erase_of_mem hla, Int.card_Icc]
    omega
  rw [← Finset.add_sum_erase _ _ hla, Finset.sum_congr rfl hfull, Finset.sum_const, nsmul_eq_mul, hcard,
    chunkExtent_eq hshape hshape.totalChunks_pos (le_refl _), if_pos rfl]
  ring

end

/-- The bytes of a chunk. -/
def InChunk (chunkSize totalSize chunkNumber offset : Int) : Prop :=
  (chunkNumber - 1) * chunkSize ≤ offset ∧
  offset < (chunkNumber - 1) * chunkSize + chunkExtent chunkSize totalSize chunkNumber

/-- The chunk of a byte is the quotient of its offset. -/
lemma inChunk_iff (hsz : 1 ≤ chunkSize) {chunkNumber off : Int} :
    InChunk chunkSize totalSize chunkNumber off
      ↔ off < totalSize ∧ chunkNumber = off / chunkSize + 1 := by
  have hquot : chunkNumber - 1 = off / chunkSize
      ↔ (chunkNumber - 1) * chunkSize ≤ off ∧ off < (chunkNumber - 1) * chunkSize + chunkSize := by
    rw [eq_comm, Int.ediv_eq_iff_of_pos (by omega)]
  have hchunk : chunkNumber = off / chunkSize + 1 ↔ chunkNumber - 1 = off / chunkSize := by omega
  rw [hchunk, hquot, InChunk, chunkExtent]
  omega

/-- **The chunks lie side by side.** -/
theorem ShapeOf.tiles (hshape : ShapeOf chunkSize totalSize totalChunks) (offset : Int) :
    (0 ≤ offset ∧ offset < totalSize) ↔
      ∃! chunkNumber, (1 ≤ chunkNumber ∧ chunkNumber ≤ totalChunks) ∧
        InChunk chunkSize totalSize chunkNumber offset := by
  have hsz := hshape.chunkSize_pos
  constructor
  · rintro ⟨hlow, hhigh⟩
    refine ⟨offset / chunkSize + 1, ⟨⟨?_, ?_⟩, (inChunk_iff hsz).mpr ⟨hhigh, rfl⟩⟩, ?_⟩
    · have := Int.ediv_nonneg hlow (by omega : 0 ≤ chunkSize)
      omega
    · have : offset / chunkSize < totalChunks :=
        Int.ediv_lt_of_lt_mul (by omega) (hhigh.trans_le hshape.fits)
      omega
    · rintro other ⟨-, hoth⟩
      exact ((inChunk_iff hsz).mp hoth).2
  · rintro ⟨chunkNumber, ⟨⟨hlow, -⟩, hin⟩, -⟩
    have hsrt : 0 ≤ (chunkNumber - 1) * chunkSize := mul_nonneg (by omega) (by omega)
    exact ⟨hsrt.trans hin.1, ((inChunk_iff hsz).mp hin).1⟩

/-- **Upload geometry is exact.** A chunk that the checks accept, on machine words, has the size of its
position, and the number of chunks is the one that the sizes need; nothing that was computed overflowed.
Of the same upload the checks accept every chunk with that size and no other, these sizes add up to the
size of the file, and each byte of it lies in exactly one chunk. -/
theorem upload_geometry_exact (chunkSize currentChunkSize totalSize totalChunks chunkNumber : Int)
    (h : uploadChecksWord chunkSize currentChunkSize totalSize totalChunks chunkNumber = .ok ()) :
    currentChunkSize = min chunkSize (totalSize - (chunkNumber - 1) * chunkSize) ∧
    totalChunks = max 1 ⌈(totalSize : ℚ) / chunkSize⌉ ∧
    (InInt64 (totalChunks * chunkSize) ∧ InInt64 (totalChunks - 1) ∧
      InInt64 ((totalChunks - 1) * chunkSize) ∧ InInt64 (totalSize - (totalChunks - 1) * chunkSize)) ∧
    (∀ other size, 1 ≤ other → other ≤ totalChunks →
      (uploadChecksWord chunkSize size totalSize totalChunks other = .ok () ↔
        size = chunkExtent chunkSize totalSize other)) ∧
    ∑ other ∈ Finset.Icc 1 totalChunks, chunkExtent chunkSize totalSize other = totalSize ∧
    ∀ offset, (0 ≤ offset ∧ offset < totalSize) ↔
      ∃! other, (1 ≤ other ∧ other ≤ totalChunks) ∧ InChunk chunkSize totalSize other offset := by
  rw [uploadChecksWord_eq, uploadChecks_eq_ok] at h
  obtain ⟨hshape, -, hcurrent⟩ := h
  refine ⟨hcurrent, hshape.totalChunks_eq, hshape.no_overflow, fun other size hlow hhigh => ?_,
    hshape.sum_chunkExtent, hshape.tiles⟩
  rw [uploadChecksWord_eq, uploadChecks_eq_ok]
  exact ⟨fun h => h.2.2, fun h => ⟨hshape, ⟨hlow, hhigh⟩, h⟩⟩

/-- Three chunks of ten bytes, by four. -/
theorem upload_geometry_ten_by_four : uploadChecksWord 4 2 10 3 3 = .ok () ∧
    ∑ other ∈ Finset.Icc (1 : Int) 3, chunkExtent 4 10 other = 10 := by
  have h : uploadChecksWord 4 2 10 3 3 = .ok () := by
    rfl
  exact ⟨h, (upload_geometry_exact 4 2 10 3 3 h).2.2.2.2.1⟩

end

end ReCasaOS.Uploads
