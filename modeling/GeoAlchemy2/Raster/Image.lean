import GeoAlchemy2.Python.Binascii
import GeoAlchemy2.Raster.Band

/-!
`wkbImage`: decode the payload, read the header, then walk the bands. Band `i`
starts at `offset` with its type byte (`pixtype + 64`), followed by
`width * height` samples; the next band starts right after them.
-/

namespace GeoAlchemy2.Raster.Image
open GeoAlchemy2.Python GeoAlchemy2.Raster.Header GeoAlchemy2.Raster.Band

/-- The `try` block of `wkbImage` that reads band `i`'s type byte at `offset`. -/
def readPixtype (raw : Bytes) (endianness : Int) (i offset : Nat) : Except PyError Int :=
  tryCatch (do
      let order ← formatE endianness
      let bandType ← unpackSigned order 1 (pySlice raw offset (offset + 1))
      let pixtype := bandType - 64
      if (PTYPE pixtype).isNone then
        throw (.valueError s!"Invalid pixel type {pixtype} (band type {bandType}) for band {i + 1}")
      pure pixtype)
    fun err => match err with
      | .structError message => .error (.valueError (s!"Failed to read band {i + 1} type: " ++ message))
      | other => .error other

/-- The `try` block of `wkbImage` that reads band `i`, with either reader. -/
def readBandOf (raw : Bytes) (h : RasterHeader) (useNumpy : Bool) (i offset : Nat) (pixtype : Int) :
    Except PyError (List (List PyValue)) :=
  tryCatch (if useNumpy then readBandNumpy raw offset pixtype h.height h.width h.endianness
      else readBand raw offset pixtype h.height h.width h.endianness)
    (reraiseValueError s!"Failed to read band {i + 1}: ")

/-- The loop of `wkbImage` from band `i` at `offset`, with `remaining` bands still to read. -/
def readBands (raw : Bytes) (h : RasterHeader) (useNumpy : Bool) :
    Nat → Nat → Nat → Except PyError (List (List (List PyValue)))
  | 0, _, _ => .ok []
  | remaining + 1, i, offset =>
    if raw.length ≤ offset + 1 then .error (.valueError s!"Raster data too short for band {i + 1} header")
    else do
      let pixtype ← readPixtype raw h.endianness i offset
      match PTYPE pixtype with
      | none => .error (.keyError s!"{pixtype}")
      | some (_, _, psize) =>
        let band ← readBandOf raw h useNumpy i offset pixtype
        let rest ← readBands raw h useNumpy remaining (i + 1) (offset + 1 + h.width * h.height * psize)
        pure (band :: rest)

/-- The bytes of `wkbImage`'s argument: hexadecimal text is decoded, binary data taken as it is. -/
def rawOf : Payload → Except PyError Bytes
  | .text s => tryCatch (unhexlify s) fun err => match err with
    | .binasciiError message => .error (.valueError ("Failed to decode raster data: " ++ message))
    | other => .error other
  | .binary b => .ok b

/-- `wkbImage(raster_data, use_numpy)`. -/
def wkbImage (rasterData : Payload) (useNumpy : Bool := false) : Except PyError (List (List (List PyValue))) := do
  let raw ← rawOf rasterData
  let h ← wkbHeader raw
  readBands raw h useNumpy h.nbands 0 61

/-! ## The NumPy reader refines the pure-Python one -/

theorem readBandOf_same (raw : Bytes) {h : RasterHeader} (valid : h.endianness = 0 ∨ h.endianness = 1)
    (i offset : Nat) (pixtype : Int) :
    SameOutcome Eq (readBandOf raw h true i offset pixtype) (readBandOf raw h false i offset pixtype) := by
  simp only [readBandOf, ↓reduceIte, Bool.false_eq_true]
  exact .tryCatch (readBandNumpy_same raw offset pixtype h.height h.width valid) (reraiseValueError_ne_ok _)
    (reraiseValueError_ne_ok _)

/-- The band loop raises or returns alike with either reader, band after band. -/
theorem readBands_same (raw : Bytes) {h : RasterHeader} (valid : h.endianness = 0 ∨ h.endianness = 1) :
    ∀ remaining i offset,
      SameOutcome Eq (readBands raw h true remaining i offset) (readBands raw h false remaining i offset)
  | 0, _, _ => rfl
  | remaining + 1, i, offset => by
    simp only [readBands]
    split
    · trivial
    · refine .bind (.refl _) fun pixtype _ same => ?_
      subst same
      split
      · trivial
      · exact .bind (readBandOf_same raw valid i offset pixtype) fun band _ sameBand =>
          sameBand ▸ .bind (readBands_same raw valid remaining _ _) fun rest _ sameRest => sameRest ▸ rfl

theorem numpy_band_reader_refines_struct_reader :
    (∀ (data : Bytes) (offset : Nat) (pixtype : Int) (height width : Nat) (endianness : Int),
      endianness = 0 ∨ endianness = 1 →
      SameOutcome Eq (readBandNumpy data offset pixtype height width endianness)
        (readBand data offset pixtype height width endianness)) ∧
    ∀ rasterData : Payload, SameOutcome Eq (wkbImage rasterData true) (wkbImage rasterData false) := by
  refine ⟨fun data offset pixtype height width _ valid => readBandNumpy_same data offset pixtype height width valid,
    fun rasterData => .bind (.refl _) fun raw _ same => ?_⟩
  subst same
  cases parsed : wkbHeader raw with
  | error => trivial
  | ok h => exact readBands_same raw (wkbHeader_valid parsed).1 _ _ _

/-- The band of a one-pixel little-endian raster, a byte holding 7, and the whole raster read alike
with either reader. -/
theorem one_pixel_raster_read_alike :
    let raster : Bytes := [1, 0, 0, 1, 0] ++ List.replicate 52 0 ++ [1, 0, 1, 0, 68, 7]
    SameOutcome Eq (readBandNumpy raster 61 4 1 1 1) (readBand raster 61 4 1 1 1) ∧
      SameOutcome Eq (wkbImage (.binary raster) true) (wkbImage (.binary raster) false) :=
  ⟨numpy_band_reader_refines_struct_reader.1 _ 61 4 1 1 1 (.inr rfl), numpy_band_reader_refines_struct_reader.2 _⟩

/-! ## No partial images -/

theorem readBandOf_eq_ok {raw : Bytes} {h : RasterHeader} {useNumpy : Bool} {i offset : Nat} {pixtype : Int}
    {grid : List (List PyValue)} :
    readBandOf raw h useNumpy i offset pixtype = .ok grid ↔
      (if useNumpy then readBandNumpy raw offset pixtype h.height h.width h.endianness
        else readBand raw offset pixtype h.height h.width h.endianness) = .ok grid :=
  tryCatch_eq_ok (reraiseValueError_ne_ok _)

/-- The band loop returns one full grid for each band it was asked for, or raises. -/
theorem readBands_shape (raw : Bytes) {h : RasterHeader} (valid : h.endianness = 0 ∨ h.endianness = 1)
    (useNumpy : Bool) :
    ∀ remaining i offset img, readBands raw h useNumpy remaining i offset = .ok img →
      img.length = remaining ∧ ∀ band ∈ img, band.length = h.height ∧ ∀ row ∈ band, row.length = h.width
  | 0, _, _, img, read => by
    cases read
    exact ⟨rfl, nofun⟩
  | remaining + 1, i, offset, img, read => by
    simp only [readBands] at read
    split at read
    · cases read
    · obtain ⟨pixtype, -, afterType⟩ := bind_eq_ok.mp read
      split at afterType
      · cases afterType
      · obtain ⟨band, readOne, afterBand⟩ := bind_eq_ok.mp afterType
        obtain ⟨rest, readRest, built⟩ := bind_eq_ok.mp afterBand
        cases built
        have plain : readBand raw offset pixtype h.height h.width h.endianness = .ok band := by
          have chosen := readBandOf_eq_ok.mp readOne
          cases useNumpy
          · exact chosen
          · exact (readBandNumpy_same raw offset pixtype h.height h.width valid).eq_ok chosen
        obtain ⟨count, bands⟩ := readBands_shape raw valid useNumpy remaining _ _ rest readRest
        refine ⟨congrArg (· + 1) count, fun b member => ?_⟩
        rcases List.mem_cons.mp member with rfl | later
        · exact readBand_shape valid plain
        · exact bands b later

/-- `wkbImage` returns every band the header announces, each a full grid, or raises: it never
returns part of an image. -/
theorem wkbImage_returns_every_band :
    ∀ (rasterData : Payload) (useNumpy : Bool) (img : List (List (List PyValue))),
      wkbImage rasterData useNumpy = .ok img →
        ∃ raw h, rawOf rasterData = .ok raw ∧ wkbHeader raw = .ok h ∧ img.length = h.nbands ∧
          ∀ band ∈ img, band.length = h.height ∧ ∀ row ∈ band, row.length = h.width := by
  intro rasterData useNumpy img decoded
  obtain ⟨raw, decodedRaw, afterRaw⟩ := bind_eq_ok.mp decoded
  obtain ⟨h, parsed, read⟩ := bind_eq_ok.mp afterRaw
  exact ⟨raw, h, decodedRaw, parsed, readBands_shape raw (wkbHeader_valid parsed).1 useNumpy _ _ _ _ read⟩

/-- A one-pixel, one-band little-endian raster whose sample is 7. -/
theorem one_pixel_image_is_complete :
    wkbImage (.binary ([1, 0, 0, 1, 0] ++ List.replicate 52 0 ++ [1, 0, 1, 0, 68, 7])) = .ok [[[.int 7]]] ∧
      ∃ raw h, rawOf (.binary ([1, 0, 0, 1, 0] ++ List.replicate 52 0 ++ [1, 0, 1, 0, 68, 7])) = .ok raw ∧
        wkbHeader raw = .ok h ∧ [[[PyValue.int 7]]].length = h.nbands ∧
        ∀ band ∈ [[[PyValue.int 7]]], band.length = h.height ∧ ∀ row ∈ band, row.length = h.width :=
  ⟨rfl, wkbImage_returns_every_band _ false _ rfl⟩

end GeoAlchemy2.Raster.Image
