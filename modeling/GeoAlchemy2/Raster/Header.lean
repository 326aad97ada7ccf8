import GeoAlchemy2.Python.Struct

/-!
The raster WKB decoder of the gallery example: its tables `_PTYPE` and
`_ENDIANNESS`, `_format_e`, and `wkbHeader`, which reads the 61-byte header.
A format string is modelled by the byte order its marker selects.
-/

namespace GeoAlchemy2.Raster.Header
open GeoAlchemy2.Python

/-- `_PTYPE`: a pixel type's `struct` format, NumPy dtype and size in bytes. Type 9 is unused. -/
def PTYPE : Int → Option (FormatCode × Dtype × Nat)
  | 0 => some (.bool, .bool, 1)
  | 1 => some (.uchar, .uint8, 1)
  | 2 => some (.uchar, .uint8, 1)
  | 3 => some (.schar, .int8, 1)
  | 4 => some (.uchar, .uint8, 1)
  | 5 => some (.short, .int16, 2)
  | 6 => some (.ushort, .uint16, 2)
  | 7 => some (.int, .int32, 4)
  | 8 => some (.uint, .uint32, 4)
  | 10 => some (.float, .float32, 4)
  | 11 => some (.double, .float64, 8)
  | _ => none

/-- `_ENDIANNESS[endianness]`: `>` for 0 and `<` for 1; any other key raises `KeyError`. -/
def ENDIANNESS (endianness : Int) : Except PyError ByteOrder :=
  if endianness = 0 then .ok .big
  else if endianness = 1 then .ok .little
  else .error (.keyError s!"{endianness}")

/-- `_format_e(endianness, struct_format)`: the byte order of the format it builds. -/
def formatE (endianness : Int) : Except PyError ByteOrder :=
  if endianness = 0 ∨ endianness = 1 then ENDIANNESS endianness
  else .error (.valueError s!"Invalid endianness value: {endianness}, must be 0 or 1")

/-- `MIN_HEADER_SIZE` of `wkbHeader`. -/
def MIN_HEADER_SIZE : Nat := 61

/-- The dictionary `wkbHeader` returns; the six float fields are their IEEE bits. -/
structure RasterHeader where
  endianness : Int
  version : Nat
  nbands : Nat
  scaleX : Nat
  scaleY : Nat
  ipX : Nat
  ipY : Nat
  skewX : Nat
  skewY : Nat
  srid : Int
  width : Nat
  height : Nat
  deriving DecidableEq, Repr

/-- `wkbHeader(raw)`. -/
def wkbHeader (raw : Bytes) : Except PyError RasterHeader :=
  let length := raw.length
  if length < MIN_HEADER_SIZE then
    .error (.valueError s!"Raster data too short: {length} bytes, need at least {MIN_HEADER_SIZE}")
  else tryCatch (do
      let endianness ← unpackSigned .little 1 (pySlice raw 0 1)
      if endianness ≠ 0 ∧ endianness ≠ 1 then
        throw (.valueError s!"Invalid endianness value: {endianness}, must be 0 or 1")
      let order ← formatE endianness
      let version ← unpackUnsigned order 2 (pySlice raw 1 3)
      let nbands ← unpackUnsigned order 2 (pySlice raw 3 5)
      let scaleX ← unpackUnsigned order 8 (pySlice raw 5 13)
      let scaleY ← unpackUnsigned order 8 (pySlice raw 13 21)
      let ipX ← unpackUnsigned order 8 (pySlice raw 21 29)
      let ipY ← unpackUnsigned order 8 (pySlice raw 29 37)
      let skewX ← unpackUnsigned order 8 (pySlice raw 37 45)
      let skewY ← unpackUnsigned order 8 (pySlice raw 45 53)
      let srid ← unpackSigned order 4 (pySlice raw 53 57)
      let width ← unpackUnsigned order 2 (pySlice raw 57 59)
      let height ← unpackUnsigned order 2 (pySlice raw 59 61)
      if width = 0 ∨ height = 0 then throw (.valueError s!"Invalid dimensions: width={width}, height={height}")
      if nbands = 0 then throw (.valueError "Raster must have at least one band")
      pure ⟨endianness, version, nbands, scaleX, scaleY, ipX, ipY, skewX, skewY, srid, width, height⟩)
    fun err => match err with
      | .structError message => .error (.valueError ("Failed to parse raster header: " ++ message))
      | other => .error other

theorem formatE_of_valid {endianness : Int} (valid : endianness = 0 ∨ endianness = 1) :
    formatE endianness = .ok (if endianness = 1 then .little else .big) := by
  rcases valid with rfl | rfl <;> rfl

theorem ENDIANNESS_of_valid {endianness : Int} (valid : endianness = 0 ∨ endianness = 1) :
    ENDIANNESS endianness = .ok (if endianness = 1 then .little else .big) := by
  rcases valid with rfl | rfl <;> rfl

/-- Past the length check every field is read from its own slice of the right size, so
`struct.error` never arises and only the three value checks can raise. -/
theorem wkbHeader_of_long {raw : Bytes} (long : MIN_HEADER_SIZE ≤ raw.length) :
    wkbHeader raw =
      let endianness := toSigned 1 (ByteOrder.little.word (pySlice raw 0 1))
      let field := fun start stop => (if endianness = 1 then ByteOrder.little else .big).word (pySlice raw start stop)
      if endianness ≠ 0 ∧ endianness ≠ 1 then
        .error (.valueError s!"Invalid endianness value: {endianness}, must be 0 or 1")
      else if field 57 59 = 0 ∨ field 59 61 = 0 then
        .error (.valueError s!"Invalid dimensions: width={field 57 59}, height={field 59 61}")
      else if field 3 5 = 0 then .error (.valueError "Raster must have at least one band")
      else .ok ⟨endianness, field 1 3, field 3 5, field 5 13, field 13 21, field 21 29, field 29 37,
        field 37 45, field 45 53, toSigned 4 (field 53 57), field 57 59, field 59 61⟩ := by
  unfold MIN_HEADER_SIZE at long
  simp (disch := rw [length_pySlice (by omega)]) only [wkbHeader, MIN_HEADER_SIZE, if_neg (Nat.not_lt.mpr long),
    unpackUnsigned_of_length, unpackSigned_of_length, ok_bind, throw_eq_error, error_bind, pure_eq_ok]
  generalize toSigned 1 (ByteOrder.little.word (pySlice raw 0 1)) = endianness
  by_cases valid : endianness = 0 ∨ endianness = 1
  · rw [formatE_of_valid valid, ok_bind]
    split_ifs <;> rfl
  · rw [if_pos (by omega), if_pos (by omega)]
    rfl

/-- What a header `wkbHeader` returns satisfies: the buffer has the 61 header bytes, the
endianness is 0 or 1, the raster has a positive size and at least one band, and the endianness and
the SRID are those of bytes 0 and 53 to 56. -/
theorem wkbHeader_eq_ok {raw : Bytes} {h : RasterHeader} (parsed : wkbHeader raw = .ok h) :
    MIN_HEADER_SIZE ≤ raw.length ∧ (h.endianness = 0 ∨ h.endianness = 1) ∧ 0 < h.width ∧ 0 < h.height ∧
      0 < h.nbands ∧ h.endianness = toSigned 1 (ByteOrder.little.word (pySlice raw 0 1)) ∧
      h.srid = toSigned 4 ((if h.endianness = 1 then ByteOrder.little else .big).word (pySlice raw 53 57)) := by
  by_cases long : MIN_HEADER_SIZE ≤ raw.length
  · rw [wkbHeader_of_long long] at parsed
    dsimp only at parsed
    generalize order : (if toSigned 1 (ByteOrder.little.word (pySlice raw 0 1)) = 1 then ByteOrder.little else .big) =
      fields at parsed
    split_ifs at parsed
    cases parsed
    refine ⟨long, ?_, ?_, ?_, ?_, rfl, by rw [← order]⟩ <;> dsimp only <;> omega
  · simp [wkbHeader, Nat.lt_of_not_le long] at parsed

/-- `wkbHeader` only returns a header whose endianness `_format_e` accepts, and a raster of
positive size with at least one band. -/
theorem wkbHeader_valid {raw : Bytes} {h : RasterHeader} (parsed : wkbHeader raw = .ok h) :
    (h.endianness = 0 ∨ h.endianness = 1) ∧ 0 < h.width ∧ 0 < h.height ∧ 0 < h.nbands :=
  (wkbHeader_eq_ok parsed).2.imp_right fun sizes => ⟨sizes.1, sizes.2.1, sizes.2.2.1⟩

/-- The pixel types `_PTYPE` knows, with the same size on its `struct` and NumPy sides. -/
theorem PTYPE_sizes {pixtype : Int} {code : FormatCode} {dtype : Dtype} {size : Nat}
    (found : PTYPE pixtype = some (code, dtype, size)) :
    code.size = size ∧ dtype.itemsize = size ∧ ∀ word, dtype.ofWord word = code.ofWord word := by
  unfold PTYPE at found
  split at found <;> cases found <;> exact ⟨rfl, rfl, fun _ => rfl⟩

/-- The pixel types `_PTYPE` knows lie between 0 and 11, with samples of at least one byte. -/
theorem PTYPE_range {pixtype : Int} {code : FormatCode} {dtype : Dtype} {size : Nat}
    (found : PTYPE pixtype = some (code, dtype, size)) : 0 ≤ pixtype ∧ pixtype ≤ 11 ∧ 0 < size := by
  unfold PTYPE at found
  split at found <;> cases found <;> omega

theorem PTYPE_eq_none {pixtype : Int} (outside : pixtype < 0 ∨ 11 < pixtype) : PTYPE pixtype = none := by
  cases found : PTYPE pixtype with
  | none => rfl
  | some entry =>
    obtain ⟨code, dtype, size⟩ := entry
    obtain ⟨low, high, -⟩ := PTYPE_range found
    omega

/-- The band type byte is read as a signed byte; `_PTYPE` gives for it what it gives for the
unsigned value, since a negative reading is never a pixel type. -/
theorem PTYPE_signed_byte (x : UInt8) : PTYPE (toSigned 1 x.toNat - 64) = PTYPE ((x.toNat : Int) - 64) := by
  have byte : x.toNat < 2 ^ 8 := x.toBitVec.isLt
  unfold toSigned
  split
  · rfl
  · rw [PTYPE_eq_none (by omega), PTYPE_eq_none (by omega)]

end GeoAlchemy2.Raster.Header
