import GeoAlchemy2.Raster.Image
import GeoAlchemy2.Elements.Raster

/-!
The raster layout of PostGIS, written from its description rather than from the
decoder: a 61-byte header, then for each band the byte `pixtype + 64` and its
samples row after row, every word in the byte order of the header's first byte.
A `RasterLayout` holds the values a raster is made of, with the ranges the
format can store as fields, so only an encodable raster can be built. The
decoder of the gallery example and `RasterElement` read back exactly what
was written, whatever bytes follow.
-/

namespace GeoAlchemy2.Raster.Layout
open GeoAlchemy2.Python GeoAlchemy2.Raster.Header GeoAlchemy2.Raster.Band GeoAlchemy2.Raster.Image
open GeoAlchemy2.Elements.Raster

/-- One band of a `height` by `width` raster: its pixel type, the `struct` code that type is read
with, and its rows, each value within the code's range. -/
structure RasterBand (height width : Nat) where
  pixtype : Int
  code : FormatCode
  rows : List (List PyValue)
  known : ∃ dtype size, PTYPE pixtype = some (code, dtype, size)
  rows_length : rows.length = height
  row_length : ∀ row ∈ rows, row.length = width
  values_fit : ∀ row ∈ rows, ∀ value ∈ row, code.holds value = true

/-- A raster: the header's fields, the six float fields as their IEEE bits, and the bands. -/
structure RasterLayout where
  endianness : Int
  version : Nat
  scaleX : Nat
  scaleY : Nat
  ipX : Nat
  ipY : Nat
  skewX : Nat
  skewY : Nat
  srid : Int
  width : Nat
  height : Nat
  bands : List (RasterBand height width)
  endianness_valid : endianness = 0 ∨ endianness = 1
  version_fits : version < 2 ^ 16
  transform_fits : scaleX < 2 ^ 64 ∧ scaleY < 2 ^ 64 ∧ ipX < 2 ^ 64 ∧ ipY < 2 ^ 64 ∧ skewX < 2 ^ 64 ∧
    skewY < 2 ^ 64
  srid_fits : -2 ^ 31 ≤ srid ∧ srid < 2 ^ 31
  width_fits : 0 < width ∧ width < 2 ^ 16
  height_fits : 0 < height ∧ height < 2 ^ 16
  nbands_fits : 0 < bands.length ∧ bands.length < 2 ^ 16

/-- The byte order the header's first byte declares. -/
def RasterLayout.order (L : RasterLayout) : ByteOrder := if L.endianness = 1 then .little else .big

/-- The samples of one row, each in the bytes its code writes. -/
def encodeRow (order : ByteOrder) (code : FormatCode) (row : List PyValue) : Bytes :=
  row.flatMap fun value => order.pack code.size (code.toWord value)

/-- A band: the byte `pixtype + 64`, then its rows in order. -/
def RasterBand.encode {height width : Nat} (order : ByteOrder) (band : RasterBand height width) : Bytes :=
  UInt8.ofNat (band.pixtype + 64).toNat :: band.rows.flatMap (encodeRow order band.code)

/-- The 61-byte header. -/
def RasterLayout.headerBytes (L : RasterLayout) : Bytes :=
  UInt8.ofNat L.endianness.toNat :: (L.order.pack 2 L.version ++ L.order.pack 2 L.bands.length ++
    L.order.pack 8 L.scaleX ++ L.order.pack 8 L.scaleY ++ L.order.pack 8 L.ipX ++ L.order.pack 8 L.ipY ++
    L.order.pack 8 L.skewX ++ L.order.pack 8 L.skewY ++ L.order.pack 4 (FormatCode.int.toWord (.int L.srid)) ++
    L.order.pack 2 L.width ++ L.order.pack 2 L.height)

/-- The raster's bytes, followed by `trailing` bytes of any kind. -/
def RasterLayout.encode (L : RasterLayout) (trailing : Bytes) : Bytes :=
  L.headerBytes ++ L.bands.flatMap (RasterBand.encode L.order) ++ trailing

/-- The header `wkbHeader` should read back. -/
def RasterLayout.header (L : RasterLayout) : RasterHeader :=
  ⟨L.endianness, L.version, L.bands.length, L.scaleX, L.scaleY, L.ipX, L.ipY, L.skewX, L.skewY, L.srid,
    L.width, L.height⟩

/-- The bands' grids, in order. -/
def RasterLayout.grids (L : RasterLayout) : List (List (List PyValue)) := L.bands.map RasterBand.rows

/-! ## Slices of what was written -/

/-- The part written after `pre` is read back from its own positions. -/
theorem pySlice_middle {α : Type} (pre middle post : List α) :
    pySlice (pre ++ (middle ++ post)) pre.length (pre.length + middle.length) = middle := by
  simp [pySlice, List.drop_append_eq_append_drop, List.take_append_eq_append_take]

theorem length_encodeRow (order : ByteOrder) (code : FormatCode) (row : List PyValue) :
    (encodeRow order code row).length = row.length * code.size := by
  induction row with
  | nil => simp [encodeRow]
  | cons value row ih =>
    simp only [encodeRow, List.flatMap_cons, List.length_append, ByteOrder.length_pack, List.length_cons] at ih ⊢
    rw [ih, Nat.succ_mul, Nat.add_comm]

theorem length_encodeRows (order : ByteOrder) (code : FormatCode) {width : Nat} :
    ∀ rows : List (List PyValue), (∀ row ∈ rows, row.length = width) →
      (rows.flatMap (encodeRow order code)).length = rows.length * (width * code.size)
  | [], _ => by simp
  | row :: rows, widths => by
    rw [List.flatMap_cons, List.length_append, length_encodeRow, widths row (List.mem_cons_self row rows),
      length_encodeRows order code rows fun r member => widths r (List.mem_cons_of_mem row member),
      List.length_cons, Nat.succ_mul, Nat.add_comm]

/-! ## Reading the samples back -/

section Samples
variable (order : ByteOrder) (code : FormatCode)

/-- A row written after `pre`, read sample by sample from the band at `offset`. -/
theorem samples_encodeRow (post : Bytes) :
    ∀ (row : List PyValue) (pre : Bytes) (offset : Nat), pre.length = offset + 1 →
      (∀ value ∈ row, code.holds value = true) →
      (List.range row.length).map (sampleAt (pre ++ (encodeRow order code row ++ post)) offset code.size order
        code.ofWord) = row
  | [], _, _, _, _ => rfl
  | value :: row, pre, offset, start, fit => by
    obtain ⟨back, fits⟩ := ofWord_toWord (fit value (List.mem_cons_self value row))
    have first : sampleAt (pre ++ (encodeRow order code (value :: row) ++ post)) offset code.size order
        code.ofWord 0 = value := by
      have read := pySlice_middle pre (order.pack code.size (code.toWord value)) (encodeRow order code row ++ post)
      rw [ByteOrder.length_pack, start] at read
      simp only [sampleAt, Nat.zero_mul, Nat.add_zero, Nat.zero_add, Nat.one_mul, encodeRow, List.flatMap_cons,
        List.append_assoc] at read ⊢
      rw [read, order.word_pack_of_lt (by rw [Nat.pow_mul] at fits; exact fits), back]
    have rest := samples_encodeRow post row (pre ++ order.pack code.size (code.toWord value)) (offset + code.size)
      (by simp [start]; omega) fun v member => fit v (List.mem_cons_of_mem value member)
    simp only [List.length_cons, List.range_succ_eq_map, List.map_cons, List.map_map, first, List.cons.injEq,
      true_and]
    convert rest using 2
    · funext k
      simp only [Function.comp, sampleAt_succ, encodeRow, List.flatMap_cons, List.append_assoc]

/-- The rows written after `pre` are read back as the band's grid. -/
theorem bandGrid_encodeRows (post : Bytes) {width : Nat} :
    ∀ (rows : List (List PyValue)) (pre : Bytes) (offset : Nat), pre.length = offset + 1 →
      (∀ row ∈ rows, row.length = width) → (∀ row ∈ rows, ∀ value ∈ row, code.holds value = true) →
      bandGrid (pre ++ (rows.flatMap (encodeRow order code) ++ post)) offset code.size order code.ofWord
        rows.length width = rows
  | [], _, _, _, _, _ => rfl
  | row :: rows, pre, offset, start, widths, fit => by
    have width_row := widths row (List.mem_cons_self row rows)
    rw [List.length_cons, bandGrid_succ]
    congr 1
    · rw [← width_row, List.flatMap_cons, List.append_assoc]
      exact samples_encodeRow order code _ row pre offset start (fit row (List.mem_cons_self row rows))
    · have rest := bandGrid_encodeRows post rows (pre ++ encodeRow order code row) (offset + width * code.size)
        (by rw [List.length_append, length_encodeRow, width_row, start]; omega)
        (fun r member => widths r (List.mem_cons_of_mem row member))
        (fun r member => fit r (List.mem_cons_of_mem row member))
      simpa only [List.flatMap_cons, List.append_assoc] using rest

end Samples

/-! ## The header -/

theorem length_headerBytes (L : RasterLayout) : L.headerBytes.length = 61 := by
  simp [RasterLayout.headerBytes]

/-- Each field of the header is read from the slice it was written to. -/
theorem pySlices_encode (L : RasterLayout) (trailing : Bytes) :
    pySlice (L.encode trailing) 0 1 = [UInt8.ofNat L.endianness.toNat] ∧
    pySlice (L.encode trailing) 1 3 = L.order.pack 2 L.version ∧
    pySlice (L.encode trailing) 3 5 = L.order.pack 2 L.bands.length ∧
    pySlice (L.encode trailing) 5 13 = L.order.pack 8 L.scaleX ∧
    pySlice (L.encode trailing) 13 21 = L.order.pack 8 L.scaleY ∧
    pySlice (L.encode trailing) 21 29 = L.order.pack 8 L.ipX ∧
    pySlice (L.encode trailing) 29 37 = L.order.pack 8 L.ipY ∧
    pySlice (L.encode trailing) 37 45 = L.order.pack 8 L.skewX ∧
    pySlice (L.encode trailing) 45 53 = L.order.pack 8 L.skewY ∧
    pySlice (L.encode trailing) 53 57 = L.order.pack 4 (FormatCode.int.toWord (.int L.srid)) ∧
    pySlice (L.encode trailing) 57 59 = L.order.pack 2 L.width ∧
    pySlice (L.encode trailing) 59 61 = L.order.pack 2 L.height := by
  simp only [pySlice, RasterLayout.encode, RasterLayout.headerBytes, List.append_assoc, List.cons_append,
    List.drop_succ_cons, List.take_succ_cons, List.drop_zero, List.take_zero, Nat.reduceSub, Nat.add_one_sub_one,
    List.drop_append_eq_append_drop, List.take_append_eq_append_take, ByteOrder.length_pack, Nat.reduceLeDiff,
    List.drop_eq_nil_of_le, List.take_of_length_le, List.drop_left', List.take_left', List.nil_append,
    List.append_nil, Nat.sub_eq_zero_of_le, le_refl, zero_le, tsub_zero, true_and, and_self]

theorem endianness_decode (L : RasterLayout) :
    toSigned 1 (ByteOrder.little.word [UInt8.ofNat L.endianness.toNat]) = L.endianness := by
  rcases L.endianness_valid with same | same <;> rw [same] <;> rfl

theorem srid_decode (L : RasterLayout) :
    toSigned 4 (L.order.word (L.order.pack 4 (FormatCode.int.toWord (.int L.srid)))) = L.srid := by
  obtain ⟨back, fits⟩ := ofWord_toWord (show FormatCode.int.holds (.int L.srid) = true by
    simpa [FormatCode.holds] using L.srid_fits)
  rw [L.order.word_pack_of_lt fits]
  exact PyValue.int.inj back

/-- `wkbHeader` reads back the header that was written. -/
theorem wkbHeader_encode (L : RasterLayout) (trailing : Bytes) : wkbHeader (L.encode trailing) = .ok L.header := by
  obtain ⟨s0, s1, s2, s3, s4, s5, s6, s7, s8, s9, s10, s11⟩ := pySlices_encode L trailing
  obtain ⟨x1, x2, x3, x4, x5, x6⟩ := L.transform_fits
  have long : Header.MIN_HEADER_SIZE ≤ (L.encode trailing).length := by
    simp only [RasterLayout.encode, List.length_append, length_headerBytes, Header.MIN_HEADER_SIZE]
    omega
  have order : (if L.endianness = 1 then ByteOrder.little else .big) = L.order := rfl
  rw [wkbHeader_of_long long]
  dsimp only
  rw [s0, endianness_decode, order, s1, s2, s3, s4, s5, s6, s7, s8, s9, s10, s11, srid_decode,
    L.order.word_pack_of_lt L.version_fits, L.order.word_pack_of_lt L.nbands_fits.2,
    L.order.word_pack_of_lt x1, L.order.word_pack_of_lt x2, L.order.word_pack_of_lt x3,
    L.order.word_pack_of_lt x4, L.order.word_pack_of_lt x5, L.order.word_pack_of_lt x6,
    L.order.word_pack_of_lt L.width_fits.2, L.order.word_pack_of_lt L.height_fits.2,
    if_neg (by rcases L.endianness_valid with same | same <;> omega),
    if_neg (by have := L.width_fits.1; have := L.height_fits.1; omega), if_neg (by have := L.nbands_fits.1; omega)]
  rfl

/-! ## The bands -/

section Bands
variable (L : RasterLayout) (useNumpy : Bool)

theorem length_encode_band (band : RasterBand L.height L.width) {code : FormatCode} {dtype : Dtype} {size : Nat}
    (found : PTYPE band.pixtype = some (code, dtype, size)) :
    (band.encode L.order).length = 1 + L.width * L.height * size := by
  obtain ⟨dtype', size', known⟩ := band.known
  rw [found] at known
  cases known
  rw [RasterBand.encode, List.length_cons, length_encodeRows _ _ band.rows band.row_length, band.rows_length,
    (PTYPE_sizes found).1]
  ring

/-- The type byte of a band written at `pre.length` gives back its pixel type. -/
theorem readPixtype_encode (band : RasterBand L.height L.width) (pre rest : Bytes) (i : Nat) :
    readPixtype (pre ++ (band.encode L.order ++ rest)) L.endianness i pre.length = .ok band.pixtype := by
  obtain ⟨dtype, size, found⟩ := band.known
  obtain ⟨low, high, -⟩ := PTYPE_range found
  have typeByte : pySlice (pre ++ (band.encode L.order ++ rest)) pre.length (pre.length + 1) =
      [UInt8.ofNat (band.pixtype + 64).toNat] := by
    simpa [RasterBand.encode] using pySlice_middle pre [UInt8.ofNat (band.pixtype + 64).toNat]
      (band.rows.flatMap (encodeRow L.order band.code) ++ rest)
  have decoded : toSigned 1 (UInt8.ofNat (band.pixtype + 64).toNat).toNat = band.pixtype + 64 := by
    rw [toNat_ofNat_byte, Nat.mod_eq_of_lt (by omega), toSigned, if_pos (by omega)]
    omega
  simp only [readPixtype, formatE_of_valid L.endianness_valid, ok_bind, typeByte,
    unpackSigned_of_length (List.length_singleton _), word_singleton, decoded, add_sub_cancel_right, found,
    Option.isNone_some, Bool.false_eq_true, if_false, pure_eq_ok, tryCatch_ok]

/-- A band written at `pre.length` is read back as its rows, by either reader. -/
theorem readBandOf_encode (band : RasterBand L.height L.width) (pre rest : Bytes) (i : Nat) :
    readBandOf (pre ++ (band.encode L.order ++ rest)) L.header useNumpy i pre.length band.pixtype =
      .ok band.rows := by
  obtain ⟨dtype, size, found⟩ := band.known
  have long : pre.length + 1 + L.width * L.height * size ≤ (pre ++ (band.encode L.order ++ rest)).length := by
    simp only [List.length_append, length_encode_band L band found]
    omega
  have grid : bandGrid (pre ++ (band.encode L.order ++ rest)) pre.length size L.order band.code.ofWord
      L.height L.width = band.rows := by
    have read := bandGrid_encodeRows L.order band.code rest band.rows (pre ++ [UInt8.ofNat (band.pixtype + 64).toNat])
      pre.length (by simp) band.row_length band.values_fit
    rw [band.rows_length, (PTYPE_sizes found).1] at read
    simpa [RasterBand.encode] using read
  rw [readBandOf_eq_ok]
  cases useNumpy
  · exact (readBand_eq found L.endianness_valid long).trans (congrArg Except.ok grid)
  · exact (readBandNumpy_eq found L.endianness_valid long).trans (congrArg Except.ok grid)

/-- The band loop reads back every band written after `pre`, in order. -/
theorem readBands_encode (post : Bytes) :
    ∀ (bands : List (RasterBand L.height L.width)) (pre : Bytes) (i : Nat),
      readBands (pre ++ (bands.flatMap (RasterBand.encode L.order) ++ post)) L.header useNumpy bands.length i
        pre.length = .ok (bands.map RasterBand.rows)
  | [], _, _ => rfl
  | band :: bands, pre, i => by
    obtain ⟨dtype, size, found⟩ := band.known
    have room : ¬ (pre ++ ((band :: bands).flatMap (RasterBand.encode L.order) ++ post)).length ≤ pre.length + 1 := by
      have := Nat.mul_pos (Nat.mul_pos L.width_fits.1 L.height_fits.1) (PTYPE_range found).2.2
      simp only [List.flatMap_cons, List.length_append, length_encode_band L band found]
      omega
    have next : pre.length + 1 + L.header.width * L.header.height * size = (pre ++ band.encode L.order).length := by
      rw [List.length_append, length_encode_band L band found]
      exact Nat.add_assoc _ _ _
    have rest := readBands_encode post bands (pre ++ band.encode L.order) (i + 1)
    rw [List.append_assoc] at rest
    rw [List.length_cons, readBands, if_neg room, List.flatMap_cons, List.append_assoc,
      show L.header.endianness = L.endianness from rfl, readPixtype_encode, ok_bind]
    simp only [found]
    rw [readBandOf_encode, ok_bind, next, rest, ok_bind, List.map_cons]
    rfl

end Bands

/-! ## `RasterElement` and `wkbHeader` -/

/-- A buffer `wkbHeader` accepts passes the checks of `RasterElement`: it has 61 bytes and a byte
order byte of 0 or 1, and `wkbHeader` reads the SRID of bytes 53 to 56 in that byte order. -/
theorem wkbHeader_byte_order {raw : Bytes} {h : RasterHeader} (parsed : wkbHeader raw = .ok h) :
    ∃ x rest, raw = x :: rest ∧ 60 ≤ rest.length ∧ (x = 0 ∨ x = 1) ∧
      h.srid = toSigned 4 ((if x = 1 then ByteOrder.little else .big).word (pySlice raw 53 57)) := by
  obtain ⟨long, valid, -, -, -, byte, srid⟩ := wkbHeader_eq_ok parsed
  obtain ⟨x, rest, rfl⟩ := List.exists_cons_of_length_pos
    (show 0 < raw.length by unfold Header.MIN_HEADER_SIZE at long; omega)
  rw [show pySlice (x :: rest) 0 1 = [x] from rfl, word_singleton] at byte
  rw [byte, toSigned_byte_eq_zero, toSigned_byte_eq_one] at valid
  refine ⟨x, rest, rfl, by simp only [Header.MIN_HEADER_SIZE, List.length_cons] at long; omega, valid, ?_⟩
  simp only [srid, byte, toSigned_byte_eq_one]

theorem init_binary_of_wkbHeader {raw : Bytes} {h : RasterHeader} (parsed : wkbHeader raw = .ok h) :
    RasterElement.init (.binary raw) = .ok ⟨hexlify raw, h.srid, true⟩ := by
  obtain ⟨x, rest, rfl, long, valid, srid⟩ := wkbHeader_byte_order parsed
  exact init_binary_eq_ok.mpr ⟨x, rest, rfl, long, valid, by rw [srid]⟩

/-- The library's `RasterElement` accepts every raster header the gallery's `wkbHeader` accepts,
from its bytes or from any hexadecimal text of them, with the SRID `wkbHeader` reads. -/
theorem raster_element_reads_wkbHeader_srid :
    ∀ (raw : Bytes) (h : RasterHeader), wkbHeader raw = .ok h →
      RasterElement.init (.binary raw) = .ok ⟨hexlify raw, h.srid, true⟩ ∧
      ∀ s : Text, HexOf s raw → RasterElement.init (.text s) = .ok ⟨s, h.srid, true⟩ := by
  intro raw h parsed
  have binary := init_binary_of_wkbHeader parsed
  refine ⟨binary, fun s hex => ?_⟩
  have same := init_hex_binary hex
  rw [binary] at same
  obtain ⟨⟨data, srid, extended⟩, made, text, -, sameSrid, flag, -⟩ := same.exists_ok_left
  dsimp only at text sameSrid flag
  rw [made, text, sameSrid, flag]

/-- A 61-byte little-endian header with SRID 4326 in bytes 53 to 56. -/
theorem srid_4326_read_alike :
    wkbHeader ([1, 0, 0, 1, 0] ++ List.replicate 48 0 ++ [230, 16, 0, 0, 1, 0, 1, 0]) =
        .ok ⟨1, 0, 1, 0, 0, 0, 0, 0, 0, 4326, 1, 1⟩ ∧
      RasterElement.init (.binary ([1, 0, 0, 1, 0] ++ List.replicate 48 0 ++ [230, 16, 0, 0, 1, 0, 1, 0])) =
        .ok ⟨hexlify ([1, 0, 0, 1, 0] ++ List.replicate 48 0 ++ [230, 16, 0, 0, 1, 0, 1, 0]), 4326, true⟩ ∧
      ∀ s : Text, HexOf s ([1, 0, 0, 1, 0] ++ List.replicate 48 0 ++ [230, 16, 0, 0, 1, 0, 1, 0]) →
        RasterElement.init (.text s) = .ok ⟨s, 4326, true⟩ :=
  ⟨rfl, raster_element_reads_wkbHeader_srid _ ⟨1, 0, 1, 0, 0, 0, 0, 0, 0, 4326, 1, 1⟩ rfl⟩

/-! ## The layout decodes -/

/-- Raster decoding inverts the raster layout: `wkbHeader` reads back the header, `RasterElement`
the SRID, and `wkbImage`, with either band reader and from the bytes or from their hexadecimal,
every band's grid in order, whatever bytes follow the last band. -/
theorem raster_layout_decodes (L : RasterLayout) (trailing : Bytes) :
    wkbHeader (L.encode trailing) = .ok L.header ∧
    RasterElement.init (.binary (L.encode trailing)) = .ok ⟨hexlify (L.encode trailing), L.srid, true⟩ ∧
    ∀ useNumpy, wkbImage (.binary (L.encode trailing)) useNumpy = .ok L.grids ∧
      wkbImage (.text (hexlify (L.encode trailing))) useNumpy = .ok L.grids := by
  have header := wkbHeader_encode L trailing
  have bands : ∀ useNumpy, readBands (L.encode trailing) L.header useNumpy L.bands.length 0 61 = .ok L.grids :=
    fun useNumpy => by
      simpa only [RasterLayout.encode, List.append_assoc, length_headerBytes] using
        readBands_encode L useNumpy trailing L.bands L.headerBytes 0
  refine ⟨header, init_binary_of_wkbHeader header, fun useNumpy => ⟨?_, ?_⟩⟩
  · simp only [wkbImage, rawOf, ok_bind, header]
    exact bands useNumpy
  · simp only [wkbImage, rawOf, unhexlify_hexlify, tryCatch_ok, ok_bind, header]
    exact bands useNumpy

/-- A one-pixel little-endian raster with SRID 4326 and one band of unsigned bytes holding 7. -/
theorem one_band_layout_decodes :
    let L : RasterLayout := ⟨1, 0, 0, 0, 0, 0, 0, 0, 4326, 1, 1,
      [⟨4, .uchar, [[.int 7]], ⟨.uint8, 1, rfl⟩, rfl, by decide, by decide⟩], .inr rfl, by decide, by decide,
      by decide, by decide, by decide, by decide⟩
    wkbHeader (L.encode []) = .ok ⟨1, 0, 1, 0, 0, 0, 0, 0, 0, 4326, 1, 1⟩ ∧
      RasterElement.init (.binary (L.encode [])) = .ok ⟨hexlify (L.encode []), 4326, true⟩ ∧
      ∀ useNumpy, wkbImage (.binary (L.encode [])) useNumpy = .ok [[[.int 7]]] ∧
        wkbImage (.text (hexlify (L.encode []))) useNumpy = .ok [[[.int 7]]] :=
  raster_layout_decodes _ []

end GeoAlchemy2.Raster.Layout
