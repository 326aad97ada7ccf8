import GeoAlchemy2.Raster.Errors

/-!
`wkbImage` reads nothing past the last band the header announces, and nothing of its argument but
the bytes it decodes. A raster it decodes, followed by any bytes and given as bytes or as
hexadecimal text, decodes to the same image.
-/

namespace GeoAlchemy2.Raster.Trailing
open GeoAlchemy2.Python GeoAlchemy2.Raster.Header GeoAlchemy2.Raster.Band GeoAlchemy2.Raster.Image
  GeoAlchemy2.Raster.Errors

section Append
variable {raw : Bytes} (extra : Bytes)

theorem wkbHeader_append (long : Header.MIN_HEADER_SIZE ≤ raw.length) : wkbHeader (raw ++ extra) = wkbHeader raw := by
  have long' : Header.MIN_HEADER_SIZE ≤ (raw ++ extra).length := by
    rw [List.length_append]
    omega
  rw [wkbHeader_of_long long', wkbHeader_of_long long]
  unfold Header.MIN_HEADER_SIZE at long
  simp (disch := omega) only [pySlice_append_left]

theorem readPixtype_append {endianness : Int} {offset : Nat} (inside : offset + 1 ≤ raw.length) (i : Nat) :
    readPixtype (raw ++ extra) endianness i offset = readPixtype raw endianness i offset := by
  unfold readPixtype
  rw [pySlice_append_left raw extra inside]

/-- `read_band` reads a band that fits from its own bytes only. -/
theorem readBand_append {offset height width : Nat} {pixtype endianness : Int} {grid : List (List PyValue)}
    (read : readBand raw offset pixtype height width endianness = .ok grid) :
    readBand (raw ++ extra) offset pixtype height width endianness = .ok grid := by
  unfold readBand at read ⊢
  cases found : PTYPE pixtype with
  | none => simp only [found, reduceCtorEq] at read
  | some entry =>
    obtain ⟨code, dtype, size⟩ := entry
    simp only [found] at read ⊢
    split_ifs at read with short
    rw [if_neg (by rw [List.length_append]; omega), pySlice_append_left raw extra (by omega)]
    exact read

theorem readBandOf_append {h : RasterHeader} (valid : h.endianness = 0 ∨ h.endianness = 1) {useNumpy : Bool}
    {i offset : Nat} {pixtype : Int} {band : List (List PyValue)}
    (read : readBandOf raw h useNumpy i offset pixtype = .ok band) :
    readBandOf (raw ++ extra) h useNumpy i offset pixtype = .ok band := by
  rw [readBandOf_eq_ok] at read ⊢
  cases useNumpy
  · exact readBand_append extra read
  · have plain := (readBandNumpy_same raw offset pixtype h.height h.width valid).eq_ok read
    have same := readBandNumpy_same (raw ++ extra) offset pixtype h.height h.width valid
    rw [readBand_append extra plain] at same
    obtain ⟨grid, numpy, rfl⟩ := same.exists_ok_left
    exact numpy

/-- The band loop reads every band from its own bytes, so whatever follows them changes nothing. -/
theorem readBands_append {h : RasterHeader} (valid : h.endianness = 0 ∨ h.endianness = 1) (useNumpy : Bool) :
    ∀ remaining i offset img, readBands raw h useNumpy remaining i offset = .ok img →
      readBands (raw ++ extra) h useNumpy remaining i offset = .ok img
  | 0, _, _, _, read => read
  | remaining + 1, i, offset, img, read => by
    simp only [readBands] at read ⊢
    split at read
    · cases read
    · next room =>
      rw [if_neg (by rw [List.length_append]; omega), readPixtype_append extra (by omega)]
      obtain ⟨pixtype, typed, afterType⟩ := bind_eq_ok.mp read
      rw [typed, ok_bind]
      cases found : PTYPE pixtype with
      | none => simp only [found, reduceCtorEq] at afterType
      | some entry =>
        simp only [found] at afterType ⊢
        obtain ⟨band, readOne, afterBand⟩ := bind_eq_ok.mp afterType
        obtain ⟨rest, readRest, built⟩ := bind_eq_ok.mp afterBand
        rw [readBandOf_append extra valid readOne, ok_bind,
          readBands_append valid useNumpy remaining _ _ rest readRest, ok_bind]
        exact built

end Append

/-- Whatever `wkbImage` decodes, it decodes the same from the same bytes followed by any others,
given as bytes or as hexadecimal text in any letter case, with either band reader. -/
theorem wkbImage_ignores_trailing_bytes (x y : Payload) (raw extra : Bytes) (useNumpy : Bool)
    (img : List (List (List PyValue))) (holds : x.Encodes raw) (holds' : y.Encodes (raw ++ extra))
    (decoded : wkbImage x useNumpy = .ok img) : wkbImage y useNumpy = .ok img := by
  rw [wkbImage, rawOf_eq_ok.mpr holds, ok_bind] at decoded
  obtain ⟨h, parsed, read⟩ := bind_eq_ok.mp decoded
  rw [wkbImage, rawOf_eq_ok.mpr holds', ok_bind, wkbHeader_append extra (wkbHeader_eq_ok parsed).1, parsed, ok_bind]
  exact readBands_append extra (wkbHeader_valid parsed).1 useNumpy _ _ _ _ read

/-- The one-pixel raster with sample 7, followed by the byte `0xFF` and given as hexadecimal text. -/
theorem one_pixel_image_ignores_trailing_byte :
    wkbImage (.text (hexlify ([1, 0, 0, 1, 0] ++ List.replicate 52 0 ++ [1, 0, 1, 0, 68, 7] ++ [255]))) =
      .ok [[[.int 7]]] :=
  wkbImage_ignores_trailing_bytes (.binary ([1, 0, 0, 1, 0] ++ List.replicate 52 0 ++ [1, 0, 1, 0, 68, 7])) _ _ [255]
    false _ rfl (hexOf_hexlify _) rfl

end GeoAlchemy2.Raster.Trailing
