import GeoAlchemy2.Raster.Header

/-!
`read_band`, which unpacks each sample of a band with `struct`, and
`read_band_numpy`, which reads them all with `np.frombuffer` and reshapes.
Both check the band's length first; past that check each reads sample `k` of
the band from the `size` bytes after the band type byte and `k` samples, so the
two return the same grid.
-/

namespace GeoAlchemy2.Raster.Band
open GeoAlchemy2.Python GeoAlchemy2.Raster.Header

/-- `read_band(data, offset, pixtype, height, width, endianness)`. -/
def readBand (data : Bytes) (offset : Nat) (pixtype : Int) (height width : Nat) (endianness : Int) :
    Except PyError (List (List PyValue)) :=
  match PTYPE pixtype with
  | none => .error (.valueError s!"Invalid pixel type: {pixtype}")
  | some (ptype, _, psize) =>
    let requiredSize := offset + 1 + width * height * psize
    let length := data.length
    if length < requiredSize then
      .error (.valueError (s!"Raster data too short for band: len={length}, required={requiredSize} " ++
        s!"(offset={offset}, width={width}, height={height}, pixelsize={psize})"))
    else
      let pixData := pySlice data (offset + 1) (offset + 1 + width * height * psize)
      tryCatch ((List.range height).mapM fun i => (List.range width).mapM fun j => do
          let order ← formatE endianness
          unpackValue order ptype (pySlice pixData ((i * width + j) * psize) ((i * width + j + 1) * psize)))
        fun err => match err with
          | .structError message => .error (.valueError ("Failed to unpack pixel data: " ++ message))
          | other => .error other

/-- `read_band_numpy(data, offset, pixtype, height, width, endianness)`. -/
def readBandNumpy (data : Bytes) (offset : Nat) (pixtype : Int) (height width : Nat) (endianness : Int) :
    Except PyError (List (List PyValue)) :=
  match PTYPE pixtype with
  | none => .error (.valueError s!"Invalid pixel type: {pixtype}")
  | some (_, dtype, psize) =>
    let requiredSize := offset + 1 + width * height * psize
    let length := data.length
    if length < requiredSize then
      .error (.valueError (s!"Raster data too short for numpy band: len={length}, required={requiredSize} " ++
        s!"(offset={offset}, width={width}, height={height}, pixelsize={psize})"))
    else
      tryCatch (do
          let order ← ENDIANNESS endianness
          let band ← frombuffer data dtype order (height * width) (offset + 1)
          reshape band height width)
        (reraiseValueError "Failed to create numpy array from raster data: ")

/-- Sample `k` of the band at `offset`: the `size` bytes after the band type byte and `k` samples. -/
def sampleAt (data : Bytes) (offset size : Nat) (order : ByteOrder) (ofWord : Nat → PyValue) (k : Nat) : PyValue :=
  ofWord (order.word (pySlice data (offset + 1 + k * size) (offset + 1 + (k + 1) * size)))

/-- The band's samples as `height` rows of `width`, in row-major order. -/
def bandGrid (data : Bytes) (offset size : Nat) (order : ByteOrder) (ofWord : Nat → PyValue) (height width : Nat) :
    List (List PyValue) :=
  (List.range height).map fun i => (List.range width).map fun j => sampleAt data offset size order ofWord (i * width + j)

theorem sampleAt_succ (data : Bytes) (offset size : Nat) (order : ByteOrder) (ofWord : Nat → PyValue) (k : Nat) :
    sampleAt data offset size order ofWord (k + 1) = sampleAt data (offset + size) size order ofWord k := by
  simp only [sampleAt, Nat.succ_mul]
  congr 3 <;> omega

/-- The first row of a grid, then the grid of the rows after it. -/
theorem bandGrid_succ (data : Bytes) (offset size : Nat) (order : ByteOrder) (ofWord : Nat → PyValue)
    (height width : Nat) :
    bandGrid data offset size order ofWord (height + 1) width =
      (List.range width).map (sampleAt data offset size order ofWord) ::
        bandGrid data (offset + width * size) size order ofWord height width := by
  simp only [bandGrid, List.range_succ_eq_map, List.map_cons, List.map_map, Nat.zero_mul, Nat.zero_add]
  congr 1
  apply List.map_congr_left
  intro i _
  apply List.map_congr_left
  intro j _
  simp only [Function.comp, sampleAt, Nat.succ_mul, Nat.add_mul]
  congr 3 <;> omega

/-- A grid has `height` rows of `width` samples. -/
theorem bandGrid_shape (data : Bytes) (offset size : Nat) (order : ByteOrder) (ofWord : Nat → PyValue)
    (height width : Nat) :
    (bandGrid data offset size order ofWord height width).length = height ∧
      ∀ row ∈ bandGrid data offset size order ofWord height width, row.length = width := by
  simp [bandGrid]

section Readers
variable {pixtype : Int} {code : FormatCode} {dtype : Dtype} {size : Nat}

/-- Past the length check, `read_band` returns the band's grid. -/
theorem readBand_eq (found : PTYPE pixtype = some (code, dtype, size)) {endianness : Int}
    (valid : endianness = 0 ∨ endianness = 1) {data : Bytes} {offset height width : Nat}
    (long : offset + 1 + width * height * size ≤ data.length) :
    readBand data offset pixtype height width endianness =
      .ok (bandGrid data offset size (if endianness = 1 then .little else .big) code.ofWord height width) := by
  have sized := (PTYPE_sizes found).1
  simp only [readBand, found, if_neg (Nat.not_lt.mpr long)]
  rw [mapM_of_ok fun i row => mapM_of_ok fun j column => ?_]
  · rfl
  · have i_lt := List.mem_range.mp row
    have j_lt := List.mem_range.mp column
    have within : (i * width + j + 1) * size ≤ width * height * size := by
      apply Nat.mul_le_mul_right
      calc i * width + j + 1 ≤ i * width + width := by omega
        _ = (i + 1) * width := by rw [Nat.succ_mul]
        _ ≤ height * width := Nat.mul_le_mul_right _ i_lt
        _ = width * height := Nat.mul_comm _ _
    rw [formatE_of_valid valid, ok_bind, pySlice_pySlice _ (Nat.mul_le_mul_right _ (by omega)) (by omega),
      unpackValue_of_length]
    · rfl
    · rw [length_pySlice (by omega), sized, Nat.succ_mul]
      omega

/-- Past the same check, `read_band_numpy` returns the same grid. -/
theorem readBandNumpy_eq (found : PTYPE pixtype = some (code, dtype, size)) {endianness : Int}
    (valid : endianness = 0 ∨ endianness = 1) {data : Bytes} {offset height width : Nat}
    (long : offset + 1 + width * height * size ≤ data.length) :
    readBandNumpy data offset pixtype height width endianness =
      .ok (bandGrid data offset size (if endianness = 1 then .little else .big) code.ofWord height width) := by
  obtain ⟨-, itemsize, sameWord⟩ := PTYPE_sizes found
  have count : height * width * size = width * height * size := by rw [Nat.mul_comm height]
  have flat : frombuffer data dtype (if endianness = 1 then .little else .big) (height * width) (offset + 1) =
      .ok ((List.range (height * width)).map
        (sampleAt data offset size (if endianness = 1 then .little else .big) code.ofWord)) := by
    simp only [frombuffer, itemsize, if_neg (show ¬ data.length < offset + 1 by omega),
      if_neg (show ¬ data.length - (offset + 1) < height * width * size by omega), sameWord]
    rfl
  simp only [readBandNumpy, found, if_neg (Nat.not_lt.mpr long)]
  rw [ENDIANNESS_of_valid valid, ok_bind, flat, ok_bind, reshape, if_pos (by simp), tryCatch_ok]
  congr 1
  apply List.map_congr_left
  intro i row
  have i_lt := List.mem_range.mp row
  rw [Nat.succ_mul, pySlice_map_range _ (by rw [← Nat.succ_mul]; exact Nat.mul_le_mul_right _ i_lt)]

/-- With a valid endianness the two readers raise together, and otherwise return the same grid. -/
theorem readBandNumpy_same (data : Bytes) (offset : Nat) (pixtype : Int) (height width : Nat) {endianness : Int}
    (valid : endianness = 0 ∨ endianness = 1) :
    SameOutcome Eq (readBandNumpy data offset pixtype height width endianness)
      (readBand data offset pixtype height width endianness) := by
  cases found : PTYPE pixtype with
  | none =>
    simp only [readBandNumpy, readBand, found]
    trivial
  | some entry =>
    obtain ⟨code, dtype, size⟩ := entry
    by_cases long : offset + 1 + width * height * size ≤ data.length
    · rw [readBandNumpy_eq found valid long, readBand_eq found valid long]
      rfl
    · simp only [readBandNumpy, readBand, found, if_pos (Nat.lt_of_not_le long)]
      trivial

/-- With a valid endianness, `read_band` returns only full grids. -/
theorem readBand_shape {endianness : Int} (valid : endianness = 0 ∨ endianness = 1) {data : Bytes}
    {offset height width : Nat} {grid : List (List PyValue)}
    (read : readBand data offset pixtype height width endianness = .ok grid) :
    grid.length = height ∧ ∀ row ∈ grid, row.length = width := by
  cases found : PTYPE pixtype with
  | none => simp [readBand, found] at read
  | some entry =>
    obtain ⟨code, dtype, size⟩ := entry
    by_cases long : offset + 1 + width * height * size ≤ data.length
    · rw [readBand_eq found valid long] at read
      cases read
      exact bandGrid_shape ..
    · simp [readBand, found, Nat.lt_of_not_le long] at read

end Readers

end GeoAlchemy2.Raster.Band
