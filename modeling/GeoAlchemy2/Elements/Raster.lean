import GeoAlchemy2.Python.Binascii
import GeoAlchemy2.Elements.Ewkb
import GeoAlchemy2.Python.Struct

/-!
`RasterElement`: the constructor reads the byte order and the signed SRID from
the 61-byte raster header, decoded from the first 122 characters of hexadecimal
text or taken from the bytes. Text is stored as it was given, bytes as their
lowercase hexadecimal; the description is the stored text.
-/

namespace GeoAlchemy2.Elements.Raster
open GeoAlchemy2.Python GeoAlchemy2.Elements.Spatial

/-- `MIN_HEADER_SIZE` of `RasterElement.__init__`. -/
def MIN_HEADER_SIZE : Nat := 61

/-- A `RasterElement` after `__init__`. -/
structure RasterElement where
  data : Text
  srid : Int
  extended : Bool
  deriving DecidableEq, Repr

/-- The header bytes `__init__` reads, `bin_data`, and the text it stores. -/
def readRasterHeader : Payload → Except PyError (Bytes × Text)
  | .text s =>
    let length := s.length
    tryCatch (do
        if length < MIN_HEADER_SIZE * 2 then
          throw (.valueError s!"Raster hex data too short: {length} chars, need at least {MIN_HEADER_SIZE * 2}")
        let binData ← unhexlify (s.take (MIN_HEADER_SIZE * 2))
        pure (binData, s))
      fun err => match err with
        | .binasciiError message => .error (.valueError ("Invalid hex data for raster: " ++ message))
        | other => .error other
  | .binary b =>
    let length := b.length
    if length < MIN_HEADER_SIZE then
      .error (.valueError s!"Raster binary data too short: {length} bytes, need at least {MIN_HEADER_SIZE}")
    else .ok (b, hexlify b)

/-- The `try` block of `__init__`: the byte order check and the SRID in bytes 53 to 56. Its
`except (IndexError, struct.error)` clause sees no `IndexError`: `bin_data` holds at least 61 bytes
when it is indexed. -/
def readRasterSrid (binData : Bytes) : Except PyError Int :=
  tryCatch (do
      let byteOrder ← byteAt binData 0
      if byteOrder ≠ 0 ∧ byteOrder ≠ 1 then
        throw (.valueError s!"Invalid byte order in raster: {byteOrder}, must be 0 or 1")
      let endianFmt := if byteOrder = 1 then ByteOrder.little else .big
      let sridBytes := pySlice binData 53 57
      let count := sridBytes.length
      if count ≠ 4 then
        throw (.valueError s!"Could not extract SRID bytes from raster data, got {count} bytes")
      unpackSigned endianFmt 4 sridBytes)
    fun err => match err with
      | .structError message => .error (.valueError ("Error parsing raster data: " ++ message))
      | other => .error other

/-- `RasterElement(data)`. -/
def RasterElement.init (data : Payload) : Except PyError RasterElement := do
  let (binData, stored) ← readRasterHeader data
  let srid ← readRasterSrid binData
  pure ⟨stored, srid, true⟩

/-- `RasterElement.desc`: the stored text. -/
def RasterElement.desc (e : RasterElement) : Text := e.data

/-- What `__eq__` and `__hash__` compare. -/
def RasterElement.key (e : RasterElement) : SpatialKey := ⟨e.desc, e.srid, e.extended⟩

/-! ## Reading the header -/

/-- The SRID `__init__` reads from a complete header, once the byte order byte is 0 or 1. -/
theorem readRasterSrid_of_long {x : UInt8} {rest : Bytes} (long : 60 ≤ rest.length) :
    readRasterSrid (x :: rest) =
      if x ≠ 0 ∧ x ≠ 1 then .error (.valueError s!"Invalid byte order in raster: {x}, must be 0 or 1")
      else .ok (toSigned 4 ((if x = 1 then ByteOrder.little else .big).word (pySlice (x :: rest) 53 57))) := by
  have four : (pySlice (x :: rest) 53 57).length = 4 := length_pySlice (by simp; omega)
  simp only [readRasterSrid, byteAt_cons_zero, ok_bind, four, unpackSigned_of_length four, throw_eq_error,
    error_bind, pure_eq_ok, ne_eq, not_true_eq_false, if_false]
  split_ifs <;> rfl

/-- `bin_data` of hexadecimal text is the decoded first 61 bytes; the text itself is stored. -/
theorem readRasterHeader_text {h : Text} {b : Bytes} (hex : HexOf h b) :
    readRasterHeader (.text h) =
      if b.length < MIN_HEADER_SIZE then
        .error (.valueError s!"Raster hex data too short: {h.length} chars, need at least {MIN_HEADER_SIZE * 2}")
      else .ok (b.take MIN_HEADER_SIZE, h) := by
  have length := hex.length
  have decoded : unhexlify (h.take (MIN_HEADER_SIZE * 2)) = .ok (b.take MIN_HEADER_SIZE) :=
    unhexlify_eq_ok.mpr (by simpa only [Nat.mul_comm] using hex.take MIN_HEADER_SIZE)
  by_cases short : b.length < MIN_HEADER_SIZE
  · simp only [readRasterHeader, if_pos short, if_pos (show h.length < MIN_HEADER_SIZE * 2 by omega),
      throw_eq_error, error_bind]
    rfl
  · simp only [readRasterHeader, if_neg short, if_neg (show ¬ h.length < MIN_HEADER_SIZE * 2 by omega), decoded,
      pure_eq_ok, ok_bind, tryCatch_ok]

/-- Text is accepted only past its first 122 characters decoding, and is stored as given. -/
theorem readRasterHeader_text_eq_ok {s : Text} {binData : Bytes} {stored : Text}
    (read : readRasterHeader (.text s) = .ok (binData, stored)) :
    HexOf (s.take (MIN_HEADER_SIZE * 2)) binData ∧ stored = s := by
  simp only [readRasterHeader] at read
  split_ifs at read
  · cases read
  · cases decoded : unhexlify (s.take (MIN_HEADER_SIZE * 2)) with
    | error e =>
      rw [decoded] at read
      cases e <;> cases read
    | ok bytes =>
      rw [decoded] at read
      cases read
      exact ⟨unhexlify_eq_ok.mp decoded, rfl⟩

/-- Past the length check, only the first 61 bytes matter to the `try` block. -/
theorem readRasterSrid_take {b : Bytes} (long : MIN_HEADER_SIZE ≤ b.length) :
    readRasterSrid (b.take MIN_HEADER_SIZE) = readRasterSrid b := by
  obtain ⟨x, rest, rfl⟩ := List.exists_cons_of_length_pos (show 0 < b.length by unfold MIN_HEADER_SIZE at long; omega)
  have sixty : 60 ≤ (rest.take 60).length := by simp; simp [MIN_HEADER_SIZE] at long; omega
  rw [MIN_HEADER_SIZE, List.take_succ_cons, readRasterSrid_of_long sixty,
    readRasterSrid_of_long (by simp [MIN_HEADER_SIZE] at long; omega), ← List.take_succ_cons,
    pySlice_take _ (by decide)]

/-- The binary path returns exactly on a complete header whose byte order byte is 0 or 1; it
stores the lowercase hexadecimal and the signed SRID of bytes 53 to 56 in that byte order. -/
theorem init_binary_eq_ok {b : Bytes} {e : RasterElement} :
    RasterElement.init (.binary b) = .ok e ↔
      ∃ x rest, b = x :: rest ∧ 60 ≤ rest.length ∧ (x = 0 ∨ x = 1) ∧
        e = ⟨hexlify b, toSigned 4 ((if x = 1 then ByteOrder.little else .big).word (pySlice b 53 57)), true⟩ := by
  cases b with
  | nil => simp [RasterElement.init, readRasterHeader, MIN_HEADER_SIZE]
  | cons x rest =>
    by_cases long : 60 ≤ rest.length
    · simp only [RasterElement.init, readRasterHeader, MIN_HEADER_SIZE, List.length_cons,
        if_neg (show ¬ rest.length + 1 < 61 by omega), ok_bind, readRasterSrid_of_long long]
      by_cases bad : x ≠ 0 ∧ x ≠ 1
      · simp only [if_pos bad, error_bind, reduceCtorEq, false_iff, not_exists, not_and]
        rintro _ _ ⟨rfl, rfl⟩ - valid
        tauto
      · simp only [if_neg bad, ok_bind, pure_eq_ok, Except.ok.injEq, List.cons.injEq]
        constructor
        · rintro rfl
          exact ⟨x, rest, ⟨rfl, rfl⟩, long, by tauto, rfl⟩
        · rintro ⟨_, _, ⟨rfl, rfl⟩, -, -, rfl⟩
          rfl
    · simp only [RasterElement.init, readRasterHeader, MIN_HEADER_SIZE, List.length_cons,
        if_pos (show rest.length + 1 < 61 by omega), error_bind, reduceCtorEq, false_iff, not_exists, not_and]
      rintro _ _ ⟨rfl, rfl⟩ enough
      exact absurd enough long

/-- On a complete header the `try` block raises only `ValueError`, for a bad byte order byte. -/
theorem readRasterSrid_raises {b : Bytes} (long : MIN_HEADER_SIZE ≤ b.length) {err : PyError}
    (raised : readRasterSrid b = .error err) : ∃ message, err = .valueError message := by
  obtain ⟨x, rest, rfl⟩ := List.exists_cons_of_length_pos (show 0 < b.length by unfold MIN_HEADER_SIZE at long; omega)
  rw [readRasterSrid_of_long (by simp [MIN_HEADER_SIZE] at long; omega)] at raised
  split_ifs at raised
  cases raised
  exact ⟨_, rfl⟩

/-! ## Text and bytes -/

/-- What the two paths store for the same buffer: the SRID agrees, and the text is the given
hexadecimal on one side and its lowercase form on the other. -/
structure SameRaster (h : Text) (b : Bytes) (t u : RasterElement) : Prop where
  text : t.data = h
  binary : u.data = hexlify b
  srid : t.srid = u.srid
  extended : t.extended = true ∧ u.extended = true

theorem init_hex_binary {h : Text} {b : Bytes} (hex : HexOf h b) :
    SameOutcome (SameRaster h b) (RasterElement.init (.text h)) (RasterElement.init (.binary b)) := by
  unfold RasterElement.init
  rw [readRasterHeader_text hex]
  by_cases short : b.length < MIN_HEADER_SIZE
  · simp only [readRasterHeader, if_pos short]
    trivial
  · simp only [readRasterHeader, if_neg short, ok_bind, readRasterSrid_take (Nat.le_of_not_lt short)]
    cases readRasterSrid b with
    | error => trivial
    | ok srid => exact ⟨rfl, rfl, rfl, rfl, rfl⟩

/-- Equal keys need equal text: the hexadecimal given must already be the lowercase one. -/
theorem SameRaster.key_eq_iff {h : Text} {b : Bytes} {t u : RasterElement} (same : SameRaster h b t u) :
    t.key.eq u.key = true ↔ h = hexlify b := by
  simp only [SpatialKey.eq_iff, RasterElement.key, RasterElement.desc, SpatialKey.mk.injEq, same.text, same.binary,
    same.srid, same.extended.1, same.extended.2, and_true]

/-- Both paths raise `ValueError` on a short buffer, and otherwise read the header of the buffer. -/
theorem init_raises_of_header {data : Payload} {b binData : Bytes} {message : String} {stored : Text}
    (header : readRasterHeader data =
      if b.length < MIN_HEADER_SIZE then .error (.valueError message) else .ok (binData, stored))
    (same : MIN_HEADER_SIZE ≤ b.length → readRasterSrid binData = readRasterSrid b)
    {err : PyError} (raised : RasterElement.init data = .error err) : ∃ message, err = .valueError message := by
  unfold RasterElement.init at raised
  rw [header] at raised
  split_ifs at raised with short
  · cases raised
    exact ⟨_, rfl⟩
  · simp only [ok_bind, same (Nat.le_of_not_lt short)] at raised
    cases found : readRasterSrid b <;> rw [found] at raised <;> cases raised
    exact readRasterSrid_raises (Nat.le_of_not_lt short) found

/-- `RasterElement` on a buffer and on any hexadecimal text of it: the two raise together, only
`ValueError`, and return exactly on a complete header with byte order 0 or 1; then they read the
same SRID, and store the text as given on one side and the lowercase hexadecimal on the other, so
their keys agree exactly when the text given was lowercase. -/
theorem raster_hex_and_binary_paths_agree_up_to_case :
    ∀ (h : Text) (b : Bytes), HexOf h b →
      SameOutcome (fun t u => SameRaster h b t u ∧ lower t.data = u.data ∧ (t.key.eq u.key = true ↔ h = hexlify b))
        (RasterElement.init (.text h)) (RasterElement.init (.binary b)) ∧
      (∀ e, RasterElement.init (.binary b) = .ok e ↔
        ∃ x rest, b = x :: rest ∧ 60 ≤ rest.length ∧ (x = 0 ∨ x = 1) ∧
          e = ⟨hexlify b, toSigned 4 ((if x = 1 then ByteOrder.little else .big).word (pySlice b 53 57)), true⟩) ∧
      (∀ err, (RasterElement.init (.text h) = .error err ∨ RasterElement.init (.binary b) = .error err) →
        ∃ message, err = .valueError message) := by
  intro h b hex
  refine ⟨?_, fun e => init_binary_eq_ok, fun err raised => ?_⟩
  · exact (init_hex_binary hex).mono fun t u same =>
      ⟨same, by rw [same.text, same.binary, hex.lower_eq], same.key_eq_iff⟩
  · rcases raised with raised | raised
    · exact init_raises_of_header (readRasterHeader_text hex) readRasterSrid_take raised
    · exact @init_raises_of_header (.binary b) b b _ (hexlify b) rfl (fun _ => rfl) err raised

set_option maxRecDepth 4000 in
/-- The theorem above at the lowercase hexadecimal of a 61-byte header with byte order 1. -/
theorem lowercase_hex_raster_agrees :
    SameOutcome (fun t u => SameRaster (hexlify (1 :: List.replicate 60 0)) (1 :: List.replicate 60 0) t u ∧
        lower t.data = u.data ∧
        (t.key.eq u.key = true ↔ hexlify (1 :: List.replicate 60 0) = hexlify (1 :: List.replicate 60 0)))
      (RasterElement.init (.text (hexlify (1 :: List.replicate 60 0))))
      (RasterElement.init (.binary (1 :: List.replicate 60 0))) :=
  (raster_hex_and_binary_paths_agree_up_to_case (hexlify (1 :: List.replicate 60 0)) (1 :: List.replicate 60 0)
    (hexOf_hexlify (1 :: List.replicate 60 0))).1

set_option maxRecDepth 4000 in
/-- An uppercase hexadecimal text and its buffer build unequal elements: the text path keeps `A`
where the binary path writes `a`. -/
theorem uppercase_hex_raster_differs_from_binary :
    RasterElement.init (.text ("010A".toList ++ List.replicate 118 '0')) =
      .ok ⟨"010A".toList ++ List.replicate 118 '0', 0, true⟩ ∧
    RasterElement.init (.binary (1 :: 10 :: List.replicate 59 0)) =
      .ok ⟨"010a".toList ++ List.replicate 118 '0', 0, true⟩ ∧
    (⟨"010A".toList ++ List.replicate 118 '0', 0, true⟩ : RasterElement).key.eq
      ⟨"010a".toList ++ List.replicate 118 '0', 0, true⟩ = false :=
  ⟨rfl, rfl, rfl⟩

end GeoAlchemy2.Elements.Raster
