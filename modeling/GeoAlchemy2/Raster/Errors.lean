import GeoAlchemy2.Raster.Image

/-!
When `wkbImage` raises. The conditions are stated from the raster layout rather
than from the decoder: the argument decodes (bytes as they are, text as
hexadecimal); the 61-byte header declares an endianness of 0 or 1 and a width,
height and band count other than 0; and each band, from offset 61 on, starts
with a type byte whose value minus 64 is a pixel type of `_PTYPE`, followed by
`width * height` samples of that type's size. On such input `wkbImage` returns
whole images; on any other it raises `ValueError`, and never another exception.
-/

namespace GeoAlchemy2.Raster.Errors
open GeoAlchemy2.Python GeoAlchemy2.Raster.Header GeoAlchemy2.Raster.Band GeoAlchemy2.Raster.Image

/-! ## What the layout asks -/

/-- The byte order the endianness byte declares: 1 little-endian, 0 big-endian. -/
def headerOrder (raw : Bytes) : ByteOrder := if raw[0]? = some 1 then .little else .big

/-- The unsigned header field in bytes `start` to `stop - 1`, in the declared byte order. -/
def headerField (raw : Bytes) (start stop : Nat) : Nat := (headerOrder raw).word (pySlice raw start stop)

/-- A header the layout accepts: 61 bytes, an endianness byte of 0 or 1, and a band count
(bytes 3 and 4), width (57 and 58) and height (59 and 60) other than 0. -/
@[mk_iff]
structure HeaderWellFormed (raw : Bytes) : Prop where
  long : 61 ≤ raw.length
  endianness : raw[0]? = some 0 ∨ raw[0]? = some 1
  nbands : headerField raw 3 5 ≠ 0
  width : headerField raw 57 59 ≠ 0
  height : headerField raw 59 61 ≠ 0

/-- Whether `remaining` bands fit from `offset` on: each has a type byte whose value minus 64 is a
pixel type of `_PTYPE`, then `width * height` samples of that type's size, and the next band
starts right after them. -/
def bandsFit (raw : Bytes) (width height : Nat) : Nat → Nat → Bool
  | 0, _ => true
  | remaining + 1, offset =>
    match raw[offset]? with
    | none => false
    | some byte =>
      match PTYPE ((byte.toNat : Int) - 64) with
      | none => false
      | some (_, _, size) =>
        decide (offset + 1 + width * height * size ≤ raw.length) &&
          bandsFit raw width height remaining (offset + 1 + width * height * size)

/-- A raster the layout accepts: its header, and every band the header announces. -/
@[mk_iff]
structure WellFormedRaster (raw : Bytes) extends HeaderWellFormed raw : Prop where
  bands : bandsFit raw (headerField raw 57 59) (headerField raw 59 61) (headerField raw 3 5) 61 = true

instance : DecidablePred HeaderWellFormed := fun raw => decidable_of_iff _ (headerWellFormed_iff raw).symm

instance : DecidablePred WellFormedRaster := fun raw => decidable_of_iff _ (wellFormedRaster_iff raw).symm

/-- One band of one unsigned byte on a one-pixel raster; without its sample the band does not fit. -/
example : WellFormedRaster ([1, 0, 0, 1, 0] ++ List.replicate 52 0 ++ [1, 0, 1, 0, 68, 7]) := by decide

example : ¬ WellFormedRaster ([1, 0, 0, 1, 0] ++ List.replicate 52 0 ++ [1, 0, 1, 0, 68]) := by decide

/-! ## Failing cleanly -/

/-- `x` returns exactly when `fits` holds, and raises nothing but `ValueError`. -/
structure FailsCleanly {α : Type} (x : Except PyError α) (fits : Prop) : Prop where
  returns_iff : (∃ a, x = .ok a) ↔ fits
  raises : ∀ err, x = .error err → ∃ message, err = .valueError message

namespace FailsCleanly
variable {α β : Type} {fits : Prop}

theorem of_ok {a : α} (holds : fits) : FailsCleanly (.ok a) fits :=
  ⟨⟨fun _ => holds, fun _ => ⟨a, rfl⟩⟩, fun _ raised => nomatch raised⟩

theorem of_valueError {message : String} (fails : ¬ fits) :
    FailsCleanly (.error (.valueError message) : Except PyError α) fits :=
  ⟨⟨fun ⟨_, returned⟩ => (nomatch returned), fun holds => absurd holds fails⟩,
    fun _ raised => ⟨message, (Except.error.inj raised).symm⟩⟩

theorem congr {fits' : Prop} {x : Except PyError α} (clean : FailsCleanly x fits) (same : fits ↔ fits') :
    FailsCleanly x fits' :=
  ⟨clean.returns_iff.trans same, clean.raises⟩

/-- A step that fails cleanly, followed by steps that fail cleanly, fails cleanly. -/
theorem bind {x : Except PyError α} {f : α → Except PyError β} {next : α → Prop} (first : FailsCleanly x fits)
    (rest : ∀ a, x = .ok a → FailsCleanly (f a) (next a)) : FailsCleanly (x >>= f) (∃ a, x = .ok a ∧ next a) := by
  cases x with
  | ok a =>
    rw [ok_bind]
    exact (rest a rfl).congr ⟨fun holds => ⟨a, rfl, holds⟩, fun ⟨_, same, holds⟩ => Except.ok.inj same ▸ holds⟩
  | error e =>
    rw [error_bind]
    exact ⟨⟨fun ⟨_, returned⟩ => (nomatch returned), fun ⟨_, returned, _⟩ => nomatch returned⟩,
      fun err raised => first.raises err (by rw [Except.error.inj raised])⟩

theorem map_ok {x : Except PyError α} {g : α → β} (clean : FailsCleanly x fits) :
    FailsCleanly (x >>= fun a => pure (g a)) fits :=
  (clean.bind fun _ _ => of_ok trivial).congr
    ⟨fun ⟨a, returned, _⟩ => clean.returns_iff.mp ⟨a, returned⟩,
      fun holds => (clean.returns_iff.mpr holds).imp fun _ returned => ⟨returned, trivial⟩⟩

end FailsCleanly

theorem raises_iff_not_returns {ε α : Type} {x : Except ε α} : (∃ err, x = .error err) ↔ ¬ ∃ a, x = .ok a := by
  cases x <;> simp

/-! ## Decoding the argument -/

theorem rawOf_eq_ok {x : Payload} {raw : Bytes} : rawOf x = .ok raw ↔ x.Encodes raw := by
  cases x with
  | text s =>
    rw [rawOf, tryCatch_eq_ok fun _ _ => by split <;> nofun]
    exact unhexlify_eq_ok
  | binary b => exact ⟨Except.ok.inj, congrArg Except.ok⟩

/-- Text that is not hexadecimal raises `ValueError`, whichever check of `unhexlify` it fails. -/
theorem rawOf_outcome (x : Payload) : FailsCleanly (rawOf x) (∃ raw, x.Encodes raw) := by
  refine ⟨exists_congr fun raw => rawOf_eq_ok, fun err raised => ?_⟩
  cases x with
  | binary b => cases raised
  | text s =>
    cases decoded : unhexlify s with
    | ok b =>
      rw [rawOf, decoded, tryCatch_ok] at raised
      cases raised
    | error e =>
      rw [rawOf, decoded, tryCatch_error] at raised
      obtain ⟨message, rfl | rfl⟩ := unhexlify_raises decoded <;> cases raised <;> exact ⟨_, rfl⟩

/-! ## The header -/

/-- `wkbHeader` returns exactly on a header the layout accepts, with the declared band count, width
and height, and otherwise raises `ValueError`. -/
theorem wkbHeader_outcome (raw : Bytes) :
    FailsCleanly (wkbHeader raw) (HeaderWellFormed raw) ∧
      ∀ h, wkbHeader raw = .ok h →
        h.nbands = headerField raw 3 5 ∧ h.width = headerField raw 57 59 ∧ h.height = headerField raw 59 61 := by
  by_cases long : MIN_HEADER_SIZE ≤ raw.length
  · obtain ⟨x, rest, rfl⟩ := List.exists_cons_of_length_pos (show 0 < raw.length by unfold MIN_HEADER_SIZE at long; omega)
    have endianness : toSigned 1 (ByteOrder.little.word (pySlice (x :: rest) 0 1)) = toSigned 1 x.toNat := by
      rw [show pySlice (x :: rest) 0 1 = [x] from rfl, word_singleton]
    have declared : (x :: rest)[0]? = some 0 ∨ (x :: rest)[0]? = some 1 ↔ x = 0 ∨ x = 1 := by
      simp only [List.getElem?_cons_zero, Option.some.injEq]
    have invalid : toSigned 1 x.toNat ≠ 0 ∧ toSigned 1 x.toNat ≠ 1 ↔ ¬ (x = 0 ∨ x = 1) := by
      rw [ne_eq, toSigned_byte_eq_zero, ne_eq, toSigned_byte_eq_one, not_or]
    rw [wkbHeader_of_long long]
    dsimp only
    rw [endianness]
    by_cases valid : x = 0 ∨ x = 1
    · have order : (if toSigned 1 x.toNat = 1 then ByteOrder.little else .big) = headerOrder (x :: rest) := by
        simp only [headerOrder, List.getElem?_cons_zero, Option.some.injEq, toSigned_byte_eq_one]
      rw [if_neg fun bad => invalid.mp bad valid, order]
      split_ifs with dims nobands
      · exact ⟨.of_valueError fun header => dims.elim header.width header.height, nofun⟩
      · exact ⟨.of_valueError fun header => header.nbands nobands, nofun⟩
      · refine ⟨.of_ok ⟨long, declared.mpr valid, nobands, fun width => dims (.inl width),
          fun height => dims (.inr height)⟩, fun h parsed => ?_⟩
        cases parsed
        exact ⟨rfl, rfl, rfl⟩
    · rw [if_pos (invalid.mpr valid)]
      exact ⟨.of_valueError fun header => valid (declared.mp header.endianness), nofun⟩
  · rw [wkbHeader, if_pos (Nat.lt_of_not_le long)]
    exact ⟨.of_valueError fun header => long header.long, nofun⟩

/-! ## The bands -/

theorem pySlice_single {raw : Bytes} {offset : Nat} (inside : offset < raw.length) :
    pySlice raw offset (offset + 1) = [raw[offset]] := by
  rw [pySlice, List.drop_eq_getElem_cons inside, Nat.add_sub_cancel_left]
  rfl

section Band
variable {raw : Bytes} {offset : Nat}

/-- Past the length check, the type byte is read whole and the pixel type check is what decides. -/
theorem readPixtype_known {endianness : Int} (valid : endianness = 0 ∨ endianness = 1) (inside : offset < raw.length)
    (i : Nat) {entry : FormatCode × Dtype × Nat} (found : PTYPE ((raw[offset].toNat : Int) - 64) = some entry) :
    readPixtype raw endianness i offset = .ok (toSigned 1 raw[offset].toNat - 64) := by
  simp only [readPixtype, formatE_of_valid valid, ok_bind, pySlice_single inside,
    unpackSigned_of_length (List.length_singleton _), word_singleton, PTYPE_signed_byte, found,
    Option.isNone_some, Bool.false_eq_true, if_false, pure_eq_ok, tryCatch_ok]

theorem readPixtype_unknown {endianness : Int} (valid : endianness = 0 ∨ endianness = 1)
    (inside : offset < raw.length) (i : Nat) (unknown : PTYPE ((raw[offset].toNat : Int) - 64) = none) :
    ∃ message, readPixtype raw endianness i offset = .error (.valueError message) := by
  simp only [readPixtype, formatE_of_valid valid, ok_bind, pySlice_single inside,
    unpackSigned_of_length (List.length_singleton _), word_singleton, PTYPE_signed_byte, unknown,
    Option.isNone_none, if_true, throw_eq_error, error_bind, tryCatch_error]
  exact ⟨_, rfl⟩

variable {h : RasterHeader} {pixtype : Int} {code : FormatCode} {dtype : Dtype} {size : Nat}

theorem readBandOf_of_fit (valid : h.endianness = 0 ∨ h.endianness = 1) (found : PTYPE pixtype = some (code, dtype, size))
    (useNumpy : Bool) (i : Nat) (long : offset + 1 + h.width * h.height * size ≤ raw.length) :
    readBandOf raw h useNumpy i offset pixtype =
      .ok (bandGrid raw offset size (if h.endianness = 1 then .little else .big) code.ofWord h.height h.width) := by
  rw [readBandOf_eq_ok]
  cases useNumpy
  · exact readBand_eq found valid long
  · exact readBandNumpy_eq found valid long

theorem readBandOf_of_short (found : PTYPE pixtype = some (code, dtype, size)) (useNumpy : Bool) (i : Nat)
    (short : raw.length < offset + 1 + h.width * h.height * size) :
    ∃ message, readBandOf raw h useNumpy i offset pixtype = .error (.valueError message) := by
  cases useNumpy <;> simp only [readBandOf, readBand, readBandNumpy, found, if_pos short, Bool.false_eq_true,
    if_false, if_true, tryCatch_error, reraiseValueError] <;> exact ⟨_, rfl⟩

end Band

/-- With a positive width and height, a band that does not leave room past its type byte cannot
fit. -/
theorem bandsFit_short {raw : Bytes} {width height : Nat} (area : 0 < width * height) (remaining : Nat)
    {offset : Nat} (short : raw.length ≤ offset + 1) : bandsFit raw width height (remaining + 1) offset = false := by
  cases byte : raw[offset]? with
  | none => simp only [bandsFit, byte]
  | some x =>
    cases found : PTYPE ((x.toNat : Int) - 64) with
    | none => simp only [bandsFit, byte, found]
    | some entry =>
      obtain ⟨code, dtype, size⟩ := entry
      have filled := Nat.mul_pos area (PTYPE_range found).2.2
      simp only [bandsFit, byte, found, Bool.and_eq_false_iff, decide_eq_false_iff_not]
      exact .inl (by omega)

/-- The band loop returns exactly when the bands fit, and raises nothing but `ValueError`. -/
theorem readBands_outcome (raw : Bytes) {h : RasterHeader} (valid : h.endianness = 0 ∨ h.endianness = 1)
    (area : 0 < h.width * h.height) (useNumpy : Bool) :
    ∀ remaining i offset, FailsCleanly (readBands raw h useNumpy remaining i offset)
      (bandsFit raw h.width h.height remaining offset = true)
  | 0, _, _ => .of_ok rfl
  | remaining + 1, i, offset => by
    simp only [readBands]
    split
    · next short => exact .of_valueError (by rw [bandsFit_short area remaining short]; decide)
    · next room =>
      have inside : offset < raw.length := by omega
      cases found : PTYPE ((raw[offset].toNat : Int) - 64) with
      | none =>
        obtain ⟨message, raised⟩ := readPixtype_unknown valid inside i found
        rw [raised, error_bind]
        exact .of_valueError (by simp [bandsFit, List.getElem?_eq_getElem inside, found])
      | some entry =>
        obtain ⟨code, dtype, size⟩ := entry
        have step : bandsFit raw h.width h.height (remaining + 1) offset =
            (decide (offset + 1 + h.width * h.height * size ≤ raw.length) &&
              bandsFit raw h.width h.height remaining (offset + 1 + h.width * h.height * size)) := by
          simp only [bandsFit, List.getElem?_eq_getElem inside, found]
        have signed := (PTYPE_signed_byte raw[offset]).trans found
        rw [readPixtype_known valid inside i found, ok_bind, signed, step]
        dsimp only
        by_cases long : offset + 1 + h.width * h.height * size ≤ raw.length
        · rw [readBandOf_of_fit valid signed useNumpy i long, ok_bind, decide_eq_true long, Bool.true_and]
          exact (readBands_outcome raw valid area useNumpy remaining (i + 1) _).map_ok
        · obtain ⟨message, raised⟩ := readBandOf_of_short signed useNumpy i (Nat.lt_of_not_le long)
          rw [raised, error_bind]
          exact .of_valueError (by simp [long])

/-! ## `wkbImage` -/

/-- `wkbImage` returns exactly on an argument that decodes to a raster the layout accepts, and
raises nothing but `ValueError`. -/
theorem wkbImage_outcome (x : Payload) (useNumpy : Bool) :
    FailsCleanly (wkbImage x useNumpy) (∃ raw, x.Encodes raw ∧ WellFormedRaster raw) := by
  refine ((rawOf_outcome x).bind fun raw _ => (wkbHeader_outcome raw).1.bind fun h parsed =>
      readBands_outcome raw (wkbHeader_valid parsed).1
        (Nat.mul_pos (wkbHeader_valid parsed).2.1 (wkbHeader_valid parsed).2.2.1) useNumpy h.nbands 0 61).congr
    (exists_congr fun raw => and_congr rawOf_eq_ok ⟨?_, fun wf => ?_⟩)
  · rintro ⟨h, parsed, fits⟩
    obtain ⟨nbands, width, height⟩ := (wkbHeader_outcome raw).2 h parsed
    rw [nbands, width, height] at fits
    exact ⟨(wkbHeader_outcome raw).1.returns_iff.mp ⟨h, parsed⟩, fits⟩
  · obtain ⟨h, parsed⟩ := (wkbHeader_outcome raw).1.returns_iff.mpr wf.toHeaderWellFormed
    obtain ⟨nbands, width, height⟩ := (wkbHeader_outcome raw).2 h parsed
    exact ⟨h, parsed, by rw [nbands, width, height]; exact wf.bands⟩

/-- `wkbImage` never returns part of an image and raises nothing but `ValueError`: it returns the
declared number of bands, each of the declared height and width, and raises exactly when the
argument does not decode or decodes to a raster the layout does not accept. -/
theorem wkbImage_fails_cleanly :
    ∀ (x : Payload) (useNumpy : Bool),
      (∀ img, wkbImage x useNumpy = .ok img → ∃ raw, x.Encodes raw ∧ img.length = headerField raw 3 5 ∧
        ∀ band ∈ img, band.length = headerField raw 59 61 ∧ ∀ row ∈ band, row.length = headerField raw 57 59) ∧
      (∀ err, wkbImage x useNumpy = .error err → ∃ message, err = .valueError message) ∧
      ((∃ err, wkbImage x useNumpy = .error err) ↔
        (¬ ∃ raw, x.Encodes raw) ∨ ∃ raw, x.Encodes raw ∧ ¬ WellFormedRaster raw) := by
  intro x useNumpy
  have clean := wkbImage_outcome x useNumpy
  refine ⟨fun img returned => ?_, clean.raises, ?_⟩
  · obtain ⟨raw, h, decoded, parsed, count, bands⟩ := wkbImage_returns_every_band x useNumpy img returned
    obtain ⟨nbands, width, height⟩ := (wkbHeader_outcome raw).2 h parsed
    refine ⟨raw, rawOf_eq_ok.mp decoded, count.trans nbands, fun band member => ?_⟩
    rw [← width, ← height]
    exact bands band member
  · rw [raises_iff_not_returns, clean.returns_iff]
    constructor
    · intro none
      by_cases decodes : ∃ raw, x.Encodes raw
      · obtain ⟨raw, decoded⟩ := decodes
        exact .inr ⟨raw, decoded, fun wf => none ⟨raw, decoded, wf⟩⟩
      · exact .inl decodes
    · rintro (nothing | ⟨raw, decoded, bad⟩) ⟨other, decodedOther, wf⟩
      · exact nothing ⟨other, decodedOther⟩
      · exact bad (decoded.unique decodedOther ▸ wf)

end GeoAlchemy2.Raster.Errors
