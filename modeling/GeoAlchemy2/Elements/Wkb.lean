import GeoAlchemy2.Python.Binascii
import GeoAlchemy2.Elements.Ewkb

/-!
`WKBElement`: the constructor, which reads the SRID from an EWKB header when
the caller asks for it or leaves `extended` open, the description, and the
conversions `as_wkb` and `as_ewkb`. A text payload is the SpatiaLite case and
is read as hexadecimal; the conversions keep its representation.
-/

namespace GeoAlchemy2.Elements.Wkb
open GeoAlchemy2.Python GeoAlchemy2.Elements.Spatial GeoAlchemy2.Elements.Ewkb

/-- `536870912`, the SRID bit of an EWKB type word. -/
def SRID_BIT : Nat := 536870912

/-- `3758096383`, every bit of a 32-bit type word but the SRID bit. -/
def SRID_MASK : Nat := 3758096383

/-- A `WKBElement` after `__init__`. -/
structure WKBElement where
  data : Payload
  srid : Int
  extended : Bool
  deriving DecidableEq, Repr

/-- `"<I" if byte_order else ">I"`: a nonzero byte order byte means little-endian. -/
def byteOrderMarker (byteOrder : UInt8) : ByteOrder :=
  if byteOrder = 0 then .big else .little

/-- `int(struct.unpack(marker, wkb_type)[0]) if len(wkb_type) == 4 else 0`. -/
def wkbTypeInt (order : ByteOrder) (wkbType : Bytes) : Nat :=
  if wkbType.length = 4 then order.word wkbType else 0

/-- The header `__init__` reads: `binascii.unhexlify(data[:18])`, or `data[:9]`. -/
def readHeader : Payload → Except PyError Bytes
  | .text s => unhexlify (s.take 18)
  | .binary b => .ok (b.take 9)

/-- The SRID and flag `__init__` stores, from the header, the `srid` argument and the
`extended` argument. -/
def readSrid (header : Bytes) (srid : Int) (extended : Option Bool) : Except PyError (Int × Bool) := do
  let byteOrder ← byteAt header 0
  let order := byteOrderMarker byteOrder
  let typeInt := wkbTypeInt order (pySlice header 1 5)
  let extended := match extended with
    | none => if typeInt = 0 then false else decide (typeInt &&& SRID_BIT ≠ 0)
    | some flag => flag
  if extended = true ∧ srid = -1 then
    let wkbSrid ← unpackUnsigned order 4 (header.drop 5)
    pure (wkbSrid, extended)
  else pure (srid, extended)

/-- `WKBElement(data, srid, extended)`. -/
def WKBElement.init (data : Payload) (srid : Int := -1) (extended : Option Bool := none) :
    Except PyError WKBElement :=
  if srid = -1 ∨ extended = none ∨ extended = some true then do
    let header ← readHeader data
    let (srid, extended) ← readSrid header srid extended
    pure ⟨data, srid, extended⟩
  else pure ⟨data, srid, false⟩

/-- `WKBElement._wkb_to_hex`. -/
def wkbToHex : Payload → Text
  | .text s => lower s
  | .binary b => lower (hexlify b)

/-- `WKBElement.desc`. -/
def WKBElement.desc (e : WKBElement) : Text := wkbToHex e.data

/-- What `__eq__` and `__hash__` compare. -/
def WKBElement.key (e : WKBElement) : SpatialKey := ⟨e.desc, e.srid, e.extended⟩

/-- The byte order byte and `wkb_type` the conversions read: from
`binascii.unhexlify(data[:10])` for text, from `data[0]` and `data[1:5]` for bytes. -/
def readType : Payload → Except PyError (UInt8 × Bytes)
  | .text s => do
    let header ← unhexlify (s.take 10)
    let byteOrder ← byteAt header 0
    pure (byteOrder, pySlice header 1 5)
  | .binary b => do
    let byteOrder ← byteAt b 0
    pure (byteOrder, pySlice b 1 5)

/-- `WKBElement.as_wkb`. -/
def WKBElement.asWkb (e : WKBElement) : Except PyError WKBElement :=
  if e.extended then do
    let (byteOrder, wkbType) ← readType e.data
    let order := byteOrderMarker byteOrder
    let typeInt := wkbTypeInt order wkbType &&& SRID_MASK
    let data ← match e.data with
      | .text s => do
        let typeBytes ← toBytes typeInt 4 order
        pure (Payload.text (s.take 2 ++ hexlify typeBytes ++ s.drop 18))
      | .binary b => do
        let typeBytes ← packUInt32 order typeInt
        pure (Payload.binary (b.take 1 ++ typeBytes ++ b.drop 9))
    WKBElement.init data e.srid (some false)
  else WKBElement.init e.data e.srid

/-- `WKBElement.as_ewkb`. -/
def WKBElement.asEwkb (e : WKBElement) : Except PyError WKBElement :=
  if e.extended = false ∧ e.srid ≠ -1 then do
    let (byteOrder, wkbType) ← readType e.data
    let order := byteOrderMarker byteOrder
    let typeInt := wkbTypeInt order wkbType ||| SRID_BIT
    let data ← match e.data with
      | .text s => do
        let typeBytes ← toBytes typeInt 4 order
        let sridBytes ← toBytes e.srid 4 order
        pure (Payload.text (s.take 2 ++ hexlify typeBytes ++ hexlify sridBytes ++ s.drop 10))
      | .binary b => do
        let typeBytes ← packUInt32 order typeInt
        let sridBytes ← packUInt32 order e.srid
        pure (Payload.binary (b.take 1 ++ typeBytes ++ sridBytes ++ b.drop 5))
    WKBElement.init data e.srid (some true)
  else WKBElement.init e.data e.srid

/-! ## Headers -/

/-- The first `n` bytes of a payload, decoded from hexadecimal for text. -/
def payloadPrefix : Payload → Nat → Except PyError Bytes
  | .text s, n => unhexlify (s.take (2 * n))
  | .binary b, n => .ok (b.take n)

theorem readHeader_eq (data : Payload) : readHeader data = payloadPrefix data 9 := by
  cases data <;> rfl

theorem payloadPrefix_take {data : Payload} {n m : Nat} {header : Bytes} (read : payloadPrefix data n = .ok header)
    (shorter : m ≤ n) : payloadPrefix data m = .ok (header.take m) := by
  cases data with
  | text s =>
    have cut := (unhexlify_eq_ok.mp read).take m
    rw [List.take_take, Nat.min_eq_left (by omega)] at cut
    exact unhexlify_eq_ok.mpr cut
  | binary b =>
    cases read
    simp only [payloadPrefix, List.take_take, Nat.min_eq_left shorter]

theorem payloadPrefix_unique {data : Payload} {n : Nat} {header header' : Bytes}
    (read : payloadPrefix data n = .ok header) (read' : payloadPrefix data n = .ok header') : header = header' :=
  Except.ok.inj (read.symm.trans read')

theorem byteOrderMarker_eq : byteOrderMarker = byteOrderOf := rfl

theorem wkbTypeInt_eq_typeWord (order : UInt8) (rest : Bytes) :
    wkbTypeInt (byteOrderOf order) (pySlice (order :: rest) 1 5) = typeWord (order :: rest) := by
  simp only [wkbTypeInt, typeWord, pySlice, List.drop_succ_cons, List.drop_zero, List.length_take,
    List.length_cons, declaredOrder_cons]
  by_cases long : 4 ≤ rest.length
  · rw [if_pos (by omega), if_pos (by omega)]
  · rw [if_neg (by omega), if_neg (by omega)]

theorem resolved_flag (word : Nat) :
    (if word = 0 then false else decide (word &&& SRID_BIT ≠ 0)) = decide (word &&& 0x20000000 ≠ 0) := by
  split
  · subst word
    rfl
  · rfl

theorem readSrid_cons (order : UInt8) (rest : Bytes) (srid : Int) (extended : Option Bool) :
    readSrid (order :: rest) srid extended =
      if extended.getD (hasSrid (order :: rest)) = true ∧ srid = -1 then do
        let wkbSrid ← unpackUnsigned (byteOrderOf order) 4 (rest.drop 4)
        pure ((wkbSrid : Int), extended.getD (hasSrid (order :: rest)))
      else .ok (srid, extended.getD (hasSrid (order :: rest))) := by
  have flag : (match extended with
      | none => if wkbTypeInt (byteOrderOf order) (pySlice (order :: rest) 1 5) = 0 then false
          else decide (wkbTypeInt (byteOrderOf order) (pySlice (order :: rest) 1 5) &&& SRID_BIT ≠ 0)
      | some flag => flag) = extended.getD (hasSrid (order :: rest)) := by
    cases extended
    · simp only [Option.getD, resolved_flag, wkbTypeInt_eq_typeWord, hasSrid]
    · rfl
  simp only [readSrid, byteAt_cons_zero, ok_bind, byteOrderMarker_eq, flag]
  rfl

theorem embeddedSrid_of_length {order : UInt8} {rest : Bytes} (eight : rest.length = 8) :
    embeddedSrid (order :: rest) = (byteOrderOf order).word (rest.drop 4) := by
  simp only [embeddedSrid, pySlice, declaredOrder_cons, List.drop_succ_cons, List.drop_zero]
  rw [List.take_of_length_le (by simp [eight])]

/-- What `__init__` stores from a header, stated once: the flag is the `extended` argument or else
the header's SRID bit, and the SRID is read from bytes 5-8 exactly when that flag is set and no SRID
was given. -/
theorem readSrid_eq_ok {header : Bytes} {srid : Int} {extended : Option Bool} {stored : Int × Bool} :
    readSrid header srid extended = .ok stored ↔
      header ≠ [] ∧ stored.2 = extended.getD (hasSrid header) ∧
        if stored.2 = true ∧ srid = -1 then header.length = 9 ∧ stored.1 = embeddedSrid header
        else stored.1 = srid := by
  cases header with
  | nil => simp [readSrid]
  | cons order rest =>
    rw [readSrid_cons]
    obtain ⟨stored, storedFlag⟩ := stored
    by_cases read : extended.getD (hasSrid (order :: rest)) = true ∧ srid = -1
    · rw [if_pos read, bind_eq_ok]
      by_cases eight : rest.length = 8
      · simp only [unpackUnsigned, List.length_drop, eight, embeddedSrid_of_length eight]
        constructor
        · rintro ⟨w, found, same⟩
          simp only [show 8 - 4 = 4 from rfl, if_true] at found
          cases found
          cases same
          simp [read, eight]
        · rintro ⟨-, flagIs, fields⟩
          subst flagIs
          simp only [if_pos read] at fields
          exact ⟨_, rfl, by rw [fields.2]; rfl⟩
      · have short : ¬ (rest.drop 4).length = 4 := by simp; omega
        simp only [unpackUnsigned, short, if_false]
        constructor
        · rintro ⟨_, found, _⟩
          cases found
        · rintro ⟨-, flagIs, fields⟩
          subst flagIs
          simp only [if_pos read, List.length_cons] at fields
          omega
    · rw [if_neg read]
      constructor
      · intro found
        cases found
        simp [read]
      · rintro ⟨-, flagIs, fields⟩
        simp only at flagIs fields
        subst flagIs
        rw [if_neg read] at fields
        rw [fields]

/-- `__init__`, stated once: with an SRID given and `extended=False` it stores its arguments;
otherwise it stores what `readSrid` makes of the payload's first nine bytes. -/
theorem init_eq_ok {data : Payload} {srid : Int} {extended : Option Bool} {e : WKBElement} :
    WKBElement.init data srid extended = .ok e ↔ e.data = data ∧
      if srid = -1 ∨ extended = none ∨ extended = some true then
        ∃ header, payloadPrefix data 9 = .ok header ∧ readSrid header srid extended = .ok (e.srid, e.extended)
      else e.srid = srid ∧ e.extended = false := by
  obtain ⟨eData, eSrid, eExtended⟩ := e
  unfold WKBElement.init
  split
  · next parse =>
    simp only [if_pos parse, bind_eq_ok, readHeader_eq]
    constructor
    · rintro ⟨header, found, ⟨storedSrid, storedFlag⟩, read, made⟩
      cases made
      exact ⟨rfl, header, found, read⟩
    · rintro ⟨rfl, header, found, read⟩
      exact ⟨header, found, _, read, rfl⟩
  · next given =>
    simp only [if_neg given]
    constructor
    · intro made
      cases made
      exact ⟨rfl, rfl, rfl⟩
    · rintro ⟨rfl, rfl, rfl⟩
      rfl

/-! ## Conversions -/

theorem readType_eq (data : Payload) : readType data = (do
    let header ← payloadPrefix data 5
    let byteOrder ← byteAt header 0
    pure (byteOrder, pySlice header 1 5)) := by
  cases data with
  | text s => rfl
  | binary b =>
    cases b with
    | nil => rfl
    | cons x rest => simp [readType, payloadPrefix, pySlice, List.take_take]

/-- The payload the conversions write: byte 0 (two digits of text), the bytes `middle`, and the
payload from byte `resume` on, in the payload's own representation. `as_wkb` writes the cleared
type word and resumes at byte 9; `as_ewkb` writes the flagged type word and the SRID and resumes
at byte 5. -/
def splicePayload : Payload → Bytes → Nat → Payload
  | .text s, middle, resume => .text (s.take 2 ++ hexlify middle ++ s.drop (2 * resume))
  | .binary b, middle, resume => .binary (b.take 1 ++ middle ++ b.drop resume)

theorem wkbTypeInt_lt (order : ByteOrder) (wkbType : Bytes) : wkbTypeInt order wkbType < 2 ^ 32 := by
  unfold wkbTypeInt
  split
  · next four => simpa [four] using order.word_lt wkbType
  · decide

theorem clearedType (x : UInt8) (rest : Bytes) :
    wkbTypeInt (byteOrderOf x) (pySlice (x :: rest) 1 5) &&& SRID_MASK = clearSridBit (typeWord (x :: rest)) := by
  rw [wkbTypeInt_eq_typeWord]
  rfl

theorem setType (x : UInt8) (rest : Bytes) :
    wkbTypeInt (byteOrderOf x) (pySlice (x :: rest) 1 5) ||| SRID_BIT = setSridBit (typeWord (x :: rest)) := by
  rw [wkbTypeInt_eq_typeWord]
  rfl

/-- `as_wkb` on an extended element: it reads the first five bytes and rebuilds the payload without
bytes 5-8, whatever the SRID bit says. -/
theorem asWkb_extended (data : Payload) (srid : Int) : (⟨data, srid, true⟩ : WKBElement).asWkb = (do
    let header ← payloadPrefix data 5
    let _ ← byteAt header 0
    WKBElement.init (splicePayload data ((declaredOrder header).pack 4 (clearSridBit (typeWord header))) 9)
      srid (some false)) := by
  simp only [WKBElement.asWkb, if_true, readType_eq]
  cases payloadPrefix data 5 with
  | error => rfl
  | ok header =>
    cases header with
    | nil => rfl
    | cons x rest =>
      have packed := @packUInt32_of_nat (byteOrderOf x) _ (clearSridBit_lt (typeWord (x :: rest)))
      cases data
      all_goals
        simp only [ok_bind, byteAt_cons_zero]
        rw [pure_eq_ok, ok_bind]
        dsimp only
        rw [byteOrderMarker_eq, clearedType]
      · rw [packed.2, ok_bind, pure_eq_ok, ok_bind]
        rfl
      · rw [packed.1, ok_bind, pure_eq_ok, ok_bind]
        rfl

/-- `as_ewkb` on a plain element with an SRID in range: it reads the first five bytes and rebuilds
the payload with the SRID bit set and the SRID after the type word, whatever the SRID bit says. -/
theorem asEwkb_plain (data : Payload) {srid : Int} (known : srid ≠ -1) (fits : 0 ≤ srid ∧ srid < 2 ^ 32) :
    (⟨data, srid, false⟩ : WKBElement).asEwkb = (do
      let header ← payloadPrefix data 5
      let _ ← byteAt header 0
      WKBElement.init (splicePayload data
        ((declaredOrder header).pack 4 (setSridBit (typeWord header)) ++ (declaredOrder header).pack 4 srid.toNat) 5)
        srid (some true)) := by
  rw [WKBElement.asEwkb, if_pos (And.intro rfl known)]
  simp only [readType_eq]
  cases payloadPrefix data 5 with
  | error => rfl
  | ok header =>
    cases header with
    | nil => rfl
    | cons x rest =>
      have packedType := @packUInt32_of_nat (byteOrderOf x) _ (setSridBit_lt (typeWord_lt (x :: rest)))
      have packedSrid := @packUInt32_of_range (byteOrderOf x) srid fits.1 fits.2
      cases data
      all_goals
        simp only [ok_bind, byteAt_cons_zero]
        rw [pure_eq_ok, ok_bind]
        dsimp only
        rw [byteOrderMarker_eq, setType]
      · rw [packedType.2, ok_bind, packedSrid.2, ok_bind, pure_eq_ok, ok_bind]
        simp only [splicePayload, declaredOrder_cons, hexlify_append, List.append_assoc]
      · rw [packedType.1, ok_bind, packedSrid.1, ok_bind, pure_eq_ok, ok_bind]
        simp only [splicePayload, declaredOrder_cons, List.append_assoc]

/-- An SRID outside `[0, 2^32)` makes `as_ewkb` raise (`OverflowError` for text, `struct.error` for bytes). -/
theorem asEwkb_out_of_range (data : Payload) {srid : Int} (known : srid ≠ -1)
    (outside : ¬ (0 ≤ srid ∧ srid < 2 ^ 32)) (e : WKBElement) :
    (⟨data, srid, false⟩ : WKBElement).asEwkb ≠ .ok e := by
  intro made
  rw [WKBElement.asEwkb, if_pos (And.intro rfl known)] at made
  simp only [readType_eq, bind_eq_ok] at made
  obtain ⟨⟨x, typeBytes⟩, -, converted⟩ := made
  obtain ⟨⟨packError, packFails⟩, ⟨toBytesError, toBytesFails⟩⟩ :=
    @packUInt32_out_of_range (byteOrderMarker x) srid outside
  have packedType := @packUInt32_of_nat (byteOrderMarker x) _
    (Nat.or_lt_two_pow (wkbTypeInt_lt (byteOrderMarker x) typeBytes) (by decide : SRID_BIT < 2 ^ 32))
  cases data <;> simp [packFails, toBytesFails, packedType] at converted

theorem asWkb_plain (data : Payload) (srid : Int) :
    (⟨data, srid, false⟩ : WKBElement).asWkb = WKBElement.init data srid := rfl

theorem asEwkb_keep {e : WKBElement} (keep : e.extended = true ∨ e.srid = -1) :
    e.asEwkb = WKBElement.init e.data e.srid := by
  rw [WKBElement.asEwkb, if_neg]
  rintro ⟨plain, known⟩
  cases keep <;> simp_all

theorem init_given {data : Payload} {srid : Int} {flag : Bool} {e : WKBElement} (known : srid ≠ -1)
    (made : WKBElement.init data srid (some flag) = .ok e) : e.data = data ∧ e.srid = srid ∧ e.extended = flag := by
  obtain ⟨same, stored⟩ := init_eq_ok.mp made
  split at stored
  · obtain ⟨header, -, read⟩ := stored
    obtain ⟨-, flagIs, sridIs⟩ := readSrid_eq_ok.mp read
    simp only [known, and_false, if_false] at sridIs
    exact ⟨same, sridIs, flagIs⟩
  · next given =>
    cases flag
    · exact ⟨same, stored⟩
    · simp at given

theorem init_given_true {data : Payload} {srid : Int} {header : Bytes} (known : srid ≠ -1)
    (read : payloadPrefix data 9 = .ok header) (nonempty : header ≠ []) :
    WKBElement.init data srid (some true) = .ok ⟨data, srid, true⟩ := by
  refine init_eq_ok.mpr ⟨rfl, ?_⟩
  rw [if_pos (Or.inr (Or.inr rfl))]
  exact ⟨header, read, readSrid_eq_ok.mpr ⟨nonempty, rfl, by simp [known]⟩⟩

/-! ## Payloads holding a whole buffer -/

theorem payloadPrefix_of_encodes {data : Payload} {b : Bytes} (holds : data.Encodes b) (n : Nat) :
    payloadPrefix data n = .ok (b.take n) := by
  cases data with
  | text s => exact unhexlify_eq_ok.mpr (holds.take n)
  | binary x =>
    cases holds
    rfl

theorem init_given_false {data : Payload} {b : Bytes} (holds : data.Encodes b) (nonempty : b ≠ [])
    (srid : Int) : WKBElement.init data srid (some false) = .ok ⟨data, srid, false⟩ := by
  refine init_eq_ok.mpr ⟨rfl, ?_⟩
  split
  · refine ⟨b.take 9, payloadPrefix_of_encodes holds 9, readSrid_eq_ok.mpr ⟨?_, rfl, by simp⟩⟩
    obtain ⟨x, rest, rfl⟩ := List.exists_cons_of_ne_nil nonempty
    simp
  · exact ⟨rfl, rfl⟩

theorem wkbToHex_of_encodes {data : Payload} {b : Bytes} (holds : data.Encodes b) :
    wkbToHex data = hexlify b := by
  cases data with
  | text s => exact holds.lower_eq
  | binary x =>
    cases holds
    exact (hexOf_hexlify _).lower_eq

theorem hexOf_splice {s : Text} {b : Bytes} (hex : HexOf s b) (middle : Bytes) (resume : Nat) :
    HexOf (s.take 2 ++ hexlify middle ++ s.drop (2 * resume)) (b.take 1 ++ middle ++ b.drop resume) :=
  ((hex.take 1).append (hexOf_hexlify middle)).append (hex.drop resume)

theorem splicePayload_encodes {data : Payload} {b : Bytes} (holds : data.Encodes b) (middle : Bytes)
    (resume : Nat) : (splicePayload data middle resume).Encodes (b.take 1 ++ middle ++ b.drop resume) := by
  cases data with
  | text s => exact hexOf_splice holds middle resume
  | binary x =>
    cases holds
    rfl

theorem payloadPrefix_splicePayload {data : Payload} {x : UInt8} (first : payloadPrefix data 1 = .ok [x])
    (middle : Bytes) (resume : Nat) :
    payloadPrefix (splicePayload data middle resume) (1 + middle.length) = .ok (x :: middle) := by
  cases data with
  | text s =>
    have byte := unhexlify_eq_ok.mp first
    have two : (s.take 2 ++ hexlify middle).length = 2 * (1 + middle.length) := by
      rw [List.length_append, byte.length, length_hexlify]
      simp only [List.length_singleton]
      omega
    exact unhexlify_eq_ok.mpr (by rw [List.take_left' two]; exact byte.append (hexOf_hexlify middle))
  | binary b =>
    have byte : b.take 1 = [x] := Except.ok.inj first
    simp only [payloadPrefix, splicePayload, byte]
    rw [List.take_left' (by simp; omega)]
    rfl

@[simp] theorem isText_splicePayload (data : Payload) (middle : Bytes) (resume : Nat) :
    (splicePayload data middle resume).isText = data.isText := by
  cases data <;> rfl

/-- `__init__` on a payload holding at least nine bytes never raises: the flag is the `extended`
argument, or the SRID bit when it is omitted, and the SRID is read from bytes 5-8 exactly when that
flag is set and no SRID was given. -/
theorem init_of_encodes {data : Payload} {b : Bytes} (holds : data.Encodes b) (long : 9 ≤ b.length)
    (srid : Int) (extended : Option Bool) :
    WKBElement.init data srid extended = .ok ⟨data,
      if extended.getD (hasSrid b) = true ∧ srid = -1 then embeddedSrid b else srid,
      extended.getD (hasSrid b)⟩ := by
  refine init_eq_ok.mpr ⟨rfl, ?_⟩
  split
  · refine ⟨b.take 9, payloadPrefix_of_encodes holds 9, readSrid_eq_ok.mpr ⟨?_, ?_, ?_⟩⟩
    · exact List.ne_nil_of_length_pos (by simp; omega)
    · simp only [hasSrid_take (by omega : 5 ≤ 9)]
    · dsimp only
      split
      · exact ⟨by simp; omega, by rw [embeddedSrid_take (le_refl 9)]⟩
      · rfl
  · next given =>
    have plain : srid ≠ -1 ∧ extended = some false := by
      cases extended with
      | none => simp at given
      | some flag => cases flag <;> simp_all
    obtain ⟨known, rfl⟩ := plain
    simp [known]

theorem init_of_hasSrid {data : Payload} {c : Bytes} (holds : data.Encodes c) (long : 9 ≤ c.length)
    (set : hasSrid c = true) : WKBElement.init data = .ok ⟨data, embeddedSrid c, true⟩ := by
  simpa [set] using init_of_encodes holds long (-1) none

end GeoAlchemy2.Elements.Wkb
