import GeoAlchemy2.Elements.Wkb
import GeoAlchemy2.Elements.Wkt
import GeoAlchemy2.Elements.Raster

/-!
Pickling. `__getstate__` keeps the SRID, `str(self)` (the description) and the
flag; `__setstate__` puts the SRID and the flag back and rebuilds the data from
the description with the class's `_data_from_desc`, without running
`__init__`. For WKT and raster elements the description is the data; a
`WKBElement` encodes it as UTF-8 and decodes that from hexadecimal, so its state
restores exactly when its description is hexadecimal, which the constructor does
not check, and raises `binascii.Error` otherwise. (A description with a lone
surrogate, which `str` can hold but the model's text cannot, would raise
`UnicodeEncodeError` in the encoding instead.)
-/

namespace GeoAlchemy2.Elements.Pickle
open GeoAlchemy2.Python GeoAlchemy2.Elements.Spatial GeoAlchemy2.Elements.Wkb GeoAlchemy2.Elements.Wkt
open GeoAlchemy2.Elements.Raster

/-- The dictionary `__getstate__` returns. -/
structure PickleState where
  srid : Int
  data : Text
  extended : Bool
  deriving DecidableEq, Repr

/-- `_SpatialElement.__getstate__`, from what `__eq__` reads: `str(self)` is the description. -/
def getstate (key : SpatialKey) : PickleState := ⟨key.srid, key.desc, key.extended⟩

/-- `_SpatialElement.__setstate__`: the SRID, the flag, and the data `_data_from_desc` rebuilds. -/
def setstate {D : Type} (dataFromDesc : Text → Except PyError D) (state : PickleState) :
    Except PyError (D × Int × Bool) := do
  let data ← dataFromDesc state.data
  pure (data, state.srid, state.extended)

/-- `desc.encode(encoding="utf-8")`. -/
def encodeUtf8 (s : Text) : Bytes := s.flatMap String.utf8EncodeChar

/-- `WKBElement._data_from_desc`. -/
def wkbDataFromDesc (desc : Text) : Except PyError Bytes := unhexlifyBytes (encodeUtf8 desc)

/-- `WKTElement._data_from_desc` and `RasterElement._data_from_desc`: the description itself. -/
def textDataFromDesc (desc : Text) : Except PyError Text := .ok desc

/-- `pickle.loads(pickle.dumps(e))` for a `WKTElement`. -/
def WKTElement.restore (e : WKTElement) : Except PyError WKTElement := do
  let (data, srid, extended) ← setstate textDataFromDesc (getstate e.key)
  pure ⟨data, srid, extended⟩

/-- `pickle.loads(pickle.dumps(e))` for a `RasterElement`. -/
def RasterElement.restore (e : RasterElement) : Except PyError RasterElement := do
  let (data, srid, extended) ← setstate textDataFromDesc (getstate e.key)
  pure ⟨data, srid, extended⟩

/-- `pickle.loads(pickle.dumps(e))` for a `WKBElement`: the data comes back as `bytes`. -/
def WKBElement.restore (e : WKBElement) : Except PyError WKBElement := do
  let (data, srid, extended) ← setstate wkbDataFromDesc (getstate e.key)
  pure ⟨.binary data, srid, extended⟩

/-! ## UTF-8 and hexadecimal -/

theorem le_toNat_or (y m : UInt8) : m.toNat ≤ (y ||| m).toNat := by
  show m.toBitVec.toNat ≤ (y.toBitVec ||| m.toBitVec).toNat
  rw [BitVec.toNat_or]
  exact Nat.le_of_testBit fun i bit => by simp [bit]

theorem utf8EncodeChar_high {c : Char} (high : 128 ≤ c.toNat) :
    ∃ x ∈ String.utf8EncodeChar c, 128 ≤ x.toNat := by
  have large : ¬ c.val ≤ 0x7f := by
    rw [UInt32.le_def, BitVec.le_def]
    exact Nat.not_le.mpr high
  unfold String.utf8EncodeChar
  simp only [if_neg large]
  split_ifs <;> exact ⟨_, List.mem_cons_self _ _, le_trans (by decide) (le_toNat_or _ _)⟩

theorem utf8EncodeChar_ascii {c : Char} (ascii : c.toNat < 128) :
    (String.utf8EncodeChar c).map (fun x => Char.ofNat x.toNat) = [c] := by
  have small : c.val ≤ 0x7f := by
    rw [UInt32.le_def, BitVec.le_def]
    exact Nat.le_of_lt_succ ascii
  simp only [String.utf8EncodeChar, if_pos small, List.map_cons, List.map_nil, List.cons.injEq, and_true]
  show Char.ofNat (UInt8.ofNat c.toNat).toNat = c
  rw [toNat_ofNat_byte, Nat.mod_eq_of_lt (by omega), Char.ofNat_toNat]

/-- `WKBElement._data_from_desc` accepts exactly the hexadecimal descriptions. -/
theorem wkbDataFromDesc_eq_ok {desc : Text} {bytes : Bytes} :
    wkbDataFromDesc desc = .ok bytes ↔ HexOf desc bytes := by
  rw [wkbDataFromDesc, unhexlifyBytes_eq_ok]
  by_cases ascii : ∀ c ∈ desc, c.toNat < 128
  · suffices mapped : (encodeUtf8 desc).map (fun x => Char.ofNat x.toNat) = desc by rw [mapped]
    induction desc with
    | nil => rfl
    | cons c rest ih =>
      rw [encodeUtf8, List.flatMap_cons, List.map_append, utf8EncodeChar_ascii (ascii c (List.mem_cons_self c rest))]
      exact congrArg (c :: ·) (ih fun d member => ascii d (List.mem_cons_of_mem c member))
  · obtain ⟨c, member, high⟩ : ∃ c ∈ desc, 128 ≤ c.toNat := by
      simpa only [not_forall, Nat.not_lt, exists_prop] using ascii
    obtain ⟨x, inChar, xHigh⟩ := utf8EncodeChar_high high
    have encoded : Char.ofNat x.toNat ∈ (encodeUtf8 desc).map (fun x => Char.ofNat x.toNat) :=
      List.mem_map_of_mem _ (List.mem_flatMap.mpr ⟨c, member, inChar⟩)
    have readBack : 128 ≤ (Char.ofNat x.toNat).toNat := by
      rw [toNat_ofNat_char (by have : x.toNat < 2 ^ 8 := x.toBitVec.isLt; omega)]
      exact xHigh
    constructor
    · intro hex
      exact absurd (List.any_eq_false.mp hex.ascii _ encoded) (by simpa using readBack)
    · intro hex
      exact absurd (List.any_eq_false.mp hex.ascii _ member) (by simpa using high)

/-! ## Restoring -/

theorem WKTElement.restore_eq (e : WKTElement) : WKTElement.restore e = .ok e := rfl

theorem RasterElement.restore_eq (e : RasterElement) : RasterElement.restore e = .ok e := rfl

theorem WKBElement.restore_eq_ok {e r : WKBElement} :
    WKBElement.restore e = .ok r ↔ ∃ bytes, HexOf e.desc bytes ∧ r = ⟨.binary bytes, e.srid, e.extended⟩ := by
  simp only [WKBElement.restore, setstate, getstate, WKBElement.key, bind_eq_ok, pure_eq_ok, Except.ok.injEq]
  constructor
  · rintro ⟨⟨bytes, srid, extended⟩, ⟨bytes', decoded, same⟩, rfl⟩
    cases same
    exact ⟨bytes, wkbDataFromDesc_eq_ok.mp decoded, rfl⟩
  · rintro ⟨bytes, hex, rfl⟩
    exact ⟨_, ⟨bytes, wkbDataFromDesc_eq_ok.mpr hex, rfl⟩, rfl⟩

theorem WKBElement.restore_raises {e : WKBElement} {err : PyError} (raised : WKBElement.restore e = .error err) :
    ∃ message, err = .binasciiError message := by
  simp only [WKBElement.restore, setstate, getstate, WKBElement.key] at raised
  cases decoded : wkbDataFromDesc e.desc <;> simp [decoded] at raised
  exact raised ▸ unhexlifyBytes_raises decoded

theorem lower_wkbToHex (data : Payload) : lower (wkbToHex data) = wkbToHex data := by
  cases data <;> exact lower_lower _

theorem WKBElement.restore_key {e r : WKBElement} (restored : WKBElement.restore e = .ok r) : r.key = e.key := by
  obtain ⟨bytes, hex, rfl⟩ := WKBElement.restore_eq_ok.mp restored
  have lowered := hex.lower_eq
  rw [WKBElement.desc, lower_wkbToHex] at lowered
  show (⟨wkbToHex (.binary bytes), e.srid, e.extended⟩ : SpatialKey) = ⟨wkbToHex e.data, e.srid, e.extended⟩
  rw [lowered, wkbToHex, (hexOf_hexlify bytes).lower_eq]

/-- Pickling restores every WKT and raster element and every WKB element whose description is
hexadecimal, bytes data always among them, and raises `binascii.Error` for any other WKB element;
construction checks hexadecimal only in the header it reads, and not at all for WKB text with an
SRID given and `extended=False`. -/
theorem pickle_restores_where_desc_is_hex :
    (∀ e : WKTElement, WKTElement.restore e = .ok e) ∧
    (∀ e : RasterElement, RasterElement.restore e = .ok e) ∧
    (∀ e r : WKBElement, WKBElement.restore e = .ok r ↔
      ∃ bytes, HexOf e.desc bytes ∧ r = ⟨.binary bytes, e.srid, e.extended⟩) ∧
    (∀ e r : WKBElement, WKBElement.restore e = .ok r → r.key = e.key) ∧
    (∀ (e : WKBElement) (err : PyError), WKBElement.restore e = .error err → ∃ message, err = .binasciiError message) ∧
    (∀ (b : Bytes) (srid : Int) (extended : Bool),
      WKBElement.restore ⟨.binary b, srid, extended⟩ = .ok ⟨.binary b, srid, extended⟩) ∧
    (∀ (s : Text) (srid : Int) (extended : Option Bool) (e : WKBElement),
      WKBElement.init (.text s) srid extended = .ok e →
        (srid ≠ -1 ∧ extended = some false) ∨ ∃ bytes, HexOf (s.take 18) bytes) ∧
    (∀ (s : Text) (e : RasterElement), RasterElement.init (.text s) = .ok e →
      e.data = s ∧ ∃ bytes, HexOf (s.take 122) bytes) := by
  refine ⟨WKTElement.restore_eq, RasterElement.restore_eq, fun e r => WKBElement.restore_eq_ok,
    fun e r => WKBElement.restore_key, fun e err => WKBElement.restore_raises, fun b srid extended => ?_,
    fun s srid extended e made => ?_,
    fun s e made => ?_⟩
  · have hex : HexOf (WKBElement.desc ⟨.binary b, srid, extended⟩) b := by
      simpa only [WKBElement.desc, wkbToHex, (hexOf_hexlify b).lower_eq] using hexOf_hexlify b
    exact WKBElement.restore_eq_ok.mpr ⟨b, hex, rfl⟩
  · obtain ⟨-, fields⟩ := Wkb.init_eq_ok.mp made
    split_ifs at fields with parse
    · obtain ⟨header, read, -⟩ := fields
      exact .inr ⟨header, unhexlify_eq_ok.mp read⟩
    · refine .inl ⟨fun omitted => parse (.inl omitted), ?_⟩
      cases extended with
      | none => exact absurd (.inr (.inl rfl)) parse
      | some flag =>
        cases flag
        · rfl
        · exact absurd (.inr (.inr rfl)) parse
  · obtain ⟨⟨binData, stored⟩, read, rest⟩ := bind_eq_ok.mp made
    obtain ⟨hex, rfl⟩ := readRasterHeader_text_eq_ok read
    obtain ⟨srid, -, built⟩ := bind_eq_ok.mp rest
    cases built
    exact ⟨rfl, binData, hex⟩

/-- Uppercase hexadecimal text of a point comes back from pickling as the point's bytes, with its SRID
and flag. -/
theorem hex_point_restores_as_bytes :
    WKBElement.restore ⟨.text "0101000000000000000000F03F0000000000000040".toList, 4326, false⟩ =
      .ok ⟨.binary [1, 1, 0, 0, 0, 0, 0, 0, 0, 0, 0, 0xF0, 0x3F, 0, 0, 0, 0, 0, 0, 0, 0x40], 4326, false⟩ :=
  (pickle_restores_where_desc_is_hex.2.2.1 _ _).mpr
    ⟨[1, 1, 0, 0, 0, 0, 0, 0, 0, 0, 0, 0xF0, 0x3F, 0, 0, 0, 0, 0, 0, 0, 0x40], unhexlify_eq_ok.mp rfl, rfl⟩

set_option maxRecDepth 4000 in
/-- `WKBElement("zz", 4326, False)` is built without reading its text and cannot be restored, and
`RasterElement` accepts a valid header followed by `zz`. -/
theorem unchecked_hex_accepted :
    WKBElement.init (.text "zz".toList) 4326 (some false) = .ok ⟨.text "zz".toList, 4326, false⟩ ∧
    WKBElement.restore ⟨.text "zz".toList, 4326, false⟩ = .error (.binasciiError "Non-hexadecimal digit found") ∧
    RasterElement.init (.text ("01".toList ++ List.replicate 120 '0' ++ "zz".toList)) =
      .ok ⟨"01".toList ++ List.replicate 120 '0' ++ "zz".toList, 0, true⟩ :=
  ⟨rfl, rfl, rfl⟩

end GeoAlchemy2.Elements.Pickle
