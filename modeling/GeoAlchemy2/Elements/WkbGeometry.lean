import GeoAlchemy2.Elements.WkbLaws
import GeoAlchemy2.Elements.WkbRuns
import GeoAlchemy2.Elements.Pickle

/-!
What a run of conversions keeps. Start from `WKBElement(data)` with `data` holding a whole
buffer (bytes, or hexadecimal text) and apply `as_wkb` and `as_ewkb` in any order. Every element
of the run keeps the payload's representation and the SRID, and it holds a buffer with the
original geometry, which is the buffer with any SRID stripped. So two elements of the run with the
same flag compare equal. Neither conversion raises, a conversion applied a second time gives
its result back, and every element of the run survives pickling.
-/

namespace GeoAlchemy2.Elements.WkbGeometry
open GeoAlchemy2.Python GeoAlchemy2.Elements.Ewkb GeoAlchemy2.Elements.Wkb GeoAlchemy2.Elements.WkbLaws
  GeoAlchemy2.Elements.WkbRuns

/-- One conversion, `e.as_wkb()` or `e.as_ewkb()`, where it returns. -/
def Converts (e e' : WKBElement) : Prop := e.asWkb = .ok e' ∨ e.asEwkb = .ok e'

/-- What `Consistent` says of an element holding a whole buffer. -/
theorem consistent_buffer {e : WKBElement} {b : Bytes} (consistent : Consistent e) (holds : e.data.Encodes b) :
    hasSrid b = e.extended ∧ (e.extended = true → 9 ≤ b.length ∧ e.srid = embeddedSrid b) := by
  obtain ⟨header, read, flagIs⟩ := consistent.flag
  rw [payloadPrefix_of_encodes holds] at read
  cases read
  refine ⟨by rw [flagIs, hasSrid_take (le_refl 5)], fun set => ?_⟩
  obtain ⟨header, read, long, sridIs⟩ := consistent.srid set
  rw [payloadPrefix_of_encodes holds] at read
  cases read
  rw [embeddedSrid_take (le_refl 9)] at sridIs
  exact ⟨by simpa using long, sridIs⟩

/-- `WKBElement(e.data, e.srid)` rebuilds a consistent element holding a whole buffer. -/
theorem init_rebuilds {e : WKBElement} {b : Bytes} (consistent : Consistent e) (holds : e.data.Encodes b)
    (nonempty : b ≠ []) : WKBElement.init e.data e.srid = .ok e := by
  obtain ⟨flagIs, stored⟩ := consistent_buffer consistent holds
  refine init_eq_ok.mpr ⟨rfl, ?_⟩
  rw [if_pos (Or.inr (Or.inl rfl))]
  refine ⟨b.take 9, payloadPrefix_of_encodes holds 9, readSrid_eq_ok.mpr ⟨by simpa using nonempty, ?_, ?_⟩⟩
  · rw [Option.getD_none, hasSrid_take (by omega), flagIs]
  · rw [if_neg fun ⟨set, omitted⟩ => by have := (stored set).2; omega]

/-! ## The invariant -/

section Conserved
variable {isText : Bool} {srid : Int} {geometry : Bytes} {e : WKBElement}

/-- What a run keeps: the element is consistent, with the given representation and an SRID that
`struct` can pack, and holds a nonempty buffer with the given geometry, which has a full type word
whenever the SRID is known. -/
structure Conserved (isText : Bool) (srid : Int) (geometry : Bytes) (e : WKBElement) : Prop where
  consistent : Consistent e
  representation : e.data.isText = isText
  sameSrid : e.srid = srid
  sridFits : srid = -1 ∨ 0 ≤ srid ∧ srid < 2 ^ 32
  buffer : ∃ b, e.data.Encodes b ∧ b ≠ [] ∧ (srid ≠ -1 → 5 ≤ b.length) ∧ stripSrid b = geometry

/-- `WKBElement(data)` on a payload holding a whole buffer starts a run: its SRID is `-1`, or the
unsigned one that bytes 5-8 of a full header embed. -/
theorem conserved_init {origin : Payload} {b0 : Bytes} {first : WKBElement} (holds : origin.Encodes b0)
    (made : WKBElement.init origin = .ok first) : Conserved origin.isText first.srid (stripSrid b0) first := by
  have consistent := consistent_of_init made fun omitted => absurd rfl omitted
  obtain ⟨same, stored⟩ := init_eq_ok.mp made
  rw [if_pos (Or.inr (Or.inl rfl)), payloadPrefix_of_encodes holds] at stored
  obtain ⟨_, read, parsed⟩ := stored
  cases read
  obtain ⟨nonempty, -, sridIs⟩ := readSrid_eq_ok.mp parsed
  have sridFrom : first.srid = -1 ∨ 9 ≤ b0.length ∧ first.srid = embeddedSrid (b0.take 9) := by
    split at sridIs
    · exact .inr ⟨by simpa using sridIs.1, sridIs.2⟩
    · exact .inl sridIs
  have small := embeddedSrid_lt (b0.take 9)
  refine ⟨consistent, congrArg Payload.isText same, rfl, by omega, b0, same ▸ holds, by simpa using nonempty,
    fun known => by omega, rfl⟩

/-- A plain element of a run is its own `as_wkb()`. -/
theorem Conserved.asWkb_self (kept : Conserved isText srid geometry e) (plain : e.extended = false) :
    e.asWkb = .ok e := by
  obtain ⟨consistent, -, -, -, b, holds, nonempty, -⟩ := kept
  obtain ⟨data, eSrid, extended⟩ := e
  subst plain
  exact init_rebuilds consistent holds nonempty

/-- An extended element of a run, or one without an SRID, is its own `as_ewkb()`. -/
theorem Conserved.asEwkb_self (kept : Conserved isText srid geometry e) (keep : e.extended = true ∨ e.srid = -1) :
    e.asEwkb = .ok e := by
  obtain ⟨consistent, -, -, -, b, holds, nonempty, -⟩ := kept
  exact (asEwkb_keep keep).trans (init_rebuilds consistent holds nonempty)

/-- `as_wkb()` on an element of a run returns a plain element of the run: the element itself when it
is plain, and otherwise its buffer without the SRID. -/
theorem Conserved.asWkb (kept : Conserved isText srid geometry e) :
    ∃ e', e.asWkb = .ok e' ∧ e'.extended = false ∧ Conserved isText srid geometry e' := by
  obtain ⟨data, eSrid, extended⟩ := e
  cases extended with
  | false => exact ⟨_, kept.asWkb_self rfl, rfl, kept⟩
  | true =>
    obtain ⟨consistent, text, sridIs, fits, b, holds, nonempty, -, strip⟩ := kept
    obtain ⟨set, nine, -⟩ := (consistent_buffer consistent holds).imp_right fun stored => stored rfl
    obtain ⟨wkb, written, wkbText, converted⟩ := asWkb_encodes holds nonempty eSrid
    have shorter := length_removeSrid nine
    exact ⟨_, converted, rfl, consistent_asWkb consistent converted, wkbText.trans text, sridIs, fits, _, written,
      List.ne_nil_of_length_pos (by omega), fun _ => by omega, (stripSrid_removeSrid set).trans strip⟩

/-- `as_ewkb()` on an element of a run returns an element of the run that is extended or has no
SRID: the element itself when it is already so, and otherwise its buffer with the SRID inserted. -/
theorem Conserved.asEwkb (kept : Conserved isText srid geometry e) :
    ∃ e', e.asEwkb = .ok e' ∧ (e'.extended = true ∨ e'.srid = -1) ∧ Conserved isText srid geometry e' := by
  obtain ⟨data, eSrid, extended⟩ := e
  by_cases insert : extended = false ∧ eSrid ≠ -1
  · obtain ⟨rfl, known⟩ := insert
    obtain ⟨consistent, text, sridIs, fits, b, holds, nonempty, long, strip⟩ := kept
    have five : 5 ≤ b.length := long (sridIs ▸ known)
    have inRange : 0 ≤ eSrid ∧ eSrid < 2 ^ 32 := by
      dsimp only at sridIs
      omega
    obtain ⟨ewkb, written, ewkbText, converted⟩ := asEwkb_encodes holds nonempty eSrid inRange
    have longer := length_insertSrid five eSrid.toNat
    exact ⟨_, converted, .inl rfl, consistent_asEwkb consistent converted, ewkbText.trans text, sridIs, fits, _,
      written, List.ne_nil_of_length_pos (by omega), fun _ => by omega,
      (stripSrid_insertSrid five (consistent_buffer consistent holds).1 _).trans strip⟩
  · have keep : extended = true ∨ eSrid = -1 := by
      simpa only [not_and_or, Bool.not_eq_false, not_not] using insert
    exact ⟨_, kept.asEwkb_self keep, keep, kept⟩

/-- Each conversion keeps the invariant; by induction, so does every run. -/
theorem Conserved.run {first : WKBElement} (kept : Conserved isText srid geometry first)
    (run : Relation.ReflTransGen Converts first e) : Conserved isText srid geometry e := by
  induction run with
  | refl => exact kept
  | tail _ step ih =>
    rcases step with made | made
    · obtain ⟨_, converted, -, kept'⟩ := ih.asWkb
      exact Except.ok.inj (converted.symm.trans made) ▸ kept'
    · obtain ⟨_, converted, -, kept'⟩ := ih.asEwkb
      exact Except.ok.inj (converted.symm.trans made) ▸ kept'

end Conserved

/-! ## Runs -/

/-- Along any run of conversions from `WKBElement(data)`, where `data` holds a whole buffer, the
payload keeps its representation, the element its SRID, and the buffer its geometry. -/
theorem conversions_conserve_geometry (origin : Payload) (b0 : Bytes) (first e : WKBElement)
    (holds : origin.Encodes b0) (made : WKBElement.init origin = .ok first)
    (run : Relation.ReflTransGen Converts first e) :
    e.data.isText = origin.isText ∧ e.srid = first.srid ∧ ∃ b, e.data.Encodes b ∧ stripSrid b = stripSrid b0 := by
  obtain ⟨-, text, sridIs, -, b, held, -, -, strip⟩ := (conserved_init holds made).run run
  exact ⟨text, sridIs, b, held, strip⟩

/-- An EWKB `POINT(1 2)` with SRID 4326 converted to WKB: the same point, the same SRID. -/
theorem ewkb_point_keeps_geometry :
    let ewkb : Bytes := [1, 1, 0, 0, 0x20, 0xE6, 0x10, 0, 0, 0, 0, 0, 0, 0, 0, 0xF0, 0x3F, 0, 0, 0, 0, 0, 0, 0, 0x40]
    let plain : WKBElement :=
      ⟨.binary [1, 1, 0, 0, 0, 0, 0, 0, 0, 0, 0, 0xF0, 0x3F, 0, 0, 0, 0, 0, 0, 0, 0x40], 4326, false⟩
    plain.data.isText = (Payload.binary ewkb).isText ∧ plain.srid = 4326 ∧
      ∃ b, plain.data.Encodes b ∧ stripSrid b = stripSrid ewkb :=
  conversions_conserve_geometry _ _ ⟨.binary [1, 1, 0, 0, 0x20, 0xE6, 0x10, 0, 0, 0, 0, 0, 0, 0, 0, 0xF0, 0x3F, 0, 0,
    0, 0, 0, 0, 0, 0x40], 4326, true⟩ _ rfl rfl (.single (Or.inl rfl))

/-- Two elements of runs from one `WKBElement(data)` that agree on `extended` compare equal, whatever
conversions led to each. -/
theorem converted_elements_agreeing_on_flag_are_equal (origin : Payload) (b0 : Bytes) (first e e' : WKBElement)
    (holds : origin.Encodes b0) (made : WKBElement.init origin = .ok first)
    (run : Relation.ReflTransGen Converts first e) (run' : Relation.ReflTransGen Converts first e')
    (sameFlag : e.extended = e'.extended) : e.key.eq e'.key = true := by
  obtain ⟨consistent, -, sridIs, -, b, held, -, -, strip⟩ := (conserved_init holds made).run run
  obtain ⟨consistent', -, sridIs', -, b', held', -, -, strip'⟩ := (conserved_init holds made).run run'
  obtain ⟨flag, stored⟩ := consistent_buffer consistent held
  obtain ⟨flag', stored'⟩ := consistent_buffer consistent' held'
  have sameBuffer : b = b' := eq_of_stripSrid_eq (strip.trans strip'.symm) (by rw [flag, flag', sameFlag])
    fun set => by
      obtain ⟨long, embedded⟩ := stored (flag ▸ set)
      obtain ⟨long', embedded'⟩ := stored' (sameFlag ▸ flag ▸ set)
      exact ⟨long, long', by omega⟩
  exact key_eq_of_encodes held (sameBuffer ▸ held') (sridIs.trans sridIs'.symm) sameFlag

/-- An uppercase hexadecimal EWKB `POINT(1 2)` with SRID 4326, converted to WKB and back: the text
now holds `e6` where it held `E6`, and the two elements still compare equal. -/
theorem upper_and_lower_ewkb_point_compare_equal :
    (⟨.text "0101000020E6100000000000000000F03F0000000000000040".toList, 4326, true⟩ : WKBElement).key.eq
      (⟨.text "0101000020e6100000000000000000F03F0000000000000040".toList, 4326, true⟩ : WKBElement).key = true :=
  converted_elements_agreeing_on_flag_are_equal (.text "0101000020E6100000000000000000F03F0000000000000040".toList)
    [1, 1, 0, 0, 0x20, 0xE6, 0x10, 0, 0, 0, 0, 0, 0, 0, 0, 0xF0, 0x3F, 0, 0, 0, 0, 0, 0, 0, 0x40]
    _ _ _ (hexOf_of_unhexPairs rfl) rfl .refl
    ((Relation.ReflTransGen.single (show Converts
      ⟨.text "0101000020E6100000000000000000F03F0000000000000040".toList, 4326, true⟩
      ⟨.text "0101000000000000000000F03F0000000000000040".toList, 4326, false⟩ from Or.inl rfl)).tail (Or.inr rfl)) rfl

/-- Along any such run neither conversion raises, and converting again gives the same element back. -/
theorem conversions_return_and_settle (origin : Payload) (b0 : Bytes) (first e : WKBElement)
    (holds : origin.Encodes b0) (made : WKBElement.init origin = .ok first)
    (run : Relation.ReflTransGen Converts first e) :
    (∃ e', e.asWkb = .ok e' ∧ e'.asWkb = .ok e') ∧ ∃ e', e.asEwkb = .ok e' ∧ e'.asEwkb = .ok e' := by
  have kept := (conserved_init holds made).run run
  obtain ⟨plain, toWkb, flag, keptPlain⟩ := kept.asWkb
  obtain ⟨extended, toEwkb, keep, keptExtended⟩ := kept.asEwkb
  exact ⟨⟨plain, toWkb, keptPlain.asWkb_self flag⟩, extended, toEwkb, keptExtended.asEwkb_self keep⟩

/-- The same uppercase EWKB point, straight from the constructor. -/
theorem ewkb_point_conversions_settle :
    (∃ e', (⟨.text "0101000020E6100000000000000000F03F0000000000000040".toList, 4326, true⟩ : WKBElement).asWkb =
        .ok e' ∧ e'.asWkb = .ok e') ∧
      ∃ e', (⟨.text "0101000020E6100000000000000000F03F0000000000000040".toList, 4326, true⟩ : WKBElement).asEwkb =
        .ok e' ∧ e'.asEwkb = .ok e' :=
  conversions_return_and_settle (.text "0101000020E6100000000000000000F03F0000000000000040".toList)
    [1, 1, 0, 0, 0x20, 0xE6, 0x10, 0, 0, 0, 0, 0, 0, 0, 0, 0xF0, 0x3F, 0, 0, 0, 0, 0, 0, 0, 0x40]
    _ _ (hexOf_of_unhexPairs rfl) rfl .refl

/-- Every element of such a run survives pickling: `__setstate__` rebuilds it from its description as
bytes with the same description, SRID and flag, so it compares equal. -/
theorem converted_elements_survive_pickling (origin : Payload) (b0 : Bytes) (first e : WKBElement)
    (holds : origin.Encodes b0) (made : WKBElement.init origin = .ok first)
    (run : Relation.ReflTransGen Converts first e) :
    ∃ r, Pickle.WKBElement.restore e = .ok r ∧ r.key = e.key := by
  obtain ⟨-, -, -, -, b, held, -⟩ := (conserved_init holds made).run run
  have hex : HexOf e.desc b := by
    rw [WKBElement.desc, wkbToHex_of_encodes held]
    exact hexOf_hexlify b
  have restored := Pickle.WKBElement.restore_eq_ok.mpr ⟨b, hex, rfl⟩
  exact ⟨_, restored, Pickle.WKBElement.restore_key restored⟩

/-- The uppercase EWKB point pickles and comes back equal. -/
theorem ewkb_point_survives_pickling :
    ∃ r, Pickle.WKBElement.restore
      ⟨.text "0101000020E6100000000000000000F03F0000000000000040".toList, 4326, true⟩ = .ok r ∧
      r.key = (⟨.text "0101000020E6100000000000000000F03F0000000000000040".toList, 4326, true⟩ : WKBElement).key :=
  converted_elements_survive_pickling (.text "0101000020E6100000000000000000F03F0000000000000040".toList)
    [1, 1, 0, 0, 0x20, 0xE6, 0x10, 0, 0, 0, 0, 0, 0, 0, 0, 0xF0, 0x3F, 0, 0, 0, 0, 0, 0, 0, 0x40]
    _ _ (hexOf_of_unhexPairs rfl) rfl .refl

end GeoAlchemy2.Elements.WkbGeometry
