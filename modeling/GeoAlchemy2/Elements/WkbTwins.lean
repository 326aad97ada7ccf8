import GeoAlchemy2.Elements.Wkb

/-!
A `WKBElement` built from hexadecimal text (the SpatiaLite case) runs the same
course as one built from the bytes that text encodes: `Twins` relates the two,
and construction and both conversions keep them related, raising together or
returning twins again. Replayed one conversion after another, the two stay in
lockstep through any sequence of conversions.
-/

namespace GeoAlchemy2.Elements.WkbTwins
open GeoAlchemy2.Python GeoAlchemy2.Elements.Ewkb GeoAlchemy2.Elements.Wkb

/-- `t` holds hexadecimal text of the bytes `u` holds, with the same SRID and flag. -/
structure Twins (t u : WKBElement) : Prop where
  hex : ∃ h b, t.data = .text h ∧ u.data = .binary b ∧ HexOf h b
  srid : t.srid = u.srid
  extended : t.extended = u.extended

/-- Twins have the same description, so they compare and hash equal. -/
theorem Twins.key_eq {t u : WKBElement} (twins : Twins t u) : t.key = u.key := by
  obtain ⟨⟨h, b, textIs, binaryIs, hex⟩, sridIs, flagIs⟩ := twins
  have text : t.data.Encodes b := by rw [textIs]; exact hex
  have binary : u.data.Encodes b := by rw [binaryIs]; rfl
  simp only [WKBElement.key, WKBElement.desc, wkbToHex_of_encodes text, wkbToHex_of_encodes binary, sridIs,
    flagIs]

/-- `__init__` reads the same header from the text and from the bytes. -/
theorem init_twins {h : Text} {b : Bytes} (hex : HexOf h b) (srid : Int) (extended : Option Bool) :
    SameOutcome Twins (WKBElement.init (.text h) srid extended) (WKBElement.init (.binary b) srid extended) := by
  unfold WKBElement.init
  split
  · rw [readHeader_eq, readHeader_eq, @payloadPrefix_of_encodes (.text h) b hex,
      @payloadPrefix_of_encodes (.binary b) b rfl]
    simp only [ok_bind]
    cases readSrid (b.take 9) srid extended with
    | error => trivial
    | ok stored => exact ⟨⟨h, b, rfl, rfl, hex⟩, rfl, rfl⟩
  · exact ⟨⟨h, b, rfl, rfl, hex⟩, rfl, rfl⟩

theorem asWkb_twins {t u : WKBElement} (twins : Twins t u) : SameOutcome Twins t.asWkb u.asWkb := by
  obtain ⟨⟨h, b, textIs, binaryIs, hex⟩, sridIs, flagIs⟩ := twins
  obtain ⟨tData, srid, flag⟩ := t
  obtain ⟨uData, _, _⟩ := u
  dsimp only at textIs binaryIs sridIs flagIs
  subst textIs binaryIs sridIs flagIs
  cases flag with
  | false => exact init_twins hex srid none
  | true =>
    rw [asWkb_extended, asWkb_extended, @payloadPrefix_of_encodes (.text h) b hex,
      @payloadPrefix_of_encodes (.binary b) b rfl]
    simp only [ok_bind]
    cases byteAt (b.take 5) 0 with
    | error => trivial
    | ok _ =>
      simp only [ok_bind]
      exact init_twins (hexOf_splice hex _ 9) srid (some false)

theorem asEwkb_twins {t u : WKBElement} (twins : Twins t u) : SameOutcome Twins t.asEwkb u.asEwkb := by
  obtain ⟨⟨h, b, textIs, binaryIs, hex⟩, sridIs, flagIs⟩ := twins
  obtain ⟨tData, srid, flag⟩ := t
  obtain ⟨uData, _, _⟩ := u
  dsimp only at textIs binaryIs sridIs flagIs
  subst textIs binaryIs sridIs flagIs
  by_cases insert : flag = false ∧ srid ≠ -1
  · obtain ⟨rfl, known⟩ := insert
    by_cases fits : 0 ≤ srid ∧ srid < 2 ^ 32
    · rw [asEwkb_plain _ known fits, asEwkb_plain _ known fits, @payloadPrefix_of_encodes (.text h) b hex,
        @payloadPrefix_of_encodes (.binary b) b rfl]
      simp only [ok_bind]
      cases byteAt (b.take 5) 0 with
      | error => trivial
      | ok _ =>
        simp only [ok_bind]
        exact init_twins (hexOf_splice hex _ 5) srid (some true)
    · exact .of_errors (asEwkb_out_of_range _ known fits) (asEwkb_out_of_range _ known fits)
  · have keep : flag = true ∨ srid = -1 := by
      cases flag <;> simp_all
    rw [@asEwkb_keep ⟨.text h, srid, flag⟩ keep, @asEwkb_keep ⟨.binary b, srid, flag⟩ keep]
    exact init_twins hex srid none

theorem hex_and_binary_payloads_agree :
    (∀ (h : Text) (b : Bytes) (srid : Int) (extended : Option Bool), HexOf h b →
      SameOutcome Twins (WKBElement.init (.text h) srid extended) (WKBElement.init (.binary b) srid extended)) ∧
    (∀ t u : WKBElement, Twins t u →
      t.key.eq u.key = true ∧ (∀ pyHash, t.key.hash pyHash = u.key.hash pyHash) ∧
        SameOutcome Twins t.asWkb u.asWkb ∧ SameOutcome Twins t.asEwkb u.asEwkb) :=
  ⟨fun _ _ srid extended hex => init_twins hex srid extended,
    fun _ _ twins => ⟨Spatial.SpatialKey.eq_iff.mpr twins.key_eq, fun _ => by rw [twins.key_eq],
      asWkb_twins twins, asEwkb_twins twins⟩⟩

/-- Uppercase hexadecimal text of an EWKB point with SRID 4326 and its bytes build alike, and the
extended elements holding them compare equal and convert alike. -/
theorem uppercase_hex_point_agrees_with_bytes :
    let text := "0101000020E6100000000000000000F03F0000000000000040".toList
    let bytes : Bytes := [1, 1, 0, 0, 0x20, 0xE6, 0x10, 0, 0, 0, 0, 0, 0, 0, 0, 0xF0, 0x3F, 0, 0, 0, 0, 0, 0, 0, 0x40]
    SameOutcome Twins (WKBElement.init (.text text)) (WKBElement.init (.binary bytes)) ∧
      (⟨.text text, 4326, true⟩ : WKBElement).key.eq (⟨.binary bytes, 4326, true⟩ : WKBElement).key = true ∧
      (∀ pyHash, (⟨.text text, 4326, true⟩ : WKBElement).key.hash pyHash =
        (⟨.binary bytes, 4326, true⟩ : WKBElement).key.hash pyHash) ∧
      SameOutcome Twins (⟨.text text, 4326, true⟩ : WKBElement).asWkb (⟨.binary bytes, 4326, true⟩ : WKBElement).asWkb ∧
      SameOutcome Twins (⟨.text text, 4326, true⟩ : WKBElement).asEwkb
        (⟨.binary bytes, 4326, true⟩ : WKBElement).asEwkb :=
  have hex : HexOf "0101000020E6100000000000000000F03F0000000000000040".toList
      [1, 1, 0, 0, 0x20, 0xE6, 0x10, 0, 0, 0, 0, 0, 0, 0, 0, 0xF0, 0x3F, 0, 0, 0, 0, 0, 0, 0, 0x40] :=
    unhexlify_eq_ok.mp rfl
  ⟨hex_and_binary_payloads_agree.1 _ _ (-1) none hex,
    hex_and_binary_payloads_agree.2 ⟨.text _, 4326, true⟩ ⟨.binary _, 4326, true⟩ ⟨⟨_, _, rfl, rfl, hex⟩, rfl, rfl⟩⟩

/-! ## Sequences of conversions -/

/-- The two conversions, named so that a sequence of them can be replayed. -/
inductive Conversion
  | asWkb
  | asEwkb
  deriving DecidableEq, Repr

/-- `e.as_wkb()` or `e.as_ewkb()`. -/
def Conversion.apply : Conversion → WKBElement → Except PyError WKBElement
  | .asWkb, e => e.asWkb
  | .asEwkb, e => e.asEwkb

/-- The conversions applied in order, each to the element the previous one returned, up to the first
that raises. -/
def convertAll : List Conversion → WKBElement → Except PyError WKBElement
  | [], e => .ok e
  | c :: cs, e => c.apply e >>= convertAll cs

theorem Conversion.apply_twins {t u : WKBElement} (twins : Twins t u) :
    ∀ c : Conversion, SameOutcome Twins (c.apply t) (c.apply u)
  | .asWkb => asWkb_twins twins
  | .asEwkb => asEwkb_twins twins

theorem convertAll_twins {t u : WKBElement} (twins : Twins t u) :
    ∀ cs, SameOutcome Twins (convertAll cs t) (convertAll cs u)
  | [] => twins
  | c :: cs => .bind (Conversion.apply_twins twins c) fun _ _ twins' => convertAll_twins twins' cs

/-- From hexadecimal text and from the bytes it encodes, `WKBElement(...)` followed by any sequence
of conversions raises at the same step on both paths, or returns twins, which compare equal. -/
theorem hex_and_binary_runs_agree (h : Text) (b : Bytes) (srid : Int) (extended : Option Bool)
    (cs : List Conversion) (hex : HexOf h b) :
    SameOutcome Twins (WKBElement.init (.text h) srid extended >>= convertAll cs)
      (WKBElement.init (.binary b) srid extended >>= convertAll cs) :=
  .bind (init_twins hex srid extended) fun _ _ twins => convertAll_twins twins cs

/-- A little-endian EWKB `POINT(1 2)` with SRID 4326, as text and as bytes, through `as_wkb` and
`as_ewkb`. -/
theorem ewkb_point_runs_agree :
    SameOutcome Twins
      (WKBElement.init (.text (hexlify [1, 1, 0, 0, 0x20, 0xE6, 0x10, 0, 0, 0, 0, 0, 0, 0, 0, 0xF0, 0x3F, 0, 0, 0, 0,
        0, 0, 0, 0x40])) (-1) none >>= convertAll [.asWkb, .asEwkb])
      (WKBElement.init (.binary [1, 1, 0, 0, 0x20, 0xE6, 0x10, 0, 0, 0, 0, 0, 0, 0, 0, 0xF0, 0x3F, 0, 0, 0, 0,
        0, 0, 0, 0x40]) (-1) none >>= convertAll [.asWkb, .asEwkb]) :=
  hex_and_binary_runs_agree _ _ (-1) none [.asWkb, .asEwkb] (hexOf_hexlify _)

end GeoAlchemy2.Elements.WkbTwins
