import GeoAlchemy2.Elements.Wkb

/-!
The conversions of `WKBElement` against the EWKB layout. On a buffer without an
SRID `as_ewkb` writes `insertSrid`, on one with an SRID `as_wkb` writes
`removeSrid`; each keeps the payload's representation, and the two undo each
other. Both follow the element's `extended` flag rather than the payload's SRID
bit, so where the two disagree they rewrite the geometry body.
-/

namespace GeoAlchemy2.Elements.WkbLaws
open GeoAlchemy2.Python GeoAlchemy2.Elements.Ewkb GeoAlchemy2.Elements.Wkb

/-- `as_ewkb` on a plain element holding a whole buffer, with an SRID in range. -/
theorem asEwkb_encodes {data : Payload} {b : Bytes} (holds : data.Encodes b) (nonempty : b ≠ [])
    (srid : Int) (fits : 0 ≤ srid ∧ srid < 2 ^ 32) :
    ∃ ewkb : Payload, ewkb.Encodes (insertSrid b srid.toNat) ∧ ewkb.isText = data.isText ∧
      (⟨data, srid, false⟩ : WKBElement).asEwkb = .ok ⟨ewkb, srid, true⟩ := by
  obtain ⟨x, rest, rfl⟩ := List.exists_cons_of_ne_nil nonempty
  have known : srid ≠ -1 := by omega
  have written : (splicePayload data ((declaredOrder (x :: rest)).pack 4 (setSridBit (typeWord (x :: rest))) ++
      (declaredOrder (x :: rest)).pack 4 srid.toNat) 5).Encodes (insertSrid (x :: rest) srid.toNat) := by
    simpa only [insertSrid, List.append_assoc] using splicePayload_encodes holds
      ((declaredOrder (x :: rest)).pack 4 (setSridBit (typeWord (x :: rest))) ++
        (declaredOrder (x :: rest)).pack 4 srid.toNat) 5
  refine ⟨_, written, isText_splicePayload .., ?_⟩
  rw [asEwkb_plain data known fits, payloadPrefix_of_encodes holds, ok_bind, List.take_succ_cons, byteAt_cons_zero,
    ok_bind, ← List.take_succ_cons, declaredOrder_take (by omega), typeWord_take (le_refl 5)]
  exact init_given_true known (payloadPrefix_of_encodes written 9) (by simp [insertSrid])

/-- `as_wkb` on an extended element holding a whole buffer. -/
theorem asWkb_encodes {data : Payload} {c : Bytes} (holds : data.Encodes c) (nonempty : c ≠ [])
    (srid : Int) :
    ∃ wkb : Payload, wkb.Encodes (removeSrid c) ∧ wkb.isText = data.isText ∧
      (⟨data, srid, true⟩ : WKBElement).asWkb = .ok ⟨wkb, srid, false⟩ := by
  obtain ⟨x, rest, rfl⟩ := List.exists_cons_of_ne_nil nonempty
  have written := splicePayload_encodes holds
    ((declaredOrder (x :: rest)).pack 4 (clearSridBit (typeWord (x :: rest)))) 9
  refine ⟨_, written, isText_splicePayload .., ?_⟩
  rw [asWkb_extended, payloadPrefix_of_encodes holds, ok_bind, List.take_succ_cons, byteAt_cons_zero,
    ok_bind, ← List.take_succ_cons, declaredOrder_take (by omega), typeWord_take (le_refl 5)]
  exact init_given_false written (by simp) srid

theorem key_eq_of_encodes {e e' : WKBElement} {b : Bytes} (holds : e.data.Encodes b) (holds' : e'.data.Encodes b)
    (sameSrid : e.srid = e'.srid) (sameFlag : e.extended = e'.extended) : e.key.eq e'.key = true := by
  rw [Spatial.SpatialKey.eq_iff, WKBElement.key, WKBElement.key, WKBElement.desc, WKBElement.desc,
    wkbToHex_of_encodes holds, wkbToHex_of_encodes holds', sameSrid, sameFlag]

theorem as_wkb_as_ewkb_inverse :
    (∀ (data : Payload) (b : Bytes) (srid : Int), data.Encodes b → 5 ≤ b.length → hasSrid b = false →
        0 ≤ srid → srid < 2 ^ 32 →
      ∃ w e w', WKBElement.init data srid (some false) = .ok w ∧ w.asEwkb = .ok e ∧ e.asWkb = .ok w' ∧
        e.extended = true ∧ e.srid = srid ∧ e.data.Encodes (insertSrid b srid.toNat) ∧
        e.data.isText = data.isText ∧ w'.key.eq w.key = true) ∧
    (∀ (data : Payload) (c : Bytes), data.Encodes c → 9 ≤ c.length → hasSrid c = true →
      ∃ e w e', WKBElement.init data = .ok e ∧ e.asWkb = .ok w ∧ w.asEwkb = .ok e' ∧
        w.extended = false ∧ w.srid = embeddedSrid c ∧ w.data.Encodes (removeSrid c) ∧
        w.data.isText = data.isText ∧ e'.key.eq e.key = true) := by
  constructor
  · intro data b srid holds long clear low high
    have nonempty : b ≠ [] := List.ne_nil_of_length_pos (by omega)
    obtain ⟨ewkb, ewkbHolds, ewkbText, converted⟩ := asEwkb_encodes holds nonempty srid ⟨low, high⟩
    have inserted : insertSrid b srid.toNat ≠ [] := by simp [insertSrid, nonempty]
    obtain ⟨wkb, wkbHolds, wkbText, back⟩ := asWkb_encodes ewkbHolds inserted srid
    rw [removeSrid_insertSrid long clear] at wkbHolds
    exact ⟨_, _, _, init_given_false holds nonempty srid, converted, back, rfl, rfl, ewkbHolds, ewkbText,
      key_eq_of_encodes wkbHolds holds rfl rfl⟩
  · intro data c holds long set
    have nonempty : c ≠ [] := List.ne_nil_of_length_pos (by omega)
    have fits := embeddedSrid_lt c
    obtain ⟨wkb, wkbHolds, wkbText, converted⟩ := asWkb_encodes holds nonempty (embeddedSrid c)
    have removed : removeSrid c ≠ [] := by simp [removeSrid, nonempty]
    obtain ⟨ewkb, ewkbHolds, ewkbText, back⟩ := asEwkb_encodes wkbHolds removed
      (embeddedSrid c) ⟨by omega, by omega⟩
    rw [Int.toNat_natCast, insertSrid_removeSrid long set] at ewkbHolds
    exact ⟨_, _, _, init_of_hasSrid holds long set, converted, back, rfl, rfl, wkbHolds, wkbText,
      key_eq_of_encodes ewkbHolds holds rfl rfl⟩

/-- A plain little-endian `POINT(1 2)` given SRID 4326 goes to EWKB and back to an equal element. -/
theorem point_survives_ewkb_and_back :
    let point : Bytes := [1, 1, 0, 0, 0, 0, 0, 0, 0, 0, 0, 0xF0, 0x3F, 0, 0, 0, 0, 0, 0, 0, 0x40]
    ∃ w e w', WKBElement.init (.binary point) 4326 (some false) = .ok w ∧ w.asEwkb = .ok e ∧ e.asWkb = .ok w' ∧
      e.extended = true ∧ e.srid = 4326 ∧ e.data.Encodes (insertSrid point 4326) ∧ e.data.isText = false ∧
      w'.key.eq w.key = true :=
  as_wkb_as_ewkb_inverse.1 (.binary _) _ 4326 rfl (by decide) (by decide) (by decide) (by decide)

/-- `as_wkb` follows the element's flag: an extended element loses bytes 5-8 of its payload,
whatever its SRID bit says, and a plain one is rebuilt from its payload unchanged. -/
theorem asWkb_follows_flag {e : WKBElement} {b : Bytes} (holds : e.data.Encodes b) (long : 9 ≤ b.length) :
    ∃ w, e.asWkb = .ok w ∧ w.data.isText = e.data.isText ∧
      if e.extended then w.data.Encodes (removeSrid b) else w.data = e.data := by
  obtain ⟨data, srid, extended⟩ := e
  have nonempty : b ≠ [] := List.ne_nil_of_length_pos (by omega)
  cases extended with
  | true =>
    obtain ⟨wkb, wkbHolds, wkbText, converted⟩ := asWkb_encodes holds nonempty srid
    exact ⟨_, converted, wkbText, wkbHolds⟩
  | false => exact ⟨_, (asWkb_plain data srid).trans (init_of_encodes holds long srid none), rfl, rfl⟩

/-- `as_ewkb` follows the element's flag: a plain element with an SRID gets a type word with the
SRID bit set and the SRID after it, whatever its SRID bit already says, and any other element is
rebuilt from its payload unchanged. -/
theorem asEwkb_follows_flag {e : WKBElement} {b : Bytes} (holds : e.data.Encodes b) (long : 9 ≤ b.length)
    (fits : e.srid = -1 ∨ 0 ≤ e.srid ∧ e.srid < 2 ^ 32) :
    ∃ w, e.asEwkb = .ok w ∧ w.data.isText = e.data.isText ∧
      if e.extended = false ∧ e.srid ≠ -1 then w.data.Encodes (insertSrid b e.srid.toNat) else w.data = e.data := by
  obtain ⟨data, srid, extended⟩ := e
  have nonempty : b ≠ [] := List.ne_nil_of_length_pos (by omega)
  by_cases insert : extended = false ∧ srid ≠ -1
  · obtain ⟨rfl, known⟩ := insert
    obtain ⟨ewkb, ewkbHolds, ewkbText, converted⟩ :=
      asEwkb_encodes holds nonempty srid (fits.resolve_left known)
    exact ⟨_, converted, ewkbText, by simpa [known] using ewkbHolds⟩
  · have keep : extended = true ∨ srid = -1 := by
      cases extended <;> simp_all
    refine ⟨_, (asEwkb_keep keep).trans (init_of_encodes holds long srid none), rfl, ?_⟩
    simp only [if_neg insert]

theorem srid_handling_follows_flag :
    (∀ (data : Payload) (b : Bytes) (srid : Int) (extended : Option Bool), data.Encodes b → 9 ≤ b.length →
      WKBElement.init data srid extended = .ok ⟨data,
        if extended.getD (hasSrid b) = true ∧ srid = -1 then embeddedSrid b else srid,
        extended.getD (hasSrid b)⟩) ∧
    (∀ (e : WKBElement) (b : Bytes), e.data.Encodes b → 9 ≤ b.length →
      ∃ w, e.asWkb = .ok w ∧ w.data.isText = e.data.isText ∧
        if e.extended then w.data.Encodes (removeSrid b) else w.data = e.data) ∧
    (∀ (e : WKBElement) (b : Bytes), e.data.Encodes b → 9 ≤ b.length →
        (e.srid = -1 ∨ 0 ≤ e.srid ∧ e.srid < 2 ^ 32) →
      ∃ w, e.asEwkb = .ok w ∧ w.data.isText = e.data.isText ∧
        if e.extended = false ∧ e.srid ≠ -1 then w.data.Encodes (insertSrid b e.srid.toNat)
        else w.data = e.data) :=
  ⟨fun _ _ srid extended holds long => init_of_encodes holds long srid extended,
    fun _ _ holds long => asWkb_follows_flag holds long,
    fun _ _ holds long fits => asEwkb_follows_flag holds long fits⟩

/-- The EWKB form of that point, SRID 4326, read with the flag left open is extended with that SRID;
`as_wkb` drops the SRID, and `as_ewkb` of the plain point with SRID 4326 writes it back. -/
theorem ewkb_point_srid_follows_flag :
    let ewkb : Bytes := [1, 1, 0, 0, 0x20, 0xE6, 0x10, 0, 0, 0, 0, 0, 0, 0, 0, 0xF0, 0x3F, 0, 0, 0, 0, 0, 0, 0, 0x40]
    let point : Bytes := [1, 1, 0, 0, 0, 0, 0, 0, 0, 0, 0, 0xF0, 0x3F, 0, 0, 0, 0, 0, 0, 0, 0x40]
    WKBElement.init (.binary ewkb) = .ok ⟨.binary ewkb, 4326, true⟩ ∧
      (∃ w, (⟨.binary ewkb, 4326, true⟩ : WKBElement).asWkb = .ok w ∧ w.data.isText = false ∧
        w.data.Encodes (removeSrid ewkb)) ∧
      ∃ w, (⟨.binary point, 4326, false⟩ : WKBElement).asEwkb = .ok w ∧ w.data.isText = false ∧
        w.data.Encodes (insertSrid point 4326) :=
  ⟨srid_handling_follows_flag.1 (.binary _) _ (-1) none rfl (by decide),
    srid_handling_follows_flag.2.1 ⟨.binary _, 4326, true⟩ _ rfl (by decide),
    srid_handling_follows_flag.2.2 ⟨.binary _, 4326, false⟩ _ rfl (by decide) (.inr (by decide))⟩

/-- A plain little-endian `POINT(1 2)` read with `extended=True`: the first half of its X
coordinate becomes the SRID, and `as_wkb` drops it from the payload. -/
theorem plain_point_read_as_extended :
    let point : Bytes := [1, 1, 0, 0, 0, 0, 0, 0, 0, 0, 0, 0xF0, 0x3F, 0, 0, 0, 0, 0, 0, 0, 0x40]
    hasSrid point = false ∧
      WKBElement.init (.binary point) (-1) (some true) = .ok ⟨.binary point, 0, true⟩ ∧
      (⟨.binary point, 0, true⟩ : WKBElement).asWkb =
        .ok ⟨.binary [1, 1, 0, 0, 0, 0, 0, 0xF0, 0x3F, 0, 0, 0, 0, 0, 0, 0, 0x40], 0, false⟩ :=
  ⟨by decide, rfl, rfl⟩

end GeoAlchemy2.Elements.WkbLaws
