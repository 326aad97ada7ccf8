import GeoAlchemy2.Elements.Wkb

/-!
Elements built from decoded data, and whatever `as_wkb` and `as_ewkb` make of
them, never let the flag, the payload's SRID bit and the SRID drift apart. Each
operation is shown to keep `Consistent`; `Reachable.consistent` runs them.
-/

namespace GeoAlchemy2.Elements.WkbRuns
open GeoAlchemy2.Python GeoAlchemy2.Elements.Ewkb GeoAlchemy2.Elements.Wkb

/-- `WKBElement(data)` with `srid` and `extended` omitted, closed under the conversions
wherever they return. -/
inductive Reachable : WKBElement → Prop
  | init {data : Payload} {e : WKBElement} : WKBElement.init data = .ok e → Reachable e
  | asWkb {e e' : WKBElement} : Reachable e → e.asWkb = .ok e' → Reachable e'
  | asEwkb {e e' : WKBElement} : Reachable e → e.asEwkb = .ok e' → Reachable e'

/-- The flag is the SRID bit of the payload's type word, and an extended element's SRID is the
one stored at bytes 5-8 of its payload. -/
structure Consistent (e : WKBElement) : Prop where
  flag : ∃ header, payloadPrefix e.data 5 = .ok header ∧ e.extended = hasSrid header
  srid : e.extended = true →
    ∃ header, payloadPrefix e.data 9 = .ok header ∧ header.length = 9 ∧ e.srid = embeddedSrid header

/-- `WKBElement(data, srid)` re-reads the payload, so it is consistent as soon as a given SRID
agrees with the one the payload embeds. -/
theorem consistent_of_init {data : Payload} {srid : Int} {e : WKBElement}
    (made : WKBElement.init data srid = .ok e)
    (agrees : srid ≠ -1 → ∀ header, payloadPrefix data 9 = .ok header → hasSrid header = true →
      header.length = 9 ∧ srid = embeddedSrid header) : Consistent e := by
  obtain ⟨same, stored⟩ := init_eq_ok.mp made
  rw [if_pos (Or.inr (Or.inl rfl))] at stored
  obtain ⟨header, read, parsed⟩ := stored
  obtain ⟨-, flagIs, sridIs⟩ := readSrid_eq_ok.mp parsed
  simp only [Option.getD_none] at flagIs
  subst same
  refine ⟨⟨header.take 5, payloadPrefix_take read (by omega), by rw [hasSrid_take (le_refl 5), flagIs]⟩, ?_⟩
  intro extended
  by_cases omitted : srid = -1
  · rw [if_pos ⟨extended, omitted⟩] at sridIs
    exact ⟨header, read, sridIs⟩
  · rw [if_neg (fun both => omitted both.2)] at sridIs
    dsimp only at sridIs
    rw [sridIs]
    exact ⟨header, read, agrees omitted header read (flagIs ▸ extended)⟩

/-- `WKBElement(e.data, e.srid)`, which both conversions return when they leave the payload alone. -/
theorem consistent_reinit {e e' : WKBElement} (consistent : Consistent e)
    (made : WKBElement.init e.data e.srid = .ok e') : Consistent e' := by
  refine consistent_of_init made fun _ header read set => ?_
  obtain ⟨short, shortRead, flagIs⟩ := consistent.flag
  have cut := payloadPrefix_unique shortRead (payloadPrefix_take read (by omega))
  rw [cut, hasSrid_take (le_refl 5), set] at flagIs
  obtain ⟨header', read', long, sridIs⟩ := consistent.srid flagIs
  rw [payloadPrefix_unique read' read] at long sridIs
  exact ⟨long, sridIs⟩

theorem consistent_asWkb {e e' : WKBElement} (consistent : Consistent e) (made : e.asWkb = .ok e') :
    Consistent e' := by
  obtain ⟨data, srid, extended⟩ := e
  cases extended with
  | false => exact consistent_reinit consistent made
  | true =>
    obtain ⟨_, read, sridIs⟩ := consistent.srid rfl
    rw [asWkb_extended] at made
    obtain ⟨header, shortRead, _, firstByte, rebuilt⟩ := by simpa only [bind_eq_ok] using made
    obtain ⟨x, rest, rfl⟩ : ∃ x rest, header = x :: rest := by
      cases header with
      | nil => simp at firstByte
      | cons x rest => exact ⟨x, rest, rfl⟩
    have known : srid ≠ -1 := by dsimp only at sridIs; omega
    obtain ⟨dataIs, -, flagIs⟩ := init_given known rebuilt
    have written := payloadPrefix_splicePayload (payloadPrefix_take shortRead (by omega : 1 ≤ 5))
      ((declaredOrder (x :: rest)).pack 4 (clearSridBit (typeWord (x :: rest)))) 9
    simp only [ByteOrder.length_pack, Nat.reduceAdd] at written
    refine ⟨⟨_, dataIs ▸ written, ?_⟩, fun set => by simp [flagIs] at set⟩
    rw [flagIs, declaredOrder_cons, ← List.append_nil ((byteOrderOf x).pack 4 _), hasSrid_pack _ (clearSridBit_lt _),
      testBit_clearSridBit]
    simp

theorem consistent_asEwkb {e e' : WKBElement} (consistent : Consistent e) (made : e.asEwkb = .ok e') :
    Consistent e' := by
  obtain ⟨data, srid, extended⟩ := e
  by_cases insert : extended = false ∧ srid ≠ -1
  · obtain ⟨rfl, known⟩ := insert
    by_cases fits : 0 ≤ srid ∧ srid < 2 ^ 32
    · rw [asEwkb_plain data known fits] at made
      obtain ⟨header, shortRead, _, firstByte, rebuilt⟩ := by simpa only [bind_eq_ok] using made
      obtain ⟨x, rest, rfl⟩ : ∃ x rest, header = x :: rest := by
        cases header with
        | nil => simp at firstByte
        | cons x rest => exact ⟨x, rest, rfl⟩
      obtain ⟨dataIs, sridIs, flagIs⟩ := init_given known rebuilt
      have typeFits := setSridBit_lt (typeWord_lt (x :: rest))
      have written := payloadPrefix_splicePayload (payloadPrefix_take shortRead (by omega : 1 ≤ 5))
        ((declaredOrder (x :: rest)).pack 4 (setSridBit (typeWord (x :: rest))) ++
          (declaredOrder (x :: rest)).pack 4 srid.toNat) 5
      rw [← dataIs] at written
      simp only [List.length_append, ByteOrder.length_pack, declaredOrder_cons, Nat.reduceAdd] at written
      refine ⟨⟨_, payloadPrefix_take written (by omega), ?_⟩, fun _ => ⟨_, written, by simp, ?_⟩⟩
      · rw [flagIs, hasSrid_take (by omega), hasSrid_pack _ typeFits, testBit_setSridBit]
        simp
      · rw [sridIs, ← List.append_nil ((byteOrderOf x).pack 4 srid.toNat), embeddedSrid_pack _ _ (by omega)]
        omega
    · exact absurd made (asEwkb_out_of_range data known fits e')
  · have keep : extended = true ∨ srid = -1 := by
      cases extended <;> simp_all
    exact consistent_reinit consistent ((asEwkb_keep keep).symm.trans made)

/-- Every reachable element is consistent: construction makes it so and each conversion keeps it. -/
theorem Reachable.consistent {e : WKBElement} (reached : Reachable e) : Consistent e := by
  induction reached with
  | init made => exact consistent_of_init made fun omitted => absurd rfl omitted
  | asWkb _ made ih => exact consistent_asWkb ih made
  | asEwkb _ made ih => exact consistent_asEwkb ih made

theorem reachable_flag_tracks_srid_bit (e : WKBElement) (reached : Reachable e) :
    (∃ header, payloadPrefix e.data 5 = .ok header ∧ e.extended = hasSrid header) ∧
    (e.extended = true →
      ∃ header, payloadPrefix e.data 9 = .ok header ∧ header.length = 9 ∧ e.srid = embeddedSrid header) :=
  ⟨reached.consistent.flag, reached.consistent.srid⟩

/-- A little-endian EWKB `POINT(1 2)` with SRID 4326, read and then converted to WKB. -/
theorem ewkb_point_flag_tracks_srid_bit :
    let plain : WKBElement :=
      ⟨.binary [1, 1, 0, 0, 0, 0, 0, 0, 0, 0, 0, 0xF0, 0x3F, 0, 0, 0, 0, 0, 0, 0, 0x40], 4326, false⟩
    (∃ header, payloadPrefix plain.data 5 = .ok header ∧ plain.extended = hasSrid header) ∧
    (plain.extended = true →
      ∃ header, payloadPrefix plain.data 9 = .ok header ∧ header.length = 9 ∧ plain.srid = embeddedSrid header) :=
  reachable_flag_tracks_srid_bit _ (.asWkb (@Reachable.init (.binary [1, 1, 0, 0, 0x20, 0xE6, 0x10, 0, 0,
    0, 0, 0, 0, 0, 0, 0xF0, 0x3F, 0, 0, 0, 0, 0, 0, 0, 0x40]) _ rfl) rfl)

end GeoAlchemy2.Elements.WkbRuns
