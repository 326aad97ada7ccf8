import GeoAlchemy2.Elements.Wkt

/-!
The EWKT round trips of `WKTElement`. The constructor accepts any five
characters before an `int()` literal and one `;`, while `as_wkt` strips only
`SRID=`, ASCII digits, `;` and one space, and its `(.*)`, compiled without
`re.DOTALL`, keeps the body only up to its first newline; the round trips hold
exactly where the two agree.
-/

namespace GeoAlchemy2.Elements.WktLaws
open GeoAlchemy2.Python GeoAlchemy2.Elements.Wkt

/-! ## What `str(n)` writes after `SRID=` -/

theorem pyStr_chars {n : Int} {text : Text} (printed : pyStr n = .ok text) :
    ∀ c ∈ text, c.isDigit = true ∨ c = '-' := by
  obtain ⟨rfl, -⟩ := pyStr_eq_ok printed
  have digits := (toDigits_digits n.natAbs).2
  intro c member
  split at member
  · rcases List.mem_cons.mp member with rfl | later
    · exact .inr rfl
    · exact .inl (digits c later)
  · exact .inl (digits c member)

theorem separator_not_mem_pyStr {n : Int} {text : Text} (printed : pyStr n = .ok text) : ';' ∉ text := by
  intro member
  rcases pyStr_chars printed ';' member with digit | minus
  · exact absurd digit (by decide)
  · exact absurd minus (by decide)

theorem removeSridMatch_nonneg {n : Int} {text : Text} (printed : pyStr n = .ok text) (nonneg : 0 ≤ n)
    (body : Text) :
    removeSridMatch ("SRID=".toList ++ text ++ ';' :: body) = (dropOneSpace body).takeWhile (· != '\n') := by
  obtain ⟨rfl, -⟩ := pyStr_eq_ok printed
  obtain ⟨nonempty, digits⟩ := toDigits_digits n.natAbs
  rw [if_neg (by omega)]
  exact removeSridMatch_digits nonempty digits body

/-- After a negative SRID the pattern's group fails, so the `;` stays in what `as_wkt` keeps. -/
theorem separator_mem_removeSridMatch {n : Int} {text : Text} (printed : pyStr n = .ok text) (negative : n < 0)
    (body : Text) : ';' ∈ removeSridMatch ("SRID=".toList ++ text ++ ';' :: body) := by
  obtain ⟨rfl, -⟩ := pyStr_eq_ok printed
  have digits := (toDigits_digits n.natAbs).2
  rw [if_pos negative]
  show ';' ∈ removeSridMatch ("SRID=".toList ++ '-' :: (Nat.toDigits 10 n.natAbs ++ ';' :: body))
  rw [removeSridMatch_minus]
  have before : ∀ c ∈ "SRID=".toList ++ '-' :: Nat.toDigits 10 n.natAbs, (c != '\n') = true := by
    intro c member
    simp only [sridPrefix_eq, List.cons_append, List.nil_append, List.mem_cons] at member
    rcases member with rfl | rfl | rfl | rfl | rfl | rfl | later
    any_goals rfl
    have digit := digits c later
    simp only [bne_iff_ne, ne_eq]
    rintro rfl
    exact absurd digit (by decide)
  rw [show "SRID=".toList ++ '-' :: (Nat.toDigits 10 n.natAbs ++ ';' :: body) =
      ("SRID=".toList ++ '-' :: Nat.toDigits 10 n.natAbs) ++ ';' :: body by simp,
    List.takeWhile_append_of_pos before]
  simp

/-- `as_wkt` gives the body back exactly for a non-negative SRID and a body without a newline or a
leading space. -/
theorem removeSridMatch_eq_iff {n : Int} {text body : Text} (printed : pyStr n = .ok text)
    (noneInBody : ';' ∉ body) :
    removeSridMatch ("SRID=".toList ++ text ++ ';' :: body) = body ↔ 0 ≤ n ∧ '\n' ∉ body ∧ body.head? ≠ some ' ' := by
  by_cases nonneg : 0 ≤ n
  · rw [removeSridMatch_nonneg printed nonneg, takeWhile_dropOneSpace_eq_iff]
    simp [nonneg]
  · refine ⟨fun same => ?_, fun conditions => absurd conditions.1 nonneg⟩
    have kept := separator_mem_removeSridMatch printed (by omega) body
    rw [same] at kept
    exact absurd kept noneInBody

/-! ## The round trips -/

/-- `as_ewkt` then `as_wkt` on a plain element whose body has no `;`. -/
theorem asEwkt_asWkt {b text : Text} {n : Int} (known : n ≠ -1) (printed : pyStr n = .ok text)
    (noneInBody : ';' ∉ b) :
    ((⟨b, n, false⟩ : WKTElement).asEwkt >>= WKTElement.asWkt) =
      .ok ⟨removeSridMatch ("SRID=".toList ++ text ++ ';' :: b), n, false⟩ := by
  rw [asEwkt_plain b known, printed, ok_bind,
    init_ewkt (separator_not_mem_pyStr printed) noneInBody (pyInt_pyStr printed) (by simp), ok_bind,
    asWkt_extended]

/-- `as_ewkt` of a plain element: it raises exactly when `str(srid)` does or the body has a `;`, and
otherwise gives an extended element with the same SRID. -/
theorem asEwkt_eq_ok {b : Text} {n : Int} (known : n ≠ -1) (e : WKTElement) :
    (⟨b, n, false⟩ : WKTElement).asEwkt = .ok e ↔
      ∃ text, pyStr n = .ok text ∧ ';' ∉ b ∧ e = ⟨"SRID=".toList ++ text ++ ';' :: b, n, true⟩ := by
  rw [asEwkt_plain b known, bind_eq_ok]
  constructor
  · rintro ⟨text, printed, made⟩
    by_cases inBody : ';' ∈ b
    · exact absurd made (init_ewkt_raises (separator_not_mem_pyStr printed) inBody (by simp) e)
    · rw [init_ewkt (separator_not_mem_pyStr printed) inBody (pyInt_pyStr printed) (by simp)] at made
      cases made
      exact ⟨text, printed, inBody, rfl⟩
  · rintro ⟨text, printed, noneInBody, rfl⟩
    exact ⟨text, printed, init_ewkt (separator_not_mem_pyStr printed) noneInBody (pyInt_pyStr printed) (by simp)⟩

theorem as_ewkt_as_wkt_round_trip :
    ∀ (b : Text) (n : Int), n ≠ -1 → "SRID=".toList.isPrefixOf b = false →
      WKTElement.init b n = .ok ⟨b, n, false⟩ ∧
      ((∃ e, (⟨b, n, false⟩ : WKTElement).asEwkt = .ok e) ↔ (∃ text, pyStr n = .ok text) ∧ ';' ∉ b) ∧
      (∀ e, (⟨b, n, false⟩ : WKTElement).asEwkt = .ok e → e.extended = true ∧ e.srid = n) ∧
      (((⟨b, n, false⟩ : WKTElement).asEwkt >>= WKTElement.asWkt) = .ok ⟨b, n, false⟩ ↔
        (∃ text, pyStr n = .ok text) ∧ 0 ≤ n ∧ ';' ∉ b ∧ '\n' ∉ b ∧ b.head? ≠ some ' ') := by
  intro b n known plain
  refine ⟨init_eq_ok.mpr ⟨rfl, by rw [Option.getD_none, plain], by simp⟩, ⟨?_, ?_⟩, ?_, ⟨?_, ?_⟩⟩
  · rintro ⟨e, converted⟩
    obtain ⟨text, printed, noneInBody, -⟩ := (asEwkt_eq_ok known e).mp converted
    exact ⟨⟨text, printed⟩, noneInBody⟩
  · rintro ⟨⟨text, printed⟩, noneInBody⟩
    exact ⟨_, (asEwkt_eq_ok known _).mpr ⟨text, printed, noneInBody, rfl⟩⟩
  · intro e converted
    obtain ⟨text, -, -, rfl⟩ := (asEwkt_eq_ok known e).mp converted
    exact ⟨rfl, rfl⟩
  · intro back
    obtain ⟨e, converted, -⟩ := bind_eq_ok.mp back
    obtain ⟨text, printed, noneInBody, -⟩ := (asEwkt_eq_ok known e).mp converted
    rw [asEwkt_asWkt known printed noneInBody] at back
    have same := congrArg WKTElement.data (Except.ok.inj back)
    obtain ⟨nonneg, noNewline, noSpace⟩ := (removeSridMatch_eq_iff printed noneInBody).mp same
    exact ⟨⟨text, printed⟩, nonneg, noneInBody, noNewline, noSpace⟩
  · rintro ⟨⟨text, printed⟩, nonneg, noneInBody, noNewline, noSpace⟩
    rw [asEwkt_asWkt known printed noneInBody,
      (removeSridMatch_eq_iff printed noneInBody).mpr ⟨nonneg, noNewline, noSpace⟩]

/-- `WKTElement("POINT(1 1)", 4326)` comes back unchanged from EWKT. -/
theorem point_round_trips_through_ewkt :
    ((⟨"POINT(1 1)".toList, 4326, false⟩ : WKTElement).asEwkt >>= WKTElement.asWkt) =
      .ok ⟨"POINT(1 1)".toList, 4326, false⟩ :=
  (as_ewkt_as_wkt_round_trip "POINT(1 1)".toList 4326 (by decide) rfl).2.2.2.mpr
    ⟨⟨_, rfl⟩, by decide, by decide, by decide, by decide⟩

/-- `WKTElement(" POINT(1 1)", 4326)` loses its leading space on the way through EWKT, and a negative
SRID keeps its `SRID=` prefix in `as_wkt`. -/
theorem plain_round_trip_breaks :
    WKTElement.init " POINT(1 1)".toList 4326 = .ok ⟨" POINT(1 1)".toList, 4326, false⟩ ∧
    ((⟨" POINT(1 1)".toList, 4326, false⟩ : WKTElement).asEwkt >>= WKTElement.asWkt) =
      .ok ⟨"POINT(1 1)".toList, 4326, false⟩ ∧
    ((⟨"POINT(1 1)".toList, -5, false⟩ : WKTElement).asEwkt >>= WKTElement.asWkt) =
      .ok ⟨"SRID=-5;POINT(1 1)".toList, -5, false⟩ :=
  ⟨rfl, rfl, rfl⟩

end GeoAlchemy2.Elements.WktLaws
