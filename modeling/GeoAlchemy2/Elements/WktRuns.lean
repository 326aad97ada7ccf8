import GeoAlchemy2.Elements.WktLaws

/-!
Runs of `WKTElement` conversions. Every element the constructor builds is what the constructor
builds again from its own fields, and `as_wkt` and `as_ewkt` keep this so. Along any run the SRID
never changes, even where `as_ewkt` writes it out and reads it back, and `as_ewkt` applied to its
own result gives that result back. The text itself is not kept: `WktLaws` shows what `as_wkt`
drops.
-/

namespace GeoAlchemy2.Elements.WktRuns
open GeoAlchemy2.Python GeoAlchemy2.Elements.Wkt GeoAlchemy2.Elements.WktLaws

/-- One conversion, `e.as_wkt()` or `e.as_ewkt()`, where it returns. -/
def Converts (e e' : WKTElement) : Prop := e.asWkt = .ok e' ∨ e.asEwkt = .ok e'

/-- `WKTElement(e.data, e.srid, e.extended)` builds `e` again. -/
def Settled (e : WKTElement) : Prop := WKTElement.init e.data e.srid (some e.extended) = .ok e

section Settled
variable {e e' : WKTElement}

theorem settled_plain (data : Text) (srid : Int) : Settled ⟨data, srid, false⟩ := init_plain data srid

/-- The constructor builds settled elements: an SRID it parsed parses again to itself. -/
theorem settled_init {data : Text} {srid : Int} {extended : Option Bool} (made : WKTElement.init data srid extended = .ok e) :
    Settled e := by
  obtain ⟨same, -, stored⟩ := init_eq_ok.mp made
  refine init_eq_ok.mpr ⟨rfl, rfl, ?_⟩
  split
  · next parse =>
    split at stored
    · exact same ▸ stored
    · next given => exact absurd ⟨parse.1, stored ▸ parse.2⟩ given
  · rfl

/-- `as_wkt` never raises: it keeps the SRID and clears the flag. -/
theorem asWkt_eq (e : WKTElement) :
    e.asWkt = .ok ⟨if e.extended then removeSridMatch e.data else e.data, e.srid, false⟩ := by
  obtain ⟨data, srid, extended⟩ := e
  cases extended
  · exact init_plain data srid
  · exact init_plain _ srid

/-- A settled element that is extended, or has no SRID, is its own `as_ewkt()`. -/
theorem Settled.asEwkt_self (settled : Settled e) (keep : e.extended = true ∨ e.srid = -1) : e.asEwkt = .ok e := by
  rw [WKTElement.asEwkt, if_neg fun ⟨plain, known⟩ => keep.elim (fun set => by simp [set] at plain) known]
  exact settled

/-- `as_ewkt` of a settled element is settled, with the same SRID, and extended unless it has no SRID. -/
theorem Settled.asEwkt (settled : Settled e) (made : e.asEwkt = .ok e') :
    Settled e' ∧ e'.srid = e.srid ∧ (e'.extended = true ∨ e'.srid = -1) := by
  obtain ⟨data, srid, extended⟩ := e
  by_cases insert : extended = false ∧ srid ≠ -1
  · obtain ⟨rfl, known⟩ := insert
    obtain ⟨text, -, -, rfl⟩ := (asEwkt_eq_ok known e').mp made
    exact ⟨init_eq_ok.mpr ⟨rfl, rfl, by simp [known]⟩, rfl, .inl rfl⟩
  · have keep : extended = true ∨ srid = -1 := by
      simpa only [not_and_or, Bool.not_eq_false, not_not] using insert
    rw [settled.asEwkt_self keep] at made
    cases made
    exact ⟨settled, rfl, keep⟩

/-- Each conversion keeps an element settled and its SRID; by induction, so does every run. -/
theorem settled_run {first : WKTElement} (settled : Settled first) (run : Relation.ReflTransGen Converts first e) :
    Settled e ∧ e.srid = first.srid := by
  induction run with
  | refl => exact ⟨settled, rfl⟩
  | tail _ step ih =>
    obtain ⟨settledMid, sridMid⟩ := ih
    rcases step with made | made
    · rw [asWkt_eq] at made
      cases made
      exact ⟨settled_plain _ _, sridMid⟩
    · obtain ⟨settled', srid', -⟩ := settledMid.asEwkt made
      exact ⟨settled', srid'.trans sridMid⟩

end Settled

/-- Along any run of conversions from an element the constructor builds, the SRID stays the one it
read or was given, and `as_ewkt` returns its own result unchanged. -/
theorem wkt_runs_keep_srid (data : Text) (srid : Int) (extended : Option Bool) (first e : WKTElement)
    (made : WKTElement.init data srid extended = .ok first) (run : Relation.ReflTransGen Converts first e) :
    e.srid = first.srid ∧ ∀ e', e.asEwkt = .ok e' → e'.asEwkt = .ok e' := by
  obtain ⟨settled, sridIs⟩ := settled_run (settled_init made) run
  refine ⟨sridIs, fun e' converted => ?_⟩
  obtain ⟨settled', -, keep⟩ := settled.asEwkt converted
  exact settled'.asEwkt_self keep

/-- `SRID=4326;POINT(1 1)` through `as_wkt` and back through `as_ewkt`. -/
theorem ewkt_point_keeps_srid :
    (⟨"SRID=4326;POINT(1 1)".toList, 4326, true⟩ : WKTElement).srid = 4326 ∧
      ∀ e', (⟨"SRID=4326;POINT(1 1)".toList, 4326, true⟩ : WKTElement).asEwkt = .ok e' → e'.asEwkt = .ok e' :=
  wkt_runs_keep_srid "SRID=4326;POINT(1 1)".toList (-1) none ⟨"SRID=4326;POINT(1 1)".toList, 4326, true⟩ _ (by rfl)
    ((Relation.ReflTransGen.single (show Converts ⟨"SRID=4326;POINT(1 1)".toList, 4326, true⟩
      ⟨"POINT(1 1)".toList, 4326, false⟩ from Or.inl rfl)).tail (Or.inr rfl))

end GeoAlchemy2.Elements.WktRuns
