import GeoAlchemy2.Python.Numbers
import GeoAlchemy2.Elements.Ewkb

/-!
`WKTElement`: the constructor, which reads the SRID of EWKT text as
`int(data.split(";")[0][5:])`, and the conversions `as_wkt`, which cuts the
`SRID=` prefix with the regular expression `_REMOVE_SRID`, and `as_ewkt`, which
writes it.
-/

namespace GeoAlchemy2.Elements.Wkt
open GeoAlchemy2.Python GeoAlchemy2.Elements.Spatial

/-- A `WKTElement` after `__init__`. -/
structure WKTElement where
  data : Text
  srid : Int
  extended : Bool
  deriving DecidableEq, Repr

/-- `WKTElement(data, srid, extended)`. -/
def WKTElement.init (data : Text) (srid : Int := -1) (extended : Option Bool := none) :
    Except PyError WKTElement :=
  let extended := extended.getD ("SRID=".toList.isPrefixOf data)
  if extended = true ∧ srid = -1 then
    let dataS := data.splitOn ';'
    if dataS.length ≠ 2 then .error (.argumentError ("invalid EWKT string " ++ String.mk data))
    else
      let header := dataS.headD []
      match pyInt (header.drop 5) with
      | some srid => .ok ⟨data, srid, extended⟩
      | none => .error (.argumentError ("invalid EWKT string " ++ String.mk data))
  else .ok ⟨data, srid, extended⟩

/-- `WKTElement.desc`. -/
def WKTElement.desc (e : WKTElement) : Text := e.data

/-- What `__eq__` and `__hash__` compare. -/
def WKTElement.key (e : WKTElement) : SpatialKey := ⟨e.desc, e.srid, e.extended⟩

/-- The optional ` ?` of `_REMOVE_SRID`: one space, if there is one. -/
def dropOneSpace : Text → Text
  | ' ' :: body => body
  | body => body

/-- What the optional group `(SRID=([0-9]+); ?)` of `_REMOVE_SRID` leaves when it matches: it takes
`SRID=`, the longest run of ASCII digits, which must be followed by `;`, and one space if there is
one. -/
def afterSridGroup (data : Text) : Option Text :=
  if "SRID=".toList.isPrefixOf data then
    let tail := data.drop 5
    match tail.dropWhile Char.isDigit with
    | ';' :: rest => if tail.takeWhile Char.isDigit = [] then none else some (dropOneSpace rest)
    | _ => none
  else none

/-- `_REMOVE_SRID.match(data).group(3)`: `(.*)` after the optional group. The pattern is compiled
without `re.DOTALL`, so `.` stops at the first newline. -/
def removeSridMatch (data : Text) : Text :=
  ((afterSridGroup data).getD data).takeWhile (· != '\n')

/-- `WKTElement.as_wkt`. -/
def WKTElement.asWkt (e : WKTElement) : Except PyError WKTElement :=
  if e.extended then WKTElement.init (removeSridMatch e.data) e.srid (some false)
  else WKTElement.init e.data e.srid (some e.extended)

/-- `WKTElement.as_ewkt`. -/
def WKTElement.asEwkt (e : WKTElement) : Except PyError WKTElement :=
  if e.extended = false ∧ e.srid ≠ -1 then do
    let sridText ← pyStr e.srid
    WKTElement.init ("SRID=".toList ++ sridText ++ ';' :: e.data) (-1) (some true)
  else WKTElement.init e.data e.srid (some e.extended)

/-! ## `split(";")` -/

theorem length_splitOn (s : Text) : (s.splitOn ';').length = s.count ';' + 1 := by
  induction s with
  | nil => rfl
  | cons c rest ih =>
    simp only [List.splitOn] at ih ⊢
    rw [List.splitOnP_cons]
    by_cases separator : c = ';'
    · subst separator
      simp [ih]
    · simp [separator, ih, List.count_cons_of_ne (Ne.symm separator)]

theorem headD_splitOn (s : Text) : (s.splitOn ';').headD [] = s.takeWhile (· != ';') := by
  induction s with
  | nil => rfl
  | cons c rest ih =>
    simp only [List.splitOn] at ih ⊢
    rw [List.splitOnP_cons]
    by_cases separator : c = ';'
    · subst separator
      rfl
    · obtain ⟨first, others, split⟩ := List.exists_cons_of_ne_nil (List.splitOnP_ne_nil (· == ';') rest)
      rw [split] at ih ⊢
      simp [separator, ← ih]

/-! ## `__init__` -/

/-- `__init__`, stated once: the flag is the `extended` argument or else whether the text starts with
`SRID=`, and with the flag set and no SRID given, the text has exactly one `;` and the SRID is
`int` of what follows the first five characters before it. -/
theorem init_eq_ok {data : Text} {srid : Int} {extended : Option Bool} {e : WKTElement} :
    WKTElement.init data srid extended = .ok e ↔
      e.data = data ∧ e.extended = extended.getD ("SRID=".toList.isPrefixOf data) ∧
        if e.extended = true ∧ srid = -1 then
          data.count ';' = 1 ∧ pyInt ((data.takeWhile (· != ';')).drop 5) = some e.srid
        else e.srid = srid := by
  obtain ⟨eData, eSrid, eExtended⟩ := e
  unfold WKTElement.init
  dsimp only
  split
  · next parse =>
    rw [length_splitOn, headD_splitOn]
    split
    · next wrongCount =>
      constructor
      · intro made; cases made
      · rintro ⟨-, rfl, fields⟩
        rw [if_pos parse] at fields
        exact absurd (by omega) wrongCount
    · next rightCount =>
      split
      · next value found =>
        constructor
        · intro made
          cases made
          refine ⟨rfl, rfl, ?_⟩
          rw [if_pos parse]
          exact ⟨by omega, found⟩
        · rintro ⟨rfl, rfl, fields⟩
          rw [if_pos parse, found] at fields
          cases fields.2
          rfl
      · next missing =>
        constructor
        · intro made; cases made
        · rintro ⟨-, rfl, fields⟩
          rw [if_pos parse, missing] at fields
          cases fields.2
  · next keep =>
    constructor
    · intro made
      cases made
      refine ⟨rfl, rfl, ?_⟩
      rw [if_neg keep]
    · rintro ⟨rfl, rfl, fields⟩
      rw [if_neg keep] at fields
      rw [fields]

/-- With the flag given as `False`, `__init__` stores its arguments. -/
theorem init_plain (data : Text) (srid : Int) : WKTElement.init data srid (some false) = .ok ⟨data, srid, false⟩ :=
  init_eq_ok.mpr ⟨rfl, rfl, by simp⟩

/-! ## EWKT text -/

theorem sridPrefix_eq : "SRID=".toList = ['S', 'R', 'I', 'D', '='] := rfl

@[simp] theorem isPrefixOf_sridPrefix (rest : Text) : "SRID=".toList.isPrefixOf ("SRID=".toList ++ rest) = true := by
  simp [sridPrefix_eq, List.isPrefixOf]

@[simp] theorem drop_sridPrefix (rest : Text) : ("SRID=".toList ++ rest).drop 5 = rest := by
  simp [sridPrefix_eq]

theorem count_ewkt {text : Text} (noneInText : ';' ∉ text) (body : Text) :
    ("SRID=".toList ++ text ++ ';' :: body).count ';' = body.count ';' + 1 := by
  simp [sridPrefix_eq, List.count_eq_zero.mpr noneInText]

theorem takeWhile_ewkt {text : Text} (noneInText : ';' ∉ text) (body : Text) :
    ("SRID=".toList ++ text ++ ';' :: body).takeWhile (· != ';') = "SRID=".toList ++ text := by
  have before : ∀ c ∈ "SRID=".toList ++ text, (c != ';') = true := by
    have noSeparator : ';' ∉ "SRID=".toList ++ text := by simp [sridPrefix_eq, noneInText]
    intro c member
    simp only [bne_iff_ne, ne_eq]
    rintro rfl
    exact noSeparator member
  rw [List.append_assoc, ← List.append_assoc, List.takeWhile_append_of_pos before]
  simp

/-- EWKT text with one `;`, read with the flag set and no SRID given, stores what `int` makes of the
text between `SRID=` and `;`. -/
theorem init_ewkt {text body : Text} {extended : Option Bool} {value : Int} (noneInText : ';' ∉ text)
    (noneInBody : ';' ∉ body) (parsed : pyInt text = some value) (flag : extended ≠ some false) :
    WKTElement.init ("SRID=".toList ++ text ++ ';' :: body) (-1) extended =
      .ok ⟨"SRID=".toList ++ text ++ ';' :: body, value, true⟩ := by
  have resolved : extended.getD ("SRID=".toList.isPrefixOf ("SRID=".toList ++ text ++ ';' :: body)) = true := by
    cases extended with
    | none => simp [List.append_assoc]
    | some given => cases given <;> simp_all
  refine init_eq_ok.mpr ⟨rfl, resolved.symm, ?_⟩
  rw [if_pos ⟨rfl, rfl⟩, count_ewkt noneInText, List.count_eq_zero.mpr noneInBody, takeWhile_ewkt noneInText,
    drop_sridPrefix]
  exact ⟨rfl, parsed⟩

/-- With a second `;` in the body, the same text makes `__init__` raise. -/
theorem init_ewkt_raises {text body : Text} {extended : Option Bool} (noneInText : ';' ∉ text)
    (inBody : ';' ∈ body) (flag : extended ≠ some false) (e : WKTElement) :
    WKTElement.init ("SRID=".toList ++ text ++ ';' :: body) (-1) extended ≠ .ok e := by
  intro made
  obtain ⟨-, flagIs, fields⟩ := init_eq_ok.mp made
  have set : e.extended = true := by
    rw [flagIs]
    cases extended with
    | none => simp [List.append_assoc]
    | some given => cases given <;> simp_all
  rw [if_pos ⟨set, rfl⟩, count_ewkt noneInText] at fields
  have twice := List.count_pos_iff.mpr inBody
  omega

/-! ## `_REMOVE_SRID` -/

theorem dropOneSpace_of_ne {c : Char} (notSpace : c ≠ ' ') (rest : Text) : dropOneSpace (c :: rest) = c :: rest := by
  unfold dropOneSpace
  split
  · next space => cases space; exact absurd rfl notSpace
  · rfl

/-- After `SRID=`, ASCII digits and `;`, the pattern's group takes one space and `.*` stops at the
first newline. -/
theorem removeSridMatch_digits {digits : Text} (nonempty : digits ≠ []) (allDigits : ∀ c ∈ digits, c.isDigit = true)
    (body : Text) :
    removeSridMatch ("SRID=".toList ++ digits ++ ';' :: body) = (dropOneSpace body).takeWhile (· != '\n') := by
  have dropped : (digits ++ ';' :: body).dropWhile Char.isDigit = ';' :: body := by
    rw [List.dropWhile_append_of_pos allDigits]
    rfl
  have taken : (digits ++ ';' :: body).takeWhile Char.isDigit = digits := by
    rw [List.takeWhile_append_of_pos allDigits]
    simp [show ';'.isDigit = false from rfl]
  simp only [removeSridMatch, afterSridGroup, List.append_assoc, isPrefixOf_sridPrefix, if_true, drop_sridPrefix,
    dropped, taken, nonempty, if_false, Option.getD_some]

/-- After `SRID=-` the pattern's group cannot match, and `.*` keeps the text up to its first newline. -/
theorem removeSridMatch_minus (rest : Text) :
    removeSridMatch ("SRID=".toList ++ '-' :: rest) = ("SRID=".toList ++ '-' :: rest).takeWhile (· != '\n') := by
  simp only [removeSridMatch, afterSridGroup, isPrefixOf_sridPrefix, if_true, drop_sridPrefix]
  rw [List.dropWhile_cons_of_neg (by decide)]
  rfl

/-- `.*` gives the body back exactly when it has no newline and the group took no space. -/
theorem takeWhile_dropOneSpace_eq_iff (body : Text) :
    (dropOneSpace body).takeWhile (· != '\n') = body ↔ '\n' ∉ body ∧ body.head? ≠ some ' ' := by
  cases body with
  | nil => simp [dropOneSpace]
  | cons c rest =>
    by_cases space : c = ' '
    · subst space
      simp only [dropOneSpace, List.head?_cons, ne_eq, not_true_eq_false, and_false, iff_false]
      intro same
      have shorter := congrArg List.length same
      have bound : (rest.takeWhile (· != '\n')).length ≤ rest.length := (List.takeWhile_sublist _).length_le
      simp only [List.length_cons] at shorter
      omega
    · have notSpace : (c :: rest).head? ≠ some ' ' := by simpa using space
      rw [dropOneSpace_of_ne space, List.takeWhile_eq_self_iff]
      constructor
      · intro all
        exact ⟨fun member => by simpa using all '\n' member, notSpace⟩
      · rintro ⟨noNewline, -⟩ x member
        simp only [bne_iff_ne, ne_eq]
        rintro rfl
        exact noNewline member

/-! ## Conversions -/

theorem asWkt_extended (data : Text) (srid : Int) :
    (⟨data, srid, true⟩ : WKTElement).asWkt = .ok ⟨removeSridMatch data, srid, false⟩ :=
  init_plain _ _

theorem asEwkt_plain (data : Text) {srid : Int} (known : srid ≠ -1) :
    (⟨data, srid, false⟩ : WKTElement).asEwkt = (do
      let sridText ← pyStr srid
      WKTElement.init ("SRID=".toList ++ sridText ++ ';' :: data) (-1) (some true)) :=
  if_pos ⟨rfl, known⟩

end GeoAlchemy2.Elements.Wkt
