import GeoAlchemy2.Python.Runtime

/-!
The EWKB header as the specification lays it out (its `WkbSridCodec`). Byte 0
declares the byte order, bytes 1-4 hold the type word, whose bit `0x20000000`
says that an SRID follows, and bytes 5-8 hold that SRID; the geometry body is
never read. `stripSrid` and `injectSrid` are the specification's conversions,
each a no-op when the bit already says what it would make it say. This module
proves their laws; `Wkb` proves that the code's conversions compute them.

It ends with what `_SpatialElement` gives every element class: equality and
hashing read only the description, the SRID and the extended flag, and pickling
keeps exactly these three, the description standing for the data.
-/

namespace GeoAlchemy2.Elements.Ewkb
open GeoAlchemy2.Python

/-- The byte order a byte order byte declares: nonzero is little-endian. -/
def byteOrderOf (byteOrder : UInt8) : ByteOrder :=
  if byteOrder = 0 then .big else .little

/-- The byte order that byte 0 of the buffer declares. -/
def declaredOrder (buffer : Bytes) : ByteOrder := byteOrderOf (buffer.headD 0)

/-- The type word at bytes 1-4, or `0` when the buffer holds no full type word. -/
def typeWord (buffer : Bytes) : Nat :=
  if 5 ≤ buffer.length then (declaredOrder buffer).word (pySlice buffer 1 5) else 0

/-- `extractSrid`, first half: the type word's SRID bit is set. -/
def hasSrid (buffer : Bytes) : Bool := typeWord buffer &&& 0x20000000 ≠ 0

/-- `extractSrid`, second half: the SRID stored at bytes 5-8. -/
def embeddedSrid (buffer : Bytes) : Nat := (declaredOrder buffer).word (pySlice buffer 5 9)

def setSridBit (word : Nat) : Nat := word ||| 0x20000000

def clearSridBit (word : Nat) : Nat := word &&& 0xDFFFFFFF

/-- Byte 0, the type word with its SRID bit set, `srid`, and the buffer from byte 5 on. -/
def insertSrid (buffer : Bytes) (srid : Nat) : Bytes :=
  buffer.take 1 ++ (declaredOrder buffer).pack 4 (setSridBit (typeWord buffer)) ++
    (declaredOrder buffer).pack 4 srid ++ buffer.drop 5

/-- Byte 0, the type word with its SRID bit cleared, and the buffer from byte 9 on. -/
def removeSrid (buffer : Bytes) : Bytes :=
  buffer.take 1 ++ (declaredOrder buffer).pack 4 (clearSridBit (typeWord buffer)) ++ buffer.drop 9

/-- `injectSrid(buffer, srid)`: a no-op when the SRID bit is already set. -/
def injectSrid (buffer : Bytes) (srid : Nat) : Bytes :=
  if hasSrid buffer then buffer else insertSrid buffer srid

/-- `stripSrid(buffer)`: a no-op when the SRID bit is already clear. -/
def stripSrid (buffer : Bytes) : Bytes :=
  if hasSrid buffer then removeSrid buffer else buffer

/-! ## Bits -/

theorem testBit_sridFlag (i : Nat) : (0x20000000 : Nat).testBit i = decide (i = 29) := by
  rw [show (0x20000000 : Nat) = 2 ^ 29 by rfl, Nat.testBit_two_pow]
  exact decide_eq_decide.mpr eq_comm

theorem testBit_sridMask (i : Nat) : (0xDFFFFFFF : Nat).testBit i = decide (i < 32 ∧ i ≠ 29) := by
  by_cases small : i < 32
  · have table : ∀ i < 32, (0xDFFFFFFF : Nat).testBit i = decide (i ≠ 29) := by decide
    simp [table i small, small]
  · have above : (0xDFFFFFFF : Nat) < 2 ^ i :=
      lt_of_lt_of_le (by decide) (Nat.pow_le_pow_right (by decide) (by omega : 32 ≤ i))
    simp [Nat.testBit_eq_false_of_lt above, small]

theorem sridFlag_iff (word : Nat) : word &&& 0x20000000 ≠ 0 ↔ word.testBit 29 = true := by
  constructor
  · intro set
    by_contra clear
    apply set
    apply Nat.eq_of_testBit_eq
    intro i
    by_cases at29 : i = 29
    · subst at29
      simp [clear]
    · simp [testBit_sridFlag, at29]
  · intro set zero
    have bit := congrArg (Nat.testBit · 29) zero
    simp [set, testBit_sridFlag] at bit

theorem testBit_high {word : Nat} (fits : word < 2 ^ 32) (i : Nat) (above : 32 ≤ i) :
    word.testBit i = false :=
  Nat.testBit_eq_false_of_lt (lt_of_lt_of_le fits (Nat.pow_le_pow_right (by decide) above))

theorem setSridBit_lt {word : Nat} (fits : word < 2 ^ 32) : setSridBit word < 2 ^ 32 :=
  Nat.or_lt_two_pow fits (by decide)

theorem clearSridBit_lt (word : Nat) : clearSridBit word < 2 ^ 32 :=
  Nat.and_lt_two_pow word (by decide)

theorem testBit_setSridBit (word i : Nat) :
    (setSridBit word).testBit i = (word.testBit i || decide (i = 29)) := by
  simp [setSridBit, testBit_sridFlag]

theorem testBit_clearSridBit (word i : Nat) :
    (clearSridBit word).testBit i = (word.testBit i && decide (i < 32 ∧ i ≠ 29)) := by
  simp [clearSridBit, testBit_sridMask]

theorem clearSridBit_setSridBit {word : Nat} (fits : word < 2 ^ 32) (clear : word.testBit 29 = false) :
    clearSridBit (setSridBit word) = word := by
  apply Nat.eq_of_testBit_eq
  intro i
  rw [testBit_clearSridBit, testBit_setSridBit]
  by_cases at29 : i = 29
  · subst at29
    simp [clear]
  · by_cases small : i < 32
    · simp [at29, small]
    · simp [at29, small, testBit_high fits i (by omega)]

theorem setSridBit_clearSridBit {word : Nat} (fits : word < 2 ^ 32) (set : word.testBit 29 = true) :
    setSridBit (clearSridBit word) = word := by
  apply Nat.eq_of_testBit_eq
  intro i
  rw [testBit_setSridBit, testBit_clearSridBit]
  by_cases at29 : i = 29
  · subst at29
    simp [set]
  · by_cases small : i < 32
    · simp [at29, small]
    · simp [at29, small, testBit_high fits i (by omega)]

/-! ## Reading a header -/

/-- A buffer with a full type word splits as byte 0, the type bytes and the rest. -/
theorem split_header {buffer : Bytes} (long : 5 ≤ buffer.length) :
    ∃ order typeBytes rest, buffer = order :: (typeBytes ++ rest) ∧ typeBytes.length = 4 := by
  match buffer, long with
  | x :: a :: b :: c :: d :: rest, _ => exact ⟨x, [a, b, c, d], rest, rfl, rfl⟩

@[simp] theorem declaredOrder_cons (order : UInt8) (rest : Bytes) :
    declaredOrder (order :: rest) = byteOrderOf order := rfl

theorem typeWord_cons {order : UInt8} {typeBytes rest : Bytes} (four : typeBytes.length = 4) :
    typeWord (order :: (typeBytes ++ rest)) = (byteOrderOf order).word typeBytes := by
  have long : 5 ≤ (order :: (typeBytes ++ rest)).length := by simp [four]
  simp only [typeWord, if_pos long, pySlice, List.drop_succ_cons, List.drop_zero,
    declaredOrder_cons, List.take_left' four]

theorem typeWord_lt (buffer : Bytes) : typeWord buffer < 2 ^ 32 := by
  unfold typeWord
  split
  · have bound := (declaredOrder buffer).word_lt (pySlice buffer 1 5)
    have four : (pySlice buffer 1 5).length = 4 := by simp [pySlice]; omega
    rw [four] at bound
    exact lt_of_lt_of_le bound (by decide)
  · decide

theorem embeddedSrid_cons {order : UInt8} {typeBytes sridBytes rest : Bytes} (four : typeBytes.length = 4)
    (sridFour : sridBytes.length = 4) :
    embeddedSrid (order :: (typeBytes ++ (sridBytes ++ rest))) = (byteOrderOf order).word sridBytes := by
  simp only [embeddedSrid, pySlice, List.drop_succ_cons, List.drop_zero,
    declaredOrder_cons, List.drop_left' four, List.take_left' sridFour]

theorem declaredOrder_take {buffer : Bytes} {n : Nat} (positive : 0 < n) :
    declaredOrder (buffer.take n) = declaredOrder buffer := by
  cases buffer <;> cases n <;> first | omega | rfl

theorem typeWord_take {buffer : Bytes} {n : Nat} (long : 5 ≤ n) : typeWord (buffer.take n) = typeWord buffer := by
  unfold typeWord
  rw [declaredOrder_take (by omega : 0 < n)]
  by_cases enough : 5 ≤ buffer.length
  · have sliced : pySlice (buffer.take n) 1 5 = pySlice buffer 1 5 := by
      simp only [pySlice, List.drop_take, List.take_take]
      congr 1
      omega
    rw [if_pos (by simp; omega), if_pos enough, sliced]
  · rw [if_neg (by simp; omega), if_neg enough]

theorem hasSrid_take {buffer : Bytes} {n : Nat} (long : 5 ≤ n) : hasSrid (buffer.take n) = hasSrid buffer := by
  rw [hasSrid, hasSrid, typeWord_take long]

theorem embeddedSrid_take {buffer : Bytes} {n : Nat} (long : 9 ≤ n) :
    embeddedSrid (buffer.take n) = embeddedSrid buffer := by
  have sliced : pySlice (buffer.take n) 5 9 = pySlice buffer 5 9 := by
    simp only [pySlice, List.drop_take, List.take_take]
    congr 1
    omega
  rw [embeddedSrid, embeddedSrid, declaredOrder_take (by omega : 0 < n), sliced]

theorem embeddedSrid_lt (buffer : Bytes) : embeddedSrid buffer < 2 ^ 32 := by
  have bound := (declaredOrder buffer).word_lt (pySlice buffer 5 9)
  have short : (pySlice buffer 5 9).length ≤ 4 := by
    simp only [pySlice, List.length_take]
    exact Nat.min_le_left _ _
  exact lt_of_lt_of_le bound (le_trans (Nat.pow_le_pow_right (by decide) short) (by decide))

theorem word_lt_of_four (order : ByteOrder) {typeBytes : Bytes} (four : typeBytes.length = 4) :
    order.word typeBytes < 2 ^ 32 := by
  simpa [four] using order.word_lt typeBytes

/-! ## Laws -/

theorem hasSrid_cons {order : UInt8} {typeBytes rest : Bytes} (four : typeBytes.length = 4) :
    hasSrid (order :: (typeBytes ++ rest)) = ((byteOrderOf order).word typeBytes).testBit 29 := by
  rw [hasSrid, typeWord_cons four]
  cases bit : ((byteOrderOf order).word typeBytes).testBit 29
  · simpa using mt (sridFlag_iff _).mp (by simp [bit])
  · simpa using (sridFlag_iff _).mpr bit

theorem insertSrid_cons (order : UInt8) (rest : Bytes) (srid : Nat) :
    insertSrid (order :: rest) srid =
      order :: ((byteOrderOf order).pack 4 (setSridBit (typeWord (order :: rest))) ++
        ((byteOrderOf order).pack 4 srid ++ rest.drop 4)) := by
  simp [insertSrid]

theorem removeSrid_cons (order : UInt8) (rest : Bytes) :
    removeSrid (order :: rest) =
      order :: ((byteOrderOf order).pack 4 (clearSridBit (typeWord (order :: rest))) ++ rest.drop 8) := by
  simp [removeSrid]

theorem typeWord_pack {order : UInt8} {word : Nat} (fits : word < 2 ^ 32) (rest : Bytes) :
    typeWord (order :: ((byteOrderOf order).pack 4 word ++ rest)) = word := by
  rw [typeWord_cons (ByteOrder.length_pack _ _ _), ByteOrder.word_pack_of_lt _ fits]

/-- The SRID bit of a header whose type word was written by `pack`. -/
theorem hasSrid_pack (order : UInt8) {word : Nat} (fits : word < 2 ^ 32) (rest : Bytes) :
    hasSrid (order :: ((byteOrderOf order).pack 4 word ++ rest)) = word.testBit 29 := by
  rw [hasSrid_cons (ByteOrder.length_pack _ _ _), ByteOrder.word_pack_of_lt _ fits]

theorem embeddedSrid_pack (order : UInt8) (word : Nat) {srid : Nat} (fits : srid < 2 ^ 32) (rest : Bytes) :
    embeddedSrid (order :: ((byteOrderOf order).pack 4 word ++ ((byteOrderOf order).pack 4 srid ++ rest))) = srid := by
  rw [embeddedSrid_cons (ByteOrder.length_pack _ _ _) (ByteOrder.length_pack _ _ _),
    ByteOrder.word_pack_of_lt _ fits]

theorem hasSrid_insertSrid (order : UInt8) (rest : Bytes) (srid : Nat) :
    hasSrid (insertSrid (order :: rest) srid) = true := by
  rw [insertSrid_cons, hasSrid_pack _ (setSridBit_lt (typeWord_lt _)), testBit_setSridBit]
  simp

theorem hasSrid_removeSrid (order : UInt8) (rest : Bytes) : hasSrid (removeSrid (order :: rest)) = false := by
  rw [removeSrid_cons, hasSrid_pack _ (clearSridBit_lt _), testBit_clearSridBit]
  simp

/-- Inserting an SRID into a buffer without one and removing it again gives the buffer back. -/
theorem removeSrid_insertSrid {buffer : Bytes} (long : 5 ≤ buffer.length) (clear : hasSrid buffer = false)
    (srid : Nat) : removeSrid (insertSrid buffer srid) = buffer := by
  obtain ⟨order, typeBytes, rest, rfl, four⟩ := split_header long
  have typeFits := word_lt_of_four (byteOrderOf order) four
  have bitClear : ((byteOrderOf order).word typeBytes).testBit 29 = false := by rwa [hasSrid_cons four] at clear
  rw [insertSrid_cons, removeSrid_cons, typeWord_pack (setSridBit_lt (typeWord_lt _)), typeWord_cons four,
    clearSridBit_setSridBit typeFits bitClear, ByteOrder.pack_word_of_length _ four, List.drop_left' four,
    ← List.append_assoc, List.drop_left' (by simp)]

/-- Removing the SRID of a buffer with one and inserting it again gives the buffer back. -/
theorem insertSrid_removeSrid {buffer : Bytes} (long : 9 ≤ buffer.length) (set : hasSrid buffer = true) :
    insertSrid (removeSrid buffer) (embeddedSrid buffer) = buffer := by
  obtain ⟨order, typeBytes, rest, rfl, four⟩ := split_header (by omega : 5 ≤ buffer.length)
  obtain ⟨sridBytes, body, rfl, sridFour⟩ : ∃ sridBytes body, rest = sridBytes ++ body ∧ sridBytes.length = 4 :=
    ⟨rest.take 4, rest.drop 4, (List.take_append_drop 4 rest).symm, by simp [four] at long; simp; omega⟩
  have typeFits := word_lt_of_four (byteOrderOf order) four
  have bitSet : ((byteOrderOf order).word typeBytes).testBit 29 = true := by rwa [hasSrid_cons four] at set
  rw [removeSrid_cons, insertSrid_cons, typeWord_pack (clearSridBit_lt _), typeWord_cons four,
    embeddedSrid_cons four sridFour, setSridBit_clearSridBit typeFits bitSet,
    ByteOrder.pack_word_of_length _ four, ByteOrder.pack_word_of_length _ sridFour]
  have dropped : (typeBytes ++ (sridBytes ++ body)).drop 8 = body := by
    rw [← List.append_assoc, List.drop_left' (by simp [four, sridFour])]
  simp [dropped]

/-- The specification's round trip: `stripSrid(injectSrid(buffer, s)) == buffer`. -/
theorem stripSrid_injectSrid {buffer : Bytes} (long : 5 ≤ buffer.length) (clear : hasSrid buffer = false)
    (srid : Nat) : stripSrid (injectSrid buffer srid) = buffer := by
  obtain ⟨order, rest, rfl⟩ : ∃ order rest, buffer = order :: rest :=
    List.exists_cons_of_ne_nil (List.ne_nil_of_length_pos (by omega))
  rw [injectSrid, if_neg (by simp [clear]), stripSrid, if_pos (hasSrid_insertSrid _ _ _),
    removeSrid_insertSrid long clear]

/-- The specification's round trip: `injectSrid(stripSrid(b), srid) == b` for the SRID `b` embeds. -/
theorem injectSrid_stripSrid {buffer : Bytes} (long : 9 ≤ buffer.length) (set : hasSrid buffer = true) :
    injectSrid (stripSrid buffer) (embeddedSrid buffer) = buffer := by
  obtain ⟨order, rest, rfl⟩ : ∃ order rest, buffer = order :: rest :=
    List.exists_cons_of_ne_nil (List.ne_nil_of_length_pos (by omega))
  rw [stripSrid, if_pos set, injectSrid, if_neg (by simp [hasSrid_removeSrid]), insertSrid_removeSrid long set]

theorem length_insertSrid {buffer : Bytes} (long : 5 ≤ buffer.length) (srid : Nat) :
    (insertSrid buffer srid).length = buffer.length + 4 := by
  simp only [insertSrid, List.length_append, List.length_take, List.length_drop, ByteOrder.length_pack]
  omega

theorem length_removeSrid {buffer : Bytes} (long : 9 ≤ buffer.length) :
    (removeSrid buffer).length = buffer.length - 4 := by
  simp only [removeSrid, List.length_append, List.length_take, List.length_drop, ByteOrder.length_pack]
  omega

/-- Inserting an SRID keeps a buffer's geometry. -/
theorem stripSrid_insertSrid {buffer : Bytes} (long : 5 ≤ buffer.length) (clear : hasSrid buffer = false)
    (srid : Nat) : stripSrid (insertSrid buffer srid) = stripSrid buffer := by
  have inserted : injectSrid buffer srid = insertSrid buffer srid := if_neg (by simp [clear])
  rw [← inserted, stripSrid_injectSrid long clear, stripSrid, if_neg (by simp [clear])]

/-- Removing the SRID of a buffer with one keeps its geometry. -/
theorem stripSrid_removeSrid {buffer : Bytes} (set : hasSrid buffer = true) :
    stripSrid (removeSrid buffer) = stripSrid buffer := by
  cases buffer with
  | nil => simp [hasSrid, typeWord] at set
  | cons order rest => rw [stripSrid, if_neg (by simp [hasSrid_removeSrid]), stripSrid, if_pos set]

/-- A buffer is determined by its geometry, its SRID bit and, when that is set, the SRID it embeds. -/
theorem eq_of_stripSrid_eq {buffer buffer' : Bytes} (strip : stripSrid buffer = stripSrid buffer')
    (flag : hasSrid buffer = hasSrid buffer')
    (srid : hasSrid buffer = true → 9 ≤ buffer.length ∧ 9 ≤ buffer'.length ∧ embeddedSrid buffer = embeddedSrid buffer') :
    buffer = buffer' := by
  cases set : hasSrid buffer
  · simpa only [stripSrid, ← flag, set, Bool.false_eq_true, if_false] using strip
  · obtain ⟨long, long', sameSrid⟩ := srid set
    calc buffer = injectSrid (stripSrid buffer) (embeddedSrid buffer) := (injectSrid_stripSrid long set).symm
      _ = injectSrid (stripSrid buffer') (embeddedSrid buffer') := by rw [strip, sameSrid]
      _ = buffer' := injectSrid_stripSrid long' (flag ▸ set)

end GeoAlchemy2.Elements.Ewkb

/-! ## `_SpatialElement` -/

namespace GeoAlchemy2.Elements.Spatial
open GeoAlchemy2.Python

/-- The triple `(desc, srid, extended)` that `__eq__`, `__hash__` and `__getstate__` read. -/
structure SpatialKey where
  desc : Text
  srid : Int
  extended : Bool
  deriving DecidableEq, Repr

/-- `_SpatialElement.__eq__`. -/
def SpatialKey.eq (a b : SpatialKey) : Bool :=
  a.extended == b.extended && a.srid == b.srid && a.desc == b.desc

/-- `_SpatialElement.__hash__`: Python's `hash` of the tuple `(desc, srid, extended)`. -/
def SpatialKey.hash (pyHash : Text × Int × Bool → Int) (k : SpatialKey) : Int :=
  pyHash (k.desc, k.srid, k.extended)

theorem SpatialKey.eq_iff {a b : SpatialKey} : a.eq b = true ↔ a = b := by
  cases a
  cases b
  simp only [SpatialKey.eq, Bool.and_eq_true, beq_iff_eq, SpatialKey.mk.injEq]
  tauto

end GeoAlchemy2.Elements.Spatial
