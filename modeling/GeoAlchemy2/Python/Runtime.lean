import Mathlib

/-!
The parts of the Python runtime that `geoalchemy2.elements` and the raster
decoder of the gallery rely on: exceptions with their messages, `str` and
`bytes` payloads, byte indexing, and the fixed-width words of `struct` and
`int.to_bytes`. A `memoryview` is read as the `bytes` it views; the two differ
only in the text of the `IndexError` an index past the end raises, which is
left out.
-/

namespace GeoAlchemy2.Python

/-- Exceptions raised on the modelled paths. `binasciiError` is `binascii.Error`,
a subclass of `ValueError`; `argumentError` is `geoalchemy2.exc.ArgumentError`.
An `IndexError` carries no text: `bytes` says "index out of range" and
`memoryview` "index out of bounds on dimension 1". -/
inductive PyError where
  | valueError (message : String)
  | binasciiError (message : String)
  | indexError
  | keyError (message : String)
  | structError (message : String)
  | overflowError (message : String)
  | argumentError (message : String)
  deriving DecidableEq, Repr

/-- `except ValueError as e: raise ValueError(pre + str(e))`: a `ValueError`, `binascii.Error`
among them, is raised again with `pre` before its message, and any other exception passes. -/
def reraiseValueError {α : Type} (pre : String) : PyError → Except PyError α
  | .valueError message | .binasciiError message => .error (.valueError (pre ++ message))
  | other => .error other

theorem reraiseValueError_ne_ok {α : Type} (pre : String) (e : PyError) (a : α) : reraiseValueError pre e ≠ .ok a := by
  cases e <;> nofun

/-- Python `str`, as its sequence of code points. Lean's `Char` holds Unicode scalar values only, so
a `str` with a lone surrogate (U+D800 to U+DFFF) is outside the model. -/
abbrev Text := List Char

/-- The contents of a `bytes`, `bytearray` or `memoryview`. -/
abbrev Bytes := List UInt8

/-- The `str | bytes | memoryview` argument of the element constructors. -/
inductive Payload where
  | text (value : Text)
  | binary (value : Bytes)
  deriving DecidableEq, Repr

/-! ## `Except` -/

section Except
variable {ε α β : Type}

@[simp] theorem ok_bind (a : α) (f : α → Except ε β) : (Except.ok a >>= f) = f a := rfl

@[simp] theorem error_bind (e : ε) (f : α → Except ε β) : (Except.error e >>= f) = Except.error e := rfl

@[simp] theorem map_ok (a : α) (f : α → β) : (f <$> (Except.ok a : Except ε α)) = Except.ok (f a) := rfl

@[simp] theorem map_error (e : ε) (f : α → β) : (f <$> (Except.error e : Except ε α)) = Except.error e := rfl

@[simp] theorem pure_eq_ok (a : α) : (pure a : Except ε α) = Except.ok a := rfl

@[simp] theorem throw_eq_error (e : ε) : (throw e : Except ε α) = Except.error e := rfl

@[simp] theorem tryCatch_ok (a : α) (handler : ε → Except ε α) : tryCatch (Except.ok a) handler = .ok a := rfl

@[simp] theorem tryCatch_error (e : ε) (handler : ε → Except ε α) : tryCatch (Except.error e) handler = handler e := rfl

theorem bind_eq_ok {x : Except ε α} {f : α → Except ε β} {r : β} :
    (x >>= f) = .ok r ↔ ∃ a, x = .ok a ∧ f a = .ok r := by
  cases x <;> simp

/-- Two computations both raise, or both return results related by `rel`. -/
def SameOutcome (rel : α → β → Prop) : Except ε α → Except ε β → Prop
  | .ok a, .ok b => rel a b
  | .error _, .error _ => True
  | _, _ => False

theorem mapM_of_ok {f : α → Except ε β} {g : α → β} :
    ∀ {l : List α}, (∀ x ∈ l, f x = .ok (g x)) → l.mapM f = .ok (l.map g)
  | [], _ => rfl
  | x :: rest, each => by
    rw [List.mapM_cons, each x (List.mem_cons_self x rest),
      mapM_of_ok fun y member => each y (List.mem_cons_of_mem x member)]
    rfl

theorem SameOutcome.bind {γ δ : Type} {inner : α → β → Prop} {outer : γ → δ → Prop} {x : Except ε α}
    {y : Except ε β} {f : α → Except ε γ} {g : β → Except ε δ} (first : SameOutcome inner x y)
    (next : ∀ a b, inner a b → SameOutcome outer (f a) (g b)) : SameOutcome outer (x >>= f) (y >>= g) := by
  cases x <;> cases y <;> first | exact first.elim | exact next _ _ first | trivial

theorem SameOutcome.refl (x : Except ε α) : SameOutcome Eq x x := by
  cases x <;> trivial

theorem SameOutcome.of_errors {rel : α → β → Prop} {x : Except ε α} {y : Except ε β}
    (left : ∀ a, x ≠ .ok a) (right : ∀ b, y ≠ .ok b) : SameOutcome rel x y := by
  cases x with
  | ok a => exact absurd rfl (left a)
  | error =>
    cases y with
    | ok b => exact absurd rfl (right b)
    | error => trivial

theorem SameOutcome.mono {rel rel' : α → β → Prop} {x : Except ε α} {y : Except ε β} (same : SameOutcome rel x y)
    (weaker : ∀ a b, rel a b → rel' a b) : SameOutcome rel' x y := by
  cases x <;> cases y <;> first | exact weaker _ _ same | exact same

theorem SameOutcome.eq_ok {x y : Except ε α} {a : α} (same : SameOutcome Eq x y) (returned : x = .ok a) :
    y = .ok a := by
  subst returned
  cases y with
  | ok b => exact congrArg Except.ok same.symm
  | error => exact same.elim

theorem SameOutcome.exists_ok_left {rel : α → β → Prop} {x : Except ε α} {b : β} (same : SameOutcome rel x (.ok b)) :
    ∃ a, x = .ok a ∧ rel a b := by
  cases x with
  | ok a => exact ⟨a, rfl, same⟩
  | error => exact same.elim

theorem tryCatch_eq_ok {x : Except ε α} {handler : ε → Except ε α} {a : α} (raises : ∀ e a, handler e ≠ .ok a) :
    tryCatch x handler = .ok a ↔ x = .ok a := by
  cases x with
  | ok b => rfl
  | error e => exact ⟨fun caught => absurd caught (raises e a), nofun⟩

theorem SameOutcome.tryCatch {rel : α → β → Prop} {x : Except ε α} {y : Except ε β}
    {left : ε → Except ε α} {right : ε → Except ε β} (same : SameOutcome rel x y)
    (leftRaises : ∀ e a, left e ≠ .ok a) (rightRaises : ∀ e b, right e ≠ .ok b) :
    SameOutcome rel (tryCatch x left) (tryCatch y right) := by
  cases x <;> cases y <;> first | exact same.elim | exact same | exact .of_errors (leftRaises _) (rightRaises _)

end Except

/-- `b[i]` on a byte string. -/
def byteAt (b : Bytes) (i : Nat) : Except PyError UInt8 :=
  match b[i]? with
  | some x => .ok x
  | none => .error .indexError

@[simp] theorem byteAt_cons_zero (x : UInt8) (rest : Bytes) : byteAt (x :: rest) 0 = .ok x := by
  simp [byteAt]

@[simp] theorem byteAt_nil (i : Nat) : byteAt [] i = .error .indexError := by
  simp [byteAt]

/-- `s[start:stop]`, for `0 ≤ start`. -/
def pySlice {α : Type} (s : List α) (start stop : Nat) : List α := (s.drop start).take (stop - start)

theorem length_pySlice {α : Type} {s : List α} {start stop : Nat} (inside : stop ≤ s.length) :
    (pySlice s start stop).length = stop - start := by
  simp only [pySlice, List.length_take, List.length_drop]
  omega

theorem pySlice_pySlice {α : Type} (s : List α) {start stop first last : Nat} (ordered : first ≤ last)
    (inside : last ≤ stop - start) : pySlice (pySlice s start stop) first last = pySlice s (start + first) (start + last) := by
  simp only [pySlice, List.drop_take, List.drop_drop, List.take_take]
  congr 1
  omega

theorem pySlice_take {α : Type} (s : List α) {start stop n : Nat} (inside : stop ≤ n) :
    pySlice (s.take n) start stop = pySlice s start stop := by
  simp only [pySlice, List.drop_take, List.take_take]
  congr 1
  omega

theorem pySlice_append_left {α : Type} (xs ys : List α) {start stop : Nat} (inside : stop ≤ xs.length) :
    pySlice (xs ++ ys) start stop = pySlice xs start stop := by
  rw [← pySlice_take (xs ++ ys) inside, List.take_left]

theorem pySlice_map_range {α : Type} (f : Nat → α) {n start length : Nat} (inside : start + length ≤ n) :
    pySlice ((List.range n).map f) start (start + length) = (List.range length).map fun j => f (start + j) := by
  apply List.ext_getElem
  · simp only [pySlice, List.length_take, List.length_drop, List.length_map, List.length_range]
    omega
  · intro j inSlice inRange
    simp [pySlice]

/-! ## Words -/

/-- The natural number whose little-endian bytes are `bytes`. -/
def wordLE : Bytes → Nat
  | [] => 0
  | b :: bs => b.toNat + 256 * wordLE bs

/-- The `width` little-endian bytes of `n`; bits above `8 * width` are dropped. -/
def packLE : Nat → Nat → Bytes
  | 0, _ => []
  | width + 1, n => UInt8.ofNat n :: packLE width (n / 256)

@[simp] theorem wordLE_nil : wordLE [] = 0 := rfl

@[simp] theorem wordLE_cons (b : UInt8) (bs : Bytes) : wordLE (b :: bs) = b.toNat + 256 * wordLE bs := rfl

@[simp] theorem length_packLE (width n : Nat) : (packLE width n).length = width := by
  induction width generalizing n with
  | zero => rfl
  | succ width ih => simp [packLE, ih]

@[simp] theorem toNat_ofNat_byte (n : Nat) : (UInt8.ofNat n).toNat = n % 256 := rfl

theorem wordLE_packLE (width n : Nat) : wordLE (packLE width n) = n % 256 ^ width := by
  induction width generalizing n with
  | zero => simp [packLE, Nat.mod_one]
  | succ width ih =>
    simp only [packLE, wordLE_cons, toNat_ofNat_byte, ih, Nat.pow_succ', Nat.mod_mul]

theorem wordLE_lt (bytes : Bytes) : wordLE bytes < 256 ^ bytes.length := by
  induction bytes with
  | nil => simp
  | cons b bs ih =>
    have small := UInt8.toNat_lt_size b
    simp only [wordLE_cons, List.length_cons, Nat.pow_succ]
    change b.toNat < 256 at small
    omega

theorem packLE_wordLE (bytes : Bytes) : packLE bytes.length (wordLE bytes) = bytes := by
  induction bytes with
  | nil => rfl
  | cons b bs ih =>
    have small : b.toNat < 256 := UInt8.toNat_lt_size b
    have low : UInt8.ofNat (b.toNat + 256 * wordLE bs) = b :=
      UInt8.toNat.inj (by simp only [toNat_ofNat_byte]; omega)
    have high : (b.toNat + 256 * wordLE bs) / 256 = wordLE bs := by omega
    simp only [List.length_cons, packLE, wordLE_cons, low, high, ih]

/-- The byte order of a `struct` format (`<` or `>`) or of `int.to_bytes`. -/
inductive ByteOrder where
  | little
  | big
  deriving DecidableEq, Repr

/-- The unsigned word stored in `bytes` in this byte order. -/
def ByteOrder.word : ByteOrder → Bytes → Nat
  | .little, bytes => wordLE bytes
  | .big, bytes => wordLE bytes.reverse

/-- The `width` bytes of `n` in this byte order. -/
def ByteOrder.pack : ByteOrder → Nat → Nat → Bytes
  | .little, width, n => packLE width n
  | .big, width, n => (packLE width n).reverse

@[simp] theorem ByteOrder.length_pack (order : ByteOrder) (width n : Nat) :
    (order.pack width n).length = width := by
  cases order <;> simp [ByteOrder.pack]

theorem ByteOrder.word_pack (order : ByteOrder) (width n : Nat) :
    order.word (order.pack width n) = n % 256 ^ width := by
  cases order <;> simp [ByteOrder.word, ByteOrder.pack, wordLE_packLE]

theorem ByteOrder.word_lt (order : ByteOrder) (bytes : Bytes) : order.word bytes < 256 ^ bytes.length := by
  cases order
  · exact wordLE_lt bytes
  · simpa using wordLE_lt bytes.reverse

theorem ByteOrder.pack_word (order : ByteOrder) (bytes : Bytes) :
    order.pack bytes.length (order.word bytes) = bytes := by
  cases order
  · exact packLE_wordLE bytes
  · simpa [ByteOrder.pack, ByteOrder.word] using congrArg List.reverse (packLE_wordLE bytes.reverse)

theorem ByteOrder.pack_word_of_length (order : ByteOrder) {bytes : Bytes} {width : Nat}
    (exact : bytes.length = width) : order.pack width (order.word bytes) = bytes := by
  rw [← exact, order.pack_word]

theorem ByteOrder.word_pack_of_lt (order : ByteOrder) {width n : Nat} (fits : n < 256 ^ width) :
    order.word (order.pack width n) = n := by
  rw [order.word_pack, Nat.mod_eq_of_lt fits]

/-! ## `struct` and `int.to_bytes` -/

/-- `struct.unpack` of one unsigned code of `size` bytes (`B`, `H`, `I`). -/
def unpackUnsigned (order : ByteOrder) (size : Nat) (buffer : Bytes) : Except PyError Nat :=
  if buffer.length = size then .ok (order.word buffer)
  else .error (.structError s!"unpack requires a buffer of {size} bytes")

/-- `struct.pack(order + "I", n)` with a 64-bit `unsigned long`: a value the conversion to it
refuses is "argument out of range", one it takes but `I` cannot hold fails the range check. -/
def packUInt32 (order : ByteOrder) (n : Int) : Except PyError Bytes :=
  if n < 0 ∨ 2 ^ 64 ≤ n then .error (.structError "argument out of range")
  else if 2 ^ 32 ≤ n then .error (.structError "\x27I\x27 format requires 0 <= number <= 4294967295")
  else .ok (order.pack 4 n.toNat)

/-- `n.to_bytes(length, order)`. -/
def toBytes (n : Int) (length : Nat) (order : ByteOrder) : Except PyError Bytes :=
  if n < 0 then .error (.overflowError "can\x27t convert negative int to unsigned")
  else if (256 : Int) ^ length ≤ n then .error (.overflowError "int too big to convert")
  else .ok (order.pack length n.toNat)

theorem unpackUnsigned_of_length {order : ByteOrder} {size : Nat} {buffer : Bytes}
    (exact : buffer.length = size) : unpackUnsigned order size buffer = .ok (order.word buffer) := by
  simp [unpackUnsigned, exact]

theorem packUInt32_of_range {order : ByteOrder} {n : Int} (low : 0 ≤ n) (high : n < 2 ^ 32) :
    packUInt32 order n = .ok (order.pack 4 n.toNat) ∧ toBytes n 4 order = .ok (order.pack 4 n.toNat) := by
  have notBig : ¬ (256 : Int) ^ 4 ≤ n := by simp only [Int.reducePow] at high ⊢; omega
  have notNegative : ¬ n < 0 := by omega
  exact ⟨by rw [packUInt32, if_neg (by omega), if_neg (by omega)], by rw [toBytes, if_neg notNegative, if_neg notBig]⟩

theorem packUInt32_of_nat {order : ByteOrder} {n : Nat} (fits : n < 2 ^ 32) :
    packUInt32 order n = .ok (order.pack 4 n) ∧ toBytes n 4 order = .ok (order.pack 4 n) := by
  simpa using @packUInt32_of_range order n (by omega) (by omega)

theorem packUInt32_out_of_range {order : ByteOrder} {n : Int} (outside : ¬ (0 ≤ n ∧ n < 2 ^ 32)) :
    (∃ e, packUInt32 order n = .error e) ∧ ∃ e, toBytes n 4 order = .error e := by
  unfold packUInt32 toBytes
  constructor <;> split_ifs <;> first | exact ⟨_, rfl⟩ | omega

end GeoAlchemy2.Python
