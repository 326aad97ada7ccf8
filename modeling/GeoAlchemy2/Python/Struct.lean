import GeoAlchemy2.Python.Runtime

/-!
`struct.unpack` of the one-value formats the raster decoder reads, in standard
sizes with an explicit byte order, and the part of NumPy its fast path uses:
the dtypes of `_PTYPE` with a byte order, `np.frombuffer` with a count and an
offset, and `np.reshape` to a row-major `(height, width)` array, whose rows are
given as lists. An element of a dtype reads as the matching `struct` code reads
it. A float is kept as the IEEE bits it was read from; the conversion of those
bits to a Python `float` is not modelled.
-/

namespace GeoAlchemy2.Python

/-- A value one sample decodes to: a `bool`, an `int`, or a float of 32 or 64 bits. -/
inductive PyValue where
  | bool (value : Bool)
  | int (value : Int)
  | float32 (bits : Nat)
  | float64 (bits : Nat)
  deriving DecidableEq, Repr

/-- The format codes `?`, `B`, `b`, `h`, `H`, `i`, `I`, `f` and `d`. -/
inductive FormatCode where
  | bool
  | uchar
  | schar
  | short
  | ushort
  | int
  | uint
  | float
  | double
  deriving DecidableEq, Repr

/-- The standard size of a format code, in bytes. -/
def FormatCode.size : FormatCode → Nat
  | .bool | .uchar | .schar => 1
  | .short | .ushort => 2
  | .int | .uint | .float => 4
  | .double => 8

/-- The two's complement value of an unsigned word of `width` bytes. -/
def toSigned (width word : Nat) : Int :=
  if word < 2 ^ (8 * width - 1) then word else (word : Int) - 2 ^ (8 * width)

/-- The value a format code reads from the unsigned word its bytes hold. -/
def FormatCode.ofWord : FormatCode → Nat → PyValue
  | .bool, word => .bool (word != 0)
  | .uchar, word | .ushort, word | .uint, word => .int word
  | .schar, word => .int (toSigned 1 word)
  | .short, word => .int (toSigned 2 word)
  | .int, word => .int (toSigned 4 word)
  | .float, word => .float32 word
  | .double, word => .float64 word

/-- `struct.unpack(marker + code, buffer)[0]`. -/
def unpackValue (order : ByteOrder) (code : FormatCode) (buffer : Bytes) : Except PyError PyValue :=
  code.ofWord <$> unpackUnsigned order code.size buffer

/-- `struct.unpack(marker + code, buffer)[0]` for the signed integer codes `b`, `h` and `i`. -/
def unpackSigned (order : ByteOrder) (size : Nat) (buffer : Bytes) : Except PyError Int :=
  toSigned size <$> unpackUnsigned order size buffer

theorem unpackValue_of_length {order : ByteOrder} {code : FormatCode} {buffer : Bytes}
    (exact : buffer.length = code.size) : unpackValue order code buffer = .ok (code.ofWord (order.word buffer)) := by
  rw [unpackValue, unpackUnsigned_of_length exact]
  rfl

theorem unpackSigned_of_length {order : ByteOrder} {size : Nat} {buffer : Bytes} (exact : buffer.length = size) :
    unpackSigned order size buffer = .ok (toSigned size (order.word buffer)) := by
  rw [unpackSigned, unpackUnsigned_of_length exact]
  rfl

@[simp] theorem word_singleton (order : ByteOrder) (x : UInt8) : order.word [x] = x.toNat := by
  cases order <;> simp [ByteOrder.word]

/-- `struct.unpack("b", ...)` reads a byte below 128 as itself and any other as a negative number. -/
theorem toSigned_byte_eq_iff {x : UInt8} {n : Nat} (small : n < 128) : toSigned 1 x.toNat = n ↔ x.toNat = n := by
  have byte : x.toNat < 2 ^ 8 := x.toBitVec.isLt
  unfold toSigned
  split <;> omega

theorem toSigned_byte_eq_zero {x : UInt8} : toSigned 1 x.toNat = 0 ↔ x = 0 :=
  (toSigned_byte_eq_iff (by decide)).trans ⟨fun same => UInt8.toNat.inj same, fun same => same ▸ rfl⟩

theorem toSigned_byte_eq_one {x : UInt8} : toSigned 1 x.toNat = 1 ↔ x = 1 :=
  (toSigned_byte_eq_iff (by decide)).trans ⟨fun same => UInt8.toNat.inj same, fun same => same ▸ rfl⟩

/-! ## Writing a value -/

/-- Whether a value fits a format code: its kind, and for integers its range. -/
def FormatCode.holds : FormatCode → PyValue → Bool
  | .bool, .bool _ => true
  | .uchar, .int n => 0 ≤ n ∧ n < 2 ^ 8
  | .ushort, .int n => 0 ≤ n ∧ n < 2 ^ 16
  | .uint, .int n => 0 ≤ n ∧ n < 2 ^ 32
  | .schar, .int n => -2 ^ 7 ≤ n ∧ n < 2 ^ 7
  | .short, .int n => -2 ^ 15 ≤ n ∧ n < 2 ^ 15
  | .int, .int n => -2 ^ 31 ≤ n ∧ n < 2 ^ 31
  | .float, .float32 bits => bits < 2 ^ 32
  | .double, .float64 bits => bits < 2 ^ 64
  | _, _ => false

/-- The unsigned word `struct.pack` writes for a value. -/
def FormatCode.toWord : FormatCode → PyValue → Nat
  | _, .bool b => if b then 1 else 0
  | code, .int n => (n % 2 ^ (8 * code.size)).toNat
  | _, .float32 bits => bits
  | _, .float64 bits => bits

/-- A value that fits its code is read back from the word written for it, and that word fits the
code's size. -/
theorem ofWord_toWord {code : FormatCode} {value : PyValue} (fits : code.holds value = true) :
    code.ofWord (code.toWord value) = value ∧ code.toWord value < 2 ^ (8 * code.size) := by
  cases code <;> cases value <;> simp [FormatCode.holds] at fits <;>
    simp only [FormatCode.ofWord, FormatCode.toWord, FormatCode.size, toSigned]
  all_goals first
    | (rename_i b; cases b <;> decide)
    | (constructor <;> first | trivial | omega | (congr 1; omega))

/-! ## NumPy -/

/-- The dtypes `?`, `B`, `b`, `i2`, `u2`, `i4`, `u4`, `f4` and `f8`. -/
inductive Dtype where
  | bool
  | uint8
  | int8
  | int16
  | uint16
  | int32
  | uint32
  | float32
  | float64
  deriving DecidableEq, Repr

/-- `dtype.itemsize`. -/
def Dtype.itemsize : Dtype → Nat
  | .bool | .uint8 | .int8 => 1
  | .int16 | .uint16 => 2
  | .int32 | .uint32 | .float32 => 4
  | .float64 => 8

/-- The value an element of this dtype holds, from the unsigned word of its bytes. -/
def Dtype.ofWord : Dtype → Nat → PyValue
  | .bool, word => .bool (word != 0)
  | .uint8, word | .uint16, word | .uint32, word => .int word
  | .int8, word => .int (toSigned 1 word)
  | .int16, word => .int (toSigned 2 word)
  | .int32, word => .int (toSigned 4 word)
  | .float32, word => .float32 word
  | .float64, word => .float64 word

/-- `np.frombuffer(data, dtype=dtype.newbyteorder(marker), count=count, offset=offset)`. -/
def frombuffer (data : Bytes) (dtype : Dtype) (order : ByteOrder) (count offset : Nat) :
    Except PyError (List PyValue) :=
  let length := data.length
  if length < offset then
    .error (.valueError s!"offset must be non-negative and no greater than buffer length ({length})")
  else if length - offset < count * dtype.itemsize then .error (.valueError "buffer is smaller than requested size")
  else .ok ((List.range count).map fun k =>
    dtype.ofWord (order.word (pySlice data (offset + k * dtype.itemsize) (offset + (k + 1) * dtype.itemsize))))

/-- `np.reshape(flat, (height, width))`, row by row. -/
def reshape (flat : List PyValue) (height width : Nat) : Except PyError (List (List PyValue)) :=
  let size := flat.length
  if size = height * width then .ok ((List.range height).map fun i => pySlice flat (i * width) ((i + 1) * width))
  else .error (.valueError s!"cannot reshape array of size {size} into shape ({height},{width})")

end GeoAlchemy2.Python
