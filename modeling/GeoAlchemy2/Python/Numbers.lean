import GeoAlchemy2.Python.Runtime

/-!
`int(s)` on a `str` in base 10 and `str(n)` of an `int`, as CPython computes
them. `int` first rewrites the text to ASCII: every character from U+007F on
that `str.isspace` accepts becomes a space, every decimal digit of Unicode its
ASCII digit, and any other such character makes the text unreadable. The ASCII
text is then read by `PyLong_FromString`: ASCII whitespace around it, one sign,
and digits with single underscores between them. `U+001C` to `U+001F`, which
`str.isspace` accepts but which are ASCII, are not whitespace there. Both
directions refuse more than `MAX_STR_DIGITS` digits.
-/

namespace GeoAlchemy2.Python

/-- `sys.int_info.default_max_str_digits`. -/
def MAX_STR_DIGITS : Nat := 4300

/-- `Py_ISSPACE`: the ASCII whitespace `PyLong_FromString` skips around a literal. -/
def isPySpace (c : Char) : Bool := c = ' ' || (9 ≤ c.toNat && c.toNat ≤ 13)

/-- `Py_UNICODE_ISSPACE` on the characters from U+007F on: those `str.isspace` accepts. -/
def isUnicodeSpace (c : Char) : Bool :=
  decide (c.toNat = 0x85 ∨ c.toNat = 0xA0 ∨ c.toNat = 0x1680 ∨ (0x2000 ≤ c.toNat ∧ c.toNat ≤ 0x200A) ∨
    c.toNat = 0x2028 ∨ c.toNat = 0x2029 ∨ c.toNat = 0x202F ∨ c.toNat = 0x205F ∨ c.toNat = 0x3000)

/-- The digit zero of each run of ten decimal digits (general category `Nd`) of Unicode 14.0, the
database of CPython 3.11; the digit `k` of a run is its zero plus `k`. -/
def DECIMAL_ZEROS : List Nat :=
  [0x30, 0x660, 0x6F0, 0x7C0, 0x966, 0x9E6, 0xA66, 0xAE6, 0xB66, 0xBE6, 0xC66, 0xCE6, 0xD66, 0xDE6, 0xE50, 0xED0,
    0xF20, 0x1040, 0x1090, 0x17E0, 0x1810, 0x1946, 0x19D0, 0x1A80, 0x1A90, 0x1B50, 0x1BB0, 0x1C40, 0x1C50, 0xA620,
    0xA8D0, 0xA900, 0xA9D0, 0xA9F0, 0xAA50, 0xABF0, 0xFF10, 0x104A0, 0x10D30, 0x11066, 0x110F0, 0x11136, 0x111D0,
    0x112F0, 0x11450, 0x114D0, 0x11650, 0x116C0, 0x11730, 0x118E0, 0x11950, 0x11C50, 0x11D50, 0x11DA0, 0x16A60,
    0x16AC0, 0x16B50, 0x1D7CE, 0x1D7D8, 0x1D7E2, 0x1D7EC, 0x1D7F6, 0x1E140, 0x1E2F0, 0x1E950, 0x1FBF0]

/-- `Py_UNICODE_TODECIMAL`: the value of a decimal digit. -/
def toDecimal (c : Char) : Option Nat :=
  (DECIMAL_ZEROS.find? fun first => first ≤ c.toNat && c.toNat < first + 10).map (c.toNat - ·)

/-- `_PyUnicode_TransformDecimalAndSpaceToASCII`: characters below U+007F stay, a Unicode space
becomes a space and a decimal digit its ASCII digit. Any other character ends the text with `?`,
which no literal accepts; that is `none` here. -/
def transformDecimalAndSpace : Text → Option Text
  | [] => some []
  | c :: rest => do
    let ascii ← if c.toNat < 127 then some c else if isUnicodeSpace c then some ' '
      else (toDecimal c).map fun d => Char.ofNat (48 + d)
    let more ← transformDecimalAndSpace rest
    pure (ascii :: more)

/-- The text between the whitespace `PyLong_FromString` skips before the sign and after the digits. -/
def strip (s : Text) : Text := ((s.dropWhile isPySpace).reverse.dropWhile isPySpace).reverse

/-- The value of an ASCII digit. -/
def digitValue (c : Char) : Option Nat := if c.isDigit then some (c.toNat - 48) else none

/-- The digits after the first one: each may follow a single underscore. -/
def moreDigits : Text → Option (List Nat)
  | [] => some []
  | '_' :: c :: rest => do
    let d ← digitValue c
    let ds ← moreDigits rest
    pure (d :: ds)
  | c :: rest => do
    let d ← digitValue c
    let ds ← moreDigits rest
    pure (d :: ds)

/-- The digits of an `int()` literal after its sign: at least one, underscores only between them. -/
def literalDigits : Text → Option (List Nat)
  | [] => none
  | c :: rest => do
    let d ← digitValue c
    let ds ← moreDigits rest
    pure (d :: ds)

/-- The number that decimal digits, most significant first, denote. -/
def digitsValue (ds : List Nat) : Nat := ds.foldl (fun acc d => 10 * acc + d) 0

/-- The sign `int()` takes before the digits: whether it is `-`, and what follows it. -/
def splitSign : Text → Bool × Text
  | '-' :: rest => (true, rest)
  | '+' :: rest => (false, rest)
  | rest => (false, rest)

/-- `PyLong_FromString(s, &end, 10)` on ASCII text, accepting only when `end` reaches the end of the text. -/
def longFromString (s : Text) : Option Int :=
  let (negative, unsigned) := splitSign (strip s)
  match literalDigits unsigned with
  | none => none
  | some ds =>
    if MAX_STR_DIGITS < ds.length then none
    else some (if negative then -(digitsValue ds : Int) else digitsValue ds)

/-- `int(s)`; `none` is the `ValueError` it raises. -/
def pyInt (s : Text) : Option Int := (transformDecimalAndSpace s).bind longFromString

/-- `str(n)`. -/
def pyStr (n : Int) : Except PyError Text :=
  if MAX_STR_DIGITS < (Nat.toDigits 10 n.natAbs).length then
    .error (.valueError
      "Exceeds the limit (4300 digits) for integer string conversion; use sys.set_int_max_str_digits() to increase the limit")
  else .ok (if n < 0 then '-' :: Nat.toDigits 10 n.natAbs else Nat.toDigits 10 n.natAbs)

/-! ## Decimal digits -/

theorem toDigitsCore_append (fuel n : Nat) (ds : List Char) :
    Nat.toDigitsCore 10 fuel n ds = Nat.toDigitsCore 10 fuel n [] ++ ds := by
  induction fuel generalizing n ds with
  | zero => rfl
  | succ fuel ih =>
    simp only [Nat.toDigitsCore]
    split
    · rfl
    · rw [ih _ (_ :: ds), ih _ [_]]
      simp

theorem digitChar_of_lt {k : Nat} (small : k < 10) :
    (Nat.digitChar k).isDigit = true ∧ (Nat.digitChar k).toNat - 48 = k := by
  have table : ∀ k < 10, (Nat.digitChar k).isDigit = true ∧ (Nat.digitChar k).toNat - 48 = k := by decide
  exact table k small

/-- Every character `str` writes for a natural number is an ASCII digit, and there is one. -/
theorem toDigits_digits (n : Nat) :
    Nat.toDigits 10 n ≠ [] ∧ ∀ c ∈ Nat.toDigits 10 n, c.isDigit = true := by
  suffices core : ∀ fuel n, 0 < fuel →
      Nat.toDigitsCore 10 fuel n [] ≠ [] ∧ ∀ c ∈ Nat.toDigitsCore 10 fuel n [], c.isDigit = true from
    core (n + 1) n (by omega)
  intro fuel
  induction fuel with
  | zero => intro _ absurd; omega
  | succ fuel ih =>
    intro n _
    have last := (digitChar_of_lt (Nat.mod_lt n (by decide : 10 > 0))).1
    simp only [Nat.toDigitsCore]
    split
    · simpa using last
    · rw [toDigitsCore_append]
      cases fuel with
      | zero => simpa [Nat.toDigitsCore] using last
      | succ fuel =>
        obtain ⟨-, digits⟩ := ih (n / 10) (by omega)
        refine ⟨by simp, fun c member => ?_⟩
        rcases List.mem_append.mp member with early | final
        · exact digits c early
        · simp only [List.mem_singleton] at final
          rw [final]
          exact last

/-- Reading back the digits `str` writes gives the number. -/
theorem digitsValue_toDigits (n : Nat) :
    digitsValue ((Nat.toDigits 10 n).map fun c => c.toNat - 48) = n := by
  suffices core : ∀ fuel n, n < fuel →
      digitsValue ((Nat.toDigitsCore 10 fuel n []).map fun c => c.toNat - 48) = n from
    core (n + 1) n (by omega)
  intro fuel
  induction fuel with
  | zero => intro _ absurd; omega
  | succ fuel ih =>
    intro n bound
    have last := (digitChar_of_lt (Nat.mod_lt n (by decide : 10 > 0))).2
    simp only [Nat.toDigitsCore]
    split
    · next high => simp [digitsValue, last]; omega
    · next high =>
      rw [toDigitsCore_append]
      simp only [digitsValue, List.map_append, List.foldl_append, List.map_cons, List.map_nil,
        List.foldl_cons, List.foldl_nil, last]
      have rest := ih (n / 10) (by omega)
      simp only [digitsValue] at rest
      rw [rest]
      omega

/-! ## Reading digits back -/

theorem toNat_of_isDigit {c : Char} (digit : c.isDigit = true) : 48 ≤ c.toNat ∧ c.toNat ≤ 57 := by
  simp only [Char.isDigit, Bool.and_eq_true, decide_eq_true_eq] at digit
  exact digit

theorem isPySpace_of_isDigit {c : Char} (digit : c.isDigit = true) : isPySpace c = false := by
  have ⟨low, high⟩ := toNat_of_isDigit digit
  have notSpace : c ≠ ' ' := by
    rintro rfl
    exact absurd low (by decide)
  simp only [isPySpace, Bool.or_eq_false_iff, decide_eq_false_iff_not, Bool.and_eq_false_iff]
  exact ⟨notSpace, by omega⟩

theorem transformDecimalAndSpace_of_ascii : ∀ {s : Text}, (∀ c ∈ s, c.toNat < 127) →
    transformDecimalAndSpace s = some s
  | [], _ => rfl
  | c :: rest, ascii => by
    simp only [transformDecimalAndSpace, if_pos (ascii c (List.mem_cons_self c rest)),
      transformDecimalAndSpace_of_ascii fun d member => ascii d (List.mem_cons_of_mem c member)]
    rfl

theorem pyInt_of_ascii {s : Text} (ascii : ∀ c ∈ s, c.toNat < 127) : pyInt s = longFromString s := by
  rw [pyInt, transformDecimalAndSpace_of_ascii ascii]
  rfl

theorem dropWhile_of_none {p : Char → Bool} {s : Text} (none : ∀ c ∈ s, p c = false) : s.dropWhile p = s := by
  cases s with
  | nil => rfl
  | cons c rest => simp [List.dropWhile, none c (List.mem_cons_self c rest)]

/-- Text without spaces is its own `strip()`. -/
theorem strip_of_no_space {s : Text} (noSpace : ∀ c ∈ s, isPySpace c = false) : strip s = s := by
  rw [strip, dropWhile_of_none noSpace, dropWhile_of_none (by simpa using noSpace), List.reverse_reverse]

theorem moreDigits_of_digits {s : Text} (digits : ∀ c ∈ s, c.isDigit = true) :
    moreDigits s = some (s.map fun c => c.toNat - 48) := by
  induction s with
  | nil => rfl
  | cons c rest ih =>
    have first := digits c (List.mem_cons_self c rest)
    have tail := ih fun d member => digits d (List.mem_cons_of_mem c member)
    unfold moreDigits
    split
    · next empty => cases empty
    · next underscore =>
      cases underscore
      exact absurd first (by decide)
    · next same =>
      cases same
      simp [digitValue, first, tail]

theorem literalDigits_of_digits {s : Text} (nonempty : s ≠ []) (digits : ∀ c ∈ s, c.isDigit = true) :
    literalDigits s = some (s.map fun c => c.toNat - 48) := by
  obtain ⟨c, rest, rfl⟩ := List.exists_cons_of_ne_nil nonempty
  have first := digits c (List.mem_cons_self c rest)
  simp [literalDigits, digitValue, first, moreDigits_of_digits fun d member => digits d (List.mem_cons_of_mem c member)]

@[simp] theorem splitSign_minus (rest : Text) : splitSign ('-' :: rest) = (true, rest) := rfl

theorem splitSign_of_isDigit {c : Char} (digit : c.isDigit = true) (rest : Text) :
    splitSign (c :: rest) = (false, c :: rest) := by
  unfold splitSign
  split
  · next minus => cases minus; exact absurd digit (by decide)
  · next plus => cases plus; exact absurd digit (by decide)
  · rfl

/-- `int` of ASCII digits within the limit is their value. -/
theorem pyInt_of_digits {s : Text} (nonempty : s ≠ []) (digits : ∀ c ∈ s, c.isDigit = true)
    (short : s.length ≤ MAX_STR_DIGITS) : pyInt s = some ((digitsValue (s.map fun c => c.toNat - 48) : Nat) : Int) := by
  rw [pyInt_of_ascii fun c member => by have := toNat_of_isDigit (digits c member); omega]
  obtain ⟨c, rest, rfl⟩ := List.exists_cons_of_ne_nil nonempty
  have limit : ¬ MAX_STR_DIGITS < ((c :: rest).map fun c => c.toNat - 48).length := by simpa using short
  simp only [longFromString, strip_of_no_space fun d member => isPySpace_of_isDigit (digits d member),
    splitSign_of_isDigit (digits c (List.mem_cons_self c rest)), literalDigits_of_digits nonempty digits, limit,
    if_false, Bool.false_eq_true]

/-- What `str(n)` writes: the digits of `|n|`, after `-` when `n` is negative. -/
theorem pyStr_eq_ok {n : Int} {text : Text} (printed : pyStr n = .ok text) :
    text = (if n < 0 then '-' :: Nat.toDigits 10 n.natAbs else Nat.toDigits 10 n.natAbs) ∧
      (Nat.toDigits 10 n.natAbs).length ≤ MAX_STR_DIGITS := by
  unfold pyStr at printed
  split at printed
  · cases printed
  · next short =>
    cases printed
    exact ⟨rfl, by omega⟩

/-- `int(str(n)) == n` whenever `str(n)` succeeds. -/
theorem pyInt_pyStr {n : Int} {text : Text} (printed : pyStr n = .ok text) : pyInt text = some n := by
  obtain ⟨rfl, short⟩ := pyStr_eq_ok printed
  obtain ⟨nonempty, digits⟩ := toDigits_digits n.natAbs
  have value := digitsValue_toDigits n.natAbs
  by_cases negative : n < 0
  · have signed : ∀ d ∈ '-' :: Nat.toDigits 10 n.natAbs, isPySpace d = false ∧ d.toNat < 127 := by
      intro d member
      rcases List.mem_cons.mp member with rfl | later
      · decide
      · exact ⟨isPySpace_of_isDigit (digits d later), by have := toNat_of_isDigit (digits d later); omega⟩
    have limit : ¬ MAX_STR_DIGITS < ((Nat.toDigits 10 n.natAbs).map fun c => c.toNat - 48).length := by
      simpa using short
    rw [if_pos negative, pyInt_of_ascii fun d member => (signed d member).2]
    simp only [longFromString, strip_of_no_space fun d member => (signed d member).1, splitSign_minus,
      literalDigits_of_digits nonempty digits, limit, if_false, if_true, value]
    exact congrArg some (by omega)
  · rw [if_neg negative, pyInt_of_digits nonempty digits short, value]
    exact congrArg some (by omega)

end GeoAlchemy2.Python
