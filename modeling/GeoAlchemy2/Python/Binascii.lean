import GeoAlchemy2.Python.Runtime

/-!
`binascii.hexlify` and `binascii.unhexlify`, and `str.lower` on their text.
`unhexlify` takes a `str` (checked to be ASCII first) or, in `unhexlifyBytes`,
a `bytes`; both read two digits per byte in either letter case. `HexOf text bytes`
says that `text` is a hexadecimal encoding of `bytes`, and is what
`unhexlify text = .ok bytes` means.
-/

namespace GeoAlchemy2.Python

/-- The value of a hexadecimal digit of either case; `a2b_hex` refuses every other character. -/
def hexDigitValue (c : Char) : Option Nat :=
  if 48 ≤ c.toNat ∧ c.toNat ≤ 57 then some (c.toNat - 48)
  else if 97 ≤ c.toNat ∧ c.toNat ≤ 102 then some (c.toNat - 87)
  else if 65 ≤ c.toNat ∧ c.toNat ≤ 70 then some (c.toNat - 55)
  else none

/-- The lowercase digit `hexlify` writes for a value below 16. -/
def hexDigit (v : Nat) : Char :=
  if v < 10 then Char.ofNat (48 + v) else Char.ofNat (87 + v)

/-- `binascii.hexlify(data)` decoded as ASCII: two lowercase digits per byte. -/
def hexlify : Bytes → Text
  | [] => []
  | b :: bs => hexDigit (b.toNat / 16) :: hexDigit (b.toNat % 16) :: hexlify bs

/-- The pair loop of `a2b_hex`, after its length check. -/
def unhexPairs : Text → Except PyError Bytes
  | [] => .ok []
  | [_] => .error (.binasciiError "Odd-length string")
  | hi :: lo :: rest =>
    match hexDigitValue hi, hexDigitValue lo with
    | some top, some bot => do
      let bytes ← unhexPairs rest
      pure (UInt8.ofNat (16 * top + bot) :: bytes)
    | _, _ => .error (.binasciiError "Non-hexadecimal digit found")

/-- `binascii.unhexlify(s)` on a `str`. -/
def unhexlify (s : Text) : Except PyError Bytes :=
  if s.any (fun c => 128 ≤ c.toNat) then
    .error (.valueError "string argument should contain only ASCII characters")
  else if s.length % 2 = 1 then .error (.binasciiError "Odd-length string")
  else unhexPairs s

/-- `binascii.unhexlify(b)` on a `bytes`. -/
def unhexlifyBytes (b : Bytes) : Except PyError Bytes :=
  if b.length % 2 = 1 then .error (.binasciiError "Odd-length string")
  else unhexPairs (b.map fun x => Char.ofNat x.toNat)

/-- `s.lower()` on the ASCII letters that hexadecimal text holds. -/
def lower (s : Text) : Text := s.map Char.toLower

/-- `text` is a hexadecimal encoding of `bytes`, in any mix of letter cases. -/
inductive HexOf : Text → Bytes → Prop
  | nil : HexOf [] []
  | cons {hi lo : Char} {top bot : Nat} {rest : Text} {bytes : Bytes} :
      hexDigitValue hi = some top → hexDigitValue lo = some bot → HexOf rest bytes →
      HexOf (hi :: lo :: rest) (UInt8.ofNat (16 * top + bot) :: bytes)

/-! ## Digits -/

theorem toNat_ofNat_char {n : Nat} (small : n < 0xd800) : (Char.ofNat n).toNat = n := by
  have valid : n.isValidChar := Or.inl small
  simp only [Char.ofNat, valid, dite_true, Char.ofNatAux, Char.toNat, UInt32.toNat, BitVec.toNat_ofNatLt]

theorem toLower_toLower (c : Char) : c.toLower.toLower = c.toLower := by
  unfold Char.toLower
  dsimp only
  by_cases upper : c.toNat ≥ 65 ∧ c.toNat ≤ 90
  · rw [if_pos upper, toNat_ofNat_char (by omega), if_neg (by omega)]
  · rw [if_neg upper, if_neg upper]

/-- `s.lower().lower() == s.lower()`. -/
theorem lower_lower (s : Text) : lower (lower s) = lower s := by
  simp only [lower, List.map_map]
  exact List.map_congr_left fun c _ => toLower_toLower c

theorem hexDigitValue_lt {c : Char} {v : Nat} (digit : hexDigitValue c = some v) :
    v < 16 ∧ c.toNat < 128 := by
  unfold hexDigitValue at digit
  split_ifs at digit <;> cases digit <;> omega

theorem hexDigitValue_hexDigit {v : Nat} (small : v < 16) : hexDigitValue (hexDigit v) = some v := by
  have code : (hexDigit v).toNat = if v < 10 then 48 + v else 87 + v := by
    unfold hexDigit
    split <;> exact toNat_ofNat_char (by omega)
  unfold hexDigitValue
  by_cases decimal : v < 10
  · rw [code, if_pos decimal, if_pos (by omega)]
    congr 1
    omega
  · rw [code, if_neg decimal, if_neg (by omega), if_pos (by omega)]
    congr 1
    omega

/-- Lowering a digit gives the digit `hexlify` writes for its value. -/
theorem toLower_of_hexDigitValue {c : Char} {v : Nat} (digit : hexDigitValue c = some v) :
    c.toLower = hexDigit v := by
  have self : Char.ofNat c.toNat = c := Char.ofNat_toNat c
  unfold hexDigitValue at digit
  split_ifs at digit with decimal lowerLetter upperLetter <;> cases digit
  · have keep : c.toLower = c := by simp only [Char.toLower]; rw [if_neg (by omega)]
    rw [keep, hexDigit, if_pos (by omega), show 48 + (c.toNat - 48) = c.toNat by omega, self]
  · have keep : c.toLower = c := by simp only [Char.toLower]; rw [if_neg (by omega)]
    rw [keep, hexDigit, if_neg (by omega), show 87 + (c.toNat - 87) = c.toNat by omega, self]
  · have shift : c.toLower = Char.ofNat (c.toNat + 32) := by
      simp only [Char.toLower]; rw [if_pos (by omega)]
    rw [shift, hexDigit, if_neg (by omega), show 87 + (c.toNat - 55) = c.toNat + 32 by omega]

/-! ## Encodings -/

@[simp] theorem length_hexlify (b : Bytes) : (hexlify b).length = 2 * b.length := by
  induction b with
  | nil => rfl
  | cons x xs ih => simp only [hexlify, List.length_cons, ih]; omega

theorem hexlify_append (b c : Bytes) : hexlify (b ++ c) = hexlify b ++ hexlify c := by
  induction b with
  | nil => rfl
  | cons x xs ih => simp [hexlify, ih]

theorem byte_of_digits (x : UInt8) : UInt8.ofNat (16 * (x.toNat / 16) + x.toNat % 16) = x :=
  UInt8.toNat.inj (by simp only [toNat_ofNat_byte]; have := UInt8.toNat_lt_size x; change x.toNat < 256 at this; omega)

theorem hexOf_hexlify (b : Bytes) : HexOf (hexlify b) b := by
  induction b with
  | nil => exact .nil
  | cons x xs ih =>
    have small : x.toNat < 256 := UInt8.toNat_lt_size x
    have encoded := HexOf.cons (@hexDigitValue_hexDigit (x.toNat / 16) (by omega))
      (@hexDigitValue_hexDigit (x.toNat % 16) (by omega)) ih
    rwa [byte_of_digits] at encoded

theorem HexOf.length {text : Text} {bytes : Bytes} (hex : HexOf text bytes) :
    text.length = 2 * bytes.length := by
  induction hex with
  | nil => rfl
  | cons _ _ _ ih => simp only [List.length_cons, ih]; omega

theorem HexOf.append {t u : Text} {b c : Bytes} (first : HexOf t b) (second : HexOf u c) :
    HexOf (t ++ u) (b ++ c) := by
  induction first with
  | nil => exact second
  | cons top bot _ ih => exact .cons top bot ih

theorem HexOf.take {text : Text} {bytes : Bytes} (hex : HexOf text bytes) (k : Nat) :
    HexOf (text.take (2 * k)) (bytes.take k) := by
  induction hex generalizing k with
  | nil => simpa using HexOf.nil
  | cons top bot _ ih =>
    cases k with
    | zero => exact .nil
    | succ k =>
      rw [show 2 * (k + 1) = 2 * k + 1 + 1 by omega]
      exact .cons top bot (ih k)

theorem HexOf.drop {text : Text} {bytes : Bytes} (hex : HexOf text bytes) (k : Nat) :
    HexOf (text.drop (2 * k)) (bytes.drop k) := by
  induction hex generalizing k with
  | nil => simpa using HexOf.nil
  | cons top bot rest ih =>
    cases k with
    | zero => exact .cons top bot rest
    | succ k =>
      rw [show 2 * (k + 1) = 2 * k + 1 + 1 by omega]
      exact ih k

/-- Whatever its letter case, hexadecimal text lowers to what `hexlify` writes. -/
theorem HexOf.lower_eq {text : Text} {bytes : Bytes} (hex : HexOf text bytes) :
    lower text = hexlify bytes := by
  induction hex with
  | nil => rfl
  | @cons hi lo top bot rest bytes highDigit lowDigit _ ih =>
    have highSmall := (hexDigitValue_lt highDigit).1
    have lowSmall := (hexDigitValue_lt lowDigit).1
    have code : (UInt8.ofNat (16 * top + bot)).toNat = 16 * top + bot := by
      simp only [toNat_ofNat_byte]; omega
    simp only [lower, List.map_cons, hexlify, code] at ih ⊢
    rw [toLower_of_hexDigitValue highDigit, toLower_of_hexDigitValue lowDigit, ih]
    congr 2 <;> congr 1 <;> omega

theorem HexOf.unique {text : Text} {b c : Bytes} (first : HexOf text b) (second : HexOf text c) :
    b = c := by
  induction first generalizing c with
  | nil => cases second; rfl
  | cons top bot _ ih =>
    cases second with
    | cons top' bot' rest' =>
      rw [top] at top'
      rw [bot] at bot'
      cases top'
      cases bot'
      rw [ih rest']

/-! ## `unhexlify` -/

theorem unhexPairs_of_hexOf {text : Text} {bytes : Bytes} (hex : HexOf text bytes) :
    unhexPairs text = .ok bytes := by
  induction hex with
  | nil => rfl
  | cons top bot _ ih => simp [unhexPairs, top, bot, ih]

theorem hexOf_of_unhexPairs {text : Text} {bytes : Bytes} (decoded : unhexPairs text = .ok bytes) :
    HexOf text bytes := by
  induction text using unhexPairs.induct generalizing bytes with
  | case1 => cases decoded; exact .nil
  | case2 => cases decoded
  | case3 hi lo rest top bot lowDigit highDigit ih =>
    simp only [unhexPairs, highDigit, lowDigit] at decoded
    cases tail : unhexPairs rest with
    | error e => simp [tail] at decoded
    | ok tailBytes =>
      simp [tail] at decoded
      cases decoded
      exact .cons highDigit lowDigit (ih tail)
  | case4 hi lo rest noPair =>
    simp only [unhexPairs] at decoded
    cases decoded

theorem HexOf.ascii {text : Text} {bytes : Bytes} (hex : HexOf text bytes) :
    text.any (fun c => 128 ≤ c.toNat) = false := by
  induction hex with
  | nil => rfl
  | cons top bot _ ih =>
    have highAscii := (hexDigitValue_lt top).2
    have lowAscii := (hexDigitValue_lt bot).2
    simp only [List.any_cons, ih, Bool.or_false, Bool.or_eq_false_iff, decide_eq_false_iff_not]
    omega

/-- `unhexlify` accepts exactly the hexadecimal encodings. -/
theorem unhexlify_eq_ok {text : Text} {bytes : Bytes} :
    unhexlify text = .ok bytes ↔ HexOf text bytes := by
  constructor
  · intro decoded
    unfold unhexlify at decoded
    split_ifs at decoded
    exact hexOf_of_unhexPairs decoded
  · intro hex
    have even : text.length % 2 = 0 := by rw [hex.length]; omega
    simp [unhexlify, hex.ascii, even, unhexPairs_of_hexOf hex]

/-- `unhexlify` of a `bytes` reads its bytes as characters and accepts their hexadecimal encodings. -/
theorem unhexlifyBytes_eq_ok {b bytes : Bytes} :
    unhexlifyBytes b = .ok bytes ↔ HexOf (b.map fun x => Char.ofNat x.toNat) bytes := by
  constructor
  · intro decoded
    unfold unhexlifyBytes at decoded
    split_ifs at decoded
    exact hexOf_of_unhexPairs decoded
  · intro hex
    have even : b.length % 2 = 0 := by rw [← List.length_map b, hex.length]; omega
    simp [unhexlifyBytes, even, unhexPairs_of_hexOf hex]

theorem unhexlify_hexlify (b : Bytes) : unhexlify (hexlify b) = .ok b :=
  unhexlify_eq_ok.mpr (hexOf_hexlify b)

/-- A pair that is not two hexadecimal digits raises `binascii.Error`, and nothing else can. -/
theorem unhexPairs_raises : ∀ {s : Text} {err : PyError}, unhexPairs s = .error err →
    ∃ message, err = .binasciiError message
  | [], _, raised => nomatch raised
  | [_], _, raised => by
    cases raised
    exact ⟨_, rfl⟩
  | hi :: lo :: rest, err, raised => by
    simp only [unhexPairs] at raised
    split at raised
    · cases inner : unhexPairs rest with
      | error e =>
        rw [inner, error_bind, Except.error.injEq] at raised
        exact raised ▸ unhexPairs_raises inner
      | ok bytes =>
        rw [inner, ok_bind] at raised
        cases raised
    · cases raised
      exact ⟨_, rfl⟩

/-- `binascii.unhexlify` raises `ValueError` on text beyond ASCII and `binascii.Error` otherwise. -/
theorem unhexlify_raises {s : Text} {err : PyError} (raised : unhexlify s = .error err) :
    ∃ message, err = .valueError message ∨ err = .binasciiError message := by
  unfold unhexlify at raised
  split_ifs at raised
  · cases raised
    exact ⟨_, .inl rfl⟩
  · cases raised
    exact ⟨_, .inr rfl⟩
  · obtain ⟨message, rfl⟩ := unhexPairs_raises raised
    exact ⟨message, .inr rfl⟩

theorem unhexlifyBytes_raises {b : Bytes} {err : PyError} (raised : unhexlifyBytes b = .error err) :
    ∃ message, err = .binasciiError message := by
  unfold unhexlifyBytes at raised
  split at raised
  · cases raised
    exact ⟨_, rfl⟩
  · exact unhexPairs_raises raised

/-! ## Payloads -/

/-- The payload holds `bytes`: as itself, or as hexadecimal text of any letter case. -/
def Payload.Encodes : Payload → Bytes → Prop
  | .text s, bytes => HexOf s bytes
  | .binary b, bytes => b = bytes

theorem Payload.Encodes.unique {data : Payload} {b c : Bytes} (first : data.Encodes b) (second : data.Encodes c) :
    b = c := by
  cases data with
  | text s => exact HexOf.unique first second
  | binary d => exact first.symm.trans second

/-- `isinstance(data, str)`. -/
def Payload.isText : Payload → Bool
  | .text _ => true
  | .binary _ => false

end GeoAlchemy2.Python
