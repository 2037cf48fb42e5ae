import RuntimeImage.Bytes

/-!
Bytes as lowercase hexadecimal text, two digits a byte, high digit first.
-/

namespace RuntimeImage.Hex

def digit (n : Nat) : Char :=
  if n < 10 then Char.ofNat (0x30 + n) else Char.ofNat (0x57 + n)

/-- The value of an ASCII hexadecimal digit of either case. -/
def value? (c : Char) : Option Nat :=
  if '0' ≤ c ∧ c ≤ '9' then some (c.toNat - 0x30)
  else if 'a' ≤ c ∧ c ≤ 'f' then some (c.toNat - 0x57)
  else if 'A' ≤ c ∧ c ≤ 'F' then some (c.toNat - 0x37)
  else none

def isDigit (c : Char) : Bool := (value? c).isSome

def ofByte (b : UInt8) : List Char := [digit (b.toNat / 16), digit (b.toNat % 16)]

def encode (bytes : Bytes) : String := String.ofList (bytes.flatMap ofByte)

def decodeChars : List Char → Option Bytes
  | [] => some []
  | [_] => none
  | a :: b :: rest => do
    let high ← value? a
    let low ← value? b
    return UInt8.ofNat (16 * high + low) :: (← decodeChars rest)

def decode (s : String) : Option Bytes := decodeChars s.toList

/-- The low digits of `n`, exactly `width` of them. -/
def fixed (width n : Nat) : List Char :=
  match width with
  | 0 => []
  | w + 1 => fixed w (n / 16) ++ [digit (n % 16)]

theorem value?_digit {n : Nat} (h : n < 16) : value? (digit n) = some n := by
  have table : ∀ m : Fin 16, value? (digit m) = some m.val := by decide
  exact table ⟨n, h⟩

theorem decodeChars_flatMap (bytes : Bytes) : decodeChars (bytes.flatMap ofByte) = some bytes := by
  induction bytes with
  | nil => rfl
  | cons b bytes ih =>
    have high := value?_digit (Nat.div_lt_of_lt_mul (by simpa using b.toNat_lt) : b.toNat / 16 < 16)
    have low := value?_digit (Nat.mod_lt b.toNat (by decide : 16 > 0))
    have whole : UInt8.ofNat (16 * (b.toNat / 16) + b.toNat % 16) = b := by
      rw [Nat.div_add_mod, UInt8.ofNat_toNat]
    simp only [List.flatMap_cons, ofByte, List.cons_append, List.nil_append, decodeChars, high, low,
      ih, whole, Option.bind_eq_bind, Option.bind_some, Option.pure_def]

theorem decode_encode (bytes : Bytes) : decode (encode bytes) = some bytes := by
  rw [decode, encode, String.toList_ofList, decodeChars_flatMap]

end RuntimeImage.Hex
