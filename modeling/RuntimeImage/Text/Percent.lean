import RuntimeImage.Text.Utf8

/-!
Percent escapes. `%` and two hexadecimal digits stand for a byte; any other `%` stands for itself.
-/

namespace RuntimeImage.Percent

/-- The bytes a text stands for; `skip` characters belong to an escape already read. -/
def bytesFrom (skip : Nat) : List Char → Bytes
  | [] => []
  | c :: rest =>
    match skip with
    | skip + 1 => bytesFrom skip rest
    | 0 =>
      match c, rest with
      | '%', a :: b :: _ =>
        match Hex.value? a, Hex.value? b with
        | some high, some low => UInt8.ofNat (16 * high + low) :: bytesFrom 2 rest
        | _, _ => String.utf8EncodeChar c ++ bytesFrom 0 rest
      | _, _ => String.utf8EncodeChar c ++ bytesFrom 0 rest

def bytes (s : String) : Bytes := bytesFrom 0 s.toList

def decode (s : String) : String := Utf8.decodeLossy (bytes s)

end RuntimeImage.Percent
