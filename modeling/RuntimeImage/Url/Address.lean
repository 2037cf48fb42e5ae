import RuntimeImage.Text.Hex

/-!
Numeric host addresses. An IPv4 address is four decimal octets without leading zeros. An IPv6
address is eight groups of up to four hexadecimal digits; one `::` stands for one or more zero
groups, the last two groups may be written as an IPv4 address, and a scope may follow a `%`.
-/

namespace RuntimeImage.Address

def isOctet (cs : List Char) : Bool :=
  cs ≠ [] && cs.all Char.isDigit && cs.length ≤ 3 && (cs = ['0'] || cs.head? ≠ some '0') &&
    Nat.ofDigitChars 10 cs 0 ≤ 255

def isV4 (cs : List Char) : Bool :=
  let octets := cs.splitOn '.'
  octets.length = 4 && octets.all isOctet

def isGroup (cs : List Char) : Bool := cs ≠ [] && cs.length ≤ 4 && cs.all Hex.isDigit

/-- The groups of an address text; an IPv4 tail stands for two. -/
def groups (cs : List Char) : List (List Char) :=
  let parts := cs.splitOn ':'
  match parts.getLast? with
  | some last => if '.' ∈ last ∧ isV4 last then parts.dropLast ++ [['0'], ['0']] else parts
  | none => parts

/-- The groups on one side of a `::`; at the edge of the address there are none. -/
def side (parts : List (List Char)) : List (List Char) := if parts = [[]] then [] else parts

def isV6Body (cs : List Char) : Bool :=
  let parts := groups cs
  let gaps := (List.range parts.length).filter
    (fun i => 0 < i && i + 1 < parts.length && (parts.getD i []).isEmpty)
  3 ≤ (cs.splitOn ':').length &&
    match gaps with
    | [] => parts.length = 8 && parts.all isGroup
    | [gap] =>
      let written := side (parts.take gap) ++ side (parts.drop (gap + 1))
      written.length ≤ 7 && written.all isGroup
    | _ => false

def isV6 (cs : List Char) : Bool :=
  if '%' ∈ cs then
    let scope := (cs.dropWhile (· ≠ '%')).drop 1
    scope ≠ [] && '%' ∉ scope && isV6Body (cs.takeWhile (· ≠ '%'))
  else isV6Body cs

end RuntimeImage.Address
