import RuntimeImage.Json.Value

/-!
Writing JSON, in ASCII: on one line, or with each item on a line of its own behind two blanks for
each container around it. Characters outside the printable ASCII range are escaped as UTF-16 units.
-/

namespace RuntimeImage.Json

namespace Printer

def unit (n : Nat) : List Char := '\\' :: 'u' :: Hex.fixed 4 n

/-- One character of a text: plain, by a short escape, or by its UTF-16 units. -/
def char (c : Char) : List Char :=
  match c with
  | '\x22' => ['\\', '\x22']
  | '\\' => ['\\', '\\']
  | '\x08' => ['\\', 'b']
  | '\x0c' => ['\\', 'f']
  | '\n' => ['\\', 'n']
  | '\r' => ['\\', 'r']
  | '\t' => ['\\', 't']
  | c =>
    let n := c.toNat
    if 0x20 ≤ n ∧ n < 0x7F then [c]
    else if n < 0x10000 then unit n
    else unit (0xD800 + (n - 0x10000) / 0x400) ++ unit (0xDC00 + (n - 0x10000) % 0x400)

def text (s : String) : List Char := '\x22' :: (s.toList.flatMap char ++ ['\x22'])

/-- How containers are laid out: what stands before the first item, between items, and before the
closing bracket, given the number of containers around. -/
structure Layout where
  opening : Nat → List Char
  between : Nat → List Char
  closing : Nat → List Char

def Layout.line : Layout := ⟨fun _ => [], fun _ => [',', ' '], fun _ => []⟩

def newline (depth : Nat) : List Char := '\n' :: List.replicate (2 * depth) ' '

def Layout.indented : Layout :=
  ⟨fun d => newline (d + 1), fun d => ',' :: newline (d + 1), fun d => newline d⟩

mutual

def value (layout : Layout) (depth : Nat) : Value → List Char
  | .null => "null".toList
  | .bool b => (if b then "true" else "false").toList
  | .int n => (toString n).toList
  | .real x => Shortest.chars "NaN" "Infinity" x
  | .text s => text s
  | .list [] => ['[', ']']
  | .list (v :: rest) =>
    '[' :: layout.opening depth ++ value layout (depth + 1) v ++ items layout depth rest ++
      layout.closing depth ++ [']']
  | .object [] => ['\x7b', '\x7d']
  | .object ((k, v) :: rest) =>
    '\x7b' :: layout.opening depth ++ text k ++ ':' :: ' ' :: value layout (depth + 1) v ++
      members layout depth rest ++ layout.closing depth ++ ['\x7d']

def items (layout : Layout) (depth : Nat) : List Value → List Char
  | [] => []
  | v :: rest => layout.between depth ++ value layout (depth + 1) v ++ items layout depth rest

def members (layout : Layout) (depth : Nat) : List (String × Value) → List Char
  | [] => []
  | (k, v) :: rest =>
    layout.between depth ++ text k ++ ':' :: ' ' :: value layout (depth + 1) v ++
      members layout depth rest

end

end Printer

namespace Value

/-- The value on one line, names in order. -/
def line (v : Value) : String := String.ofList (Printer.value .line 0 v.sortKeys)

/-- The value over indented lines, names in order. -/
def lines (v : Value) : String := String.ofList (Printer.value .indented 0 v.sortKeys)

end Value

end RuntimeImage.Json
