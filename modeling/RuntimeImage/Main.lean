import RuntimeImage.Example

/-!
Prints the worked example.
-/

def main : IO UInt32 := do
  match RuntimeImage.Example.output with
  | .ok text =>
    IO.print text
    return 0
  | .error fault =>
    IO.eprintln fault.message
    return 1
