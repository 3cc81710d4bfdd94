namespace FalconPmu

inductive Outline where
  | atom (text : String)
  | wrapped (name : String) (inner : Outline)
  | fields (name : String) (entries : List (String × Outline))

namespace Outline

mutual

def line : Outline → String
  | .atom text => text
  | .wrapped name inner => name ++ "(" ++ inner.line ++ ")"
  | .fields name entries => name ++ " \x7b " ++ lineEntries entries ++ " \x7d"

def lineEntries : List (String × Outline) → String
  | [] => ""
  | [(key, value)] => key ++ ": " ++ value.line
  | (key, value) :: entry :: entries =>
    key ++ ": " ++ value.line ++ ", " ++ lineEntries (entry :: entries)

end

def margin (depth : Nat) : String := String.ofList (List.replicate (4 * depth) ' ')

mutual

/-- The text after the margin of its first line; later lines carry their own. -/
def block (depth : Nat) : Outline → String
  | .atom text => text
  | .wrapped name inner =>
    name ++ "(\n" ++ margin (depth + 1) ++ inner.block (depth + 1) ++ ",\n" ++ margin depth ++ ")"
  | .fields name entries =>
    name ++ " \x7b\n" ++ blockEntries (depth + 1) entries ++ margin depth ++ "\x7d"

def blockEntries (depth : Nat) : List (String × Outline) → String
  | [] => ""
  | (key, value) :: entries =>
    margin depth ++ key ++ ": " ++ value.block depth ++ ",\n" ++ blockEntries depth entries

end

def indented (o : Outline) : String := o.block 0

end Outline

end FalconPmu
