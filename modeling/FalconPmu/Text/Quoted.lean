import FalconPmu.Text.Hidden

namespace FalconPmu.Quoted

def hexDigits (n : Nat) : String := String.ofList (Nat.toDigits 16 n)

def escape (c : Char) : String :=
  match c with
  | '"' => "\\\""
  | '\\' => "\\\\"
  | '\n' => "\\n"
  | '\t' => "\\t"
  | '\r' => "\\r"
  | '\x00' => "\\0"
  | c => if Hidden.holds c then "\\u\x7b" ++ hexDigits c.toNat ++ "\x7d" else String.singleton c

def encode (s : String) : String :=
  "\"" ++ String.join (s.toList.map escape) ++ "\""

end FalconPmu.Quoted
