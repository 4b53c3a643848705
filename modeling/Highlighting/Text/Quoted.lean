import Highlighting.Unicode.Property

/-! Text between quotation marks, on one line and with nothing in it that does not show. -/
namespace Highlighting.Quoted

open Unicode

def coded (c : Char) : List Char :=
  ['\\', 'u', '{'] ++ Nat.toDigits 16 c.toNat ++ ['}']

def escape (c : Char) : List Char :=
  match c with
  | '\x00' => ['\\', '0']
  | '\t' => ['\\', 't']
  | '\r' => ['\\', 'r']
  | '\n' => ['\\', 'n']
  | '"' => ['\\', '"']
  | '\\' => ['\\', '\\']
  | c =>
    if Property.graphemeExtend.containsChar c || !isPrintable c then coded c else [c]

def encode (text : String) : String :=
  String.ofList ('"' :: text.toList.flatMap escape ++ ['"'])

end Highlighting.Quoted
