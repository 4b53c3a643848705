/-! Text as bytes: each character in the least number of bytes, surrogates refused. -/
namespace Highlighting.Utf8

/-- Reads bytes one at a time. Of the character at hand, `owed` bytes are missing, the next of them
between `lo` and `hi`, and `code` is what those before it stand for. -/
def decodeFrom (owed code lo hi : Nat) : List UInt8 → Option (List Char)
  | [] => if owed = 0 then some [] else none
  | byte :: rest =>
    let b := byte.toNat
    match owed with
    | 0 =>
      if b < 0x80 then (Char.ofNat b :: ·) <$> decodeFrom 0 0 0 0 rest
      else if 0xC2 ≤ b ∧ b < 0xE0 then decodeFrom 1 (b - 0xC0) 0x80 0xBF rest
      else if 0xE0 ≤ b ∧ b < 0xF0 then
        decodeFrom 2 (b - 0xE0) (if b = 0xE0 then 0xA0 else 0x80)
          (if b = 0xED then 0x9F else 0xBF) rest
      else if 0xF0 ≤ b ∧ b < 0xF5 then
        decodeFrom 3 (b - 0xF0) (if b = 0xF0 then 0x90 else 0x80)
          (if b = 0xF4 then 0x8F else 0xBF) rest
      else none
    | more + 1 =>
      if lo ≤ b ∧ b ≤ hi then
        let code := 64 * code + (b - 0x80)
        if more = 0 then (Char.ofNat code :: ·) <$> decodeFrom 0 0 0 0 rest
        else decodeFrom more code 0x80 0xBF rest
      else none

def decode (bytes : List UInt8) : Option (List Char) := decodeFrom 0 0 0 0 bytes

def size (text : List Char) : Nat := text.foldr (fun c size => c.utf8Size + size) 0

end Highlighting.Utf8
