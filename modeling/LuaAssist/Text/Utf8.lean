import LuaAssist.Text.Measure

/-!
# Bytes of UTF-8

Characters as bytes, and bytes read back. Reading is strict: overlong forms, surrogates
and code points beyond the last are errors, and an error covers the longest front that
could have begun a character.
-/

namespace LuaAssist.Text

/-- A byte that continues a character and holds the six bits at the given place. -/
def continuation (code place : Nat) : UInt8 := UInt8.ofNat (0x80 + (code >>> (6 * place)) % 64)

/-- The bytes of a character. -/
def utf8Char (c : Char) : List UInt8 :=
  let n := c.toNat
  if n < 0x80 then [UInt8.ofNat n]
  else if n < 0x800 then [UInt8.ofNat (0xC0 + n / 64), continuation n 0]
  else if n < 0x10000 then [UInt8.ofNat (0xE0 + n / 4096), continuation n 1, continuation n 0]
  else [UInt8.ofNat (0xF0 + n / 262144), continuation n 2, continuation n 1, continuation n 0]

/-- The bytes of a text. -/
def toUtf8 (text : Text) : List UInt8 := text.flatMap utf8Char

/-- What the first byte of a character demands of the others: how many there are, the bits
that it holds itself, and the range of the second. -/
structure Lead where
  count : Nat
  bits : Nat
  low : Nat
  high : Nat

/-- The demands of a first byte, if it can be one. -/
def lead? (byte : Nat) : Option Lead :=
  if byte < 0x80 then some ⟨0, byte, 0, 0⟩
  else if byte < 0xC2 then none
  else if byte < 0xE0 then some ⟨1, byte - 0xC0, 0x80, 0xBF⟩
  else if byte = 0xE0 then some ⟨2, 0, 0xA0, 0xBF⟩
  else if byte = 0xED then some ⟨2, 0xD, 0x80, 0x9F⟩
  else if byte < 0xF0 then some ⟨2, byte - 0xE0, 0x80, 0xBF⟩
  else if byte = 0xF0 then some ⟨3, 0, 0x90, 0xBF⟩
  else if byte < 0xF4 then some ⟨3, byte - 0xF0, 0x80, 0xBF⟩
  else if byte = 0xF4 then some ⟨3, 4, 0x80, 0x8F⟩
  else none

/-- Reads up to `count` further bytes, of which the first lies in the given range: how many
fit, and the code point so far. -/
def readMore (count low high code : Nat) : List UInt8 → Nat × Nat
  | [] => (0, code)
  | byte :: rest =>
    match count with
    | 0 => (0, code)
    | more + 1 =>
      if low ≤ byte.toNat && byte.toNat ≤ high then
        let (fit, total) := readMore more 0x80 0xBF (code * 64 + (byte.toNat - 0x80)) rest
        (fit + 1, total)
      else (0, code)

/-- One step of reading: a character, or nothing where the bytes are none, and how many
bytes behind the first it takes. -/
def readChar (first : UInt8) (rest : List UInt8) : Option Char × Nat :=
  match lead? first.toNat with
  | none => (none, 0)
  | some lead =>
    let (fit, code) := readMore lead.count lead.low lead.high lead.bits rest
    (if fit = lead.count then some (Char.ofNat code) else none, fit)

/-- The characters of some bytes, with `none` in the place of each error. -/
def readUtf8 : List UInt8 → List (Option Char)
  | [] => []
  | byte :: rest =>
    let (c, more) := readChar byte rest
    c :: readUtf8 (rest.drop more)
  termination_by bytes => bytes.length
  decreasing_by simp only [List.length_drop, List.length_cons]; omega

/-- The text of some bytes, if they are UTF-8. -/
def ofUtf8? (bytes : List UInt8) : Option Text := (readUtf8 bytes).mapM id

/-- The text of some bytes, with a replacement character for each error. -/
def ofUtf8Lossy (bytes : List UInt8) : Text :=
  (readUtf8 bytes).map fun c => c.getD '\ufffd'

end LuaAssist.Text
