import LuaAssist.Domain.Direction
import LuaAssist.Domain.Joining
import LuaAssist.Domain.Mapping
import LuaAssist.Domain.Punycode
import LuaAssist.Text.Search

/-!
# Domains

A domain is read in any script and written in ASCII. What looks the same becomes the same
first. Then every label has to be well-formed by itself, and a label that comes in its ASCII
form has to be the ASCII form of such a label. At last the directions have to fit together.
-/

namespace LuaAssist.Domain

/-- ASCII characters that no domain contains. -/
def isDenied (c : Char) : Bool :=
  c.toNat ≤ 0x20 || c.toNat = 0x7F || "%#/:<>?@[\\]^|".toList.contains c

/-- All characters are ASCII. -/
def isAscii (text : Text) : Bool := text.all fun c => c.toNat < 0x80

/-- What stands in front of a label in its ASCII form. -/
def asciiMark : Text := "xn--".toList

/-- The longest label that is written in its ASCII form, and the longest one that is read
from it. -/
def lengthLimits : Nat × Nat := (1000, 2000)

/-- A label in any script. It does not start with a mark, and its joiners make a
difference. -/
def label? (label : Text) : Option Text :=
  if label.head?.any Text.isMark || !Joining.allMayStand [] label then none
  else if !isAscii label && lengthLimits.1 < label.length then none
  else some label

/-- The label behind the mark of an ASCII form. It contains what its ASCII form has to stand
for, and nothing that would have become something else. -/
def labelOfAscii? (written : Text) : Option Text := do
  if !isAscii written || written.getLast?.all (· = '-') || lengthLimits.2 < written.length then
    none
  else
    let label ← Punycode.decode? written
    if label.all (fun c => isPlain c && !isDenied c && c ≠ '.') && Text.compose label = label then
      label? label
    else none

/-- A label in any script, from the label in either form. -/
def plainLabel? (label : Text) : Option Text :=
  if asciiMark.isPrefixOf label then labelOfAscii? (label.drop asciiMark.length)
  else label? label

/-- A label in its ASCII form. -/
def asciiLabel (label : Text) : Text :=
  if isAscii label then label else asciiMark ++ Punycode.encode label

/-- A domain in ASCII. -/
def ascii? (text : Text) : Option Text := do
  let composed := Text.compose (← map? text)
  if composed.any isDenied then none
  else
    let labels ← (Text.splitOn (· = '.') composed).mapM plainLabel?
    if directionsFit labels then some (Text.join ['.'] (labels.map asciiLabel)) else none

end LuaAssist.Domain
