import Metaobject.Text.Hex
import Metaobject.Text.Shapeless

/-!
# Quoted texts

A text is quoted by putting a quote on either side of it and a backslash before every quote and
backslash inside. Characters that would not show are written by a letter or by their code point.
-/

namespace Metaobject.Quoted

/-- The hexadecimal digits of a code point, without leading zeros. -/
def codePoint (c : Char) : List Char :=
  Nat.toDigits 16 c.toNat

/-- The character as it is written between two quotes. -/
def escape (quote c : Char) : List Char :=
  if c = quote ∨ c = '\\' then ['\\', c]
  else if c = Char.ofNat 0 then ['\\', '0']
  else if c = '\t' then ['\\', 't']
  else if c = '\r' then ['\\', 'r']
  else if c = '\n' then ['\\', 'n']
  else if isShapeless c then ['\\', 'u', '\x7b'] ++ codePoint c ++ ['\x7d']
  else [c]

/-- A text between quotes. -/
def wrap (quote : Char) (cs : List Char) : String :=
  String.ofList (quote :: cs.flatMap (escape quote) ++ [quote])

def text (s : String) : String :=
  wrap '"' s.toList

def char (c : Char) : String :=
  wrap (Char.ofNat 39) [c]

end Metaobject.Quoted
