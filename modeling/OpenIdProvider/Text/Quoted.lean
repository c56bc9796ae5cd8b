/-
  Texts shown between quotation marks in messages: quotes, backslashes and what cannot be seen are
  written as escapes.
-/
import OpenIdProvider.Text.Ascii

namespace OpenIdProvider.Quoted

/-- Characters that leave no mark of their own: controls, format characters, separators other than
the space, marks that combine with the character before, private and unassigned code points at the
ends of planes. -/
def isInvisible (c : Char) : Bool :=
  let n := c.toNat
  let within (lo hi : Nat) : Bool := lo ≤ n && n ≤ hi
  n < 0x20 || within 0x7F 0xA0 || n == 0xAD || within 0x300 0x36F || within 0x600 0x605 ||
    n == 0x61C || n == 0x1680 || n == 0x180E || within 0x2000 0x200F || within 0x2028 0x202F ||
    within 0x205F 0x206F || within 0x20D0 0x20F0 || n == 0x3000 || within 0xE000 0xF8FF ||
    within 0xFE00 0xFE0F || within 0xFE20 0xFE2F || n == 0xFEFF || within 0xFFF0 0xFFFB ||
    n == 0xFFFE || n == 0xFFFF || 0xE0000 ≤ n

/-- One character between quotation marks. -/
def escapeChar (c : Char) : List Char :=
  if c = '"' then ['\\', '"']
  else if c = '\\' then ['\\', '\\']
  else if c = '\n' then ['\\', 'n']
  else if c = '\r' then ['\\', 'r']
  else if c = '\t' then ['\\', 't']
  else if c.toNat = 0 then ['\\', '0']
  else if isInvisible c then ['\\', 'u', '\x7b'] ++ Ascii.digits 16 c.toNat ++ ['\x7d']
  else [c]

/-- A text between quotation marks. -/
def quote (s : String) : String :=
  String.ofList ('"' :: s.toList.flatMap escapeChar ++ ['"'])

end OpenIdProvider.Quoted
