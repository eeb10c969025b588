import NanoCore.Foundation.PythonText

namespace NanoCore.Foundation.PythonJson

open NanoCore.Foundation.PythonText

/-- `{n:04x}`. -/
def hex4 (n : Nat) : Text :=
  [Nat.digitChar (n / 4096 % 16), Nat.digitChar (n / 256 % 16), Nat.digitChar (n / 16 % 16),
    Nat.digitChar (n % 16)]

/-- The escape of one UTF-16 code unit. -/
def unicodeEscape (unit : Nat) : Text := '\\' :: 'u' :: hex4 unit

def escapeChar (c : Char) : Text :=
  if c = '"' then ['\\', '"']
  else if c = '\\' then ['\\', '\\']
  else if c = '\n' then ['\\', 'n']
  else if c = '\r' then ['\\', 'r']
  else if c = '\t' then ['\\', 't']
  else if c.toNat = 8 then ['\\', 'b']
  else if c.toNat = 12 then ['\\', 'f']
  else if 32 ≤ c.toNat ∧ c.toNat ≤ 126 then [c]
  else if c.toNat < 65536 then unicodeEscape c.toNat
  else
    let n := c.toNat - 65536
    unicodeEscape (0xd800 + n / 1024) ++ unicodeEscape (0xdc00 + n % 1024)

/-- `json.dumps(s)`. -/
def dumpsText (s : Text) : Text := '"' :: s.flatMap escapeChar ++ ['"']

end NanoCore.Foundation.PythonJson
