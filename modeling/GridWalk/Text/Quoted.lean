import GridWalk.Text.Invisible
/-! Text between double quotes. The quote and the backslash are escaped, and what would not show on
the line is written by name or by its code point. -/
namespace GridWalk.Text

def codePoint (c : Char) : List Char :=
  ['\\', 'u', '\x7b'] ++ Nat.toDigits 16 c.toNat ++ ['\x7d']

def escape (c : Char) : List Char :=
  if c = '"' then ['\\', '"']
  else if c = '\\' then ['\\', '\\']
  else if c = '\n' then ['\\', 'n']
  else if c = '\t' then ['\\', 't']
  else if c = '\r' then ['\\', 'r']
  else if c = '\x00' then ['\\', '0']
  else if Invisible c then codePoint c
  else [c]

def quoted (s : String) : String :=
  String.ofList ('"' :: s.toList.flatMap escape ++ ['"'])

example : escape '\u200b' = ['\\', 'u', '\x7b', '2', '0', '0', 'b', '\x7d'] := by
  decide +kernel

example : escape '\'' = ['\''] ∧ escape 'é' = ['é'] := by decide +kernel

end GridWalk.Text
