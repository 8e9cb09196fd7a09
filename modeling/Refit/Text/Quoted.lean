import Refit.Text.Basic

/-!
Text in quotes, as it is shown inside a list, a mapping or a message.
-/

namespace Refit.Text.Quoted

def hexDigit (n : Nat) : Char :=
  if n < 10 then Char.ofNat (n + '0'.toNat) else Char.ofNat (n - 10 + 'a'.toNat)

-- The last `width` hexadecimal digits of a number.
def hex (width n : Nat) : List Char :=
  (List.range width).reverse.map fun i => hexDigit (n / Nat.pow 16 i % 16)

-- A character written by its number.
def numbered (c : Char) : List Char :=
  if c.toNat < 0x100 then '\\' :: 'x' :: hex 2 c.toNat
  else if c.toNat < 0x10000 then '\\' :: 'u' :: hex 4 c.toNat
  else '\\' :: 'U' :: hex 8 c.toNat

-- Control and invisible characters are written by their number.
def escape (quote c : Char) : List Char :=
  if c == quote || c == '\\' then ['\\', c]
  else if c == '\n' then ['\\', 'n']
  else if c == '\r' then ['\\', 'r']
  else if c == '\t' then ['\\', 't']
  else if Letter.isPrintable c then [c]
  else numbered c

-- Single quotes, unless the text holds one and no double quote.
def quote (s : List Char) : Char :=
  if s.contains '\'' && !s.contains '"' then '"' else '\''

def encode (s : List Char) : List Char :=
  quote s :: s.flatMap (escape (quote s)) ++ [quote s]

end Refit.Text.Quoted

def String.quoted (s : String) : String :=
  ofList (Refit.Text.Quoted.encode s.toList)
