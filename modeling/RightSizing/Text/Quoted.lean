import RightSizing.Text.Unseen

/-!
# Quoted text

A quoted text stands between double quotes, and every character that could be mistaken for the end
of it, or that would not print, is written by an escape: the quote and the backslash behind a
backslash, the usual letters for line feed, carriage return, tab and the zero character, and the
shortest hexadecimal code in braces for the others that would not show.  All other characters stand
for themselves, so the escapes are told apart by what follows a backslash.

* `escape`   what stands for one character
* `quote`    a text between quotes
* `quoted`   the same on strings
-/

namespace RightSizing.Text

def escape (c : Char) : List Char :=
  if c = '"' then ['\\', '"']
  else if c = '\\' then ['\\', '\\']
  else if c = '\n' then ['\\', 'n']
  else if c = '\r' then ['\\', 'r']
  else if c = '\t' then ['\\', 't']
  else if c.toNat = 0 then ['\\', '0']
  else if isUnseen c then '\\' :: 'u' :: '{' :: (Nat.toDigits 16 c.toNat ++ ['}'])
  else [c]

def quote (cs : List Char) : List Char := '"' :: (cs.flatMap escape ++ ['"'])

def quoted (s : String) : String := String.ofList (quote s.toList)

end RightSizing.Text
