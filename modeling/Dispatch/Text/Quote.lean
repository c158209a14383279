import Dispatch.Text.Hidden

/-!
# Quoted text in descriptions

Descriptions of values quote their texts: quotes, backslashes and line ends are escaped, and characters
that cannot be seen are written as their code point.
-/

set_option autoImplicit false

namespace Dispatch.Text

def described (c : Char) : List Char :=
  if c = '"' then ['\\', '"']
  else if c = '\\' then ['\\', '\\']
  else if c = '\n' then ['\\', 'n']
  else if c = '\r' then ['\\', 'r']
  else if c = '\t' then ['\\', 't']
  else if c = '\x00' then ['\\', '0']
  else if isHidden c then '\\' :: 'u' :: '{' :: (Nat.toDigits 16 c.toNat ++ ['}'])
  else [c]

def quote (text : String) : String :=
  String.ofList ('"' :: (text.toList.flatMap described ++ ['"']))

end Dispatch.Text
