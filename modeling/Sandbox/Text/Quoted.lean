-- SUMMARY: The quoted form in which messages show a text.
import Sandbox.Text.Unprintable

/-!
# Quoted texts

A message shows a text between double quotes, with a backslash before a quote or
a backslash, short names for the common controls, and the hexadecimal number of
any other character that could not be seen.
-/

namespace Sandbox.Text

def quoteChar (c : Char) : List Char :=
  match c with
  | '"' => ['\\', '"']
  | '\\' => ['\\', '\\']
  | '\n' => ['\\', 'n']
  | '\r' => ['\\', 'r']
  | '\t' => ['\\', 't']
  | '\x00' => ['\\', '0']
  | c =>
    if isUnprintable c then ['\\', 'u', '{'] ++ Nat.toDigits 16 c.toNat ++ ['}'] else [c]

def quoted (s : String) : String := .ofList ('"' :: s.toList.flatMap quoteChar ++ ['"'])

end Sandbox.Text
