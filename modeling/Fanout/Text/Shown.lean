import Fanout.Text.Hidden

/-!
# Fanout — strings shown in messages

A string is shown between quotes. The quote, the backslash and a few controls are
escaped by a letter, other characters that do not show by their code.
-/

namespace Fanout.Text

/-- How a character is shown. -/
def showChar (c : Char) : List Char :=
  match c with
  | '"' => ['\\', '"']
  | '\\' => ['\\', '\\']
  | '\n' => ['\\', 'n']
  | '\r' => ['\\', 'r']
  | '\t' => ['\\', 't']
  | '\x00' => ['\\', '0']
  | c =>
    if isHidden c then '\\' :: 'u' :: '\x7b' :: Nat.toDigits 16 c.toNat ++ ['\x7d'] else [c]

/-- A string between quotes, as messages show it. -/
def shown (s : String) : String := String.ofList ('"' :: s.toList.flatMap showChar ++ ['"'])

end Fanout.Text
