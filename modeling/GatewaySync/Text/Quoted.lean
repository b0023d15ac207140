import GatewaySync.Text.Unprintable

/-!
# Quoted text

A text between quotes, with an escape for every character that would end it or that a reader
could not see.  The form is used where a message has to show a text exactly.
-/

namespace GatewaySync.Text

/-- Lower-case hexadecimal digits without leading zeros. -/
def hexDigits (n : Nat) : List Char := Nat.toDigits 16 n

/-- The quoted form of one character. -/
def quotedChar (c : Char) : List Char :=
  match c with
  | '"' => ['\\', '"']
  | '\\' => ['\\', '\\']
  | '\n' => ['\\', 'n']
  | '\r' => ['\\', 'r']
  | '\t' => ['\\', 't']
  | c =>
    if c.toNat = 0 then ['\\', '0']
    else if isUnprintable c then "\\u\x7b".toList ++ hexDigits c.toNat ++ "\x7d".toList
    else [c]

/-- A text in quotes. -/
def quoted (s : String) : String :=
  String.ofList ('"' :: s.toList.flatMap quotedChar ++ ['"'])

end GatewaySync.Text
