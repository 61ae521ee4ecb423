import MeteredBilling.Text.Extending
import MeteredBilling.Text.Invisible

/-!
# Quoted texts

A text in quotes for messages. Quotes and backslashes are escaped, and all characters that cannot be
told by their form: those without one, and those that are shown as a part of another one.
-/

namespace MeteredBilling.Text

/-- The digits of a number in hexadecimal. -/
def hexDigits (n : Nat) : List Char := Nat.toDigits 16 n

def escape (c : Char) : List Char :=
  match c with
  | '"' => ['\\', '"']
  | '\\' => ['\\', '\\']
  | '\n' => ['\\', 'n']
  | '\r' => ['\\', 'r']
  | '\t' => ['\\', 't']
  | '\x00' => ['\\', '0']
  | c =>
    if invisible.contains c || extending.contains c then
      '\\' :: 'u' :: '\x7b' :: hexDigits c.toNat ++ ['\x7d']
    else [c]

def quoted (text : String) : String :=
  String.ofList ('"' :: text.toList.flatMap escape ++ ['"'])

end MeteredBilling.Text
