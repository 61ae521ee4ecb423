import MeteredBilling.Decimal.Positional
import MeteredBilling.Json.Basic
import MeteredBilling.Uuid

/-!
# Writing JSON

The compact text of a value: no blanks, and escapes only where the grammar asks for them. How reals
are written is up to the caller.
-/

namespace MeteredBilling.Json

variable {α : Type}

def escape (c : Char) : List Char :=
  match c with
  | '"' => ['\\', '"']
  | '\\' => ['\\', '\\']
  | '\n' => ['\\', 'n']
  | '\r' => ['\\', 'r']
  | '\t' => ['\\', 't']
  | c => if c.toNat < 0x20 then '\\' :: 'u' :: Uuid.hexText 4 c.toNat else [c]

def quote (text : String) : String := String.ofList ('"' :: text.toList.flatMap escape ++ ['"'])

section

variable (number : α → String)

mutual

def render : Json α → String
  | null => "null"
  | bool true => "true"
  | bool false => "false"
  | int n => String.ofList (Decimal.intText n)
  | real x => number x
  | str text => quote text
  | arr items => "[" ++ ",".intercalate (renderItems items) ++ "]"
  | obj members => "\x7b" ++ ",".intercalate (renderMembers members) ++ "\x7d"

def renderItems : List (Json α) → List String
  | [] => []
  | item :: rest => render item :: renderItems rest

def renderMembers : List (String × Json α) → List String
  | [] => []
  | (name, value) :: rest => (quote name ++ ":" ++ render value) :: renderMembers rest

end

end

end MeteredBilling.Json
