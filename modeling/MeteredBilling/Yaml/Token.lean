/-!
# Tokens of a document

The words of a document. Blocks are told by their indentation, so the lexer marks where they start
and end; it also marks a key, which is only known from the colon behind it.
-/

namespace MeteredBilling.Yaml

/-- How a scalar is written. -/
inductive Style
  | plain
  | singleQuoted
  | doubleQuoted
  | literal
  | folded
  deriving DecidableEq, Repr

inductive Token
  | version (major minor : Nat)
  /-- What a handle of tags stands for. -/
  | handle (name meaning : String)
  | documentStart
  | documentEnd
  | blockSequence
  | blockMapping
  | blockEnd
  | flowSequence
  | flowSequenceEnd
  | flowMapping
  | flowMappingEnd
  | dash
  | comma
  | key
  | value
  /-- A reference to an anchor, by its number. -/
  | reference (anchor : Nat)
  | anchor (number : Nat)
  | tag (handle suffix : String)
  | scalar (text : String) (style : Style)
  deriving DecidableEq, Repr

end MeteredBilling.Yaml
