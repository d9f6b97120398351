/-!
# Tokens of YAML documents

The starts and ends of indented lists and mappings are tokens as well, and so is what makes a value a
key, which stands before the value. Of a tag only the handle is kept: texts have one type here.
-/

namespace RackInventory.Yaml

inductive Token where
  | version (major minor : Nat)
  | handle (name : List Char)
  | documentStart
  | documentEnd
  | blockSequence
  | blockMapping
  | blockEnd
  | openBracket
  | closeBracket
  | openBrace
  | closeBrace
  | item
  | comma
  | key
  | value
  | reference (name : List Char)
  | anchor (name : List Char)
  | tag (handle : List Char)
  | scalar (text : List Char)
deriving DecidableEq

end RackInventory.Yaml
