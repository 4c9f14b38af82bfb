import DriveDecision.Yaml.Node

/-!
# Yaml/Token — the marks and words of a text

Indentation is told by tokens of its own: a block starts before its first key or dash, and ends
before what is indented less.  A key is announced before it comes.
-/

namespace DriveDecision.Yaml

inductive Token where
  | version
  /-- A short name for the start of tags. -/
  | handle (name start : String)
  | documentStart
  | documentEnd
  | blockSequence
  | blockMapping
  | blockEnd
  | openSequence
  | closeSequence
  | openMapping
  | closeMapping
  | comma
  | dash
  | key
  | value
  | reference (name : String)
  | anchor (name : String)
  | tag (handle suffix : String)
  | scalar (text : String) (style : ScalarStyle)
  deriving DecidableEq, Repr

end DriveDecision.Yaml
