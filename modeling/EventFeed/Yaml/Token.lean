import EventFeed.Yaml.Spot

/-
  This file defines the tokens of a YAML stream.

  Key definitions include:
    * `Style`
    * `Token`
-/

------------------------------------------------------------
-- Tokens
------------------------------------------------------------

namespace EventFeed

namespace Yaml

/- How a scalar is written. -/
inductive Style
  | plain
  | single
  | double
  | literal
  | folded
deriving DecidableEq, Inhabited, Repr

/- The smallest parts of a stream. -/
inductive Token
  /- the version of the language -/
  | version (major minor : Nat)
  /- what a handle of tags stands for -/
  | handle (name lead : String)
  | documentStart
  | documentEnd
  | blockSequence
  | blockMapping
  | blockEnd
  | flowSequence
  | flowSequenceEnd
  | flowMapping
  | flowMappingEnd
  | blockEntry
  | flowEntry
  | key
  | value
  | alias (name : String)
  | anchor (name : String)
  | tag (handle suffix : String)
  | scalar (style : Style) (text : String)
deriving DecidableEq, Inhabited, Repr

end Yaml

end EventFeed
