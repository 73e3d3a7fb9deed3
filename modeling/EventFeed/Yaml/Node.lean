import EventFeed.Yaml.Token.Scan

/-
  This file defines the nodes of a YAML document and reads
  them from tokens.

  An anchor gives its node a number: the count of the names
  that were anchored before.  An alias means the number that
  its name has at that place.  A name that is anchored again
  takes a new number, which the next new name then shares; of
  the nodes with one number the last is meant.

  Key definitions include:
    * `Scalar`
    * `Node`
    * `Node.numbered?`
    * `Reading`
    * `Node.ofTokens?`
    * `Node.read?`
-/

------------------------------------------------------------
-- Nodes
------------------------------------------------------------

namespace EventFeed

namespace Yaml

/- A text with its tag and the way it is written. -/
structure Scalar where
  tag : Option String
  style : Style
  text : String
deriving DecidableEq, Inhabited, Repr

/- The parts of a document. -/
inductive Node
  | alias (number : Nat)
  | scalar (number : Option Nat) (s : Scalar)
  | sequence (number : Option Nat) (items : List Node)
  | mapping
      (number : Option Nat)
      (entries : List (Node × Node))
deriving Inhabited, Repr

namespace Node

/- The scalar that nobody has written. -/
def empty : Node :=
  .scalar none ⟨none, .plain, ""⟩

/- The last of two nodes, if there is one. -/
def lastOf (earlier later : Option Node) : Option Node :=
  later.or earlier

/- The node itself, if it has the number. -/
def self? (number : Nat) (own : Option Nat) (n : Node) :
    Option Node :=
  if own = some number then some n else none

mutual

/- The last node with a number, in the order of writing. -/
def numbered? (number : Nat) : Node → Option Node
  | .alias _ => none
  | .scalar own s => self? number own (.scalar own s)
  | .sequence own items =>
      lastOf (self? number own (.sequence own items))
        (numberedItem? number items)
  | .mapping own entries =>
      lastOf (self? number own (.mapping own entries))
        (numberedPair? number entries)

/- The last node with a number among items. -/
def numberedItem? (number : Nat) : List Node → Option Node
  | [] => none
  | n :: rest =>
      lastOf (numbered? number n) (numberedItem? number rest)

/- The last node with a number among entries. -/
def numberedPair? (number : Nat) :
    List (Node × Node) → Option Node
  | [] => none
  | (k, v) :: rest =>
      lastOf
        (lastOf (numbered? number k) (numbered? number v))
        (numberedPair? number rest)

end

end Node

------------------------------------------------------------
-- Readings
------------------------------------------------------------

/-
  The tokens to come, what the handles of tags stand for, and
  the numbers of the anchored names.
-/
structure Source where
  tokens : List Token
  handles : List (String × String)
  numbers : List (String × Nat)
deriving Inhabited, Repr

/- A reading takes tokens or fails. -/
abbrev Reading (α : Type) : Type :=
  StateT Source Option α

namespace Reading

/- The next token. -/
def peek : Reading (Option Token) :=
  return (← get).tokens.head?

/- Whether the next token is one of these. -/
def sees (ts : List Token) : Reading Bool :=
  return (← peek).any ts.contains

/- Pass over the next token. -/
def skip : Reading Unit :=
  modify fun s => { s with tokens := s.tokens.tail }

/- Pass over a token, if it comes next. -/
def accept (t : Token) : Reading Bool := do
  if (← sees [t]) then
    skip
    return true
  else
    return false

/- Take the mark between entries; the first has none. -/
def separator (first : Bool) : Reading Bool :=
  if first then pure true else accept .flowEntry

/- Give an anchored name its number. -/
def number (name : String) : Reading Nat :=
  modifyGet fun s =>
    let n := s.numbers.length
    (n, { s with
      numbers :=
        (name, n) :: s.numbers.filter fun p => p.1 != name })

/- The number of a name that is anchored. -/
def numberOf (name : String) : Reading Nat := do
  match (← get).numbers.lookup name with
  | some n => return n
  | none => failure

/- The tag that a handle and a suffix spell. -/
def tagOf (handle suffix : String) : Reading String := do
  if handle = "" then
    return suffix
  else
    match (← get).handles.lookup handle with
    | some lead => return lead ++ suffix
    | none => failure

/- Take an anchor, if one comes next. -/
def anchor : Reading (Option Nat) := do
  match ← peek with
  | some (.anchor name) =>
      skip
      return some (← number name)
  | _ => return none

/- Take a tag, if one comes next. -/
def tag : Reading (Option String) := do
  match ← peek with
  | some (.tag handle suffix) =>
      skip
      return some (← tagOf handle suffix)
  | _ => return none

/- Take an anchor and a tag in either order. -/
def properties : Reading (Option Nat × Option String) := do
  let first ← anchor
  let t ← tag
  if first.isNone ∧ t.isSome then
    return (← anchor, t)
  else
    return (first, t)

------------------------------------------------------------
-- Collections
------------------------------------------------------------

/- What shows that a block entry has no key or no value. -/
def noBlockNode : List Token :=
  [.key, .value, .blockEnd]

mutual

/-
  Take a node.  A node in flow style holds no block; where
  entries may stand at the column of the key before them, a
  sequence needs no start.
-/
def node (block bare : Bool) : Nat → Reading Node
  | 0 => failure
  | fuel + 1 => do
      if let some (.alias name) ← peek then
        skip
        return .alias (← numberOf name)
      let (n, t) ← properties
      match ← peek with
      | some (.scalar style text) =>
          skip
          return .scalar n ⟨t, style, text⟩
      | some .flowSequence =>
          skip
          return .sequence n (← flowItems true fuel)
      | some .flowMapping =>
          skip
          return .mapping n (← flowEntries true fuel)
      | other =>
          if bare ∧ other = some .blockEntry then
            return .sequence n (← bareItems fuel)
          else if block ∧ other = some .blockSequence then
            skip
            return .sequence n (← blockItems fuel)
          else if block ∧ other = some .blockMapping then
            skip
            return .mapping n (← blockEntries fuel)
          else if n.isSome ∨ t.isSome then
            return .scalar n ⟨t, .plain, ""⟩
          else
            failure

/- Take a node, unless one of the tokens comes next. -/
def nodeUnless
    (ends : List Token)
    (block bare : Bool) : Nat → Reading Node
  | 0 => failure
  | fuel + 1 => do
      if (← sees ends) then
        return Node.empty
      else
        node block bare fuel

/- Take the items of a block sequence and its end. -/
def blockItems : Nat → Reading (List Node)
  | 0 => failure
  | fuel + 1 => do
      if (← accept .blockEntry) then
        let item ←
          nodeUnless [.blockEntry, .blockEnd] true false fuel
        return item :: (← blockItems fuel)
      else if (← accept .blockEnd) then
        return []
      else
        failure

/- Take the items of a sequence without start and end. -/
def bareItems : Nat → Reading (List Node)
  | 0 => failure
  | fuel + 1 => do
      if (← accept .blockEntry) then
        let item ←
          nodeUnless (.blockEntry :: noBlockNode) true false fuel
        return item :: (← bareItems fuel)
      else
        return []

/- Take the entries of a block mapping and its end. -/
def blockEntries : Nat → Reading (List (Node × Node))
  | 0 => failure
  | fuel + 1 => do
      if (← accept .key) then
        let k ← nodeUnless noBlockNode true true fuel
        let v ←
          if (← accept .value) then
            nodeUnless noBlockNode true true fuel
          else
            pure Node.empty
        return (k, v) :: (← blockEntries fuel)
      else if (← accept .blockEnd) then
        return []
      else
        failure

/- Take the value of an entry in flow style. -/
def flowValue (last : Token) : Nat → Reading Node
  | 0 => failure
  | fuel + 1 => do
      if (← accept .value) then
        nodeUnless [.flowEntry, last] false false fuel
      else
        return Node.empty

/- Take the items of a flow sequence and its end. -/
def flowItems (first : Bool) : Nat → Reading (List Node)
  | 0 => failure
  | fuel + 1 => do
      if (← accept .flowSequenceEnd) then
        return []
      if !(← separator first) then
        failure
      if (← accept .key) then
        let entry ← flowPair fuel
        return .mapping none [entry] :: (← flowItems false fuel)
      else if (← accept .flowSequenceEnd) then
        return []
      else
        let item ← node false false fuel
        return item :: (← flowItems false fuel)

/-
  Take the entry of a flow sequence that is a mapping.  What
  stands in place of a key is passed over.
-/
def flowPair : Nat → Reading (Node × Node)
  | 0 => failure
  | fuel + 1 => do
      if (← sees [.value, .flowEntry, .flowSequenceEnd]) then
        skip
        return (Node.empty, ← flowValue .flowSequenceEnd fuel)
      else
        let k ← node false false fuel
        return (k, ← flowValue .flowSequenceEnd fuel)

/- Take the entries of a flow mapping and its end. -/
def flowEntries
    (first : Bool) : Nat → Reading (List (Node × Node))
  | 0 => failure
  | fuel + 1 => do
      if (← accept .flowMappingEnd) then
        return []
      if !(← separator first) then
        failure
      if (← accept .key) then
        let k ←
          nodeUnless [.value, .flowEntry, .flowMappingEnd]
            false false fuel
        let v ← flowValue .flowMappingEnd fuel
        return (k, v) :: (← flowEntries false fuel)
      else if (← accept .flowMappingEnd) then
        return []
      else
        let k ← node false false fuel
        return (k, Node.empty) :: (← flowEntries false fuel)

end

------------------------------------------------------------
-- Documents
------------------------------------------------------------

/- Take the directives, after those that came before. -/
def directives
    (version : Bool)
    (handles : List (String × String)) :
    List Token → Option (List (String × String) × List Token)
  | .version major minor :: rest =>
      if version || major != 1 || (minor != 1 && minor != 2) then
        none
      else
        directives true handles rest
  | .handle name lead :: rest =>
      if handles.any fun p => p.1 == name then
        none
      else
        directives version ((name, lead) :: handles) rest
  | rest => some (handles, rest)

/- The handles that need no directive. -/
def defaultHandles : List (String × String) :=
  [("!", "!"), ("!!", "tag:yaml.org,2002:")]

/- Take the root of a document; it may be left out. -/
def root (mayLack : Bool) : Reading Node := do
  let tokens := (← get).tokens
  match tokens with
  | [] =>
      if mayLack then return Node.empty else failure
  | .documentStart :: _ | .documentEnd :: _ =>
      if mayLack then return Node.empty else failure
  | .version _ _ :: _ | .handle _ _ :: _ =>
      if mayLack then return Node.empty else failure
  | _ => node true false (3 * tokens.length + 3)

end Reading

namespace Node

/- The root of the only document that the tokens make up. -/
def ofTokens? (tokens : List Token) : Option Node := do
  let (handles, rest) ← Reading.directives false [] tokens
  let isMarked := rest.head? == some .documentStart
  if rest.length < tokens.length ∧ !isMarked then
    none
  else
    let source : Source :=
      ⟨if isMarked then rest.tail else rest,
        handles ++ Reading.defaultHandles, []⟩
    let (n, source) ← (Reading.root isMarked).run source
    if source.tokens.all (· == .documentEnd) then
      some n
    else
      none

/- The root of the only document of a text. -/
def read? (text : String) : Option Node :=
  (Token.scan? text.toList).bind ofTokens?

end Node

end Yaml

end EventFeed
