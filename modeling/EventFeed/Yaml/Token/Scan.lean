import EventFeed.Yaml.Token.Block
import EventFeed.Yaml.Token.Plain
import EventFeed.Yaml.Token.Quoted
import EventFeed.Yaml.Token.Tag

/-
  This file reads the tokens of a YAML stream.

  A collection in block style starts where its first entry
  turns out to be one, and ends where a line starts further
  to the left.  Whether a word is a key shows at the colon
  behind it, on the same line and within 1024 characters; the
  key token is then put before the word.

  Key definitions include:
    * `Key`
    * `Scan`
    * `Scan.step?`
    * `Token.scan?`
-/

------------------------------------------------------------
-- Scans
------------------------------------------------------------

namespace EventFeed

namespace Yaml

/-
  A place where a key may have started: how many tokens stand
  before it, and whether a colon must come.
-/
structure Key where
  spot : Spot
  count : Nat
  isRequired : Bool
deriving DecidableEq, Inhabited, Repr

/-
  The tokens so far (last first), the columns of the open
  block collections (innermost first), the key that may have
  started here and in the flow collections around, and
  whether a key may start now.
-/
structure Scan where
  tokens : List Token
  columns : List Nat
  key : Option Key
  around : List (Option Key)
  keyAllowed : Bool
deriving Inhabited, Repr

namespace Scan

/- A scan that has read nothing. -/
def empty : Scan :=
  ⟨[], [], none, [], true⟩

/- Whether a flow collection is open. -/
def inFlow (sc : Scan) : Bool :=
  !sc.around.isEmpty

/- The first column to the right of the block. -/
def margin (sc : Scan) : Nat :=
  match sc.columns with
  | [] => 0
  | c :: _ => c + 1

/- Put a token behind the others. -/
def push (sc : Scan) (t : Token) : Scan :=
  { sc with tokens := t :: sc.tokens }

/- Put a token behind the first tokens. -/
def insert (sc : Scan) (count : Nat) (t : Token) : Scan :=
  let later := sc.tokens.length - count
  { sc with
    tokens :=
      sc.tokens.take later ++ t :: sc.tokens.drop later }

/- Allow a key now, or do not. -/
def allowKey (sc : Scan) (allowed : Bool) : Scan :=
  { sc with keyAllowed := allowed }

------------------------------------------------------------
-- Keys
------------------------------------------------------------

/- Whether a key can no longer have started there. -/
def Key.isStale (now : Spot) (k : Key) : Bool :=
  decide (k.spot.line < now.line) ||
    decide (k.spot.index + 1024 < now.index)

/- Give up a key; one that is required must not be. -/
def Key.drop? : Option Key → Option (Option Key)
  | some k => if k.isRequired then none else some none
  | none => some none

/- Give up a key when it is too far away. -/
def Key.expire? (now : Spot) (k : Option Key) :
    Option (Option Key) :=
  if k.any (isStale now) then drop? k else some k

/- Give up every key that is too far away. -/
def expireKeys? (sc : Scan) (now : Spot) : Option Scan := do
  let key ← Key.expire? now sc.key
  let around ← sc.around.mapM (Key.expire? now)
  return { sc with key := key, around := around }

/- Give up the key that may have started here. -/
def dropKey? (sc : Scan) : Option Scan :=
  (Key.drop? sc.key).map fun key => { sc with key := key }

/-
  Note that a key may start, if one may.  In a block, at the
  column of its entries, one must.
-/
def saveKey? (sc : Scan) (spot : Spot) : Option Scan :=
  if sc.keyAllowed then
    sc.dropKey?.map fun sc =>
      { sc with
        key := some
          ⟨spot, sc.tokens.length,
            !sc.inFlow && sc.columns.head? == some spot.column⟩ }
  else
    some sc

------------------------------------------------------------
-- Blocks
------------------------------------------------------------

/- Whether a collection at the column would be a new one. -/
def isDeeper (sc : Scan) (column : Nat) : Bool :=
  !sc.inFlow && decide (sc.margin ≤ column)

/- Open a block collection at a column, if it is a new one. -/
def openBlock (sc : Scan) (column : Nat) (t : Token) : Scan :=
  if sc.isDeeper column then
    { sc.push t with columns := column :: sc.columns }
  else
    sc

/- Open a block mapping before its first key. -/
def openBefore (sc : Scan) (k : Key) : Scan :=
  if sc.isDeeper k.spot.column then
    { sc.insert k.count .blockMapping with
      columns := k.spot.column :: sc.columns }
  else
    sc

/- Close the blocks further to the right than the limit. -/
def closeBlocks (sc : Scan) (limit : Nat) : Scan :=
  let closed := sc.columns.takeWhile fun c => decide (limit ≤ c)
  { sc with
    tokens :=
      List.replicate closed.length .blockEnd ++ sc.tokens
    columns := sc.columns.drop closed.length }

/- Close the blocks that end where the token stands. -/
def closeBefore (sc : Scan) (s : Spot) : Scan :=
  if sc.inFlow then sc else sc.closeBlocks (s.column + 1)

/- Close every block, unless a flow collection is open. -/
def closeAll (sc : Scan) : Scan :=
  if sc.inFlow then sc else sc.closeBlocks 0

------------------------------------------------------------
-- Marks
------------------------------------------------------------

/- Take a token that stands outside every collection. -/
def border? (sc : Scan) (t : Token) : Option Scan :=
  sc.closeAll.dropKey?.map fun sc =>
    (sc.allowKey false).push t

/- Open a flow collection. -/
def openFlow? (sc : Scan) (s : Spot) (t : Token) : Option Scan :=
  (sc.saveKey? s).map fun sc =>
    { sc.push t with
      key := none
      around := sc.key :: sc.around
      keyAllowed := true }

/- Close a flow collection. -/
def closeFlow? (sc : Scan) (t : Token) : Option Scan :=
  sc.dropKey?.map fun sc =>
    match sc.around with
    | k :: rest =>
        { sc.push t with
          key := k, around := rest, keyAllowed := false }
    | [] => (sc.push t).allowKey false

/- Take the mark between entries of a flow collection. -/
def flowEntry? (sc : Scan) : Option Scan :=
  sc.dropKey?.map fun sc =>
    (sc.allowKey true).push .flowEntry

/- Take the mark before an entry of a sequence. -/
def blockEntry? (sc : Scan) (s : Spot) : Option Scan :=
  if !sc.inFlow && !sc.keyAllowed then
    none
  else
    (sc.openBlock s.column .blockSequence).dropKey?.map fun sc =>
      (sc.allowKey true).push .blockEntry

/- Take the mark before a key. -/
def key? (sc : Scan) (s : Spot) : Option Scan :=
  if !sc.inFlow && !sc.keyAllowed then
    none
  else
    (sc.openBlock s.column .blockMapping).dropKey?.map fun sc =>
      (sc.allowKey (!sc.inFlow)).push .key

/- Take the mark before a value. -/
def value? (sc : Scan) (s : Spot) : Option Scan :=
  match sc.key with
  | some k =>
      let sc := (sc.insert k.count .key).openBefore k
      some (({ sc with key := none }.allowKey false).push .value)
  | none =>
      if !sc.inFlow && !sc.keyAllowed then
        none
      else
        let sc := sc.openBlock s.column .blockMapping
        some ((sc.allowKey (!sc.inFlow)).push .value)

------------------------------------------------------------
-- Words
------------------------------------------------------------

/- Take a token that may be a key or belong to one. -/
def word? (sc : Scan) (s : Spot) (t : Token) : Option Scan :=
  (sc.saveKey? s).map fun sc => (sc.allowKey false).push t

/- Take a scalar in block style. -/
def block?
    (sc : Scan)
    (style : Style)
    (rest : List Spot) : Option (Scan × List Spot) := do
  let sc ← sc.dropKey?
  let (text, rest) ←
    Block.read? (style == .folded) sc.columns.head? rest
  return ((sc.allowKey true).push (.scalar style text), rest)

/- Take a plain scalar; a key may start on a new line. -/
def plain?
    (sc : Scan)
    (s : Spot)
    (rest : List Spot) : Option (Scan × List Spot) := do
  let sc ← sc.saveKey? s
  let p ← Plain.read? sc.inFlow sc.margin (s :: rest)
  return ((sc.allowKey p.isBroken).push (.scalar .plain p.text),
    p.rest)

------------------------------------------------------------
-- Scanning
------------------------------------------------------------

/-
  Pass to the next token.  A new line allows a key, but not in
  a flow collection; where a key may start a tab may not stand
  before it.  A byte order mark may start a line.
-/
def approach
    (flow allowed comment : Bool) :
    List Spot → Bool × List Spot
  | [] => (allowed, [])
  | s :: rest =>
      if isBreak s.char then
        approach flow (allowed || !flow) false rest
      else if comment || s.char == ' ' ||
          (s.char == '\t' && (flow || !allowed)) ||
          (s.char == '\ufeff' && s.column == 0) then
        approach flow allowed comment rest
      else if s.char == '#' then
        approach flow allowed true rest
      else
        (allowed, s :: rest)

/- Read the token that starts with the character. -/
def step?
    (sc : Scan)
    (s : Spot)
    (rest : List Spot) : Option (Scan × List Spot) :=
  let goOn := fun (r : Option Scan) => r.map fun sc => (sc, rest)
  let apart := Spot.isOver rest
  if s.column = 0 ∧ s.char = '%' then do
    let (token, rest) ← Directive.read? rest
    return (← sc.border? token, rest)
  else if Spot.isMark '-' (s :: rest) then
    (sc.border? .documentStart).map fun sc => (sc, rest.drop 2)
  else if Spot.isMark '.' (s :: rest) then
    (sc.border? .documentEnd).map fun sc => (sc, rest.drop 2)
  else if s.char = '[' then goOn (sc.openFlow? s .flowSequence)
  else if s.char = '{' then goOn (sc.openFlow? s .flowMapping)
  else if s.char = ']' then goOn (sc.closeFlow? .flowSequenceEnd)
  else if s.char = '}' then goOn (sc.closeFlow? .flowMappingEnd)
  else if s.char = ',' then goOn sc.flowEntry?
  else if s.char = '-' ∧ apart then goOn (sc.blockEntry? s)
  else if s.char = '?' ∧ (sc.inFlow ∨ apart) then
    goOn (sc.key? s)
  else if s.char = ':' ∧ (sc.inFlow ∨ apart) then
    goOn (sc.value? s)
  else if s.char = '*' then do
    let (name, rest) ← Name.read? rest
    return (← sc.word? s (.alias name), rest)
  else if s.char = '&' then do
    let (name, rest) ← Name.read? rest
    return (← sc.word? s (.anchor name), rest)
  else if s.char = '!' then do
    let (tag, rest) ← Tag.read? sc.inFlow rest
    return (← sc.word? s tag, rest)
  else if s.char = '|' ∧ !sc.inFlow then
    sc.block? .literal rest
  else if s.char = '>' ∧ !sc.inFlow then
    sc.block? .folded rest
  else if s.char = '\'' then do
    let (text, rest) ← Quoted.single? [] Gap.none rest
    return (← sc.word? s (.scalar .single text), rest)
  else if s.char = '"' then do
    let (text, rest) ← Quoted.double? rest
    return (← sc.word? s (.scalar .double text), rest)
  else if Plain.starts sc.inFlow s rest then
    sc.plain? s rest
  else
    none

/- The tokens at the end of the stream. -/
def finish? (sc : Scan) : Option (List Token) :=
  sc.closeAll.dropKey?.map fun sc => sc.tokens.reverse

/- Read the tokens that follow, each of which takes room. -/
def run? (sc : Scan) (spots : List Spot) : Option (List Token) :=
  match approach sc.inFlow sc.keyAllowed false spots with
  | (_, []) => sc.finish?
  | (allowed, s :: rest) => do
      let sc ← (sc.allowKey allowed).expireKeys? s
      let (sc, later) ← (sc.closeBefore s).step? s rest
      if later.length < spots.length then
        sc.run? later
      else
        none
termination_by spots.length

end Scan

/- The tokens of a text, if it is made of tokens. -/
def Token.scan? (cs : List Char) : Option (List Token) :=
  (Spot.ofChars? cs).bind Scan.empty.run?

end Yaml

end EventFeed
