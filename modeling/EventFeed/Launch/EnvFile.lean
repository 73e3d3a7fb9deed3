import EventFeed.Launch.ConfigSource
import EventFeed.Text.Blank

/-
  This file defines files that add to the environment.

  A line sets a variable.  Quotes and backslashes may stand in
  its value, and a dollar sign before a name stands for the
  value of that variable.  What the environment sets itself
  has precedence, and the first line that cannot be read ends
  the file.

  Key definitions include:
    * `EnvFile.Value`
    * `EnvFile.Value.read?`
    * `EnvFile.Entry.read?`
    * `EnvFile.extend`
-/

------------------------------------------------------------
-- Values
------------------------------------------------------------

namespace EventFeed

namespace EnvFile

/- Within which quotes a character stands. -/
inductive Quote
  | none
  | single
  | double
deriving DecidableEq, Inhabited, Repr

/- The name of a variable in the making (last first). -/
inductive Name
  | none
  | bare (chars : List Char)
  | braced (chars : List Char)
deriving DecidableEq, Inhabited, Repr

/-
  A value in the making: its characters (last first), the
  quotes and the name that are open, whether a backslash
  stands before, and whether only a comment may follow.
-/
structure Value where
  chars : List Char
  quote : Quote
  name : Name
  isEscaped : Bool
  isOver : Bool
deriving Inhabited, Repr

namespace Value

/- A value without a character. -/
def empty : Value :=
  ⟨[], .none, .none, false, false⟩

/- Take a character as it is. -/
def push (v : Value) (c : Char) : Value :=
  { v with chars := c :: v.chars }

/- Put the value of a variable in the place of its name. -/
def resolve
    (v : Value)
    (look : String → String)
    (name : List Char) : Value :=
  { v with
    chars :=
      (look (String.ofList name.reverse)).toList.reverse ++
        v.chars
    name := .none }

/- Take a character behind a backslash. -/
def escape? (v : Value) (c : Char) : Option Value :=
  let v := { v with isEscaped := false }
  if "\\'\"$ ".contains c then some (v.push c)
  else if c = 'n' then some (v.push '\n')
  else none

/- Take a character outside names and backslashes. -/
def plain (v : Value) (c : Char) : Value :=
  if c = '$' then
    { v with name := .bare [] }
  else if c = '\\' then
    { v with isEscaped := true }
  else if c = '"' then
    { v with
      quote := if v.quote = .double then .none else .double }
  else if v.quote = .double then
    v.push c
  else if c = '\'' then
    { v with quote := .single }
  else if c = ' ' ∨ c = '\t' then
    { v with isOver := true }
  else
    v.push c

/- Take a character behind a name without braces. -/
def afterName
    (v : Value)
    (look : String → String)
    (name : List Char)
    (c : Char) : Value :=
  if c = '\x7b' ∧ name = [] then
    { v with name := .braced [] }
  else
    let v := v.resolve look name
    if c = '$' then { v with name := .bare [] } else v.push c

/- Take one character. -/
def step?
    (look : String → String)
    (v : Value)
    (c : Char) : Option Value :=
  if v.isEscaped then
    v.escape? c
  else if v.quote = .single then
    some (if c = '\'' then { v with quote := .none } else v.push c)
  else
    match v.name with
    | .none => some (v.plain c)
    | .bare name =>
        if c.isAlphanum then
          some { v with name := .bare (c :: name) }
        else
          some (v.afterName look name c)
    | .braced name =>
        if c = '\x7d' then some (v.resolve look name)
        else some { v with name := .braced (c :: name) }

/- The text of a value whose quotes and braces are closed. -/
def finish?
    (look : String → String)
    (v : Value) : Option String :=
  if v.quote ≠ .none then
    none
  else
    match v.name with
    | .none => some (String.ofList v.chars.reverse)
    | .bare name =>
        some (String.ofList (v.resolve look name).chars.reverse)
    | .braced _ => none

/- Read on; behind the value only a comment may stand. -/
def readFrom?
    (look : String → String)
    (v : Value) : List Char → Option String
  | [] => v.finish? look
  | c :: rest =>
      if v.isOver then
        if c = ' ' ∨ c = '\t' then readFrom? look v rest
        else if c = '#' then v.finish? look
        else none
      else
        match v.step? look c with
        | some v' => readFrom? look v' rest
        | none => none

/- Read a value. -/
def read?
    (look : String → String)
    (cs : List Char) : Option String :=
  readFrom? look empty cs

end Value

------------------------------------------------------------
-- Lines
------------------------------------------------------------

/- A variable and what a line sets it to. -/
structure Entry where
  name : String
  value : String
deriving DecidableEq, Inhabited, Repr

namespace Entry

/- Read the name of a variable. -/
def name? (cs : List Char) : Option (List Char × List Char) :=
  let isInner := fun (c : Char) =>
    c.isAlphanum || c == '_' || c == '.'
  match cs with
  | c :: _ =>
      if c.isAlpha ∨ c = '_' then
        some (cs.takeWhile isInner,
          Text.trimStart (cs.dropWhile isInner))
      else
        none
  | [] => none

/- Pass over the sign between a name and its value. -/
def dropSign? : List Char → Option (List Char)
  | '=' :: rest => some (Text.trimStart rest)
  | _ => none

/- Read a name and pass to its value. -/
def head? (cs : List Char) : Option (List Char × List Char) := do
  let (name, rest) ← name? cs
  match dropSign? rest with
  | some value => return (name, value)
  | none =>
      if name = "export".toList then
        let (name, rest) ← name? rest
        return (name, ← dropSign? rest)
      else
        none

/- Whether nothing stands here but a comment. -/
def isVoid (cs : List Char) : Bool :=
  cs.isEmpty || cs.head? == some '#'

/- Read a line; a void one sets nothing. -/
def read?
    (look : String → String)
    (line : List Char) : Option (Option Entry) :=
  let cs := Text.trim line
  if isVoid cs then
    some none
  else do
    let (name, rest) ← head? cs
    let value ←
      if isVoid rest then pure "" else Value.read? look rest
    return some ⟨String.ofList name, value⟩

end Entry

------------------------------------------------------------
-- Environments
------------------------------------------------------------

/- Set a variable that is not set yet. -/
def set (env : Environment) (e : Entry) : Environment :=
  fun name =>
    match env name with
    | some v => some v
    | none => if name = e.name then some e.value else none

/-
  The value of a variable: that of the environment, else that
  of the last line that set it, else nothing.
-/
def look
    (env : Environment)
    (seen : List Entry)
    (name : String) : String :=
  match env name with
  | some v => v
  | none =>
      match seen.find? fun e => e.name == name with
      | some e => e.value
      | none => ""

/- Let lines set variables, after those seen before. -/
def extendFrom
    (env : Environment)
    (seen : List Entry) : List String → Environment
  | [] => env
  | line :: rest =>
      match Entry.read? (look env seen) line.toList with
      | some (some e) => extendFrom (set env e) (e :: seen) rest
      | some none => extendFrom env seen rest
      | none => env

/- The environment with what a file adds to it. -/
def extend (env : Environment) (text : String) : Environment :=
  extendFrom env [] (text.splitOn "\n")

end EnvFile

end EventFeed
