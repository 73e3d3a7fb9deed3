import EventFeed.Log

/-
  This file defines which lines of a log are shown.

  A filter is a list of rules with commas between them.  A
  rule names a level, or a topic and perhaps a level; of the
  rules whose topic a line belongs to, the one with the
  longest topic decides, and of equals the last.

  Key definitions include:
    * `LogFilter.Rule`
    * `LogFilter.Rule.read?`
    * `LogFilter.read?`
    * `LogFilter.ofSetting`
    * `LogFilter.admits`
-/

------------------------------------------------------------
-- Rules
------------------------------------------------------------

namespace EventFeed

namespace LogFilter

/- The least detail that is kept back, for a topic or all. -/
structure Rule where
  topic : Option String
  rank : Nat
deriving DecidableEq, Inhabited, Repr

/- The rank of a level by its name or number; 0 is none. -/
def rank? (s : String) : Option Nat :=
  let levels : List Level := [.error, .warn, .info, .debug, .trace]
  if s.toLower = "off" ∨ s = "0" then
    some 0
  else
    (levels.find? fun l =>
      l.name == s.toUpper || toString l.rank == s).map Level.rank

/- The characters of a topic. -/
def isTopic (c : Char) : Bool :=
  c.isAlphanum || c == '_' || c == '-' || c == ':'

/- Pass over the span that a rule may be about. -/
def dropSpan? : List Char → Option (Bool × List Char)
  | '[' :: rest =>
      match rest.dropWhile (· != ']') with
      | ']' :: rest => some (true, rest)
      | _ => none
  | rest => some (false, rest)

namespace Rule

/- The rank behind a topic; all is shown if none is given. -/
def level? : List Char → Option Nat
  | [] => some Level.trace.rank
  | ['='] => some Level.trace.rank
  | '=' :: rest => rank? (String.ofList rest)
  | _ => none

/-
  Read a rule.  One about a span is no rule for lines, as
  nothing is logged within a span.
-/
def read? (s : String) : Option (Option Rule) :=
  match rank? s with
  | some r => some (some ⟨none, r⟩)
  | none => do
      let (before, rest) ← dropSpan? s.toList
      let topic := rest.takeWhile isTopic
      let (after, rest) ← dropSpan? (rest.dropWhile isTopic)
      let rank ← level? rest
      if topic = [] ∧ !before ∧ !after then
        none
      else if before || after then
        return none
      else
        let name := String.ofList topic
        return some
          ⟨if (rank? name).isSome then none else some name, rank⟩

/- How many characters of a topic the rule names. -/
def weight (r : Rule) : Nat :=
  match r.topic with
  | some t => t.length + 1
  | none => 0

/- Whether a topic is among those that the rule is about. -/
def covers (r : Rule) (topic : Topic) : Bool :=
  match r.topic with
  | some t => t.isPrefixOf topic.path
  | none => true

end Rule

------------------------------------------------------------
-- Filters
------------------------------------------------------------

/- Read rules with commas between them. -/
def read? (s : String) : Option (List Rule) :=
  let parts := (s.splitOn ",").filter (· != "")
  if parts = [] then
    some [⟨none, Level.error.rank⟩]
  else
    (parts.mapM Rule.read?).map fun rules =>
      rules.filterMap id

/- The filter that is used when none can be read. -/
def usual : List Rule :=
  [⟨none, Level.info.rank⟩]

/- The filter that a variable of the environment asks for. -/
def ofSetting (s : Option String) : List Rule :=
  (s.bind read?).getD usual

/- The variable that may hold a filter. -/
def variableName : String :=
  "RUST_LOG"

/- The heavier of two rules, the later one of equals. -/
def heavier (best : Option Rule) (r : Rule) : Option Rule :=
  match best with
  | some b => if r.weight < b.weight then some b else some r
  | none => some r

/- Whether a line is shown. -/
def admits (rules : List Rule) (l : LogLine) : Bool :=
  let best :=
    (rules.filter fun r => r.covers l.topic).foldl heavier none
  match best with
  | some r => decide (l.level.rank ≤ r.rank)
  | none => false

end LogFilter

end EventFeed
