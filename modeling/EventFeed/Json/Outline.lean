import EventFeed.Json.Token

/-
  This file defines the outline of a JSON text: its brackets,
  names and scalars, before any value is judged.  The outline
  is read from tokens with a stack of the open containers.

  An outline may nest to any depth, repeat a name and hold
  strings that spell no text, so a part of it that nobody
  asks for can be passed over unread.

  Key definitions include:
    * `Json.Outline`
    * `Json.Grammar.step`
    * `Json.Outline.ofTokens?`
    * `Json.Outline.parse?`
-/

------------------------------------------------------------
-- Outlines
------------------------------------------------------------

namespace EventFeed

namespace Json

/- The syntax tree of a JSON text. -/
inductive Outline
  | scalar (s : Scalar)
  | array (items : List Outline)
  | object (members : List (Option String × Outline))
deriving Inhabited, Repr

------------------------------------------------------------
-- Grammar
------------------------------------------------------------

/- An open container with what it holds so far, last first. -/
inductive Level
  | array (items : List Outline)
  | object (members : List (Option String × Outline))
      (name : Option String)
deriving Inhabited, Repr

/- What has been read and what may come next. -/
inductive Grammar
  /- a value must come -/
  | value (stack : List Level)
  /- an array was opened -/
  | arrayStart (stack : List Level)
  /- an object was opened -/
  | objectStart (stack : List Level)
  /- a further member must come -/
  | name (stack : List Level)
      (members : List (Option String × Outline))
  /- a colon must come after a name -/
  | colon (stack : List Level)
      (members : List (Option String × Outline))
      (name : Option String)
  /- a value is complete -/
  | done (stack : List Level) (v : Outline)
deriving Inhabited, Repr

namespace Grammar

/- Read a token where a value must come. -/
def begin (stack : List Level) : Token → Option Grammar
  | .scalar s => some (done stack (.scalar s))
  | .openArray => some (arrayStart stack)
  | .openObject => some (objectStart stack)
  | _ => none

/- Read one token. -/
def step (state : Grammar) (t : Token) : Option Grammar :=
  match state with
  | value stack => begin stack t
  | arrayStart stack =>
      match t with
      | .closeArray => some (done stack (.array []))
      | _ => begin (.array [] :: stack) t
  | objectStart stack =>
      match t with
      | .closeObject => some (done stack (.object []))
      | .scalar (.string n) => some (colon stack [] n)
      | _ => none
  | name stack members =>
      match t with
      | .scalar (.string n) => some (colon stack members n)
      | _ => none
  | colon stack members n =>
      match t with
      | .colon => some (value (.object members n :: stack))
      | _ => none
  | done (.array items :: stack) v =>
      match t with
      | .comma => some (value (.array (v :: items) :: stack))
      | .closeArray =>
          some (done stack (.array (v :: items).reverse))
      | _ => none
  | done (.object members n :: stack) v =>
      match t with
      | .comma => some (name stack ((n, v) :: members))
      | .closeObject =>
          some (done stack (.object ((n, v) :: members).reverse))
      | _ => none
  | done [] _ => none

/- The outline, when it is complete and nothing is open. -/
def outline? : Grammar → Option Outline
  | done [] v => some v
  | _ => none

end Grammar

------------------------------------------------------------
-- Reading
------------------------------------------------------------

namespace Outline

/- The outline that the tokens spell. -/
def ofTokens? (tokens : List Token) : Option Outline :=
  (tokens.foldlM Grammar.step (Grammar.value [])).bind
    Grammar.outline?

/- The outline of a text. -/
def parse? (text : String) : Option Outline :=
  (Token.scan? text.toList).bind ofTokens?

end Outline

end Json

end EventFeed
