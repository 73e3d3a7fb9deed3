import EventFeed.Json.Basic
import EventFeed.Text.Hex

/-
  This file defines the tokens of JSON text and reads them
  character by character.

  A string with an escaped surrogate that has no partner
  spells no text: its value is `none`.  Such a string may be
  skipped but not used.

  Key definitions include:
    * `Json.Number.ofChars?`
    * `Json.Scalar`
    * `Json.Token`
    * `Json.Scan.step`
    * `Json.Token.scan?`
-/

------------------------------------------------------------
-- Numbers
------------------------------------------------------------

namespace EventFeed

namespace Json

/- Whether the character is a decimal digit. -/
def isDigit (c : Char) : Bool :=
  '0' ≤ c && c ≤ '9'

namespace Exponent

/- Read a power of ten after its mark. -/
def ofChars? (cs : List Char) : Option Exponent :=
  let (negative, digits) :=
    match cs with
    | '-' :: rest => (true, rest)
    | '+' :: rest => (false, rest)
    | rest => (false, rest)
  if digits ≠ [] ∧ digits.all isDigit then
    some ⟨negative, digits⟩
  else
    none

end Exponent

namespace Number

/- Read what follows the whole part and the fraction. -/
def ofTail?
    (negative : Bool)
    (whole : List Char)
    (fraction : Option (List Char)) :
    List Char → Option Number
  | [] => some ⟨negative, whole, fraction, none⟩
  | c :: rest =>
      if c = 'e' ∨ c = 'E' then
        (Exponent.ofChars? rest).map fun e =>
          ⟨negative, whole, fraction, some e⟩
      else
        none

/- Read what follows the whole part. -/
def ofFraction?
    (negative : Bool)
    (whole : List Char) :
    List Char → Option Number
  | '.' :: rest =>
      let digits := rest.takeWhile isDigit
      if digits = [] then
        none
      else
        ofTail? negative whole (some digits)
          (rest.dropWhile isDigit)
  | rest => ofTail? negative whole none rest

/- Read a number after its sign. -/
def ofUnsigned?
    (negative : Bool)
    (cs : List Char) : Option Number :=
  match cs with
  | '0' :: rest =>
      match rest with
      | c :: _ =>
          if isDigit c then none
          else ofFraction? negative ['0'] rest
      | [] => ofFraction? negative ['0'] []
  | _ =>
      let whole := cs.takeWhile isDigit
      if whole = [] then
        none
      else
        ofFraction? negative whole (cs.dropWhile isDigit)

/- Read a number that takes up the whole text. -/
def ofChars? : List Char → Option Number
  | '-' :: rest => ofUnsigned? true rest
  | cs => ofUnsigned? false cs

end Number

------------------------------------------------------------
-- Tokens
------------------------------------------------------------

/-
  The values without parts.  A string whose escapes spell no
  text has no value.
-/
inductive Scalar
  | null
  | bool (b : Bool)
  | number (n : Number)
  | string (text : Option String)
deriving DecidableEq, Inhabited, Repr

/- The smallest parts of JSON text. -/
inductive Token
  | openArray
  | closeArray
  | openObject
  | closeObject
  | comma
  | colon
  | scalar (s : Scalar)
deriving DecidableEq, Inhabited, Repr

/- Where an escape inside a string stands. -/
inductive Escape
  | none
  | slash
  | hex (left value : Nat)
deriving Inhabited, Repr

/-
  A string token in the making: its characters so far (last
  first), a leading surrogate that waits for its partner, and
  whether all surrogates so far had one.
-/
structure OpenString where
  chars : List Char
  leading : Option Nat
  paired : Bool
  escape : Escape
deriving Inhabited, Repr

/- What the scanner is in the middle of. -/
inductive Scan.Mode
  | between
  | string (s : OpenString)
  | number (chars : List Char)
  | word (chars : List Char)
deriving Inhabited, Repr

/- The tokens so far (last first) and the one in the making. -/
structure Scan where
  tokens : List Token
  mode : Scan.Mode
deriving Inhabited, Repr

------------------------------------------------------------
-- Strings
------------------------------------------------------------

namespace OpenString

/- A string after its opening quote. -/
def new : OpenString :=
  ⟨[], none, true, .none⟩

/- Take a character; a waiting surrogate stays alone. -/
def push (s : OpenString) (c : Char) : OpenString :=
  { chars := c :: s.chars
    leading := none
    paired := s.paired && s.leading.isNone
    escape := .none }

/- Take the value of a finished numeric escape. -/
def pushUnit (s : OpenString) (u : Nat) : OpenString :=
  match s.leading with
  | some high =>
      if 0xdc00 ≤ u ∧ u < 0xe000 then
        { s with
          chars :=
            Char.ofNat
              (0x10000 + (high - 0xd800) * 0x400 +
                (u - 0xdc00)) :: s.chars
          leading := none
          escape := .none }
      else
        { s with
          leading := none, paired := false, escape := .none }
  | none =>
      if 0xd800 ≤ u ∧ u < 0xdc00 then
        { s with leading := some u, escape := .none }
      else if 0xdc00 ≤ u ∧ u < 0xe000 then
        { s with paired := false, escape := .none }
      else
        { s with chars := Char.ofNat u :: s.chars,
                 escape := .none }

/- The character that a one-letter escape stands for. -/
def shortEscape? : Char → Option Char
  | '"' => some '"'
  | '\\' => some '\\'
  | '/' => some '/'
  | 'b' => some '\x08'
  | 'f' => some '\x0c'
  | 'n' => some '\n'
  | 'r' => some '\r'
  | 't' => some '\t'
  | _ => none

/-
  Take one character of the source.  The outer `none` is
  ill-formed text, the inner one the closing quote.
-/
def step
    (s : OpenString)
    (c : Char) : Option (Option OpenString) :=
  match s.escape with
  | .none =>
      if c = '"' then some none
      else if c = '\\' then
        some (some { s with escape := .slash })
      else if c < ' ' then none
      else some (some (s.push c))
  | .slash =>
      if c = 'u' then
        some (some { s with escape := .hex 4 0 })
      else (shortEscape? c).map fun d => some (s.push d)
  | .hex left value =>
      (Text.hexDigit? c).map fun d =>
        let value' := value * 16 + d
        if left ≤ 1 then some (s.pushUnit value')
        else some { s with escape := .hex (left - 1) value' }

/- The text of a finished string. -/
def text? (s : OpenString) : Option String :=
  if s.paired && s.leading.isNone then
    some (String.ofList s.chars.reverse)
  else
    none

end OpenString

------------------------------------------------------------
-- Scanning
------------------------------------------------------------

namespace Scan

/- The characters between tokens. -/
def isSpace (c : Char) : Bool :=
  c == ' ' || c == '\n' || c == '\t' || c == '\r'

/- The characters a number is made of. -/
def isNumberChar (c : Char) : Bool :=
  isDigit c || c == '-' || c == '+' || c == '.' ||
    c == 'e' || c == 'E'

/- The characters a word is made of. -/
def isWordChar (c : Char) : Bool :=
  'a' ≤ c && c ≤ 'z'

/- The value of a word. -/
def word? (cs : List Char) : Option Scalar :=
  if cs = "true".toList then some (.bool true)
  else if cs = "false".toList then some (.bool false)
  else if cs = "null".toList then some .null
  else none

/- The token of a mark that is one character. -/
def mark? : Char → Option Token
  | '[' => some .openArray
  | ']' => some .closeArray
  | '{' => some .openObject
  | '}' => some .closeObject
  | ',' => some .comma
  | ':' => some .colon
  | _ => none

/- Read a character where no token is in the making. -/
def begin
    (tokens : List Token)
    (c : Char) : Option Scan :=
  if isSpace c then
    some ⟨tokens, .between⟩
  else if c = '"' then
    some ⟨tokens, .string OpenString.new⟩
  else if c = '-' ∨ isDigit c then
    some ⟨tokens, .number [c]⟩
  else if isWordChar c then
    some ⟨tokens, .word [c]⟩
  else
    (mark? c).map fun t => ⟨t :: tokens, .between⟩

/- Read one character. -/
def step (scan : Scan) (c : Char) : Option Scan :=
  match scan.mode with
  | .between => begin scan.tokens c
  | .string s =>
      (s.step c).map fun
        | some s' => ⟨scan.tokens, .string s'⟩
        | none => 
            ⟨.scalar (.string s.text?) :: scan.tokens, .between⟩
  | .number cs =>
      if isNumberChar c then
        some ⟨scan.tokens, .number (c :: cs)⟩
      else
        (Number.ofChars? cs.reverse).bind fun n =>
          begin (.scalar (.number n) :: scan.tokens) c
  | .word cs =>
      if isWordChar c then
        some ⟨scan.tokens, .word (c :: cs)⟩
      else
        (word? cs.reverse).bind fun t =>
          begin (.scalar t :: scan.tokens) c

/- The tokens at the end of the text. -/
def finish? (scan : Scan) : Option (List Token) :=
  match scan.mode with
  | .between => some scan.tokens.reverse
  | .string _ => none
  | .number cs =>
      (Number.ofChars? cs.reverse).map fun n =>
        (.scalar (.number n) :: scan.tokens).reverse
  | .word cs =>
      (word? cs.reverse).map fun t =>
        (.scalar t :: scan.tokens).reverse

end Scan

/- The tokens of a text, if it is made of tokens. -/
def Token.scan? (cs : List Char) : Option (List Token) :=
  (cs.foldlM Scan.step ⟨[], .between⟩).bind Scan.finish?

end Json

end EventFeed
