import EventFeed.FeedError
import EventFeed.Settings
import EventFeed.Yaml.Node

/-
  This file reads settings from YAML.

  What a scalar means depends on the setting it is for: any
  scalar is a text, but only a plain one is a number, a truth
  value or nothing.  A setting may be given once; what is no
  setting is passed over.

  What is wrong with a text that gives no settings is for the
  reader of YAML to say.  How it says so is not settled here:
  its diagnosis is a parameter, as a function of the text.

  Key definitions include:
    * `Yaml.Scalar.optional?`
    * `Yaml.Scalar.bool?`
    * `Yaml.Scalar.nat?`
    * `Yaml.fields?`
    * `Settings.ofFields?`
    * `Settings.ofYaml?`
    * `Settings.ofText`
-/

------------------------------------------------------------
-- Scalars by Meaning
------------------------------------------------------------

namespace EventFeed

namespace Yaml

namespace Scalar

/- The tag of a kind of value that everyone knows. -/
def coreTag (kind : String) : String :=
  "tag:yaml.org,2002:" ++ kind

/- Whether the text is a word for nothing. -/
def isNullWord (text : String) : Bool :=
  ["null", "Null", "NULL", "~"].contains text

/-
  The scalar, or nothing if that is what it says.  What is
  quoted or has a tag of its own says something; under the tag
  of nothing, only a word for nothing may stand.
-/
def optional? (s : Scalar) : Option (Option Scalar) :=
  if s.style ≠ .plain then
    some (some s)
  else
    match s.tag with
    | some t =>
        if t ≠ coreTag "null" then some (some s)
        else if isNullWord s.text then some none
        else none
    | none =>
        if s.text = "" ∨ isNullWord s.text then some none
        else some (some s)

/-
  Whether the scalar can be more than a text: if it is plain,
  or a literal block that the tag of the kind stands before.
-/
def isValue (s : Scalar) (kind : String) : Bool :=
  match s.style with
  | .plain => true
  | .literal => s.tag == some (coreTag kind)
  | _ => false

/- The truth value that a scalar gives. -/
def bool? (s : Scalar) : Option Bool :=
  if !s.isValue "bool" then none
  else if ["true", "True", "TRUE"].contains s.text then
    some true
  else if ["false", "False", "FALSE"].contains s.text then
    some false
  else
    none

/- The number that digits to a base spell. -/
def digits? (base : Nat) (cs : List Char) : Option Nat :=
  if cs = [] then
    none
  else
    cs.foldlM
      (fun n c =>
        (Text.hexDigit? c).bind fun d =>
          if d < base then some (n * base + d) else none)
      0

/- The number that decimal digits spell, without padding. -/
def decimal? : List Char → Option Nat
  | '0' :: _ :: _ => none
  | cs => digits? 10 cs

/- The number that a text spells after its sign. -/
def unsigned? : List Char → Option Nat
  | '0' :: 'x' :: cs => digits? 16 cs
  | '0' :: 'o' :: cs => digits? 8 cs
  | '0' :: 'b' :: cs => digits? 2 cs
  | cs => decimal? cs

/- The number below a limit that a scalar gives. -/
def nat? (s : Scalar) (limit : Nat) : Option Nat :=
  if !s.isValue "int" then
    none
  else
    let cs :=
      match s.text.toList with
      | '+' :: cs => cs
      | cs => cs
    (unsigned? cs).filter fun n => decide (n < limit)

end Scalar

------------------------------------------------------------
-- Mappings of Scalars
------------------------------------------------------------

namespace Node

/- The scalar that a node is or means. -/
def scalar? (root n : Node) : Option Scalar :=
  match n with
  | .scalar _ s => some s
  | .alias number =>
      match numbered? number root with
      | some (.scalar _ s) => some s
      | _ => none
  | _ => none

/- The entries of a mapping whose keys are all texts. -/
def entries? (root : Node) : Option (List (String × Node)) :=
  match root with
  | .mapping _ entries =>
      entries.mapM fun (k, v) =>
        (scalar? root k).map fun s => (s.text, v)
  | _ => none

/- The entries of a mapping with the scalars they give. -/
def fields?
    (root : Node) : Option (List (String × Option Scalar)) :=
  root.entries?.map fun entries =>
    entries.map fun e => (e.1, root.scalar? e.2)

end Node

/- What a key has in a text, if that is a scalar. -/
abbrev Field : Type :=
  String × Option Scalar

/- The fields of the mapping that a text spells. -/
def fields? (text : String) : Option (List Field) :=
  (Node.read? text).bind Node.fields?

namespace Field

/-
  The scalar of a key that is there once, or nothing if the
  key is not there.
-/
def unique?
    (fields : List Field)
    (key : String) : Option (Option Scalar) :=
  match fields.filter fun f => f.1 == key with
  | [] => some none
  | [f] => f.2.map some
  | _ => none

/- The text that a key must have. -/
def text? (fields : List Field) (key : String) : Option String :=
  (unique? fields key).bind fun s? => s?.map fun s => s.text

/- The scalar of a key that need not be there. -/
def optional?
    (fields : List Field)
    (key : String) : Option (Option Scalar) :=
  (unique? fields key).bind fun s? =>
    match s? with
    | some s => s.optional?
    | none => some none

/- The truth value of a key, or the usual one. -/
def bool?
    (fields : List Field)
    (key : String)
    (usual : Bool) : Option Bool :=
  (unique? fields key).bind fun s? =>
    match s? with
    | some s => s.bool?
    | none => some usual

/- The number of a key, or the usual one. -/
def nat?
    (fields : List Field)
    (key : String)
    (usual : UInt64) : Option UInt64 :=
  (unique? fields key).bind fun s? =>
    match s? with
    | some s => (s.nat? UInt64.size).map UInt64.ofNat
    | none => some usual

/- The number of a key that need not be there. -/
def ceiling?
    (fields : List Field)
    (key : String) : Option (Option UInt32) :=
  (optional? fields key).bind fun s? =>
    match s? with
    | some s => (s.nat? UInt32.size).map (some <| UInt32.ofNat ·)
    | none => some none

end Field

end Yaml

------------------------------------------------------------
-- Settings
------------------------------------------------------------

namespace Settings

/- The settings that fields give. -/
def ofFields? (fields : List Yaml.Field) : Option Settings := do
  let usual := ofUrl ""
  let url ← Yaml.Field.text? fields "url"
  let credential ← Yaml.Field.optional? fields "credential"
  let autoReconnect ←
    Yaml.Field.bool? fields "auto_reconnect" usual.autoReconnect
  let reconnectInterval ←
    Yaml.Field.nat? fields "reconnect_interval_ms"
      usual.reconnectInterval
  let maxAttempts ←
    Yaml.Field.ceiling? fields "max_reconnect_attempts"
  let pingTimeout ←
    Yaml.Field.nat? fields "ping_timeout_ms" usual.pingTimeout
  return {
    url := url
    credential := credential.map fun s => s.text
    autoReconnect := autoReconnect
    reconnectInterval := reconnectInterval
    maxAttempts := maxAttempts
    pingTimeout := pingTimeout }

/- The settings that a text gives. -/
def ofYaml? (text : String) : Option Settings :=
  (Yaml.fields? text).bind ofFields?

/- The error for a text that gives none, with a diagnosis. -/
def unreadable (diagnosis : String) : FeedError :=
  .configuration ("Failed to parse YAML: " ++ diagnosis)

/- The settings that a text gives, or what is wrong. -/
def ofText
    (diagnose : String → String)
    (text : String) : Except FeedError Settings :=
  match ofYaml? text with
  | some s => .ok s
  | none => .error (unreadable (diagnose text))

end Settings

end EventFeed
