/-
  This file defines log lines.

  Key definitions include:
    * `Level`
    * `Topic`
    * `Topic.path`
    * `LogLine`
    * `LogLine.text`
-/

------------------------------------------------------------
-- Levels
------------------------------------------------------------

namespace EventFeed

/- How much a log line matters, from least to most detail. -/
inductive Level
  | error
  | warn
  | info
  | debug
  | trace
deriving DecidableEq, Inhabited, Repr

namespace Level

/- The level in upper case. -/
def name : Level → String
  | error => "ERROR"
  | warn => "WARN"
  | info => "INFO"
  | debug => "DEBUG"
  | trace => "TRACE"

/- How much detail a level stands for. -/
def rank : Level → Nat
  | error => 1
  | warn => 2
  | info => 3
  | debug => 4
  | trace => 5

end Level

------------------------------------------------------------
-- Topics
------------------------------------------------------------

/- The parts of the program that write lines. -/
inductive Topic
  /- the supervision of a feed -/
  | client
  /- the watch over silence -/
  | keepalive
  /- the delivery of events -/
  | delivery
  /- the handlers -/
  | handlers
  /- attempts without a credential -/
  | native
  /- attempts with a credential -/
  | authenticated
  /- the settings -/
  | settings
  /- the running of a program -/
  | runner
  /- the notification listener -/
  | listener
deriving DecidableEq, Inhabited, Repr

namespace Topic

/- The path of a topic, from the whole to the part. -/
def path : Topic → String
  | client => "hyperstream::core::client"
  | keepalive => "hyperstream::core::keepalive"
  | delivery => "hyperstream::core::dispatcher"
  | handlers => "hyperstream::core::handlers"
  | native => "hyperstream::core::transport::native"
  | authenticated =>
      "hyperstream::core::transport::authenticated"
  | settings => "hyperstream::core::config"
  | runner => "notification_client::bin_common::runner"
  | listener => "notification_listener"

end Topic

------------------------------------------------------------
-- Lines
------------------------------------------------------------

/- One line of a log: its level, its topic and its text. -/
structure LogLine where
  level : Level
  topic : Topic
  message : String
deriving DecidableEq, Inhabited, Repr

/- The line as it is shown. -/
def LogLine.text (l : LogLine) : String :=
  l.level.name ++ " " ++ l.message

end EventFeed
