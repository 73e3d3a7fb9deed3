import EventFeed.Settings.File

/-
  This file defines files by their paths, as a program that
  starts in some directory sees them.

  Key definitions include:
    * `Files`
    * `Files.read`
-/

------------------------------------------------------------
-- Paths
------------------------------------------------------------

namespace EventFeed

/- The files below a directory, by their paths. -/
abbrev Files :=
  List (String × String)

namespace Files

/- The steps of a path, last first; a step may lead back. -/
def stepsFrom (seen : List String) : List String → List String
  | [] => seen
  | part :: rest =>
      if part = "" ∨ part = "." then stepsFrom seen rest
      else if part = ".." then stepsFrom (seen.drop 1) rest
      else stepsFrom (part :: seen) rest

/- The steps of a path. -/
def steps (path : String) : List String :=
  (stepsFrom [] (path.splitOn "/")).reverse

/- The files with the steps that lead to them. -/
def located (fs : Files) : List (List String × String) :=
  fs.map fun f => (steps f.1, f.2)

/- What is said of a path through or into a file. -/
def notDirectory : FileFault :=
  .other "Not a directory (os error 20)"

/- Whether a path can only be that of a directory. -/
def endsInSlash (path : String) : Bool :=
  path.toList.getLast? == some '/'

/- The content of the file at a path. -/
def read
    (fs : Files)
    (path : String) : Except FileFault ByteArray :=
  let here := steps path
  let all := fs.located
  if path = "" ∨ path.toList.head? = some '/' then
    .error .missing
  else
    match all.lookup here with
    | some text =>
        if endsInSlash path then .error notDirectory
        else .ok text.toUTF8
    | none =>
        if all.any fun f => here.isPrefixOf f.1 then
          .error .directory
        else if here = [] then
          .error .directory
        else if all.any fun f => f.1.isPrefixOf here then
          .error notDirectory
        else
          .error .missing

end Files

end EventFeed
