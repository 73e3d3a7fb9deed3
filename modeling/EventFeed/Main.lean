import EventFeed.Launch.Listener

/-
  This file is the command line of the notification listener.

  The settings come from the file that the arguments or the
  environment name.  The body of the feed comes from standard
  input, and the log goes to standard output.

  Key definitions include:
    * `CommandLine.readFile`
    * `main`
-/

------------------------------------------------------------
-- Command Line
------------------------------------------------------------

namespace EventFeed

namespace CommandLine

/- The bytes of a file, or why there are none. -/
def readFile
    (path : String) : IO (Except FileFault ByteArray) := do
  try
    return .ok (← IO.FS.readBinFile path)
  catch
    | .noFileOrDirectory _ _ _ => return .error .missing
    | .inappropriateType _ _ _ => return .error .directory
    | e => return .error (.other (toString e))

/- The environment as far as the listener asks for it. -/
def environment : IO Environment := do
  let names :=
    [ConfigSource.stream.variableName, Settings.tokenVariable,
      LogFilter.variableName]
  let pairs ← names.mapM fun name =>
    return (name, ← IO.getEnv name)
  return fun name => (pairs.lookup name).join

/- Read everything that comes in, chunk by chunk. -/
partial def readChunks
    (input : IO.FS.Stream) : IO (List (List UInt8)) := do
  let chunk ← input.read 65536
  if chunk.isEmpty then
    return []
  else
    return chunk.toList :: (← readChunks input)

/- Print the lines of a log that the environment asks for. -/
def printLines
    (env : Environment)
    (lines : List LogLine) : IO Unit := do
  let rules := LogFilter.ofSetting (env LogFilter.variableName)
  for l in lines do
    if LogFilter.admits rules l then
      IO.println l.text

/-
  What is said of a text that gives no settings.  The words
  that a reader of YAML has for this are left out.
-/
def diagnose (_ : String) : String :=
  "these are no settings of a feed"

/- Follow the feed on standard input. -/
def listen (args : List String) : IO UInt32 := do
  let beside ← readFile ".env"
  let env :=
    Listener.surroundings (← environment) fun _ => beside
  let path := ConfigSource.stream.resolve args env
  let content ← readFile path
  let prepared :=
    Listener.prepare diagnose args env fun _ => content
  printLines env prepared.1
  match prepared.2 with
  | .error e =>
      IO.eprintln ("Error: " ++ e.message)
      return 1
  | .ok c =>
      let chunks ← readChunks (← IO.getStdin)
      printLines env
        (Listener.replay c
          ⟨200, some Http.streamType, chunks, .complete⟩)
      return 0

end CommandLine

end EventFeed

/- Follow a feed as the arguments say. -/
def main (args : List String) : IO UInt32 :=
  EventFeed.CommandLine.listen args
