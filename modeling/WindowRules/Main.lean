import WindowRules.CommandLine.Answer

/-!
# The program

The outer layer: it reads what a request needs, has the request answered, and prints
the answer.  A shell is run line by line, so that each line can be answered before
the next one is typed.  No compositor is asked; live windows are never known.
-/

namespace WindowRules
namespace CommandLine

/-- The number of an error, which the system gives with either sign. -/
def errorNumber (code : UInt32) : Nat := min code.toNat (Nat.pow 2 32 - code.toNat)

/-- The reason for which the system refuses a file. -/
def faultOf (e : IO.Error) : FileFault :=
  match e with
  | .noFileOrDirectory _ _ _ => .missing
  | .inappropriateType _ code _ => if errorNumber code = 20 then .notDirectory else .isDirectory
  | .permissionDenied _ _ _ => .denied
  | .invalidArgument _ code _ =>
    if errorNumber code = 36 then .nameTooLong else .other (toString e)
  | e => .other (toString e)

/-- Reads a file. -/
def readContent (path : String) : IO FileContent := do
  try
    return .ok (← IO.FS.readBinFile path).toList
  catch e =>
    return .error (faultOf e)

/-- The environment of the program. -/
def readEnvironment : IO Environment := do
  let values ← variableNames.filterMapM fun name => do
    return (← IO.getEnv name).map fun value => (name, value)
  return { get? := fun name => values.lookup name }

/-- A number below a hundred, with two digits. -/
def twoDigits (n : Nat) : String := if n < 10 then "0" ++ toString n else toString n

/-- The time of day by the clock of the machine, or else the time it has been up. -/
def timeOfDay : IO String := do
  try
    let s ← IO.FS.readFile "/sys/class/rtc/rtc0/time"
    return .ofList (Text.trim s.toList)
  catch _ =>
    let seconds := (← IO.monoMsNow) / 1000
    return twoDigits (seconds / 3600 % 24) ++ ":" ++ twoDigits (seconds / 60 % 60) ++ ":" ++
      twoDigits (seconds % 60)

/-- What surrounds the program, as far as a request depends on it. -/
def readSurroundings (environment : Environment) (r : Request) : IO Surroundings := do
  let contents ← (r.paths environment).mapM fun path => do return (path, ← readContent path)
  return { environment, file := fun path => (contents.lookup path).getD (.error .missing),
           compositor := .absent }

/-- Prints an answer. -/
def Answer.print (a : Answer) : IO UInt32 := do
  (← IO.getStdout).putStr a.output
  (← IO.getStdout).flush
  (← IO.getStderr).putStr a.complaint
  return a.status.toUInt32

/-- Reads the bytes of a line, the latest first, after some that have been read. -/
partial def readLineAfter (input : IO.FS.Stream) (bytes : List UInt8) : IO (List UInt8) := do
  match (← input.read 1).toList with
  | [] => return bytes
  | b :: _ => if b = 10 then return b :: bytes else readLineAfter input (b :: bytes)

/-- Runs the shell on what is typed.  The windows are asked for at each line. -/
partial def converse (windows : IO (Option (List Window))) (s : Session) : IO UInt32 := do
  let bytes ← readLineAfter (← IO.getStdin) []
  match Text.linesOfBytes bytes.reverse with
  | [] => return 0
  | none :: _ => (RequestError.answer .inputNotText).print
  | some line :: _ =>
    match Shell.step (← windows) { s with now := ← timeOfDay } line with
    | none => return 0
    | some (s, out) =>
      (← IO.getStdout).putStr out
      (← IO.getStdout).flush
      converse windows s

/-- Starts the shell. -/
def openShell (environment : Environment) (config clients : Option String) : IO UInt32 := do
  let look := readSurroundings environment (.shell config clients)
  let w ← look
  match w.session config with
  | .error e => e.answer.print
  | .ok s =>
    (← IO.getStdout).putStr (Shell.banner (w.settings config).path s)
    (← IO.getStdout).flush
    converse (do return (← look).liveWindows? clients) s

end CommandLine
end WindowRules

open WindowRules CommandLine

/-- Answers the arguments. -/
def main (arguments : List String) : IO UInt32 := do
  let environment ← readEnvironment
  match Request.ofArguments arguments with
  | .error e => Answer.print { status := 1, complaint := e.complaint }
  | .ok (.shell config clients) => openShell environment config clients
  | .ok r => (r.answer (← readSurroundings environment r)).print
