import WindowRules.Catalog
import WindowRules.CommandLine.Request
import WindowRules.Config.File
import WindowRules.Json.Writer
import WindowRules.Settings
import WindowRules.Shell.Run
import WindowRules.Snapshot

/-!
# Answers to requests

The answer to a request is a status and what is printed.  It depends on what
surrounds the program, which is given as a value: nothing is read here.  An audit has
status 1 if it finds errors, and so has every request that fails.

All requests about rules are answered from a session.  The config file is read before
anything else, so when several files are wrong it is the config file that is reported.
Then the session takes room for its history, and if there is none the program stops at
once, with a status of its own.
-/

namespace WindowRules
namespace CommandLine

/-- What surrounds the program. -/
structure Surroundings where
  environment : Environment
  /-- What reading the file at a path gives. -/
  file : String → FileContent
  compositor : CompositorReply
  /-- Whether the system grants so many bytes. -/
  grants : Nat → Bool := fun _ => true
  /-- What is typed, or otherwise comes in. -/
  input : List UInt8 := []
  /-- The time of day. -/
  now : String := ""

/-- What the program ends with. -/
structure Answer where
  status : Nat := 0
  output : String := ""
  complaint : String := ""
  deriving DecidableEq

/-- Why a request fails. -/
inductive RequestError where
  | config (e : Config.LoadError)
  | snapshot (e : SnapshotError)
  | catalogUnreadable (path : String)
  | catalogInvalid (path : String)
  /-- A line that comes in is not text. -/
  | inputNotText
  /-- No history can keep so many changes. -/
  | historyTooLong
  /-- The system does not grant the bytes that the history takes. -/
  | noMemory (bytes : Nat)
  deriving DecidableEq

/-- The text of the error. -/
def RequestError.message : RequestError → String
  | .config e => e.message
  | .snapshot e => e.message
  | .catalogUnreadable path => "Failed to read catalog " ++ path
  | .catalogInvalid path => "Invalid catalog " ++ path
  | .inputNotText => FileFault.message .notText
  | .historyTooLong => "capacity overflow"
  | .noMemory bytes => "memory allocation of " ++ toString bytes ++ " bytes failed"

/-- What is printed about an error. -/
def RequestError.complaint (e : RequestError) : String :=
  match e with
  | .historyTooLong => "\nthread 'main' panicked:\n" ++ e.message ++ "\n"
  | .noMemory _ => e.message ++ "\n"
  | e => "Error: " ++ e.message ++ "\n"

/-- The status with which the program ends after an error.  It is 1, but for a program that
stops because there is no room. -/
def RequestError.status : RequestError → Nat
  | .historyTooLong => 101
  | .noMemory _ => 134
  | _ => 1

/-- The answer when a request fails. -/
def RequestError.answer (e : RequestError) : Answer :=
  { status := e.status, complaint := e.complaint }

/-- What is printed about wrong arguments. -/
def UsageError.complaint (e : UsageError) : String :=
  e.message ++ "\nRun " ++ programName ++ " --help for more information.\n"

/-! ## What requests need -/

namespace Surroundings

/-- The settings for a request. -/
def settings (w : Surroundings) (config : Option String) : Settings :=
  .resolve w.environment config

/-- The rules that a request is about. -/
def rules (w : Surroundings) (config : Option String) : Except RequestError Ruleset :=
  let path := (w.settings config).path
  (Config.load path (w.file path)).mapError .config

/-- The history that a session begins with, if there is room for it. -/
def history (w : Surroundings) (capacity : Nat) : Except RequestError History :=
  let bytes := History.room capacity
  if History.roomLimit < bytes then .error .historyTooLong
  else if w.grants bytes then .ok (.ofCapacity capacity)
  else .error (.noMemory bytes)

/-- A session with the rules that a request is about. -/
def session (w : Surroundings) (config : Option String) : Except RequestError Session := do
  let rules ← w.rules config
  let history ← w.history (w.settings config).capacity
  return { rules, history, now := w.now }

/-- The open windows: the saved ones if a path is given, the live ones if they are
wanted, and none otherwise. -/
def snapshot? (w : Surroundings) (clients : Option String) (live : Bool) :
    Except SnapshotError (Option (List Window)) :=
  match clients with
  | some path => (Snapshot.ofFile path (w.file path)).map some
  | none => if live then (Snapshot.ofReply w.compositor).map some else .ok none

/-- The windows that the shell knows.  If there is no snapshot it knows none. -/
def liveWindows? (w : Surroundings) (clients : Option String) : Option (List Window) :=
  (w.snapshot? clients true).toOption.bind id

/-- The catalog at a path. -/
def catalog (w : Surroundings) (path : String) : Except RequestError Catalog :=
  match (w.file path).text path with
  | .error _ => .error (.catalogUnreadable path)
  | .ok s => (Catalog.read s).mapError fun _ => .catalogInvalid path

end Surroundings

/-- The variables that settings are taken from. -/
def variableNames : List String :=
  ["HOME", "XDG_CONFIG_HOME", "MADORI_CONFIG", "MADORI_HISTORY_CAPACITY"]

/-- The files that the answer to a request depends on. -/
def Request.paths (e : Environment) : Request → List String
  | .help | .helpOn _ | .version => []
  | .audit config clients _ _ | .windows config clients | .shell config clients =>
    (Settings.resolve e config).path :: clients.toList
  | .explain config _ | .listRules config | .showConfig config => [(Settings.resolve e config).path]
  | .suggest config catalog => [(Settings.resolve e config).path, catalog]

/-! ## What is printed -/

/-- A report as a JSON value. -/
def reportValue (r : Report) : Json.Value :=
  .record
    [("issues", .list (r.issues.map fun i =>
        .record
          [("kind", .text i.kind.name), ("severity", .text i.severity.name),
           ("description", .text i.description), ("suggestion", .text i.suggestion),
           ("rules", .list (i.rules.map .number))])),
     ("counts", .record
        [("errors", .number r.counts.errors), ("warnings", .number r.counts.warnings),
         ("infos", .number r.counts.infos)])]

/-- What is printed about an audit. -/
def auditText (rs : Ruleset) (json : Bool) (r : Report) : String :=
  (if json then (reportValue r).toText
   else if r.isClean then "No issues in " ++ toString rs.length ++ " rule(s)"
   else r.text) ++ "\n"

/-- What is printed about the open windows: one line for each. -/
def windowsText (s : Session) (ws : List Window) : String :=
  let (cascades, _) := (ws.mapM (PatternCache.resolve s.rules)).run s.cache
  String.join (List.zipWith (fun w c => w.label ++ ": " ++ c.summary ++ "\n") ws cascades)

/-- The suggestion for an application, under a comment that names it. -/
def suggestionText (a : App) : String :=
  "# " ++ a.name ++ " (" ++ a.source ++ ")\n" ++ Config.writeRule a.suggestedRule ++ "\n"

/-- What is printed about the applications that no rule mentions. -/
def suggestionsText (apps : List App) : String :=
  match apps with
  | [] => "Every catalog application is covered by a rule\n"
  | apps => String.join (apps.map suggestionText)

/-! ## Answers -/

/-- The number of the version. -/
def versionNumber : String := "0.3.1"

/-- The answer to an audit. -/
def auditAnswer (s : Session) (ws : Option (List Window)) (json : Bool) : Answer :=
  let r := (s.audit ws).1
  { status := if 0 < r.counts.errors then 1 else 0, output := auditText s.rules json r }

/-- The answer to a run of the shell. -/
def shellAnswer (w : Surroundings) (path : String) (ws : Option (List Window)) (s : Session) :
    Answer :=
  let t := Shell.run path (.always ws) s (Text.linesOfBytes w.input)
  let output := String.join t.output
  if t.broken then { RequestError.answer .inputNotText with output } else { output }

/-- The answer to a request, unless it fails. -/
def Request.answer? (w : Surroundings) : Request → Except RequestError Answer
  | .help => .ok { output := helpText programName programSummary commands ++ "\n" }
  | .helpOn c => .ok { output := c.helpText programName ++ "\n" }
  | .version => .ok { output := programName ++ " " ++ versionNumber ++ "\n" }
  | .audit config clients live json => do
    let s ← w.session config
    let ws ← (w.snapshot? clients live).mapError .snapshot
    return auditAnswer s ws json
  | .explain config window => do
    let s ← w.session config
    return { output := (s.resolve window).1.text }
  | .listRules config => do
    let s ← w.session config
    return { output := Shell.rulesText s.rules }
  | .showConfig config => do
    let s ← w.session config
    return { output := s.toConfig }
  | .windows config clients => do
    let s ← w.session config
    let ws ← (w.snapshot? clients true).mapError .snapshot
    return { output := windowsText s (ws.getD []) }
  | .suggest config catalog => do
    let s ← w.session config
    let c ← w.catalog catalog
    return { output := suggestionsText (c.uncovered s.rules) }
  | .shell config clients => do
    let s ← w.session config
    return shellAnswer w (w.settings config).path (w.liveWindows? clients) s

/-- The answer to a request. -/
def Request.answer (w : Surroundings) (r : Request) : Answer :=
  match r.answer? w with
  | .ok a => a
  | .error e => e.answer

/-- The answer of the program to its arguments. -/
def answer (w : Surroundings) (arguments : List String) : Answer :=
  match Request.ofArguments arguments with
  | .ok r => r.answer w
  | .error e => { status := 1, complaint := e.complaint }

end CommandLine
end WindowRules
