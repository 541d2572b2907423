import WindowRules.Client
import WindowRules.File
import WindowRules.Text.Blank

/-!
# Snapshots of the open windows

The open windows are asked of the compositor or taken from a file that holds an
earlier answer of it.  Either may fail, and if the answer comes from a file the error
names the file.
-/

namespace WindowRules

/-- How the compositor answers when it is asked for its clients. -/
inductive CompositorReply where
  /-- Nobody can be asked. -/
  | absent
  /-- The program that asks ends with a status, with what it wrote and complained. -/
  | exited (status : Nat) (output : List UInt8) (complaint : String)

/-- Why there is no snapshot. -/
inductive SnapshotError where
  | absent
  | failed (status : Nat) (complaint : String)
  | notText
  | notClients
  | unreadable (path : String)
  | invalid (path : String)
  deriving DecidableEq

/-- The text of the error. -/
def SnapshotError.message : SnapshotError → String
  | .absent => "Failed to run hyprctl"
  | .failed status complaint =>
    "hyprctl exited with exit status: " ++ toString status ++ ": " ++ complaint
  | .notText => "hyprctl output is not UTF-8"
  | .notClients => "Failed to decode client list"
  | .unreadable path => "Failed to read " ++ path
  | .invalid path => "Invalid client list in " ++ path

namespace Snapshot

/-- The windows of the clients that a text lists. -/
def ofText (text : String) : Except Json.Fault (List Window) :=
  (Client.readList text).map fun cs => cs.map Client.window

/-- The windows that the compositor reports. -/
def ofReply : CompositorReply → Except SnapshotError (List Window)
  | .absent => .error .absent
  | .exited 0 output _ =>
    match Text.ofBytes? output with
    | none => .error .notText
    | some s =>
      match ofText (.ofList s) with
      | .ok ws => .ok ws
      | .error _ => .error .notClients
  | .exited status _ complaint =>
    .error (.failed status (.ofList (Text.trim complaint.toList)))

/-- The windows that a file holds. -/
def ofFile (path : String) (content : FileContent) : Except SnapshotError (List Window) :=
  match content.text path with
  | .error _ => .error (.unreadable path)
  | .ok s =>
    match ofText s with
    | .ok ws => .ok ws
    | .error _ => .error (.invalid path)

end Snapshot

end WindowRules
