import WindowRules.Json.Reader
import WindowRules.Window

/-!
# Clients

The compositor reports its windows as clients, in a JSON text.  Every member of a
client can be left out, and then it is empty, zero or false; a workspace that is
given has both its members.  Unlike a window in general, the window of a client has
all attributes.
-/

namespace WindowRules

/-- The workspace of a client. -/
structure Workspace where
  id : Int := 0
  name : String := ""
  deriving DecidableEq

/-- What the compositor reports of a window. -/
structure Client where
  address : String := ""
  pid : Int := 0
  windowClass : String := ""
  title : String := ""
  initialClass : String := ""
  initialTitle : String := ""
  workspace : Workspace := {}
  floating : Bool := false
  deriving DecidableEq

/-- The workspace of a client, as JSON. -/
def Workspace.reader : Json.Reader Workspace :=
  Json.record
    [.needed "id" (Json.integer (-Int.pow 2 63) (Int.pow 2 63 - 1)) fun w v => { w with id := v },
     .needed "name" Json.text fun w v => { w with name := v }]
    {}

namespace Client

/-- A client, as JSON. -/
def reader : Json.Reader Client :=
  Json.record
    [.optional "address" Json.text fun c v => { c with address := v },
     .optional "pid" (Json.integer (-Int.pow 2 31) (Int.pow 2 31 - 1)) fun c v =>
       { c with pid := v },
     .optional "class" Json.text fun c v => { c with windowClass := v },
     .optional "title" Json.text fun c v => { c with title := v },
     .optional "initialClass" Json.text fun c v => { c with initialClass := v },
     .optional "initialTitle" Json.text fun c v => { c with initialTitle := v },
     .optional "workspace" Workspace.reader fun c v => { c with workspace := v },
     .optional "floating" Json.switch fun c v => { c with floating := v }]
    {}

/-- The clients that a JSON text lists. -/
def readList (text : String) : Except Json.Fault (List Client) := Json.read (Json.list reader) text

/-- The window of a client. -/
def window (c : Client) : Window where
  windowClass := some c.windowClass
  title := some c.title
  initialClass := some c.initialClass
  initialTitle := some c.initialTitle
  workspaceName := some c.workspace.name
  workspaceId := some c.workspace.id

end Client

end WindowRules
