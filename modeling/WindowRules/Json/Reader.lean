import WindowRules.Json.Node

/-!
# Reading values from JSON texts

A reader asks a node for a value of some shape.  Nodes are read from front to back,
so the first thing that is wrong is the one that is reported.

A record can be given as an object or as a list of its members in their order.
Unknown keys of an object are skipped; a member that is given twice, or that is
required and not given, does not fit.
-/

namespace WindowRules
namespace Json

/-- What asks a node for a value. -/
abbrev Reader (α : Type) := Node → Except Fault α

/-- The fault of a node that has not the shape that is asked for. -/
def Node.misfit : Node → Fault
  | .broken f _ => f
  | .text (.error f) => f
  | .number n => if n.isTooLarge then .malformed else .unfit
  | _ => .unfit

/-- Reads a string. -/
def text : Reader String
  | .text (.ok s) => .ok s
  | n => .error n.misfit

/-- Reads true or false. -/
def switch : Reader Bool
  | .switch b => .ok b
  | n => .error n.misfit

/-- Reads an integer between two bounds. -/
def integer (least greatest : Int) : Reader Int
  | .number n =>
    match n.toInt? with
    | some i => if least ≤ i ∧ i ≤ greatest then .ok i else .error (Node.number n).misfit
    | none => .error (Node.number n).misfit
  | n => .error n.misfit

/-- Reads a list whose elements have one shape. -/
def list {α : Type} (read : Reader α) : Reader (List α)
  | .list ns ending => do
    let xs ← ns.mapM read
    match ending with
    | none => .ok xs
    | some f => .error f
  | n => .error n.misfit

/-! ## Records -/

/-- A member of a record: its key, whether it has to be there, and how it is read. -/
structure Member (σ : Type) where
  key : String
  required : Bool
  /-- Reads the value and puts it into the record. -/
  read : Node → σ → Except Fault σ

/-- A member that can be left out. -/
def Member.optional {σ α : Type} (key : String) (read : Reader α) (put : σ → α → σ) : Member σ :=
  ⟨key, false, fun n s => (read n).map (put s)⟩

/-- A member that has to be there. -/
def Member.needed {σ α : Type} (key : String) (read : Reader α) (put : σ → α → σ) : Member σ :=
  ⟨key, true, fun n s => (read n).map (put s)⟩

/-- Reads members that are given as a list. -/
def membersOfList {σ : Type} (ending : Option Fault) :
    List (Member σ) → List Node → σ → Except Fault σ
  | [], [], s =>
    match ending with
    | none => .ok s
    | some f => .error f
  | [], _ :: _, _ => .error .malformed
  | m :: ms, n :: ns, s => do membersOfList ending ms ns (← m.read n s)
  | m :: ms, [], s =>
    match ending with
    | some f => .error f
    | none => if m.required then .error .unfit else membersOfList none ms [] s

/-- Reads members that are given by their keys, some of which have been seen. -/
def membersOfRecord {σ : Type} (members : List (Member σ)) (ending : Option Fault) :
    List String → List (Except Fault String × Node) → σ → Except Fault σ
  | seen, [], s =>
    match ending with
    | some f => .error f
    | none =>
      if members.all fun m => !m.required || seen.contains m.key then .ok s else .error .unfit
  | _, (.error f, _) :: _, _ => .error f
  | seen, (.ok k, n) :: rest, s =>
    match members.find? (·.key = k) with
    | some m =>
      if seen.contains k then .error .unfit
      else do membersOfRecord members ending (k :: seen) rest (← m.read n s)
    | none =>
      match n.skipFault? with
      | some f => .error f
      | none => membersOfRecord members ending seen rest s

/-- Reads a record, starting from one in which nothing is given. -/
def record {σ : Type} (members : List (Member σ)) (blank : σ) : Reader σ
  | .list ns ending => membersOfList ending members ns blank
  | .record ms ending => membersOfRecord members ending [] ms blank
  | n => .error n.misfit

/-! ## Whole texts -/

/-- Reads a text that holds one value and nothing else. -/
def read {α : Type} (shape : Reader α) (s : String) : Except Fault α := do
  let (n, more) := Node.ofText s.toList
  let x ← shape n
  if more then .error .malformed else .ok x

end Json
end WindowRules
