import WindowRules.CommandLine.Request

/-!
# Options one by one

Arguments are read from the left, and at each word there are many ways to go on: it may ask for
help, end the options, be a switch, or take the next word with it.  Arguments that are written
option by option take none of the detours, so they can be read option by option, whatever the words
are that stand for values; a value may well look like an option.
-/

namespace WindowRules
namespace CommandLine

/-- The arguments that give an option a value, if it is to have one. -/
def valuedArguments (option : String) : Option String → List String
  | none => []
  | some value => [option, value]

/-- The arguments that turn a switch on, if it is to be on. -/
def switchArguments (switch : String) (on : Bool) : List String := if on then [switch] else []

/-- A word can call an option: it looks like one, and it neither ends options nor asks for help. -/
def CallsOption (a : String) : Prop := isOption a = true ∧ a ≠ endOfOptions ∧ a ∉ helpWords

instance (a : String) : Decidable (CallsOption a) := inferInstanceAs (Decidable (_ ∧ _ ∧ _))

/-- A word can name a subcommand: it does not look like an option, and it does not ask for help. -/
def NamesCommand (a : String) : Prop := isOption a = false ∧ a ∉ helpWords

instance (a : String) : Decidable (NamesCommand a) := inferInstanceAs (Decidable (_ ∧ _))

variable {c : Subcommand} {g : Given} {a : String} {o : Choice}

/-- **An option that takes a value** takes it, if it has none so far. -/
theorem readArguments_valued (ha : CallsOption a) (hfind : c.choices.find? (·.name = a) = some o)
    (hvalued : o.placeholder.isSome) (hnew : g.value? a = none) (value : Option String)
    (rest : List String) : c.readArguments false false g (valuedArguments a value ++ rest) =
      c.readArguments false false
        { g with values := (value.map (a, ·)).toList ++ g.values } rest := by
  cases value with
  | none => rfl
  | some v =>
    obtain ⟨hoption, hend, hhelp⟩ := ha
    obtain ⟨name, _ | placeholder, required, description⟩ := o
    · exact absurd hvalued nofun
    · simp [valuedArguments, Subcommand.readArguments, hoption, hend, hhelp, hfind, hnew]

/-- **A switch** is turned on, once or again. -/
theorem readArguments_switched (ha : CallsOption a) (hfind : c.choices.find? (·.name = a) = some o)
    (hswitch : o.placeholder = none) (on : Bool) (rest : List String) :
    c.readArguments false false g (switchArguments a on ++ rest) =
      c.readArguments false false
        { g with switches := switchArguments a on ++ g.switches } rest := by
  cases on with
  | false => rfl
  | true =>
    obtain ⟨hoption, hend, hhelp⟩ := ha
    obtain ⟨name, placeholder, required, description⟩ := o
    obtain rfl : placeholder = none := hswitch
    rw [switchArguments, if_pos rfl, List.singleton_append, Subcommand.readArguments.eq_def]
    simp [hoption, hend, hhelp, hfind]

/-- **The name of a subcommand** leaves it to the subcommand to read what follows. -/
theorem readInvocation_command {commands : List Subcommand} (ha : NamesCommand a)
    (hfind : commands.find? (·.name = a) = some c) (rest : List String) {h : Given}
    (hread : c.readArguments false false {} rest = .ok (some h)) :
    readInvocation commands false false (a :: rest) = .ok (.run c h) := by
  obtain ⟨hplain, hhelp⟩ := ha
  have hend : a ≠ endOfOptions := by
    rintro rfl
    exact absurd hplain (by decide +kernel)
  simp [readInvocation, hplain, hend, hhelp, hfind, hread, Except.map]

end CommandLine
end WindowRules
