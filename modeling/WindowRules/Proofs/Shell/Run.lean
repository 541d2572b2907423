import WindowRules.Proofs.Session.Changes
import WindowRules.Proofs.Text.Words
import WindowRules.Shell.Run

/-!
# The session under the shell

To the session a script is a list of operations: those that its lines ask for, up to a line that
ends the shell (`Shell.operations`, `Shell.session_runLines`).  So what is known of runs of a
session is known of the shell as well (`Session.exists_run_eq_foldl_perform`).

What a line can hand to the session is limited by how it is cut.  A key is a word of the line, and a
value or a name is the rest of the line behind its first words (`Shell.Command.ReadFrom`).
-/

namespace WindowRules

/-- Operations without times of day are a run at some times. -/
theorem Session.exists_run_eq_foldl_perform (s : Session) (os : List Operation) :
    ∃ calls : List Call, calls.map Call.operation = os ∧ s.run calls = os.foldl perform s := by
  induction os generalizing s with
  | nil => exact ⟨[], rfl, rfl⟩
  | cons o os ih =>
    obtain ⟨calls, hcalls, hrun⟩ := ih (s.perform o)
    exact ⟨⟨s.now, o⟩ :: calls, congrArg (o :: ·) hcalls, hrun⟩

namespace Shell

/-! ## Operations -/

/-- What a command asks of the session.  The other commands only look at it. -/
def Command.operation? (windows : Option (List Window)) : Command → Option Operation
  | .setField index key value => some (.setField index key value)
  | .unsetField index key => some (.unsetField index key)
  | .rename index name => some (.rename index name)
  | .delete index => some (.delete index)
  | .disable index => some (.disable index)
  | .undo => some .undo
  | .redo => some .redo
  | .explain w => some (.resolve w)
  | .audit => some (.audit windows)
  | .showConfig => some .write
  | .listRules | .showRule _ | .showHistory | .help | .quit => none

variable {windows : Option (List Window)}

/-- **Executing a command** is performing what it asks for. -/
theorem fst_execute (windows : Option (List Window)) (s : Session) (c : Command) :
    (execute windows s c).1 = (c.operation? windows).elim s s.perform := by
  have hchanged : ∀ x : Except SessionError Session,
      (changed s (x.map fun t => (t, ""))).1 = s.after x := fun x => by cases x <;> rfl
  have hpair : ∀ {α : Type} (x : Except SessionError (α × Session)) (out : α → String),
      (changed s (x.map fun p => (p.2, out p.1))).1 = s.after (x.map (·.2)) :=
    fun x out => by cases x <;> rfl
  have hwalked : ∀ (done none : String) (x : Session.StepResult), (walked done none x).1 = x.2 := by
    rintro done none ⟨_ | _ | kind, t⟩ <;> rfl
  cases c with
  | setField | rename | disable => exact hchanged _
  | unsetField index key =>
    exact hpair _ fun present => if present = true then "" else key ++ " was not set\n"
  | delete => exact hpair _ fun _ => ""
  | undo | redo => exact hwalked _ _ _
  | showRule index =>
    unfold execute
    dsimp only
    split <;> rfl
  | _ => rfl

/-- The operations that some lines ask for, up to a line that ends the shell. -/
def operations (source : WindowSource) : List (Option (List Char)) → List Operation
  | [] => []
  | none :: _ => []
  | some line :: rest =>
    match Command.read line with
    | .ok (some .quit) => []
    | .ok (some c) => (c.operation? source.now).toList ++ operations source.later rest
    | .ok none | .error _ => operations source.later rest

/-- A line with a command other than `quit` executes it. -/
theorem step_of_read {line : List Char} {c : Command}
    (hread : Command.read line = .ok (some c)) (hquit : c ≠ .quit)
    (windows : Option (List Window)) (s : Session) :
    step windows s line = some ((execute windows s c).1, printed (execute windows s c).2) := by
  rw [step, hread]
  cases c with
  | quit => exact absurd rfl hquit
  | _ => rfl

/-- **A run of the shell performs the operations of its lines.** -/
theorem session_runLines (source : WindowSource) (s : Session)
    (lines : List (Option (List Char))) :
    (runLines source s lines).session = (operations source lines).foldl Session.perform s := by
  fun_induction operations source lines generalizing s with
  | case1 => rfl
  | case2 => rfl
  | case3 source line rest hread =>
    rw [runLines, step, hread]
    rfl
  | case4 source line rest c hquit hread ih =>
    have hperform : (c.operation? source.now).toList.foldl Session.perform s =
        (execute source.now s c).1 := by
      rw [fst_execute]
      cases c.operation? source.now <;> rfl
    rw [runLines, step_of_read hread hquit, List.foldl_append, hperform]
    exact ih _
  | case5 source line rest hread ih | case6 source line rest e hread ih =>
    rw [runLines, step, hread]
    exact ih s

/-- An operation comes from a command in one of the lines. -/
theorem exists_of_mem_operations {source : WindowSource} {lines : List (Option (List Char))}
    {o : Operation} (h : o ∈ operations source lines) : ∃ line c windows, some line ∈ lines ∧
      Command.read line = .ok (some c) ∧ c.operation? windows = some o := by
  have hcons : ∀ {entry rest}, (∃ line c windows, some line ∈ rest ∧
      Command.read line = .ok (some c) ∧ c.operation? windows = some o) →
      ∃ line c windows, some line ∈ entry :: rest ∧ Command.read line = .ok (some c) ∧
        c.operation? windows = some o := by
    rintro entry rest ⟨line, c, windows, hline, hc⟩
    exact ⟨line, c, windows, List.mem_cons_of_mem entry hline, hc⟩
  fun_induction operations source lines with
  | case1 | case2 | case3 => exact absurd h List.not_mem_nil
  | case4 source line rest c hquit hread ih =>
    rw [List.mem_append, Option.mem_toList] at h
    rcases h with h | h
    · exact ⟨line, c, source.now, List.mem_cons_self, hread, h⟩
    · exact hcons (ih h)
  | case5 source line rest hread ih | case6 source line rest e hread ih => exact hcons (ih h)

/-! ## What a line can say -/

/-- The texts of a command that changes a rule are cut out of a line: a key is a word of it, and a
value or a name is what follows the first words. -/
def Command.ReadFrom (line : List Char) : Command → Prop
  | .setField _ key value =>
    (∃ w ∈ Text.words line, key = .ofList w) ∧ value = .ofList (Text.afterWords line 3)
  | .unsetField _ key => ∃ w ∈ Text.words line, key = .ofList w
  | .rename _ name => name = .ofList (Text.afterWords line 2)
  | _ => True

namespace Command

theorem readFrom_of_readSet {line : List Char} {args : List (List Char)} {c : Command}
    (hargs : args ⊆ Text.words line) (h : readSet args (Text.afterWords line 3) = .ok c) :
    c.ReadFrom line := by
  unfold readSet at h
  split at h
  · next key _ _ =>
    obtain ⟨n, -, rfl⟩ := Session.exists_of_map_eq_ok h
    exact ⟨⟨key, hargs (by simp), rfl⟩, rfl⟩
  · exact absurd h nofun

theorem readFrom_of_readUnset {line : List Char} {args : List (List Char)} {c : Command}
    (hargs : args ⊆ Text.words line) (h : readUnset args = .ok c) : c.ReadFrom line := by
  unfold readUnset at h
  split at h
  · next key =>
    obtain ⟨n, -, rfl⟩ := Session.exists_of_map_eq_ok h
    exact ⟨key, hargs (by simp), rfl⟩
  · exact absurd h nofun

theorem readFrom_of_readExplain {line title : List Char} {args : List (List Char)} {c : Command}
    (h : readExplain args title = .ok c) : c.ReadFrom line := by
  unfold readExplain at h
  split at h
  · exact absurd h nofun
  · obtain rfl := Except.ok.inj h
    trivial

theorem readFrom_of_ofWords {line : List Char} {args : List (List Char)} {word : String}
    {c : Command} (hargs : args ⊆ Text.words line) (h : ofWords line args word = .ok c) :
    c.ReadFrom line := by
  unfold ofWords at h
  split at h
  case h_4 => exact readFrom_of_readSet hargs h
  case h_5 => exact readFrom_of_readUnset hargs h
  case h_6 =>
    obtain ⟨n, -, rfl⟩ := Session.exists_of_map_eq_ok h
    rfl
  case h_13 => exact readFrom_of_readExplain h
  case h_20 => exact absurd h nofun
  -- the other commands have no text, only an index or nothing
  case h_3 | h_7 | h_8 | h_9 =>
    obtain ⟨n, -, rfl⟩ := Session.exists_of_map_eq_ok h
    trivial
  all_goals
    obtain rfl := Except.ok.inj h
    trivial

/-- **A command is read from its line.** -/
theorem readFrom_of_read {line : List Char} {c : Command} (h : read line = .ok (some c)) :
    c.ReadFrom line := by
  unfold read at h
  split at h
  · exact absurd h nofun
  · next w args hwords =>
    obtain ⟨d, hd, hc⟩ := Session.exists_of_map_eq_ok h
    obtain rfl := Option.some.inj hc
    exact readFrom_of_ofWords (hwords ▸ List.subset_cons_self w args) hd

end Command

end Shell
end WindowRules
