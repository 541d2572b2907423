import WindowRules.Proofs.Session.Alike
import WindowRules.Proofs.Session.Mutations
import WindowRules.Proofs.Shell.Run

/-!
# Thinning a script

Of the lines of a script only some matter for what becomes of the rules: those with a command that
edits, if it succeeds.  The other lines look at the session, or fail, or are no commands, and each
of them can be left out.  This is a statement about two runs, and what makes it hold over whole
scripts is that the two sessions stay alike: the same rules and the same history, but for the times
of the changes.

* A line that does not count leaves a session as it was, up to its cache
  (`Shell.keeps_of_not_counts`).  For undoing and redoing this needs that they never fail, which is
  what a chronicle is for: if they failed, the cursor of the history would have moved.
* A line does the same in sessions that are alike, whatever the windows are and the clock shows
  (`Shell.step_of_alike`).
-/

namespace WindowRules
namespace Shell

open Session (Keeps alike_iff)

/-! ## Turns -/

/-- Whether a command is there to change the rules or to walk through the history. -/
def Command.edits : Command → Bool
  | .setField .. | .unsetField .. | .rename .. | .delete _ | .disable _ | .undo | .redo => true
  | .listRules | .showRule _ | .showHistory | .explain _ | .audit | .showConfig | .help | .quit =>
      false

/-- Whether a line holds a command that edits, and the command succeeds. -/
def counts (windows : Option (List Window)) (s : Session) (line : List Char) : Bool :=
  match Command.read line with
  | .ok (some c) => c.edits && (execute windows s c).2.isOk
  | .ok none | .error _ => false

/-- A line that the shell has answered. -/
structure Turn where
  line : List Char
  /-- What the line printed. -/
  answer : String
  /-- Whether it was an edit that succeeded. -/
  counts : Bool
  deriving DecidableEq

/-- The turns of a run: one for each line before the line that ends the shell. -/
def turns (source : WindowSource) (s : Session) : List (Option (List Char)) → List Turn
  | [] => []
  | none :: _ => []
  | some line :: rest =>
    match step source.now s line with
    | none => []
    | some (t, out) => ⟨line, out, counts source.now s line⟩ :: turns source.later t rest

/-- The lines of some turns, as a script. -/
def linesOf (ts : List Turn) : List (Option (List Char)) := ts.map fun t => some t.line

/-- A line that ends the shell. -/
def Ends : Option (List Char) → Prop
  | none => True
  | some line => Command.read line = .ok (some .quit)

variable {windows windows' : Option (List Window)} {source source' : WindowSource}
  {s t s' t' : Session} {T : Nat → Contents}

theorem output_runLines (source : WindowSource) (s : Session)
    (script : List (Option (List Char))) :
    (runLines source s script).output = (turns source s script).map Turn.answer := by
  fun_induction turns source s script with
  | case1 | case2 => rfl
  | case3 source s line rest hstep =>
    rw [runLines, hstep]
    rfl
  | case4 source s line rest t out hstep ih =>
    rw [runLines, hstep]
    exact congrArg (out :: ·) ih

theorem ends_of_step_eq_none {line : List Char} (h : step windows s line = none) :
    Ends (some line) := by
  rcases hread : Command.read line with e | _ | c
  · rw [step, hread] at h
    cases h
  · rw [step, hread] at h
    cases h
  · by_cases hquit : c = .quit
    · rw [hquit] at hread
      exact hread
    · rw [step_of_read hread hquit] at h
      cases h

/-- **What a line does that does not end the shell**: it executes its command, or it has none and
does the same in all sessions, which is nothing. -/
theorem step_cases {line : List Char} {out : String} (h : step windows s line = some (t, out)) :
    (∃ c, Command.read line = .ok (some c) ∧ c ≠ .quit ∧ t = (execute windows s c).1 ∧
        out = printed (execute windows s c).2) ∨
      (∀ c, Command.read line ≠ .ok (some c)) ∧ t = s ∧
        ∀ (ws : Option (List Window)) (u : Session), step ws u line = some (u, out) := by
  rcases hread : Command.read line with e | _ | c
  · rw [step, hread] at h
    obtain ⟨rfl, rfl⟩ := Prod.mk.inj (Option.some.inj h)
    refine .inr ⟨fun c hc => (by cases hc), rfl, fun ws u => ?_⟩
    rw [step, hread]
  · rw [step, hread] at h
    obtain ⟨rfl, rfl⟩ := Prod.mk.inj (Option.some.inj h)
    refine .inr ⟨fun c hc => (by cases hc), rfl, fun ws u => ?_⟩
    rw [step, hread]
  · have hquit : c ≠ .quit := by
      rintro rfl
      rw [step, hread] at h
      cases h
    rw [step_of_read hread hquit] at h
    obtain ⟨rfl, rfl⟩ := Prod.mk.inj (Option.some.inj h)
    exact .inl ⟨c, rfl, hquit, rfl, rfl⟩

theorem counts_of_read {line : List Char} {c : Command} (hread : Command.read line = .ok (some c)) :
    counts windows s line = (c.edits && (execute windows s c).2.isOk) := by
  rw [counts, hread]

theorem counts_of_no_command {line : List Char} (h : ∀ c, Command.read line ≠ .ok (some c)) :
    counts windows s line = false := by
  unfold counts
  split
  · next c hread => exact absurd hread (h c)
  · rfl
  · rfl

/-! ## Lines that do not count -/

/-- A command that does not edit keeps rules and history. -/
theorem keeps_of_not_edits {c : Command} (hc : c.edits = false) :
    s.Keeps (execute windows s c).1 := by
  rw [fst_execute]
  cases c with
  | setField | unsetField | rename | delete | disable | undo | redo => exact absurd hc nofun
  | _ => exact ⟨rfl, rfl⟩

/-- A change that fails does nothing. -/
theorem keeps_changed_of_not_isOk {x : Except SessionError (Session × String)}
    (h : (changed s x).2.isOk = false) : s.Keeps (changed s x).1 := by
  cases x with
  | error e => exact Keeps.refl s
  | ok p => exact absurd h nofun

/-- Undoing is never an error. -/
theorem isOk_undo (hT : s.Chronicle T) : (execute windows s .undo).2.isOk = true := by
  rw [execute]
  rcases Nat.eq_zero_or_pos s.history.cursor with h0 | hpos
  · rw [hT.undo.atStart h0]
    rfl
  · obtain ⟨c, t, -, hundo, -⟩ := hT.undo.back hpos
    rw [hundo]
    rfl

/-- Redoing is never an error. -/
theorem isOk_redo (hT : s.Chronicle T) : (execute windows s .redo).2.isOk = true := by
  rw [execute]
  rcases Nat.eq_or_lt_of_le hT.bounded.cursor_le with hend | hlt
  · rw [hT.redo.atEnd hend]
    rfl
  · obtain ⟨c, t, -, hredo, -⟩ := hT.redo.forward hlt
    rw [hredo]
    rfl

/-- **A command that fails keeps rules and history.** -/
theorem keeps_of_not_isOk (hT : s.Chronicle T) {c : Command}
    (h : (execute windows s c).2.isOk = false) : s.Keeps (execute windows s c).1 := by
  cases hc : c.edits with
  | false => exact keeps_of_not_edits hc
  | true =>
    cases c with
    | setField | unsetField | rename | delete | disable => exact keeps_changed_of_not_isOk h
    | undo => exact absurd ((isOk_undo hT).symm.trans h) nofun
    | redo => exact absurd ((isOk_redo hT).symm.trans h) nofun
    | _ => exact absurd hc nofun

/-- **A line that does not count keeps rules and history.** -/
theorem keeps_of_not_counts (hT : s.Chronicle T) {line : List Char} {out : String}
    (hstep : step windows s line = some (t, out)) (h : counts windows s line = false) :
    s.Keeps t := by
  obtain ⟨c, hread, -, rfl, -⟩ | ⟨-, rfl, -⟩ := step_cases hstep
  · rw [counts_of_read hread, Bool.and_eq_false_iff] at h
    rcases h with h | h
    · exact keeps_of_not_edits h
    · exact keeps_of_not_isOk hT h
  · exact Keeps.refl t

/-! ## Lines in sessions that are alike -/

/-- The reply with the bare form of the session. -/
def Reply.bare (r : Reply) : Reply := (r.1.bare, r.2)

theorem bare_changed {α : Type} {g : α → α} {x x' : Except SessionError α}
    (f : α → Session × String) (hf : ∀ a, f (g a) = ((f a).1.bare, (f a).2))
    (h : x'.map g = x.map g) :
    Reply.bare (changed s.bare (x'.map f)) = Reply.bare (changed s (x.map f)) := by
  rcases x with e | a <;> rcases x' with e' | a'
  · obtain rfl := Except.error.inj h
    exact congrArg (·, Except.error (LineError.session e')) s.bare_bare
  · exact absurd h nofun
  · exact absurd h nofun
  · have hfa : ((f a').1.bare, (f a').2) = ((f a).1.bare, (f a).2) := by
      rw [← hf, ← hf, Except.ok.inj h]
    obtain ⟨hsession, hout⟩ := Prod.mk.inj hfa
    exact Prod.ext hsession (congrArg Except.ok hout)

theorem bare_walked {done none : String} {x x' : Session.StepResult}
    (h : x'.map id Session.bare = x.map id Session.bare) :
    Reply.bare (walked done none x') = Reply.bare (walked done none x) := by
  obtain ⟨r, t⟩ := x
  obtain ⟨r', t'⟩ := x'
  obtain ⟨hr, ht⟩ := Prod.mk.inj h
  obtain rfl : r' = r := hr
  rcases r' with e | _ | kind
  · exact congrArg (·, _) ht
  · exact congrArg (·, _) ht
  · exact congrArg (·, _) ht

/-- **A command that edits does in the bare session what it does in the session**, whatever the
windows are. -/
theorem bare_execute_bare {c : Command} (hc : c.edits = true) :
    Reply.bare (execute windows' s.bare c) = Reply.bare (execute windows s c) := by
  cases c with
  | setField index key value =>
    exact bare_changed _ (fun _ => rfl) (s.map_setField_bare index key value)
  | unsetField index key => exact bare_changed _ (fun _ => rfl) (s.map_unsetField_bare index key)
  | rename index name => exact bare_changed _ (fun _ => rfl) (s.map_rename_bare index name)
  | delete index => exact bare_changed _ (fun _ => rfl) (s.map_delete_bare index)
  | disable index => exact bare_changed _ (fun _ => rfl) (s.map_disable_bare index)
  | undo => exact bare_walked s.map_undo_bare
  | redo => exact bare_walked s.map_redo_bare
  | _ => exact absurd hc nofun

/-- **A line does the same in sessions that are alike.**  They stay alike, and the line counts in
both or in neither; if it counts it prints the same. -/
theorem step_of_alike (h : s.Alike t) {line : List Char} {out : String}
    (hstep : step windows s line = some (s', out)) (windows' : Option (List Window)) :
    ∃ t' out', step windows' t line = some (t', out') ∧ s'.Alike t' ∧
      counts windows' t line = counts windows s line ∧
        (counts windows s line = true → out' = out) := by
  obtain ⟨c, hread, hquit, rfl, rfl⟩ | ⟨hno, rfl, hsame⟩ := step_cases hstep
  · refine ⟨_, _, step_of_read hread hquit windows' t, ?_⟩
    rw [counts_of_read hread, counts_of_read hread]
    cases hc : c.edits with
    | false =>
      have hkept : (execute windows' t c).1.bare = (execute windows s c).1.bare := by
        rw [(keeps_of_not_edits hc).bare_eq, (keeps_of_not_edits hc).bare_eq, alike_iff.mp h]
      exact ⟨alike_iff.mpr hkept, rfl, nofun⟩
    | true =>
      have hreply : Reply.bare (execute windows' t c) = Reply.bare (execute windows s c) := by
        calc Reply.bare (execute windows' t c)
            = Reply.bare (execute windows s.bare c) := by
              rw [← alike_iff.mp h, bare_execute_bare hc]
          _ = Reply.bare (execute windows s c) := bare_execute_bare hc
      obtain ⟨hsession, hanswer⟩ := Prod.mk.inj hreply
      exact ⟨alike_iff.mpr hsession, by rw [hanswer], fun _ => by rw [hanswer]⟩
  · refine ⟨t, out, hsame windows' t, h, ?_, fun _ => rfl⟩
    rw [counts_of_no_command hno, counts_of_no_command hno]

/-! ## Thinning -/

/-- The turns that count. -/
def edits (ts : List Turn) : List Turn := ts.filter Turn.counts

theorem edits_cons (x : Turn) (xs : List Turn) :
    edits (x :: xs) = if x.counts = true then x :: edits xs else edits xs :=
  List.filter_cons

theorem edits_edits (ts : List Turn) : edits (edits ts) = edits ts := by
  rw [edits, edits, List.filter_filter]
  simp only [Bool.and_self]

theorem edits_of_cons {x : Turn} {xs ys : List Turn} (h : edits (x :: xs) = edits (x :: ys)) :
    edits xs = edits ys := by
  rw [edits_cons, edits_cons] at h
  split at h
  · exact (List.cons.inj h).2
  · exact h

/-- A turn that is left out without loss is one that does not count. -/
theorem counts_of_sublist {x : Turn} {kept xs : List Turn} (hkept : kept.Sublist xs)
    (h : edits kept = edits (x :: xs)) : x.counts = false ∧ edits kept = edits xs := by
  have hlen : (edits kept).length ≤ (edits xs).length := (hkept.filter _).length_le
  rw [edits_cons] at h
  split at h
  · rw [h, List.length_cons] at hlen
    exact absurd hlen (Nat.not_succ_le_self _)
  · next hx => exact ⟨Bool.eq_false_iff.mpr hx, h⟩

/-- A line leads from chronicle to chronicle. -/
theorem exists_chronicle_step (hT : s.Chronicle T) {line : List Char} {out : String}
    (hstep : step windows s line = some (t, out)) : ∃ T', t.Chronicle T' := by
  obtain ⟨c, -, -, rfl, -⟩ | ⟨-, rfl, -⟩ := step_cases hstep
  · rw [fst_execute]
    cases c.operation? windows with
    | none => exact ⟨T, hT⟩
    | some o =>
      obtain ⟨T', hT', -⟩ := hT.exists_perform o
      exact ⟨T', hT'⟩
  · exact ⟨T, hT⟩

/-- A script comes to the same as another: the sessions at the ends are alike, and the lines that
count are the same and print the same. -/
structure Agrees (source source' : WindowSource) (s t : Session)
    (script script' : List (Option (List Char))) : Prop where
  session : (runLines source s script).session.Alike (runLines source' t script').session
  edits : edits (turns source' t script') = edits (turns source s script)

/-- Nothing happens in a script that is empty or begins with a line that ends the shell. -/
theorem runLines_of_ends (source : WindowSource) (s : Session)
    {lines : List (Option (List Char))} (hends : ∀ l ∈ lines.head?, Ends l) :
    (runLines source s lines).session = s ∧ turns source s lines = [] := by
  rcases lines with _ | ⟨_ | line, lines⟩
  · exact ⟨rfl, rfl⟩
  · exact ⟨rfl, rfl⟩
  · have hread : Command.read line = .ok (some .quit) := hends _ rfl
    have hstep : step source.now s line = none := by rw [step, hread]
    rw [runLines, turns, hstep]
    exact ⟨rfl, rfl⟩

/-- Scripts in which nothing happens agree. -/
theorem agrees_of_ends (halike : s.Alike t) {script rest : List (Option (List Char))}
    (hscript : ∀ l ∈ script.head?, Ends l) (hrest : ∀ l ∈ rest.head?, Ends l) :
    Agrees source source' s t script rest := by
  obtain ⟨hs, hsturns⟩ := runLines_of_ends source s hscript
  obtain ⟨ht, htturns⟩ := runLines_of_ends source' t hrest
  exact ⟨by rwa [hs, ht], by rw [hsturns, htturns]⟩

section Cons

variable {line : List Char} {out : String} (hstep : step source.now s line = some (s', out))
  (lines : List (Option (List Char)))
include hstep

theorem session_runLines_cons : (runLines source s (some line :: lines)).session =
    (runLines source.later s' lines).session := by
  rw [runLines, hstep]
  rfl

theorem turns_cons : turns source s (some line :: lines) =
    ⟨line, out, counts source.now s line⟩ :: turns source.later s' lines := by
  rw [turns, hstep]

end Cons

/-- A line that does not count can be put in front of the first of two scripts. -/
theorem Agrees.cons_left {line : List Char} {out : String}
    {script script' : List (Option (List Char))}
    (hstep : step source.now s line = some (s', out)) (hnot : counts source.now s line = false)
    (h : Agrees source.later source' s' t script script') :
    Agrees source source' s t (some line :: script) script' where
  session := by
    rw [session_runLines_cons hstep]
    exact h.session
  edits := by
    rw [turns_cons hstep, edits_cons, hnot]
    exact h.edits

/-- A line can be put in front of both of two scripts. -/
theorem Agrees.cons {line : List Char} {out out' : String}
    {script script' : List (Option (List Char))}
    (hstep : step source.now s line = some (s', out))
    (hstep' : step source'.now t line = some (t', out'))
    (hsame : counts source'.now t line = counts source.now s line)
    (hanswer : counts source.now s line = true → out' = out)
    (h : Agrees source.later source'.later s' t' script script') :
    Agrees source source' s t (some line :: script) (some line :: script') where
  session := by
    rw [session_runLines_cons hstep, session_runLines_cons hstep']
    exact h.session
  edits := by
    rw [turns_cons hstep, turns_cons hstep', edits_cons, edits_cons, h.edits, hsame]
    split
    · next hcounts => rw [hanswer hcounts]
    · rfl

/-- **Turns that do not count can be left out.**  Two scripts agree in sessions that are alike, if
the second leaves out only turns of the first that do not count. -/
theorem agrees_of_sublist (hT : s.Chronicle T) (halike : s.Alike t)
    {script rest : List (Option (List Char))} (hrest : ∀ l ∈ rest.head?, Ends l) {kept : List Turn}
    (hkept : kept.Sublist (turns source s script))
    (hcounts : edits kept = edits (turns source s script)) :
    Agrees source source' s t script (linesOf kept ++ rest) := by
  fun_induction turns source s script generalizing source' t kept T with
  | case1 source s =>
    rw [List.sublist_nil.mp hkept]
    exact agrees_of_ends halike nofun hrest
  | case2 source s =>
    rw [List.sublist_nil.mp hkept]
    exact agrees_of_ends halike (fun l hl => Option.mem_some.mp hl ▸ trivial) hrest
  | case3 source s line lines hstep =>
    rw [List.sublist_nil.mp hkept]
    exact agrees_of_ends halike (fun l hl =>
      Option.mem_some.mp hl ▸ ends_of_step_eq_none hstep) hrest
  | case4 source s line lines s' out hstep ih =>
    obtain ⟨T', hT'⟩ := exists_chronicle_step hT hstep
    cases hkept with
    | cons _ hkept =>
      obtain ⟨hnot, hcounts⟩ := counts_of_sublist hkept hcounts
      have hstays : s'.bare = s.bare := (keeps_of_not_counts hT hstep hnot).bare_eq
      have halike : s'.Alike t := alike_iff.mpr ((alike_iff.mp halike).trans hstays.symm)
      exact (ih hT' halike hkept hcounts).cons_left hstep hnot
    | cons_cons _ hkept =>
      obtain ⟨t', out', hstep', halike', hsame, hanswer⟩ := step_of_alike halike hstep source'.now
      exact (ih hT' halike' hkept (edits_of_cons hcounts)).cons hstep hstep' hsame hanswer

/-! ## What a script comes to -/

/-- The turns stand for the lines up to one that ends the shell. -/
theorem exists_eq_linesOf_append (source : WindowSource) (s : Session)
    (script : List (Option (List Char))) :
    ∃ rest, script = linesOf (turns source s script) ++ rest ∧ ∀ l ∈ rest.head?, Ends l := by
  fun_induction turns source s script with
  | case1 source s => exact ⟨[], rfl, nofun⟩
  | case2 source s rest => exact ⟨none :: rest, rfl, fun l hl => Option.mem_some.mp hl ▸ trivial⟩
  | case3 source s line rest hstep =>
    exact ⟨some line :: rest, rfl, fun l hl => Option.mem_some.mp hl ▸ ends_of_step_eq_none hstep⟩
  | case4 source s line rest t out hstep ih =>
    obtain ⟨more, hmore, hends⟩ := ih
    exact ⟨more, congrArg (some line :: ·) hmore, hends⟩

theorem length_turns_le (source : WindowSource) (s : Session)
    (script : List (Option (List Char))) : (turns source s script).length ≤ script.length := by
  obtain ⟨rest, hscript, -⟩ := exists_eq_linesOf_append source s script
  have hlen := congrArg List.length hscript
  rw [List.length_append, linesOf, List.length_map] at hlen
  exact hlen ▸ Nat.le_add_right _ _

/-- If all lines of a script stand for turns that count, there are no other turns. -/
theorem turns_linesOf {ts : List Turn} (h : edits (turns source s (linesOf ts)) = ts) :
    turns source s (linesOf ts) = ts := by
  have hlen :
      (turns source s (linesOf ts)).length ≤ (edits (turns source s (linesOf ts))).length := by
    rw [h]
    exact Nat.le_trans (length_turns_le source s _) (Nat.le_of_eq (List.length_map _))
  exact (List.filter_sublist.eq_of_length_le hlen).symm.trans h

/-- A run of a script comes to what the edits that succeed in it come to alone. -/
structure DecidedByEdits (path : String) (source source' : WindowSource) (s t : Session)
    (script : List (Option (List Char))) : Prop where
  /-- There is a turn for each line up to one that ends the shell. -/
  lines : ∃ rest, script = linesOf (turns source s script) ++ rest ∧ ∀ l ∈ rest.head?, Ends l
  /-- What is printed is what the turns print. -/
  output : (run path source s script).output =
    banner path s :: (turns source s script).map Turn.answer
  alone : (run path source s script).session.Alike
    (run path source' t (linesOf (edits (turns source s script)))).session
  answers : (run path source' t (linesOf (edits (turns source s script)))).output =
    banner path s :: (edits (turns source s script)).map Turn.answer
  /-- It is the same if only some of the other lines are left out, with or without what ends the
  shell. -/
  thinned : ∀ (kept : List Turn) (rest : List (Option (List Char))),
    kept.Sublist (turns source s script) → edits kept = edits (turns source s script) →
    (∀ l ∈ rest.head?, Ends l) →
    (run path source s script).session.Alike (run path source' t (linesOf kept ++ rest)).session ∧
      edits (turns source' t (linesOf kept ++ rest)) = edits (turns source s script)

/-- **Only the edits that succeed matter in a script.**  In a session that can be reached, a script
leads to the same rules, the same disabled rules and, but for the times of the changes, the same
history as those of its lines alone that hold an edit and succeed.  So does every script between the
two.  The edits print the same in all of them.  Neither the windows, however they change and whether
they can be had, nor the clock have a say in this. -/
theorem run_decided_by_edits (hs : s.Reachable) (path : String)
    (source source' : WindowSource) (now : String) (script : List (Option (List Char))) :
    DecidedByEdits path source source' s { s with now } script := by
  obtain ⟨T, hT⟩ := hs.exists_chronicle
  have halike : s.Alike { s with now } := ⟨rfl, rfl⟩
  have hthin : ∀ (kept : List Turn) (rest : List (Option (List Char))),
      kept.Sublist (turns source s script) → edits kept = edits (turns source s script) →
      (∀ l ∈ rest.head?, Ends l) →
      Agrees source source' s { s with now } script (linesOf kept ++ rest) :=
    fun kept rest hkept hcounts hrest => agrees_of_sublist hT halike hrest hkept hcounts
  have halone := hthin (edits (turns source s script)) [] List.filter_sublist (edits_edits _) nofun
  rw [List.append_nil] at halone
  refine ⟨exists_eq_linesOf_append source s script, ?_, halone.session, ?_,
    fun kept rest hkept hcounts hrest => ?_⟩
  · exact congrArg (banner path s :: ·) (output_runLines source s script)
  · refine congrArg (banner path s :: ·) ((output_runLines source' _ _).trans ?_)
    rw [turns_linesOf halone.edits]
  · obtain ⟨hsession, hedits⟩ := hthin kept rest hkept hcounts hrest
    exact ⟨hsession, hedits⟩

/-- A script in which three lines matter. -/
def idleScript : List (Option (List Char)) :=
  ["list", "disable 0", "set 7 workspace 2", "set 0 float maybe", "frobnicate 0", "", "undo",
    "check", "undo", "quit", "delete 0"].map fun line => some line.toList

/-- A source that tells of windows at every other line, and nothing in between. -/
def flickeringSource : WindowSource := ⟨fun n => if n % 2 = 0 then none else some []⟩

theorem run_decided_by_edits_idleScript :
    Session.Reachable (.ofRules [{}, { name := some "a" }] 1) ∧
      edits (turns flickeringSource (.ofRules [{}, { name := some "a" }] 1) idleScript) =
        [⟨"disable 0".toList, "", true⟩, ⟨"undo".toList, "undid disable\n", true⟩,
          ⟨"undo".toList, "nothing to undo\n", true⟩] ∧
      DecidedByEdits "rules.conf" flickeringSource (.always (some [{}]))
        (.ofRules [{}, { name := some "a" }] 1)
        { Session.ofRules [{}, { name := some "a" }] 1 with now := "08:00:00" } idleScript := by
  have hreachable : Session.Reachable (.ofRules [{}, { name := some "a" }] 1) :=
    ⟨_, _, [], "", rfl⟩
  exact ⟨hreachable, by decide +kernel, run_decided_by_edits hreachable _ _ _ _ _⟩

end Shell
end WindowRules
