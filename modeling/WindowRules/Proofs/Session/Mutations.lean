import WindowRules.Proofs.Rule.Strictness
import WindowRules.Proofs.Session.Chronicle

/-!
# All or nothing

Six operations of a session are about one rule each: they put another in its place or take it away.
They have different reasons to do nothing, and some look at the rule before and some at the rule
after.  What they have in common is said here of all of them at once.

An operation has a result for the rule at its index, which is another rule, or none if the rule is
taken away, or an error (`Mutation.result`).  If there is an error or no rule, the session is as
before.  If the result is the rule itself, rules and history are as before, and in particular
nothing that could have been redone is lost.  Otherwise one change is added to the history, the rule
at the index is replaced by the result, and no other rule is touched (`Session.OneChange`).

That the log holds what could be undone and no more than its capacity is needed for the count of
what is evicted, and it is where the sessions that can be reached come in.
-/

namespace WindowRules

/-- An operation on one rule of a session, whose index is given apart. -/
inductive Mutation where
  | edit (rule : Rule) (description : String)
  | setField (key value : String)
  | unsetField (key : String)
  | rename (name : String)
  | delete
  | disable

namespace Mutation

/-- The kind of change that a mutation is recorded as. -/
def kind : Mutation → ChangeKind
  | .edit .. | .setField .. | .unsetField _ => .edit
  | .rename _ => .rename
  | .delete => .delete
  | .disable => .disable

/-- What a mutation makes of a rule: the rule that is to be in its place, if any. -/
def result (r : Rule) : Mutation → Except FieldError (Option Rule)
  | .edit rule _ => .ok (some rule)
  | .setField key value => (r.set key value).map some
  | .unsetField key => .ok (some (r.unset key))
  | .rename name => .ok (some { r with name := Session.nameOf name })
  | .delete | .disable => .ok none

/-- A mutation at an index. -/
def operation (index : Nat) : Mutation → Operation
  | .edit rule description => .edit index rule description
  | .setField key value => .setField index key value
  | .unsetField key => .unsetField index key
  | .rename name => .rename index name
  | .delete => .delete index
  | .disable => .disable index

/-- A mutation cannot be carried out: there is no rule at the index, or it is to set a field that
cannot be set to the value. -/
def Refused (s : Session) (index : Nat) (m : Mutation) : Prop :=
  s.rules.length ≤ index ∨ ∃ key value, m = .setField key value ∧ Unsettable key value

theorem result_eq_error_iff {r : Rule} {m : Mutation} : (∃ e, m.result r = .error e) ↔
    ∃ key value, m = .setField key value ∧ Unsettable key value := by
  cases m with
  | setField key value =>
    have hset : (∃ e, (setField key value).result r = .error e) ↔ Unsettable key value := by
      rw [← Rule.set_eq_error_iff (r := r), result]
      cases r.set key value with
      | ok q => simp [Except.map]
      | error e => simp [Except.map]
    rw [hset]
    constructor
    · intro h
      exact ⟨key, value, rfl, h⟩
    · rintro ⟨_, _, ⟨⟩, h⟩
      exact h
  | _ => simp [result]

/-- What is edited or renamed stays a rule. -/
theorem exists_eq_some_of_kind {r : Rule} {m : Mutation} {q : Option Rule}
    (hkind : m.kind = .edit ∨ m.kind = .rename) (h : m.result r = .ok q) : ∃ u, q = some u := by
  cases m with
  | setField key value =>
    obtain ⟨rule, -, rfl⟩ := Session.exists_of_map_eq_ok h
    exact ⟨rule, rfl⟩
  | edit | unsetField | rename => exact ⟨_, (Except.ok.inj h).symm⟩
  | delete | disable => rcases hkind with hkind | hkind <;> cases hkind

end Mutation

namespace Session

/-- The session after a mutation, or why it fails. -/
def mutate (s : Session) (index : Nat) : Mutation → Except SessionError Session
  | .edit rule description => s.edit index rule description
  | .setField key value => s.setField index key value
  | .unsetField key => (s.unsetField index key).map (·.2)
  | .rename name => s.rename index name
  | .delete => (s.delete index).map (·.2)
  | .disable => s.disable index

variable {s t : Session} {index : Nat} {m : Mutation} {r : Rule}

theorem perform_operation (s : Session) (index : Nat) (m : Mutation) :
    s.perform (m.operation index) = s.after (s.mutate index m) := by
  cases m <;> rfl

/-! ## Success -/

/-- A session comes from another by giving a rule a result: nothing happens if that is the rule
itself, and otherwise a change is recorded that says so. -/
def Turns (s t : Session) (index : Nat) (kind : ChangeKind) (r : Rule) (q : Option Rule) : Prop :=
  q = some r ∧ s.Keeps t ∨
    q ≠ some r ∧ ∃ c, s.Records c t ∧ c.index = index ∧ c.kind = kind ∧
      ∀ u, q = some u → c.after = u

theorem turns_of_edit {rule : Rule} {description : String}
    (h : s.edit index rule description = .ok t) :
    ∃ r, s.rules[index]? = some r ∧ s.Turns t index .edit r (some rule) := by
  obtain ⟨r, hr, ⟨rfl, rfl⟩ | ⟨hne, hrecords⟩⟩ := edit_eq_ok h
  · exact ⟨r, hr, .inl ⟨rfl, Keeps.refl _⟩⟩
  · refine ⟨r, hr, .inr ⟨fun heq => hne (Option.some.inj heq).symm, _, hrecords, rfl, rfl, ?_⟩⟩
    exact fun u hu => Option.some.inj hu

/-- **What a mutation that succeeds has done.** -/
theorem turns_of_mutate (h : s.mutate index m = .ok t) :
    ∃ r q, s.rules[index]? = some r ∧ m.result r = .ok q ∧ s.Turns t index m.kind r q := by
  cases m with
  | edit rule description =>
    obtain ⟨r, hr, hturns⟩ := turns_of_edit h
    exact ⟨r, _, hr, rfl, hturns⟩
  | setField key value =>
    obtain ⟨before, rule, hbefore, hset, hedit⟩ := setField_eq_ok h
    obtain ⟨r, hr, hturns⟩ := turns_of_edit hedit
    obtain rfl := Option.some.inj (hbefore.symm.trans hr)
    exact ⟨before, some rule, hr, by rw [Mutation.result, hset]; rfl, hturns⟩
  | unsetField key =>
    obtain ⟨⟨present, u⟩, hunset, rfl⟩ := exists_of_map_eq_ok h
    obtain ⟨before, hbefore, hhas, ⟨rfl, rfl⟩ | ⟨rfl, hedit⟩⟩ := unsetField_eq_ok hunset
    · exact ⟨before, _, hbefore, rfl, .inl ⟨congrArg some (Rule.unset_of_has_eq_false hhas),
        Keeps.refl _⟩⟩
    · obtain ⟨r, hr, hturns⟩ := turns_of_edit hedit
      obtain rfl := Option.some.inj (hbefore.symm.trans hr)
      exact ⟨before, _, hr, rfl, hturns⟩
  | rename name =>
    obtain ⟨before, hbefore, ⟨heq, rfl⟩ | ⟨hne, description, hrecords⟩⟩ := rename_eq_ok h
    · exact ⟨before, _, hbefore, rfl, .inl ⟨congrArg some heq.symm, Keeps.refl _⟩⟩
    · refine ⟨before, _, hbefore, rfl,
        .inr ⟨fun heq => hne (Option.some.inj heq).symm, _, hrecords, rfl, rfl, ?_⟩⟩
      exact fun u hu => Option.some.inj hu
  | delete =>
    obtain ⟨⟨rule, u⟩, hdelete, rfl⟩ := exists_of_map_eq_ok h
    obtain ⟨hrule, description, hrecords⟩ := delete_eq_ok hdelete
    exact ⟨rule, none, hrule, rfl, .inr ⟨nofun, _, hrecords, rfl, rfl, fun u hu => absurd hu nofun⟩⟩
  | disable =>
    obtain ⟨rule, hrule, description, hrecords⟩ := disable_eq_ok h
    exact ⟨rule, none, hrule, rfl, .inr ⟨nofun, _, hrecords, rfl, rfl, fun u hu => absurd hu nofun⟩⟩

/-- **A mutation with a result succeeds.** -/
theorem exists_mutate_eq_ok (hr : s.rules[index]? = some r) {q : Option Rule}
    (hq : m.result r = .ok q) : ∃ t, s.mutate index m = .ok t := by
  have hbind : ∀ {α : Type} {f : Rule → Except SessionError α}, (∃ a, f r = .ok a) →
      ∃ a, (s.rule? index >>= f) = .ok a :=
    fun ⟨a, ha⟩ => ⟨a, rule?_bind_eq_ok.mpr ⟨r, hr, ha⟩⟩
  have hedit : ∀ rule description, ∃ t, s.edit index rule description = .ok t := by
    intro rule description
    refine hbind ?_
    split
    · exact ⟨_, rfl⟩
    · exact ⟨_, rfl⟩
  cases m with
  | edit rule description => exact hedit rule description
  | setField key value =>
    obtain ⟨rule, hset, -⟩ := exists_of_map_eq_ok hq
    refine hbind ?_
    simp only [hset]
    exact hedit rule _
  | unsetField key =>
    obtain ⟨t, ht⟩ := hedit (r.unset key) ("unset " ++ key)
    have hunset : ∃ a, s.unsetField index key = .ok a := by
      refine hbind ?_
      split
      · exact ⟨(true, t), by rw [ht]; rfl⟩
      · exact ⟨_, rfl⟩
    obtain ⟨a, ha⟩ := hunset
    exact ⟨a.2, by rw [mutate, ha]; rfl⟩
  | rename name =>
    refine hbind ?_
    show ∃ t, (if r = { r with name := nameOf name } then _ else _) = _
    split
    · exact ⟨_, rfl⟩
    · exact ⟨_, rfl⟩
  | delete =>
    obtain ⟨a, ha⟩ : ∃ a, s.delete index = .ok a := hbind ⟨_, rfl⟩
    exact ⟨a.2, by rw [mutate, ha]; rfl⟩
  | disable => exact hbind ⟨_, rfl⟩

/-- **When a mutation fails.** -/
theorem mutate_eq_error_iff : (∃ e, s.mutate index m = .error e) ↔ m.Refused s index := by
  have hfails : (∃ e, s.mutate index m = .error e) ↔ ¬ ∃ t, s.mutate index m = .ok t := by
    cases s.mutate index m <;> simp
  rw [hfails, Mutation.Refused]
  cases hr : s.rules[index]? with
  | none =>
    refine iff_of_true ?_ (.inl (List.getElem?_eq_none_iff.mp hr))
    rintro ⟨t, ht⟩
    obtain ⟨r, -, hrule, -⟩ := turns_of_mutate ht
    rw [hr] at hrule
    exact absurd hrule nofun
  | some r =>
    have hindex : ¬ s.rules.length ≤ index :=
      Nat.not_le.mpr (List.getElem?_eq_some_iff.mp hr).1
    rw [← Mutation.result_eq_error_iff (r := r), or_iff_right hindex]
    cases hresult : m.result r with
    | ok q => exact iff_of_false (not_not_intro (exists_mutate_eq_ok hr hresult)) nofun
    | error e =>
      refine iff_of_true ?_ ⟨e, rfl⟩
      rintro ⟨t, ht⟩
      obtain ⟨before, q, hbefore, hq, -⟩ := turns_of_mutate ht
      rw [Option.some.inj (hr.symm.trans hbefore), hq] at hresult
      exact absurd hresult nofun

/-! ## One change -/

/-- A session that can be reached: it began with some rules, and operations were called one after
the other. -/
def Reachable (s : Session) : Prop :=
  ∃ rules capacity calls now, s = { (ofRules rules capacity).run calls with now }

theorem Reachable.exists_chronicle (h : s.Reachable) : ∃ T, s.Chronicle T := by
  obtain ⟨rules, capacity, calls, now, rfl⟩ := h
  obtain ⟨T, hT, -⟩ := exists_chronicle_run rules capacity calls
  exact ⟨T, hT.keeps ⟨rfl, rfl⟩⟩

/-- A session comes from another by one mutation at an index, and this is all that has happened. -/
structure OneChange (s t : Session) (index : Nat) (m : Mutation) (c : Change) : Prop where
  /-- The log has the change at its end and the changes that could be undone before it, without the
  oldest one if they fill the log.  What could be redone is gone. -/
  log : t.history.changes = (s.history.changes.take s.history.cursor).drop
    (if s.history.cursor = s.history.capacity then 1 else 0) ++ [c]
  cursor : t.history.cursor = t.history.changes.length
  capacity : t.history.capacity = s.history.capacity
  place : c.index = index
  sort : c.kind = m.kind
  /-- The change knows the rule that was at the index. -/
  before : s.rules[index]? = some c.before
  /-- If a rule is still there, then the change knows it, and it is the result of the mutation and
  not the rule that was there before. -/
  replaced : c.kind = .edit ∨ c.kind = .rename → m.result c.before = .ok (some c.after) ∧
    t.rules[index]? = some c.after ∧ c.after ≠ c.before ∧
    t.rules.eraseIdx index = s.rules.eraseIdx index
  removed : c.kind = .delete ∨ c.kind = .disable → t.rules = s.rules.eraseIdx index
  disabled : t.disabled = s.disabled ++ if c.kind = .disable then [c.before] else []

theorem oneChange_of_records (hbounded : s.history.Bounded) (hcapacity : 0 < s.history.capacity)
    {c : Change} (hrecords : s.Records c t) (hindex : c.index = index) (hkind : c.kind = m.kind)
    (hafter : c.kind = .edit ∨ c.kind = .rename →
      m.result c.before = .ok (some c.after) ∧ c.after ≠ c.before) :
    s.OneChange t index m c := by
  have hne : s.history.capacity ≠ 0 := Nat.pos_iff_ne_zero.mp hcapacity
  have hhistory : t.history = { s.history with
      changes := s.history.kept ++ [c], cursor := s.history.kept.length + 1 } :=
    hrecords.history.trans (History.record_of_capacity_ne_zero hne c)
  have hrules : t.rules = (c.applyTo s.contents).rules := congrArg Contents.rules hrecords.contents
  have hdisabled : t.disabled = (c.applyTo s.contents).disabled :=
    congrArg Contents.disabled hrecords.contents
  have hbefore : s.rules[index]? = some c.before := hindex ▸ hrecords.fits.before
  have hlt : index < s.rules.length := (List.getElem?_eq_some_iff.mp hbefore).1
  refine ⟨?_, ?_, ?_, hindex, hkind, hbefore, fun hstays => ?_, fun hgoes => ?_, ?_⟩
  · rw [hhistory, History.kept_eq_drop hbounded, History.evicted]
  · rw [hhistory, List.length_append, List.length_singleton]
  · rw [hhistory]
  · have hset : t.rules = s.rules.set index c.after := by
      rw [hrules, Change.applyTo, hindex]
      rcases hstays with hstays | hstays <;> rw [hstays] <;> rfl
    obtain ⟨hresult, hchanges⟩ := hafter hstays
    refine ⟨hresult, ?_, hchanges, ?_⟩
    · rw [hset, List.getElem?_set_self hlt]
    · rw [hset, List.eraseIdx_set_eq]
  · rw [hrules, Change.applyTo, hindex]
    rcases hgoes with hgoes | hgoes <;> rw [hgoes] <;> rfl
  · rw [hdisabled, Change.applyTo]
    cases c.kind <;> simp <;> rfl

/-- A mutation is carried out as a whole or not at all. -/
structure AllOrNothing (s : Session) (index : Nat) (m : Mutation) : Prop where
  fails_iff : (∃ e, s.mutate index m = .error e) ↔ m.Refused s index
  failed : m.Refused s index → s.perform (m.operation index) = s
  /-- A result that is the rule itself leaves everything as it is. -/
  unchanged : ∀ r, ¬ m.Refused s index → s.rules[index]? = some r → m.result r = .ok (some r) →
    s.Keeps (s.perform (m.operation index))
  /-- Any other result is one change. -/
  changed : ∀ r, ¬ m.Refused s index → s.rules[index]? = some r → m.result r ≠ .ok (some r) →
    ∃ c, s.OneChange (s.perform (m.operation index)) index m c

/-- A mutation that is not refused succeeds, and turns the rule at the index. -/
theorem turns_perform (hnot : ¬ m.Refused s index) (hr : s.rules[index]? = some r) :
    ∃ q, m.result r = .ok q ∧ s.Turns (s.perform (m.operation index)) index m.kind r q := by
  rw [perform_operation]
  cases hmutate : s.mutate index m with
  | error e => exact absurd (mutate_eq_error_iff.mp ⟨e, hmutate⟩) hnot
  | ok t =>
    obtain ⟨before, q, hbefore, hq, hturns⟩ := turns_of_mutate hmutate
    obtain rfl := Option.some.inj (hr.symm.trans hbefore)
    exact ⟨q, hq, hturns⟩

/-- **Every mutation is all or nothing, and is about one rule.**  In a session that can be reached,
with a log that has room for a change, a mutation fails exactly if there is no rule at the index or
a field is to be set that cannot be set to the value.  If it fails nothing happens.  If it gives the
rule that is there already, rules and history stay as they are.  Otherwise one change is added to
the log behind the changes that can be undone, without the oldest one if they fill it; the change
knows the rule before and, if the rule stays, the rule after; and no other rule is touched. -/
theorem mutation_all_or_nothing (hs : s.Reachable) (hcapacity : 0 < s.history.capacity)
    (index : Nat)
    (m : Mutation) : s.AllOrNothing index m where
  fails_iff := mutate_eq_error_iff
  failed hrefused := by
    obtain ⟨e, he⟩ := mutate_eq_error_iff.mpr hrefused
    rw [perform_operation, he, after]
  unchanged r hnot hr hresult := by
    obtain ⟨q, hq, ⟨-, hkeeps⟩ | ⟨hne, -⟩⟩ := turns_perform hnot hr
    · exact hkeeps
    · exact absurd (Except.ok.inj (hq.symm.trans hresult)) hne
  changed r hnot hr hresult := by
    obtain ⟨T, hT⟩ := hs.exists_chronicle
    obtain ⟨q, hq, ⟨rfl, -⟩ | ⟨hne, c, hrecords, hindex, hkind, hafter⟩⟩ := turns_perform hnot hr
    · exact absurd hq hresult
    · have hbefore : c.before = r := by
        have hfits : s.rules[c.index]? = some c.before := hrecords.fits.before
        rw [hindex, hr] at hfits
        exact (Option.some.inj hfits).symm
      refine ⟨c, oneChange_of_records hT.bounded hcapacity hrecords hindex hkind fun hstays => ?_⟩
      obtain ⟨u, rfl⟩ := Mutation.exists_eq_some_of_kind (hkind ▸ hstays) hq
      rw [hbefore, hafter u rfl]
      exact ⟨hq, fun heq => hne (congrArg some heq)⟩

/-- A session whose log is full and has a change that can be redone. -/
def walkedBackSession : Session :=
  { (ofRules [{}, { name := some "a" }] 2).run
      [⟨"08:00:00", .rename 0 "b"⟩, ⟨"08:00:01", .disable 0⟩, ⟨"08:00:02", .undo⟩] with
    now := "08:00:03" }

theorem mutation_all_or_nothing_walkedBackSession : walkedBackSession.Reachable ∧
    0 < walkedBackSession.history.capacity ∧
      walkedBackSession.AllOrNothing 1 (.setField "float" "yes") := by
  have hreachable : walkedBackSession.Reachable := ⟨_, _, _, _, rfl⟩
  have hcapacity : 0 < walkedBackSession.history.capacity := by decide
  exact ⟨hreachable, hcapacity, mutation_all_or_nothing hreachable hcapacity 1 _⟩

end Session
end WindowRules
