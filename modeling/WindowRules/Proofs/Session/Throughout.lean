import WindowRules.Proofs.Session.Chronicle

/-!
# Properties of all rules of a session

Rules come back: undoing puts deleted and disabled rules in use again, and redoing puts edited ones
there.  So that all active rules have a property is no invariant of a session by itself.  What is
invariant is that the rules have it in all contents of the chronicle (`Session.Throughout`).  For
undoing and redoing there is then nothing to show, since they go to contents that are in the
chronicle already; for the other operations one looks only at the rule that they put in place
(`Operation.Preserves`).
-/

namespace WindowRules

variable {P : Rule → Prop}

/-- All rules have a property, the disabled ones too. -/
structure Contents.All (P : Rule → Prop) (t : Contents) : Prop where
  rules : ∀ r ∈ t.rules, P r
  disabled : ∀ r ∈ t.disabled, P r

/-- A change keeps a property of all rules if the rule that it puts in place has it.  A deletion
puts none in place. -/
theorem Contents.All.applyTo {t : Contents} (h : t.All P) {c : Change} (hfits : c.Fits t)
    (hafter : c.kind ≠ .delete → P c.after) : (c.applyTo t).All P := by
  have hremove : ∀ r ∈ Ruleset.remove t.rules c.index, P r :=
    fun r hr => h.rules r (List.mem_of_mem_eraseIdx hr)
  unfold Change.applyTo
  cases hkind : c.kind with
  | edit | rename =>
    refine ⟨fun r hr => ?_, h.disabled⟩
    rcases List.mem_or_eq_of_mem_set hr with hr | rfl
    · exact h.rules r hr
    · exact hafter (by rw [hkind]; exact nofun)
  | delete => exact ⟨hremove, h.disabled⟩
  | disable =>
    refine ⟨hremove, fun r hr => ?_⟩
    rcases List.mem_append.mp hr with hr | hr
    · exact h.disabled r hr
    · rw [List.mem_singleton.mp hr]
      exact h.rules _ (List.mem_of_getElem? hfits.before)

/-- The rule that an operation puts in the place of another has a property if that one has it. -/
def Operation.Preserves (P : Rule → Prop) : Operation → Prop
  | .edit _ rule _ => P rule
  | .setField _ key value => ∀ r q : Rule, P r → r.set key value = .ok q → P q
  | .unsetField _ key => ∀ r : Rule, P r → P (r.unset key)
  | .rename _ name => ∀ r : Rule, P r → P { r with name := Session.nameOf name }
  | _ => True

namespace Session

variable {s t : Session}

/-- All rules have a property in what the session holds and in all that undoing and redoing lead
to. -/
def Throughout (P : Rule → Prop) (s : Session) : Prop :=
  ∃ T, s.Chronicle T ∧ ∀ i ≤ s.history.size, (T i).All P

theorem throughout_ofRules {rules : Ruleset} (capacity : Nat) (h : ∀ r ∈ rules, P r) :
    (ofRules rules capacity).Throughout P :=
  ⟨_, chronicle_ofRules rules capacity, fun _ _ => ⟨h, fun _ => nofun⟩⟩

namespace Throughout

theorem all (h : s.Throughout P) : s.contents.All P := by
  obtain ⟨T, hT, hall⟩ := h
  exact hT.current ▸ hall _ hT.bounded.cursor_le

theorem keeps (h : s.Throughout P) (hkeeps : s.Keeps t) : t.Throughout P := by
  obtain ⟨T, hT, hall⟩ := h
  exact ⟨T, hT.keeps hkeeps, hkeeps.history ▸ hall⟩

theorem undo (h : s.Throughout P) : s.undo.2.Throughout P := by
  obtain ⟨T, hT, hall⟩ := h
  exact ⟨T, hT.after_undo.1, hT.after_undo.2 ▸ hall⟩

theorem redo (h : s.Throughout P) : s.redo.2.Throughout P := by
  obtain ⟨T, hT, hall⟩ := h
  exact ⟨T, hT.after_redo.1, hT.after_redo.2 ▸ hall⟩

/-- A recorded change adds no contents but those that it leads to. -/
theorem records (h : s.Throughout P) {c : Change} (hrecords : s.Records c t)
    (hafter : c.kind ≠ .delete → P c.after) : t.Throughout P := by
  have hnow : t.contents.All P := by
    rw [hrecords.contents]
    exact h.all.applyTo hrecords.fits hafter
  obtain ⟨T, hT, hall⟩ := h
  obtain ⟨T', hT', hrecalls⟩ := hT.exists_of_records hrecords
  refine ⟨T', hT', fun i hi => ?_⟩
  rcases hrecalls i hi with heq | ⟨j, hj, heq⟩
  · exact heq ▸ hnow
  · exact heq ▸ hall j hj

/-- What holds after the success of a change holds after its failure, if it held before. -/
theorem after (h : s.Throughout P) {x : Except SessionError Session}
    (hx : ∀ u, x = .ok u → u.Throughout P) : (s.after x).Throughout P := by
  cases x with
  | error e => exact h
  | ok u => exact hx u rfl

theorem edit (h : s.Throughout P) {index : Nat} {rule : Rule} {description : String}
    (hedit : s.edit index rule description = .ok t) (hrule : P rule) : t.Throughout P := by
  obtain ⟨before, -, ⟨-, rfl⟩ | ⟨-, hrecords⟩⟩ := edit_eq_ok hedit
  · exact h
  · exact h.records hrecords fun _ => hrule

/-- The rule at an index is one of the rules. -/
theorem getElem? (h : s.Throughout P) {index : Nat} {r : Rule} (hr : s.rules[index]? = some r) :
    P r :=
  h.all.rules r (List.mem_of_getElem? hr)

/-- **An operation that preserves a property of rules preserves it throughout.** -/
theorem perform (h : s.Throughout P) {o : Operation} (ho : o.Preserves P) :
    (s.perform o).Throughout P := by
  cases o with
  | edit index rule description => exact h.after fun u hu => h.edit hu ho
  | setField index key value =>
    refine h.after fun u hu => ?_
    obtain ⟨before, rule, hbefore, hset, hedit⟩ := setField_eq_ok hu
    exact h.edit hedit (ho before rule (h.getElem? hbefore) hset)
  | unsetField index key =>
    refine h.after fun u hmap => ?_
    obtain ⟨⟨present, v⟩, hu, rfl⟩ := exists_of_map_eq_ok hmap
    obtain ⟨before, hbefore, -, ⟨-, rfl⟩ | ⟨-, hedit⟩⟩ := unsetField_eq_ok hu
    · exact h
    · exact h.edit hedit (ho before (h.getElem? hbefore))
  | rename index name =>
    refine h.after fun u hu => ?_
    obtain ⟨before, hbefore, ⟨-, rfl⟩ | ⟨-, description, hrecords⟩⟩ := rename_eq_ok hu
    · exact h
    · exact h.records hrecords fun _ => ho before (h.getElem? hbefore)
  | delete index =>
    refine h.after fun u hmap => ?_
    obtain ⟨⟨rule, v⟩, hu, rfl⟩ := exists_of_map_eq_ok hmap
    obtain ⟨-, description, hrecords⟩ := delete_eq_ok hu
    exact h.records hrecords fun hkind => absurd rfl hkind
  | disable index =>
    refine h.after fun u hu => ?_
    obtain ⟨rule, hrule, description, hrecords⟩ := disable_eq_ok hu
    exact h.records hrecords fun _ => h.getElem? hrule
  | undo => exact h.undo
  | redo => exact h.redo
  | resolve w | audit windows | write => exact h.keeps ⟨rfl, rfl⟩

/-- **So does a run of such operations.** -/
theorem run (h : s.Throughout P) {calls : List Call}
    (hcalls : ∀ c ∈ calls, c.operation.Preserves P) : (s.run calls).Throughout P := by
  induction calls using List.reverseRecOn with
  | nil => exact h
  | append_singleton calls c ih =>
    rw [run_concat]
    have hbefore := ih fun d hd => hcalls d (List.mem_append_left _ hd)
    have hclock : Throughout P { s.run calls with now := c.time } := hbefore.keeps ⟨rfl, rfl⟩
    exact hclock.perform (hcalls c (List.mem_append_right _ (List.mem_singleton_self c)))

end Throughout

end Session
end WindowRules
