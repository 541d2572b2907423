import Mathlib.Data.List.Sort
import WindowRules.Audit.Report
import WindowRules.Proofs.Cascade

/-!
# What an audit reports

An audit is computed by walking over all pairs of rules and then over all rules, and what it reports
is a list of texts.  Said without the walk there are *findings*, each at some rules of the ruleset,
and three questions: when does a finding hold, in which order are findings told, and is any told
twice.

`Due` answers the first and refers to nothing but the rules and the windows; what is due is of the
kind of its finding and about its rules (`Due.tellsOf`).  The second and the third are one question.
A finding has a rank, a list of numbers that are compared in turn (`Finding.rank`): pairs before
single rules, then the places of the rules, then the kind.  A report whose findings increase
strictly in rank has them in order and none of them twice, and if they are those that are due there
is only one such report.  `Listed` is this description, and it is put together along the two walks:
lists are appended where every rank of the first is below every rank of the second (`Listed.append`,
`Listed.flatMap`).
-/

namespace WindowRules

/-! ## Findings -/

/-- What an audit can find, and at which rules. -/
inductive Finding where
  /-- Two rules have the same class pattern and the same title pattern. -/
  | duplicate (i j : Nat)
  /-- The class pattern of a rule occurs in that of a later one. -/
  | subsumed (i j : Nat)
  /-- Two rules for one class set an action to different values. -/
  | conflict (i j : Nat)
  /-- A field of a rule has a text that is no pattern. -/
  | broken (i : Nat) (f : MatchField)
  /-- A rule matches no open window. -/
  | orphan (i : Nat)
  deriving DecidableEq

/-- The kind of issue that tells of a finding. -/
def Finding.kind : Finding → IssueKind
  | .duplicate _ _ => .exactDuplicate
  | .subsumed _ _ => .subsumed
  | .conflict _ _ => .conflictingActions
  | .broken _ _ => .invalidPattern
  | .orphan _ => .orphaned

/-- The places of the rules that a finding is about. -/
def Finding.places : Finding → List Nat
  | .duplicate i j | .subsumed i j | .conflict i j => [i, j]
  | .broken i _ | .orphan i => [i]

/-- Where a finding stands among others: pairs before single rules, each by their places, and those
at the same place in a fixed order. -/
def Finding.rank : Finding → List Nat
  | .duplicate i j => [0, i, j, 0]
  | .subsumed i j => [0, i, j, 1]
  | .conflict i j => [0, i, j, 2]
  | .broken i f => [1, i, MatchField.all.idxOf f]
  | .orphan i => [1, i, MatchField.all.length]

/-- A finding is told before another. -/
def Finding.Before (f g : Finding) : Prop := f.rank < g.rank

/-! ## When a finding is due -/

/-- A text is what is between the anchors of a pattern: one circumflex in front and one dollar sign
behind are taken away, if they are there. -/
def Unanchored (pattern inner : List Char) : Prop :=
  ∃ front back, pattern = front ++ inner ++ back ∧
    (front = ['^'] ∨ front = [] ∧ pattern.head? ≠ some '^') ∧
    (back = ['$'] ∨ back = [] ∧ inner.getLast? ≠ some '$')

/-- Two values are both present, and they are different. -/
def Differ {α : Type} (u v : Option α) : Prop := ∃ x y, u = some x ∧ v = some y ∧ x ≠ y

/-- Two rules disagree on the workspace, on the tag or on floating. -/
def Disagree (a b : Rule) : Prop :=
  Differ a.actions.workspace b.actions.workspace ∨ Differ a.actions.tag b.actions.tag ∨
    Differ a.actions.float b.actions.float

/-- What is to be reported of a rule at place `i` and another at place `j`. -/
inductive PairDue (i : Nat) (a : Rule) (j : Nat) (b : Rule) : Finding → Issue → Prop
  | duplicate (hclass : a.criteria.windowClass = b.criteria.windowClass)
      (htitle : a.criteria.title = b.criteria.title) :
      PairDue i a j b (.duplicate i j) (duplicateIssue i a j b)
  | subsumed {p q : String} {innerA innerB : List Char}
      (ha : a.criteria.windowClass = some p) (hb : b.criteria.windowClass = some q)
      (hp : p ≠ "") (hq : q ≠ "") (hinnerA : Unanchored p.toList innerA)
      (hinnerB : Unanchored q.toList innerB) (hpart : innerA <:+: innerB) :
      PairDue i a j b (.subsumed i j) (subsumedIssue i p j q)
  | conflict {p : String} (ha : a.criteria.windowClass = some p)
      (hb : b.criteria.windowClass = some p) (hp : p ≠ "") (hdisagree : Disagree a b) :
      PairDue i a j b (.conflict i j) (conflictIssue i j p (conflictingFields a b))

/-- What is to be reported of a rule at place `i` by itself. -/
inductive RuleDue (windows : Option (List Window)) (i : Nat) (r : Rule) : Finding → Issue → Prop
  | broken {f : MatchField} {p : String} (hp : r.criteria.get f = some p)
      (hbroken : Pattern.compile? p = none) :
      RuleDue windows i r (.broken i f) (brokenPatternIssue i r (f, p))
  | orphan {ws : List Window} (hws : windows = some ws) (hnone : ∀ w ∈ ws, ¬ r.Suits w) :
      RuleDue windows i r (.orphan i) (orphanIssue i r ws.length)

/-- What an audit has to report of a ruleset. -/
inductive Due (rs : Ruleset) (windows : Option (List Window)) : Finding → Issue → Prop
  | pair {i j : Nat} {a b : Rule} {f : Finding} {x : Issue} (hlt : i < j) (ha : rs[i]? = some a)
      (hb : rs[j]? = some b) (h : PairDue i a j b f x) : Due rs windows f x
  | single {i : Nat} {r : Rule} {f : Finding} {x : Issue} (hr : rs[i]? = some r)
      (h : RuleDue windows i r f x) : Due rs windows f x

/-- An issue tells of a finding: it is of its kind, as bad as its kind, and about its rules. -/
structure Issue.TellsOf (x : Issue) (f : Finding) : Prop where
  kind : x.kind = f.kind
  severity : x.severity = f.kind.severity
  rules : x.rules = f.places

/-- **What is due tells of its finding.** -/
theorem Due.tellsOf {rs : Ruleset} {windows : Option (List Window)} {f : Finding} {x : Issue}
    (h : Due rs windows f x) : x.TellsOf f := by
  cases h with
  | pair _ _ _ h => cases h <;> exact ⟨rfl, rfl, rfl⟩
  | single _ h => cases h <;> exact ⟨rfl, rfl, rfl⟩

/-! ## Lists of what is due -/

/-- Some issues are those of certain findings, in the order of findings and each once. -/
def Listed (D : Finding → Issue → Prop) (issues : List Issue) : Prop :=
  ∃ entries : List (Finding × Issue), entries.map (·.2) = issues ∧
    (entries.Pairwise fun a b => a.1.Before b.1) ∧ ∀ f x, (f, x) ∈ entries ↔ D f x

section Listed

variable {D D' : Finding → Issue → Prop} {l l' : List Issue}

/-- **There is only one list of what is due**: the order and the findings determine it. -/
theorem Listed.unique (h : Listed D l) (h' : Listed D l') : l = l' := by
  obtain ⟨entries, rfl, hsorted, hmem⟩ := h
  obtain ⟨entries', rfl, hsorted', hmem'⟩ := h'
  have hirrefl : Std.Irrefl fun a b : Finding × Issue => a.1.Before b.1 :=
    ⟨fun a => List.lt_irrefl a.1.rank⟩
  have hantisymm : Std.Antisymm fun a b : Finding × Issue => a.1.Before b.1 :=
    ⟨fun a b hab hba => absurd hba (List.lt_asymm hab)⟩
  rw [hsorted.eq_of_mem_iff hsorted' fun e => (hmem e.1 e.2).trans (hmem' e.1 e.2).symm]

theorem Listed.congr (h : Listed D l) (hD : ∀ f x, D f x ↔ D' f x) : Listed D' l := by
  obtain ⟨entries, hmap, hsorted, hmem⟩ := h
  exact ⟨entries, hmap, hsorted, fun f x => (hmem f x).trans (hD f x)⟩

/-- A list of what is due has an issue exactly if the issue is due. -/
theorem Listed.mem_iff (h : Listed D l) {x : Issue} : x ∈ l ↔ ∃ f, D f x := by
  obtain ⟨entries, rfl, -, hmem⟩ := h
  simp [hmem]

theorem listed_nil (h : ∀ f x, ¬ D f x) : Listed D [] :=
  ⟨[], rfl, List.Pairwise.nil, fun f x => iff_of_false List.not_mem_nil (h f x)⟩

theorem listed_singleton (f : Finding) (x : Issue) : Listed (fun g y => g = f ∧ y = x) [x] :=
  ⟨[(f, x)], rfl, List.pairwise_singleton _ _, fun g y => by rw [List.mem_singleton, Prod.mk.injEq]⟩

theorem listed_ite {p : Prop} [Decidable p] (f : Finding) (x : Issue) :
    Listed (fun g y => p ∧ g = f ∧ y = x) (if p then [x] else []) := by
  by_cases hp : p
  · rw [if_pos hp]
    exact (listed_singleton f x).congr fun g y => (and_iff_right hp).symm
  · rw [if_neg hp]
    exact listed_nil fun g y h => hp h.1

/-- **What comes first is told first.** -/
theorem Listed.append (h : Listed D l) (h' : Listed D' l')
    (hbefore : ∀ f x g y, D f x → D' g y → f.Before g) :
    Listed (fun f x => D f x ∨ D' f x) (l ++ l') := by
  obtain ⟨entries, rfl, hsorted, hmem⟩ := h
  obtain ⟨entries', rfl, hsorted', hmem'⟩ := h'
  refine ⟨entries ++ entries', List.map_append, ?_, fun f x => ?_⟩
  · exact List.pairwise_append.mpr ⟨hsorted, hsorted', fun a ha b hb =>
      hbefore _ _ _ _ ((hmem _ _).mp ha) ((hmem' _ _).mp hb)⟩
  · rw [List.mem_append, hmem, hmem']

/-- A walk tells what is due at each place, if the places come in order. -/
theorem Listed.flatMap {α : Type} {places : List α} {R : α → α → Prop} {g : α → List Issue}
    {E : α → Finding → Issue → Prop} (hplaces : places.Pairwise R)
    (hlisted : ∀ p ∈ places, Listed (E p) (g p))
    (hbefore : ∀ p q, R p q → ∀ f x g y, E p f x → E q g y → f.Before g) :
    Listed (fun f x => ∃ p ∈ places, E p f x) (places.flatMap g) := by
  induction places with
  | nil => exact listed_nil fun f x h => absurd h (by simp)
  | cons p places ih =>
    obtain ⟨hfirst, hplaces⟩ := List.pairwise_cons.mp hplaces
    have hrest := ih hplaces fun q hq => hlisted q (List.mem_cons_of_mem p hq)
    have h := (hlisted p List.mem_cons_self).append hrest ?_
    · exact h.congr fun f x => by simp
    · rintro f x f' x' hp ⟨q, hq, hdue⟩
      exact hbefore p q (hfirst q hq) f x f' x' hp hdue

end Listed

/-! ## Ranks -/

/-- Of two ranks the smaller one is the one that is smaller where they part. -/
theorem Finding.before_of_rank {f g : Finding} {l s t : List Nat} {k m : Nat}
    (hf : f.rank = l ++ k :: s) (hg : g.rank = l ++ m :: t) (hlt : k < m) : f.Before g := by
  rw [Finding.Before, hf, hg]
  exact List.append_left_lt (List.cons_lt_cons_iff.mpr (.inl hlt))

theorem PairDue.rank {i j : Nat} {a b : Rule} {f : Finding} {x : Issue} (h : PairDue i a j b f x) :
    ∃ k, f.rank = [0, i, j, k] := by
  cases h <;> exact ⟨_, rfl⟩

theorem RuleDue.rank {windows : Option (List Window)} {i : Nat} {r : Rule} {f : Finding} {x : Issue}
    (h : RuleDue windows i r f x) : ∃ k, f.rank = [1, i, k] := by
  cases h <;> exact ⟨_, rfl⟩

/-! ## Conditions -/

/-- What is left of a text when one circumflex in front is taken away. -/
theorem exists_front (pattern : List Char) : ∃ front rest, pattern = front ++ rest ∧
    (front = ['^'] ∨ front = [] ∧ pattern.head? ≠ some '^') := by
  cases pattern with
  | nil => exact ⟨[], [], rfl, .inr ⟨rfl, nofun⟩⟩
  | cons c cs =>
    by_cases hc : c = '^'
    · exact ⟨['^'], cs, hc ▸ rfl, .inl rfl⟩
    · exact ⟨[], c :: cs, rfl, .inr ⟨rfl, fun h => hc (Option.some.inj h)⟩⟩

/-- What is left of a text when one dollar sign behind is taken away. -/
theorem exists_back (rest : List Char) : ∃ inner back, rest = inner ++ back ∧
    (back = ['$'] ∨ back = [] ∧ inner.getLast? ≠ some '$') := by
  by_cases hlast : rest.getLast? = some '$'
  · obtain ⟨inner, rfl⟩ := List.getLast?_eq_some_iff.mp hlast
    exact ⟨inner, ['$'], rfl, .inl rfl⟩
  · exact ⟨rest, [], (List.append_nil rest).symm, .inr ⟨rfl, hlast⟩⟩

theorem withoutAnchors_of_head?_ne {cs : List Char} (h : cs.head? ≠ some '^') :
    withoutAnchors cs = if cs.getLast? = some '$' then cs.dropLast else cs := by
  unfold withoutAnchors
  split
  · exact absurd rfl h
  · next hne => simp only

theorem Unanchored.withoutAnchors_eq {pattern inner : List Char} (h : Unanchored pattern inner) :
    withoutAnchors pattern = inner := by
  obtain ⟨front, back, rfl, hfront, hback⟩ := h
  have hinner : (if (inner ++ back).getLast? = some '$' then (inner ++ back).dropLast
      else inner ++ back) = inner := by
    rcases hback with rfl | ⟨rfl, hlast⟩
    · rw [if_pos List.getLast?_concat, List.dropLast_concat]
    · rw [List.append_nil, if_neg hlast]
  rcases hfront with rfl | ⟨rfl, hhead⟩
  · exact hinner
  · rw [List.nil_append] at hhead ⊢
    rw [withoutAnchors_of_head?_ne hhead, hinner]

/-- **Every pattern has one text between its anchors**, and it is the one that is computed. -/
theorem unanchored_iff {pattern inner : List Char} :
    Unanchored pattern inner ↔ withoutAnchors pattern = inner := by
  refine ⟨Unanchored.withoutAnchors_eq, ?_⟩
  rintro rfl
  obtain ⟨front, rest, hpattern, hfront⟩ := exists_front pattern
  obtain ⟨inner, back, rfl, hback⟩ := exists_back rest
  have h : Unanchored pattern inner :=
    ⟨front, back, by rw [hpattern, List.append_assoc], hfront, hback⟩
  exact h.withoutAnchors_eq ▸ h

theorem Rule.classPattern?_eq_some_iff {r : Rule} {p : String} :
    r.classPattern? = some p ↔ r.criteria.windowClass = some p ∧ p ≠ "" := by
  rw [Rule.classPattern?, Option.filter_eq_some_iff]
  simp

theorem disagree_iff {α : Type} [DecidableEq α] {u v : Option α} :
    disagree u v = true ↔ Differ u v := by
  cases u <;> cases v <;> simp [disagree, Differ]

/-- Some field is told exactly if the rules disagree. -/
theorem conflictingFields_ne_nil_iff {a b : Rule} : conflictingFields a b ≠ [] ↔ Disagree a b := by
  have hite : ∀ {c : Bool} {key : String}, (if c = true then [key] else []) = [] ↔ ¬ c = true := by
    intro c key
    cases c <;> simp
  rw [conflictingFields, ne_eq, List.append_eq_nil_iff, List.append_eq_nil_iff, hite, hite, hite,
    disagree_iff, disagree_iff, disagree_iff, Disagree]
  tauto

/-! ## Pairs of rules -/

section Pair

variable (i : Nat) (a : Rule) (j : Nat) (b : Rule)

/-- The conditions on class patterns as an audit checks them. -/
def ClassDue (f : Finding) (x : Issue) : Prop :=
  ∃ p q, a.classPattern? = some p ∧ b.classPattern? = some q ∧
    (Text.occursIn (withoutAnchors p.toList) (withoutAnchors q.toList) = true ∧
        f = .subsumed i j ∧ x = subsumedIssue i p j q ∨
      (p = q ∧ conflictingFields a b ≠ []) ∧
        f = .conflict i j ∧ x = conflictIssue i j p (conflictingFields a b))

theorem listed_classIssues : Listed (ClassDue i a j b)
    (match a.classPattern?, b.classPattern? with
      | some p, some q => classIssues i a p j b q
      | _, _ => []) := by
  unfold ClassDue
  cases a.classPattern? with
  | none => exact listed_nil fun f x => by rintro ⟨p, q, ⟨⟩, -⟩
  | some p =>
    cases b.classPattern? with
    | none => exact listed_nil fun f x => by rintro ⟨p, q, -, ⟨⟩, -⟩
    | some q =>
      refine ((listed_ite (.subsumed i j) _).append (listed_ite (.conflict i j) _) ?_).congr
        fun f x => ?_
      · rintro f x g y ⟨-, rfl, -⟩ ⟨-, rfl, -⟩
        exact Finding.before_of_rank (l := [0, i, j]) rfl rfl (Nat.lt_add_one 1)
      · simp

theorem sameTarget_iff : sameTarget a b = true ↔
    a.criteria.windowClass = b.criteria.windowClass ∧ a.criteria.title = b.criteria.title := by
  rw [sameTarget, Bool.and_eq_true, decide_eq_true_eq, decide_eq_true_eq]

theorem pairDue_iff {f : Finding} {x : Issue} : PairDue i a j b f x ↔
    sameTarget a b = true ∧ f = .duplicate i j ∧ x = duplicateIssue i a j b ∨
      ClassDue i a j b f x := by
  constructor
  · intro h
    cases h with
    | duplicate hclass htitle => exact .inl ⟨(sameTarget_iff a b).mpr ⟨hclass, htitle⟩, rfl, rfl⟩
    | @subsumed p q _ _ ha hb hp hq hinnerA hinnerB hpart =>
      refine .inr ⟨p, q, Rule.classPattern?_eq_some_iff.mpr ⟨ha, hp⟩,
        Rule.classPattern?_eq_some_iff.mpr ⟨hb, hq⟩, .inl ⟨?_, rfl, rfl⟩⟩
      rwa [hinnerA.withoutAnchors_eq, hinnerB.withoutAnchors_eq, Text.occursIn_iff]
    | @conflict p ha hb hp hdisagree =>
      exact .inr ⟨p, p, Rule.classPattern?_eq_some_iff.mpr ⟨ha, hp⟩,
        Rule.classPattern?_eq_some_iff.mpr ⟨hb, hp⟩,
        .inr ⟨⟨rfl, conflictingFields_ne_nil_iff.mpr hdisagree⟩, rfl, rfl⟩⟩
  · rintro (⟨hsame, rfl, rfl⟩ | ⟨p, q, hp, hq, h⟩)
    · obtain ⟨hclass, htitle⟩ := (sameTarget_iff a b).mp hsame
      exact .duplicate hclass htitle
    · obtain ⟨ha, hp⟩ := Rule.classPattern?_eq_some_iff.mp hp
      obtain ⟨hb, hq⟩ := Rule.classPattern?_eq_some_iff.mp hq
      rcases h with ⟨hoccurs, rfl, rfl⟩ | ⟨⟨rfl, hfields⟩, rfl, rfl⟩
      · exact .subsumed ha hb hp hq (unanchored_iff.mpr rfl) (unanchored_iff.mpr rfl)
          (Text.occursIn_iff.mp hoccurs)
      · exact .conflict ha hb hp (conflictingFields_ne_nil_iff.mp hfields)

/-- **The issues of a pair.** -/
theorem listed_pairIssues : Listed (PairDue i a j b) (pairIssues i a j b) := by
  refine ((listed_ite (.duplicate i j) _).append (listed_classIssues i a j b) ?_).congr
    fun f x => (pairDue_iff i a j b).symm
  rintro f x g y ⟨-, rfl, -⟩ ⟨p, q, -, -, ⟨-, rfl, -⟩ | ⟨-, rfl, -⟩⟩
  · exact Finding.before_of_rank (l := [0, i, j]) rfl rfl Nat.one_pos
  · exact Finding.before_of_rank (l := [0, i, j]) rfl rfl Nat.two_pos

end Pair

/-- What is due between two of some rules, the first of which has place `n`. -/
def PairsDue (n : Nat) (rs : List Rule) (f : Finding) (x : Issue) : Prop :=
  ∃ p ∈ rs.zipIdx n, ∃ q ∈ rs.zipIdx n, p.2 < q.2 ∧ PairDue p.2 p.1 q.2 q.1 f x

/-- What is due between the first of some rules and another, and what is due between the others. -/
theorem pairsDue_cons {n : Nat} {a : Rule} {rest : List Rule} {f : Finding} {x : Issue} :
    PairsDue n (a :: rest) f x ↔
      (∃ q ∈ rest.zipIdx (n + 1), PairDue n a q.2 q.1 f x) ∨ PairsDue (n + 1) rest f x := by
  have hlater : ∀ q ∈ rest.zipIdx (n + 1), n < q.2 := fun q hq => List.le_snd_of_mem_zipIdx hq
  rw [PairsDue, List.zipIdx_cons]
  constructor
  · rintro ⟨p, hp, q, hq, hlt, hdue⟩
    rcases List.mem_cons.mp hq with rfl | hq
    · -- no place is before the first
      rcases List.mem_cons.mp hp with rfl | hp
      · exact absurd hlt (Nat.lt_irrefl n)
      · exact absurd hlt (Nat.lt_asymm (hlater p hp))
    · rcases List.mem_cons.mp hp with rfl | hp
      · exact .inl ⟨q, hq, hdue⟩
      · exact .inr ⟨p, hp, q, hq, hlt, hdue⟩
  · rintro (⟨q, hq, hdue⟩ | ⟨p, hp, q, hq, hlt, hdue⟩)
    · exact ⟨(a, n), List.mem_cons_self, q, List.mem_cons_of_mem _ hq, hlater q hq, hdue⟩
    · exact ⟨p, List.mem_cons_of_mem _ hp, q, List.mem_cons_of_mem _ hq, hlt, hdue⟩

/-- **The issues of all pairs.** -/
theorem listed_allPairIssues (n : Nat) (rs : List Rule) :
    Listed (PairsDue n rs) (allPairIssues n rs) := by
  induction rs generalizing n with
  | nil => exact listed_nil fun f x h => by simp [PairsDue] at h
  | cons a rest ih =>
    have hfirst : Listed (fun f x => ∃ q ∈ rest.zipIdx (n + 1), PairDue n a q.2 q.1 f x)
        ((rest.zipIdx (n + 1)).flatMap fun q => pairIssues n a q.2 q.1) := by
      refine Listed.flatMap (pairwise_zipIdx rest (n + 1))
        (fun q _ => listed_pairIssues n a q.2 q.1) ?_
      intro p q hlt f x g y hf hg
      obtain ⟨k, hk⟩ := hf.rank
      obtain ⟨m, hm⟩ := hg.rank
      exact Finding.before_of_rank (l := [0, n]) hk hm hlt
    refine (hfirst.append (ih (n + 1)) ?_).congr fun f x => pairsDue_cons.symm
    rintro f x g y ⟨q, -, hf⟩ ⟨p, hp, q', -, -, hg⟩
    have hlt : n < p.2 := List.le_snd_of_mem_zipIdx hp
    obtain ⟨k, hk⟩ := hf.rank
    obtain ⟨m, hm⟩ := hg.rank
    exact Finding.before_of_rank (l := [0]) hk hm hlt

/-! ## Single rules -/

section Single

variable (windows : Option (List Window)) (i : Nat) (r : Rule)

/-- The patterns of a rule come in the order of the fields. -/
theorem pairwise_patterns (c : Criteria) : c.patterns.Pairwise fun p q =>
    MatchField.all.idxOf p.1 < MatchField.all.idxOf q.1 := by
  have hall : MatchField.all.Pairwise fun f g =>
      MatchField.all.idxOf f < MatchField.all.idxOf g := by
    decide
  refine hall.filterMap _ fun f g hlt p hp q hq => ?_
  obtain ⟨v, -, rfl⟩ := Option.map_eq_some_iff.mp hp
  obtain ⟨u, -, rfl⟩ := Option.map_eq_some_iff.mp hq
  exact hlt

theorem mem_brokenPatterns {f : MatchField} {p : String} :
    (f, p) ∈ r.brokenPatterns ↔ r.criteria.get f = some p ∧ Pattern.compile? p = none := by
  rw [Rule.brokenPatterns, List.mem_filter, Criteria.mem_patterns, Bool.not_eq_true', isPattern,
    Option.isSome_eq_false_iff, Option.isNone_iff_eq_none]

theorem listed_brokenIssues :
    Listed (fun f x => ∃ p ∈ r.brokenPatterns, f = .broken i p.1 ∧ x = brokenPatternIssue i r p)
      (r.brokenPatterns.map (brokenPatternIssue i r)) := by
  rw [List.map_eq_flatMap]
  refine Listed.flatMap ((pairwise_patterns r.criteria).filter _)
    (fun p _ => listed_singleton (.broken i p.1) _) ?_
  rintro p q hlt f x g y ⟨rfl, -⟩ ⟨rfl, -⟩
  exact Finding.before_of_rank (l := [1, i]) rfl rfl hlt

theorem listed_orphanIssues :
    Listed (fun f x => ∃ ws, windows = some ws ∧ (∀ w ∈ ws, ¬ r.Suits w) ∧
        f = .orphan i ∧ x = orphanIssue i r ws.length)
      (match windows.map fun ws => (ws.length, ws.any fun w => r.matches w) with
        | some (count, false) => [orphanIssue i r count]
        | _ => []) := by
  cases windows with
  | none => exact listed_nil fun f x => by rintro ⟨ws, ⟨⟩, -⟩
  | some ws =>
    rw [Option.map_some]
    have hany : (ws.any fun w => r.matches w) = false ↔ ∀ w ∈ ws, ¬ r.Suits w := by
      simp only [List.any_eq_false, Rule.matches_iff_suits]
    cases hws : ws.any fun w => r.matches w with
    | true =>
      refine listed_nil fun f x => ?_
      rintro ⟨_, ⟨⟩, hnone, -⟩
      rw [hany.mpr hnone] at hws
      exact absurd hws nofun
    | false =>
      refine (listed_singleton (.orphan i) _).congr fun f x => ⟨fun h => ?_, ?_⟩
      · exact ⟨ws, rfl, hany.mp hws, h⟩
      · rintro ⟨_, ⟨⟩, -, h⟩
        exact h

/-- **The issues of a rule by itself.** -/
theorem listed_ruleIssues : Listed (RuleDue windows i r)
    (ruleIssues i r r.brokenPatterns
      (windows.map fun ws => (ws.length, ws.any fun w => r.matches w))) := by
  refine ((listed_brokenIssues i r).append (listed_orphanIssues windows i r) ?_).congr
    fun f x => ⟨?_, fun h => ?_⟩
  · rintro f x g y ⟨p, -, rfl, -⟩ ⟨ws, -, -, rfl, -⟩
    exact Finding.before_of_rank (l := [1, i]) rfl rfl
      (List.idxOf_lt_length_iff.mpr (MatchField.mem_all p.1))
  · rintro (⟨⟨f, p⟩, hp, rfl, rfl⟩ | ⟨ws, hws, hnone, rfl, rfl⟩)
    · obtain ⟨hget, hbroken⟩ := (mem_brokenPatterns r).mp hp
      exact .broken hget hbroken
    · exact .orphan hws hnone
  · cases h with
    | @broken f p hget hbroken =>
      exact .inl ⟨(f, p), (mem_brokenPatterns r).mpr ⟨hget, hbroken⟩, rfl, rfl⟩
    | @orphan ws hws hnone => exact .inr ⟨ws, hws, hnone, rfl, rfl⟩

/-- **The issues of all rules by themselves.** -/
theorem listed_allRuleIssues (rs : Ruleset) :
    Listed (fun f x => ∃ p ∈ rs.zipIdx, RuleDue windows p.2 p.1 f x)
      (allRuleIssues rs windows) := by
  refine Listed.flatMap (pairwise_zipIdx rs 0) (fun p _ => listed_ruleIssues windows p.2 p.1) ?_
  intro p q hlt f x g y hf hg
  obtain ⟨k, hk⟩ := hf.rank
  obtain ⟨m, hm⟩ := hg.rank
  exact Finding.before_of_rank (l := [1]) hk hm hlt

end Single

/-- **An audit lists what is due**, in order and each finding once. -/
theorem listed_due (rs : Ruleset) (windows : Option (List Window)) :
    Listed (Due rs windows) (allPairIssues 0 rs ++ allRuleIssues rs windows) := by
  refine ((listed_allPairIssues 0 rs).append (listed_allRuleIssues windows rs) ?_).congr
    fun f x => ⟨?_, fun h => ?_⟩
  · rintro f x g y ⟨p, -, q, -, -, hf⟩ ⟨r, -, hg⟩
    obtain ⟨k, hk⟩ := hf.rank
    obtain ⟨m, hm⟩ := hg.rank
    exact Finding.before_of_rank (l := []) hk hm Nat.one_pos
  · rintro (⟨p, hp, q, hq, hlt, h⟩ | ⟨p, hp, h⟩)
    · exact .pair hlt (List.mem_zipIdx_iff_getElem?.mp hp) (List.mem_zipIdx_iff_getElem?.mp hq) h
    · exact .single (List.mem_zipIdx_iff_getElem?.mp hp) h
  · cases h with
    | @pair i j a b _ _ hlt ha hb h =>
      exact .inl ⟨(a, i), List.mem_zipIdx_iff_getElem?.mpr ha, (b, j),
        List.mem_zipIdx_iff_getElem?.mpr hb, hlt, h⟩
    | @single i r _ _ hr h => exact .inr ⟨(r, i), List.mem_zipIdx_iff_getElem?.mpr hr, h⟩

end WindowRules
