import WindowRules.Proofs.Config.Assignment
import WindowRules.Proofs.Config.Blocks

/-!
# Rules that can be written

A rule can hold any texts, but a config file cannot: a number sign starts a comment, a value ends at
a newline or a closing brace and loses blanks at its ends, and a key is one word that must not be
the key of a field if it is to be kept as an extra.  A rule is *well-formed* if it holds none of
what a file cannot.

The notion is exact.  What is well-formed survives being written and read, and here it is shown that
reading gives nothing else: whatever the text, its words can stand as words and its values as values
(`plain_of_mem_tokens`), and assigning them to a rule keeps it well-formed
(`wellFormed_assignAll`).  So the rules of any text are well-formed (`wellFormed_of_mem_read`).
-/

namespace WindowRules
namespace Config

open Text

/-! ## Words and values -/

/-- A text that can stand as a word of a config file. -/
structure IsWord (w : String) : Prop where
  ne_nil : w.toList ≠ []
  chars : ∀ c ∈ w.toList, isBlank c = false ∧ c ∉ ['{', '}', '=', '#']

/-- A text that can stand as a value of a config file. -/
structure PlainValue (v : String) : Prop where
  chars : ∀ c ∈ v.toList, c ∉ ['\n', '#', '}']
  head : ∀ c ∈ v.toList.head?, c ∉ [' ', '\t']
  last : ∀ c ∈ v.toList.getLast?, isBlank c = false

/-- The keys of fields, those of match fields aside. -/
def fieldKeys : List String :=
  ["tag", "workspace", "opacity", "size", "move", "float", "center", "name"]

/-- A text that can stand as the key of an extra. -/
structure PlainKey (k : String) : Prop where
  isWord : IsWord k
  notMatch : ¬ Directive.matchMark.toList <+: k.toList
  notField : k ∉ fieldKeys

instance : DecidablePred IsWord := fun w =>
  decidable_of_iff (w.toList ≠ [] ∧
      (w.toList.all fun c => !isBlank c && decide (c ∉ ['{', '}', '=', '#'])) = true) <| by
    simp only [List.all_eq_true, Bool.and_eq_true, Bool.not_eq_true', decide_eq_true_eq]
    exact ⟨fun h => ⟨h.1, h.2⟩, fun h => ⟨h.1, h.2⟩⟩

instance : DecidablePred PlainValue := fun v =>
  decidable_of_iff ((v.toList.all fun c => decide (c ∉ ['\n', '#', '}'])) = true ∧
      (v.toList.head?.all fun c => decide (c ∉ [' ', '\t'])) = true ∧
      (v.toList.getLast?.all fun c => !isBlank c) = true) <| by
    simp only [List.all_eq_true, Option.all_eq_true, Bool.not_eq_true', decide_eq_true_eq]
    exact ⟨fun h => ⟨h.1, h.2.1, h.2.2⟩, fun h => ⟨h.1, h.2, h.3⟩⟩

instance : DecidablePred PlainKey := fun k =>
  decidable_of_iff (IsWord k ∧ ¬ Directive.matchMark.toList <+: k.toList ∧ k ∉ fieldKeys)
    ⟨fun h => ⟨h.1, h.2.1, h.2.2⟩, fun h => ⟨h.1, h.2, h.3⟩⟩

theorem prefix_of_matchKey {k : String} {f : MatchField} (h : MatchField.ofKey? k = some f) :
    Directive.matchMark.toList <+: k.toList := by
  unfold MatchField.ofKey? at h
  split at h
  case h_8 => exact absurd h nofun
  all_goals decide

theorem mem_fieldKeys_of_actionKey {k : String} {f : ActionField}
    (h : ActionField.ofKey? k = some f) : k ∈ fieldKeys := by
  unfold ActionField.ofKey? at h
  split at h
  case h_6 => exact absurd h nofun
  all_goals decide

theorem mem_fieldKeys_of_toggleKey {k : String} {t : Toggle} (h : Toggle.ofKey? k = some t) :
    k ∈ fieldKeys := by
  unfold Toggle.ofKey? at h
  split at h
  case h_3 => exact absurd h nofun
  all_goals decide

/-- **A key stands for an extra exactly if it is no key of a field and does not look like one of a
match field.** -/
theorem ofKey_eq_extra_iff {k : String} :
    Directive.ofKey k = .extra ↔ ¬ Directive.matchMark.toList <+: k.toList ∧ k ∉ fieldKeys := by
  constructor
  · intro h
    refine ⟨fun hmatch => ?_, fun hfield => ?_⟩
    · rw [Directive.ofKey] at h
      split at h
      · cases h
      · rw [if_pos (List.isPrefixOf_iff_prefix.mpr hmatch)] at h
        cases h
    · simp only [fieldKeys, List.mem_cons, List.not_mem_nil, or_false] at hfield
      rcases hfield with rfl | rfl | rfl | rfl | rfl | rfl | rfl | rfl <;>
        exact absurd h (by decide)
  · rintro ⟨hmatch, hfield⟩
    have hcriterion : MatchField.ofKey? k = none :=
      Option.eq_none_iff_forall_ne_some.mpr fun f hf => hmatch (prefix_of_matchKey hf)
    have haction : ActionField.ofKey? k = none :=
      Option.eq_none_iff_forall_ne_some.mpr fun f hf => hfield (mem_fieldKeys_of_actionKey hf)
    have htoggle : Toggle.ofKey? k = none :=
      Option.eq_none_iff_forall_ne_some.mpr fun t ht => hfield (mem_fieldKeys_of_toggleKey ht)
    have hname : k ≠ "name" := by
      rintro rfl
      exact hfield (by decide)
    simp only [Directive.ofKey, hcriterion, haction, htoggle, if_neg hname,
      if_neg (mt List.isPrefixOf_iff_prefix.mp hmatch)]

theorem plainKey_iff {k : String} : PlainKey k ↔ IsWord k ∧ Directive.ofKey k = .extra := by
  rw [ofKey_eq_extra_iff]
  exact ⟨fun h => ⟨h.isWord, h.notMatch, h.notField⟩, fun h => ⟨h.1, h.2.1, h.2.2⟩⟩

theorem isWord_matchKey (f : MatchField) : IsWord f.key := by
  cases f <;> decide

theorem isWord_actionKey (f : ActionField) : IsWord f.key := by
  cases f <;> decide

theorem isWord_toggleKey (t : Toggle) : IsWord t.key := by
  cases t <;> decide

theorem isWord_name : IsWord "name" := by
  decide

theorem plainValue_switchText (on : Bool) : PlainValue (switchText on) := by
  cases on <;> decide

end Config

/-! ## Well-formed rules -/

open Config

/-- A rule that a config file can hold. -/
structure Rule.WellFormed (r : Rule) : Prop where
  criteria : ∀ f, ∀ v ∈ r.criteria.get f, PlainValue v
  name : ∀ v ∈ r.name, PlainValue v
  actions : ∀ f, ∀ v ∈ r.actions.get f, PlainValue v
  extras : ∀ e ∈ r.extras, PlainKey e.1 ∧ PlainValue e.2

instance : DecidablePred Rule.WellFormed := fun r =>
  decidable_of_iff
    ((∀ f ∈ MatchField.all, ∀ v ∈ r.criteria.get f, PlainValue v) ∧
      (∀ v ∈ r.name, PlainValue v) ∧ (∀ f ∈ ActionField.all, ∀ v ∈ r.actions.get f, PlainValue v) ∧
      ∀ e ∈ r.extras, PlainKey e.1 ∧ PlainValue e.2)
    ⟨fun h => ⟨fun f => h.1 f (MatchField.mem_all f), h.2.1,
        fun f => h.2.2.1 f (ActionField.mem_all f), h.2.2.2⟩,
      fun h => ⟨fun f _ => h.criteria f, h.name, fun f _ => h.actions f, h.extras⟩⟩

namespace Config

open Text

/-- The lines that a well-formed rule is written with have words for keys and plain values. -/
theorem plain_of_mem_entries {r : Rule} (hr : r.WellFormed) {e : String × String}
    (he : e ∈ entries r) : IsWord e.1 ∧ PlainValue e.2 := by
  rw [entries_eq, List.mem_append] at he
  rcases he with he | he
  · cases mem_fieldEntries.mp he with
    | criterion h => exact ⟨isWord_matchKey _, hr.criteria _ _ h⟩
    | name h => exact ⟨isWord_name, hr.name _ h⟩
    | action h => exact ⟨isWord_actionKey _, hr.actions _ _ h⟩
    | toggle h => exact ⟨isWord_toggleKey _, plainValue_switchText _⟩
  · exact ⟨(hr.extras e he).1.isWord, (hr.extras e he).2⟩

/-- The keys of the extras of a well-formed rule stand for extras. -/
theorem ofKey_of_mem_extras {r : Rule} (hr : r.WellFormed) :
    ∀ e ∈ r.extras, Directive.ofKey e.1 = .extra :=
  fun e he => (plainKey_iff.mp (hr.extras e he).1).2

/-! ## What reading gives -/

theorem plain_of_mem_or {o p : Option String} (ho : ∀ v ∈ o, PlainValue v)
    (hp : ∀ v ∈ p, PlainValue v) : ∀ v ∈ o.or p, PlainValue v := by
  intro v hv
  cases o with
  | none => exact hp v hv
  | some u => exact ho v hv

theorem plain_of_mem_valueFor {e : String × String} (he : PlainValue e.2) (d : Directive) :
    ∀ v ∈ valueFor d e, PlainValue v := by
  intro v hv
  rw [← (valueFor_eq_some_iff.mp hv).2]
  exact he

/-- An assignment of a plain value keeps a rule well-formed. -/
theorem wellFormed_assign {r : Rule} (hr : r.WellFormed) {e : String × String} (hk : IsWord e.1)
    (hv : PlainValue e.2) : (r.assign e.1 e.2).WellFormed where
  criteria f := by
    rw [get_criteria_assign]
    exact plain_of_mem_or (hr.criteria f) (plain_of_mem_valueFor hv _)
  name := by
    rw [name_assign]
    exact plain_of_mem_or hr.name (plain_of_mem_valueFor hv _)
  actions f := by
    rw [get_actions_assign]
    exact plain_of_mem_or (hr.actions f) (plain_of_mem_valueFor hv _)
  extras := by
    intro x hx
    rw [extras_assign, List.mem_append, List.mem_filter, List.mem_singleton] at hx
    rcases hx with hx | ⟨rfl, hextra⟩
    · exact hr.extras x hx
    · exact ⟨plainKey_iff.mpr ⟨hk, of_decide_eq_true hextra⟩, hv⟩

/-- So do any number of them. -/
theorem wellFormed_assignAll {r : Rule} (hr : r.WellFormed) {es : List (String × String)}
    (hes : ∀ e ∈ es, IsWord e.1 ∧ PlainValue e.2) : (assignAll r es).WellFormed := by
  induction es generalizing r with
  | nil => exact hr
  | cons e es ih =>
    have he := hes e List.mem_cons_self
    rw [assignAll_cons]
    exact ih (wellFormed_assign hr he.1 he.2) fun x hx => hes x (List.mem_cons_of_mem e hx)

/-- A token whose text can stand where it stands. -/
def Token.Plain : Token → Prop
  | .word w => IsWord w
  | .value v => PlainValue v
  | _ => True

theorem isWord_ofList_iff {w : List Char} : IsWord (.ofList w) ↔
    w ≠ [] ∧ ∀ c ∈ w, isBlank c = false ∧ c ∉ ['{', '}', '=', '#'] := by
  constructor
  · rintro ⟨hne, hchars⟩
    rw [String.toList_ofList] at hne hchars
    exact ⟨hne, hchars⟩
  · rintro ⟨hne, hchars⟩
    exact ⟨by rwa [String.toList_ofList], by rwa [String.toList_ofList]⟩

theorem plainValue_ofList_iff {v : List Char} : PlainValue (.ofList v) ↔
    (∀ c ∈ v, c ∉ ['\n', '#', '}']) ∧ (∀ c ∈ v.head?, c ∉ [' ', '\t']) ∧
      ∀ c ∈ v.getLast?, isBlank c = false := by
  constructor
  · rintro ⟨hchars, hhead, hlast⟩
    rw [String.toList_ofList] at hchars hhead hlast
    exact ⟨hchars, hhead, hlast⟩
  · rintro ⟨hchars, hhead, hlast⟩
    exact ⟨by rwa [String.toList_ofList], by rwa [String.toList_ofList],
      by rwa [String.toList_ofList]⟩

/-- The text taken for a value, between the blanks dropped in front and those trimmed behind. -/
theorem plainValue_scanned {cs : List Char} (hhash : '#' ∉ cs) : PlainValue
    (.ofList (trimEnd ((cs.dropWhile isValuePadding).takeWhile isValueChar))) := by
  set scanned := (cs.dropWhile isValuePadding).takeWhile isValueChar with hscanned
  have hbegin : trimEnd scanned <+: cs.dropWhile isValuePadding :=
    (trimEnd_isPrefix scanned).trans (List.takeWhile_prefix _)
  refine plainValue_ofList_iff.mpr ⟨fun c hc => ?_, fun c hc => ?_, fun c hc => ?_⟩
  · have hvalue := isValueChar_iff.mp
      (List.mem_takeWhile_imp ((trimEnd_isPrefix scanned).subset hc))
    have hmem : c ∈ cs := (List.dropWhile_sublist _).subset (hbegin.subset hc)
    simp only [List.mem_cons, List.not_mem_nil, or_false, not_or]
    exact ⟨hvalue.1, fun h => hhash (h ▸ hmem), hvalue.2⟩
  · -- the first character left stands where the padding ended
    have hhead : c ∈ (cs.dropWhile isValuePadding).head? := by
      obtain ⟨rest, hrest⟩ := hbegin
      obtain ⟨ds, hds⟩ := List.head?_eq_some_iff.mp hc
      rw [← hrest, hds]
      rfl
    simpa using isValuePadding_eq_false_iff.mp (apply_head_dropWhile hhead)
  · exact isBlank_getLast?_trimEnd hc

/-- **The tokens of a text without comments are plain.** -/
theorem plain_of_mem_tokenize {s : List Char} (hhash : '#' ∉ s) : ∀ t ∈ tokenize s, t.Plain := by
  induction s using tokenize_induction with
  | nil => simp
  | openBrace cs ih =>
    rw [tokenize_openBrace, List.forall_mem_cons]
    exact ⟨trivial, ih fun h => hhash (List.mem_cons_of_mem _ h)⟩
  | closeBrace cs ih =>
    rw [tokenize_closeBrace, List.forall_mem_cons]
    exact ⟨trivial, ih fun h => hhash (List.mem_cons_of_mem _ h)⟩
  | equals cs ih =>
    have hcs : '#' ∉ cs := fun h => hhash (List.mem_cons_of_mem _ h)
    rw [tokenize_equals, List.forall_mem_cons, List.forall_mem_cons]
    refine ⟨trivial, plainValue_scanned hcs, ih fun h => hcs ?_⟩
    exact (List.dropWhile_sublist _).subset ((List.dropWhile_sublist _).subset h)
  | blank c cs hc ih =>
    rw [tokenize_blank hc]
    exact ih fun h => hhash (List.mem_cons_of_mem _ h)
  | word c cs hc ih =>
    have hcs : '#' ∉ cs := fun h => hhash (List.mem_cons_of_mem _ h)
    rw [tokenize_word hc, List.forall_mem_cons]
    refine ⟨isWord_ofList_iff.mpr ⟨List.cons_ne_nil _ _, fun d hd => ?_⟩,
      ih fun h => hcs ((List.dropWhile_sublist _).subset h)⟩
    have hword : isWordChar d = true ∧ d ≠ '#' := by
      rcases List.mem_cons.mp hd with rfl | hd
      · exact ⟨hc, by rintro rfl; exact hhash List.mem_cons_self⟩
      · have hmem : d ∈ cs := (List.takeWhile_sublist _).subset hd
        exact ⟨List.mem_takeWhile_imp hd, by rintro rfl; exact hcs hmem⟩
    obtain ⟨hblank, hopen, hclose, hequals⟩ := isWordChar_iff.mp hword.1
    simpa using ⟨hblank, hopen, hclose, hequals, hword.2⟩

/-- **The tokens of a text are plain.** -/
theorem plain_of_mem_tokens {s : List Char} {t : Token} (ht : t ∈ tokens s) : t.Plain := by
  rw [tokens_eq_flatMap_lineTokens, List.mem_flatMap] at ht
  obtain ⟨l, -, ht⟩ := ht
  refine plain_of_mem_tokenize (fun hhash => ?_) t ht
  exact absurd (List.mem_takeWhile_imp hhash) (by decide)

/-- The key and the value of an assignment are tokens of the body. -/
theorem mem_of_mem_assignments {depth : Nat} {ts : List Token} {e : String × String}
    (he : e ∈ assignments depth ts) : .word e.1 ∈ ts ∧ .value e.2 ∈ ts := by
  induction depth, ts using assignments.induct with
  | case1 depth => exact absurd he (by simp [assignments])
  | case2 depth ts ih | case3 depth ts ih =>
    rw [assignments] at he
    exact ⟨List.mem_cons_of_mem _ (ih he).1, List.mem_cons_of_mem _ (ih he).2⟩
  | case4 key v ts ih =>
    rw [assignments, if_pos rfl, List.mem_cons] at he
    rcases he with rfl | he
    · simp
    · simp [ih he]
  | case5 depth key v ts hdepth ih =>
    rw [assignments, if_neg hdepth] at he
    simp [ih he]
  | case6 depth t ts hopen hclose hassign ih =>
    rw [assignments.eq_5 _ _ _ hopen hclose hassign] at he
    exact ⟨List.mem_cons_of_mem _ (ih he).1, List.mem_cons_of_mem _ (ih he).2⟩

/-- The tokens of a body are tokens of the text. -/
theorem subset_of_mem_bodies {ts body : List Token} (h : body ∈ bodies ts) : body ⊆ ts := by
  induction ts using blocks_induction with
  | nil => exact absurd h (by simp)
  | closed ts n hn ih =>
    have hsub : ts ⊆ .word blockWord :: .openBrace :: ts :=
      (List.suffix_append [_, _] ts).subset
    rw [bodies_of_findClose? hn, List.mem_cons] at h
    rcases h with rfl | h
    · exact List.Subset.trans (List.take_subset n ts) hsub
    · exact List.Subset.trans (ih h) (List.Subset.trans (List.drop_subset _ ts) hsub)
  | unclosed ts hn ih =>
    rw [bodies_of_unclosed hn] at h
    exact List.Subset.trans (ih h) (List.suffix_append [_, _] ts).subset
  | other t ts ht ih =>
    rw [bodies_cons ht] at h
    exact List.Subset.trans (ih h) (List.subset_cons_self t ts)

/-- **Reading gives well-formed rules only.** -/
theorem wellFormed_of_mem_read {s : String} {r : Rule} (hr : r ∈ read s) : r.WellFormed := by
  rw [read_eq_map_bodies, List.mem_map] at hr
  obtain ⟨body, hbody, rfl⟩ := hr
  have hempty : ({} : Rule).WellFormed := by decide
  refine wellFormed_assignAll hempty fun e he => ?_
  obtain ⟨hkey, hvalue⟩ := mem_of_mem_assignments he
  have hsub := subset_of_mem_bodies hbody
  exact ⟨plain_of_mem_tokens (hsub hkey), plain_of_mem_tokens (hsub hvalue)⟩

end Config
end WindowRules
