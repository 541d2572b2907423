import WindowRules.Proofs.Config.Overwriting
import WindowRules.Proofs.Config.RoundTrip

/-!
# Blocks with groups in them

The body of a block is written line by line, and it may hold groups: a word with braces behind it,
and between these braces any text whose own braces are balanced.  What such a block means does not
depend on its groups, however deep these are nested and whatever they hold, blocks of rules
included.  Only its directives count, the lines that stand outside all groups.

The block of a list of items is `itemsText`, and `read_itemsText` says what it is read as: the one
rule that the strict edits give if they are made for the directives from the last to the first,
refused ones being passed over, with all directives as its extras whose keys stand for extras.

The proof has two halves.

*Text.*  Each item has its own tokens (`Item.tokens_text`).  For a group this means to cut a text at
a brace, where no newline is.  A brace may be cut off in front since what stands before it has no
comment (`tokens_append_of_lineTokens`), and behind if it is not in a comment itself
(`tokens_concat_closeBrace`).

*Tokens.*  The tokens of an item are balanced, so the block ends at its own closing brace and at no
other.  Then the assignments inside a group are not counted, since the depth is not zero there, and
behind the group it is what it was before (`assignments_group`).
-/

namespace WindowRules
namespace Config

open Text

/-! ## Balanced tokens -/

theorem balanced_nil : Balanced [] := balanced_of_forall (List.forall_mem_nil _)

theorem Balanced.append {ts us : List Token} (hts : Balanced ts) (hus : Balanced us) :
    Balanced (ts ++ us) where
  opening := by
    rw [opening_iff_findClose?]
    exact findClose?_append_of_opening (hts.opening.findClose?_eq_none 0) hus.opening
  count_eq := by rw [List.count_append, List.count_append, hts.count_eq, hus.count_eq]

/-- The tokens of a group: a word and, between braces, the tokens of what the group holds. -/
def groupTokens (word : String) (ts : List Token) : List Token :=
  .word word :: .openBrace :: (ts ++ [.closeBrace])

theorem Balanced.group {ts : List Token} (h : Balanced ts) (word : String) :
    Balanced (groupTokens word ts) where
  opening := by
    -- the last brace closes the one in front, and so it is not one too many
    have hclose : findClose? 1 (ts ++ [.closeBrace]) = none := by
      rw [findClose?_append_of_none (h.opening.findClose?_eq_none 1), h.count_eq,
        Nat.add_sub_cancel]
      rfl
    rw [opening_iff_findClose?, groupTokens, findClose?_cons (t := .word word) (by simp) (by simp),
      findClose?, hclose]
    rfl
  count_eq := by simp [groupTokens, h.count_eq]

theorem balanced_entryTokens (e : String × String) : Balanced (entryTokens e) := by
  have h := balanced_flatMap_entryTokens [e]
  rwa [List.flatMap_cons, List.flatMap_nil, List.append_nil] at h

/-! ## Assignments outside groups -/

/-- Inside braces a token that is no brace is passed over, even if an assignment starts with it. -/
theorem assignments_cons {depth : Nat} (hdepth : depth ≠ 0) {t : Token} (hopen : t ≠ .openBrace)
    (hclose : t ≠ .closeBrace) (ts : List Token) :
    assignments depth (t :: ts) = assignments depth ts := by
  by_cases hentry : ∃ key v us, t = .word key ∧ ts = .equals :: .value v :: us
  · obtain ⟨key, v, us, rfl, rfl⟩ := hentry
    rw [assignments, if_neg hdepth, assignments, assignments] <;> simp
  · rw [assignments.eq_5 depth t ts hopen hclose]
    intro key v us hkey hus
    exact hentry ⟨key, v, us, hkey, hus⟩

/-- Inside braces nothing is assigned.  As long as the braces around it are not closed, a list of
tokens only changes how deep what follows lies. -/
theorem assignments_append_closeBrace {depth : Nat} {ts : List Token}
    (h : findClose? depth ts = none)
    (us : List Token) : assignments (depth + 1) (ts ++ .closeBrace :: us) =
      assignments (depth + ts.count .openBrace - ts.count .closeBrace) us := by
  induction depth, ts using findClose?.induct with
  | case1 depth =>
    rw [List.nil_append, assignments, Nat.add_sub_cancel]
    rfl
  | case2 depth ts ih =>
    rw [findClose?, Option.map_eq_none_iff] at h
    rw [List.cons_append, assignments, ih h, List.count_cons_self,
      List.count_cons_of_ne (by decide)]
    congr 1
    omega
  | case3 ts => exact absurd h (by simp [findClose?])
  | case4 ts depth ih =>
    rw [findClose?, Option.map_eq_none_iff] at h
    rw [List.cons_append, assignments, Nat.add_sub_cancel, ih h, List.count_cons_self,
      List.count_cons_of_ne (by decide)]
    congr 1
    omega
  | case5 depth t ts hopen hclose ih =>
    rw [findClose?_cons hopen hclose, Option.map_eq_none_iff] at h
    rw [List.cons_append, assignments_cons (Nat.succ_ne_zero depth) hopen hclose, ih h,
      List.count_cons_of_ne hopen, List.count_cons_of_ne hclose]

/-- **A group assigns nothing.** -/
theorem assignments_group {ts : List Token} (h : Balanced ts) (word : String) (us : List Token) :
    assignments 0 (groupTokens word ts ++ us) = assignments 0 us := by
  calc assignments 0 (groupTokens word ts ++ us)
      = assignments 0 (.openBrace :: (ts ++ .closeBrace :: us)) := by
        rw [groupTokens, List.cons_append, List.cons_append, List.append_assoc,
          List.singleton_append]
        exact assignments.eq_5 0 (.word word) _ (by simp) (by simp) (by simp)
    _ = assignments (0 + 1) (ts ++ .closeBrace :: us) := by rw [assignments]
    _ = assignments 0 us := by
        rw [assignments_append_closeBrace (h.opening.findClose?_eq_none 0), h.count_eq,
          Nat.zero_add, Nat.sub_self]

theorem assignments_entry (e : String × String) (us : List Token) :
    assignments 0 (entryTokens e ++ us) = e :: assignments 0 us := by
  rw [entryTokens, List.cons_append, List.cons_append, List.cons_append, List.nil_append,
    assignments, if_pos rfl]

/-! ## Cutting at a brace -/

/-- A text may be cut in a line, if the line that ends there is cut the same way whatever it goes on
with. -/
theorem tokens_append_of_lineTokens {l : List Char} (hnewline : '\n' ∉ l) {ts : List Token}
    (h : ∀ m, lineTokens (l ++ m) = ts ++ lineTokens m) (s : List Char) :
    tokens (l ++ s) = ts ++ tokens s := by
  have hline : ∀ m, '\n' ∉ m → tokens (l ++ m) = ts ++ tokens m := by
    intro m hm
    have happend : '\n' ∉ l ++ m := by
      rw [List.mem_append, not_or]
      exact ⟨hnewline, hm⟩
    rw [tokens_of_notMem happend, tokens_of_notMem hm, h]
  by_cases hs : '\n' ∈ s
  · obtain ⟨m, s, rfl, hm⟩ := List.eq_append_cons_of_mem hs
    rw [← List.append_assoc, tokens_append_newline, hline m hm, List.append_assoc,
      tokens_append_newline]
  · exact hline s hs

/-- What stands behind the last newline of a text. -/
def lastLine (s : List Char) : List Char := s.rtakeWhile (· != '\n')

theorem lastLine_of_notMem {l : List Char} (h : '\n' ∉ l) : lastLine l = l := by
  rw [lastLine, List.rtakeWhile_eq_self_iff]
  exact fun c hc => bne_iff_ne.mpr (ne_of_mem_of_not_mem hc h)

theorem lastLine_append_newline {l : List Char} (h : '\n' ∉ l) (s : List Char) :
    lastLine (s ++ '\n' :: l) = l := by
  have hreverse : (s ++ '\n' :: l).reverse = l.reverse ++ '\n' :: s.reverse := by simp
  have hl : ∀ c ∈ l.reverse, (c != '\n') = true :=
    fun c hc => bne_iff_ne.mpr (ne_of_mem_of_not_mem (List.mem_reverse.mp hc) h)
  rw [lastLine, List.rtakeWhile, hreverse, takeWhile_append_cons_of_all hl (by decide),
    List.reverse_reverse]

theorem exists_eq_append_newline {s : List Char} (h : '\n' ∈ s) :
    ∃ t l, s = t ++ '\n' :: l ∧ '\n' ∉ l := by
  obtain ⟨l, t, hs, hl⟩ := List.eq_append_cons_of_mem (List.mem_reverse.mpr h)
  refine ⟨t.reverse, l.reverse, ?_, mt List.mem_reverse.mp hl⟩
  rw [← List.reverse_reverse s, hs]
  simp

theorem lineTokens_concat_closeBrace {l : List Char} (h : '#' ∉ l) :
    lineTokens (l ++ ['}']) = lineTokens l ++ [.closeBrace] := by
  have hhash : '#' ∉ l ++ ['}'] := by simp [h]
  rw [lineTokens_eq_tokenize hhash, lineTokens_eq_tokenize h, tokenize_append_cons (by decide),
    tokenize_closeBrace, tokenize_nil]

/-- **A closing brace behind a text is a token of its own**, unless it is in a comment. -/
theorem tokens_concat_closeBrace {s : List Char} (h : '#' ∉ lastLine s) :
    tokens (s ++ ['}']) = tokens s ++ [.closeBrace] := by
  have hline : ∀ l, '\n' ∉ l → '#' ∉ l → tokens (l ++ ['}']) = tokens l ++ [.closeBrace] := by
    intro l hl hhash
    have happend : '\n' ∉ l ++ ['}'] := by simp [hl]
    rw [tokens_of_notMem happend, tokens_of_notMem hl, lineTokens_concat_closeBrace hhash]
  by_cases hs : '\n' ∈ s
  · obtain ⟨t, l, rfl, hl⟩ := exists_eq_append_newline hs
    rw [lastLine_append_newline hl] at h
    rw [List.append_assoc, List.cons_append, tokens_append_newline, hline l hl h,
      tokens_append_newline, List.append_assoc]
  · rw [lastLine_of_notMem hs] at h
    exact hline s hs h

/-- A word with an opening brace behind it has its own two tokens. -/
theorem tokens_word_openBrace_append {word : String} (hword : IsWord word) (s : List Char) :
    tokens (word.toList ++ ' ' :: '{' :: s) = .word word :: .openBrace :: tokens s := by
  have hwordNewline : '\n' ∉ word.toList := hword.notMem (.inl (by decide))
  have hwordHash : '#' ∉ word.toList := hword.notMem (.inr (by decide))
  have hnewline : '\n' ∉ word.toList ++ [' ', '{'] := by simp [hwordNewline]
  have hhash : '#' ∉ word.toList ++ [' ', '{'] := by simp [hwordHash]
  have hcode : ∀ c ∈ word.toList ++ [' ', '{'], (c != '#') = true :=
    fun c hc => bne_iff_ne.mpr (ne_of_mem_of_not_mem hc hhash)
  have hline : ∀ m, lineTokens ((word.toList ++ [' ', '{']) ++ m) =
      [.word word, .openBrace] ++ lineTokens m := by
    intro m
    rw [lineTokens, List.takeWhile_append_of_pos hcode, List.append_assoc]
    exact (tokenize_word_append hword _).trans (congrArg _ (tokenize_openBrace _))
  have h := tokens_append_of_lineTokens hnewline hline s
  rwa [List.append_assoc] at h

/-- **A group has the tokens of a group**, if its closing brace is not in a comment. -/
theorem tokens_group {word : String} (hword : IsWord word) {s : List Char} (hs : '#' ∉ lastLine s) :
    tokens (word.toList ++ ' ' :: '{' :: (s ++ ['}'])) = groupTokens word (tokens s) := by
  rw [tokens_word_openBrace_append hword, tokens_concat_closeBrace hs, groupTokens]

/-- A directive has the three tokens of an assignment. -/
theorem tokens_directive {e : String × String} (hkey : IsWord e.1) (hvalue : PlainValue e.2) :
    tokens (e.1.toList ++ ' ' :: '=' :: ' ' :: e.2.toList) = entryTokens e := by
  have hnewline : '\n' ∉ e.1.toList ++ ' ' :: '=' :: ' ' :: e.2.toList := by
    have hk : '\n' ∉ e.1.toList := hkey.notMem (.inl (by decide))
    have hv : '\n' ∉ e.2.toList := fun hmem => hvalue.chars _ hmem (by decide)
    simp [hk, hv]
  have hhash : '#' ∉ e.1.toList ++ ' ' :: '=' :: ' ' :: e.2.toList := by
    have hk : '#' ∉ e.1.toList := hkey.notMem (.inr (by decide))
    have hv : '#' ∉ e.2.toList := fun hmem => hvalue.chars _ hmem (by decide)
    simp [hk, hv]
  rw [tokens_eq_tokenize hnewline hhash, tokenize_word_append hkey, tokenize_plainValue hvalue]
  rfl

/-! ## Items -/

/-- What the body of a block is made of. -/
inductive Item where
  /-- A line with a key and a value. -/
  | directive (key value : String)
  /-- A group whose braces end its first line and stand on its last. -/
  | group (word inner : String)
  /-- A group whose braces stand right around what it holds. -/
  | tightGroup (word inner : String)

namespace Item

/-- An item as it is written. -/
def text : Item → String
  | .directive key value => key ++ " = " ++ value
  | .group word inner => word ++ " \x7b\n" ++ inner ++ "\n\x7d"
  | .tightGroup word inner => word ++ " \x7b" ++ inner ++ "\x7d"

/-- Whether the parts of an item can stand where they are put.  What a group holds may be any text
with balanced braces; if the closing brace stands right behind it, the text must not end in a
comment. -/
def Plain : Item → Prop
  | .directive key value => IsWord key ∧ PlainValue value
  | .group word inner => IsWord word ∧ Balanced (tokens inner.toList)
  | .tightGroup word inner =>
    IsWord word ∧ Balanced (tokens inner.toList) ∧ '#' ∉ lastLine inner.toList

instance : DecidablePred Plain
  | .directive key value => inferInstanceAs (Decidable (IsWord key ∧ PlainValue value))
  | .group word inner => inferInstanceAs (Decidable (IsWord word ∧ Balanced (tokens inner.toList)))
  | .tightGroup word inner => inferInstanceAs (Decidable
      (IsWord word ∧ Balanced (tokens inner.toList) ∧ '#' ∉ lastLine inner.toList))

/-- The key and the value of a directive. -/
def entry? : Item → Option (String × String)
  | .directive key value => some (key, value)
  | _ => none

/-- The tokens of an item. -/
def itemTokens : Item → List Token
  | .directive key value => entryTokens (key, value)
  | .group word inner | .tightGroup word inner => groupTokens word (tokens inner.toList)

/-- **An item has its own tokens.** -/
theorem tokens_text {i : Item} (h : i.Plain) : tokens i.text.toList = i.itemTokens := by
  cases i with
  | directive key value =>
    have hchars : (text (.directive key value)).toList =
        key.toList ++ ' ' :: '=' :: ' ' :: value.toList := by
      simp [text]
    rw [hchars]
    exact tokens_directive (e := (key, value)) h.1 h.2
  | group word inner =>
    have hchars : (text (.group word inner)).toList =
        word.toList ++ ' ' :: '{' :: (('\n' :: (inner.toList ++ '\n' :: [])) ++ ['}']) := by
      simp [text]
    -- the newlines around what the group holds have no tokens, and the second ends its last comment
    have hinner : tokens ('\n' :: (inner.toList ++ '\n' :: [])) = tokens inner.toList := by
      rw [← List.nil_append ('\n' :: _), tokens_append_newline, tokens_append_newline, tokens_nil,
        List.nil_append, List.append_nil]
    have hlast : '#' ∉ lastLine ('\n' :: (inner.toList ++ '\n' :: [])) := by
      rw [← List.cons_append, lastLine_append_newline List.not_mem_nil]
      exact List.not_mem_nil
    rw [hchars, tokens_group h.1 hlast, hinner]
    rfl
  | tightGroup word inner =>
    have hchars : (text (.tightGroup word inner)).toList =
        word.toList ++ ' ' :: '{' :: (inner.toList ++ ['}']) := by
      simp [text]
    rw [hchars, tokens_group h.1 h.2.2]
    rfl

theorem balanced_itemTokens {i : Item} (h : i.Plain) : Balanced i.itemTokens := by
  cases i with
  | directive key value => exact balanced_entryTokens (key, value)
  | group word inner => exact h.2.group word
  | tightGroup word inner => exact h.2.1.group word

theorem assignments_itemTokens_append {i : Item} (h : i.Plain) (us : List Token) :
    assignments 0 (i.itemTokens ++ us) = i.entry?.toList ++ assignments 0 us := by
  cases i with
  | directive key value => exact assignments_entry (key, value) us
  | group word inner => exact assignments_group h.2 word us
  | tightGroup word inner => exact assignments_group h.2.1 word us

end Item

/-! ## A block of items -/

/-- The keys and values of all directives. -/
def directives (items : List Item) : List (String × String) := items.filterMap Item.entry?

/-- A block whose body is made of items, each on its own lines. -/
def itemsText (items : List Item) : String :=
  "windowrule \x7b\n" ++ String.join (items.map fun i => i.text ++ "\n") ++ "\x7d"

section Items

variable {items : List Item} (h : ∀ i ∈ items, i.Plain)
include h

theorem tokens_items_append (s : List Char) :
    tokens ((String.join (items.map fun i => i.text ++ "\n")).toList ++ s) =
      items.flatMap Item.itemTokens ++ tokens s := by
  induction items with
  | nil => rfl
  | cons i items ih =>
    rw [List.forall_mem_cons] at h
    have hchars : (String.join ((i :: items).map fun i => i.text ++ "\n")).toList ++ s =
        i.text.toList ++ '\n' ::
          ((String.join (items.map fun i => i.text ++ "\n")).toList ++ s) := by
      simp [String.join_cons]
    rw [hchars, tokens_append_newline, Item.tokens_text h.1, ih h.2, List.flatMap_cons,
      List.append_assoc]

theorem balanced_flatMap_itemTokens : Balanced (items.flatMap Item.itemTokens) := by
  induction items with
  | nil => exact balanced_nil
  | cons i items ih =>
    rw [List.forall_mem_cons] at h
    rw [List.flatMap_cons]
    exact (Item.balanced_itemTokens h.1).append (ih h.2)

theorem assignments_flatMap_itemTokens :
    assignments 0 (items.flatMap Item.itemTokens) = directives items := by
  induction items with
  | nil => rw [List.flatMap_nil, assignments, directives, List.filterMap_nil]
  | cons i items ih =>
    rw [List.forall_mem_cons] at h
    rw [List.flatMap_cons, Item.assignments_itemTokens_append h.1, ih h.2]
    cases i <;> rfl

/-- The tokens of a block are its head, the tokens of its items, and its closing brace. -/
theorem tokens_itemsText : tokens (itemsText items).toList =
    .word blockWord :: .openBrace :: (items.flatMap Item.itemTokens ++ [.closeBrace]) := by
  have hchars : (itemsText items).toList = "windowrule \x7b".toList ++ '\n' ::
      ((String.join (items.map fun i => i.text ++ "\n")).toList ++ "\x7d".toList) := by
    simp [itemsText]
  rw [hchars, tokens_append_newline, tokens_items_append h, tokens_blockHead, tokens_blockFoot]
  rfl

/-- **What a block is read as.**  A block of items is one rule.  Its fields are those that the
strict edits give, made for the directives from the last to the first and passed over where they are
refused; its extras are the directives whose keys stand for extras, in their order and as often as
they stand there.  Groups add nothing. -/
theorem read_itemsText : read (itemsText items) =
    [{ overwriteAll {} (directives items).reverse with
        extras := (directives items).filter isExtra }] := by
  have hbodies : bodies (tokens (itemsText items).toList) = [items.flatMap Item.itemTokens] := by
    rw [tokens_itemsText h, bodies_block (balanced_flatMap_itemTokens h), bodies_nil]
  rw [read_eq_map_bodies, hbodies, List.map_cons, List.map_nil, readBody,
    assignments_flatMap_itemTokens h, assignAll_eq_overwriteAll_reverse]

end Items

/-- Directives with all that may happen to them: a toggle that is first not understood, a match
field given by both of its keys, a match field that does not exist, an extra given twice.  The
groups among them hold a block of a rule, comments with braces in them, and nothing. -/
def nestedItems : List Item :=
  [.directive "float" "maybe", .directive "match:initialClass" "a \x7b = b",
   .group "windowrule" "name = inner # \x7d\nwindowrule \x7b float = no \x7d\n# \x7b",
   .directive "float" "yes", .directive "k" "c", .tightGroup "k" "name = d\n# \x7d\n\n",
   .directive "match:initial_class" "e", .directive "match:color" "f", .tightGroup "w" "",
   .directive "k" "c", .directive "name" "", .directive "float" "no"]

theorem read_itemsText_nestedItems : (∀ i ∈ nestedItems, i.Plain) ∧ read (itemsText nestedItems) =
    [{ name := some "", criteria := { initialClass := some "a \x7b = b" },
       actions := { float := some true }, extras := [("k", "c"), ("k", "c")] }] := by
  have h : ∀ i ∈ nestedItems, i.Plain := by
    decide +kernel
  exact ⟨h, (read_itemsText h).trans (by decide +kernel)⟩

end Config
end WindowRules
