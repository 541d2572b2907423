import WindowRules.Config.Reader
import WindowRules.Proofs.Config.Tokens

/-!
# Blocks of a list of tokens

`locateBlocks` speaks of places in a list of tokens.  Proofs speak of the bodies themselves:
`bodies` goes through the tokens as the search for blocks does and keeps what it finds
(`readTokens_eq_map_bodies`).

## Why an open block hides nothing

The search looks ahead from the head of a block to the end of the file, so whether there is a block
depends on all that follows.  What it looks for is a closing brace too many, and
`findClose?_eq_none_iff` says so without the search: there is none exactly if no beginning of the
tokens closes more braces than it opens.  A list of this kind is `Opening`.  Put after any tokens,
it closes no brace that they left open (`findClose?_append_of_opening`), so the head of a block left
open stays one, and its search goes on behind the head as before.  That is `bodies_append`: two
lists of tokens have the blocks of the first and then those of the second.
-/

namespace WindowRules
namespace Config

/-! ## The closing brace -/

/-- No beginning of the tokens closes more braces than it opens. -/
def Opening (ts : List Token) : Prop :=
  ∀ us, us <+: ts → us.count .closeBrace ≤ us.count .openBrace

/-- A token that is no brace is passed over. -/
theorem findClose?_cons {t : Token} (hopen : t ≠ .openBrace) (hclose : t ≠ .closeBrace)
    (depth : Nat) (ts : List Token) :
    findClose? depth (t :: ts) = (findClose? depth ts).map (· + 1) :=
  findClose?.eq_5 depth t ts hopen hclose

/-- What holds of all beginnings of a list holds of the empty one and, after its first element, of
all beginnings of the rest. -/
theorem forall_prefix_cons_iff {α : Type*} {P : List α → Prop} {x : α} {xs : List α} :
    (∀ us, us <+: x :: xs → P us) ↔ P [] ∧ ∀ us, us <+: xs → P (x :: us) := by
  constructor
  · intro h
    exact ⟨h [] List.nil_prefix, fun us hus => h _ ((List.prefix_cons_inj x).mpr hus)⟩
  · rintro ⟨hnil, hcons⟩ us hus
    rcases List.prefix_cons_iff.mp hus with rfl | ⟨vs, rfl, hvs⟩
    · exact hnil
    · exact hcons vs hvs

/-- **What the search for a closing brace misses.**  There is none exactly if no beginning of the
tokens closes all that it opens, the `depth` braces that were open before, and one more. -/
theorem findClose?_eq_none_iff (depth : Nat) (ts : List Token) :
    findClose? depth ts = none ↔
      ∀ us, us <+: ts → us.count .closeBrace ≤ us.count .openBrace + depth := by
  induction depth, ts using findClose?.induct with
  | case1 depth => simp [findClose?]
  | case2 depth ts ih =>
    rw [findClose?, Option.map_eq_none_iff, ih, forall_prefix_cons_iff]
    have hstep : ∀ us : List Token,
        (Token.openBrace :: us).count .closeBrace ≤
          (Token.openBrace :: us).count .openBrace + depth ↔
          us.count .closeBrace ≤ us.count .openBrace + (depth + 1) := by
      intro us
      rw [List.count_cons_of_ne (by decide), List.count_cons_self]
      omega
    simp only [hstep, List.count_nil, Nat.zero_le, true_and]
  | case3 ts =>
    rw [findClose?]
    refine ⟨fun h => absurd h (by simp), fun h => ?_⟩
    exact absurd (h [.closeBrace] (List.prefix_append [_] ts)) (by decide)
  | case4 ts depth ih =>
    rw [findClose?, Option.map_eq_none_iff, ih, forall_prefix_cons_iff]
    have hstep : ∀ us : List Token,
        (Token.closeBrace :: us).count .closeBrace ≤
            (Token.closeBrace :: us).count .openBrace + (depth + 1) ↔
          us.count .closeBrace ≤ us.count .openBrace + depth := by
      intro us
      rw [List.count_cons_self, List.count_cons_of_ne (by decide)]
      omega
    simp only [hstep, List.count_nil, Nat.zero_le, true_and]
  | case5 depth t ts hopen hclose ih =>
    rw [findClose?_cons hopen hclose, Option.map_eq_none_iff, ih, forall_prefix_cons_iff]
    simp only [List.count_cons_of_ne hopen, List.count_cons_of_ne hclose, List.count_nil,
      Nat.zero_le, true_and]

theorem opening_iff_findClose? (ts : List Token) : Opening ts ↔ findClose? 0 ts = none :=
  (findClose?_eq_none_iff 0 ts).symm

instance : DecidablePred Opening := fun ts => decidable_of_iff _ (opening_iff_findClose? ts).symm

/-- A closing brace that is found is one of the tokens. -/
theorem findClose?_lt_length {depth : Nat} {ts : List Token} {n : Nat}
    (h : findClose? depth ts = some n) : n < ts.length := by
  induction depth, ts using findClose?.induct generalizing n with
  | case1 depth => exact absurd h (by simp [findClose?])
  | case2 depth ts ih | case4 ts depth ih =>
    rw [findClose?] at h
    obtain ⟨m, hm, rfl⟩ := Option.map_eq_some_iff.mp h
    exact Nat.succ_lt_succ (ih hm)
  | case3 ts =>
    rw [findClose?] at h
    rw [← Option.some.inj h]
    exact Nat.succ_pos _
  | case5 depth t ts hopen hclose ih =>
    rw [findClose?_cons hopen hclose] at h
    obtain ⟨m, hm, rfl⟩ := Option.map_eq_some_iff.mp h
    exact Nat.succ_lt_succ (ih hm)

/-- A closing brace that is found is found whatever follows. -/
theorem findClose?_append_of_some {depth : Nat} {ts : List Token} {n : Nat}
    (h : findClose? depth ts = some n) (us : List Token) :
    findClose? depth (ts ++ us) = some n := by
  induction depth, ts using findClose?.induct generalizing n with
  | case1 depth => exact absurd h (by simp [findClose?])
  | case2 depth ts ih | case4 ts depth ih =>
    rw [findClose?] at h
    obtain ⟨m, hm, rfl⟩ := Option.map_eq_some_iff.mp h
    rw [List.cons_append, findClose?, ih hm]
    rfl
  | case3 ts =>
    rw [findClose?] at h
    rw [List.cons_append, findClose?, h]
  | case5 depth t ts hopen hclose ih =>
    rw [findClose?_cons hopen hclose] at h
    obtain ⟨m, hm, rfl⟩ := Option.map_eq_some_iff.mp h
    rw [List.cons_append, findClose?_cons hopen hclose, ih hm]
    rfl

/-- A search that finds nothing in some tokens goes on behind them, with the braces open that they
leave open. -/
theorem findClose?_append_of_none {depth : Nat} {ts : List Token}
    (h : findClose? depth ts = none) (us : List Token) :
    findClose? depth (ts ++ us) =
      (findClose? (depth + ts.count .openBrace - ts.count .closeBrace) us).map (· + ts.length) := by
  induction depth, ts using findClose?.induct with
  | case1 depth => simp
  | case2 depth ts ih =>
    rw [findClose?, Option.map_eq_none_iff] at h
    rw [List.cons_append, findClose?, ih h, Option.map_map, List.count_cons_self,
      List.count_cons_of_ne (by decide), List.length_cons, Nat.add_right_comm depth, Nat.add_assoc]
    rfl
  | case3 ts => exact absurd h (by simp [findClose?])
  | case4 ts depth ih =>
    rw [findClose?, Option.map_eq_none_iff] at h
    rw [List.cons_append, findClose?, ih h, Option.map_map, List.count_cons_self,
      List.count_cons_of_ne (by decide), List.length_cons, Nat.succ_add, Nat.succ_sub_succ]
    rfl
  | case5 depth t ts hopen hclose ih =>
    rw [findClose?_cons hopen hclose, Option.map_eq_none_iff] at h
    rw [List.cons_append, findClose?_cons hopen hclose, ih h, Option.map_map,
      List.count_cons_of_ne hopen, List.count_cons_of_ne hclose, List.length_cons]
    rfl

/-- In opening tokens there is no closing brace for a brace before them. -/
theorem Opening.findClose?_eq_none {ts : List Token} (h : Opening ts) (depth : Nat) :
    findClose? depth ts = none := by
  rw [findClose?_eq_none_iff]
  intro us hus
  exact (h us hus).trans (Nat.le_add_right _ _)

/-- **Opening tokens close no brace that was left open before them.** -/
theorem findClose?_append_of_opening {depth : Nat} {ts us : List Token}
    (hts : findClose? depth ts = none) (hus : Opening us) : findClose? depth (ts ++ us) = none := by
  rw [findClose?_append_of_none hts, hus.findClose?_eq_none, Option.map_none]

/-- Every brace that the tokens open they close, and no other. -/
structure Balanced (ts : List Token) : Prop where
  opening : Opening ts
  count_eq : ts.count .openBrace = ts.count .closeBrace

instance : DecidablePred Balanced := fun ts =>
  decidable_of_iff (Opening ts ∧ ts.count .openBrace = ts.count .closeBrace)
    ⟨fun h => ⟨h.1, h.2⟩, fun h => ⟨h.opening, h.count_eq⟩⟩

/-- Tokens without braces are balanced. -/
theorem balanced_of_forall {ts : List Token} (h : ∀ t ∈ ts, t ≠ .openBrace ∧ t ≠ .closeBrace) :
    Balanced ts := by
  have hopen : ts.count .openBrace = 0 := List.count_eq_zero.mpr fun hmem => (h _ hmem).1 rfl
  have hclose : ts.count .closeBrace = 0 := List.count_eq_zero.mpr fun hmem => (h _ hmem).2 rfl
  refine ⟨fun us hus => ?_, hopen.trans hclose.symm⟩
  have := hus.sublist.count_le .closeBrace
  omega

/-- The closing brace after balanced tokens is the one that the search finds. -/
theorem Balanced.findClose?_append {ts : List Token} (h : Balanced ts) (us : List Token) :
    findClose? 0 (ts ++ .closeBrace :: us) = some ts.length := by
  rw [findClose?_append_of_none (h.opening.findClose?_eq_none 0), h.count_eq, Nat.zero_add,
    Nat.sub_self, findClose?, Option.map_some, Nat.zero_add]

/-! ## Bodies -/

/-- The bodies of all blocks, as lists of tokens. -/
def bodies : List Token → List (List Token)
  | [] => []
  | .word w :: .openBrace :: ts =>
    if w = blockWord then
      match findClose? 0 ts with
      | some n => ts.take n :: bodies (ts.drop (n + 1))
      | none => bodies ts
    else bodies (.openBrace :: ts)
  | _ :: ts => bodies ts
termination_by ts => ts.length

/-- Whether tokens start with the head of a block. -/
def StartsBlock (t : Token) (ts : List Token) : Prop :=
  t = .word blockWord ∧ ts.head? = some .openBrace

@[simp] theorem bodies_nil : bodies [] = [] := by
  rw [bodies]

theorem bodies_of_findClose? {ts : List Token} {n : Nat} (h : findClose? 0 ts = some n) :
    bodies (.word blockWord :: .openBrace :: ts) = ts.take n :: bodies (ts.drop (n + 1)) := by
  rw [bodies, if_pos rfl, h]

theorem bodies_of_unclosed {ts : List Token} (h : findClose? 0 ts = none) :
    bodies (.word blockWord :: .openBrace :: ts) = bodies ts := by
  rw [bodies, if_pos rfl, h]

theorem bodies_cons {t : Token} {ts : List Token} (h : ¬ StartsBlock t ts) :
    bodies (t :: ts) = bodies ts := by
  unfold StartsBlock at h
  rw [bodies.eq_def]
  split
  · next heq => exact absurd heq (List.cons_ne_nil t ts)
  · next w us heq =>
    obtain ⟨rfl, rfl⟩ := List.cons.inj heq
    rw [if_neg (fun hw => h ⟨by rw [hw], rfl⟩)]
  · next u us _ heq => rw [(List.cons.inj heq).2]

theorem locateFrom_cons {t : Token} {ts : List Token} (h : ¬ StartsBlock t ts) (pos : Nat) :
    locateFrom pos (t :: ts) = locateFrom (pos + 1) ts := by
  unfold StartsBlock at h
  rw [locateFrom.eq_def]
  split
  · next heq => exact absurd heq (List.cons_ne_nil t ts)
  · next w us heq =>
    obtain ⟨rfl, rfl⟩ := List.cons.inj heq
    rw [if_neg (fun hw => h ⟨by rw [hw], rfl⟩)]
  · next u us _ heq => rw [(List.cons.inj heq).2]

/-- Induction along the search for blocks. -/
@[elab_as_elim]
theorem blocks_induction {P : List Token → Prop} (nil : P [])
    (closed : ∀ ts n, findClose? 0 ts = some n → P (ts.drop (n + 1)) →
      P (.word blockWord :: .openBrace :: ts))
    (unclosed : ∀ ts, findClose? 0 ts = none → P ts → P (.word blockWord :: .openBrace :: ts))
    (other : ∀ t ts, ¬ StartsBlock t ts → P ts → P (t :: ts)) (ts : List Token) : P ts := by
  induction ts using bodies.induct with
  | case1 => exact nil
  | case2 ts n h ih => exact closed ts n h ih
  | case3 ts h ih => exact unclosed ts h ih
  | case4 w ts hw ih => exact other _ _ (fun h => hw (Token.word.inj h.1)) ih
  | case5 t ts h ih =>
    refine other _ _ (fun hstart => ?_) ih
    obtain ⟨us, rfl⟩ := List.head?_eq_some_iff.mp hstart.2
    exact h blockWord us hstart.1 rfl

/-- The places that the search finds, seen from the whole list: behind `pre` they are the bodies of
what follows. -/
theorem map_slice_locateFrom (pre ts : List Token) :
    (locateFrom pre.length ts).map (slice (pre ++ ts)) = bodies ts := by
  induction ts using blocks_induction generalizing pre with
  | nil => rw [locateFrom, List.map_nil, bodies_nil]
  | closed ts n h ih =>
    have hn := findClose?_lt_length h
    have hlen : (pre ++ .word blockWord :: .openBrace :: ts.take (n + 1)).length =
        pre.length + 2 + n + 1 := by
      rw [List.length_append, List.length_cons, List.length_cons, List.length_take]
      omega
    have hsplit : pre ++ .word blockWord :: .openBrace :: ts =
        (pre ++ .word blockWord :: .openBrace :: ts.take (n + 1)) ++ ts.drop (n + 1) := by
      rw [List.append_assoc, List.cons_append, List.cons_append, List.take_append_drop]
    have hslice : slice (pre ++ .word blockWord :: .openBrace :: ts)
        (pre.length + 2, pre.length + 2 + n) = ts.take n := by
      rw [slice, Nat.add_sub_cancel_left, List.drop_append, Nat.add_sub_cancel_left,
        List.drop_eq_nil_of_le (Nat.le_add_right _ _)]
      rfl
    rw [bodies_of_findClose? h, locateFrom, if_pos rfl, h, List.map_cons, hslice, ← hlen, hsplit,
      ih]
  | unclosed ts h ih =>
    have hsplit : pre ++ .word blockWord :: .openBrace :: ts =
        (pre ++ [.word blockWord, .openBrace]) ++ ts := by
      rw [List.append_assoc]
      rfl
    have hlen : (pre ++ [.word blockWord, .openBrace] : List Token).length = pre.length + 2 :=
      List.length_append
    rw [bodies_of_unclosed h, locateFrom, if_pos rfl, h, ← hlen, hsplit, ih]
  | other t ts h ih =>
    have hsplit : pre ++ t :: ts = (pre ++ [t]) ++ ts := by
      rw [List.append_assoc]
      rfl
    have hlen : (pre ++ [t]).length = pre.length + 1 := List.length_append
    rw [bodies_cons h, locateFrom_cons h, ← hlen, hsplit, ih]

/-- **The rules of a list of tokens are those of the bodies of its blocks.** -/
theorem readTokens_eq_map_bodies (ts : List Token) : readTokens ts = (bodies ts).map readBody := by
  rw [readTokens, locateBlocks, ← map_slice_locateFrom [] ts, List.map_map]
  rfl

/-- The rules of a config file are those of the bodies of its blocks. -/
theorem read_eq_map_bodies (s : String) : read s = (bodies (tokens s.toList)).map readBody :=
  readTokens_eq_map_bodies (tokens s.toList)

/-- A block with a balanced body. -/
theorem bodies_block {body : List Token} (h : Balanced body) (rest : List Token) :
    bodies (.word blockWord :: .openBrace :: (body ++ .closeBrace :: rest)) =
      body :: bodies rest := by
  rw [bodies_of_findClose? (h.findClose?_append rest), List.take_left, ← List.drop_drop,
    List.drop_left]
  rfl

/-! ## One list of tokens after another -/

/-- Two lists of tokens form the head of a block where they meet. -/
def Joins (ts us : List Token) : Prop :=
  ts.getLast? = some (.word blockWord) ∧ us.head? = some .openBrace

instance (ts us : List Token) : Decidable (Joins ts us) := inferInstanceAs (Decidable (_ ∧ _))

/-- Where two lists meet, only the end of the first counts. -/
theorem Joins.of_suffix {ts ts' us : List Token} (hsuffix : ts <:+ ts') (h : Joins ts us) :
    Joins ts' us := by
  refine ⟨?_, h.2⟩
  rw [← List.singleton_suffix_iff_getLast?_eq_some]
  exact (List.singleton_suffix_iff_getLast?_eq_some.mpr h.1).trans hsuffix

/-- **Opening tokens add their own blocks and change no other.** -/
theorem bodies_append {ts us : List Token} (hus : Opening us) (hjoin : ¬ Joins ts us) :
    bodies (ts ++ us) = bodies ts ++ bodies us := by
  induction ts using blocks_induction with
  | nil => rw [List.nil_append, bodies_nil, List.nil_append]
  | closed ts n h ih =>
    have hn := findClose?_lt_length h
    have hsuffix : ts.drop (n + 1) <:+ .word blockWord :: .openBrace :: ts :=
      (List.drop_suffix _ ts).trans (List.suffix_append [_, _] ts)
    rw [List.cons_append, List.cons_append, bodies_of_findClose? (findClose?_append_of_some h us),
      bodies_of_findClose? h, List.take_append_of_le_length (by omega),
      List.drop_append_of_le_length (by omega), ih (fun hj => hjoin (hj.of_suffix hsuffix)),
      List.cons_append]
  | unclosed ts h ih =>
    have hsuffix : ts <:+ .word blockWord :: .openBrace :: ts := List.suffix_append [_, _] ts
    rw [List.cons_append, List.cons_append, bodies_of_unclosed (findClose?_append_of_opening h hus),
      bodies_of_unclosed h, ih (fun hj => hjoin (hj.of_suffix hsuffix))]
  | other t ts h ih =>
    have hstart : ¬ StartsBlock t (ts ++ us) := by
      rintro ⟨rfl, hhead⟩
      cases ts with
      | nil => exact hjoin ⟨rfl, hhead⟩
      | cons u ts => exact h ⟨rfl, hhead⟩
    rw [List.cons_append, bodies_cons hstart, bodies_cons h,
      ih (fun hj => hjoin (hj.of_suffix (List.suffix_cons t ts)))]

end Config
end WindowRules
