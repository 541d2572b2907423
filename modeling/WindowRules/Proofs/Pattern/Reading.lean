import WindowRules.Pattern.Basic
import WindowRules.Proofs.Pattern.Search

/-!
# The bounds in a pattern are in order

A repetition that asks for more copies than it allows is no pattern: its bounds are compared when
they are read, and the other signs of repetition have bounds in order.  So the bounds are in order
in all that a reader holds, from piece to piece (`Reader.Ordered`, `Reader.Ordered.readPiece`), and
in the expression that is read (`ordered_of_parse`).  Therefore a pattern matches a text exactly if
its expression occurs in it (`isMatch_iff_occursIn`).
-/

namespace WindowRules
namespace Pattern

/-! ## Putting expressions together -/

namespace Expr

theorem ordered_seqs {es : List Expr} (h : ∀ e ∈ es, e.Ordered) : (seqs es).Ordered := by
  induction es with
  | nil => trivial
  | cons e es ih =>
    obtain ⟨he, hes⟩ := List.forall_mem_cons.mp h
    cases es with
    | nil => exact he
    | cons e' es => exact ⟨he, ih hes⟩

theorem ordered_choice {es : List Expr} (h : ∀ e ∈ es, e.Ordered) : (choice es).Ordered := by
  induction es with
  | nil => trivial
  | cons e es ih =>
    obtain ⟨he, hes⟩ := List.forall_mem_cons.mp h
    cases es with
    | nil => exact he
    | cons e' es => exact ⟨he, ih hes⟩

theorem ordered_ofSet (s : CharSet) : (ofSet s).Ordered := by
  unfold ofSet
  split
  · split <;> trivial
  · trivial

theorem ordered_alts {es : List Expr} (h : ∀ e ∈ es, e.Ordered) : (alts es).Ordered := by
  unfold alts
  split
  · next e => exact h e (List.mem_singleton_self e)
  split
  · exact ordered_ofSet _
  split
  · exact ordered_ofSet _
  · exact ordered_choice h

/-- Bounds stay in order when they are lowered for what matches only the empty stretch. -/
theorem Ordered.repeated {e : Expr} (h : e.Ordered) {min : Nat} {max : Option Nat}
    (hbounds : ∀ m ∈ max, min ≤ m) : (e.repeated min max).Ordered := by
  have hform {lo : Nat} {hi : Option Nat} (hle : ∀ m ∈ hi, lo ≤ m) :
      (if lo = 0 ∧ hi = some 0 then .empty else if lo = 1 ∧ hi = some 1 then e
        else .repetition e lo hi).Ordered := by
    split
    · trivial
    split
    · exact h
    · exact ⟨h, hle⟩
  refine hform fun m hm => ?_
  split at hm
  · next hempty =>
    rw [if_pos hempty]
    obtain rfl := Option.some.inj hm
    cases max with
    | none => exact Nat.min_le_right min 1
    | some max => exact min_le_min_right 1 (hbounds max rfl)
  · next hempty =>
    rw [if_neg hempty]
    exact hbounds m hm

end Expr

/-- The bounds are in order in all the parts of a list. -/
def OrderedParts (parts : List Part) : Prop := ∀ p ∈ parts, p.expr.Ordered

theorem OrderedParts.inSequence {parts : List Part} (h : OrderedParts parts) :
    (Part.inSequence parts).expr.Ordered := by
  unfold Part.inSequence
  split
  · trivial
  · exact (List.forall_mem_cons.mp h).1
  · refine Expr.ordered_seqs fun e he => ?_
    obtain ⟨p, hp, rfl⟩ := List.mem_map.mp he
    exact h p (List.mem_reverse.mp (List.mem_filter.mp hp).1)

theorem OrderedParts.inChoice {branches : List Part} (h : OrderedParts branches) :
    (Part.inChoice branches).expr.Ordered := by
  unfold Part.inChoice
  split
  · trivial
  · exact (List.forall_mem_cons.mp h).1
  · refine Expr.ordered_alts fun e he => ?_
    obtain ⟨p, hp, rfl⟩ := List.mem_map.mp he
    exact h p (List.mem_reverse.mp hp)

theorem OrderedParts.cons {parts : List Part} (h : OrderedParts parts) {p : Part}
    (hp : p.expr.Ordered) : OrderedParts (p :: parts) :=
  List.forall_mem_cons.mpr ⟨hp, h⟩

/-- The bounds are in order in what has been read of a group. -/
structure Level.Ordered (l : Level) : Prop where
  branches : OrderedParts l.branches
  parts : OrderedParts l.parts

theorem Level.Ordered.close {l : Level} (h : l.Ordered) : l.close.expr.Ordered :=
  (h.branches.cons h.parts.inSequence).inChoice

theorem Level.ordered_empty : ({} : Level).Ordered := ⟨nofun, nofun⟩

/-! ## Steps of a reader -/

/-- The bounds are in order in what has been read of a pattern. -/
structure Reader.Ordered (r : Reader) : Prop where
  level : r.level.Ordered
  groups : ∀ g ∈ r.groups, g.before.Ordered

namespace Reader.Ordered

variable {r r' : Reader}

theorem push (h : r.Ordered) {p : Part} (hp : p.expr.Ordered) : (r.push p).Ordered :=
  ⟨⟨h.level.branches, h.level.parts.cons hp⟩, h.groups⟩

theorem openGroup (h : r.Ordered) (f : Flags) (captures : Bool) :
    (r.openGroup f captures).Ordered :=
  ⟨Level.ordered_empty, List.forall_mem_cons.mpr ⟨h.level, h.groups⟩⟩

theorem nextBranch (h : r.Ordered) : r.nextBranch.Ordered :=
  ⟨⟨h.level.branches.cons h.level.parts.inSequence, nofun⟩, h.groups⟩

theorem closeGroup (h : r.Ordered) (hr : r.closeGroup = some r') : r'.Ordered := by
  unfold Reader.closeGroup at hr
  split at hr
  · exact absurd hr nofun
  · next g outer hgroups =>
    obtain ⟨hg, houter⟩ := List.forall_mem_cons.mp (hgroups ▸ h.groups)
    obtain rfl := Option.some.inj hr
    refine ⟨⟨hg.branches, hg.parts.cons ?_⟩, houter⟩
    dsimp only
    split
    · exact h.level.close
    · exact h.level.close

theorem repeatLast (h : r.Ordered) {min : Nat} {max : Option Nat} (hbounds : ∀ m ∈ max, min ≤ m)
    (hr : r.repeatLast min max = some r') : r'.Ordered := by
  unfold Reader.repeatLast at hr
  split at hr
  · exact absurd hr nofun
  · next p parts hparts =>
    obtain ⟨hp, hrest⟩ := List.forall_mem_cons.mp (hparts ▸ h.level.parts)
    split at hr
    · exact absurd hr nofun
    · obtain rfl := Option.some.inj hr
      exact ⟨⟨h.level.branches, OrderedParts.cons hrest (hp.repeated hbounds)⟩, h.groups⟩

end Reader.Ordered

/-! ## Pieces -/

theorem ordered_of_charExpr {f : Flags} {c : Char} {asByte : Bool} {e : Expr}
    (h : charExpr? f c asByte = some e) : e.Ordered := by
  unfold charExpr? at h
  split at h
  · exact absurd h nofun
  · exact Option.some.inj h ▸ Expr.ordered_ofSet _

theorem ordered_of_primitive {f : Flags} {p : Primitive} {e : Expr} (h : p.expr? f = some e) :
    e.Ordered := by
  cases p with
  | literal c asByte => exact ordered_of_charExpr h
  | set s => exact Option.some.inj h ▸ Expr.ordered_ofSet s
  | anchor a => exact Option.some.inj h ▸ trivial

/-- **Bounds out of order are refused.** -/
theorem le_of_readBounds {f : Flags} {cs rest : List Char} {min : Nat} {max : Option Nat}
    (h : readBounds f cs = some (min, max, rest)) : ∀ m ∈ max, min ≤ m := by
  simp only [readBounds, Option.bind_eq_bind, Option.bind_eq_some_iff] at h
  obtain ⟨⟨lo, rest₁⟩, -, ⟨hi, rest₂⟩, -, h⟩ := h
  split at h
  · split at h
    · next hle =>
      cases h
      intro m hm
      obtain rfl := Option.mem_def.mp hm
      exact of_decide_eq_true hle
    · exact absurd h nofun
  · exact absurd h nofun

theorem Reader.Ordered.readGroup {r r' : Reader} {cs rest : List Char} (h : r.Ordered)
    (hr : readGroup r cs = some (r', rest)) : r'.Ordered := by
  have hnamed {cs : List Char} (hr : readGroup.named r cs = some (r', rest)) : r'.Ordered := by
    simp only [readGroup.named, Option.bind_eq_bind, Option.bind_eq_some_iff] at hr
    obtain ⟨⟨name, after⟩, -, hr⟩ := hr
    cases hr
    have hnew : ({ r with names := name :: r.names } : Reader).Ordered := ⟨h.level, h.groups⟩
    exact hnew.openGroup r.flags true
  unfold Pattern.readGroup at hr
  split at hr
  · exact hnamed hr
  · exact absurd hr nofun
  · exact absurd hr nofun
  · exact absurd hr nofun
  · exact absurd hr nofun
  · exact hnamed hr
  · simp only [Option.bind_eq_bind, Option.bind_eq_some_iff] at hr
    obtain ⟨row, -, hr⟩ := hr
    split at hr
    · cases hr
      exact h.openGroup row.flags false
    split at hr
    · exact absurd hr nofun
    · cases hr
      have hswitched : ({ r with flags := row.flags } : Reader).Ordered := ⟨h.level, h.groups⟩
      exact hswitched.push (p := ⟨.empty, 0, true⟩) trivial
  · cases hr
    exact h.openGroup r.flags true

/-- **What a piece preserves.** -/
theorem Reader.Ordered.readPiece {r r' : Reader} {c : Char} {cs rest : List Char} (h : r.Ordered)
    (hr : readPiece r c cs = some (r', rest)) : r'.Ordered := by
  have hrepeat {min : Nat} {max : Option Nat} {cs : List Char} (hbounds : ∀ m ∈ max, min ≤ m)
      (hr : (r.repeatLast min max).map (·, cs) = some (r', rest)) : r'.Ordered := by
    obtain ⟨q, hq, hqr⟩ := Option.map_eq_some_iff.mp hr
    cases hqr
    exact h.repeatLast hbounds hq
  unfold Pattern.readPiece at hr
  split at hr
  -- a parenthesis that opens a group, one that closes it, and a bar
  · exact h.readGroup hr
  · obtain ⟨q, hq, hqr⟩ := Option.map_eq_some_iff.mp hr
    cases hqr
    exact h.closeGroup hq
  · cases hr
    exact h.nextBranch
  · simp only [Option.bind_eq_bind, Option.bind_eq_some_iff] at hr
    obtain ⟨s, -, hr⟩ := hr
    cases hr
    exact h.push (Expr.ordered_ofSet s.set)
  -- the signs of repetition
  · exact hrepeat (fun m _ => Nat.zero_le m) hr
  · exact hrepeat (fun m hm => absurd hm (Option.not_mem_none m)) hr
  · exact hrepeat (fun m hm => absurd hm (Option.not_mem_none m)) hr
  · simp only [Option.bind_eq_bind, Option.bind_eq_some_iff] at hr
    obtain ⟨⟨min, max, after⟩, hbounds, q, hq, hr⟩ := hr
    cases hr
    exact h.repeatLast (le_of_readBounds hbounds) hq
  -- what stands for characters and for places
  · simp only [Option.bind_eq_bind, Option.bind_eq_some_iff] at hr
    obtain ⟨⟨p, after⟩, -, e, he, hr⟩ := hr
    cases hr
    exact h.push (ordered_of_primitive he)
  · simp only [Option.bind_eq_bind, Option.bind_eq_some_iff] at hr
    obtain ⟨s, -, hr⟩ := hr
    cases hr
    exact h.push trivial
  · cases hr
    exact h.push trivial
  · cases hr
    exact h.push trivial
  · simp only [Option.bind_eq_bind, Option.bind_eq_some_iff] at hr
    obtain ⟨e, he, hr⟩ := hr
    cases hr
    exact h.push (ordered_of_charExpr he)

theorem Reader.Ordered.readPieces {fuel : Nat} {r r' : Reader} {cs : List Char} (h : r.Ordered)
    (hr : readPieces fuel r cs = some r') : r'.Ordered := by
  induction fuel generalizing r cs with
  | zero =>
    unfold Pattern.readPieces at hr
    split at hr
    · exact Option.some.inj hr ▸ h
    · exact absurd hr nofun
  | succ fuel ih =>
    unfold Pattern.readPieces at hr
    split at hr
    · exact Option.some.inj hr ▸ h
    · obtain ⟨⟨q, rest⟩, hq, hr⟩ := Option.bind_eq_some_iff.mp hr
      exact ih (h.readPiece hq) hr

/-- **The bounds are in order in every expression that is read.** -/
theorem ordered_of_parse {text : List Char} {e : Expr} (h : parse? text = some e) : e.Ordered := by
  obtain ⟨r, hr, h⟩ := Option.bind_eq_some_iff.mp h
  have hstart : ({} : Reader).Ordered :=
    ⟨Level.ordered_empty, fun _ hg => absurd hg List.not_mem_nil⟩
  have hordered : r.Ordered := hstart.readPieces hr
  split at h
  · dsimp only at h
    split at h
    · exact Option.some.inj h ▸ hordered.level.close
    · exact absurd h nofun
  · exact absurd h nofun

/-- A text that is a pattern is read, and its expression fits. -/
theorem compile_eq_some_iff {text : String} {p : Pattern} :
    compile? text = some p ↔ parse? text.toList = some p.expr ∧ p.expr.fits = true := by
  unfold compile?
  rw [Option.bind_eq_bind, Option.bind_eq_some_iff]
  constructor
  · rintro ⟨e, he, h⟩
    split at h
    · next hfits => exact Option.some.inj h ▸ ⟨he, hfits⟩
    · exact absurd h nofun
  · rintro ⟨he, hfits⟩
    exact ⟨p.expr, he, if_pos hfits⟩

/-- **A pattern matches a text exactly if its expression occurs in it.** -/
theorem isMatch_iff_occursIn {source text : String} {p : Pattern} (h : compile? source = some p) :
    p.isMatch text = true ↔ p.expr.OccursIn text.toList :=
  Expr.foundIn_iff_occursIn (ordered_of_parse (compile_eq_some_iff.mp h).1)

end Pattern
end WindowRules
