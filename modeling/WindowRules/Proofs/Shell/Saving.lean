import WindowRules.Proofs.Config.Editing
import WindowRules.Proofs.Session.Saving
import WindowRules.Proofs.Session.Throughout
import WindowRules.Proofs.Shell.Run

/-!
# What a shell session saves

The shell takes keys and values from lines, not from a config file, so what it edits could be more
than a file holds.  Here it is asked when the active rules are read back from what the session
writes, after any script whose lines have no braces and no comment mark.

Almost always: a value that is typed is a plain value, whatever it is, and a key that is typed is a
word of a file with one exception.  The shell cuts words at blanks only, a file also at equality
signs.  So the rules that are edited are well-formed but for equality signs in the keys of extras
(`Shell.throughout_plainWith_edited`), and they are read back exactly if there is no such key
(`Shell.read_toConfig_edited_iff`).  One line is enough for there to be one
(`Shell.read_toConfig_splitKeyScript`).
-/

namespace WindowRules
namespace Shell

open Config

/-- A line without braces and comment marks. -/
def Unmarked (line : List Char) : Prop := ∀ c ∈ line, c ∉ ['#', '{', '}']

instance : DecidablePred Unmarked := fun line =>
  decidable_of_iff ((line.all fun c => c ∉ ['#', '{', '}']) = true) <| by
    simp only [List.all_eq_true, decide_eq_true_eq, Unmarked]

/-- A key of an extra that can be typed in an unmarked line. -/
structure TypedKey (k : String) : Prop where
  ne_nil : k.toList ≠ []
  chars : ∀ c ∈ k.toList, Text.isBlank c = false ∧ c ∉ ['#', '{', '}']
  isExtra : Directive.ofKey k = .extra

/-- What ends a word of a file is marked, or it is an equality sign. -/
theorem notMem_wordEnds_iff {c : Char} :
    c ∉ ['{', '}', '=', '#'] ↔ c ∉ ['#', '{', '}'] ∧ c ≠ '=' := by
  simp only [List.mem_cons, List.not_mem_nil, or_false, not_or]
  constructor
  · rintro ⟨hopen, hclose, hequals, hhash⟩
    exact ⟨⟨hhash, hopen, hclose⟩, hequals⟩
  · rintro ⟨⟨hhash, hopen, hclose⟩, hequals⟩
    exact ⟨hopen, hclose, hequals, hhash⟩

/-- **A file can hold the typed keys without equality signs**, and no others. -/
theorem plainKey_iff_typedKey {k : String} : PlainKey k ↔ TypedKey k ∧ '=' ∉ k.toList := by
  rw [plainKey_iff]
  constructor
  · rintro ⟨⟨hne, hchars⟩, hextra⟩
    have hends : ∀ c ∈ k.toList, c ∉ ['#', '{', '}'] ∧ c ≠ '=' :=
      fun c hc => notMem_wordEnds_iff.mp (hchars c hc).2
    refine ⟨⟨hne, fun c hc => ⟨(hchars c hc).1, (hends c hc).1⟩, hextra⟩, fun h => ?_⟩
    exact (hends '=' h).2 rfl
  · rintro ⟨⟨hne, hchars, hextra⟩, hequals⟩
    refine ⟨⟨hne, fun c hc => ⟨(hchars c hc).1, ?_⟩⟩, hextra⟩
    have hc' : c ≠ '=' := fun h => hequals (h ▸ hc)
    exact notMem_wordEnds_iff.mpr ⟨(hchars c hc).2, hc'⟩

/-! ## Lines -/

section Lines

variable {line : List Char} (hline : Unmarked line)
include hline

theorem typedKey_of_mem_words {w : List Char} (hw : w ∈ Text.words line)
    (hextra : Directive.ofKey (.ofList w) = .extra) : TypedKey (.ofList w) where
  ne_nil := by
    rw [String.toList_ofList]
    exact Text.ne_nil_of_mem_words hw
  chars c hc := by
    rw [String.toList_ofList] at hc
    exact ⟨Text.isBlank_of_mem_words hw c hc, hline c (Text.subset_of_mem_words hw hc)⟩
  isExtra := hextra

/-- **The rest of a line is a plain value**, whatever it is. -/
theorem plainValue_afterWords (hnewline : '\n' ∉ line) (k : Nat) :
    PlainValue (.ofList (Text.afterWords line k)) := by
  have hblank : ∀ {c : Char}, Text.isBlank c = false → c ∉ [' ', '\t'] := by
    intro c hc hmem
    simp only [List.mem_cons, List.not_mem_nil, or_false] at hmem
    rcases hmem with rfl | rfl <;> exact absurd hc (by decide)
  refine plainValue_ofList_iff.mpr ⟨fun c hc => ?_, fun c hc => ?_, fun c hc => ?_⟩
  · have hmem : c ∈ line := Text.afterWords_subset line k hc
    have hmarks := hline c hmem
    have hc' : c ≠ '\n' := fun h => hnewline (h ▸ hmem)
    simp only [List.mem_cons, List.not_mem_nil, or_false, not_or] at hmarks ⊢
    exact ⟨hc', hmarks.1, hmarks.2.2⟩
  · exact hblank (Text.isBlank_head?_afterWords hc)
  · exact Text.isBlank_getLast?_afterWords hc

/-- **What a line asks for keeps rules as they can be typed.** -/
theorem preserves_plainWith (hnewline : '\n' ∉ line) {windows : Option (List Window)} {c : Command}
    (hc : c.ReadFrom line) {o : Operation} (ho : c.operation? windows = some o) :
    o.Preserves (Rule.PlainWith TypedKey) := by
  cases c with
  | setField index key value =>
    obtain rfl := Option.some.inj ho
    obtain ⟨⟨w, hw, rfl⟩, rfl⟩ := hc
    intro r q hr hset
    exact hr.set (typedKey_of_mem_words hline hw) (plainValue_afterWords hline hnewline 3) hset
  | unsetField index key =>
    obtain rfl := Option.some.inj ho
    exact fun r hr => hr.unset key
  | rename index name =>
    obtain rfl := Option.some.inj ho
    obtain rfl := hc
    refine fun r hr => hr.setName fun v hv => ?_
    unfold Session.nameOf at hv
    split at hv
    · exact absurd hv nofun
    · exact Option.mem_some.mp hv ▸ plainValue_afterWords hline hnewline 2
  | delete | disable | undo | redo | explain | audit | showConfig =>
    obtain rfl := Option.some.inj ho
    trivial
  | listRules | showRule | showHistory | help | quit => exact absurd ho nofun

end Lines

/-! ## Sessions -/

/-- The session after a script, begun with the rules of a config file. -/
def edited (source path now : String) (capacity : Nat) (windows : WindowSource)
    (script : List UInt8) : Session :=
  (run path windows { Session.ofRules (Config.read source) capacity with now }
    (Text.linesOfBytes script)).session

/-- **The rules in a shell can be typed**, those in the history and the disabled ones too. -/
theorem throughout_plainWith_edited (source path now : String) (capacity : Nat)
    (windows : WindowSource) {script : List UInt8}
    (hscript : ∀ line, some line ∈ Text.linesOfBytes script → Unmarked line) :
    (edited source path now capacity windows script).Throughout (Rule.PlainWith TypedKey) := by
  have hread : ∀ r ∈ Config.read source, r.PlainWith TypedKey := fun r hr =>
    (Rule.wellFormed_iff_plainWith.mp (wellFormed_of_mem_read hr)).of_keys fun e _ hkey =>
      (plainKey_iff_typedKey.mp hkey).1
  have hstart : Session.Throughout (Rule.PlainWith TypedKey)
      { Session.ofRules (Config.read source) capacity with now } :=
    (Session.throughout_ofRules capacity hread).keeps ⟨rfl, rfl⟩
  obtain ⟨calls, hcalls, hrun⟩ := Session.exists_run_eq_foldl_perform
    { Session.ofRules (Config.read source) capacity with now }
    (operations windows (Text.linesOfBytes script))
  have hsession : edited source path now capacity windows script = _ :=
    (session_runLines windows _ _).trans hrun.symm
  rw [hsession]
  refine hstart.run fun call hcall => ?_
  have ho : call.operation ∈ operations windows (Text.linesOfBytes script) :=
    hcalls ▸ List.mem_map_of_mem hcall
  obtain ⟨line, c, _, hline, hread, hop⟩ := exists_of_mem_operations ho
  exact preserves_plainWith (hscript line hline) (Text.newline_notMem_of_mem_linesOfBytes hline)
    (Command.readFrom_of_read hread) hop

/-- Rules that can be typed are read back if a file can hold the keys of their extras, and only
then. -/
theorem read_toConfig_iff {s : Session} (hs : ∀ r ∈ s.rules, r.PlainWith TypedKey) :
    Config.read s.toConfig = s.rules ↔ ∀ r ∈ s.rules, ∀ e ∈ r.extras, '=' ∉ e.1.toList := by
  constructor
  · intro hread r hr e he
    have hwf : r.WellFormed := wellFormed_of_mem_read (hread ▸ hr)
    exact (plainKey_iff_typedKey.mp (hwf.extras e he).1).2
  · intro hkeys
    refine Session.read_toConfig_of_wellFormed fun r hr => Rule.wellFormed_iff_plainWith.mpr ?_
    exact (hs r hr).of_keys fun e he hkey => plainKey_iff_typedKey.mpr ⟨hkey, hkeys r hr e he⟩

/-- **What the shell edits is read back exactly if no key of an extra has an equality sign.** -/
theorem read_toConfig_edited_iff (source path now : String) (capacity : Nat)
    (windows : WindowSource) (script : List UInt8)
    (hscript : ∀ line, some line ∈ Text.linesOfBytes script → Unmarked line) :
    Config.read (edited source path now capacity windows script).toConfig =
        (edited source path now capacity windows script).rules ↔
      ∀ r ∈ (edited source path now capacity windows script).rules, ∀ e ∈ r.extras,
        '=' ∉ e.1.toList :=
  read_toConfig_iff (throughout_plainWith_edited source path now capacity windows hscript).all.rules

/-- A script that sets an action and an extra, whose value has an equality sign, and that takes the
rule away and back. -/
def walkedScript : List UInt8 :=
  "set 0 opacity 0.9\nset 0 a  b = c \ndisable 0\nundo\nundo\nredo\nrename 0 x  y".toList.flatMap
    String.utf8EncodeChar

theorem read_toConfig_walkedScript :
    (∀ line, some line ∈ Text.linesOfBytes walkedScript → Unmarked line) ∧
      Config.read
        (edited (Config.write [{}]) "rules.conf" "" 50 (.always none) walkedScript).toConfig =
        (edited (Config.write [{}]) "rules.conf" "" 50 (.always none) walkedScript).rules := by
  have hlines : ∀ o ∈ Text.linesOfBytes walkedScript, ∀ line ∈ o, Unmarked line := by
    decide +kernel
  have hscript : ∀ line, some line ∈ Text.linesOfBytes walkedScript → Unmarked line :=
    fun line hline => hlines _ hline line rfl
  exact ⟨hscript, (read_toConfig_edited_iff _ _ _ _ _ _ hscript).mpr (by decide +kernel)⟩

/-- A script that sets an extra whose key has an equality sign. -/
def splitKeyScript : List UInt8 := "set 0 a=b c\n".toList.flatMap String.utf8EncodeChar

/-- The extra is kept under the key that was typed, and read back under what stands before the
sign. -/
theorem read_toConfig_splitKeyScript :
    (∀ line, some line ∈ Text.linesOfBytes splitKeyScript → Unmarked line) ∧
      (edited (Config.write [{}]) "rules.conf" "" 50 (.always none) splitKeyScript).rules =
        [{ extras := [("a=b", "c")] }] ∧
      Config.read
        (edited (Config.write [{}]) "rules.conf" "" 50 (.always none) splitKeyScript).toConfig =
        [{ extras := [("a", "b = c")] }] := by
  have hlines : ∀ o ∈ Text.linesOfBytes splitKeyScript, ∀ line ∈ o, Unmarked line := by
    decide +kernel
  exact ⟨fun line hline => hlines _ hline line rfl, by decide +kernel, by decide +kernel⟩

end Shell
end WindowRules
