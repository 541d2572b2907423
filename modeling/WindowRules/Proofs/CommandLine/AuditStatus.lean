import WindowRules.Proofs.Audit.Faults
import WindowRules.Proofs.CommandLine.Options
import WindowRules.Proofs.CommandLine.Starting
import WindowRules.Proofs.Matching.Memory
import WindowRules.Proofs.Text.Words

/-!
# The status of an audit

A script that checks a config file looks at the status with which the program ends, and at nothing
else.  The status comes at the end of a long way: the arguments are read, the file is read and taken
for rules, windows may be asked for, the rules are audited with a cache, issues are counted as they
are added, and what is printed has three forms.  Of all this only the rules matter, and of the rules
only whether they are faulty (`audit_status`).

What is left aside are audits that cannot be made.  If the config file or the windows that are asked
for cannot be read they have status 1 too, and a complaint; if there is no room for a session they
have another status (`Request.status_of_not_hasRoom`).
-/

namespace WindowRules
namespace CommandLine

open PatternCache

/-! ## Asking for an audit -/

/-- Arguments ask for an audit, as JSON or not, and it can be made: the config file holds a text,
there is room for a session, and windows are not asked for, or they can be had. -/
def AsksAudit (w : Surroundings) (arguments : List String) (source : String)
    (windows : Option (List Window)) (json : Bool) : Prop :=
  ∃ config clients live, Request.ofArguments arguments = .ok (.audit config clients live json) ∧
    FileContent.text (w.settings config).path (w.file (w.settings config).path) = .ok source ∧
    w.HasRoom ∧ w.snapshot? clients live = .ok windows

/-- The usual arguments for an audit. -/
def auditArguments (config clients : Option String) (live json : Bool) : List String :=
  "check" :: (valuedArguments "--config" config ++ (valuedArguments "--clients" clients ++
    (switchArguments "--live" live ++ (switchArguments "--json" json ++ []))))

/-- **Options for an audit go together in any way**, also saved windows and live ones. -/
theorem ofArguments_auditArguments (config clients : Option String) (live json : Bool) :
    Request.ofArguments (auditArguments config clients live json) =
      .ok (.audit config clients live json) := by
  have hread : checkCommand.readArguments false false {} (valuedArguments "--config" config ++
      (valuedArguments "--clients" clients ++ (switchArguments "--live" live ++
        (switchArguments "--json" json ++ [])))) =
      .ok (some {
        values :=
          (clients.map ("--clients", ·)).toList ++ ((config.map ("--config", ·)).toList ++ [])
        switches := switchArguments "--json" json ++ (switchArguments "--live" live ++ []) }) := by
    rw [readArguments_valued (by decide +kernel) rfl rfl rfl]
    rw [readArguments_valued (by decide +kernel) rfl rfl (by cases config <;> rfl)]
    rw [readArguments_switched (by decide +kernel) rfl rfl]
    rw [readArguments_switched (by decide +kernel) rfl rfl]
    rfl
  rw [Request.ofArguments, auditArguments, readInvocation_command (by decide +kernel) rfl _ hread]
  cases config <;> cases clients <;> cases live <;> cases json <;> rfl

/-- The usual arguments ask for an audit, whether it is to be printed as JSON or not. -/
theorem asksAudit_auditArguments {w : Surroundings} {config clients : Option String} {live : Bool}
    {source : String} {windows : Option (List Window)}
    (hsource : FileContent.text (w.settings config).path (w.file (w.settings config).path) =
      .ok source)
    (hroom : w.HasRoom) (hwindows : w.snapshot? clients live = .ok windows) (json : Bool) :
    AsksAudit w (auditArguments config clients live json) source windows json :=
  ⟨config, clients, live, ofArguments_auditArguments config clients live json, hsource, hroom,
    hwindows⟩

/-- Any text can be what a file holds. -/
theorem text_flatMap_utf8EncodeChar {name : String} (hname : '\x00' ∉ name.toList) (s : String) :
    FileContent.text name (.ok (s.toList.flatMap String.utf8EncodeChar)) = .ok s := by
  have hcontains : name.contains '\x00' = false := by simp [hname]
  have hdecode := Text.ofBytes?_flatMap_utf8EncodeChar s.toList
  simp [FileContent.text, hcontains, bind, Except.bind, hdecode]

/-- Windows can be had from a file if its text lists clients. -/
theorem snapshot?_some_eq_ok {w : Surroundings} {path text : String} {ws : List Window}
    (htext : FileContent.text path (w.file path) = .ok text)
    (hclients : (Snapshot.ofText text).toOption = some ws) (live : Bool) :
    w.snapshot? (some path) live = .ok (some ws) := by
  have hlist : Snapshot.ofText text = .ok ws := by
    cases h : Snapshot.ofText text with
    | error e =>
      rw [h] at hclients
      cases hclients
    | ok listed =>
      rw [h] at hclients
      exact congrArg Except.ok (Option.some.inj hclients)
  rw [Surroundings.snapshot?, Snapshot.ofFile, htext]
  simp only [hlist]
  rfl

/-! ## What it comes to -/

/-- **The answer to an audit that can be made** is that of a session with its rules. -/
theorem answer_of_asksAudit {w : Surroundings} {arguments : List String} {source : String}
    {windows : Option (List Window)} {json : Bool}
    (h : AsksAudit w arguments source windows json) : answer w arguments =
      auditAnswer { Session.ofRules (Config.read source) w.capacity with now := w.now }
        windows json := by
  obtain ⟨config, clients, live, hrequest, hsource, hroom, hwindows⟩ := h
  have hsession := Surroundings.session_of_hasRoom hroom (Surroundings.rules_of_text hsource)
  have hanswer : Request.answer? w (.audit config clients live json) =
      .ok (auditAnswer { Session.ofRules (Config.read source) w.capacity with now := w.now }
        windows json) := by
    rw [Request.answer?, hsession, hwindows]
    rfl
  simp only [answer, hrequest, Request.answer, hanswer]

/-- The status of an audit is 1 if the rules are faulty and 0 otherwise. -/
theorem status_auditAnswer (rs : Ruleset) (capacity : Nat) (now : String)
    (windows : Option (List Window)) (json : Bool) :
    ((auditAnswer { Session.ofRules rs capacity with now } windows json).status = 1 ↔ Faulty rs) ∧
      ((auditAnswer { Session.ofRules rs capacity with now } windows json).status = 0 ↔
        ¬ Faulty rs) := by
  have hreport : afresh (PatternCache.audit rs windows) = audit rs windows :=
    (audit_answers rs windows).afresh_eq
  have hstatus : (auditAnswer { Session.ofRules rs capacity with now } windows json).status =
      if 0 < (afresh (PatternCache.audit rs windows)).counts.errors then 1 else 0 := rfl
  rw [hstatus, hreport, ← errors_audit_pos_iff rs windows]
  split
  · next herrors =>
    exact ⟨iff_of_true rfl herrors, iff_of_false Nat.one_ne_zero (not_not_intro herrors)⟩
  · next hnone => exact ⟨iff_of_false Nat.zero_ne_one hnone, iff_of_true rfl hnone⟩

/-- What an audit of the rules of a text comes to, when some windows are known. -/
structure Audited (a : Answer) (source : String) (windows : Option (List Window)) (json : Bool) :
    Prop where
  /-- It has status 1 if two rules have one target or a text is no pattern, and status 0
  otherwise. -/
  faulty : a.status = 1 ↔ Faulty (Config.read source)
  fine : a.status = 0 ↔ ¬ Faulty (Config.read source)
  /-- It prints a report and has nothing to complain of. -/
  output : a.output =
    auditText (Config.read source) json (afresh (PatternCache.audit (Config.read source) windows))
  complaint : a.complaint = ""
  /-- But for orphans the report lists what it lists without windows. -/
  issues :
    (afresh (PatternCache.audit (Config.read source) windows)).issues.filter (·.kind ≠ .orphaned) =
    (afresh (PatternCache.audit (Config.read source) none)).issues

/-- A text with a class pattern that is no pattern. -/
def faultyText : String := "windowrule \x7b\n  match:class = (\n\x7d\n"

/-- A list of saved windows. -/
def savedText : String := "[\x7b\"class\": \"kitty\"\x7d]"

/-- A config file and a file with saved windows. -/
def faultySurroundings : Surroundings where
  environment := { get? := fun _ => none }
  file path :=
    if path = "rules.conf" then .ok (faultyText.toList.flatMap String.utf8EncodeChar)
    else if path = "clients.json" then .ok (savedText.toList.flatMap String.utf8EncodeChar)
    else .error .missing
  compositor := .absent

end CommandLine
end WindowRules
