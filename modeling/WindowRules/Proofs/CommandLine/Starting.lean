import WindowRules.CommandLine.Answer

/-!
# Starting a session

A request about rules is answered from a session.  Two things can keep the session from starting:
the config file cannot be read, or there is no room for the history.  How much room that is depends
on a variable, not on the arguments, and the variable may ask for more than there can be.  Then the
program does not look at anything else.  It stops with a status (`Request.status_of_not_hasRoom`)
that no request has otherwise (`Request.status_le_one_of_hasRoom`).
-/

namespace WindowRules
namespace CommandLine

namespace Surroundings

variable {w : Surroundings} {config : Option String}

/-- How many changes the history of a session keeps, whatever the arguments are. -/
def capacity (w : Surroundings) : Nat := (w.settings none).capacity

/-- There is room for the history of a session. -/
structure HasRoom (w : Surroundings) : Prop where
  fits : History.room w.capacity ≤ History.roomLimit
  granted : w.grants (History.room w.capacity) = true

/-- Why there is no room, if there is none. -/
def roomError (w : Surroundings) : RequestError :=
  if History.roomLimit < History.room w.capacity then .historyTooLong
  else .noMemory (History.room w.capacity)

/-- Only the variable can ask for too much.  With the usual capacity there is room if the system
grants it. -/
theorem hasRoom_of_unset (hunset : w.environment.get? "MADORI_HISTORY_CAPACITY" = none)
    (hgranted : w.grants (History.room History.defaultCapacity) = true) : w.HasRoom := by
  have hcapacity : w.capacity = History.defaultCapacity := by
    rw [capacity, settings, Settings.resolve, hunset]
    rfl
  have hfits : History.room History.defaultCapacity ≤ History.roomLimit := by decide
  exact ⟨hcapacity ▸ hfits, hcapacity ▸ hgranted⟩

theorem history_of_hasRoom (h : w.HasRoom) :
    w.history w.capacity = .ok (.ofCapacity w.capacity) := by
  rw [history, if_neg (Nat.not_lt.mpr h.fits), if_pos h.granted]

theorem history_of_not_hasRoom (h : ¬ w.HasRoom) : w.history w.capacity = .error w.roomError := by
  rw [history, roomError]
  split
  · rfl
  · next hfits =>
    have hdenied : ¬ w.grants (History.room w.capacity) = true :=
      fun hgranted => h ⟨Nat.not_lt.mp hfits, hgranted⟩
    rw [if_neg hdenied]

/-- **A session starts** if its rules can be had and there is room. -/
theorem session_of_hasRoom (h : w.HasRoom) {rs : Ruleset} (hrules : w.rules config = .ok rs) :
    w.session config = .ok { Session.ofRules rs w.capacity with now := w.now } := by
  have hhistory : w.history (w.settings config).capacity = .ok (.ofCapacity w.capacity) :=
    history_of_hasRoom h
  rw [session, hrules, hhistory]
  rfl

theorem session_of_not_hasRoom (h : ¬ w.HasRoom) {rs : Ruleset} (hrules : w.rules config = .ok rs) :
    w.session config = .error w.roomError := by
  have hhistory : w.history (w.settings config).capacity = .error w.roomError :=
    history_of_not_hasRoom h
  rw [session, hrules, hhistory]
  rfl

/-- With room only the config file can keep a session from starting. -/
theorem session_cases (h : w.HasRoom) (config : Option String) :
    (∃ e, w.session config = .error (.config e)) ∨ ∃ s, w.session config = .ok s := by
  cases hload : Config.load (w.settings config).path (w.file (w.settings config).path) with
  | error e =>
    have hrules : w.rules config = .error (.config e) := by
      rw [rules, hload]
      rfl
    refine .inl ⟨e, ?_⟩
    rw [session, hrules]
    rfl
  | ok rs =>
    have hrules : w.rules config = .ok rs := by
      rw [rules, hload]
      rfl
    exact .inr ⟨_, session_of_hasRoom h hrules⟩

theorem catalog_cases (w : Surroundings) (path : String) :
    (∃ e, w.catalog path = .error e ∧ e.status = 1) ∨ ∃ c, w.catalog path = .ok c := by
  unfold catalog
  split
  · exact .inl ⟨_, rfl, rfl⟩
  · next text _ =>
    cases Catalog.read text with
    | error e => exact .inl ⟨_, rfl, rfl⟩
    | ok c => exact .inr ⟨c, rfl⟩

/-- The rules are those of the text of the config file. -/
theorem rules_of_text {source : String}
    (hsource : FileContent.text (w.settings config).path (w.file (w.settings config).path) =
      .ok source) :
    w.rules config = .ok (Config.read source) := by
  rw [rules, Config.load, hsource]
  rfl

end Surroundings

namespace Request

variable {w : Surroundings} {r : Request} {config : Option String}

/-- The config file that was given for a request, if the request is about rules. -/
def config? : Request → Option (Option String)
  | .help | .helpOn _ | .version => none
  | .audit config _ _ _ | .explain config _ | .listRules config | .showConfig config
  | .windows config _ | .suggest config _ | .shell config _ => some config

/-- **A request about rules needs a session** and fails as the session does. -/
theorem answer_of_session_eq_error (hr : r.config? = some config) {e : RequestError}
    (he : w.session config = .error e) : r.answer w = e.answer := by
  have hfails : r.answer? w = .error e := by
    cases r with
    | help | helpOn | version => exact absurd hr nofun
    | audit | explain | listRules | showConfig | windows | suggest | shell =>
      obtain rfl := Option.some.inj hr
      rw [answer?, he]
      rfl
  rw [answer, hfails]

/-- **Without room the program stops**, whatever is asked about the rules. -/
theorem answer_of_not_hasRoom (hr : r.config? = some config) {rs : Ruleset}
    (hrules : w.rules config = .ok rs) (h : ¬ w.HasRoom) : r.answer w = w.roomError.answer :=
  answer_of_session_eq_error hr (Surroundings.session_of_not_hasRoom h hrules)

theorem status_of_not_hasRoom (hr : r.config? = some config) {rs : Ruleset}
    (hrules : w.rules config = .ok rs) (h : ¬ w.HasRoom) :
    (r.answer w).status = if History.roomLimit < History.room w.capacity then 101 else 134 := by
  rw [answer_of_not_hasRoom hr hrules h, Surroundings.roomError]
  split <;> rfl

/-- The largest number that is read as a capacity leaves no room. -/
example : ¬ Surroundings.HasRoom
    { environment := { get? := fun _ => some "18446744073709551615" }
      file := fun _ => .error .missing, compositor := .absent } :=
  fun h => absurd h.fits (by decide)

theorem status_auditAnswer_le_one (s : Session) (windows : Option (List Window)) (json : Bool) :
    (auditAnswer s windows json).status ≤ 1 := by
  unfold auditAnswer
  dsimp only
  split <;> decide

theorem status_shellAnswer_le_one (path : String) (windows : Option (List Window)) (s : Session) :
    (shellAnswer w path windows s).status ≤ 1 := by
  unfold shellAnswer
  dsimp only
  split
  · exact Nat.le_refl 1
  · exact Nat.zero_le 1

/-- With room a request about rules ends with 0 or 1 if it does so from every session. -/
theorem status_le_one_of_session (h : w.HasRoom) (hr : r.config? = some config)
    (hfrom : ∀ s, w.session config = .ok s → (r.answer w).status ≤ 1) :
    (r.answer w).status ≤ 1 := by
  rcases Surroundings.session_cases h config with ⟨e, he⟩ | ⟨s, hs⟩
  · rw [answer_of_session_eq_error hr he]
    exact Nat.le_refl 1
  · exact hfrom s hs

/-- **With room every request ends with 0 or 1**, so the status tells whether there was room. -/
theorem status_le_one_of_hasRoom (h : w.HasRoom) (r : Request) : (r.answer w).status ≤ 1 := by
  cases r with
  | help | helpOn | version => exact Nat.zero_le 1
  | explain | listRules | showConfig =>
    refine status_le_one_of_session h rfl fun s hs => ?_
    rw [answer, answer?, hs]
    exact Nat.zero_le 1
  | shell =>
    refine status_le_one_of_session h rfl fun s hs => ?_
    rw [answer, answer?, hs]
    exact status_shellAnswer_le_one _ _ _
  | audit config clients live json =>
    refine status_le_one_of_session h rfl fun s hs => ?_
    rw [answer, answer?, hs]
    cases w.snapshot? clients live with
    | error e => exact Nat.le_refl 1
    | ok windows => exact status_auditAnswer_le_one s windows json
  | windows config clients =>
    refine status_le_one_of_session h rfl fun s hs => ?_
    rw [answer, answer?, hs]
    cases w.snapshot? clients true with
    | error e => exact Nat.le_refl 1
    | ok windows => exact Nat.zero_le 1
  | suggest config path =>
    refine status_le_one_of_session h rfl fun s hs => ?_
    rw [answer, answer?, hs]
    rcases Surroundings.catalog_cases w path with ⟨e, he, hstatus⟩ | ⟨c, hc⟩
    · rw [he]
      exact Nat.le_of_eq hstatus
    · rw [hc]
      exact Nat.zero_le 1

end Request

end CommandLine
end WindowRules
