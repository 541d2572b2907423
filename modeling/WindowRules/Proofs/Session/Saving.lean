import WindowRules.Proofs.Config.Comments
import WindowRules.Session

/-!
# What a session writes

A session writes its active rules as blocks and behind them its disabled rules as comments.  So a
file that it wrote is read as the active rules alone, whatever the disabled ones hold
(`read_toConfig`); and in a session whose rules are well-formed, a user who takes the marks away
finds all rules again, the disabled ones behind the active ones and in the order in which they were
disabled.
-/

namespace WindowRules
namespace Session

open Config

theorem toConfig_eq_foldl (s : Session) :
    s.toConfig = s.disabled.foldl addComment (write s.rules) := rfl

/-- **Disabled rules do not leak.**  What a session writes is read as its active rules are. -/
theorem read_toConfig (s : Session) : read s.toConfig = read (write s.rules) := by
  have htokens : tokens s.toConfig.toList = tokens (write s.rules).toList := by
    have h := tokens_foldl_addComment (tokens_write_append s.rules) s.disabled []
    rwa [List.append_nil, tokens_nil, List.append_nil, ← toConfig_eq_foldl] at h
  rw [read_eq_map_bodies, read_eq_map_bodies, htokens]

/-- Active rules that a file can hold are read again. -/
theorem read_toConfig_of_wellFormed {s : Session} (h : ∀ r ∈ s.rules, r.WellFormed) :
    read s.toConfig = s.rules :=
  (read_toConfig s).trans (readTokens_tokens_write h)

/-- **Disabled rules are not lost.**  Without its marks, what a session writes is a file with all of
its rules. -/
theorem uncomment_toConfig {s : Session} (hactive : ∀ r ∈ s.rules, r.WellFormed)
    (hdisabled : ∀ r ∈ s.disabled, r.WellFormed) :
    uncomment s.toConfig = write (s.rules ++ s.disabled) := by
  have h := uncommentChars_foldl_addComment rfl (uncommentChars_write_append hactive) hdisabled []
  rw [List.append_nil, uncommentChars_nil, List.append_nil, ← toConfig_eq_foldl] at h
  rw [uncomment, h, String.ofList_toList]

/-- **Disabled rules are kept in the file and out of use.**  A file that a session writes is read as
its active rules are, whatever any of its rules holds.  If a file can hold the rules, then the
active rules are read again from it, and without the marks of its comments it is the file of the
active rules with the disabled ones behind them, from which all of them are read. -/
theorem toConfig_hides_and_keeps_disabled (s : Session) :
    read s.toConfig = read (write s.rules) ∧
      ((∀ r ∈ s.rules ++ s.disabled, r.WellFormed) →
        read s.toConfig = s.rules ∧ uncomment s.toConfig = write (s.rules ++ s.disabled) ∧
          read (uncomment s.toConfig) = s.rules ++ s.disabled) := by
  refine ⟨read_toConfig s, fun h => ?_⟩
  have hactive : ∀ r ∈ s.rules, r.WellFormed := fun r hr => h r (List.mem_append_left _ hr)
  have hdisabled : ∀ r ∈ s.disabled, r.WellFormed := fun r hr => h r (List.mem_append_right _ hr)
  have huncomment := uncomment_toConfig hactive hdisabled
  refine ⟨read_toConfig_of_wellFormed hactive, huncomment, ?_⟩
  rw [huncomment]
  exact readTokens_tokens_write h

/-- A session with one active rule and two disabled ones, of which one has a carriage return and a
brace inside a value and an empty value at the end of a line. -/
def shelvedSession : Session where
  rules := [{ criteria := { windowClass := some "^mpv$" }, actions := { float := some false } }]
  disabled := [{ name := some "a\rb \x7b", extras := [("windowrule", "\x7b"), ("k", "")] }, {}]
  history := .ofCapacity 1

theorem toConfig_shelvedSession :
    (∀ r ∈ shelvedSession.rules ++ shelvedSession.disabled, r.WellFormed) ∧
      read shelvedSession.toConfig = shelvedSession.rules ∧
        uncomment shelvedSession.toConfig =
          write (shelvedSession.rules ++ shelvedSession.disabled) ∧
          read (uncomment shelvedSession.toConfig) =
            shelvedSession.rules ++ shelvedSession.disabled := by
  have h : ∀ r ∈ shelvedSession.rules ++ shelvedSession.disabled, r.WellFormed := by
    decide +kernel
  exact ⟨h, (toConfig_hides_and_keeps_disabled shelvedSession).2 h⟩

end Session
end WindowRules
