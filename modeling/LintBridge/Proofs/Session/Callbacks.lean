import LintBridge.Proofs.Session.Reentry

/-!
# Callbacks that only take down values

A callback may do steps of its own or fail when it is called. One that does neither only
takes down the value that it is called with, so the calls that a change makes leave
nothing behind but that, and what reporters write to the log.
-/

namespace LintBridge

/-- What a callback takes down when it is called with a value. -/
def Callback.heard (value : String) : Callback → List (String × String)
  | .named name => [(name, value)]
  | .reporter _ _ => []

/-- What a callback writes to the log when it is called with a value. -/
def Callback.reported (value : String) : Callback → List LogRecord
  | .named _ => []
  | .reporter _ setting => [.debug (setting.key ++ " = " ++ Text.quoted value)]

/-- A callback only takes down the values that it is called with. -/
def Behavior.Records (behavior : Behavior) : Prop :=
  behavior.steps = [] ∧ behavior.failAt? = none

namespace Session

/-- All callbacks of a session only take down values. -/
def Recording (session : Session) : Prop :=
  ∀ behavior ∈ session.behaviors, behavior.Records

/-- What is left of a session after some calls: counts of calls, what has been taken down,
and what has been written to the log. -/
def called (session : Session) (behaviors : List Behavior) (heard : List (String × String))
    (reported : List LogRecord) : Session :=
  { session with
    behaviors
    seen := session.seen ++ heard
    host := { session.host with log := session.host.log ++ reported } }

variable {session : Session}

theorem Recording.call (recording : session.Recording) (run : Step → Work Reply)
    (value : String) (callback : Callback) :
    ∃ behaviors, (∀ behavior ∈ behaviors, behavior.Records) ∧
      session.attempt (Session.call run value callback) =
        (.ok ⟨⟩, session.called behaviors (callback.heard value) (callback.reported value)) := by
  cases callback with
  | reporter number setting =>
      refine ⟨session.behaviors, recording, ?_⟩
      rw [Session.call, called, Callback.heard, List.append_nil]
      rfl
  | named name =>
      have records : (session.counted name value).Recording := by
        intro behavior there
        rcases List.mem_map.mp there with ⟨before, member, rfl⟩
        split
        · exact recording before member
        · exact recording before member
      refine ⟨_, records, ?_⟩
      rw [attempt_call_named, called, Callback.heard, Callback.reported, List.append_nil]
      cases found : (session.counted name value).behaviors.find? (·.name = name) with
      | none => rfl
      | some behavior =>
          rcases records behavior (List.mem_of_find?_eq_some found) with ⟨idle, willing⟩
          rw [react, idle, willing]
          split
          · rfl
          · rfl

/-- A callback that is given nothing to do only takes down values, like those before. -/
theorem Recording.behaving (recording : session.Recording) (callback : String) (actAt : Nat) :
    ∃ behaviors, (∀ behavior ∈ behaviors, behavior.Records) ∧
      session.behaving callback [] actAt none = { session with behaviors } := by
  rw [Session.behaving]
  split
  · exact ⟨session.behaviors, recording, rfl⟩
  · refine ⟨_, fun behavior there => ?_, rfl⟩
    rcases List.mem_append.mp there with before | new
    · exact recording behavior before
    · cases List.mem_singleton.mp new
      exact ⟨rfl, rfl⟩

/-- Everyone that a notice is for is called with its value, in order. -/
theorem Recording.deliver (recording : session.Recording) (run : Step → Work Reply)
    (notice : Notice) :
    ∃ behaviors, (∀ behavior ∈ behaviors, behavior.Records) ∧
      session.attempt (Session.deliver run notice) =
        (.ok ⟨⟩, session.called behaviors (notice.callbacks.flatMap (·.heard notice.value))
          (notice.callbacks.flatMap (·.reported notice.value))) := by
  rw [Session.deliver, List.forM_eq_forM]
  generalize notice.callbacks = callbacks
  induction callbacks generalizing session with
  | nil =>
      refine ⟨session.behaviors, recording, ?_⟩
      rw [List.flatMap_nil, List.flatMap_nil, called, List.append_nil, List.append_nil]
      rfl
  | cons callback callbacks ih =>
      rcases recording.call run notice.value callback with ⟨behaviors, records, first⟩
      have goesOn : (session.called behaviors (callback.heard notice.value)
          (callback.reported notice.value)).Recording := records
      rcases ih goesOn with ⟨last, lastRecords, others⟩
      refine ⟨last, lastRecords, ?_⟩
      rw [List.forM_cons, attempt_bind_of_ok first, others]
      simp only [called, List.flatMap_cons, List.append_assoc]

end Session

end LintBridge
