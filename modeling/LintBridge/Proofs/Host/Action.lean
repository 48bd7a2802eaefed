import LintBridge.Session.Run

/-!
# Running actions

What comes of an action on a host, or of work in a session, step by step. A failed
step ends the rest and leaves the host as it is by then.
-/

namespace LintBridge

namespace Host

variable {α β : Type} (host : Host)

@[simp] theorem perform_pure (answer : α) :
    host.perform (pure answer) = (.ok answer, host) := rfl

@[simp] theorem perform_get : host.perform get = (.ok host, host) := rfl

@[simp] theorem perform_set (after : Host) :
    host.perform (set after) = (.ok ⟨⟩, after) := rfl

@[simp] theorem perform_modifyGet (change : Host → α × Host) :
    host.perform (modifyGet change) = (.ok (change host).1, (change host).2) := rfl

@[simp] theorem perform_modify (change : Host → Host) :
    host.perform (modify change) = (.ok ⟨⟩, change host) := rfl

@[simp] theorem perform_note (level : Level) (text : String) :
    host.perform (note level text) = (.ok ⟨⟩, { host with log := host.log ++ [⟨level, text⟩] }) :=
  rfl

@[simp] theorem perform_afterwards (action : Action α) (last : Host → Host) :
    host.perform (afterwards action last) =
      ((host.perform action).1, last (host.perform action).2) := rfl

/-- The rest of an action goes on from where a step that succeeds has left the host. -/
theorem perform_bind (action : Action α) (next : α → Action β) :
    host.perform (action >>= next) =
      match host.perform action with
      | (.ok answer, after) => after.perform (next answer)
      | (.error fault, after) => (.error fault, after) := by
  change (ExceptT.bindCont next (host.perform action).1).run (host.perform action).2 = _
  cases host.perform action with
  | mk result after => cases result <;> rfl

/-- A fault is handled on the host that the failed action has left. -/
theorem perform_tryCatch (action : Action α) (handle : Fault → Action α) :
    host.perform (tryCatch action handle) =
      match host.perform action with
      | (.ok answer, after) => (.ok answer, after)
      | (.error fault, after) => after.perform (handle fault) := by
  change (ExceptT.tryCatch action handle).run.run host = _
  rw [ExceptT.tryCatch, ExceptT.run_mk, StateT.run_bind]
  have ran : StateT.run action host = host.perform action := rfl
  rw [ran]
  cases host.perform action with
  | mk result after => cases result <;> rfl

section

variable {host : Host} {action : Action α} {next : α → Action β} {after : Host}

theorem perform_bind_of_ok {answer : α} (ran : host.perform action = (.ok answer, after)) :
    host.perform (action >>= next) = after.perform (next answer) := by
  rw [perform_bind, ran]

theorem perform_bind_of_error {fault : Fault}
    (ran : host.perform action = (.error fault, after)) :
    host.perform (action >>= next) = (.error fault, after) := by
  rw [perform_bind, ran]

end

end Host

namespace Session

variable {α β : Type} (session : Session)

/-- Do some work in a session, and see how it ends. -/
def attempt (session : Session) (work : Work α) : Except Fault α × Session :=
  (ExceptT.run work).run session

@[simp] theorem attempt_pure (answer : α) :
    session.attempt (pure answer) = (.ok answer, session) := rfl

@[simp] theorem attempt_get : session.attempt get = (.ok session, session) := rfl

@[simp] theorem attempt_onHost (action : Action α) :
    session.attempt (onHost action) =
      ((session.host.perform action).1, { session with host := (session.host.perform action).2 }) :=
  rfl

/-- The rest of some work goes on from where a step that succeeds has left the session. -/
theorem attempt_bind (work : Work α) (next : α → Work β) :
    session.attempt (work >>= next) =
      match session.attempt work with
      | (.ok answer, after) => after.attempt (next answer)
      | (.error fault, after) => (.error fault, after) := by
  change (ExceptT.bindCont next (session.attempt work).1).run (session.attempt work).2 = _
  cases session.attempt work with
  | mk result after => cases result <;> rfl

theorem attempt_bind_of_ok {session : Session} {work : Work α} {answer : α} {after : Session}
    (ran : session.attempt work = (.ok answer, after)) (next : α → Work β) :
    session.attempt (work >>= next) = after.attempt (next answer) := by
  rw [attempt_bind, ran]

theorem attempt_bind_of_error {session : Session} {work : Work α} {fault : Fault}
    {after : Session} (ran : session.attempt work = (.error fault, after)) (next : α → Work β) :
    session.attempt (work >>= next) = (.error fault, after) := by
  rw [attempt_bind, ran]

theorem attempt_onHost_bind_of_ok {session : Session} {action : Action α} {answer : α}
    {host : Host} (ran : session.host.perform action = (.ok answer, host))
    (next : α → Work β) :
    session.attempt (onHost action >>= next) = { session with host }.attempt (next answer) := by
  rw [attempt_bind, attempt_onHost, ran]

theorem attempt_onHost_bind_of_error {session : Session} {action : Action α} {fault : Fault}
    {host : Host} (ran : session.host.perform action = (.error fault, host))
    (next : α → Work β) :
    session.attempt (onHost action >>= next) = (.error fault, { session with host }) := by
  rw [attempt_bind, attempt_onHost, ran]

/-- What is taken down about a step is how the attempt at it ends. -/
theorem advance_of_attempt {bound : Nat} {step : Step} {result : Except Fault Reply}
    {after : Session} (ran : session.attempt (perform bound step) = (result, after)) :
    session.advance bound step =
      (⟨result, after.seen, after.host.log⟩,
        { after with seen := [], host := { after.host with log := [] } }) := by
  rw [attempt] at ran
  rw [advance, ran]

end Session

end LintBridge
