import GoogleMusic.Api.Client
import GoogleMusic.Foundation.Cursor

/-! # Performing calls

`Call.perform` sends one request through the session and reads the response in four
stages, each with an exception of its own.  The stages are a pure function of the
response, `Call.read`, and a method of the client is a composition of such calls.

The methods are written over a `Line`, which says how a request is carried out: at once
on the service, or through the session, which stands in front of every request of a
method where `Remote.withSession` has it once in front of the method.
-/

namespace GoogleMusic

open Foundation

/-- What `perform` looks at in a response.  `text` is the value of the text as JSON, and
`none` where it is none. -/
structure Response (α : Type) where
  statusCode : Nat
  reason : String := ""
  text : Option α
  location : Option String := none
deriving DecidableEq

/-- How `parse_response` can end: `perform` handles its `ParseException`, and no other
exception. -/
inductive ParseError where
  | parseException
  | raised (reason : Raised)
deriving DecidableEq

/-- The message of `raise_for_status`. -/
def Response.raiseForStatus {α : Type} (response : Response α) : Option String :=
  if 400 ≤ response.statusCode ∧ response.statusCode < 500 then
    some (toString response.statusCode ++ " Client Error: " ++ response.reason)
  else if 500 ≤ response.statusCode ∧ response.statusCode < 600 then
    some (toString response.statusCode ++ " Server Error: " ++ response.reason)
  else none

/-- The class methods of a call.  `filterResponse` is there for the log, whose message is
built on every call, so that it can raise as well. -/
structure Call (α β : Type) where
  name : String
  parseResponse : Response α → Except ParseError β
  filterResponse : β → Except Raised Unit
  /-- The message of the `CallFailure`. -/
  checkSuccess : β → Option String

def notUnderstood : String :=
  "the server's response could not be understood. The call may still have succeeded, but it's unlikely."

/-- `Call.perform` from the response on, less the request and response texts that it
appends to its messages.  The validation that follows only writes to the log. -/
def Call.read {α β : Type} (call : Call α β) (response : Response α) : Except Raised β :=
  match response.raiseForStatus with
  | some message => .error (.callFailure message call.name)
  | none =>
      match call.parseResponse response with
      | .error .parseException => .error (.callFailure notUnderstood call.name)
      | .error (.raised reason) => .error reason
      | .ok parsed => do
          call.filterResponse parsed
          match call.checkSuccess parsed with
          | some message => .error (.callFailure message call.name)
          | none => .ok parsed

/-- A way to carry out requests of the service from a state `τ`: what comes back is the
answer of the service that the state holds. -/
structure Line (ρ τ : Type) where
  service : τ → ρ
  /-- Whether a login has been granted. -/
  granted : τ → Bool
  send : ∀ {α : Type}, Exec ρ Raised α → Exec τ Raised α
  answers : ∀ {α : Type} {request : Exec ρ Raised α} {state after : τ} {value : α},
    (send request).run state = (.ok value, after) →
    request.run (service state) = (.ok value, service after)

namespace Line

variable {ρ : Type}

def direct : Line ρ ρ where
  service state := state
  granted _ := true
  send request := request
  answers ran := ran

def session : Line ρ (Session ρ) where
  service := Session.remote
  granted := Session.isAuthenticated
  send := Session.send
  answers := Session.send_answers

end Line

/-- One request and its reading, on the service's side of the session. -/
def Call.request {ρ α β : Type} (call : Call α β) (answer : Exec ρ String (Response α)) :
    Exec ρ Raised β := do
  let response ← answer.mapError .other
  Exec.lift (call.read response)

def Call.perform {ρ τ α β : Type} (line : Line ρ τ) (call : Call α β)
    (answer : Exec ρ String (Response α)) : Exec τ Raised β := do
  let response ← line.send (answer.mapError .other)
  Exec.lift (call.read response)

section Calls

variable {ρ α β : Type} {call : Call α β} {answer : Exec ρ String (Response α)}
variable {state : ρ} {value : β}

theorem Call.request_run (call : Call α β) (answer : Exec ρ String (Response α)) (state : ρ) :
    (call.request answer).run state =
      (match (answer.run state).1 with
        | .ok response => call.read response
        | .error name => .error (.other name), answer.final state) := by
  rw [Call.request, Exec.run_bind, Exec.run_mapError, Exec.final]
  cases (answer.run state).1 <;> rfl

theorem Call.request_final (call : Call α β) (answer : Exec ρ String (Response α)) (state : ρ) :
    (call.request answer).final state = answer.final state := by
  rw [Exec.final, Call.request_run]

theorem Call.request_returns_iff : (call.request answer).Returns state value ↔
    ∃ response, answer.Returns state response ∧ call.read response = .ok value := by
  rw [Exec.Returns, Call.request_run]
  simp only [Exec.Returns]
  cases (answer.run state).1 <;> simp

theorem Call.perform_direct : call.perform Line.direct answer = call.request answer := rfl

/-- A response is read to a value only if its status is no error, its text is understood
and the call counts it as a success. -/
theorem Call.read_eq_ok {response : Response α} : call.read response = .ok value ↔
    response.raiseForStatus = none ∧ call.parseResponse response = .ok value ∧
      call.filterResponse value = .ok () ∧ call.checkSuccess value = none := by
  rw [Call.read]
  cases status : response.raiseForStatus with
  | some message => simp
  | none =>
      cases understood : call.parseResponse response with
      | error failure => cases failure <;> simp
      | ok parsed =>
          simp only [bind_eq_ok, true_and, Except.ok.injEq]
          constructor
          · rintro ⟨_, filtered, read⟩
            cases checked : call.checkSuccess parsed with
            | some message => simp [checked] at read
            | none =>
                simp only [checked, Except.ok.injEq] at read
                subst read
                exact ⟨rfl, filtered, checked⟩
          · rintro ⟨rfl, filtered, checked⟩
            exact ⟨(), filtered, by rw [checked]⟩

end Calls

namespace Session

variable {ρ α β : Type}

theorem send_bind (first : Exec ρ Raised α) (next : α → Exec ρ Raised β) :
    send (first >>= next) = send first >>= fun value => send (next value) := by
  apply Exec.eq_of_run
  intro session
  rw [Exec.run_bind]
  cases state : session.isAuthenticated with
  | false => rw [send_of_loggedOut _ state, send_of_loggedOut _ state]
  | true =>
      rw [send_of_loggedIn _ state, send_of_loggedIn _ state, Exec.run_bind]
      cases ran : first.run session.remote with
      | mk outcome after =>
          cases outcome with
          | error reason => rfl
          | ok value =>
              have moved : ({ session with remote := after } : Session ρ).isAuthenticated = true := state
              exact (send_of_loggedIn (next value) moved).symm

/-- What needs no request is the same on either side. -/
theorem send_lift (first : Exec ρ Raised α) (next : α → Except Raised β) :
    send (first >>= fun value => Exec.lift (next value)) =
      send first >>= fun value => Exec.lift (next value) := by
  apply Exec.eq_of_run
  intro session
  rw [Exec.run_bind]
  cases state : session.isAuthenticated with
  | false => rw [send_of_loggedOut _ state, send_of_loggedOut _ state]
  | true =>
      rw [send_of_loggedIn _ state, send_of_loggedIn _ state, Exec.run_bind]
      cases ran : first.run session.remote with
      | mk outcome after => cases outcome <;> rfl

theorem send_map (read : α → β) (request : Exec ρ Raised α) :
    send (read <$> request) = read <$> send request := send_lift request fun value => .ok (read value)

theorem perform_session (call : Call α β) (answer : Exec ρ String (Response α)) :
    call.perform Line.session answer = send (call.request answer) := (send_lift _ call.read).symm

end Session

end GoogleMusic
