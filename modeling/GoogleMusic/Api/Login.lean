import GoogleMusic.Api.State
import GoogleMusic.Api.Client

namespace GoogleMusic

open Foundation

structure Host (σ : Type) where
  api : GMusic
  service : σ

namespace Host

variable {σ α : Type}

def onApi (body : Exec GMusic Raised α) : Exec (Host σ) Raised α :=
  Exec.zoom api (fun api host => { host with api }) body

def onService (request : Exec σ Raised α) : Exec (Host σ) Raised α :=
  Exec.zoom service (fun service host => { host with service }) request

end Host

def Host.signedIn : Host (Session Unit) where
  api := { authenticated := true, allAccess := true }
  service := { isAuthenticated := true, remote := () }

open Host

variable {σ : Type}

/-- The loop of `_get_device_id`: the first phone or iOS device decides, and with
none the device stays what it was. -/
def chooseDevice (device : Option String) : List Device → Except Raised (Option String)
  | [] => .ok device
  | dev :: devices => do
      let type ← field "type" dev.type
      if type = "PHONE" then do
        let id ← field "id" dev.id
        pure (some (String.ofList (id.toList.drop 2)))
      else if type = "IOS" then do
        let id ← field "id" dev.id
        pure (some id)
      else chooseDevice device devices

def getDeviceId (client : Mobileclient σ) : Exec (Host σ) Raised Unit := do
  let api ← Exec.gets Host.api
  if api.authenticated then do
    let devices ← onService client.getRegisteredDevices
    let device ← Exec.lift (chooseDevice api.device devices)
    onApi (Exec.modify fun api => { api with device })
  else pure ()

def setAllAccess : Exec (Host σ) Raised Unit :=
  onApi (Exec.modify fun api => { api with allAccess := true })

/-- `authenticate(self, email, password)`.  The argument list is explicit because the
wrappers call the method with none, which Python answers with a `TypeError`. -/
def authenticate (client : Mobileclient σ) : List String → Exec (Host σ) Raised Bool
  | [email, password] => do
      let mcauthenticated ← Exec.handle (onService (client.login email password)) fun
        | .alreadyLoggedIn => pure true
        | reason => Exec.raise reason
      onApi (Exec.modify fun api => { api with authenticated := mcauthenticated })
      setAllAccess
      getDeviceId client
      Exec.gets fun host => host.api.authenticated
  | _ => Exec.raise .typeError

section Outcomes

variable {client : Mobileclient σ} {email password : String} {host : Host σ} {service : σ}

theorem authenticate_raised (client : Mobileclient σ) {reason : Raised}
    (unexpected : reason ≠ .alreadyLoggedIn)
    (answered : (client.login email password).run host.service = (.error reason, service)) :
    (authenticate client [email, password]).run host = (.error reason, { host with service }) := by
  cases reason <;> first | exact absurd rfl unexpected | simp [authenticate, onService, answered]

theorem authenticate_refused (client : Mobileclient σ)
    (answered : (client.login email password).run host.service = (.ok false, service)) :
    (authenticate client [email, password]).run host =
      (.ok false, { api := { host.api with authenticated := false, allAccess := true }, service }) := by
  simp [authenticate, onService, answered, onApi, setAllAccess, getDeviceId]

/-- The device query of a host that is logged in writes only the device, and returns
exactly when the devices could be listed and their loop did not raise. -/
theorem getDeviceId_run (client : Mobileclient σ) (host : Host σ)
    (loggedIn : host.api.authenticated = true) :
    ∃ outcome device, (getDeviceId client).run host =
      (outcome, { api := { host.api with device }
                  service := client.getRegisteredDevices.final host.service }) ∧
      (outcome = .ok () ↔ ∃ devices, client.getRegisteredDevices.Returns host.service devices ∧
        ∃ chosen, chooseDevice host.api.device devices = .ok chosen) := by
  cases listed : client.getRegisteredDevices.run host.service with
  | mk answer after =>
      cases answer with
      | error reason =>
          refine ⟨.error reason, host.api.device, ?_, by simp [Exec.Returns, listed]⟩
          simp only [getDeviceId, onService, Exec.run_bind, Exec.run_gets, loggedIn, if_true,
            Exec.run_zoom, listed, Exec.final]
          rw [← loggedIn]
      | ok devices =>
          cases chosen : chooseDevice host.api.device devices with
          | error reason =>
              refine ⟨.error reason, host.api.device, ?_, by simp [Exec.Returns, listed, chosen]⟩
              simp only [getDeviceId, onService, Exec.run_bind, Exec.run_gets, loggedIn, if_true,
                Exec.run_zoom, listed, Exec.final, Exec.run_lift, chosen]
              rw [← loggedIn]
          | ok device =>
              refine ⟨.ok (), device, ?_, by simp [Exec.Returns, listed, chosen]⟩
              simp only [getDeviceId, onService, onApi, Exec.run_bind, Exec.run_gets, loggedIn,
                if_true, Exec.run_zoom, listed, Exec.final, Exec.run_lift, chosen, Exec.run_modify]

/-- A login that succeeded sets both flags and then asks for the devices; whether that
raises or not, only the device is still written. -/
theorem authenticate_accepted (client : Mobileclient σ)
    (answered : (client.login email password).run host.service = (.ok true, service) ∨
      (client.login email password).run host.service = (.error .alreadyLoggedIn, service)) :
    ∃ outcome device, (authenticate client [email, password]).run host =
      (outcome, { api := { host.api with authenticated := true, allAccess := true, device }
                  service := client.getRegisteredDevices.final service }) ∧
      ((∃ value, outcome = .ok value) ↔
        ∃ devices, client.getRegisteredDevices.Returns service devices ∧
          ∃ chosen, chooseDevice host.api.device devices = .ok chosen) := by
  obtain ⟨outcome, device, ran, returned⟩ := getDeviceId_run client
    { api := { host.api with authenticated := true, allAccess := true }, service } rfl
  have continued : (authenticate client [email, password]).run host =
      (getDeviceId client >>= fun _ => Exec.gets fun host => host.api.authenticated).run
        { api := { host.api with authenticated := true, allAccess := true }, service } := by
    rcases answered with answered | answered <;>
      simp only [authenticate, onService, onApi, setAllAccess, Exec.run_bind, Exec.run_handle,
        Exec.run_zoom, answered, Exec.run_pure, Exec.run_modify]
  rw [continued, Exec.run_bind, ran]
  cases outcome with
  | error reason => exact ⟨.error reason, device, rfl, by simpa using returned⟩
  | ok done => exact ⟨.ok true, device, rfl, by simpa using returned⟩

theorem authenticate_api (client : Mobileclient σ) (arguments : List String) (host : Host σ) :
    ∃ authenticated allAccess device, ((authenticate client arguments).final host).api =
      { host.api with authenticated, allAccess, device } := by
  match arguments with
  | [] | [_] | _ :: _ :: _ :: _ => exact ⟨_, _, _, rfl⟩
  | [email, password] =>
      rw [Exec.final]
      cases answered : (client.login email password).run host.service with
      | mk outcome service =>
          cases outcome with
          | ok accepted =>
              cases accepted with
              | false => exact ⟨_, _, _, by rw [authenticate_refused client answered]⟩
              | true =>
                  obtain ⟨outcome, device, ran, _⟩ := authenticate_accepted client (.inl answered)
                  exact ⟨_, _, _, by rw [ran]⟩
          | error reason =>
              by_cases already : reason = .alreadyLoggedIn
              · subst already
                obtain ⟨outcome, device, ran, _⟩ := authenticate_accepted client (.inr answered)
                exact ⟨_, _, _, by rw [ran]⟩
              · exact ⟨_, _, _, by rw [authenticate_raised client already answered]⟩

theorem authenticate_sameLibrary (client : Mobileclient σ) (arguments : List String)
    (host : Host σ) :
    GMusic.SameLibrary host.api ((authenticate client arguments).final host).api := by
  obtain ⟨authenticated, allAccess, device, left⟩ := authenticate_api client arguments host
  rw [left]
  exact ⟨rfl, funext fun category => by cases category <;> rfl,
    funext fun category => by cases category <;> rfl, rfl⟩

theorem authenticate_keeps (inv : σ → Prop) (client : Mobileclient σ) (email password : String)
    (login : (client.login email password).Keeps inv)
    (devices : client.getRegisteredDevices.Keeps inv) :
    (authenticate client [email, password]).Keeps fun host : Host σ => inv host.service := by
  have asked : (getDeviceId client).Keeps fun host : Host σ => inv host.service := by
    refine (Exec.Keeps.gets _).bind fun api => .ite ?_ (.pure _)
    refine Exec.Keeps.bind (.zoom fun host => devices host.service) fun listed => ?_
    exact (Exec.Keeps.lift _).bind fun device => .zoom fun _ held => held
  refine Exec.Keeps.bind ?_ fun accepted => ?_
  · refine Exec.Keeps.handle (.zoom fun host => login host.service) fun reason => ?_
    cases reason <;> first | exact .pure _ | exact .raise _
  · have flagged : (onApi (Exec.modify fun api => { api with authenticated := accepted }) :
        Exec (Host σ) Raised Unit).Keeps fun host => inv host.service := fun _ held => held
    have allowed : (setAllAccess : Exec (Host σ) Raised Unit).Keeps fun host => inv host.service :=
      fun _ held => held
    exact flagged.bind fun _ => allowed.bind fun _ => asked.bind fun _ => .gets _

end Outcomes

section SessionLogin

variable {ρ : Type} {remote : Remote ρ} {email password : String} {host : Host (Session ρ)}

def ListsDevices (remote : Remote ρ) (device : Option String) (state : ρ) : Prop :=
  ∃ devices, remote.getRegisteredDevices.Returns state devices ∧
    ∃ chosen, chooseDevice device devices = .ok chosen

theorem authenticate_denied (loggedOut : host.service.isAuthenticated = false)
    (down : host.api.authenticated = false)
    (denied : ¬ (remote.performLogin email password).Returns host.service.remote true) :
    let after := (authenticate remote.withSession [email, password]).final host
    after.api.authenticated = false ∧ after.service.isAuthenticated = false := by
  have login := Session.login_of_loggedOut (remote.performLogin email password) loggedOut
  cases attempt : (remote.performLogin email password).run host.service.remote with
  | mk outcome state =>
      rw [attempt] at login
      cases outcome with
      | error name =>
          simp only [Exec.final, authenticate_raised remote.withSession (by simp) login]
          exact ⟨down, loggedOut⟩
      | ok granted =>
          cases granted with
          | true => exact absurd (by rw [Exec.Returns, attempt]) denied
          | false =>
              simp only [Exec.final, authenticate_refused remote.withSession login]
              trivial

theorem authenticate_granted (loggedOut : host.service.isAuthenticated = false)
    (granted : (remote.performLogin email password).Returns host.service.remote true) :
    let after := (authenticate remote.withSession [email, password]).final host
    after.api.authenticated = true ∧ after.service.isAuthenticated = true ∧
      ((∃ value, (authenticate remote.withSession [email, password]).Returns host value) ↔
        ListsDevices remote host.api.device
          ((remote.performLogin email password).final host.service.remote)) := by
  have login := Session.login_of_loggedOut (remote.performLogin email password) loggedOut
  cases attempt : (remote.performLogin email password).run host.service.remote with
  | mk answer state =>
      rw [Exec.Returns, attempt] at granted
      change answer = .ok true at granted
      subst granted
      rw [attempt] at login
      obtain ⟨outcome, device, ran, returned⟩ :=
        authenticate_accepted remote.withSession (.inl login)
      have listing : remote.withSession.getRegisteredDevices.run
          { isAuthenticated := true, remote := state } = _ :=
        Session.send_of_loggedIn remote.getRegisteredDevices rfl
      simp only [Exec.final, Exec.Returns, ran, attempt, ListsDevices]
      simp only [Exec.Returns, listing] at returned
      rw [listing, ← returned]
      simp

end SessionLogin

end GoogleMusic
