import GoogleMusic.Api.Login

namespace GoogleMusic

open Foundation Host

variable {σ : Type}

/-- A device as the vendored client documents it. -/
structure Device.Documented (device : Device) : Prop where
  type : device.type = some "DESKTOP_APP" ∨ device.type = some "ANDROID" ∨ device.type = some "IOS"
  id : ∃ id, device.id = some id
  android : device.type = some "ANDROID" → ∃ rest, device.id = some ("0x" ++ rest)

def Device.ios (device : Device) : Bool := device.type = some "IOS"

def Device.mobile (device : Device) : Bool := device.type = some "ANDROID" || device.ios

/-- The device is the first one that can stream, under the id it streams with. -/
def ChoosesFirst (devices : List Device) (before after : Option String) : Prop :=
  match devices.find? Device.mobile with
  | none => after = before
  | some device =>
      device.type = some "ANDROID" ∧ (∃ rest, device.id = some ("0x" ++ rest) ∧ after = some rest) ∨
        device.type = some "IOS" ∧ ∃ id, device.id = some id ∧ after = some id

/-- The id of the first iOS device, and without one the device from before. -/
def iosOr (before : Option String) (devices : List Device) : Option String :=
  match devices.find? Device.ios with
  | none => before
  | some device => device.id

/-- No device can stream, or the first one that can is an iOS device, or its id is that of
the first iOS device or, where the list has none, of the device from before. -/
def IosFirst (devices : List Device) (before : Option String) : Prop :=
  match devices.find? Device.mobile with
  | none => True
  | some device =>
      device.type = some "IOS" ∨ ∃ rest, device.id = some ("0x" ++ rest) ∧
        ((∃ other, devices.find? Device.ios = some other ∧ other.id = some rest) ∨
          devices.find? Device.ios = none ∧ before = some rest)

def LoginSucceeds (client : Mobileclient σ) (email password : String) (before after : σ) : Prop :=
  (client.login email password).run before = (.ok true, after) ∨
    (client.login email password).run before = (.error .alreadyLoggedIn, after)

section Choice

variable {devices : List Device} {device : Device} {before : Option String}

theorem chooseDevice_documented (documented : ∀ device ∈ devices, device.Documented) :
    chooseDevice before devices = .ok (iosOr before devices) := by
  induction devices with
  | nil => rfl
  | cons device devices ih =>
      have rest := ih fun other member => documented other (List.mem_cons_of_mem _ member)
      have known := documented device List.mem_cons_self
      obtain ⟨id, hasId⟩ := known.id
      rcases known.type with desktop | android | ios
      · simpa [chooseDevice, desktop, field, bind, Except.bind, iosOr, Device.ios] using rest
      · simpa [chooseDevice, android, field, bind, Except.bind, iosOr, Device.ios] using rest
      · simp [chooseDevice, ios, hasId, field, bind, Except.bind, pure, Except.pure, iosOr, Device.ios]

theorem find_ios_of_first (first : devices.find? Device.mobile = some device)
    (ios : device.ios = true) : devices.find? Device.ios = some device := by
  obtain ⟨_, front, back, split, earlier⟩ := List.find?_eq_some_iff_append.mp first
  refine List.find?_eq_some_iff_append.mpr ⟨ios, front, back, split, fun other inside => ?_⟩
  have stationary := earlier other inside
  simp only [Device.mobile, Bool.not_or, Bool.and_eq_true] at stationary
  exact stationary.2

theorem find_ios_of_none (stationary : devices.find? Device.mobile = none) :
    devices.find? Device.ios = none := by
  rw [List.find?_eq_none] at stationary ⊢
  intro device member ios
  exact stationary device member (by rw [Device.mobile, ios, Bool.or_true])

theorem choosesFirst_iff (documented : ∀ device ∈ devices, device.Documented) :
    ChoosesFirst devices before (iosOr before devices) ↔ IosFirst devices before := by
  rw [ChoosesFirst, IosFirst]
  cases first : devices.find? Device.mobile with
  | none => simp [iosOr, find_ios_of_none first]
  | some device =>
      have known := documented device (List.mem_of_find?_eq_some first)
      have mobile := List.find?_some first
      simp only [Device.mobile, Device.ios, Bool.or_eq_true, decide_eq_true_eq] at mobile
      rcases mobile with android | ios
      · rw [iosOr]
        cases ios : devices.find? Device.ios <;> simp [android]
      · obtain ⟨id, hasId⟩ := known.id
        have found := find_ios_of_first first (by simpa [Device.ios] using ios)
        simp [iosOr, found, ios, hasId]

end Choice

section Login

variable {client : Mobileclient σ} {email password : String} {host : Host σ} {service : σ}
variable {devices : List Device} {device : Option String}

theorem authenticate_device (succeeds : LoginSucceeds client email password host.service service)
    (listed : client.getRegisteredDevices.Returns service devices)
    (chosen : chooseDevice host.api.device devices = .ok device) :
    ((authenticate client [email, password]).final host).api.device = device := by
  obtain ⟨after, ran⟩ := Exec.returns_iff_run.mp listed
  rcases succeeds with granted | already
  · simp [authenticate, Exec.final, onService, onApi, setAllAccess, getDeviceId, granted, ran, chosen]
  · simp [authenticate, Exec.final, onService, onApi, setAllAccess, getDeviceId, already, ran, chosen]

end Login

/-- After a login the first device that can stream is chosen exactly if it is an iOS
device, or the id that stands in its place is its own. -/
theorem authenticate_choosesFirst_iff (client : Mobileclient σ) (email password : String)
    (host : Host σ) (service : σ) (devices : List Device)
    (succeeds : LoginSucceeds client email password host.service service)
    (listed : client.getRegisteredDevices.Returns service devices)
    (documented : ∀ device ∈ devices, device.Documented) :
    ChoosesFirst devices host.api.device
        ((authenticate client [email, password]).final host).api.device ↔
      IosFirst devices host.api.device := by
  rw [authenticate_device succeeds listed (chooseDevice_documented documented)]
  exact choosesFirst_iff documented

def deviceClient (devices : List Device) : Mobileclient Unit where
  toEndpoints := { Endpoints.unavailable with getRegisteredDevices := pure devices }
  login _ _ := pure true

def iPhone : Device where
  type := some "IOS"
  id := some "ios:01234567-0123-0123-0123-0123456789AB"

def nexus : Device where
  type := some "ANDROID"
  id := some "0x00112233aabbccdd"

def computer : Device where
  type := some "DESKTOP_APP"
  id := some "AA:BB:CC:11:22:33"

theorem computer_documented : computer.Documented where
  type := Or.inl rfl
  id := ⟨_, rfl⟩
  android impossible := absurd impossible (by decide)

theorem iPhone_documented : iPhone.Documented where
  type := Or.inr (Or.inr rfl)
  id := ⟨_, rfl⟩
  android impossible := absurd impossible (by decide)

theorem nexus_documented : nexus.Documented where
  type := Or.inr (Or.inl rfl)
  id := ⟨_, rfl⟩
  android _ := ⟨"00112233aabbccdd", rfl⟩

theorem iPhone_chosen : ChoosesFirst [computer, iPhone] none
    ((authenticate (deviceClient [computer, iPhone]) ["user", "secret"]).final
      { api := {}, service := () }).api.device :=
  (authenticate_choosesFirst_iff (deviceClient [computer, iPhone]) "user" "secret"
    { api := {}, service := () } () [computer, iPhone] (Or.inl rfl) rfl (by
      intro device member
      rcases List.mem_pair.mp member with rfl | rfl
      · exact computer_documented
      · exact iPhone_documented)).mpr (Or.inl rfl)

/-- The only device that can stream is an Android device, and the login leaves none. -/
theorem nexus_not_chosen : nexus.Documented ∧
    LoginSucceeds (deviceClient [computer, nexus]) "user" "secret" () () ∧
    (authenticate (deviceClient [computer, nexus]) ["user", "secret"]).Returns
      { api := {}, service := () } true ∧
    ¬ ChoosesFirst [computer, nexus] none
      ((authenticate (deviceClient [computer, nexus]) ["user", "secret"]).final
        { api := {}, service := () }).api.device := by
  refine ⟨nexus_documented, Or.inl rfl, rfl, fun chosen => ?_⟩
  rcases chosen with ⟨_, rest, _, kept⟩ | ⟨ios, _⟩
  · cases kept
  · exact absurd ios (by decide)

end GoogleMusic
