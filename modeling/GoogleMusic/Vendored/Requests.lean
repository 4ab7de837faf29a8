import GoogleMusic.Foundation.Runs
import GoogleMusic.Vendored.Mutations

/-! # Requests built from shared dictionaries

A call class keeps its constant headers and parameters in dictionaries of its own, which
its subclasses share.  Building a request updates the parameter dictionary in place and
hands out the dictionary itself, and the session writes its token into the headers in the
same way.  What one call leaves behind is there when the next one is built, of this or of
another subclass, and the runs here follow what is sent nevertheless.
-/

namespace GoogleMusic

open Foundation

/-- A parameter; `none` is Python's, which is not sent. -/
abbrev Param := Option Value

/-- The classes that own constant headers or parameters. -/
inductive Slot where
  | mcListCall
  | mcBatchMutateCall
  | listStationTracks
  | getStoreTrack
  | getGenres
  | getArtist
  | getAlbum
  | getDeviceManagementInfo
  | incrementPlayCount
deriving DecidableEq

/-- `static_headers`. -/
def Slot.headers : Slot → Dictionary String String
  | .mcListCall | .mcBatchMutateCall | .listStationTracks | .getStoreTrack | .incrementPlayCount =>
      AList.singleton "Content-Type" "application/json"
  | .getGenres | .getArtist | .getAlbum | .getDeviceManagementInfo => ∅

/-- `static_params`. -/
def Slot.params : Slot → Dictionary String Param
  | .mcListCall | .listStationTracks =>
      (AList.singleton "alt" (some (.text "json"))).insert "include-tracks" (some (.text "true"))
  | .mcBatchMutateCall | .getStoreTrack | .getGenres | .getArtist | .getAlbum
  | .getDeviceManagementInfo | .incrementPlayCount => AList.singleton "alt" (some (.text "json"))

/-- The calls, with the arguments that their headers and parameters depend on.  The list
calls and the batch calls are each told apart by their URLs only. -/
inductive Invocation where
  | list (updatedMin : Int)
  | batch
  | stationTracks
  | storeTrack (trackId : String)
  | genres (parentGenreId : Option String)
  | artist (artistId : String) (includeAlbums : Bool) (numTopTracks numRelArtist : Int)
  | album (albumId : String) (tracks : Bool)
  | devices
  | playCount
  | search (query : String) (maxResults : Int)
  | streamUrl (songId deviceId quality sig slt : String)
deriving DecidableEq

namespace Invocation

def paramSlot : Invocation → Option Slot
  | list _ => some .mcListCall
  | batch => some .mcBatchMutateCall
  | stationTracks => some .listStationTracks
  | storeTrack _ => some .getStoreTrack
  | genres _ => some .getGenres
  | artist _ _ _ _ => some .getArtist
  | album _ _ => some .getAlbum
  | devices => some .getDeviceManagementInfo
  | playCount => some .incrementPlayCount
  | search _ _ | streamUrl _ _ _ _ _ => none

def headerSlot : Invocation → Option Slot
  | list _ => some .mcListCall
  | batch => some .mcBatchMutateCall
  | stationTracks => some .listStationTracks
  | storeTrack _ => some .getStoreTrack
  | playCount => some .incrementPlayCount
  | genres _ | artist _ _ _ _ | album _ _ | devices | search _ _ | streamUrl _ _ _ _ _ => none

/-- `dynamic_params`. -/
def dynamicParams : Invocation → Dictionary String Param
  | list updatedMin => AList.singleton "updated-min" (some (.number updatedMin))
  | storeTrack trackId => AList.singleton "nid" (some (.text trackId))
  | genres parentGenreId => AList.singleton "parent-genre" (parentGenreId.map .text)
  | artist artistId includeAlbums numTopTracks numRelArtist =>
      (((AList.singleton "nid" (some (.text artistId))).insert
        "include-albums" (some (.flag includeAlbums))).insert
        "num-top-tracks" (some (.number numTopTracks))).insert
        "num-related-artists" (some (.number numRelArtist))
  | album albumId tracks =>
      (AList.singleton "nid" (some (.text albumId))).insert "include-tracks" (some (.flag tracks))
  | search query maxResults =>
      (AList.singleton "q" (some (.text query))).insert "max-results" (some (.number maxResults))
  | streamUrl songId _ quality sig slt =>
      (((((AList.singleton "opt" (some (.text quality))).insert "net" (some (.text "mob"))).insert
        "pt" (some (.text "e"))).insert "slt" (some (.text slt))).insert "sig" (some (.text sig))).insert
        (if songId.startsWith "T" then "mjck" else "songid") (some (.text songId))
  | batch | stationTracks | devices | playCount => ∅

/-- `dynamic_headers`. -/
def dynamicHeaders : Invocation → Dictionary String String
  | streamUrl _ deviceId _ _ _ => AList.singleton "X-Device-ID" deviceId
  | _ => ∅

/-- Of a stream's id the first character is looked at, which an empty one has not. -/
def builds : Invocation → Bool
  | streamUrl songId _ _ _ _ => songId != ""
  | _ => true

end Invocation

structure Sent where
  params : Dictionary String Param
  headers : Dictionary String String

/-- What the process keeps between two calls: the class dictionaries and the session. -/
structure Caller where
  staticHeaders : Slot → Dictionary String String
  staticParams : Slot → Dictionary String Param
  isAuthenticated : Bool
  masterToken : Option String
  authtoken : Option String

def Caller.started : Caller where
  staticHeaders := Slot.headers
  staticParams := Slot.params
  isAuthenticated := false
  masterToken := none
  authtoken := none

namespace Caller

/-- The entry of `build_request` for the parameters: where the class has some of its own,
they are updated in place. -/
def buildParams (caller : Caller) (invocation : Invocation) : Dictionary String Param × Caller :=
  match invocation.paramSlot with
  | some slot =>
      let params := (caller.staticParams slot).update invocation.dynamicParams
      (params, { caller with staticParams := Function.update caller.staticParams slot params })
  | none => (invocation.dynamicParams, caller)

def buildHeaders (caller : Caller) (invocation : Invocation) : Dictionary String String :=
  match invocation.headerSlot with
  | some slot => caller.staticHeaders slot
  | none => invocation.dynamicHeaders

/-- A write to the headers of a request, which may be those of the class. -/
def writeHeaders (caller : Caller) (invocation : Invocation) (headers : Dictionary String String) :
    Caller :=
  match invocation.headerSlot with
  | some slot => { caller with staticHeaders := Function.update caller.staticHeaders slot headers }
  | none => caller

/-- `perform` up to the response, with what it sends.  `delivered` is whether the transport
brings a response back at all; then the token is blotted out. -/
def perform (invocation : Invocation) (delivered : Bool) (caller : Caller) : Option Sent × Caller :=
  if invocation.builds then
    let (params, caller) := caller.buildParams invocation
    if caller.isAuthenticated then
      match caller.authtoken with
      | none => (none, caller)
      | some token =>
          let headers := (caller.buildHeaders invocation).insert "Authorization"
            ("GoogleLogin auth=" ++ token)
          let caller := caller.writeHeaders invocation headers
          (some { params, headers },
            if delivered then
              caller.writeHeaders invocation (headers.insert "Authorization" "<omitted>")
            else caller)
    else (none, caller)
  else (none, caller)

/-- The session's `login`, with the two tokens as they are granted. -/
def login (master auth : Option String) (caller : Caller) : Caller :=
  if caller.isAuthenticated then caller
  else
    match master with
    | none => caller
    | some token =>
        match auth with
        | none => { caller with masterToken := some token }
        | some authtoken =>
            { caller with
              masterToken := some token, authtoken := some authtoken, isAuthenticated := true }

def logout (caller : Caller) : Caller := { caller with isAuthenticated := false }

end Caller

inductive CallerStep where
  | login (master auth : Option String)
  | logout
  | perform (invocation : Invocation) (delivered : Bool)
deriving DecidableEq

def callerSystem : System Caller CallerStep where
  step
    | .login master auth, caller => some (caller.login master auth)
    | .logout, caller => some caller.logout
    | .perform invocation delivered, caller => some (caller.perform invocation delivered).2

namespace Invocation

/-- The request as the class declares it: the constants, this call's own values over them,
and the token. -/
def plainParams (invocation : Invocation) : Dictionary String Param :=
  match invocation.paramSlot with
  | some slot => slot.params.update invocation.dynamicParams
  | none => invocation.dynamicParams

def plainHeaders (invocation : Invocation) (token : String) : Dictionary String String :=
  (match invocation.headerSlot with
    | some slot => slot.headers
    | none => invocation.dynamicHeaders).insert "Authorization" ("GoogleLogin auth=" ++ token)

end Invocation

/-- The two requests agree under every key. -/
structure Sent.Carries (sent : Sent) (invocation : Invocation) (token : String) : Prop where
  params : ∀ key, sent.params.lookup key = invocation.plainParams.lookup key
  headers : ∀ key, sent.headers.lookup key = (invocation.plainHeaders token).lookup key

/-- What a step sends, it sends as the class declares it and with the session's token, and it
sends every request that can be built while the session is authenticated, and no other. -/
def SendsPlain : CallerStep → Caller → Prop
  | .perform invocation delivered, caller =>
      ((caller.perform invocation delivered).1.isSome = true ↔
        invocation.builds = true ∧ caller.isAuthenticated = true) ∧
      ∀ sent, (caller.perform invocation delivered).1 = some sent →
        ∃ token, caller.authtoken = some token ∧ sent.Carries invocation token
  | _, _ => True

/-- The parameters that the calls of a class write. -/
def Slot.keys : Slot → List String
  | .mcListCall => ["updated-min"]
  | .getStoreTrack => ["nid"]
  | .getGenres => ["parent-genre"]
  | .getArtist => ["nid", "include-albums", "num-top-tracks", "num-related-artists"]
  | .getAlbum => ["nid", "include-tracks"]
  | .mcBatchMutateCall | .listStationTracks | .getDeviceManagementInfo | .incrementPlayCount => []

/-- Two calls of one class write the same parameters, so that nothing of the one is left for
the other. -/
theorem dynamicParams_keys {invocation : Invocation} {slot : Slot}
    (owned : invocation.paramSlot = some slot) (key : String) :
    key ∈ invocation.dynamicParams ↔ key ∈ slot.keys := by
  cases invocation <;> cases owned <;>
    simp [Invocation.dynamicParams, Slot.keys, AList.mem_keys, or_comm, or_left_comm]

structure Caller.Sound (caller : Caller) : Prop where
  params : ∀ slot, ∀ key ∉ slot.keys, (caller.staticParams slot).lookup key = slot.params.lookup key
  headers : ∀ slot key, key ≠ "Authorization" →
    (caller.staticHeaders slot).lookup key = slot.headers.lookup key
  token : caller.isAuthenticated = true → caller.authtoken.isSome = true

theorem Caller.started_sound : Caller.started.Sound where
  params _ _ _ := rfl
  headers _ _ _ := rfl
  token loggedIn := by cases loggedIn

namespace Caller

variable {caller : Caller} {invocation : Invocation} {delivered : Bool}

theorem buildParams_plain (sound : caller.Sound) (invocation : Invocation) (key : String) :
    (caller.buildParams invocation).1.lookup key = invocation.plainParams.lookup key := by
  cases owned : invocation.paramSlot with
  | none => simp only [buildParams, Invocation.plainParams, owned]
  | some slot =>
      simp only [buildParams, Invocation.plainParams, owned, Dictionary.lookup_update]
      by_cases written : key ∈ slot.keys
      · obtain ⟨value, found⟩ := Option.isSome_iff_exists.mp
          (AList.lookup_isSome.mpr ((dynamicParams_keys owned key).mpr written))
        rw [found]
        rfl
      · rw [sound.params slot key written]

theorem buildParams_sound (sound : caller.Sound) (invocation : Invocation) :
    (caller.buildParams invocation).2.Sound := by
  cases owned : invocation.paramSlot with
  | none =>
      simp only [buildParams, owned]
      exact sound
  | some slot =>
      simp only [buildParams, owned]
      refine ⟨fun other key unwritten => ?_, sound.headers, sound.token⟩
      dsimp only
      by_cases same : other = slot
      · subst same
        have absent : invocation.dynamicParams.lookup key = none :=
          AList.lookup_eq_none.mpr ((dynamicParams_keys owned key).not.mpr unwritten)
        rw [Function.update_self, Dictionary.lookup_update, absent]
        exact sound.params other key unwritten
      · rw [Function.update_of_ne same]
        exact sound.params other key unwritten

theorem buildParams_session (caller : Caller) (invocation : Invocation) :
    (caller.buildParams invocation).2.isAuthenticated = caller.isAuthenticated ∧
      (caller.buildParams invocation).2.authtoken = caller.authtoken ∧
      (caller.buildParams invocation).2.staticHeaders = caller.staticHeaders := by
  unfold buildParams
  split <;> exact ⟨rfl, rfl, rfl⟩

theorem buildHeaders_plain (sound : caller.Sound) {key : String} (other : key ≠ "Authorization") :
    (caller.buildHeaders invocation).lookup key =
      (match invocation.headerSlot with
        | some slot => slot.headers
        | none => invocation.dynamicHeaders).lookup key := by
  cases owned : invocation.headerSlot with
  | none => simp only [buildHeaders, owned]
  | some slot =>
      simp only [buildHeaders, owned]
      exact sound.headers slot key other

/-- A write of headers that differ from the class's in the token only. -/
theorem writeHeaders_sound (sound : caller.Sound) {headers : Dictionary String String}
    (same : ∀ key, key ≠ "Authorization" →
      headers.lookup key = (caller.buildHeaders invocation).lookup key) :
    (caller.writeHeaders invocation headers).Sound := by
  cases owned : invocation.headerSlot with
  | none =>
      simp only [writeHeaders, owned]
      exact sound
  | some slot =>
      simp only [writeHeaders, owned]
      refine ⟨sound.params, fun other key differs => ?_, sound.token⟩
      dsimp only
      by_cases here : other = slot
      · subst here
        rw [Function.update_self, same key differs, buildHeaders_plain sound differs, owned]
      · rw [Function.update_of_ne here]
        exact sound.headers other key differs

theorem buildHeaders_writeHeaders {headers : Dictionary String String} {key : String}
    (same : headers.lookup key = (caller.buildHeaders invocation).lookup key) :
    ((caller.writeHeaders invocation headers).buildHeaders invocation).lookup key =
      (caller.buildHeaders invocation).lookup key := by
  cases owned : invocation.headerSlot with
  | none => simp only [buildHeaders, owned]
  | some slot =>
      simp only [buildHeaders, owned] at same
      simp only [writeHeaders, buildHeaders, owned, Function.update_self, same]

/-- All that a call can do: nothing leaves without a session, and a response blots out the
token. -/
inductive Performed (invocation : Invocation) (delivered : Bool) (caller : Caller) :
    Option Sent × Caller → Prop where
  | broken (fails : invocation.builds = false) : Performed invocation delivered caller (none, caller)
  | refused (loggedOut : caller.isAuthenticated = false) :
      Performed invocation delivered caller (none, (caller.buildParams invocation).2)
  | tokenless (loggedIn : caller.isAuthenticated = true) (absent : caller.authtoken = none) :
      Performed invocation delivered caller (none, (caller.buildParams invocation).2)
  | sent {token : String} {headers : Dictionary String String} (builds : invocation.builds = true)
      (loggedIn : caller.isAuthenticated = true) (present : caller.authtoken = some token)
      (built : headers = ((caller.buildParams invocation).2.buildHeaders invocation).insert
        "Authorization" ("GoogleLogin auth=" ++ token)) :
      Performed invocation delivered caller
        (some { params := (caller.buildParams invocation).1, headers },
          if delivered then
            ((caller.buildParams invocation).2.writeHeaders invocation headers).writeHeaders invocation
              (headers.insert "Authorization" "<omitted>")
          else (caller.buildParams invocation).2.writeHeaders invocation headers)

theorem perform_performed (invocation : Invocation) (delivered : Bool) (caller : Caller) :
    Performed invocation delivered caller (caller.perform invocation delivered) := by
  obtain ⟨flag, token, _⟩ := buildParams_session caller invocation
  cases builds : invocation.builds with
  | false =>
      simp only [perform, builds]
      exact .broken builds
  | true =>
      cases loggedIn : caller.isAuthenticated with
      | false =>
          simp only [perform, builds, flag, loggedIn]
          exact .refused loggedIn
      | true =>
          cases present : caller.authtoken with
          | none =>
              simp only [perform, builds, flag, loggedIn, token, present]
              exact .tokenless loggedIn present
          | some text =>
              simp only [perform, builds, flag, loggedIn, token, present]
              exact .sent builds loggedIn present rfl

theorem perform_sound (sound : caller.Sound) : (caller.perform invocation delivered).2.Sound := by
  have kept := buildParams_sound sound invocation
  have outcome := perform_performed invocation delivered caller
  generalize caller.perform invocation delivered = result at outcome
  cases outcome with
  | broken fails => exact sound
  | refused loggedOut => exact kept
  | tokenless loggedIn absent => exact kept
  | @sent token headers builds loggedIn present built =>
      have same : ∀ key, key ≠ "Authorization" → headers.lookup key =
          ((caller.buildParams invocation).2.buildHeaders invocation).lookup key :=
        fun key other => by rw [built, AList.lookup_insert_ne other]
      have written : (Caller.writeHeaders _ invocation headers).Sound := writeHeaders_sound kept same
      cases delivered with
      | false => exact written
      | true =>
          apply writeHeaders_sound written
          intro key other
          rw [AList.lookup_insert_ne other, buildHeaders_writeHeaders (same key other)]
          exact same key other

theorem login_sound (sound : caller.Sound) (master auth : Option String) :
    (caller.login master auth).Sound := by
  unfold login
  split
  · exact sound
  · split
    · exact sound
    · split
      · exact ⟨sound.params, sound.headers, sound.token⟩
      · exact ⟨sound.params, sound.headers, fun _ => rfl⟩

theorem step_sound {label : CallerStep} {next : Caller} (sound : caller.Sound)
    (step : callerSystem.step label caller = some next) : next.Sound := by
  cases label with
  | login master auth =>
      cases step
      exact login_sound sound master auth
  | logout =>
      cases step
      exact ⟨sound.params, sound.headers, fun loggedIn => by cases loggedIn⟩
  | perform invocation delivered =>
      cases step
      exact perform_sound sound

theorem sendsPlain_of_sound (sound : caller.Sound) (label : CallerStep) : SendsPlain label caller := by
  cases label with
  | login master auth => exact True.intro
  | logout => exact True.intro
  | perform invocation delivered =>
      rw [SendsPlain]
      have outcome := perform_performed invocation delivered caller
      generalize caller.perform invocation delivered = result at outcome
      cases outcome with
      | broken fails => simp [fails]
      | refused loggedOut => simp [loggedOut]
      | tokenless loggedIn absent =>
          have held := sound.token loggedIn
          rw [absent] at held
          cases held
      | @sent token headers builds loggedIn present built =>
          refine ⟨iff_of_true rfl ⟨builds, loggedIn⟩, fun sent made => ⟨token, present, ?_⟩⟩
          cases made
          refine ⟨buildParams_plain sound invocation, fun key => ?_⟩
          by_cases same : key = "Authorization"
          · subst same
            rw [built, Invocation.plainHeaders, AList.lookup_insert, AList.lookup_insert]
          · rw [built, Invocation.plainHeaders, AList.lookup_insert_ne same, AList.lookup_insert_ne same]
            exact buildHeaders_plain (buildParams_sound sound invocation) same

end Caller

/-- Through whatever logins, logouts and calls, answered or not: no request carries another
call's parameters or an old token. -/
theorem always_sendsPlain (labels : List CallerStep) :
    callerSystem.Admits SendsPlain labels Caller.started := by
  have always : callerSystem.Always Caller.Sound labels Caller.started :=
    System.always_of_keeps (fun sound step _ => Caller.step_sound sound step) Caller.started_sound
      (System.admits_of_forall fun _ _ => True.intro : callerSystem.Admits (fun _ _ => True) _ _)
  exact always.admits fun label caller sound => Caller.sendsPlain_of_sound sound label

/-- No class keeps a token in its headers, where the next request of any of its subclasses,
and the text of a failed one, would have it. -/
def Caller.Tidy (caller : Caller) : Prop :=
  ∀ slot token, (caller.staticHeaders slot).lookup "Authorization" ≠ some ("GoogleLogin auth=" ++ token)

/-- The call leaves the process without a session, or has headers of its own, or is
answered. -/
def Untraced : CallerStep → Caller → Prop
  | .perform invocation delivered, caller =>
      caller.isAuthenticated = true → invocation.headerSlot.isSome = true → delivered = true
  | _, _ => True

theorem omitted_ne_token (token : String) : "<omitted>" ≠ "GoogleLogin auth=" ++ token := by
  intro same
  have first := congrArg (fun text : String => text.toList.head?) same
  simp at first

namespace Caller

variable {caller next : Caller} {label : CallerStep}

theorem Tidy.writeHeaders (tidy : caller.Tidy) {headers : Dictionary String String}
    (clean : ∀ token, headers.lookup "Authorization" ≠ some ("GoogleLogin auth=" ++ token))
    (invocation : Invocation) : (caller.writeHeaders invocation headers).Tidy := by
  cases owned : invocation.headerSlot with
  | none =>
      simp only [Caller.writeHeaders, owned]
      exact tidy
  | some slot =>
      simp only [Caller.writeHeaders, owned]
      intro other token
      dsimp only
      by_cases same : other = slot
      · rw [same, Function.update_self]
        exact clean token
      · rw [Function.update_of_ne same]
        exact tidy other token

/-- The headers that went out are written over before anything else reads them. -/
theorem writeHeaders_writeHeaders (caller : Caller) (invocation : Invocation)
    (first second : Dictionary String String) :
    (caller.writeHeaders invocation first).writeHeaders invocation second =
      caller.writeHeaders invocation second := by
  cases owned : invocation.headerSlot with
  | none => simp only [writeHeaders, owned]
  | some slot => simp only [writeHeaders, owned, Function.update_idem]

theorem step_tidy (tidy : caller.Tidy) (step : callerSystem.step label caller = some next)
    (untraced : Untraced label caller) : next.Tidy := by
  cases label with
  | login master auth =>
      cases step
      unfold login
      split
      · exact tidy
      · split
        · exact tidy
        · split <;> exact tidy
  | logout =>
      cases step
      exact tidy
  | perform invocation delivered =>
      cases step
      have built : (caller.buildParams invocation).2.Tidy := by
        intro slot token
        rw [(buildParams_session caller invocation).2.2]
        exact tidy slot token
      have outcome := perform_performed invocation delivered caller
      generalize caller.perform invocation delivered = result at outcome
      cases outcome with
      | broken fails => exact tidy
      | refused loggedOut => exact built
      | tokenless loggedIn absent => exact built
      | @sent token headers builds loggedIn present written =>
          cases delivered with
          | true =>
              simp only [if_true, writeHeaders_writeHeaders]
              refine built.writeHeaders (fun other found => ?_) invocation
              rw [AList.lookup_insert] at found
              exact omitted_ne_token other (Option.some.inj found)
          | false =>
              cases owned : invocation.headerSlot with
              | none =>
                  simp only [Caller.writeHeaders, owned, ite_self]
                  exact built
              | some slot =>
                  have answered := untraced loggedIn (Option.isSome_iff_exists.mpr ⟨slot, owned⟩)
                  cases answered

/-- A call that goes out and is not answered leaves its token to the class. -/
theorem step_untidy (sound : caller.Sound) (step : callerSystem.step label caller = some next)
    (traced : ¬ Untraced label caller) : ¬ next.Tidy := by
  cases label with
  | login master auth => exact absurd True.intro traced
  | logout => exact absurd True.intro traced
  | perform invocation delivered =>
      cases step
      simp only [Untraced, not_forall] at traced
      obtain ⟨loggedIn, shared, unanswered⟩ := traced
      obtain ⟨slot, owned⟩ := Option.isSome_iff_exists.mp shared
      have outcome := perform_performed invocation delivered caller
      generalize caller.perform invocation delivered = result at outcome
      cases outcome with
      | broken fails => cases invocation <;> first | cases fails | cases owned
      | refused loggedOut =>
          rw [loggedIn] at loggedOut
          cases loggedOut
      | tokenless flag absent =>
          have held := sound.token loggedIn
          rw [absent] at held
          cases held
      | @sent token headers builds flag present written =>
          rw [if_neg unanswered]
          intro tidy
          apply tidy slot token
          simp only [Caller.writeHeaders, owned, Function.update_self]
          rw [written, AList.lookup_insert]

end Caller

/-- The token stays out of the classes' own headers exactly as long as every request that
is sent with them brings a response back: it is the response that has it blotted out. -/
theorem always_tidy_iff (labels : List CallerStep) :
    callerSystem.Always Caller.Tidy labels Caller.started ↔
      callerSystem.Admits Untraced labels Caller.started := by
  refine System.always_iff_admits (fun caller => caller.Sound ∧ caller.Tidy)
    (fun _ held => held.2) (fun held step untraced => ?_) (fun held step traced => ?_) ?_
  · exact ⟨Caller.step_sound held.1 step, Caller.step_tidy held.2 step untraced⟩
  · exact Caller.step_untidy held.1 step traced
  · have absent : ∀ slot, (Slot.headers slot).lookup "Authorization" = none := by
      intro slot
      cases slot <;> rfl
    refine ⟨Caller.started_sound, fun slot token => ?_⟩
    rw [Caller.started, absent slot]
    nofun

end GoogleMusic
