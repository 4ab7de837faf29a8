import GoogleMusic.Api.Wrappers

/-! # The protocol of the wrappers

A watched client logs the calls of one endpoint, and the logins with their device
queries.  The protocol reads the log of one wrapper call: when the endpoint may be
called again, where the result comes from, and which exceptions the caller may see.
-/

namespace GoogleMusic

open Foundation Host

variable {σ α β κ : Type}

inductive Event (α : Type) where
  | request (outcome : Except Raised α)
  | login (outcome : Except Raised Bool)
  | devices (outcome : Except Raised (List Device))

structure Watched (σ α : Type) where
  service : σ
  log : List (Event α)

def watch (event : Except Raised β → Event α) (body : Exec σ Raised β) :
    Exec (Watched σ α) Raised β := ⟨fun watched =>
  let answer := body.run watched.service
  (answer.1, { service := answer.2, log := watched.log ++ [event answer.1] })⟩

def unwatched (body : Exec σ Raised β) : Exec (Watched σ α) Raised β :=
  Exec.zoom Watched.service (fun service watched => { watched with service }) body

/-- The client with a log of its logins.  A wrapper is watched by replacing its endpoint
by one that is logged too. -/
def Mobileclient.watched (client : Mobileclient σ) : Mobileclient (Watched σ α) where
  login email password := watch .login (client.login email password)
  getRegisteredDevices := watch .devices client.getRegisteredDevices
  getAllSongs := unwatched client.getAllSongs
  getAllPlaylists := unwatched client.getAllPlaylists
  getAllUserPlaylistContents := unwatched client.getAllUserPlaylistContents
  getSharedPlaylistContents token := unwatched (client.getSharedPlaylistContents token)
  getAllStations := unwatched client.getAllStations
  getStationTracks id count := unwatched (client.getStationTracks id count)
  getGenres := unwatched client.getGenres
  createStation name id := unwatched (client.createStation name id)
  searchAllAccess query count := unwatched (client.searchAllAccess query count)
  getArtistInfo id albums tracks related :=
    unwatched (client.getArtistInfo id albums tracks related)
  getAlbumInfo id tracks := unwatched (client.getAlbumInfo id tracks)
  addAaTrack id := unwatched (client.addAaTrack id)
  addSongsToPlaylist playlist id := unwatched (client.addSongsToPlaylist playlist id)
  getStreamUrl id device := unwatched (client.getStreamUrl id device)

namespace Event

def request? : Event α → Option (Except Raised α)
  | .request outcome => some outcome
  | _ => none

/-- The exception the call raised.  A login raises also when its loop over the devices
does. -/
def raised : Event α → Option Raised
  | .request (.error reason) => some reason
  | .login (.error reason) => some reason
  | .devices (.error reason) => some reason
  | .devices (.ok listed) =>
      match chooseDevice none listed with
      | .error reason => some reason
      | .ok _ => none
  | _ => none

end Event

def requests (log : List (Event α)) : List (Except Raised α) := log.filterMap Event.request?

def answers (log : List (Event α)) : List α :=
  (requests log).filterMap fun outcome => outcome.toOption

/-- The log has a login that succeeded: it was granted or there had been one, and its
device query went through. -/
def Relogged (log : List (Event α)) : Prop :=
  (.login (.ok true) ∈ log ∨ .login (.error .alreadyLoggedIn) ∈ log) ∧
    ∀ outcome, .devices outcome ∈ log → (Event.devices outcome : Event α).raised = none

def Refused (log : List (Event α)) : Prop := .login (.ok false) ∈ log

/-- What tells one wrapper from another: what it returns of an answer, what it returns
after a refused login, its cache with what it keeps there of an answer, and the
exceptions that a raised one may be replaced by. -/
structure Policy (α β κ : Type) where
  result : α → β
  fallback : β
  cache : GMusic → κ
  stored : α → κ
  passes : Raised → Raised → Prop

def Policy.uncached (result : α → β) (fallback : β) : Policy α β Unit where
  result
  fallback
  cache _ := ()
  stored _ := ()
  passes := Eq

def Policy.cached (result : List α → β) (fallback : β) (cache : GMusic → List α) :
    Policy (List α) β (List α) where
  result
  fallback
  cache
  stored := id
  passes := Eq

/-- What the log of one call must look like beside its outcome.  `twice`, `again`: how
often the endpoint is called; `last`, `source`: where a result and the cache come from;
`refused`: after a login that failed; `raised`: what reaches the caller. -/
structure Protocol (policy : Policy α β κ) (log : List (Event α)) (outcome : Except Raised β)
    (before after : GMusic) : Prop where
  twice : (requests log).length ≤ 2
  again : (requests log).length = 2 ↔
    (requests log).head? = some (.error .notLoggedIn) ∧ Relogged log
  last : ∀ value, (answers log).getLast? = some value →
    outcome = .ok (policy.result value) ∧ policy.cache after = policy.stored value
  source : ∀ value, outcome = .ok value →
    requests log = [] ∧ policy.cache after = policy.cache before ∨ Refused log ∨ answers log ≠ []
  refused : Refused log → outcome = .ok policy.fallback ∧ policy.cache after = policy.cache before
  raised : ∀ reason, outcome = .error reason →
    ∃ event ∈ log, ∃ cause, event.raised = some cause ∧ policy.passes cause reason

def Obeys (policy : Policy α β κ) (body : Exec (Host (Watched σ α)) Raised β) (api : GMusic)
    (service : σ) : Prop :=
  let start : Host (Watched σ α) := { api, service := { service, log := [] } }
  Protocol policy (body.final start).service.log (body.run start).1 api (body.final start).api

section Blocks

variable {policy : Policy α β κ} {body : Exec (Host (Watched σ α)) Raised β}
variable {endpoint : Exec σ Raised α} {api after : GMusic} {service : σ} {value : α} {result : β}
variable {cause reason : Raised}

theorem protocol_of_no_call :
    Protocol policy ([] : List (Event α)) (.ok result) api api where
  twice := by simp [requests]
  again := by simp [requests]
  last := by simp [answers, requests]
  source _ _ := Or.inl ⟨rfl, rfl⟩
  refused := by simp [Refused]
  raised := by simp

theorem protocol_of_answer (fills : policy.cache after = policy.stored value) :
    Protocol policy [.request (.ok value)] (.ok (policy.result value)) api after where
  twice := by simp [requests, Event.request?]
  again := by simp [requests, Event.request?]
  last other same := by
    cases same
    exact ⟨rfl, fills⟩
  source _ _ := Or.inr (Or.inr (by simp [answers, requests, Event.request?, Except.toOption]))
  refused := by simp [Refused]
  raised := by simp

theorem protocol_of_raise (other : cause ≠ .notLoggedIn) (passes : policy.passes cause reason) :
    Protocol policy [.request (.error cause)] (.error reason : Except Raised β) api after where
  twice := by simp [requests, Event.request?]
  again := by simp [requests, Event.request?, other]
  last := by simp [answers, requests, Event.request?, Except.toOption]
  source := by simp
  refused := by simp [Refused]
  raised _ same := by
    cases same
    exact ⟨_, List.mem_cons_self, cause, rfl, passes⟩

theorem not_protocol_of_foreign (foreign : ¬ policy.passes cause reason) :
    ¬ Protocol policy [.request (.error cause)] (.error reason : Except Raised β) api after := by
  intro protocol
  obtain ⟨event, member, raised, same, passes⟩ := protocol.raised reason rfl
  cases List.mem_singleton.mp member
  cases same
  exact foreign passes

/-- A wrapper that calls its endpoint once follows the protocol if and only if the call
does not meet a session that is logged out. -/
theorem obeys_iff_of_run (escape : Raised → Raised) (after : GMusic)
    (ran : body.run { api, service := { service, log := [] } } =
      (((endpoint.run service).1.map policy.result).mapError escape,
        { api := after
          service := { service := endpoint.final service, log := [.request (endpoint.run service).1] } }))
    (fills : ∀ value, endpoint.Returns service value → policy.cache after = policy.stored value)
    (passes : ∀ reason, reason ≠ .notLoggedIn → policy.passes reason (escape reason))
    (foreign : ¬ policy.passes .notLoggedIn (escape .notLoggedIn)) :
    Obeys policy body api service ↔ ¬ endpoint.Raises service .notLoggedIn := by
  simp only [Obeys, Exec.final, ran, Exec.Raises]
  cases called : (endpoint.run service).1 with
  | ok value =>
      refine iff_of_true ?_ (by simp)
      exact protocol_of_answer (fills value called)
  | error reason =>
      by_cases loggedOut : reason = .notLoggedIn
      · subst loggedOut
        exact iff_of_false (not_protocol_of_foreign foreign) (by simp)
      · refine iff_of_true ?_ (by simpa using loggedOut)
        exact protocol_of_raise loggedOut (passes reason loggedOut)

end Blocks

section Shapes

variable {client : Mobileclient (Watched σ α)} {endpoint : Exec σ Raised α} {api : GMusic}
variable {service : σ}

theorem uncached_obeys_iff {attempt : Exec (Host (Watched σ α)) Raised β} {result : α → β}
    {fallback : β}
    (asks : ∀ host, attempt.run host = ((endpoint.run host.service.service).1.map result,
      { host with service := (watch .request endpoint).final host.service })) :
    Obeys (.uncached result fallback) (withRelogin client attempt fallback) api service ↔
      ¬ endpoint.Raises service .notLoggedIn := by
  refine obeys_iff_of_run Raised.escaping api (by rw [withRelogin_run, asks]; rfl) ?_ ?_ ?_
  · exact fun _ _ => rfl
  · exact fun _ => Raised.escaping_of_ne
  · exact Raised.noConfusion

theorem onService_asks (host : Host (Watched σ α)) :
    (onService (watch .request endpoint)).run host = ((endpoint.run host.service.service).1.map id,
      { host with service := (watch .request endpoint).final host.service }) := by
  rw [onService, Exec.run_zoom, watch, Except.map_id]
  rfl

theorem map_onService_asks (result : α → β) (host : Host (Watched σ α)) :
    (result <$> onService (watch .request endpoint)).run host =
      ((endpoint.run host.service.service).1.map result,
        { host with service := (watch .request endpoint).final host.service }) := by
  simp only [Exec.run_map, onService, Exec.run_zoom, watch, Exec.final]
  cases (endpoint.run host.service.service).1 <;> rfl

end Shapes

section CachedShape

variable {endpoint : Exec σ Raised (List α)} {read : GMusic → List α}
variable {write : List α → GMusic → GMusic} {api : GMusic} {service : σ}

def filling (write : List α → GMusic → GMusic) (api : GMusic) : Except Raised (List α) → GMusic
  | .ok values => write values api
  | .error _ => api

theorem cached_obeys_iff {body : Exec (Host (Watched σ (List α))) Raised β} {result : List α → β}
    {fallback : β} (write : List α → GMusic → GMusic)
    (stores : ∀ values api, read (write values api) = values)
    (asks : read api = [] → body.run { api, service := { service, log := [] } } =
      (((endpoint.run service).1.map result).mapError Raised.escaping,
        { api := filling write api (endpoint.run service).1
          service := { service := endpoint.final service, log := [.request (endpoint.run service).1] } }))
    (filled : read api ≠ [] → ∃ value, body.run { api, service := { service, log := [] } } =
      (.ok value, { api, service := { service, log := [] } })) :
    Obeys (.cached result fallback read) body api service ↔
      ¬ (read api = [] ∧ endpoint.Raises service .notLoggedIn) := by
  by_cases empty : read api = []
  · simp only [empty, true_and]
    refine obeys_iff_of_run Raised.escaping _ (asks empty) ?_ ?_ ?_
    · intro values returned
      rw [returned]
      exact stores values api
    · exact fun _ => Raised.escaping_of_ne
    · exact Raised.noConfusion
  · obtain ⟨value, ran⟩ := filled empty
    refine iff_of_true ?_ fun both => empty both.1
    simp only [Obeys, Exec.final, ran]
    exact protocol_of_no_call

theorem cachedList_obeys_iff {client : Mobileclient (Watched σ (List α))} {result : List α → β}
    {fallback : β} (stores : ∀ values api, read (write values api) = values) :
    Obeys (.cached result fallback read)
        (result <$> cachedList client (watch .request endpoint) read write) api service ↔
      ¬ (read api = [] ∧ endpoint.Raises service .notLoggedIn) := by
  refine cached_obeys_iff write stores (fun empty => ?_) fun nonempty => ⟨result (read api), ?_⟩
  · simp only [Exec.run_map, cachedList, Exec.run_bind, Exec.run_gets, empty, List.length_nil,
      if_true, withRelogin_run, onService, onApi, Exec.run_zoom, Exec.run_modify, Exec.run_pure,
      watch, Exec.final]
    cases (endpoint.run service).1 <;> rfl
  · have cached : ¬ (read api).length = 0 := by simpa using nonempty
    simp only [Exec.run_map, cachedList, Exec.run_bind, Exec.run_gets, cached, if_false,
      Exec.run_pure]

theorem setAllSongs_obeys_iff {client : Mobileclient σ} :
    Obeys (.cached (fun _ => none) (some []) GMusic.allSongs)
        (setAllSongs { client.watched with getAllSongs := watch .request client.getAllSongs })
        api service ↔
      ¬ (api.allSongs = [] ∧ client.getAllSongs.Raises service .notLoggedIn) := by
  refine cached_obeys_iff (fun songs api => api.withSongs songs) (fun _ _ => rfl)
    (fun empty => ?_) fun nonempty => ⟨some api.allSongs, ?_⟩
  · simp only [setAllSongs, Exec.run_bind, Exec.run_gets, empty, List.length_nil, if_true,
      withRelogin_run, onService, onApi, Exec.run_zoom, Exec.run_modify, Exec.run_pure, watch,
      Exec.final]
    cases (client.getAllSongs.run service).1 <;> rfl
  · have cached : ¬ api.allSongs.length = 0 := by simpa using nonempty
    simp only [setAllSongs, Exec.run_bind, Exec.run_gets, cached, if_false, Exec.run_pure]

end CachedShape

inductive Wrapper where
  | setAllSongs
  | getAllPlaylists
  | getAllUserPlaylistContents (id : String)
  | getSharedPlaylistContents (token : String)
  | getAllStations
  | getStationTracks (id : Reply String) (numTracks : Nat)
  | getGenres
  | createStation (name id : String)
  | searchAllAccess (query : String) (maxResults : Nat)
  | getArtistInfo (id : String) (includeAlbums : Bool) (maxTopTracks maxRelArtist : Nat)
  | getAlbumInfo (id : String) (includeTracks : Bool)
  | addAaTrack (id : String)
  | addSongsToPlaylist (playlistId : Option String) (songIds : String)
  | getStreamUrl (id : String)

/-- The exceptions of `get_stream_url`, which words a `CallFailure` anew. -/
def passesStreamFailure (cause reason : Raised) : Prop :=
  cause = reason ∨ ∃ message callname message' callname',
    cause = .callFailure message callname ∧ reason = .callFailure message' callname'

namespace Wrapper

variable (client : Mobileclient σ) (api : GMusic) (service : σ)

def FollowsProtocol : Wrapper → Prop
  | .setAllSongs =>
      Obeys (.cached (fun _ => none) (some []) GMusic.allSongs)
        (GoogleMusic.setAllSongs
          { client.watched with getAllSongs := watch .request client.getAllSongs }) api service
  | .getAllPlaylists =>
      Obeys (.cached id [] GMusic.playlists)
        (GoogleMusic.getAllPlaylists
          { client.watched with getAllPlaylists := watch .request client.getAllPlaylists }) api service
  | .getAllUserPlaylistContents id =>
      Obeys (.cached (tracksOfPlaylist id) [] GMusic.playlistContents)
        (GoogleMusic.getAllUserPlaylistContents { client.watched with
          getAllUserPlaylistContents := watch .request client.getAllUserPlaylistContents } id)
        api service
  | .getSharedPlaylistContents token =>
      Obeys (.uncached id [])
        (GoogleMusic.getSharedPlaylistContents { client.watched with
          getSharedPlaylistContents := fun token =>
            watch .request (client.getSharedPlaylistContents token) } token) api service
  | .getAllStations =>
      Obeys (.cached id [] GMusic.stations)
        (GoogleMusic.getAllStations
          { client.watched with getAllStations := watch .request client.getAllStations }) api service
  | .getStationTracks station numTracks =>
      Obeys (.uncached id [])
        (GoogleMusic.getStationTracks { client.watched with
          getStationTracks := fun id count => watch .request (client.getStationTracks id count) }
          station numTracks) api service
  | .getGenres =>
      Obeys (.uncached id [])
        (GoogleMusic.getGenres
          { client.watched with getGenres := watch .request client.getGenres }) api service
  | .createStation name id =>
      Obeys (.uncached .value .emptyList)
        (GoogleMusic.createStation { client.watched with
          createStation := fun name id => watch .request (client.createStation name id) } name id)
        api service
  | .searchAllAccess query maxResults =>
      Obeys (.uncached .value .emptyList)
        (GoogleMusic.searchAllAccess { client.watched with
          searchAllAccess := fun query count => watch .request (client.searchAllAccess query count) }
          query maxResults) api service
  | .getArtistInfo id includeAlbums maxTopTracks maxRelArtist =>
      Obeys (.uncached .value .emptyList)
        (GoogleMusic.getArtistInfo { client.watched with
          getArtistInfo := fun id albums tracks related =>
            watch .request (client.getArtistInfo id albums tracks related) }
          id includeAlbums maxTopTracks maxRelArtist) api service
  | .getAlbumInfo id includeTracks =>
      Obeys (.uncached .value .emptyList)
        (GoogleMusic.getAlbumInfo { client.watched with
          getAlbumInfo := fun id tracks => watch .request (client.getAlbumInfo id tracks) }
          id includeTracks) api service
  | .addAaTrack song =>
      Obeys (.uncached id none)
        (GoogleMusic.addAaTrack { client.watched with
          addAaTrack := fun id => watch .request (client.addAaTrack id) } song) api service
  | .addSongsToPlaylist playlistId songIds =>
      Obeys (.uncached id none)
        (GoogleMusic.addSongsToPlaylist { client.watched with
          addSongsToPlaylist := fun playlist id =>
            watch .request (client.addSongsToPlaylist playlist id) } playlistId songIds) api service
  | .getStreamUrl song =>
      Obeys { Policy.uncached id "" with passes := passesStreamFailure }
        (GoogleMusic.getStreamUrl { client.watched with
          getStreamUrl := fun id device => watch .request (client.getStreamUrl id device) } song)
        api service

/-- The wrapper has to ask the service, and the service answers that the session is not
logged in. -/
def MeetsLogout : Wrapper → Prop
  | .setAllSongs => api.allSongs = [] ∧ client.getAllSongs.Raises service .notLoggedIn
  | .getAllPlaylists => api.playlists = [] ∧ client.getAllPlaylists.Raises service .notLoggedIn
  | .getAllUserPlaylistContents _ =>
      api.playlistContents = [] ∧ client.getAllUserPlaylistContents.Raises service .notLoggedIn
  | .getSharedPlaylistContents token =>
      (client.getSharedPlaylistContents token).Raises service .notLoggedIn
  | .getAllStations => api.stations = [] ∧ client.getAllStations.Raises service .notLoggedIn
  | .getStationTracks id numTracks =>
      (client.getStationTracks id numTracks).Raises service .notLoggedIn
  | .getGenres => client.getGenres.Raises service .notLoggedIn
  | .createStation name id => (client.createStation name id).Raises service .notLoggedIn
  | .searchAllAccess query maxResults =>
      (client.searchAllAccess query maxResults).Raises service .notLoggedIn
  | .getArtistInfo id includeAlbums maxTopTracks maxRelArtist =>
      (client.getArtistInfo id includeAlbums maxTopTracks maxRelArtist).Raises service .notLoggedIn
  | .getAlbumInfo id includeTracks =>
      (client.getAlbumInfo id includeTracks).Raises service .notLoggedIn
  | .addAaTrack id => (client.addAaTrack id).Raises service .notLoggedIn
  | .addSongsToPlaylist playlistId songIds =>
      (client.addSongsToPlaylist playlistId songIds).Raises service .notLoggedIn
  | .getStreamUrl id => (client.getStreamUrl id api.device).Raises service .notLoggedIn

end Wrapper

def Raised.escapingStream (song : String) : Raised → Raised
  | .notLoggedIn => .typeError
  | .callFailure _ _ => .callFailure ("Could not play song with id: " ++ song) "get_stream_url"
  | reason => reason

theorem getStreamUrl_obeys_iff {client : Mobileclient σ} {api : GMusic} {service : σ}
    {song : String} :
    Obeys { Policy.uncached id "" with passes := passesStreamFailure }
        (getStreamUrl { client.watched with
          getStreamUrl := fun id device => watch .request (client.getStreamUrl id device) } song)
        api service ↔
      ¬ (client.getStreamUrl song api.device).Raises service .notLoggedIn := by
  refine obeys_iff_of_run (Raised.escapingStream song) api ?_ (fun _ _ => rfl) ?_ ?_
  · simp only [getStreamUrl, Exec.run_handle, Exec.run_bind, Exec.run_gets, onService, Exec.run_zoom,
      watch, Exec.final]
    cases (client.getStreamUrl song api.device).run service with
    | mk outcome after =>
        cases outcome with
        | ok url => rfl
        | error reason => cases reason <;> rfl
  · intro reason loggedIn
    cases reason <;> first
      | exact absurd rfl loggedIn
      | exact Or.inl rfl
      | exact Or.inr ⟨_, _, _, _, rfl, rfl⟩
  · rintro (same | ⟨_, _, _, _, same, _⟩) <;> cases same

/-- A wrapper follows the protocol on exactly the calls that do not meet a session that
is logged out. -/
theorem followsProtocol_iff (client : Mobileclient σ) (api : GMusic) (service : σ)
    (wrapper : Wrapper) :
    wrapper.FollowsProtocol client api service ↔ ¬ wrapper.MeetsLogout client api service := by
  cases wrapper with
  | setAllSongs => exact setAllSongs_obeys_iff
  | getAllPlaylists =>
      rw [Wrapper.FollowsProtocol, ← Exec.id_map (getAllPlaylists _)]
      exact cachedList_obeys_iff fun _ _ => rfl
  | getAllUserPlaylistContents id => exact cachedList_obeys_iff fun _ _ => rfl
  | getSharedPlaylistContents token => exact uncached_obeys_iff onService_asks
  | getAllStations =>
      rw [Wrapper.FollowsProtocol, ← Exec.id_map (getAllStations _)]
      exact cachedList_obeys_iff fun _ _ => rfl
  | getStationTracks id numTracks => exact uncached_obeys_iff onService_asks
  | getGenres => exact uncached_obeys_iff onService_asks
  | createStation name id => exact uncached_obeys_iff (map_onService_asks Reply.value)
  | searchAllAccess query maxResults => exact uncached_obeys_iff (map_onService_asks Reply.value)
  | getArtistInfo id includeAlbums maxTopTracks maxRelArtist =>
      exact uncached_obeys_iff (map_onService_asks Reply.value)
  | getAlbumInfo id includeTracks => exact uncached_obeys_iff (map_onService_asks Reply.value)
  | addAaTrack id => exact uncached_obeys_iff onService_asks
  | addSongsToPlaylist playlistId songIds => exact uncached_obeys_iff onService_asks
  | getStreamUrl id => exact getStreamUrl_obeys_iff

/-- A load job of a plugin that could not log in: `NotLoggedIn` becomes a `TypeError`. -/
theorem load_after_failed_login :
    ¬ Wrapper.FollowsProtocol (Remote.ofSongs [.sample]).withSession {} (.fresh ()) .setAllSongs := by
  intro follows
  obtain ⟨event, logged, cause, raised, passes⟩ := follows.raised .typeError rfl
  cases List.mem_singleton.mp logged
  cases raised
  cases passes

end GoogleMusic
