import GoogleMusic.Data

/-! # The vendored mobile client

`Mobileclient σ` is the part of the vendored client that the plugin calls, over an
arbitrary state `σ` of the client and of the service behind it: every call answers
a value or raises, and may change that state.  Quantifying over the client and its
state covers every sequence of outcomes.  `Remote.withSession` is such a client with
the checks of the vendored session in place.
-/

namespace GoogleMusic

open Foundation

/-- What a wrapper returns whose fallback `[]` is not of the type of its value. -/
inductive Reply (α : Type) where
  | value (value : α)
  | emptyList
deriving DecidableEq

structure Endpoints (σ : Type) where
  getRegisteredDevices : Exec σ Raised (List Device)
  getAllSongs : Exec σ Raised (List Song)
  getAllPlaylists : Exec σ Raised (List Playlist)
  getAllUserPlaylistContents : Exec σ Raised (List PlaylistContents)
  getSharedPlaylistContents : String → Exec σ Raised (List PlaylistEntry)
  getAllStations : Exec σ Raised (List Station)
  getStationTracks : Reply String → Nat → Exec σ Raised (List Song)
  getGenres : Exec σ Raised (List Genre)
  /-- `create_station(name=name, genre_id=id)`, which answers the new station's id. -/
  createStation : String → String → Exec σ Raised String
  searchAllAccess : String → Nat → Exec σ Raised SearchResults
  getArtistInfo : String → Bool → Nat → Nat → Exec σ Raised ArtistInfo
  getAlbumInfo : String → Bool → Exec σ Raised AlbumInfo
  /-- The library id of the added song, `none` where the service answers `null`. -/
  addAaTrack : String → Exec σ Raised (Option String)
  addSongsToPlaylist : Option String → String → Exec σ Raised (Option (List String))
  getStreamUrl : String → Option String → Exec σ Raised String

def Endpoints.unavailable {σ : Type} : Endpoints σ where
  getRegisteredDevices := Exec.raise (.other "unavailable")
  getAllSongs := Exec.raise (.other "unavailable")
  getAllPlaylists := Exec.raise (.other "unavailable")
  getAllUserPlaylistContents := Exec.raise (.other "unavailable")
  getSharedPlaylistContents _ := Exec.raise (.other "unavailable")
  getAllStations := Exec.raise (.other "unavailable")
  getStationTracks _ _ := Exec.raise (.other "unavailable")
  getGenres := Exec.raise (.other "unavailable")
  createStation _ _ := Exec.raise (.other "unavailable")
  searchAllAccess _ _ := Exec.raise (.other "unavailable")
  getArtistInfo _ _ _ _ := Exec.raise (.other "unavailable")
  getAlbumInfo _ _ := Exec.raise (.other "unavailable")
  addAaTrack _ := Exec.raise (.other "unavailable")
  addSongsToPlaylist _ _ := Exec.raise (.other "unavailable")
  getStreamUrl _ _ := Exec.raise (.other "unavailable")

structure Mobileclient (σ : Type) extends Endpoints σ where
  login : String → String → Exec σ Raised Bool

/-- What lies behind a vendored session: the answers to the requests it lets through,
and the two token requests of a login, which grant both tokens, deny one, or end in an
exception of the transport. -/
structure Remote (ρ : Type) extends Endpoints ρ where
  performLogin : String → String → Exec ρ String Bool

structure Session (ρ : Type) where
  isAuthenticated : Bool
  remote : ρ

namespace Session

variable {ρ α : Type}

/-- `send` with authentication: `NotLoggedIn` before anything leaves the machine. -/
def send (request : Exec ρ Raised α) : Exec (Session ρ) Raised α := ⟨fun session =>
  if session.isAuthenticated then
    let answer := request.run session.remote
    (answer.1, { session with remote := answer.2 })
  else (.error .notLoggedIn, session)⟩

/-- `login`: refused while logged in, and the flag goes up only when both tokens are
granted. -/
def login (attempt : Exec ρ String Bool) : Exec (Session ρ) Raised Bool := ⟨fun session =>
  if session.isAuthenticated then (.error .alreadyLoggedIn, session)
  else
    match attempt.run session.remote with
    | (.ok granted, remote) => (.ok granted, { isAuthenticated := granted, remote })
    | (.error name, remote) => (.error (.other name), { session with remote })⟩

end Session

def Remote.withSession (remote : Remote ρ) : Mobileclient (Session ρ) where
  login email password := Session.login (remote.performLogin email password)
  getRegisteredDevices := Session.send remote.getRegisteredDevices
  getAllSongs := Session.send remote.getAllSongs
  getAllPlaylists := Session.send remote.getAllPlaylists
  getAllUserPlaylistContents := Session.send remote.getAllUserPlaylistContents
  getSharedPlaylistContents token := Session.send (remote.getSharedPlaylistContents token)
  getAllStations := Session.send remote.getAllStations
  getStationTracks id count := Session.send (remote.getStationTracks id count)
  getGenres := Session.send remote.getGenres
  createStation name id := Session.send (remote.createStation name id)
  searchAllAccess query count := Session.send (remote.searchAllAccess query count)
  getArtistInfo id albums tracks related :=
    Session.send (remote.getArtistInfo id albums tracks related)
  getAlbumInfo id tracks := Session.send (remote.getAlbumInfo id tracks)
  addAaTrack id := Session.send (remote.addAaTrack id)
  addSongsToPlaylist playlist id := Session.send (remote.addSongsToPlaylist playlist id)
  getStreamUrl id device := Session.send (remote.getStreamUrl id device)

/-- What the plugin's loads rely on in a client: `loggedIn` is a state that only a login
enters, one that was granted, and outside of it the song list is refused. -/
structure Sessioned (client : Mobileclient σ) (loggedIn : σ → Prop) : Prop where
  refuses : ∀ state, ¬ loggedIn state →
    ∃ after, client.getAllSongs.run state = (.error .notLoggedIn, after)
  already : ∀ email password state, loggedIn state →
    ∃ after, (client.login email password).run state = (.error .alreadyLoggedIn, after)
  granted : ∀ email password state, ¬ loggedIn state →
    loggedIn ((client.login email password).final state) →
    (client.login email password).Returns state true
  songs : client.getAllSongs.Keeps fun state => ¬ loggedIn state
  devices : client.getRegisteredDevices.Keeps fun state => ¬ loggedIn state
  addTrack : ∀ id, (client.addAaTrack id).Keeps fun state => ¬ loggedIn state
  addSongs : ∀ playlist id, (client.addSongsToPlaylist playlist id).Keeps fun state => ¬ loggedIn state

def Remote.ofSongs (songs : List Song) : Remote Unit where
  toEndpoints := { Endpoints.unavailable with
    getRegisteredDevices := pure []
    getAllSongs := pure songs }
  performLogin _ _ := pure true

def Session.fresh (remote : ρ) : Session ρ where
  isAuthenticated := false
  remote

namespace Session

variable {ρ α : Type} {session : Session ρ}

theorem send_of_loggedOut (request : Exec ρ Raised α)
    (loggedOut : session.isAuthenticated = false) :
    (send request).run session = (.error .notLoggedIn, session) := by
  simp [send, loggedOut]

theorem send_of_loggedIn (request : Exec ρ Raised α)
    (loggedIn : session.isAuthenticated = true) :
    (send request).run session =
      ((request.run session.remote).1, { session with remote := (request.run session.remote).2 }) := by
  simp [send, loggedIn]

theorem send_returns_iff {request : Exec ρ Raised α} {value : α} :
    (send request).Returns session value ↔
      session.isAuthenticated = true ∧ request.Returns session.remote value := by
  cases state : session.isAuthenticated with
  | false => simp [Exec.Returns, send_of_loggedOut request state]
  | true => simp [Exec.Returns, send_of_loggedIn request state]

theorem send_answers {request : Exec ρ Raised α} {after : Session ρ} {value : α}
    (ran : (send request).run session = (.ok value, after)) :
    request.run session.remote = (.ok value, after.remote) := by
  cases state : session.isAuthenticated with
  | false =>
      rw [send_of_loggedOut request state] at ran
      cases ran
  | true =>
      rw [send_of_loggedIn request state, Prod.mk.injEq] at ran
      obtain ⟨returned, rfl⟩ := ran
      exact Prod.ext returned rfl

theorem send_isAuthenticated (request : Exec ρ Raised α) (session : Session ρ) :
    ((send request).final session).isAuthenticated = session.isAuthenticated := by
  cases state : session.isAuthenticated with
  | false => rw [Exec.final, send_of_loggedOut request state, state]
  | true => rw [Exec.final, send_of_loggedIn request state, state]

theorem login_of_loggedOut (attempt : Exec ρ String Bool)
    (loggedOut : session.isAuthenticated = false) :
    (login attempt).run session =
      match attempt.run session.remote with
      | (.ok granted, remote) => (.ok granted, { isAuthenticated := granted, remote })
      | (.error name, remote) => (.error (.other name), { session with remote }) := by
  simp [login, loggedOut]

theorem keeps_loggedOut (request : Exec ρ Raised α) :
    (send request).Keeps fun session : Session ρ => ¬ session.isAuthenticated = true := by
  intro session loggedOut
  rw [send_isAuthenticated]
  exact loggedOut

theorem sessioned (remote : Remote ρ) :
    Sessioned remote.withSession fun session => session.isAuthenticated = true where
  refuses session loggedOut := ⟨session, send_of_loggedOut _ (by simpa using loggedOut)⟩
  already email password session loggedIn := ⟨session, by simp [Remote.withSession, login, loggedIn]⟩
  granted email password session loggedOut loggedIn := by
    have ran : (remote.withSession.login email password).run session = _ :=
      login_of_loggedOut (remote.performLogin email password) (by simpa using loggedOut)
    rw [Exec.final, ran] at loggedIn
    rw [Exec.Returns, ran]
    cases attempt : (remote.performLogin email password).run session.remote with
    | mk outcome state =>
        rw [attempt] at loggedIn
        cases outcome with
        | error name => exact absurd loggedIn loggedOut
        | ok granted => exact congrArg Except.ok loggedIn
  songs := keeps_loggedOut _
  devices := keeps_loggedOut _
  addTrack _ := keeps_loggedOut _
  addSongs _ _ := keeps_loggedOut _

end Session

end GoogleMusic
