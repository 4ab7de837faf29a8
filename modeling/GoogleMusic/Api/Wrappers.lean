import GoogleMusic.Api.Login

namespace GoogleMusic

open Foundation Host

variable {σ α β : Type}

/-- The body of `except NotLoggedIn`.  `self.authenticate()` passes no argument. -/
def relogin (client : Mobileclient σ) (attempt : Exec (Host σ) Raised β) (fallback : β) :
    Exec (Host σ) Raised β := do
  let loggedIn ← authenticate client []
  if loggedIn then attempt else pure fallback

def withRelogin (client : Mobileclient σ) (attempt : Exec (Host σ) Raised β) (fallback : β) :
    Exec (Host σ) Raised β :=
  Exec.handle attempt fun
    | .notLoggedIn => relogin client attempt fallback
    | reason => Exec.raise reason

def cachedList (client : Mobileclient σ) (endpoint : Exec σ Raised (List α))
    (read : GMusic → List α) (write : List α → GMusic → GMusic) :
    Exec (Host σ) Raised (List α) := do
  let cached ← Exec.gets fun host => read host.api
  if cached.length = 0 then
    withRelogin client (do
      let answer ← onService endpoint
      onApi (Exec.modify (write answer))
      pure answer) []
  else pure cached

/-- The song list.  Falling off the end of the method returns `None`, and no caller
reads what it returns. -/
def setAllSongs (client : Mobileclient σ) : Exec (Host σ) Raised (Option (List Song)) := do
  let allSongs ← Exec.gets fun host => host.api.allSongs
  if allSongs.length = 0 then
    withRelogin client (do
      let answer ← onService client.getAllSongs
      onApi (Exec.modify fun api => api.withSongs answer)
      pure none) (some [])
  else pure (some allSongs)

def getAllPlaylists (client : Mobileclient σ) : Exec (Host σ) Raised (List Playlist) :=
  cachedList client client.getAllPlaylists GMusic.playlists
    fun playlists api => { api with playlists }

def tracksOfPlaylist (id : String) : List PlaylistContents → List PlaylistEntry
  | [] => []
  | playlist :: contents =>
      if id = playlist.id then playlist.tracks else tracksOfPlaylist id contents

/-- When the wrapper gives up its cache is empty, so that the loop finds the `[]` it
returns early in the source. -/
def getAllUserPlaylistContents (client : Mobileclient σ) (id : String) :
    Exec (Host σ) Raised (List PlaylistEntry) := do
  let contents ← cachedList client client.getAllUserPlaylistContents GMusic.playlistContents
    fun playlistContents api => { api with playlistContents }
  pure (tracksOfPlaylist id contents)

def getSharedPlaylistContents (client : Mobileclient σ) (token : String) :
    Exec (Host σ) Raised (List PlaylistEntry) :=
  withRelogin client (onService (client.getSharedPlaylistContents token)) []

def getAllStations (client : Mobileclient σ) : Exec (Host σ) Raised (List Station) :=
  cachedList client client.getAllStations GMusic.stations fun stations api => { api with stations }

/-- The source's default is `num_tracks=200`, and no caller passes another. -/
def getStationTracks (client : Mobileclient σ) (id : Reply String) (numTracks : Nat := 200) :
    Exec (Host σ) Raised (List Song) :=
  withRelogin client (onService (client.getStationTracks id numTracks)) []

def getGenres (client : Mobileclient σ) : Exec (Host σ) Raised (List Genre) :=
  withRelogin client (onService client.getGenres) []

def createStation (client : Mobileclient σ) (name id : String) :
    Exec (Host σ) Raised (Reply String) :=
  withRelogin client (.value <$> onService (client.createStation name id)) .emptyList

def searchAllAccess (client : Mobileclient σ) (query : String) (maxResults : Nat := 50) :
    Exec (Host σ) Raised (Reply SearchResults) :=
  withRelogin client (.value <$> onService (client.searchAllAccess query maxResults)) .emptyList

def getArtistInfo (client : Mobileclient σ) (id : String) (includeAlbums : Bool := true)
    (maxTopTracks : Nat := 5) (maxRelArtist : Nat := 5) :
    Exec (Host σ) Raised (Reply ArtistInfo) :=
  withRelogin client
    (.value <$> onService (client.getArtistInfo id includeAlbums maxTopTracks maxRelArtist))
    .emptyList

def getAlbumInfo (client : Mobileclient σ) (id : String) (includeTracks : Bool := true) :
    Exec (Host σ) Raised (Reply AlbumInfo) :=
  withRelogin client (.value <$> onService (client.getAlbumInfo id includeTracks)) .emptyList

def addAaTrack (client : Mobileclient σ) (id : String) : Exec (Host σ) Raised (Option String) :=
  withRelogin client (onService (client.addAaTrack id)) none

def addSongsToPlaylist (client : Mobileclient σ) (playlistId : Option String) (songIds : String) :
    Exec (Host σ) Raised (Option (List String)) :=
  withRelogin client (onService (client.addSongsToPlaylist playlistId songIds)) none

def getStreamUrl (client : Mobileclient σ) (id : String) : Exec (Host σ) Raised String :=
  let attempt := do
    let device ← Exec.gets fun host => host.api.device
    onService (client.getStreamUrl id device)
  Exec.handle attempt fun
    | .notLoggedIn => relogin client attempt ""
    | .callFailure _ _ =>
        Exec.raise (.callFailure ("Could not play song with id: " ++ id) "get_stream_url")
    | reason => Exec.raise reason

def getSong (api : GMusic) (id : String) : Except Raised Song := do
  let found ← api.allSongs.filterM fun song => do
    let songId ← field "id" song.id
    pure (decide (songId = id))
  match found with
  | [] => .error .indexError
  | song :: _ => .ok song

/-- What becomes of an exception of the call: the login without arguments replaces
`NotLoggedIn` by an exception of its own. -/
def Raised.escaping : Raised → Raised
  | .notLoggedIn => .typeError
  | reason => reason

theorem Raised.escaping_of_ne {reason : Raised} (other : reason ≠ .notLoggedIn) :
    reason = reason.escaping := by
  cases reason <;> first | exact absurd rfl other | rfl

section Relogin

variable {client : Mobileclient σ} {attempt : Exec (Host σ) Raised β} {fallback : β}
variable {host after : Host σ}

theorem withRelogin_run (client : Mobileclient σ) (attempt : Exec (Host σ) Raised β) (fallback : β)
    (host : Host σ) : (withRelogin client attempt fallback).run host =
      ((attempt.run host).1.mapError Raised.escaping, (attempt.run host).2) := by
  rw [withRelogin, Exec.run_handle]
  cases attempt.run host with
  | mk outcome after =>
      cases outcome with
      | ok value => rfl
      | error reason => cases reason <;> rfl

theorem withRelogin_returned {value : β} (ran : attempt.run host = (.ok value, after)) :
    (withRelogin client attempt fallback).run host = (.ok value, after) := by
  rw [withRelogin_run, ran]
  rfl

theorem withRelogin_raised {reason : Raised} (ran : attempt.run host = (.error reason, after)) :
    (withRelogin client attempt fallback).run host = (.error reason.escaping, after) := by
  rw [withRelogin_run, ran]
  rfl

theorem withRelogin_final :
    (withRelogin client attempt fallback).final host = attempt.final host := by
  rw [Exec.final, Exec.final, withRelogin_run]

end Relogin

section CachedList

variable {client : Mobileclient σ} {endpoint : Exec σ Raised (List α)}
variable {read : GMusic → List α} {write : List α → GMusic → GMusic} {host : Host σ}

theorem cachedList_filled (nonempty : read host.api ≠ []) :
    (cachedList client endpoint read write).run host = (.ok (read host.api), host) := by
  have filled : ¬ (read host.api).length = 0 := by simpa using nonempty
  simp only [cachedList, Exec.run_bind, Exec.run_gets, filled, if_false, Exec.run_pure]

theorem cachedList_empty (empty : read host.api = []) :
    (cachedList client endpoint read write).run host =
      match endpoint.run host.service with
      | (.ok values, service) => (.ok values, { api := write values host.api, service })
      | (.error reason, service) => (.error reason.escaping, { host with service }) := by
  simp only [cachedList, Exec.run_bind, Exec.run_gets, empty, List.length_nil, if_true,
    withRelogin_run, onService, onApi, Exec.run_zoom, Exec.run_modify, Exec.run_pure]
  cases endpoint.run host.service with
  | mk outcome service => cases outcome <;> rfl

inductive CacheOutcome (endpoint : Exec σ Raised (List α)) (read : GMusic → List α)
    (write : List α → GMusic → GMusic) (host : Host σ) : Except Raised (List α) × Host σ → Prop where
  | filled (nonempty : read host.api ≠ []) :
      CacheOutcome endpoint read write host (.ok (read host.api), host)
  | fetched {values : List α} {service : σ} (empty : read host.api = [])
      (answered : endpoint.run host.service = (.ok values, service)) :
      CacheOutcome endpoint read write host (.ok values, { api := write values host.api, service })
  | failed {reason : Raised} {service : σ} (empty : read host.api = [])
      (answered : endpoint.run host.service = (.error reason, service)) :
      CacheOutcome endpoint read write host (.error reason.escaping, { host with service })

theorem cachedList_outcome : CacheOutcome endpoint read write host
    ((cachedList client endpoint read write).run host) := by
  by_cases empty : read host.api = []
  · rw [cachedList_empty empty]
    cases answered : endpoint.run host.service with
    | mk outcome service =>
        cases outcome with
        | ok values => exact .fetched empty answered
        | error reason => exact .failed empty answered
  · rw [cachedList_filled empty]
    exact .filled empty

/-- What both outcomes of a fetch keep, the cached list keeps. -/
theorem cachedList_keeps {inv : Host σ → Prop}
    (fetched : ∀ host values service, endpoint.run host.service = (.ok values, service) →
      inv host → inv { api := write values host.api, service })
    (failed : ∀ host reason service, endpoint.run host.service = (.error reason, service) →
      inv host → inv { host with service }) :
    (cachedList client endpoint read write).Keeps inv := by
  intro host held
  have outcome : CacheOutcome endpoint read write host
    ((cachedList client endpoint read write).run host) := cachedList_outcome
  rw [Exec.final]
  generalize (cachedList client endpoint read write).run host = ending at outcome
  cases outcome with
  | filled nonempty => exact held
  | fetched empty answered => exact fetched host _ _ answered held
  | failed empty answered => exact failed host _ _ answered held

/-- A list that is cached as it is expected, or answered so, is returned so. -/
theorem cachedList_expected {expected values : List α} {after : Host σ}
    (answers : ∀ values, endpoint.Returns host.service values → values = expected)
    (cached : read host.api = [] ∨ read host.api = expected)
    (returned : (cachedList client endpoint read write).run host = (.ok values, after)) :
    values = expected := by
  have outcome : CacheOutcome endpoint read write host
    ((cachedList client endpoint read write).run host) := cachedList_outcome
  rw [returned] at outcome
  cases outcome with
  | filled nonempty => exact cached.resolve_left nonempty
  | fetched empty answered => exact answers values (by rw [Exec.Returns, answered])

end CachedList

end GoogleMusic
