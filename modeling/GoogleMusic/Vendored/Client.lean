import GoogleMusic.Schedules.Sharing
import GoogleMusic.Vendored.Feeds
import GoogleMusic.Vendored.Identity
import GoogleMusic.Vendored.Lookups
import GoogleMusic.Vendored.Mutations

/-! # The client over its requests

`Service ρ` is what lies beyond the process: the answers to the requests, the ids and the
time that the machine makes up, and its MAC address.  Every method the plugin calls is
written here over those requests, several of them with more than one, and `client` is
the client that the rest of the development takes as a parameter.
-/

namespace GoogleMusic

open Foundation

/-- `line.partition('=')`. -/
def partitionLine (line : List Char) : String × String :=
  (String.ofList (line.takeWhile fun character => character != '='),
    String.ofList ((line.dropWhile fun character => character != '=').drop 1))

def parseAuthResponse (text : String) : Dictionary String String :=
  (text.toList.splitOn '\n').foldl (fun data line =>
    if line = [] then data else data.insert (partitionLine line).1 (partitionLine line).2) ∅

structure Service (ρ : Type) where
  /-- The ids and the time that the machine makes up next, in microseconds. -/
  uuid : ρ → Nat → String
  now : ρ → Int
  mac : Nat
  performMasterLogin : String → String → String → Exec ρ String String
  performOauth : String → String → String → Exec ρ String String
  trackfeed : Resource ρ Song
  playlistfeed : Resource ρ Playlist
  plentryfeed : Resource ρ PlaylistEntry
  radioStation : Resource ρ Station
  plentriesShared : String → Exec ρ String (Response SharedFeed)
  stationfeed : Reply String → Nat → Exec ρ String (Response StationFeed)
  genres : Option String → Exec ρ String (Response GenreFeed)
  query : String → Nat → Exec ρ String (Response SearchFeed)
  fetchartist : String → Bool → Nat → Nat → Exec ρ String (Response ArtistInfo)
  fetchalbum : String → Bool → Exec ρ String (Response AlbumInfo)
  fetchtrack : String → Exec ρ String (Response TrackInfo)
  mplay : StreamRequest → Exec ρ String (Response Unit)
  devicemanagementinfo : Exec ρ String (Response DeviceFeed)
  trackbatch : List TrackInfo → Exec ρ String (Response BatchAnswer)
  plentriesbatch : List EntryDetails → Exec ρ String (Response BatchAnswer)
  editstation : List StationMutation → Exec ρ String (Response BatchAnswer)

variable {ρ τ : Type}

def Service.androidId (service : Service ρ) : String := String.ofList (androidIdOf service.mac)

/-- The two token requests of the session's `login`, and the tokens if both are granted. -/
def Service.tokens (service : Service ρ) (email password : String) :
    Exec ρ String (Option (String × String)) := do
  let res ← service.performMasterLogin email password service.androidId
  match (parseAuthResponse res).lookup "Token" with
  | none => pure none
  | some masterToken => do
      let res ← service.performOauth email masterToken service.androidId
      match (parseAuthResponse res).lookup "Auth" with
      | none => pure none
      | some authtoken => pure (some (masterToken, authtoken))

def Service.performLogin (service : Service ρ) (email password : String) : Exec ρ String Bool :=
  Option.isSome <$> service.tokens email password

/-- `login(email, password, FROM_MAC_ADDRESS)`. -/
def Service.login (service : Service ρ) (email password : String) : Exec (Session ρ) Raised Bool :=
  if madeUp service.mac then Exec.raise (.other "OSError")
  else Session.login (service.performLogin email password)

section Methods

variable (line : Line ρ τ) (service : Service ρ)

def getAllUserPlaylistContentsOf : Exec τ Raised (List PlaylistContents) := do
  let playlists ← getAllItems line listPlaylists service.playlistfeed
  let entries ← getAllItems line listPlaylistEntries service.plentryfeed
  Exec.lift (Listing.userPlaylistContents { playlists, entries })

def getSharedPlaylistContentsOf (token : String) : Exec τ Raised (List PlaylistEntry) := do
  let res ← ListSharedPlaylistEntries.call.perform line (service.plentriesShared token)
  Exec.lift res.contents

def getStationTracksOf (id : Reply String) (numTracks : Nat) : Exec τ Raised (List Song) := do
  let res ← ListStationTracks.call.perform line (service.stationfeed id numTracks)
  pure res.tracks

def getGenresOf (parentGenreId : Option String := none) : Exec τ Raised (List Genre) := do
  let res ← getGenresCall.perform line (service.genres parentGenreId)
  pure (res.genres.getD [])

def searchAllAccessOf (query : String) (maxResults : Nat) : Exec τ Raised Hits := do
  let res ← searchCall.perform line (service.query query maxResults)
  Exec.lift res.hits

def getRegisteredDevicesOf : Exec τ Raised (List Device) := do
  let res ← getDeviceManagementInfo.perform line service.devicemanagementinfo
  Exec.lift res.devices

def getTrackInfoOf (storeTrackId : String) : Exec τ Raised TrackInfo :=
  (McCall.call "GetStoreTrack").perform line (service.fetchtrack storeTrackId)

def addAaTrackOf (aaSongId : String) : Exec τ Raised String := do
  let aaTrackInfo ← getTrackInfoOf line service aaSongId
  let res ← batchMutateTracks.perform line (service.trackbatch [buildTrackAdd aaTrackInfo])
  Exec.lift (firstId res)

/-- The batch is built with the ids that the machine makes up when it is sent. -/
def sendPlentries (playlistId : String) (songIds : List String) :
    Exec ρ String (Response BatchAnswer) := do
  let uuid ← Exec.gets service.uuid
  service.plentriesbatch (buildPlentryAdds uuid playlistId songIds)

/-- `add_songs_to_playlist` behind its decorators: an id is one by its type, and no songs
are added without a request. -/
def addSongsToPlaylistOf (playlistId : String) (songIds : List String) :
    Exec τ Raised (List String) :=
  if songIds = [] then pure []
  else do
    let res ← batchMutatePlaylistEntries.perform line (sendPlentries service playlistId songIds)
    Exec.lift (allIds res)

def sendStation (name : String) (seed : Seed) : Exec ρ String (Response BatchAnswer) := do
  let uuid ← Exec.gets service.uuid
  let now ← Exec.gets service.now
  service.editstation
    [{ clientId := uuid 0, name, recentTimestamp := toString now, seed, includeFeed := false,
       numEntries := 0 }]

def createStationOf (name : String) (trackId artistId albumId genreId : Option String) :
    Exec τ Raised String := do
  let seed ← Exec.lift (seedOf trackId artistId albumId genreId)
  let res ← batchMutateStations.perform line (sendStation service name seed)
  Exec.lift (firstId res)

/-- The device that `get_stream_url` is called with, else the `android_id` that a granted
login has left behind. -/
def deviceOr (deviceId : Option String) : Exec τ Raised String :=
  match deviceId with
  | some deviceId => pure deviceId
  | none => do
      let granted ← Exec.gets line.granted
      if granted then pure service.androidId else Exec.raise (.other "AttributeError")

theorem deviceOr_keeps {inv : τ → Prop} (deviceId : Option String) :
    (deviceOr line service deviceId).Keeps inv := by
  cases deviceId with
  | some deviceId => exact .pure _
  | none => exact (Exec.Keeps.gets _).bind fun granted => .ite (.pure _) (.raise _)

def streamRequest (songId deviceId : String) : Except Raised StreamRequest := do
  let device ← streamDevice deviceId.toList
  GetStreamUrl.request songId (String.ofList device) "hi"

def getStreamUrlOf (songId : String) (deviceId : Option String) : Exec τ Raised String := do
  let deviceId ← deviceOr line service deviceId
  let request ← Exec.lift (streamRequest songId deviceId)
  GetStreamUrl.call.perform line (service.mplay request)

/-- The items of the hits.  A playlist that is found comes without an id. -/
def Hits.results (hits : Hits) : Except Raised SearchResults := do
  let albumHits ← hits.albumHits.mapM fun hit => field "album" hit.album
  let artistHits ← hits.artistHits.mapM fun hit => field "artist" hit.artist
  let songHits ← hits.songHits.mapM fun hit => field "track" hit.track
  let playlistHits ← hits.playlistHits.mapM fun hit => field "playlist" hit.playlist
  pure { albumHits, artistHits, songHits, playlistHits := playlistHits.map fun playlist =>
    { id := "", name := playlist.name, shareToken := some playlist.shareToken } }

/-- The methods that the plugin calls.  Its playlist may be `None`, which is no id. -/
def Service.endpoints : Endpoints τ where
  getRegisteredDevices := getRegisteredDevicesOf line service
  getAllSongs := getAllItems line listTracks service.trackfeed
  getAllPlaylists := getAllItems line listPlaylists service.playlistfeed
  getAllUserPlaylistContents := getAllUserPlaylistContentsOf line service
  getSharedPlaylistContents := getSharedPlaylistContentsOf line service
  getAllStations := getAllItems line listStations service.radioStation
  getStationTracks := getStationTracksOf line service
  getGenres := getGenresOf line service
  createStation name id := createStationOf line service name none none none (some id)
  searchAllAccess query count := do
    let hits ← searchAllAccessOf line service query count
    Exec.lift hits.results
  getArtistInfo id albums tracks related :=
    getArtistCall.perform line (service.fetchartist id albums tracks related)
  getAlbumInfo id tracks := getAlbumCall.perform line (service.fetchalbum id tracks)
  addAaTrack id := some <$> addAaTrackOf line service id
  addSongsToPlaylist playlist id :=
    match playlist with
    | none => Exec.raise .valueError
    | some playlist => some <$> addSongsToPlaylistOf line service playlist [id]
  getStreamUrl := getStreamUrlOf line service

end Methods

def Service.client (service : Service ρ) : Mobileclient (Session ρ) where
  toEndpoints := service.endpoints Line.session
  login := service.login

/-- The methods on the far side of the session. -/
def Service.remote (service : Service ρ) : Remote ρ where
  toEndpoints := service.endpoints Line.direct
  performLogin := service.performLogin

end GoogleMusic
