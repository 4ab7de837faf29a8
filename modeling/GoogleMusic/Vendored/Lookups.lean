import GoogleMusic.Foundation.Sorting
import GoogleMusic.Vendored.Wire

namespace GoogleMusic

open Foundation

namespace McCall

variable {α : Type}

def parseResponse (response : Response α) : Except ParseError α :=
  match response.text with
  | none => .error .parseException
  | some msg => .ok msg

def call (name : String) (filterResponse : α → Except Raised Unit := fun _ => .ok ()) : Call α α where
  name
  parseResponse
  filterResponse
  checkSuccess _ := none

end McCall

structure DeviceData where
  items : Option (List Device) := none
deriving DecidableEq

structure DeviceFeed where
  data : Option DeviceData := none
deriving DecidableEq

def getDeviceManagementInfo : Call DeviceFeed DeviceFeed := McCall.call "GetDeviceManagementInfo"

/-- `res['data']['items'] if 'data' in res else []`. -/
def DeviceFeed.devices (res : DeviceFeed) : Except Raised (List Device) :=
  match res.data with
  | some data => field "items" data.items
  | none => .ok []

structure GenreFeed where
  genres : Option (List Genre) := none
deriving DecidableEq

def getGenresCall : Call GenreFeed GenreFeed := McCall.call "GetGenres"

def getArtistCall : Call ArtistInfo ArtistInfo := McCall.call "GetArtist"

def getAlbumCall : Call AlbumInfo AlbumInfo := McCall.call "GetAlbum"

structure StationTracks where
  tracks : Option (List Song) := none
deriving DecidableEq

structure StationData where
  stations : Option (List StationTracks) := none
deriving DecidableEq

structure StationFeed where
  data : Option StationData := none
deriving DecidableEq

namespace ListStationTracks

/-- `'stations' in filtered['data']`. -/
def filterResponse (msg : StationFeed) : Except Raised Unit := do
  let _ ← field "data" msg.data

def call : Call StationFeed StationFeed := McCall.call "ListStationTracks" filterResponse

end ListStationTracks

/-- `res.get('data', {}).get('stations')` and the two tests after it. -/
def StationFeed.tracks (res : StationFeed) : List Song :=
  match (res.data.getD {}).stations with
  | none => []
  | some [] => []
  | some (station :: _) => station.tracks.getD []

structure SharedEntries where
  playlistEntry : Option (List PlaylistEntry) := none
deriving DecidableEq

structure SharedFeed where
  entries : Option (List SharedEntries) := none
deriving DecidableEq

namespace ListSharedPlaylistEntries

/-- The parser reads `res['entries'][0]` and fills in its list. -/
def parseResponse (response : Response SharedFeed) : Except ParseError SharedFeed :=
  match response.text with
  | none => .error .parseException
  | some res =>
      match res.entries with
      | none => .error (.raised (.keyError "entries"))
      | some [] => .error (.raised .indexError)
      | some (first :: others) =>
          .ok { entries := some ({ playlistEntry := some (first.playlistEntry.getD []) } :: others) }

def call : Call SharedFeed SharedFeed where
  name := "ListSharedPlaylistEntries"
  parseResponse
  filterResponse _ := .ok ()
  checkSuccess _ := none

end ListSharedPlaylistEntries

/-- `res['entries'][0]['playlistEntry']`, sorted. -/
def SharedFeed.contents (res : SharedFeed) : Except Raised (List PlaylistEntry) := do
  let entries ← field "entries" res.entries
  match entries with
  | [] => .error .indexError
  | first :: _ => do
      let listed ← field "playlistEntry" first.playlistEntry
      pure (sortedBy PlaylistEntry.absolutePosition listed)

structure SharedPlaylist where
  name : String
  shareToken : String
  albumArtRef : Option (List Art) := none
deriving DecidableEq

/-- A hit wraps an item of one of four kinds; its `type` tells which. -/
structure Hit where
  type : Option String := none
  track : Option Song := none
  artist : Option Artist := none
  album : Option Album := none
  playlist : Option SharedPlaylist := none
deriving DecidableEq

structure SearchFeed where
  entries : Option (List Hit) := none
deriving DecidableEq

def searchCall : Call SearchFeed SearchFeed := McCall.call "Search"

/-- The answer of `search_all_access`. -/
structure Hits where
  albumHits : List Hit
  artistHits : List Hit
  songHits : List Hit
  playlistHits : List Hit
deriving DecidableEq

def Hits.empty : Hits where
  albumHits := []
  artistHits := []
  songHits := []
  playlistHits := []

/-- `hits_by_type[hit['type']].append(hit)`, for the four types that are read back. -/
def Hits.file (hits : Hits) (hit : Hit) (type : String) : Hits :=
  if type = "3" then { hits with albumHits := hits.albumHits ++ [hit] }
  else if type = "2" then { hits with artistHits := hits.artistHits ++ [hit] }
  else if type = "1" then { hits with songHits := hits.songHits ++ [hit] }
  else if type = "4" then { hits with playlistHits := hits.playlistHits ++ [hit] }
  else hits

def hitsByType : List Hit → Hits → Except Raised Hits
  | [], hits => .ok hits
  | hit :: rest, hits => do
      let type ← field "type" hit.type
      hitsByType rest (hits.file hit type)

def SearchFeed.hits (res : SearchFeed) : Except Raised Hits :=
  hitsByType (res.entries.getD []) .empty

structure StreamRequest where
  deviceId : String
  opt : String
  songid : Option String := none
  mjck : Option String := none
deriving DecidableEq

namespace GetStreamUrl

/-- `dynamic_params` and `dynamic_headers`, less the signature and its salt. -/
def request (songId deviceId quality : String) : Except Raised StreamRequest :=
  match songId.toList with
  | [] => .error .indexError
  | 'T' :: _ => .ok { deviceId, opt := quality, mjck := some songId }
  | _ :: _ => .ok { deviceId, opt := quality, songid := some songId }

def parseResponse (response : Response Unit) : Except ParseError String :=
  match response.location with
  | none => .error (.raised (.keyError "location"))
  | some location => .ok location

def call : Call Unit String where
  name := "GetStreamUrl"
  parseResponse
  filterResponse _ := .ok ()
  checkSuccess _ := none

end GetStreamUrl

end GoogleMusic
