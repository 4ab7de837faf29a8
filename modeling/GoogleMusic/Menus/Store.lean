import GoogleMusic.Menus.Playlists
import GoogleMusic.Vendored.Lookups

namespace GoogleMusic

open Foundation Host

variable {σ : Type}

inductive Link where
  | menu (callback : Callback)
  | genresSubMenu (name id : String) (children : Option (List String))
  | addItemMenu (song : Song)
  | createStation (id : String)
  | getArtistInfo (name id : String)
  | getAlbumInfo (name id : String)
deriving DecidableEq

/-- A text, or two of them in `'%s %s'`. -/
inductive Caption where
  | text (text : Text)
  | pair (first second : Text)
deriving DecidableEq

inductive StoreObject where
  | directory (key : Link) (title : Caption) (summary : Option Text) (thumb : Option Thumb)
  | track (track : TrackObject)
deriving DecidableEq

structure StoreContainer where
  title2 : Caption
  objects : List StoreObject
deriving DecidableEq

/-- A handler that reads a field of the `[]` of a wrapper that gave up. -/
def Reply.read {α : Type} : Reply α → Except Raised α
  | .value answer => .ok answer
  | .emptyList => .error .typeError

def genreRow (genre : Genre) : Except Raised StoreObject := do
  let thumb ← artThumb genre.images
  pure (.directory (.genresSubMenu genre.name genre.id genre.children) (.text (.literal genre.name))
    none (thumb.map Thumb.url))

def genresMenu (client : Mobileclient σ) : Exec (Host σ) Raised StoreContainer := do
  let genres ← getGenres client
  let objects ← Exec.lift (genres.mapM genreRow)
  pure { title2 := .text (.label "Genres"), objects }

def playRow (id name : String) : StoreObject :=
  .directory (.createStation id) (.text (.literal ("Play " ++ name))) none none

def genresSubMenu (name id : String) (children : Option (List String)) : StoreContainer where
  title2 := .text (.literal name)
  objects := playRow id name :: (children.getD []).map fun child => playRow child (prettify child)

/-- The four lists of hits, by the keys they are answered under. -/
inductive HitKind where
  | album
  | artist
  | song
  | playlist
deriving DecidableEq

def Hits.values (hits : Hits) : HitKind → List Hit
  | .album => hits.albumHits
  | .artist => hits.artistHits
  | .song => hits.songHits
  | .playlist => hits.playlistHits

/-- The order in which `iteritems` goes over a dictionary of the four lists. -/
structure Iteration where
  kinds : List HitKind
  whole : kinds.Perm [.album, .artist, .song, .playlist]

def songHitRow (hit : Hit) : Except Raised StoreObject := do
  let track ← field "track" hit.track
  let title ← field "title" track.title
  let thumb ← artThumb track.albumArtRef
  pure (.directory (.addItemMenu track) (.text (.literal title)) (some (.label "Song"))
    (thumb.map Thumb.url))

def artistHitRow (hit : Hit) : Except Raised StoreObject := do
  let artist ← field "artist" hit.artist
  pure (.directory (.getArtistInfo artist.name artist.artistId) (.text (.literal artist.name))
    (some (.label "Artist")) (artist.artistArtRef.map Thumb.url))

def albumHitRow (hit : Hit) : Except Raised StoreObject := do
  let album ← field "album" hit.album
  pure (.directory (.getAlbumInfo album.name album.albumId) (.text (.literal album.name))
    (some (.label "Album")) (album.albumArtRef.map Thumb.url))

def playlistHitRow (hit : Hit) : Except Raised StoreObject := do
  let playlist ← field "playlist" hit.playlist
  let thumb ← artThumb playlist.albumArtRef
  pure (.directory (.menu (.getSharedPlaylist playlist.name playlist.shareToken))
    (.text (.literal playlist.name)) (some (.label "Playlist")) (thumb.map Thumb.url))

def HitKind.row : HitKind → Hit → Except Raised StoreObject
  | .album => albumHitRow
  | .artist => artistHitRow
  | .song => songHitRow
  | .playlist => playlistHitRow

/-- The loop over the items of the dictionary. -/
def hitRows (hits : Hits) : List HitKind → Except Raised (List StoreObject)
  | [] => .ok []
  | kind :: kinds => do
      let first ← (hits.values kind).mapM kind.row
      let rest ← hitRows hits kinds
      pure (first ++ rest)

/-- `search_all_access` of the client, with the hits as it answers them. -/
abbrev Search (σ : Type) := String → Nat → Exec σ Raised Hits

/-- The wrapper around the search, whose own default no caller uses. -/
def findAllAccess (client : Mobileclient σ) (search : Search σ) (query : String) (maxResults : Nat) :
    Exec (Host σ) Raised (Reply Hits) :=
  withRelogin client (.value <$> onService (search query maxResults)) .emptyList

/-- `[].iteritems` is an `AttributeError`. -/
def searchMenu (client : Mobileclient σ) (search : Search σ) (order : Iteration) (query : String) :
    Exec (Host σ) Raised StoreContainer := do
  let results ← findAllAccess client search query 100
  match results with
  | .emptyList => Exec.raise (.other "AttributeError")
  | .value hits => do
      let objects ← Exec.lift (hitRows hits order.kinds)
      pure { title2 := .text (.label "Search"), objects }

def addItemMenu (allAccess : Bool) (song : Song) : Except Raised StoreContainer := do
  let title ← field "title" song.title
  let nid ← field "nid" song.nid
  let track ← getTrack allAccess song nid
  pure
    { title2 := .pair (.label "Options for") (.literal title)
      objects := [
        .track track,
        .directory (.menu (.addToCollection nid none 0)) (.pair (.label "Add to") (.label "My Library"))
          none none,
        .directory (.menu (.playlistsMenu (some nid))) (.pair (.label "Add to") (.label "Playlist"))
          none none] }

def albumRow (album : Album) : StoreObject :=
  .directory (.getAlbumInfo album.name album.albumId) (.text (.literal album.name)) none
    (album.albumArtRef.map Thumb.url)

def albumTrackRow (allAccess : Bool) (song : Song) : Except Raised StoreObject := do
  let nid ← field "nid" song.nid
  let row ← getTrack allAccess song nid
  pure (.track row)

def sharedTrackRow (allAccess : Bool) (entry : PlaylistEntry) : Except Raised MenuObject := do
  let song ← field "track" entry.track
  let row ← getTrack allAccess song entry.trackId
  pure (.track row)

namespace Handlers

def getArtistInfo (client : Mobileclient σ) (name id : String) : Exec (Host σ) Raised StoreContainer := do
  let results ← GoogleMusic.getArtistInfo client id
  let artist ← Exec.lift results.read
  let albums ← Exec.lift (field "albums" artist.albums)
  pure { title2 := .text (.literal name)
         objects := (sortedBy (fun album : Album => sortKey album.year) albums).map albumRow }

def getAlbumInfo (client : Mobileclient σ) (name id : String) : Exec (Host σ) Raised StoreContainer := do
  let results ← GoogleMusic.getAlbumInfo client id
  let album ← Exec.lift results.read
  let tracks ← Exec.lift (field "tracks" album.tracks)
  let api ← Exec.gets Host.api
  let objects ← Exec.lift (tracks.mapM (albumTrackRow api.allAccess))
  pure { title2 := .text (.literal name), objects }

def getSharedPlaylist (client : Mobileclient σ) (name token : String) :
    Exec (Host σ) Raised ObjectContainer := do
  let tracks ← getSharedPlaylistContents client token
  let api ← Exec.gets Host.api
  let objects ← Exec.lift (tracks.mapM (sharedTrackRow api.allAccess))
  pure { title2 := some (.literal name), objects }

/-- `GetTrack` by the key of a row, which sets `include_container`. -/
def getTrack (allAccess : Bool) (song : Song) (key : String) : Except Raised ObjectContainer := do
  let track ← GoogleMusic.getTrack allAccess song key
  pure { objects := [.track track] }

end Handlers

end GoogleMusic
