import GoogleMusic.Api.Loading
import GoogleMusic.Menus.Objects
import GoogleMusic.Foundation.Slices
import GoogleMusic.Foundation.Sorting
import Mathlib.Order.WithBot
import Mathlib.Data.String.Basic

namespace GoogleMusic

open Foundation

def pageSize : Int := 50

/-- A key of `sorted` that may be `None`, which compares below everything. -/
def sortKey : Option α → WithBot α
  | none => ⊥
  | some value => (value : WithBot α)

def artThumb : Option (List Art) → Except Raised (Option String)
  | none => .ok none
  | some art => some <$> firstUrl art

/-- `GetTrack(song, key)`.  The song may be a dictionary of the service or a copy made
by `load_data`. -/
def getTrack (allAccess : Bool) (song : Song) (key : String) : Except Raised TrackObject := do
  let storeId : PlayId :=
    match song.storeId with
    | some storeId => if allAccess then .id storeId else .missing
    | none => .missing
  let id : PlayId :=
    match song.id with
    | some id => .id id
    | none => .missing
  let title ← field "title" song.title
  let album ← field "album" song.album
  let artist ← field "artist" song.artist
  let durationMillis ← field "durationMillis" song.durationMillis
  let duration ← intOfString durationMillis
  let index := song.trackNumber.getD 0
  let items := [{
    parts := [.playAudio id storeId "mp3"]
    container := .mp3
    audioCodec := .mp3 }]
  let thumb ← artThumb song.albumArtRef
  pure { key := .getTrack song key true, ratingKey := key, title, album, artist, duration, index,
         items, thumb }

/-- The links name no page, and only the last one sets `shuffle`. -/
def libraryMenu : ObjectContainer where
  title2 := some (.label "My Library")
  objects := [
    .directory (.librarySubMenu "Artists" 1) (.label "Artists") none,
    .directory (.librarySubMenu "Albums" 1) (.label "Albums") none,
    .directory (.showSongs "Songs" false 1) (.label "Songs") none,
    .directory (.librarySubMenu "Genres" 1) (.label "Genres") none,
    .directory (.librarySubMenu "Songs By Letter" 1) (.label "Songs By Letter") none,
    .directory (.showSongs "Shuffle All" true 1) (.label "Shuffle All") none]

def menuOfTitle (api : GMusic) (title : String) : Menu :=
  if title = "Artists" then api.artists
  else if title = "Albums" then api.albums
  else if title = "Genres" then api.genres
  else if title = "Songs By Letter" then api.letters
  else ∅

def menuRow (items : Menu) (title key : String) : MenuObject :=
  .directory (.getTrackList key title) (.literal key)
    (((items.lookup key).join.filter fun thumb => thumb != "").map Thumb.url)

def librarySubMenu (title : String) (page : Int) (api : GMusic) : ObjectContainer :=
  if api.libraryLoaded then
    let items := menuOfTitle api title
    let start := (page - 1) * pageSize
    let stop := start + pageSize
    { title2 := some (.label title)
      objects :=
        (slice (sortedBy id items.keys) start stop).map (menuRow items title) ++
        (if stop < items.keys.length then [.nextPage (.librarySubMenu title (page + 1))] else []) }
  else .notice "Please Wait" "Loading"

def songRow (allAccess : Bool) (song : Song) : Except Raised TrackObject := do
  let id ← field "id" song.id
  getTrack allAccess song id

/-- `random` is what `random.shuffle` does to the list, which is the API object's own. -/
def showSongs (random : Shuffle Song) (title : String) (shuffle : Bool) (page : Int) :
    Exec GMusic Raised ObjectContainer := do
  let libraryLoaded ← Exec.gets GMusic.libraryLoaded
  if libraryLoaded then do
    let start := (page - 1) * pageSize
    let stop := start + pageSize
    Exec.when shuffle
      (Exec.modify fun api => api.withSongs (random.apply api.allSongs))
    let api ← Exec.gets id
    let songs := if shuffle then api.allSongs
      else sortedBy (fun song : Song => sortKey song.title) api.allSongs
    let rows ← Exec.lift ((slice songs start stop).mapM (songRow api.allAccess))
    pure
      { title2 := some (.label title)
        objects := rows.map .track ++
          (if stop < api.allSongs.length then [.nextPage (.showSongs title shuffle (page + 1))]
           else []) }
  else pure (.notice "Please Wait" "Loading")

theorem showSongs_final {random : Shuffle Song} {title : String} {shuffle : Bool} {page : Int}
    {api : GMusic} : (showSongs random title shuffle page).final api =
      if api.libraryLoaded && shuffle then api.withSongs (random.apply api.allSongs) else api := by
  cases loaded : api.libraryLoaded <;> cases shuffle <;>
    simp only [showSongs, Exec.final, Exec.run_bind, Exec.run_gets, loaded, if_true, if_false,
      Bool.false_eq_true, Exec.run_pure, Exec.when_true, Exec.when_false, Exec.run_modify,
      Exec.run_lift, Bool.false_and, Bool.and_self, Bool.and_false]
  · split <;> simp_all
  · split <;> simp_all

def entryRow (allAccess : Bool) (entry : Entry) : Except Raised TrackObject :=
  getTrack allAccess entry.track entry.id

/-- The order of a track list: by title within a letter, else by the field that
`load_data` fills from the track number. -/
def sortedEntries (type : String) (entries : List Entry) : List Entry :=
  if type = "Songs By Letter" then sortedBy (fun entry : Entry => sortKey entry.track.title) entries
  else sortedBy (fun entry : Entry => sortKey entry.track.trackType) entries

def getTrackList (name type : String) (api : GMusic) : Except Raised ObjectContainer := do
  let tracks ← getTracksForType api type name
  let rows ← (sortedEntries type tracks).mapM (entryRow api.allAccess)
  pure { title2 := some (.literal name), objects := rows.map .track }

end GoogleMusic
