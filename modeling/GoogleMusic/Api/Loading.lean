import GoogleMusic.Api.Wrappers

namespace GoogleMusic

open Foundation Host

variable {σ : Type}

/-- The head of the loop body: the key of the song in each category. -/
def readKeys (song : Song) : Except Raised (Category → String) := do
  let title ← field "title" song.title
  let letter ← firstCharacter title
  let artist ← field "artist" song.artist
  let album ← field "album" song.album
  let genre := song.genre.getD "(None)"
  pure fun
    | .letter => letter
    | .artist => artist
    | .album => album
    | .genre => genre

namespace GMusic

/-- `if key not in tracks_by_…: tracks_by_…[key] = []; …[key] = None`. -/
def ensure (category : Category) (key : String) (api : GMusic) : GMusic :=
  if key ∈ api.index category then api
  else (api.setIndex category ((api.index category).insert key [])).setMenu category
    ((api.menu category).insert key none)

def openLists (keys : Category → String) (api : GMusic) : GMusic :=
  (((api.ensure .letter (keys .letter)).ensure .artist (keys .artist)).ensure .album
    (keys .album)).ensure .genre (keys .genre)

def setThumb (category : Category) (key thumb : String) (api : GMusic) : GMusic :=
  api.setMenu category ((api.menu category).insert key (some thumb))

def setThumbs (keys : Category → String) (thumb : String) (api : GMusic) : GMusic :=
  (((api.setThumb .letter (keys .letter) thumb).setThumb .artist (keys .artist) thumb).setThumb
    .album (keys .album) thumb).setThumb .genre (keys .genre) thumb

end GMusic

/-- The copy of a song that the indexes keep.  The presence tests copy every field
as it is, and the track number goes under `trackType`. -/
def Song.track (song : Song) (artist album : String) : Song :=
  { artist := some artist
    album := some album
    title := song.title
    durationMillis := song.durationMillis
    id := song.id
    trackType := song.trackNumber
    storeId := song.storeId
    albumArtRef := song.albumArtRef }

def indexArt (keys : Category → String) : Option (List Art) → Exec GMusic Raised (Option String)
  | none => pure none
  | some art => do
      let thumb ← Exec.lift (firstUrl art)
      Exec.modify (GMusic.setThumbs keys thumb)
      pure (some thumb)

def appendEntry (category : Category) (key : String) (entry : Entry) : Exec GMusic Raised Unit := do
  let index ← Exec.gets fun api => api.index category
  match index.appendAt key entry with
  | some index => Exec.modify fun api => api.setIndex category index
  | none => Exec.raise (.keyError key)

def appendEntries (keys : Category → String) (entry : Entry) : Exec GMusic Raised Unit := do
  appendEntry .letter (keys .letter) entry
  appendEntry .artist (keys .artist) entry
  appendEntry .album (keys .album) entry
  appendEntry .genre (keys .genre) entry

/-- The body of the loop.  The first append evaluates `song['id']`, so that a song
without one is appended to no list. -/
def indexSong (song : Song) : Exec GMusic Raised Unit := do
  let keys ← Exec.lift (readKeys song)
  Exec.modify (GMusic.openLists keys)
  let track := song.track (keys .artist) (keys .album)
  let thumb ← indexArt keys song.albumArtRef
  let id ← Exec.lift (field "id" song.id)
  appendEntries keys { track, thumb, id }

def indexSongs : List Song → Exec GMusic Raised Unit
  | [] => pure ()
  | song :: songs => do
      indexSong song
      indexSongs songs

def indexLibrary : Exec GMusic Raised Unit := do
  let allSongs ← Exec.gets GMusic.allSongs
  indexSongs allSongs
  Exec.modify GMusic.markLoaded

def loadData (client : Mobileclient σ) : Exec (Host σ) Raised Unit := do
  let _ ← setAllSongs client
  onApi indexLibrary

/-- An unknown category is answered with an empty dictionary, which a loop reads as
an empty list. -/
def getTracksForType (api : GMusic) (type name : String) : Except Raised (List Entry) :=
  let type := lower type
  if type = "artists" then field name (api.tracksByArtist.lookup name)
  else if type = "albums" then field name (api.tracksByAlbum.lookup name)
  else if type = "genres" then field name (api.tracksByGenre.lookup name)
  else if type = "songs by letter" then field name (api.tracksByLetter.lookup name)
  else .ok []

end GoogleMusic
