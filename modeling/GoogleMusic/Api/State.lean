import GoogleMusic.Data
import GoogleMusic.Foundation.Groups

namespace GoogleMusic

open Foundation

structure Entry where
  track : Song
  thumb : Option String
  id : String
deriving DecidableEq

abbrev Menu := AList (fun _ : String => Option String)

abbrev Index := Groups String Entry

structure GMusic where
  authenticated : Bool := false
  allAccess : Bool := false
  libraryLoaded : Bool := false
  allSongs : List Song := []
  letters : Menu := ∅
  artists : Menu := ∅
  albums : Menu := ∅
  genres : Menu := ∅
  tracksByLetter : Index := ∅
  tracksByArtist : Index := ∅
  tracksByAlbum : Index := ∅
  tracksByGenre : Index := ∅
  device : Option String := none
  playlists : List Playlist := []
  playlistContents : List PlaylistContents := []
  stations : List Station := []

/-- The four ways the library is grouped.  The source repeats its code for each;
here the category is a parameter. -/
inductive Category where
  | letter
  | artist
  | album
  | genre
deriving DecidableEq

def Category.title : Category → String
  | .letter => "Songs By Letter"
  | .artist => "Artists"
  | .album => "Albums"
  | .genre => "Genres"

namespace GMusic

def menu (api : GMusic) : Category → Menu
  | .letter => api.letters
  | .artist => api.artists
  | .album => api.albums
  | .genre => api.genres

def index (api : GMusic) : Category → Index
  | .letter => api.tracksByLetter
  | .artist => api.tracksByArtist
  | .album => api.tracksByAlbum
  | .genre => api.tracksByGenre

def setMenu (api : GMusic) : Category → Menu → GMusic
  | .letter, menu => { api with letters := menu }
  | .artist, menu => { api with artists := menu }
  | .album, menu => { api with albums := menu }
  | .genre, menu => { api with genres := menu }

def setIndex (api : GMusic) : Category → Index → GMusic
  | .letter, index => { api with tracksByLetter := index }
  | .artist, index => { api with tracksByArtist := index }
  | .album, index => { api with tracksByAlbum := index }
  | .genre, index => { api with tracksByGenre := index }

def withSongs (api : GMusic) (songs : List Song) : GMusic := { api with allSongs := songs }

def markLoaded (api : GMusic) : GMusic := { api with libraryLoaded := true }

def resetLibrary (api : GMusic) : GMusic :=
  { api with
    libraryLoaded := false
    allSongs := []
    playlists := []
    playlistContents := []
    stations := []
    letters := ∅
    artists := ∅
    albums := ∅
    genres := ∅
    tracksByLetter := ∅
    tracksByArtist := ∅
    tracksByAlbum := ∅
    tracksByGenre := ∅ }

/-- Everything but the eight maps: an equation between two of these says that all
other fields agree. -/
def withoutMaps (api : GMusic) : GMusic :=
  { api with
    letters := ∅
    artists := ∅
    albums := ∅
    genres := ∅
    tracksByLetter := ∅
    tracksByArtist := ∅
    tracksByAlbum := ∅
    tracksByGenre := ∅ }

variable {api : GMusic} {category other : Category}

@[simp] theorem withoutMaps_setMenu (menu : Menu) :
    (api.setMenu category menu).withoutMaps = api.withoutMaps := by
  cases category <;> rfl

@[simp] theorem withoutMaps_setIndex (index : Index) :
    (api.setIndex category index).withoutMaps = api.withoutMaps := by
  cases category <;> rfl

@[simp] theorem index_setIndex_same (index : Index) :
    (api.setIndex category index).index category = index := by
  cases category <;> rfl

theorem index_setIndex_other (different : other ≠ category) (index : Index) :
    (api.setIndex category index).index other = api.index other := by
  cases category <;> cases other <;> first | rfl | exact absurd rfl different

@[simp] theorem index_setMenu (menu : Menu) :
    (api.setMenu category menu).index other = api.index other := by
  cases category <;> cases other <;> rfl

@[simp] theorem menu_setMenu_same (menu : Menu) :
    (api.setMenu category menu).menu category = menu := by
  cases category <;> rfl

theorem menu_setMenu_other (different : other ≠ category) (menu : Menu) :
    (api.setMenu category menu).menu other = api.menu other := by
  cases category <;> cases other <;> first | rfl | exact absurd rfl different

@[simp] theorem menu_setIndex (index : Index) :
    (api.setIndex category index).menu other = api.menu other := by
  cases category <;> cases other <;> rfl

@[simp] theorem index_resetLibrary : api.resetLibrary.index category = ∅ := by
  cases category <;> rfl

@[simp] theorem menu_resetLibrary : api.resetLibrary.menu category = ∅ := by
  cases category <;> rfl

@[simp] theorem allSongs_withSongs {songs : List Song} : (api.withSongs songs).allSongs = songs := rfl

@[simp] theorem libraryLoaded_withSongs {songs : List Song} :
    (api.withSongs songs).libraryLoaded = api.libraryLoaded := rfl

@[simp] theorem allSongs_markLoaded : api.markLoaded.allSongs = api.allSongs := rfl

@[simp] theorem libraryLoaded_markLoaded : api.markLoaded.libraryLoaded = true := rfl

@[simp] theorem index_withSongs {songs : List Song} :
    (api.withSongs songs).index category = api.index category := by
  cases category <;> rfl

@[simp] theorem menu_withSongs {songs : List Song} :
    (api.withSongs songs).menu category = api.menu category := by
  cases category <;> rfl

@[simp] theorem index_markLoaded : api.markLoaded.index category = api.index category := by
  cases category <;> rfl

@[simp] theorem menu_markLoaded : api.markLoaded.menu category = api.menu category := by
  cases category <;> rfl

/-- Nothing is loaded: no song, no key in any map, and the flag is down. -/
structure Blank (api : GMusic) : Prop where
  songs : api.allSongs = []
  menus : ∀ category, api.menu category = ∅
  indexes : ∀ category, api.index category = ∅
  unloaded : api.libraryLoaded = false

theorem resetLibrary_blank (api : GMusic) : api.resetLibrary.Blank :=
  ⟨rfl, fun _ => menu_resetLibrary, fun _ => index_resetLibrary, rfl⟩

/-- The two states hold the same library; login, device and caches may differ. -/
structure SameLibrary (before after : GMusic) : Prop where
  songs : after.allSongs = before.allSongs
  menus : after.menu = before.menu
  indexes : after.index = before.index
  loaded : after.libraryLoaded = before.libraryLoaded

theorem SameLibrary.refl (api : GMusic) : SameLibrary api api := ⟨rfl, rfl, rfl, rfl⟩

theorem SameLibrary.trans {before middle after : GMusic} (head : SameLibrary before middle)
    (tail : SameLibrary middle after) : SameLibrary before after :=
  ⟨tail.songs.trans head.songs, tail.menus.trans head.menus, tail.indexes.trans head.indexes,
    tail.loaded.trans head.loaded⟩

theorem SameLibrary.blank {before after : GMusic} (same : SameLibrary before after)
    (blank : before.Blank) : after.Blank where
  songs := same.songs.trans blank.songs
  menus := by rw [same.menus]; exact blank.menus
  indexes := by rw [same.indexes]; exact blank.indexes
  unloaded := same.loaded.trans blank.unloaded

def KeysAgree (api : GMusic) : Prop :=
  ∀ category key, key ∈ api.menu category ↔ key ∈ api.index category

theorem Blank.keysAgree (blank : api.Blank) : api.KeysAgree := by
  intro category key
  rw [blank.menus, blank.indexes]
  exact iff_of_false (AList.notMem_empty key) (AList.notMem_empty key)

theorem SameLibrary.keysAgree {before after : GMusic} (same : SameLibrary before after)
    (agree : before.KeysAgree) : after.KeysAgree := by
  intro category key
  rw [same.menus, same.indexes]
  exact agree category key

theorem withSongs_keysAgree {songs : List Song} (agree : api.KeysAgree) :
    (api.withSongs songs).KeysAgree := by
  intro category key
  rw [menu_withSongs, index_withSongs]
  exact agree category key

theorem markLoaded_keysAgree (agree : api.KeysAgree) : api.markLoaded.KeysAgree := by
  intro category key
  rw [menu_markLoaded, index_markLoaded]
  exact agree category key

end GMusic

end GoogleMusic
