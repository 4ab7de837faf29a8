import GoogleMusic.Api.Grouping
import GoogleMusic.Menus.Browsing

namespace GoogleMusic

open Foundation Host

variable {σ : Type}

def songsUnder (category : Category) (key : String) (songs : List Song) : List Song :=
  songs.filter fun song => song.keyIn category = some key

/-- The entry stands for the song: its id, its first art url, and a copy of its fields. -/
structure Files (song : Song) (entry : Entry) : Prop where
  id : some entry.id = song.id
  thumb : entry.thumb = song.thumb
  title : entry.track.title = song.title
  artist : entry.track.artist = song.artist
  album : entry.track.album = song.album
  durationMillis : entry.track.durationMillis = song.durationMillis
  trackId : entry.track.id = song.id
  storeId : entry.track.storeId = song.storeId
  albumArtRef : entry.track.albumArtRef = song.albumArtRef

structure GMusic.ReferenceGrouping (songs : List Song) (api : GMusic) : Prop where
  loaded : api.libraryLoaded = true
  menuKeys : ∀ category key, key ∈ api.menu category ↔ ∃ song ∈ songs, song.keyIn category = some key
  indexKeys : ∀ category key, key ∈ api.index category ↔
    ∃ song ∈ songs, song.keyIn category = some key
  tracks : ∀ category, ∀ key ∈ api.index category, ∃ entries,
    (api.index category).lookup key = some entries ∧
      List.Forall₂ Files (songsUnder category key songs) entries ∧
      getTracksForType api category.title key = .ok entries
  thumbs : ∀ category, ∀ key ∈ api.menu category,
    (api.menu category).lookup key = some (lastOf Song.thumb (songsUnder category key songs))
  titles : ∀ category, menuOfTitle api category.title = api.menu category

section Grouping

variable {api : GMusic} {songs : List Song} {song : Song} {category : Category} {key : String}

theorem files_entry (fields : song.indexable = true) : Files song song.entry where
  id := Song.entry_id fields
  thumb := rfl
  title := rfl
  artist := (keyIn_of_indexable fields .artist).symm
  album := (keyIn_of_indexable fields .album).symm
  durationMillis := rfl
  trackId := rfl
  storeId := rfl
  albumArtRef := rfl

theorem songsUnder_eq (fields : ∀ song ∈ songs, song.indexable = true) :
    songsUnder category key songs = songs.filter fun song => song.shelf category = key :=
  List.filter_congr fun song member => by simp [keyIn_of_indexable (fields song member)]

theorem exists_keyIn_iff (fields : ∀ song ∈ songs, song.indexable = true) :
    (∃ song ∈ songs, song.keyIn category = some key) ↔ ∃ song ∈ songs, song.shelf category = key :=
  exists_congr fun song => and_congr_right fun member => by
    rw [keyIn_of_indexable (fields song member), Option.some.injEq]

theorem GMusic.LibraryOf.referenceGrouping (library : GMusic.LibraryOf songs api)
    (fields : ∀ song ∈ songs, song.indexable = true) : api.ReferenceGrouping songs where
  loaded := library.loaded
  menuKeys category key := by
    rw [exists_keyIn_iff fields, library.menu, Marks.mem_markAll]
    exact or_iff_right (AList.notMem_empty key)
  indexKeys category key := by
    rw [exists_keyIn_iff fields, library.index, Groups.mem_fileAll]
    exact or_iff_right (AList.notMem_empty key)
  tracks category key filed := by
    have found := Groups.lookup_eq_group filed
    refine ⟨(api.index category).group key, found, ?_, ?_⟩
    · rw [songsUnder_eq fields, library.index, Groups.group_fileAll, Groups.group_empty,
        List.nil_append, List.forall₂_map_right_iff, List.forall₂_same]
      exact fun song member => files_entry (fields song (List.mem_of_mem_filter member))
    · rw [getTracksForType_title, found, field_some]
  thumbs category key filed := by
    rw [Marks.lookup_eq_held filed, songsUnder_eq fields, library.menu, Marks.held_markAll,
      Marks.held_empty, Option.or_none]
  titles category := by cases category <;> rfl

/-- Whatever list the service answers a load from a reset library with, the load that
returns has built its reference grouping. -/
theorem loadData_referenceGrouping (client : Mobileclient σ) (host : Host σ) (songs : List Song)
    (answered : client.getAllSongs.Returns host.service songs)
    (returned : (loadData client).Returns host.reset ()) :
    ((loadData client).final host.reset).api.ReferenceGrouping songs := by
  have fields := (loadData_returns_iff answered).mp returned
  exact (loadData_libraryOf answered fields).referenceGrouping fields

end Grouping

/-- Songs of one artist, the first two with art of their own. -/
def oneArtist : List Song :=
  [{ Song.sample with albumArtRef := some [{ url := some "first" }] },
    { Song.sample with id := some "2", genre := some "Rock", albumArtRef := some [{ url := some "second" }] },
    { Song.sample with id := some "3", album := some "Other" }]

theorem loadData_referenceGrouping_oneArtist :
    ((loadData (Remote.ofSongs oneArtist).withSession).final
      Host.signedIn.reset).api.ReferenceGrouping oneArtist :=
  loadData_referenceGrouping (Remote.ofSongs oneArtist).withSession Host.signedIn oneArtist rfl rfl

example : lastOf Song.thumb (songsUnder .artist "Artist" oneArtist) = some "second" ∧
    lastOf Song.thumb (songsUnder .genre "(None)" oneArtist) = some "first" ∧
    lastOf Song.thumb (songsUnder .album "Other" oneArtist) = none := by decide

end GoogleMusic
