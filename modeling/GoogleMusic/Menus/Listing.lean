import GoogleMusic.Menus.MenuPages

namespace GoogleMusic

open Foundation Host

variable {σ : Type}

/-- The row is the track object of the song under the id. -/
def ShowsSong (song : Song) (id : String) (row : TrackObject) : Prop :=
  row.key = .getTrack song id true ∧ row.ratingKey = id

/-- Every page of songs and the track list of every key of the four menus can be opened, and
has one row for each of its songs. -/
structure GMusic.Listable (api : GMusic) : Prop where
  pages : ∀ (random : Shuffle Song) (title : String) (shuffle : Bool) (index : Nat),
    ∃ container, (showSongs random title shuffle (index + 1)).Returns api container ∧
      List.Forall₂ (fun song row => ∃ id, song.id = some id ∧ ShowsSong song id row)
        (page 50 index (listed shuffle (api.reordered random shuffle).allSongs)) container.tracks
  lists : ∀ category, ∀ key ∈ api.menu category, ∃ entries container,
    entries.Perm ((api.index category).group key) ∧
      getTrackList key category.title api = .ok container ∧
      List.Forall₂ (fun entry row => ShowsSong entry.track entry.id row) entries container.tracks

section Listing

variable {api : GMusic} {songs : List Song} {song : Song} {title : String} {index : Nat}

theorem playable_of_indexable (fields : song.indexable = true) :
    song.playable = song.duration.isSome := by
  have sound := sound_eq_indexable song
  rw [fields, Song.sound, soundArt_eq] at sound
  simp only [Bool.and_eq_true, Option.any_eq_true] at sound
  obtain ⟨⟨⟨⟨⟨title, hasTitle, _⟩, hasArtist⟩, hasAlbum⟩, _⟩, art⟩ := sound
  rw [Song.playable, hasTitle, hasArtist, hasAlbum, art]
  simp

theorem showsSong_row (song : Song) (allAccess : Bool) (id : String) :
    ShowsSong song id (song.row allAccess id) := ⟨rfl, rfl⟩

theorem GMusic.LibraryOf.browsable (library : GMusic.LibraryOf songs api)
    (fields : ∀ song ∈ songs, song.indexable = true)
    (durations : ∀ song ∈ songs, song.duration.isSome = true) : api.Browsable where
  loaded := library.loaded
  fields song member := by
    rw [library.allSongs] at member
    have indexable := fields song member
    have playable := playable_of_indexable indexable
    simp only [Song.indexable, Bool.and_eq_true] at indexable
    rw [Song.listable, playable, durations song member, indexable.2, Bool.and_self]

theorem exists_page_of_browsable (browsable : api.Browsable) (random : Shuffle Song) (title : String)
    (shuffle : Bool) (index : Nat) :
    ∃ container, (showSongs random title shuffle (index + 1)).Returns api container ∧
      List.Forall₂ (fun song row => ∃ id, song.id = some id ∧ ShowsSong song id row)
        (page 50 index (listed shuffle (api.reordered random shuffle).allSongs)) container.tracks := by
  refine ⟨songPage title shuffle index (api.reordered random shuffle), ?_, ?_⟩
  · rw [Exec.Returns, showSongs_run random title shuffle index browsable]
  · have readable : (api.reordered random shuffle).Browsable := browsable.reordered
    rw [songPage_tracks, List.forall₂_map_right_iff, List.forall₂_same]
    intro song onPage
    have member := listed_perm.mem_iff.mp (List.mem_of_mem_drop (List.mem_of_mem_take onPage))
    have fields := readable.fields song member
    rw [Song.listable, Bool.and_eq_true] at fields
    obtain ⟨id, hasId⟩ := Option.isSome_iff_exists.mp fields.2
    refine ⟨id, hasId, ?_⟩
    rw [Song.shown, hasId]
    exact showsSong_row song _ id

theorem GMusic.LibraryOf.exists_trackList (library : GMusic.LibraryOf songs api)
    (fields : ∀ song ∈ songs, song.indexable = true)
    (durations : ∀ song ∈ songs, song.duration.isSome = true) {category : Category} {key : String}
    (shown : key ∈ api.menu category) :
    ∃ entries container, entries.Perm ((api.index category).group key) ∧
      getTrackList key category.title api = .ok container ∧
      List.Forall₂ (fun entry row => ShowsSong entry.track entry.id row) entries container.tracks := by
  have grouping := library.referenceGrouping fields
  rw [grouping.menuKeys, ← grouping.indexKeys] at shown
  have playable : ∀ entry ∈ (api.index category).group key, entry.track.playable = true := by
    intro entry member
    rw [library.index, Groups.group_fileAll, Groups.group_empty, List.nil_append] at member
    obtain ⟨song, inside, rfl⟩ := List.mem_map.mp member
    have origin := List.mem_of_mem_filter inside
    exact Song.entry_playable ((playable_of_indexable (fields song origin)).trans (durations song origin))
  refine ⟨sortedEntries category.title ((api.index category).group key), _, sortedEntries_perm,
    getTrackList_of_mem shown playable, ?_⟩
  rw [ObjectContainer.tracks, ObjectContainer.filterMap_asTrack, trackListRows,
    List.forall₂_map_right_iff, List.forall₂_same]
  exact fun entry _ => showsSong_row entry.track api.allAccess entry.id

/-- A page in title order that is returned has built every row. -/
theorem songRow_of_returned {container : ObjectContainer} (random : Shuffle Song)
    (loaded : api.libraryLoaded = true)
    (returned : (showSongs random title false (index + 1)).Returns api container)
    (onPage : song ∈ page 50 index (sortedBy Song.titleKey api.allSongs)) :
    ∃ row, songRow api.allAccess song = .ok row := by
  simp only [Exec.Returns, showSongs, Exec.run_bind, Exec.run_gets, loaded, if_true, Exec.when_false,
    Exec.run_pure, Exec.run_lift, Bool.false_eq_true, if_false, id, slice_page] at returned
  cases read : (page 50 index (sortedBy (fun song : Song => sortKey song.title)
      api.allSongs)).mapM (songRow api.allAccess) with
  | error reason => simp [read] at returned
  | ok rows =>
      obtain ⟨row, _, built⟩ := exists_left_of_forall₂ (mapM_eq_ok_iff.mp read).flip onPage
      exact ⟨row, built⟩

/-- What a load from a reset library has accepted can be listed exactly if every song has
a duration that can be read. -/
theorem loadData_listable_iff (client : Mobileclient σ) (host : Host σ) (songs : List Song)
    (answered : client.getAllSongs.Returns host.service songs)
    (returned : (loadData client).Returns host.reset ()) :
    ((loadData client).final host.reset).api.Listable ↔
      ∀ song ∈ songs, song.duration.isSome = true := by
  have fields := (loadData_returns_iff answered).mp returned
  have library := loadData_libraryOf answered fields
  constructor
  · intro listable song member
    have inside : song ∈ sortedBy Song.titleKey ((loadData client).final host.reset).api.allSongs := by
      rw [library.allSongs]
      exact sortedBy_perm.mem_iff.mpr member
    obtain ⟨index, onPage⟩ := exists_page_of_mem (by decide : 0 < 50) inside
    obtain ⟨container, shown, _⟩ := listable.pages Shuffle.identity "Songs" false index
    obtain ⟨row, built⟩ := songRow_of_returned Shuffle.identity library.loaded shown onPage
    obtain ⟨id, _, tracked⟩ := bind_eq_ok.mp built
    have playable := (getTrack_eq_ok.mp tracked).1
    rw [playable_of_indexable (fields song member)] at playable
    exact playable
  · intro durations
    exact {
      pages := exists_page_of_browsable (library.browsable fields durations)
      lists := fun _ _ shown => library.exists_trackList fields durations shown }

end Listing

theorem loadData_listable_fiftyOne :
    ((loadData (Remote.ofSongs fiftyOneSongs).withSession).final Host.signedIn.reset).api.Listable := by
  have answered : (Remote.ofSongs fiftyOneSongs).withSession.getAllSongs.Returns
      Host.signedIn.service fiftyOneSongs := rfl
  have indexable : ∀ song ∈ fiftyOneSongs, song.indexable = true :=
    fun _ member => by obtain ⟨_, _, rfl⟩ := List.mem_map.mp member; rfl
  refine (loadData_listable_iff (Remote.ofSongs fiftyOneSongs).withSession Host.signedIn fiftyOneSongs
    answered ((loadData_returns_iff answered).mpr indexable)).mpr fun _ member => ?_
  obtain ⟨_, _, rfl⟩ := List.mem_map.mp member
  rfl

def Song.untimed : Song := { Song.sample with durationMillis := none }

/-- A song without a duration is loaded, and neither the page it stands on nor its track
list can be opened. -/
theorem untimed_song_not_listed :
    let client := (Remote.ofSongs [Song.sample, Song.untimed]).withSession
    let after := (loadData client).final Host.signedIn.reset
    (loadData client).Returns Host.signedIn.reset () ∧
      (showSongs Shuffle.identity "Songs" false 1).Raises after.api (.keyError "durationMillis") ∧
      ("Artist", "Artists") ∈ (librarySubMenu "Artists" 1 after.api).trackLists ∧
      getTrackList "Artist" "Artists" after.api = .error (.keyError "durationMillis") ∧
      ¬ after.api.Listable := by
  refine ⟨rfl, rfl, by decide, rfl, fun listable => ?_⟩
  obtain ⟨container, shown, _⟩ := listable.pages Shuffle.identity "Songs" false 0
  cases shown

end GoogleMusic
