import GoogleMusic.Menus.Rows

namespace GoogleMusic

open Foundation

variable {σ : Type}

/-- The two track objects agree in everything but the callback, which carries the
dictionary it was built from. -/
def TrackObject.Agrees (left right : TrackObject) : Prop :=
  left = { right with key := left.key }

/-- Every track list shows the songs filed under its key, each once, and each as
`ShowSongs` builds it. -/
def GMusic.ViewsAgree (api : GMusic) : Prop :=
  ∀ category key, key ∈ api.index category → ∃ container order,
    getTrackList key category.title api = .ok container ∧
    order.Perm (api.allSongs.filter fun song => song.shelf category = key) ∧
    List.Forall₂ (fun row song => ∃ shown,
      songRow api.allAccess song = .ok shown ∧ row.Agrees shown) container.tracks order

section Rows

variable {song : Song} {allAccess : Bool}

theorem songRow_of_playable (fields : song.indexable = true) (playable : song.playable = true) :
    songRow allAccess song = .ok (song.row allAccess song.entry.id) := by
  rw [songRow, ← song.entry_id fields]
  exact getTrack_of_playable playable

theorem Song.entry_row (fields : song.indexable = true) :
    song.entry.track.row allAccess song.entry.id =
      { song.row allAccess song.entry.id with
        key := .getTrack song.entry.track song.entry.id true
        index := 0 } := by
  have artist : song.artist = some (song.shelf .artist) := keyIn_of_indexable fields .artist
  have album : song.album = some (song.shelf .album) := keyIn_of_indexable fields .album
  simp only [Song.row, artist, album]
  rfl

theorem Song.entry_row_agrees (fields : song.indexable = true) :
    (song.entry.track.row allAccess song.entry.id).Agrees (song.row allAccess song.entry.id) ↔
      song.trackNumber.getD 0 = 0 := by
  rw [TrackObject.Agrees, song.entry_row fields]
  simp [Song.row, eq_comm]

end Rows

section Lists

variable {client : Mobileclient σ} {host after : Host σ} {api : GMusic} {category : Category}
variable {key : String} {songs : List Song}

def sortedSongs (type : String) (songs : List Song) : List Song :=
  if type = "Songs By Letter" then sortedBy (fun song => sortKey song.entry.track.title) songs
  else sortedBy (fun song => sortKey song.entry.track.trackType) songs

theorem sortedSongs_perm (type : String) : (sortedSongs type songs).Perm songs := by
  unfold sortedSongs
  split
  · exact sortedBy_perm
  · exact sortedBy_perm

theorem sortedEntries_map {type : String} :
    sortedEntries type (songs.map Song.entry) = (sortedSongs type songs).map Song.entry := by
  unfold sortedEntries sortedSongs
  split
  · exact sortedBy_map
  · exact sortedBy_map

structure GMusic.Filed (api : GMusic) : Prop where
  fields : ∀ song ∈ api.allSongs, song.indexable = true
  group : ∀ category key, (api.index category).group key =
    (api.allSongs.filter fun song => song.shelf category = key).map Song.entry
  key : ∀ category, ∀ song ∈ api.allSongs, song.shelf category ∈ api.index category

theorem loadData_filed (blank : host.api.Blank) (ran : (loadData client).run host = (.ok (), after)) :
    after.api.Filed := by
  have outcome := loadData_outcome client host
  rw [Exec.final, ran] at outcome
  change LoadOutcome client host (.ok ()) after.api at outcome
  generalize after.api = api at outcome
  cases outcome with
  | @indexed songs api source fields filed indexes =>
      have same : api.allSongs = songs := filed.allSongs
      have fromNothing : ∀ category, api.index category =
          Groups.fileAll (Song.shelf category) Song.entry songs ∅ := by
        intro category
        rw [indexes, blank.indexes]
      refine ⟨?_, fun category key => ?_, fun category song member => ?_⟩
      · rw [GMusic.allSongs_markLoaded, same]
        exact fields
      · rw [GMusic.index_markLoaded, GMusic.allSongs_markLoaded, fromNothing, same,
          Groups.group_fileAll, Groups.group_empty, List.nil_append]
      · rw [GMusic.allSongs_markLoaded, same] at member
        rw [GMusic.index_markLoaded, fromNothing]
        exact Groups.mem_fileAll.mpr (Or.inr ⟨song, member, rfl⟩)

theorem getTrackList_of_filed (filed : api.Filed)
    (playable : ∀ song ∈ api.allSongs, song.playable = true) (member : key ∈ api.index category) :
    getTrackList key category.title api =
      .ok { title2 := some (.literal key)
            objects := ((sortedSongs category.title
              (api.allSongs.filter fun song => song.shelf category = key)).map fun song =>
                song.entry.track.row api.allAccess song.entry.id).map .track } := by
  have entries : ∀ entry ∈ (api.index category).group key, entry.track.playable = true := by
    rw [filed.group]
    intro entry inside
    obtain ⟨song, listed, rfl⟩ := List.mem_map.mp inside
    exact Song.entry_playable (playable song (List.mem_of_mem_filter listed))
  rw [getTrackList_of_mem member entries, trackListRows, filed.group, sortedEntries_map,
    List.map_map (f := Song.entry)]
  rfl

theorem tracks_of_rows {title : Option Text} {rows : List TrackObject} :
    ({ title2 := title, objects := rows.map .track } : ObjectContainer).tracks = rows :=
  ObjectContainer.filterMap_asTrack rows

/-- A row of a track list never has a track number, so its song must not have one
either. -/
theorem viewsAgree_of_filed (filed : api.Filed)
    (playable : ∀ song ∈ api.allSongs, song.playable = true) :
    api.ViewsAgree ↔ ∀ song ∈ api.allSongs, song.trackNumber.getD 0 = 0 := by
  constructor
  · intro agree song member
    obtain ⟨container, order, returned, perm, rows⟩ :=
      agree .letter _ (filed.key .letter song member)
    rw [getTrackList_of_filed filed playable (filed.key .letter song member)] at returned
    cases returned
    rw [tracks_of_rows] at rows
    have inside : song ∈ order := perm.mem_iff.mpr (by simp [member])
    obtain ⟨row, listed, shown, built, same⟩ := exists_left_of_forall₂ rows inside
    obtain ⟨other, _, rfl⟩ := List.mem_map.mp listed
    rw [songRow_of_playable (filed.fields song member) (playable song member)] at built
    cases built
    exact (congrArg TrackObject.index same).symm
  · intro numbers category key member
    refine ⟨_, _, getTrackList_of_filed filed playable member,
      sortedSongs_perm category.title, ?_⟩
    rw [tracks_of_rows, List.forall₂_map_left_iff, List.forall₂_same]
    intro song inside
    have listed := List.mem_of_mem_filter ((sortedSongs_perm _).mem_iff.mp inside)
    have fields := filed.fields song listed
    exact ⟨_, songRow_of_playable fields (playable song listed),
      (song.entry_row_agrees fields).mpr (numbers song listed)⟩

end Lists

/-- After a completed load of playable songs the two views agree if and only if no song
has a track number, or only zero. -/
theorem viewsAgree_iff {client : Mobileclient σ} {host after : Host σ} (blank : host.api.Blank)
    (ran : (loadData client).run host = (.ok (), after))
    (playable : ∀ song ∈ after.api.allSongs, song.playable = true) :
    after.api.ViewsAgree ↔ ∀ song ∈ after.api.allSongs,
      song.trackNumber = none ∨ song.trackNumber = some 0 := by
  rw [viewsAgree_of_filed (loadData_filed blank ran) playable]
  apply forall₂_congr
  intro song _
  cases song.trackNumber <;> simp

/-- Songs with and without the fields that a song may lack. -/
def variedSongs : List Song :=
  [.sample, { Song.sample with id := some "2", artist := some "Other", storeId := some "T2",
                               trackNumber := some 0 },
    { Song.sample with id := some "3", title := some "Last", genre := some "Rock",
                       nid := some "T3", albumArtRef := some [{ url := some "art" }] }]

theorem viewsAgree_of_varied :
    ((loadData (Remote.ofSongs variedSongs).withSession).final Host.signedIn).api.ViewsAgree ↔
      ∀ song ∈ ((loadData (Remote.ofSongs variedSongs).withSession).final Host.signedIn).api.allSongs,
        song.trackNumber = none ∨ song.trackNumber = some 0 :=
  have blank : Host.signedIn.api.Blank :=
    ⟨rfl, fun category => by cases category <;> rfl, fun category => by cases category <;> rfl, rfl⟩
  have ran : (loadData (Remote.ofSongs variedSongs).withSession).run Host.signedIn = (.ok (), _) := rfl
  viewsAgree_iff blank ran (by decide)

def Song.third : Song := { Song.sample with trackNumber := some 3 }

/-- The third track of an album is track number zero in every track list. -/
theorem track_number_lost :
    ¬ ((loadData (Remote.ofSongs [.third]).withSession).final Host.signedIn).api.ViewsAgree := by
  intro agree
  obtain ⟨container, order, returned, perm, rows⟩ := agree .album "Album" (by decide)
  cases returned
  have inside : Song.third ∈ order := perm.mem_iff.mpr (by decide)
  obtain ⟨row, listed, shown, built, same⟩ := exists_left_of_forall₂ rows inside
  cases built
  cases List.mem_singleton.mp listed
  have numbers := congrArg TrackObject.index same
  revert numbers
  decide

end GoogleMusic
