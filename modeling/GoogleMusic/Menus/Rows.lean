import GoogleMusic.Api.Indexing
import GoogleMusic.Foundation.Traversal
import GoogleMusic.Menus.Library

namespace GoogleMusic

open Foundation

/-- The length in milliseconds, as far as `int` can read it. -/
def Song.duration (song : Song) : Option Int :=
  song.durationMillis.bind fun text => (intOfString text).toOption

def Song.playable (song : Song) : Bool :=
  song.title.isSome && song.album.isSome && song.artist.isSome && song.duration.isSome &&
    (song.albumArtRef.isNone || song.thumb.isSome)

def Song.playIds (allAccess : Bool) (song : Song) : PlayId × PlayId :=
  (match song.id with
    | some id => .id id
    | none => .missing,
   match song.storeId with
    | some storeId => if allAccess then .id storeId else .missing
    | none => .missing)

def Song.row (allAccess : Bool) (key : String) (song : Song) : TrackObject where
  key := .getTrack song key true
  ratingKey := key
  title := song.title.getD ""
  album := song.album.getD ""
  artist := song.artist.getD ""
  duration := song.duration.getD 0
  index := song.trackNumber.getD 0
  items := [{
    parts := [.playAudio (song.playIds allAccess).1 (song.playIds allAccess).2 "mp3"]
    container := .mp3
    audioCodec := .mp3 }]
  thumb := song.thumb

section GetTrack

variable {song : Song} {allAccess : Bool} {key : String}

theorem artThumb_eq_ok {thumb : Option String} :
    artThumb song.albumArtRef = .ok thumb ↔
      (song.albumArtRef = none ∨ song.thumb.isSome) ∧ thumb = song.thumb := by
  cases hasArt : song.albumArtRef with
  | none => simp [artThumb, Song.thumb_eq, hasArt, eq_comm]
  | some images =>
      cases url : firstUrl images <;>
        simp [artThumb, Song.thumb_eq, hasArt, url, Functor.map, Except.map, Except.toOption, eq_comm]

theorem duration_eq_some {duration : Int} :
    song.duration = some duration ↔
      ∃ text, song.durationMillis = some text ∧ intOfString text = .ok duration := by
  rw [Song.duration, Option.bind_eq_some_iff]
  refine exists_congr fun text => and_congr_right fun _ => ?_
  cases intOfString text <;> simp [Except.toOption]

/-- `GetTrack` returns exactly on the songs that have the fields it reads. -/
theorem getTrack_eq_ok {row : TrackObject} :
    getTrack allAccess song key = .ok row ↔ song.playable = true ∧ row = song.row allAccess key := by
  simp only [getTrack, bind_eq_ok, field_eq_ok, artThumb_eq_ok, pure, Except.pure, Except.ok.injEq,
    Song.playable, Bool.and_eq_true, Bool.or_eq_true, Option.isSome_iff_exists,
    Option.isNone_iff_eq_none]
  constructor
  · rintro ⟨title, hasTitle, album, hasAlbum, artist, hasArtist, text, hasText, duration, parsed,
      thumb, ⟨art, rfl⟩, rfl⟩
    have hasDuration := duration_eq_some.mpr ⟨text, hasText, parsed⟩
    refine ⟨⟨⟨⟨⟨⟨title, hasTitle⟩, album, hasAlbum⟩, artist, hasArtist⟩, duration, hasDuration⟩, art⟩,
      ?_⟩
    cases store : song.storeId <;> cases ident : song.id <;>
      simp [Song.row, Song.playIds, hasTitle, hasAlbum, hasArtist, hasDuration, store, ident]
  · rintro ⟨⟨⟨⟨⟨⟨title, hasTitle⟩, album, hasAlbum⟩, artist, hasArtist⟩, duration, hasDuration⟩, art⟩,
      rfl⟩
    obtain ⟨text, hasText, parsed⟩ := duration_eq_some.mp hasDuration
    refine ⟨title, hasTitle, album, hasAlbum, artist, hasArtist, text, hasText, duration, parsed,
      song.thumb, ⟨art, rfl⟩, ?_⟩
    cases store : song.storeId <;> cases ident : song.id <;>
      simp [Song.row, Song.playIds, hasTitle, hasAlbum, hasArtist, hasDuration, store, ident]

/-- The key of a row carries its song. -/
theorem song_eq_of_row {other : Song} {otherKey : String}
    (same : song.row allAccess key = other.row allAccess otherKey) : song = other := by
  have keys := congrArg TrackObject.key same
  simp only [Song.row, Callback.getTrack.injEq] at keys
  exact keys.1

theorem getTrack_of_playable (fields : song.playable = true) :
    getTrack allAccess song key = .ok (song.row allAccess key) :=
  getTrack_eq_ok.mpr ⟨fields, rfl⟩

end GetTrack

section TrackList

variable {api : GMusic} {category : Category} {name type title : String} {page : Int} {song : Song}

theorem Song.entry_playable (fields : song.playable = true) : song.entry.track.playable = true := by
  simp only [Song.playable, Bool.and_eq_true] at fields ⊢
  obtain ⟨⟨⟨⟨hasTitle, _⟩, _⟩, hasDuration⟩, art⟩ := fields
  exact ⟨⟨⟨⟨hasTitle, rfl⟩, rfl⟩, hasDuration⟩, art⟩

theorem getTracksForType_title :
    getTracksForType api category.title name = field name ((api.index category).lookup name) := by
  cases category <;> rfl

theorem entryRow_of_playable (allAccess : Bool) {entry : Entry}
    (fields : entry.track.playable = true) :
    entryRow allAccess entry = .ok (entry.track.row allAccess entry.id) :=
  getTrack_of_playable fields

theorem sortedEntries_perm {entries : List Entry} : (sortedEntries type entries).Perm entries := by
  unfold sortedEntries
  split
  · exact sortedBy_perm
  · exact sortedBy_perm

def trackListRows (api : GMusic) (category : Category) (name : String) : List TrackObject :=
  (sortedEntries category.title ((api.index category).group name)).map fun entry =>
    entry.track.row api.allAccess entry.id

theorem getTrackList_of_mem (filed : name ∈ api.index category)
    (fields : ∀ entry ∈ (api.index category).group name, entry.track.playable = true) :
    getTrackList name category.title api =
      .ok { title2 := some (.literal name)
            objects := (trackListRows api category name).map .track } := by
  have rows := mapM_eq_map (sortedEntries category.title ((api.index category).group name))
    fun entry member =>
      entryRow_of_playable api.allAccess (fields entry (sortedEntries_perm.mem_iff.mp member))
  rw [getTrackList, getTracksForType_title, Groups.lookup_eq_group filed, field_some]
  simp only [bind, Except.bind, rows, pure, Except.pure, trackListRows]

theorem getTrackList_of_notMem (absent : name ∉ api.index category) :
    getTrackList name category.title api = .error (.keyError name) := by
  rw [getTrackList, getTracksForType_title, AList.lookup_eq_none.mpr absent]
  rfl

theorem getTrackList_returns_iff
    (fields : ∀ entry ∈ (api.index category).items, entry.track.playable = true) :
    (∃ container, getTrackList name category.title api = .ok container) ↔
      name ∈ api.index category := by
  constructor
  · rintro ⟨container, returned⟩
    by_contra absent
    rw [getTrackList_of_notMem absent] at returned
    cases returned
  · exact fun filed => ⟨_, getTrackList_of_mem filed fun entry member =>
      fields entry (Groups.mem_items_of_mem_group member)⟩

theorem mem_menuOfTitle (member : name ∈ menuOfTitle api title) :
    ∃ category : Category, title = category.title ∧ name ∈ api.menu category := by
  unfold menuOfTitle at member
  split at member
  · rename_i same
    exact ⟨.artist, same, member⟩
  split at member
  · rename_i same
    exact ⟨.album, same, member⟩
  split at member
  · rename_i same
    exact ⟨.genre, same, member⟩
  split at member
  · rename_i same
    exact ⟨.letter, same, member⟩
  · exact absurd member (AList.notMem_empty name)

theorem mem_trackLists_librarySubMenu
    (linked : (name, type) ∈ (librarySubMenu title page api).trackLists) :
    ∃ category : Category, type = category.title ∧ name ∈ api.menu category := by
  unfold librarySubMenu at linked
  split at linked
  · simp only [ObjectContainer.trackLists, List.filterMap_append, List.mem_append,
      List.mem_filterMap, List.mem_map] at linked
    rcases linked with ⟨object, ⟨key, shown, rfl⟩, same⟩ | ⟨object, next, same⟩
    · simp only [menuRow, MenuObject.trackList, Option.some.injEq, Prod.mk.injEq] at same
      obtain ⟨rfl, rfl⟩ := same
      have inside := sortedBy_perm.mem_iff.mp (mem_of_mem_slice shown)
      exact mem_menuOfTitle (AList.mem_keys.mpr inside)
    · split at next
      · rw [List.mem_singleton] at next
        subst next
        cases same
      · cases next
  · simp [ObjectContainer.trackLists, ObjectContainer.notice] at linked

end TrackList

end GoogleMusic
