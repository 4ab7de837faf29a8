import GoogleMusic.Api.Indexing
import GoogleMusic.Foundation.Marks

namespace GoogleMusic

open Foundation Host

variable {σ : Type}

def Host.reset (host : Host σ) : Host σ := { host with api := host.api.resetLibrary }

namespace GMusic

variable {api : GMusic} {category other : Category} {key thumb : String} {song : Song}
variable {keys : Category → String}

theorem menu_ensure_same (agree : api.KeysAgree) :
    (api.ensure category key).menu category = Marks.mark key none (api.menu category) := by
  unfold ensure Marks.mark
  simp only [agree category key]
  split <;> simp

theorem menu_ensure_other (different : other ≠ category) :
    (api.ensure category key).menu other = api.menu other := by
  unfold ensure
  split
  · rfl
  · rw [menu_setMenu_other different, menu_setIndex]

theorem menu_openLists (agree : api.KeysAgree) :
    (api.openLists keys).menu category = Marks.mark (keys category) none (api.menu category) := by
  have letters : (api.ensure .letter (keys .letter)).KeysAgree := ensure_keysAgree agree
  have artists : ((api.ensure .letter (keys .letter)).ensure .artist (keys .artist)).KeysAgree :=
    ensure_keysAgree letters
  have albums : (((api.ensure .letter (keys .letter)).ensure .artist (keys .artist)).ensure .album
      (keys .album)).KeysAgree := ensure_keysAgree artists
  cases category <;>
    simp [openLists, menu_ensure_same, menu_ensure_other, agree, letters, artists, albums]

theorem menu_setThumb_same : (api.setThumb category key thumb).menu category =
    (api.menu category).insert key (some thumb) := by
  simp [setThumb]

theorem menu_setThumb_other (different : other ≠ category) :
    (api.setThumb category key thumb).menu other = api.menu other := by
  rw [setThumb, menu_setMenu_other different]

theorem menu_setThumbs : (api.setThumbs keys thumb).menu category =
    (api.menu category).insert (keys category) (some thumb) := by
  cases category <;> simp [setThumbs, menu_setThumb_same, menu_setThumb_other]

theorem menu_prepared (agree : api.KeysAgree) : (api.prepared song).menu category =
    Marks.mark (song.shelf category) song.thumb (api.menu category) := by
  unfold prepared
  cases art : song.thumb with
  | none => exact menu_openLists agree
  | some thumb =>
      rw [menu_setThumbs, menu_openLists agree, Marks.mark, Marks.mark]
      split
      · rfl
      · rw [AList.insert_insert]

theorem menu_filed (agree : api.KeysAgree) : (api.filed song).menu category =
    Marks.mark (song.shelf category) song.thumb (api.menu category) := by
  simp only [filed, appendAll, append, menu_setIndex]
  exact menu_prepared agree

end GMusic

theorem indexSongs_menu {songs : List Song} (category : Category) (api : GMusic)
    (agree : api.KeysAgree) (fields : ∀ song ∈ songs, song.indexable = true) :
    ((indexSongs songs).final api).menu category =
      Marks.markAll (Song.shelf category) Song.thumb songs (api.menu category) := by
  induction songs generalizing api with
  | nil => rfl
  | cons song songs ih =>
      have later := ih (api.filed song) (GMusic.filed_keysAgree agree)
        (fun other member => fields other (List.mem_cons_of_mem _ member))
      rw [GMusic.menu_filed agree] at later
      rw [Marks.markAll_cons, ← later, indexSongs, Exec.final, Exec.run_bind,
        indexSong_of_indexable (fields song List.mem_cons_self)]
      rfl

section Outcome

variable {client : Mobileclient σ} {host : Host σ} {songs : List Song}

theorem loadData_reset (answered : client.getAllSongs.Returns host.service songs) :
    (loadData client).run host.reset = (onApi indexLibrary).run
      { api := host.api.resetLibrary.withSongs songs
        service := client.getAllSongs.final host.service } := by
  obtain ⟨service, ran⟩ := Exec.returns_iff_run.mp answered
  rw [Exec.final, ran]
  exact loadData_of_fetched rfl ran

theorem loadData_answered (returned : (loadData client).Returns host.reset ()) :
    ∃ songs, client.getAllSongs.Returns host.service songs := by
  by_contra unanswered
  have outcome := loadData_outcome client host.reset
  rw [Exec.Returns] at returned
  rw [returned] at outcome
  generalize ((loadData client).final host.reset).api = left at outcome
  cases outcome with
  | indexed source fields filed indexes =>
      cases source with
      | cached nonempty => exact nonempty rfl
      | fetched empty answered => exact unanswered ⟨_, answered⟩

theorem loadData_returns_iff (answered : client.getAllSongs.Returns host.service songs) :
    (loadData client).Returns host.reset () ↔ ∀ song ∈ songs, song.indexable = true := by
  constructor
  · intro returned
    by_contra defect
    obtain ⟨reason, after, front, bad, back, stopped, _⟩ :=
      indexSongs_of_defective (host.api.resetLibrary.withSongs songs) (by simpa using defect)
    rw [Exec.Returns, loadData_reset answered] at returned
    simp [onApi, indexLibrary, stopped] at returned
  · intro fields
    obtain ⟨service, ran⟩ := Exec.returns_iff_run.mp answered
    obtain ⟨after, loaded, _⟩ := loadData_of_indexable client host.reset rfl ran fields
    rw [Exec.Returns, loaded]

/-- The library of a list, as a load from a reset library leaves it. -/
structure GMusic.LibraryOf (songs : List Song) (api : GMusic) : Prop where
  loaded : api.libraryLoaded = true
  allSongs : api.allSongs = songs
  index : ∀ category, api.index category = Groups.fileAll (Song.shelf category) Song.entry songs ∅
  menu : ∀ category, api.menu category = Marks.markAll (Song.shelf category) Song.thumb songs ∅

theorem loadData_libraryOf (answered : client.getAllSongs.Returns host.service songs)
    (fields : ∀ song ∈ songs, song.indexable = true) :
    GMusic.LibraryOf songs ((loadData client).final host.reset).api := by
  obtain ⟨after, ran, indexed, indexes⟩ :=
    indexSongs_of_indexable (host.api.resetLibrary.withSongs songs) fields
  have blank := GMusic.resetLibrary_blank host.api
  have menus : ∀ category, after.menu category =
      Marks.markAll (Song.shelf category) Song.thumb songs ∅ := by
    intro category
    have marked := indexSongs_menu category (host.api.resetLibrary.withSongs songs)
      (GMusic.withSongs_keysAgree blank.keysAgree) fields
    rw [Exec.final, ran, GMusic.menu_withSongs, blank.menus] at marked
    exact marked
  have left : ((loadData client).final host.reset).api = after.markLoaded := by
    simp only [Exec.final, loadData_reset answered, onApi, Exec.run_zoom, indexLibrary,
      Exec.run_bind, Exec.run_gets, GMusic.allSongs_withSongs, ran, Exec.run_modify]
  rw [left]
  exact {
    loaded := rfl
    allSongs := indexed.allSongs
    index := fun category => by
      rw [GMusic.index_markLoaded, indexes, GMusic.index_withSongs, blank.indexes]
    menu := fun category => by rw [GMusic.menu_markLoaded, menus] }

end Outcome

def soundArt : Option (List Art) → Bool
  | none => true
  | some [] => false
  | some (art :: _) => art.url.isSome

/-- A title that is not empty, an artist, an album, an id, and no art or some with a url
in its first element. -/
def Song.sound (song : Song) : Bool :=
  song.title.any (fun title => title != "") && song.artist.isSome && song.album.isSome &&
    song.id.isSome && soundArt song.albumArtRef

theorem soundArt_eq (song : Song) :
    soundArt song.albumArtRef = (song.albumArtRef.isNone || song.thumb.isSome) := by
  cases hasArt : song.albumArtRef with
  | none => rfl
  | some images =>
      cases images with
      | nil => simp [soundArt, Song.thumb_eq, hasArt, firstUrl, Except.toOption]
      | cons art rest =>
          cases url : art.url <;>
            simp [soundArt, Song.thumb_eq, hasArt, firstUrl, field, url, Except.toOption]

theorem readKeys_isSome (song : Song) : (readKeys song).toOption.isSome =
    (song.title.any (fun title => title != "") && song.artist.isSome && song.album.isSome) := by
  cases hasTitle : song.title with
  | none => simp [readKeys, hasTitle, field, bind, Except.bind, Except.toOption]
  | some title =>
      have empty : title.toList = [] ↔ title = "" := String.toList_eq_nil_iff
      cases characters : title.toList with
      | nil =>
          simp [readKeys, hasTitle, field, firstCharacter, empty.mp characters, bind, Except.bind,
            Except.toOption]
      | cons first rest =>
          have nonempty : title ≠ "" := fun same => by simp [empty.mpr same] at characters
          cases hasArtist : song.artist <;> cases hasAlbum : song.album <;>
            simp [readKeys, hasTitle, hasArtist, hasAlbum, field, firstCharacter, characters, nonempty,
              bind, Except.bind, pure, Except.pure, Except.toOption]

theorem sound_eq_indexable (song : Song) : song.sound = song.indexable := by
  rw [Song.sound, Song.indexable, soundArt_eq, readKeys_isSome, Bool.and_right_comm]

/-- Under each key stand the entries of the sound songs with that key, each once for
every time the list has the song, and else nothing that is an entry of a sound song. -/
def GMusic.IndexesSound (songs : List Song) (api : GMusic) : Prop :=
  ∀ category key, ∃ others, ((api.index category).group key).Perm
      (((songs.filter fun song => song.sound && song.shelf category = key).map Song.entry) ++ others) ∧
    ∀ song ∈ songs, song.sound = true → song.entry ∉ others

/-- A load from a reset library gets through, and files every sound song, exactly on the
lists without a defective song. -/
theorem loadData_survives_iff (client : Mobileclient σ) (host : Host σ) (songs : List Song)
    (answered : client.getAllSongs.Returns host.service songs) :
    ((loadData client).Returns host.reset () ∧
      ((loadData client).final host.reset).api.libraryLoaded = true ∧
      GMusic.IndexesSound songs ((loadData client).final host.reset).api) ↔
    ∀ song ∈ songs, song.sound = true := by
  have returns := loadData_returns_iff answered
  simp only [← sound_eq_indexable] at returns
  constructor
  · exact fun survived => returns.mp survived.1
  · intro sound
    have library := loadData_libraryOf answered
      fun song member => (sound_eq_indexable song).symm.trans (sound song member)
    refine ⟨returns.mpr sound, library.loaded, fun category key => ⟨[], ?_, fun _ _ _ => List.not_mem_nil⟩⟩
    have same : (songs.filter fun song => song.sound && song.shelf category = key) =
        songs.filter fun song => song.shelf category = key :=
      List.filter_congr fun song member => by rw [sound song member, Bool.true_and]
    rw [library.index, Groups.group_fileAll, Groups.group_empty, List.nil_append, List.append_nil, same]

/-- Three songs of two artists, one of them with a picture and a genre. -/
def threeSongs : List Song :=
  [.sample, { Song.sample with id := some "2", artist := some "Other", trackNumber := some 2 },
    { Song.sample with id := some "3", title := some "Last", genre := some "Rock",
                       albumArtRef := some [{ url := some "art" }] }]

theorem loadData_survives_three :
    (loadData (Remote.ofSongs threeSongs).withSession).Returns Host.signedIn.reset () ∧
      ((loadData (Remote.ofSongs threeSongs).withSession).final
        Host.signedIn.reset).api.libraryLoaded = true ∧
      GMusic.IndexesSound threeSongs
        ((loadData (Remote.ofSongs threeSongs).withSession).final Host.signedIn.reset).api :=
  (loadData_survives_iff (Remote.ofSongs threeSongs).withSession Host.signedIn threeSongs
    rfl).mpr (by decide)

def untitledFirst : List Song := [{ Song.sample with title := none }, Song.sample]

/-- A song without a title costs the song behind it and the whole library. -/
theorem untitled_song_costs_library :
    let client := (Remote.ofSongs untitledFirst).withSession
    (loadData client).Raises Host.signedIn.reset (.keyError "title") ∧
      ((loadData client).final Host.signedIn.reset).api.libraryLoaded = false ∧
      ¬ GMusic.IndexesSound untitledFirst ((loadData client).final Host.signedIn.reset).api := by
  refine ⟨rfl, rfl, fun indexes => ?_⟩
  obtain ⟨others, filed, _⟩ := indexes .genre "(None)"
  have empty : (((loadData (Remote.ofSongs untitledFirst).withSession).final
      Host.signedIn.reset).api.index .genre).group "(None)" = [] := rfl
  rw [empty] at filed
  exact absurd (filed.mem_iff.mpr (List.mem_append_left _ (List.mem_map_of_mem
    (List.mem_filter.mpr ⟨List.mem_of_mem_tail List.mem_cons_self, by decide⟩)))) List.not_mem_nil

end GoogleMusic
