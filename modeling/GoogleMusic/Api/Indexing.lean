import GoogleMusic.Api.Loading

namespace GoogleMusic

open Foundation Host

def Song.shelf (category : Category) (song : Song) : String :=
  match readKeys song with
  | .ok keys => keys category
  | .error _ => ""

/-- The key of the song in a category, if it has the field. -/
def Song.keyIn : Category → Song → Option String
  | .letter, song => song.title.bind fun title => title.toList.head?.map String.singleton
  | .artist, song => song.artist
  | .album, song => song.album
  | .genre, song => some (song.genre.getD "(None)")

/-- The url of the first image. -/
def Song.thumb (song : Song) : Option String :=
  song.albumArtRef.bind fun art => art.head?.bind Art.url

def Song.entry (song : Song) : Entry where
  track := song.track (song.shelf .artist) (song.shelf .album)
  thumb := song.thumb
  id := song.id.getD ""

/-- The loop body does not raise on the song: every field it reads is there. -/
def Song.indexable (song : Song) : Bool :=
  (readKeys song).toOption.isSome && (song.albumArtRef.isNone || song.thumb.isSome) &&
    song.id.isSome

theorem Song.entry_id {song : Song} (fields : song.indexable = true) :
    some song.entry.id = song.id := by
  simp only [Song.indexable, Bool.and_eq_true] at fields
  obtain ⟨id, idEq⟩ := Option.isSome_iff_exists.mp fields.2
  simp [Song.entry, idEq]

theorem readKeys_shelf {song : Song} {keys : Category → String} (read : readKeys song = .ok keys) :
    keys = song.shelf := by
  funext category
  simp [Song.shelf, read]

theorem Song.thumb_eq (song : Song) :
    song.thumb = song.albumArtRef.bind fun art => (firstUrl art).toOption := by
  cases hasArt : song.albumArtRef with
  | none => rw [Song.thumb, hasArt]; rfl
  | some images =>
      rw [Song.thumb, hasArt, Option.bind_some, Option.bind_some]
      cases images with
      | nil => rfl
      | cons art _ => cases url : art.url <;> simp [firstUrl, field, url, Except.toOption]

theorem readKeys_keyIn {song : Song} {keys : Category → String} (read : readKeys song = .ok keys)
    (category : Category) : song.keyIn category = some (keys category) := by
  simp only [readKeys, bind_eq_ok, field_eq_ok] at read
  obtain ⟨title, hasTitle, letter, first, artist, hasArtist, album, hasAlbum, made⟩ := read
  cases made
  cases category with
  | letter =>
      cases characters : title.toList with
      | nil => simp [firstCharacter, characters] at first
      | cons head rest => simpa [Song.keyIn, hasTitle, characters, firstCharacter] using first
  | artist => exact hasArtist
  | album => exact hasAlbum
  | genre => rfl

theorem keyIn_of_indexable {song : Song} (fields : song.indexable = true) (category : Category) :
    song.keyIn category = some (song.shelf category) := by
  simp only [Song.indexable, Bool.and_eq_true] at fields
  cases read : readKeys song with
  | error reason => simp [read, Except.toOption] at fields
  | ok keys => rw [readKeys_keyIn read, readKeys_shelf read]

namespace GMusic

variable {api : GMusic} {category other : Category} {key thumb : String} {entry : Entry}
variable {keys : Category → String}

theorem index_ensure_same : (api.ensure category key).index category =
    (api.index category).ensure key := by
  unfold ensure Groups.ensure
  split <;> simp

theorem index_ensure_other (different : other ≠ category) :
    (api.ensure category key).index other = api.index other := by
  unfold ensure
  split
  · rfl
  · simp [index_setIndex_other different]

@[simp] theorem withoutMaps_ensure : (api.ensure category key).withoutMaps = api.withoutMaps := by
  unfold ensure
  split <;> simp

theorem ensure_keysAgree (agree : api.KeysAgree) : (api.ensure category key).KeysAgree := by
  unfold ensure
  split
  · exact agree
  · intro other sought
    by_cases same : other = category
    · subst same
      simp [AList.mem_insert, agree other sought]
    · simp [index_setIndex_other same, menu_setMenu_other same, agree other sought]

@[simp] theorem index_setThumb : (api.setThumb category key thumb).index other = api.index other := by
  simp [setThumb]

@[simp] theorem withoutMaps_setThumb :
    (api.setThumb category key thumb).withoutMaps = api.withoutMaps := by
  simp [setThumb]

theorem setThumb_keysAgree (thumb : String) (agree : api.KeysAgree) (filed : key ∈ api.index category) :
    (api.setThumb category key thumb).KeysAgree := by
  intro other sought
  rw [index_setThumb, setThumb]
  by_cases same : other = category
  · subst same
    rw [menu_setMenu_same, AList.mem_insert, agree other sought]
    exact ⟨fun found => found.elim (fun same => same ▸ filed) id, Or.inr⟩
  · rw [menu_setMenu_other same, agree other sought]

def append (category : Category) (key : String) (entry : Entry) (api : GMusic) : GMusic :=
  api.setIndex category ((api.index category).file key entry)

def appendAll (keys : Category → String) (entry : Entry) (api : GMusic) : GMusic :=
  (((api.append .letter (keys .letter) entry).append .artist (keys .artist) entry).append .album
    (keys .album) entry).append .genre (keys .genre) entry

theorem index_append_same : (api.append category key entry).index category =
    (api.index category).file key entry := by
  simp [append]

theorem index_append_other (different : other ≠ category) :
    (api.append category key entry).index other = api.index other := by
  simp [append, index_setIndex_other different]

@[simp] theorem withoutMaps_append :
    (api.append category key entry).withoutMaps = api.withoutMaps := by
  simp [append]

theorem append_keysAgree (category : Category) (entry : Entry) (agree : api.KeysAgree)
    (filed : key ∈ api.index category) :
    (api.append category key entry).KeysAgree := by
  intro other sought
  by_cases same : other = category
  · subst same
    rw [index_append_same, Groups.mem_file, append, menu_setIndex, agree other sought]
    exact ⟨Or.inr, fun found => found.elim (fun same => same ▸ filed) id⟩
  · rw [index_append_other same, append, menu_setIndex, agree other sought]

theorem index_openLists : (api.openLists keys).index category =
    (api.index category).ensure (keys category) := by
  cases category <;> simp [openLists, index_ensure_same, index_ensure_other]

theorem mem_openLists : keys category ∈ (api.openLists keys).index category := by
  rw [index_openLists]
  exact Groups.mem_ensure.mpr (Or.inl rfl)

theorem withoutMaps_openLists : (api.openLists keys).withoutMaps = api.withoutMaps := by
  simp [openLists]

theorem openLists_keysAgree (agree : api.KeysAgree) : (api.openLists keys).KeysAgree :=
  ensure_keysAgree (ensure_keysAgree (ensure_keysAgree (ensure_keysAgree agree)))

theorem index_setThumbs : (api.setThumbs keys thumb).index category = api.index category := by
  simp [setThumbs]

theorem withoutMaps_setThumbs : (api.setThumbs keys thumb).withoutMaps = api.withoutMaps := by
  simp [setThumbs]

theorem setThumbs_keysAgree (agree : api.KeysAgree)
    (filed : ∀ category, keys category ∈ api.index category) :
    (api.setThumbs keys thumb).KeysAgree := by
  have letters := setThumb_keysAgree thumb agree (filed .letter)
  have artists := setThumb_keysAgree thumb letters (by simpa using filed .artist)
  have albums := setThumb_keysAgree thumb artists (by simpa using filed .album)
  exact setThumb_keysAgree thumb albums (by simpa using filed .genre)

theorem index_appendAll : (api.appendAll keys entry).index category =
    (api.index category).file (keys category) entry := by
  cases category <;> simp [appendAll, index_append_same, index_append_other]

theorem withoutMaps_appendAll : (api.appendAll keys entry).withoutMaps = api.withoutMaps := by
  simp [appendAll]

theorem appendAll_keysAgree (agree : api.KeysAgree)
    (filed : ∀ category, keys category ∈ api.index category) :
    (api.appendAll keys entry).KeysAgree := by
  have letters := append_keysAgree .letter entry agree (filed .letter)
  have artists := append_keysAgree .artist entry letters
    (by simpa [index_append_other] using filed .artist)
  have albums := append_keysAgree .album entry artists
    (by simpa [index_append_other] using filed .album)
  exact append_keysAgree .genre entry albums
    (by simpa [index_append_other] using filed .genre)

end GMusic

section LoopBody

variable {song : Song} {api : GMusic} {category : Category} {key : String} {entry : Entry}
variable {keys : Category → String}

theorem appendEntry_run (filed : key ∈ api.index category) :
    (appendEntry category key entry).run api = (.ok (), api.append category key entry) := by
  simp [appendEntry, Groups.appendAt_of_mem filed, GMusic.append]

theorem appendEntries_run (filed : ∀ category, keys category ∈ api.index category) :
    (appendEntries keys entry).run api = (.ok (), api.appendAll keys entry) := by
  simp [appendEntries, appendEntry_run, GMusic.index_append_other, filed, GMusic.appendAll]

def GMusic.prepared (song : Song) (api : GMusic) : GMusic :=
  match song.thumb with
  | none => api.openLists song.shelf
  | some thumb => (api.openLists song.shelf).setThumbs song.shelf thumb

def GMusic.filed (song : Song) (api : GMusic) : GMusic :=
  (api.prepared song).appendAll song.shelf song.entry

theorem GMusic.index_prepared : (api.prepared song).index category =
    (api.index category).ensure (song.shelf category) := by
  unfold prepared
  split
  · exact index_openLists
  · rw [index_setThumbs, index_openLists]

theorem GMusic.mem_prepared : song.shelf category ∈ (api.prepared song).index category := by
  rw [index_prepared]
  exact Groups.mem_ensure.mpr (Or.inl rfl)

theorem GMusic.withoutMaps_prepared : (api.prepared song).withoutMaps = api.withoutMaps := by
  unfold prepared
  split
  · exact withoutMaps_openLists
  · rw [withoutMaps_setThumbs, withoutMaps_openLists]

theorem GMusic.prepared_keysAgree (agree : api.KeysAgree) : (api.prepared song).KeysAgree := by
  unfold prepared
  split
  · exact openLists_keysAgree agree
  · exact setThumbs_keysAgree (openLists_keysAgree agree) fun _ => mem_openLists

theorem GMusic.index_filed : (api.filed song).index category =
    (api.index category).file (song.shelf category) song.entry := by
  rw [filed, index_appendAll, index_prepared, Groups.file_ensure]

theorem GMusic.withoutMaps_filed : (api.filed song).withoutMaps = api.withoutMaps :=
  withoutMaps_appendAll.trans withoutMaps_prepared

theorem GMusic.filed_keysAgree (agree : api.KeysAgree) : (api.filed song).KeysAgree :=
  appendAll_keysAgree (prepared_keysAgree agree) fun _ => mem_prepared

theorem indexArt_run (art : song.albumArtRef = none ∨ song.thumb.isSome) :
    (indexArt song.shelf song.albumArtRef).run (api.openLists song.shelf) =
      (.ok song.thumb, api.prepared song) := by
  cases hasArt : song.albumArtRef with
  | none =>
      have thumb : song.thumb = none := by simp [Song.thumb_eq, hasArt]
      simp [indexArt, GMusic.prepared, thumb]
  | some images =>
      cases url : firstUrl images with
      | error reason => simp [Song.thumb_eq, hasArt, url, Except.toOption] at art
      | ok thumb =>
          have read : song.thumb = some thumb := by
            simp [Song.thumb_eq, hasArt, url, Except.toOption]
          simp [indexArt, url, GMusic.prepared, read]

theorem indexSong_of_indexable (fields : song.indexable = true) :
    (indexSong song).run api = (.ok (), api.filed song) := by
  simp only [Song.indexable, Bool.and_eq_true, Bool.or_eq_true, Option.isNone_iff_eq_none] at fields
  obtain ⟨⟨readable, art⟩, hasId⟩ := fields
  obtain ⟨id, idEq⟩ := Option.isSome_iff_exists.mp hasId
  cases read : readKeys song with
  | error reason => simp [read, Except.toOption] at readable
  | ok keys =>
      have shelf := readKeys_shelf read
      subst shelf
      have entry : song.entry =
          { track := song.track (song.shelf .artist) (song.shelf .album), thumb := song.thumb, id } := by
        simp [Song.entry, idEq]
      simp only [indexSong, Exec.run_bind, Exec.run_lift, Exec.run_modify, read, indexArt_run art,
        idEq, field_some]
      rw [appendEntries_run fun _ => GMusic.mem_prepared, ← entry]
      rfl

/-- Where the loop body raises it has appended nothing. -/
theorem indexSong_of_defective (api : GMusic) (defect : song.indexable = false) :
    ∃ reason after, (indexSong song).run api = (.error reason, after) ∧
      (after = api ∨ after = api.openLists song.shelf ∨ after = api.prepared song) := by
  cases read : readKeys song with
  | error reason =>
      refine ⟨reason, api, ?_, Or.inl rfl⟩
      simp only [indexSong, Exec.run_bind, Exec.run_lift, read]
  | ok keys =>
      have shelf := readKeys_shelf read
      subst shelf
      by_cases art : song.albumArtRef = none ∨ song.thumb.isSome
      · have noId : song.id = none := by
          simpa [Song.indexable, read, Except.toOption, art] using defect
        refine ⟨.keyError "id", api.prepared song, ?_, Or.inr (Or.inr rfl)⟩
        simp only [indexSong, Exec.run_bind, Exec.run_lift, Exec.run_modify, read, indexArt_run art,
          noId, field]
      · rw [not_or] at art
        obtain ⟨images, hasArt⟩ := Option.ne_none_iff_exists'.mp art.1
        cases url : firstUrl images with
        | ok thumb => simp [Song.thumb_eq, hasArt, url, Except.toOption] at art
        | error reason =>
            refine ⟨reason, api.openLists song.shelf, ?_, Or.inr (Or.inl rfl)⟩
            simp only [indexSong, Exec.run_bind, Exec.run_lift, Exec.run_modify, read, indexArt,
              hasArt, url]

end LoopBody

namespace GMusic

/-- `after` is `before` with exactly the songs of the list filed, each once in every
index.  Lists may have been opened besides, and none is closed. -/
structure Indexed (songs : List Song) (before after : GMusic) : Prop where
  group : ∀ category key, (after.index category).group key =
    (before.index category).group key ++
      (songs.filter fun song => song.shelf category = key).map Song.entry
  items : ∀ category, (after.index category).items.Perm
    ((before.index category).items ++ songs.map Song.entry)
  kept : ∀ category key, key ∈ before.index category → key ∈ after.index category
  keys : before.KeysAgree → after.KeysAgree
  outside : after.withoutMaps = before.withoutMaps

theorem Indexed.allSongs {songs : List Song} {before after : GMusic}
    (indexed : Indexed songs before after) : after.allSongs = before.allSongs := by
  change after.withoutMaps.allSongs = before.withoutMaps.allSongs
  rw [indexed.outside]

theorem Indexed.libraryLoaded {songs : List Song} {before after : GMusic}
    (indexed : Indexed songs before after) : after.libraryLoaded = before.libraryLoaded := by
  change after.withoutMaps.libraryLoaded = before.withoutMaps.libraryLoaded
  rw [indexed.outside]

theorem Indexed.authenticated {songs : List Song} {before after : GMusic}
    (indexed : Indexed songs before after) : after.authenticated = before.authenticated := by
  change after.withoutMaps.authenticated = before.withoutMaps.authenticated
  rw [indexed.outside]

theorem Indexed.trans {first second : List Song} {before middle after : GMusic}
    (head : Indexed first before middle) (tail : Indexed second middle after) :
    Indexed (first ++ second) before after where
  group category key := by
    rw [tail.group, head.group, List.append_assoc, List.filter_append, List.map_append]
  items category := by
    rw [List.map_append, ← List.append_assoc]
    exact (tail.items category).trans ((head.items category).append_right _)
  kept category key member := tail.kept category key (head.kept category key member)
  keys agree := tail.keys (head.keys agree)
  outside := tail.outside.trans head.outside

variable {song : Song} {api after : GMusic}

theorem indexed_filed : Indexed [song] api (api.filed song) where
  group category key := by
    rw [index_filed]
    by_cases same : song.shelf category = key
    · subst same
      simp [Groups.group_file_same]
    · simp [Groups.group_file_other (Ne.symm same), same]
  items category := by
    rw [index_filed]
    exact Groups.items_file.trans (List.perm_append_singleton _ _).symm
  kept category key member := by
    rw [index_filed]
    exact Groups.mem_file.mpr (Or.inr member)
  keys := filed_keysAgree
  outside := withoutMaps_filed

theorem indexed_defective (song : Song)
    (left : after = api ∨ after = api.openLists song.shelf ∨ after = api.prepared song) :
    Indexed [] api after := by
  rcases left with rfl | rfl | rfl
  · exact ⟨by simp, by simp, by simp, id, rfl⟩
  · exact ⟨by simp [index_openLists, Groups.group_ensure],
      by simp [index_openLists, Groups.items_ensure],
      fun _ _ member => by rw [index_openLists]; exact Groups.mem_ensure.mpr (Or.inr member),
      openLists_keysAgree, withoutMaps_openLists⟩
  · exact ⟨by simp [index_prepared, Groups.group_ensure],
      by simp [index_prepared, Groups.items_ensure],
      fun _ _ member => by rw [index_prepared]; exact Groups.mem_ensure.mpr (Or.inr member),
      prepared_keysAgree, withoutMaps_prepared⟩

end GMusic

section Loop

variable {songs : List Song} {api : GMusic}

theorem indexSongs_of_indexable (api : GMusic) (fields : ∀ song ∈ songs, song.indexable = true) :
    ∃ after, (indexSongs songs).run api = (.ok (), after) ∧ GMusic.Indexed songs api after ∧
      ∀ category, after.index category =
        (api.index category).fileAll (Song.shelf category) Song.entry songs := by
  induction songs generalizing api with
  | nil => exact ⟨api, rfl, GMusic.indexed_defective {} (Or.inl rfl), fun _ => rfl⟩
  | cons song songs ih =>
      obtain ⟨after, ran, indexed, indexes⟩ := ih (api.filed song)
        (fun other member => fields other (List.mem_cons_of_mem _ member))
      refine ⟨after, ?_, GMusic.indexed_filed.trans indexed, fun category => ?_⟩
      · rw [indexSongs, Exec.run_bind, indexSong_of_indexable (fields song List.mem_cons_self)]
        exact ran
      · rw [indexes, GMusic.index_filed, Groups.fileAll_cons]

theorem indexSongs_of_defective (api : GMusic) (defect : ∃ song ∈ songs, song.indexable = false) :
    ∃ reason after front bad back, (indexSongs songs).run api = (.error reason, after) ∧
      GMusic.Indexed front api after ∧ songs = front ++ bad :: back ∧ bad.indexable = false := by
  induction songs generalizing api with
  | nil => simp at defect
  | cons song songs ih =>
      cases fields : song.indexable with
      | false =>
          obtain ⟨reason, after, ran, left⟩ := indexSong_of_defective api fields
          refine ⟨reason, after, [], song, songs, ?_, GMusic.indexed_defective song left, rfl, fields⟩
          rw [indexSongs, Exec.run_bind, ran]
      | true =>
          have later : ∃ other ∈ songs, other.indexable = false := by
            obtain ⟨other, member, defective⟩ := defect
            rcases List.mem_cons.mp member with rfl | member
            · simp [fields] at defective
            · exact ⟨other, member, defective⟩
          obtain ⟨reason, after, front, bad, back, ran, indexed, split, defective⟩ :=
            ih (api.filed song) later
          refine ⟨reason, after, song :: front, bad, back, ?_, GMusic.indexed_filed.trans indexed,
            by rw [split, List.cons_append], defective⟩
          rw [indexSongs, Exec.run_bind, indexSong_of_indexable fields]
          exact ran

end Loop

theorem indexLibrary_allSongs (api : GMusic) : (indexLibrary.final api).allSongs = api.allSongs := by
  by_cases fields : ∀ song ∈ api.allSongs, song.indexable = true
  · obtain ⟨after, ran, filed, _⟩ := indexSongs_of_indexable api fields
    simp only [indexLibrary, Exec.final, Exec.run_bind, Exec.run_gets, ran, Exec.run_modify]
    exact filed.allSongs
  · obtain ⟨reason, after, front, bad, back, ran, filed, _⟩ :=
      indexSongs_of_defective api (by simpa using fields)
    simp only [indexLibrary, Exec.final, Exec.run_bind, Exec.run_gets, ran]
    exact filed.allSongs

/-- The songs a load works on: the list at hand, or the one the service answers. -/
inductive SongSource {σ : Type} (client : Mobileclient σ) (host : Host σ) : List Song → Prop where
  | cached (nonempty : host.api.allSongs ≠ []) : SongSource client host host.api.allSongs
  | fetched {songs : List Song} (empty : host.api.allSongs = [])
      (answered : client.getAllSongs.Returns host.service songs) : SongSource client host songs

section Source

variable {σ : Type} {client : Mobileclient σ} {host : Host σ} {songs : List Song}

theorem SongSource.cached_or_answered (source : SongSource client host songs) :
    songs = host.api.allSongs ∨ client.getAllSongs.Returns host.service songs := by
  cases source with
  | cached nonempty => exact Or.inl rfl
  | fetched empty answered => exact Or.inr answered

theorem SongSource.satisfies {ofSongs : List Song → Prop} (source : SongSource client host songs)
    (cached : ofSongs host.api.allSongs)
    (answers : ∀ songs, client.getAllSongs.Returns host.service songs → ofSongs songs) :
    ofSongs songs := by
  rcases source.cached_or_answered with same | answered
  · rwa [same]
  · exact answers songs answered

end Source

/-- All that a load can do to the API object, with the outcome it does it under. -/
inductive LoadOutcome {σ : Type} (client : Mobileclient σ) (host : Host σ) :
    Except Raised Unit → GMusic → Prop where
  | refused {reason : Raised} (empty : host.api.allSongs = [])
      (answered : ¬ ∃ songs, client.getAllSongs.Returns host.service songs) :
      LoadOutcome client host (.error reason) host.api
  | indexed {songs : List Song} {after : GMusic} (source : SongSource client host songs)
      (fields : ∀ song ∈ songs, song.indexable = true)
      (filed : GMusic.Indexed songs (host.api.withSongs songs) after)
      (indexes : ∀ category, after.index category =
        (host.api.index category).fileAll (Song.shelf category) Song.entry songs) :
      LoadOutcome client host (.ok ()) after.markLoaded
  | broken {songs front back : List Song} {bad : Song} {reason : Raised} {after : GMusic}
      (source : SongSource client host songs) (split : songs = front ++ bad :: back)
      (defective : bad.indexable = false)
      (filed : GMusic.Indexed front (host.api.withSongs songs) after) :
      LoadOutcome client host (.error reason) after

section LoadData

variable {σ : Type} {client : Mobileclient σ} {host : Host σ} {service : σ} {songs : List Song}

theorem loadData_of_cached (cached : host.api.allSongs ≠ []) :
    (loadData client).run host = (onApi indexLibrary).run host := by
  have nonempty : ¬ host.api.allSongs.length = 0 := by simpa using cached
  simp only [loadData, setAllSongs, Exec.run_bind, Exec.run_gets, nonempty, if_false, Exec.run_pure]

theorem loadData_of_fetched (empty : host.api.allSongs = [])
    (answered : client.getAllSongs.run host.service = (.ok songs, service)) :
    (loadData client).run host =
      (onApi indexLibrary).run { api := host.api.withSongs songs, service } := by
  have asked : (onService client.getAllSongs).run host = (.ok songs, { host with service }) := by
    simp [onService, answered]
  have stored : (do
      let answer ← onService client.getAllSongs
      onApi (Exec.modify fun api => api.withSongs answer)
      pure (none : Option (List Song))).run host =
      (.ok none, { api := host.api.withSongs songs, service }) := by
    simp [asked, onApi]
  simp only [loadData, setAllSongs, Exec.run_bind, Exec.run_gets, empty, List.length_nil, if_true,
    withRelogin_returned stored]

theorem loadData_of_refused {reason : Raised} (empty : host.api.allSongs = [])
    (answered : client.getAllSongs.run host.service = (.error reason, service)) :
    ∃ raised, (loadData client).run host = (.error raised, { host with service }) := by
  have asked : (onService client.getAllSongs).run host = (.error reason, { host with service }) := by
    simp [onService, answered]
  have stopped : (do
      let answer ← onService client.getAllSongs
      onApi (Exec.modify fun api => api.withSongs answer)
      pure (none : Option (List Song))).run host = (.error reason, { host with service }) := by
    simp [asked]
  refine ⟨reason.escaping, ?_⟩
  simp only [loadData, setAllSongs, Exec.run_bind, Exec.run_gets, empty, List.length_nil, if_true,
    withRelogin_raised stopped]

theorem indexLibrary_outcome (source : SongSource client host songs) :
    LoadOutcome client host (indexLibrary.run (host.api.withSongs songs)).1
      (indexLibrary.run (host.api.withSongs songs)).2 := by
  by_cases fields : ∀ song ∈ songs, song.indexable = true
  · obtain ⟨after, ran, filed, indexes⟩ :=
      indexSongs_of_indexable (host.api.withSongs songs) fields
    have loaded : indexLibrary.run (host.api.withSongs songs) =
        (.ok (), after.markLoaded) := by
      simp only [indexLibrary, Exec.run_bind, Exec.run_gets, GMusic.allSongs_withSongs, ran, Exec.run_modify]
    rw [loaded]
    exact .indexed source fields filed fun category => by rw [indexes, GMusic.index_withSongs]
  · have defect : ∃ song ∈ songs, song.indexable = false := by simpa using fields
    obtain ⟨reason, after, front, bad, back, ran, filed, split, defective⟩ :=
      indexSongs_of_defective (host.api.withSongs songs) defect
    have stopped : indexLibrary.run (host.api.withSongs songs) = (.error reason, after) := by
      simp only [indexLibrary, Exec.run_bind, Exec.run_gets, GMusic.allSongs_withSongs, ran]
    rw [stopped]
    exact .broken source split defective filed

theorem loadData_outcome (client : Mobileclient σ) (host : Host σ) :
    LoadOutcome client host ((loadData client).run host).1 ((loadData client).final host).api := by
  rw [Exec.final]
  by_cases empty : host.api.allSongs = []
  · cases answered : client.getAllSongs.run host.service with
    | mk outcome service =>
        cases outcome with
        | error reason =>
            obtain ⟨raised, ran⟩ := loadData_of_refused empty answered
            rw [ran]
            exact .refused empty (by simp [Exec.Returns, answered])
        | ok songs =>
            rw [loadData_of_fetched empty answered]
            exact indexLibrary_outcome (.fetched empty (by rw [Exec.Returns, answered]))
  · rw [loadData_of_cached empty]
    exact indexLibrary_outcome (.cached empty)

theorem loadData_of_indexable (client : Mobileclient σ) (host : Host σ) (empty : host.api.allSongs = [])
    (answered : client.getAllSongs.run host.service = (.ok songs, service))
    (fields : ∀ song ∈ songs, song.indexable = true) :
    ∃ after, (loadData client).run host = (.ok (), after) ∧ after.api.allSongs = songs ∧
      after.api.libraryLoaded = true := by
  obtain ⟨after, ran, filed, _⟩ :=
    indexSongs_of_indexable (host.api.withSongs songs) fields
  refine ⟨{ api := after.markLoaded, service }, ?_, filed.allSongs, rfl⟩
  rw [loadData_of_fetched empty answered]
  simp only [onApi, Exec.run_zoom, indexLibrary, Exec.run_bind, Exec.run_gets,
    GMusic.allSongs_withSongs, ran, Exec.run_modify]

theorem LoadOutcome.authenticated {outcome : Except Raised Unit} {after : GMusic}
    (ran : LoadOutcome client host outcome after) : after.authenticated = host.api.authenticated := by
  cases ran with
  | refused empty answered => rfl
  | indexed source fields filed indexes => exact filed.authenticated
  | broken source split defective filed => exact filed.authenticated

theorem loadData_service (client : Mobileclient σ) (host : Host σ) :
    ((loadData client).final host).service = host.service ∨
      ((loadData client).final host).service = client.getAllSongs.final host.service := by
  rw [Exec.final, Exec.final]
  by_cases empty : host.api.allSongs = []
  · right
    cases answered : client.getAllSongs.run host.service with
    | mk outcome service =>
        cases outcome with
        | error reason =>
            obtain ⟨raised, ran⟩ := loadData_of_refused empty answered
            rw [ran]
        | ok songs =>
            rw [loadData_of_fetched empty answered]
            rfl
  · left
    rw [loadData_of_cached empty]
    rfl

theorem loadData_isAuthenticated {ρ : Type} (remote : Remote ρ) (host : Host (Session ρ)) :
    ((loadData remote.withSession).final host).service.isAuthenticated =
      host.service.isAuthenticated := by
  rcases loadData_service remote.withSession host with same | asked
  · rw [same]
  · rw [asked]
    exact Session.send_isAuthenticated remote.getAllSongs host.service

end LoadData

end GoogleMusic
