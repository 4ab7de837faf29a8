import GoogleMusic.Menus.Rows
import GoogleMusic.Schedules.Account

namespace GoogleMusic

open Foundation Host Plugin

variable {σ : Type}

inductive OpeningRequest where
  | account (request : AccountRequest)
  | showSongs (random : Shuffle Song) (title : String) (shuffle : Bool) (page : Int)

def openingStep (client : Mobileclient σ) : OpeningRequest → Plugin σ Nat → Option (Plugin σ Nat)
  | .account request, plugin => accountStep client request plugin
  | .showSongs random title shuffle page, plugin =>
      some ((onHost (onApi (showSongs random title shuffle page))).final plugin)

def openingSystem (client : Mobileclient σ) : System (Plugin σ Nat) OpeningRequest where
  step := openingStep client

/-- A property of everything that the plugin can put into the song list. -/
structure Stock (client : Mobileclient σ) (ofSongs : List Song → Prop) : Prop where
  empty : ofSongs []
  shuffled : ∀ songs other : List Song, other.Perm songs → ofSongs songs → ofSongs other
  answered : ∀ state songs, client.getAllSongs.Returns state songs → ofSongs songs

def Host.Stocked (ofSongs : List Song → Prop) (host : Host σ) : Prop := ofSongs host.api.allSongs

section Steps

variable {client : Mobileclient σ} {ofSongs : List Song → Prop} {host : Host σ}
variable {plugin next : Plugin σ Nat}

theorem stocked_cachedList {α : Type} {endpoint : Exec σ Raised (List α)} {read : GMusic → List α}
    {write : List α → GMusic → GMusic}
    (frame : ∀ values api, (write values api).allSongs = api.allSongs) :
    (cachedList client endpoint read write).Keeps (Host.Stocked ofSongs) := by
  refine cachedList_keeps (fun host values service _ stocked => ?_) fun _ _ _ _ stocked => stocked
  rw [Host.Stocked, frame]
  exact stocked

theorem LoadOutcome.songs {outcome : Except Raised Unit} {after : GMusic}
    (ran : LoadOutcome client host outcome after) :
    after.allSongs = host.api.allSongs ∨ client.getAllSongs.Returns host.service after.allSongs := by
  cases ran with
  | refused empty answered => exact Or.inl rfl
  | indexed source fields filed indexes =>
      rw [GMusic.allSongs_markLoaded, filed.allSongs]
      exact source.cached_or_answered
  | broken source split defective filed =>
      rw [filed.allSongs]
      exact source.cached_or_answered

/-- All that a step can leave in the song list. -/
inductive SongsAfter (client : Mobileclient σ) (plugin : Plugin σ Nat) (songs : List Song) : Prop where
  | emptied (empty : songs = [])
  | rearranged (same : songs.Perm plugin.api.allSongs)
  | answered (returned : client.getAllSongs.Returns plugin.host.service songs)

theorem songsAfter_of_same {songs : List Song} (same : songs = plugin.api.allSongs) :
    SongsAfter client plugin songs := .rearranged (same ▸ .refl _)

theorem queuedStep_songs {request : Request}
    (step : queuedStep client request plugin = some next) :
    SongsAfter client plugin next.api.allSongs := by
  by_cases job : request = .loadAsync
  · subst job
    obtain ⟨_, _, ran⟩ := queuedStep_loadAsync step
    rw [Plugin.api, ran]
    rcases (loadData_outcome client plugin.host).songs with same | returned
    · exact songsAfter_of_same same
    · exact .answered returned
  · rcases queuedStep_library job step with ⟨_, blank⟩ | ⟨_, same⟩
    · exact .emptied blank.songs
    · exact songsAfter_of_same same.songs

theorem openingStep_songs {label : OpeningRequest}
    (step : (openingSystem client).step label plugin = some next) :
    SongsAfter client plugin next.api.allSongs := by
  let unread : Host σ → Prop := Host.Stocked fun songs => songs = plugin.api.allSongs
  have start : unread plugin.host := rfl
  cases label with
  | showSongs random title shuffle page =>
      cases step
      change SongsAfter client plugin ((showSongs random title shuffle page).final plugin.api).allSongs
      rw [showSongs_final]
      split
      · exact .rearranged (random.perm _)
      · exact songsAfter_of_same rfl
  | account request =>
      cases request with
      | library request => exact queuedStep_songs step
      | playlistsMenu id =>
          cases step
          have kept : (playlistsMenu client id).Keeps unread :=
            playlistsMenu_keeps (stocked_cachedList fun _ _ => rfl) id
          exact songsAfter_of_same (kept plugin.host start)
      | getPlaylistContents name id =>
          cases step
          have kept : (getPlaylistContents client name id).Keeps unread :=
            getPlaylistContents_keeps name
              (getAllUserPlaylistContents_keeps id (stocked_cachedList fun _ _ => rfl))
          exact songsAfter_of_same (kept plugin.host start)
      | stationsMenu =>
          cases step
          have kept : (stationsMenu client).Keeps unread :=
            stationsMenu_keeps (stocked_cachedList fun _ _ => rfl)
          exact songsAfter_of_same (kept plugin.host start)
      | createStation id =>
          cases step
          exact songsAfter_of_same (congrArg GMusic.allSongs (createStation_api client id plugin.host))

theorem openingStep_stocked (stock : Stock client ofSongs) {label : OpeningRequest}
    (stocked : plugin.host.Stocked ofSongs)
    (step : (openingSystem client).step label plugin = some next) : next.host.Stocked ofSongs := by
  unfold Host.Stocked
  cases openingStep_songs step with
  | emptied empty =>
      rw [Plugin.api] at empty
      rw [empty]
      exact stock.empty
  | rearranged same => exact stock.shuffled _ _ same stocked
  | answered returned => exact stock.answered _ _ returned

/-- The song list is empty or holds an answer of the service in the state `past`. -/
def AnsweredIn (client : Mobileclient σ) (past after : Plugin σ Nat) : Prop :=
  after.api.allSongs = [] ∨
    ∃ songs, client.getAllSongs.Returns past.host.service songs ∧ after.api.allSongs.Perm songs

theorem openingStep_answeredIn {past : Plugin σ Nat} {label : OpeningRequest}
    (known : AnsweredIn client past plugin)
    (step : (openingSystem client).step label plugin = some next) :
    AnsweredIn client past next ∨ AnsweredIn client plugin next := by
  cases openingStep_songs step with
  | emptied empty => exact Or.inl (Or.inl empty)
  | answered returned => exact Or.inr (Or.inr ⟨_, returned, .refl _⟩)
  | rearranged same =>
      apply Or.inl
      rcases known with empty | ⟨songs, returned, whole⟩
      · rw [empty] at same
        exact Or.inl same.eq_nil
      · exact Or.inr ⟨songs, returned, same.trans whole⟩

/-- The song list of a state that a run reaches is an answer of the service in a state that
the run has come through. -/
theorem exists_answeredIn {service : σ} {now : Int} {labels : List OpeningRequest}
    (ran : (openingSystem client).run labels (Plugin.start service now) = some next) :
    ∃ earlier past, earlier <+: labels ∧
      (openingSystem client).run earlier (Plugin.start service now) = some past ∧
      AnsweredIn client past next :=
  System.exists_visited openingStep_answeredIn (Or.inl rfl) ran

theorem always_stocked (stock : Stock client ofSongs) (service : σ) (now : Int)
    (labels : List OpeningRequest) :
    (openingSystem client).Always (fun plugin => plugin.host.Stocked ofSongs) labels
      (Plugin.start service now) :=
  have admitted : (openingSystem client).Admits (fun _ _ => True) labels (Plugin.start service now) :=
    System.admits_of_forall fun _ _ => True.intro
  System.always_of_keeps (fun stocked step _ => openingStep_stocked stock stocked step)
    stock.empty admitted

end Steps

/-- What the service lists as the user's library in each of its states: songs with ids of
their own and with every field that a row reads. -/
structure Supplies (client : Mobileclient σ) (library : σ → List Song) : Prop where
  listed : ∀ state songs, client.getAllSongs.Returns state songs → songs = library state
  identified : ∀ state, ∀ song ∈ library state, song.id.isSome = true
  unique : ∀ state, ((library state).map Song.id).Nodup
  playable : ∀ state, ∀ song ∈ library state, song.playable = true

/-- The song of an entry: the one it comes with, else the one among `songs` that it names. -/
def PlaylistEntry.SongOf (entry : PlaylistEntry) (songs : List Song) (song : Song) : Prop :=
  entry.track = some song ∨ entry.track = none ∧ song ∈ songs ∧ song.id = some entry.trackId

/-- An entry that the service may list beside this library. -/
def PlaylistEntry.Resolves (entry : PlaylistEntry) (library : List Song) : Prop :=
  ∃ song, entry.SongOf library song ∧ song.playable = true

/-- The playlist opens with one row for each entry, each the row of the entry's song. -/
def Opens (client : Mobileclient σ) (library : List Song) (host : Host σ) (name id : String)
    (entries : List PlaylistEntry) : Prop :=
  ∃ container, (getPlaylistContents client name id).Returns host container ∧
    List.Forall₂ (fun entry object => ∃ song, entry.SongOf library song ∧
      object = .track (song.row host.api.allAccess entry.id)) entries container.objects

/-- An entry without a track of its own names a song of the library that the song list
holds. -/
def GMusic.Holds (api : GMusic) (library : List Song) (entry : PlaylistEntry) : Prop :=
  entry.track = none → ∃ song ∈ api.allSongs, song ∈ library ∧ song.id = some entry.trackId

/-- What holds of every song list that a supplied library is read into. -/
structure Searchable (songs : List Song) : Prop where
  identified : ∀ song ∈ songs, song.id.isSome = true
  unique : (songs.map Song.id).Nodup
  playable : ∀ song ∈ songs, song.playable = true

section Opening

variable {client : Mobileclient σ} {library : σ → List Song} {host : Host σ} {api : GMusic}
variable {name id : String} {contents : List PlaylistContents} {entry : PlaylistEntry}

theorem Supplies.stock (supplies : Supplies client library) : Stock client Searchable where
  empty := ⟨by simp, by simp, by simp⟩
  shuffled songs other same searchable :=
    { identified := fun song member => searchable.identified song (same.mem_iff.mp member)
      unique := (same.map Song.id).nodup_iff.mpr searchable.unique
      playable := fun song member => searchable.playable song (same.mem_iff.mp member) }
  answered state songs returned := by
    rw [supplies.listed state songs returned]
    exact ⟨supplies.identified state, supplies.unique state, supplies.playable state⟩

theorem entryData_eq_ok {song : Song} (searchable : Searchable api.allSongs) :
    entryData api entry = .ok song ↔ entry.SongOf api.allSongs song := by
  cases embedded : entry.track with
  | some track => simp [entryData, PlaylistEntry.SongOf, embedded]
  | none =>
      rw [entryData, embedded, PlaylistEntry.SongOf, embedded]
      simp only [getSong_eq_ok searchable.identified searchable.unique, reduceCtorEq, true_and,
        false_or]

theorem contentsRow_eq_ok {object : MenuObject} (searchable : Searchable api.allSongs) :
    contentsRow api entry = .ok object ↔ ∃ song, entry.SongOf api.allSongs song ∧
      song.playable = true ∧ object = .track (song.row api.allAccess entry.id) := by
  simp only [contentsRow, bind_eq_ok, entryData_eq_ok searchable, getTrack_eq_ok]
  constructor
  · rintro ⟨song, source, row, ⟨playable, rfl⟩, made⟩
    cases made
    exact ⟨song, source, playable, rfl⟩
  · rintro ⟨song, source, playable, rfl⟩
    exact ⟨song, source, _, ⟨playable, rfl⟩, rfl⟩

theorem holds_of_row {songs : List Song} {object : MenuObject}
    (searchable : Searchable api.allSongs) (built : contentsRow api entry = .ok object)
    (shows : ∃ song, entry.SongOf songs song ∧ object = .track (song.row api.allAccess entry.id)) :
    api.Holds songs entry := by
  intro bare
  obtain ⟨song, source, _, made⟩ := (contentsRow_eq_ok searchable).mp built
  obtain ⟨other, wanted, shown⟩ := shows
  have same : song = other := song_eq_of_row (MenuObject.track.inj (made.symm.trans shown))
  subst same
  rcases source with embedded | ⟨_, held, names⟩
  · rw [bare] at embedded
    cases embedded
  · rcases wanted with embedded | ⟨_, inside, _⟩
    · rw [bare] at embedded
      cases embedded
    · exact ⟨song, held, inside, names⟩

theorem row_of_holds {songs : List Song} (searchable : Searchable api.allSongs)
    (resolves : entry.Resolves songs) (held : api.Holds songs entry) :
    ∃ object, contentsRow api entry = .ok object ∧
      ∃ song, entry.SongOf songs song ∧ object = .track (song.row api.allAccess entry.id) := by
  cases embedded : entry.track with
  | some track =>
      obtain ⟨song, source, playable⟩ := resolves
      have same : track = song := by simpa [PlaylistEntry.SongOf, embedded] using source
      subst same
      exact ⟨_, (contentsRow_eq_ok searchable).mpr ⟨track, Or.inl embedded, playable, rfl⟩,
        track, Or.inl embedded, rfl⟩
  | none =>
      obtain ⟨song, inList, inside, names⟩ := held embedded
      have playable := searchable.playable song inList
      exact ⟨_, (contentsRow_eq_ok searchable).mpr
        ⟨song, Or.inr ⟨embedded, inList, names⟩, playable, rfl⟩,
        song, Or.inr ⟨embedded, inside, names⟩, rfl⟩

theorem opens_iff_holds {songs : List Song} (searchable : Searchable host.api.allSongs)
    (source : ContentsSource client host contents)
    (resolves : ∀ entry ∈ tracksOfPlaylist id contents, entry.Resolves songs) :
    Opens client songs host name id (tracksOfPlaylist id contents) ↔
      ∀ entry ∈ tracksOfPlaylist id contents, host.api.Holds songs entry := by
  obtain ⟨after, ran, list, access⟩ :
    ∃ after, (getAllUserPlaylistContents client id).run host =
        (.ok (tracksOfPlaylist id contents), after) ∧
      after.api.allSongs = host.api.allSongs ∧ after.api.allAccess = host.api.allAccess :=
    getAllUserPlaylistContents_of_source source
  have rows := contentsRow_congr list access
  constructor
  · rintro ⟨container, returned, shows⟩ entry member
    obtain ⟨objects, built, rfl⟩ := (getPlaylistContents_returns_iff ran).mp returned
    rw [rows, mapM_eq_ok_iff] at built
    have both := List.Forall₂.mp (fun _ _ read shown => And.intro read shown) built shows
    obtain ⟨object, _, read, shown⟩ := exists_left_of_forall₂ both.flip member
    exact holds_of_row searchable read shown
  · intro held
    obtain ⟨objects, pairs⟩ := exists_forall₂ fun entry member =>
      row_of_holds searchable (resolves entry member) (held entry member)
    have built : (tracksOfPlaylist id contents).mapM (contentsRow after.api) = .ok objects := by
      rw [rows, mapM_eq_ok_iff]
      exact pairs.imp fun _ _ pair => pair.1
    exact ⟨_, (getPlaylistContents_returns_iff ran).mpr ⟨objects, built, rfl⟩,
      pairs.imp fun _ _ pair => pair.2⟩

/-- In every state that a run reaches, a playlist opens completely exactly if the song list
holds the song of every entry that comes without one. -/
theorem always_opens_iff_holds (client : Mobileclient σ) (library : σ → List Song)
    (supplies : Supplies client library) (service : σ) (now : Int) (labels : List OpeningRequest) :
    (openingSystem client).Always (fun plugin => ∀ name id contents,
        ContentsSource client plugin.host contents →
        (∀ entry ∈ tracksOfPlaylist id contents, entry.Resolves (library plugin.host.service)) →
        (Opens client (library plugin.host.service) plugin.host name id
            (tracksOfPlaylist id contents) ↔
          ∀ entry ∈ tracksOfPlaylist id contents,
            plugin.api.Holds (library plugin.host.service) entry))
      labels (Plugin.start service now) :=
  (always_stocked supplies.stock service now labels).imp fun _ searchable _ _ _ source resolves =>
    opens_iff_holds searchable source resolves

theorem Supplies.stock_unchanged {songs : List Song} (supplies : Supplies client fun _ => songs) :
    Stock client fun list => list = [] ∨ list.Perm songs where
  empty := Or.inl rfl
  shuffled list other same stocked := by
    rcases stocked with rfl | whole
    · exact Or.inl same.eq_nil
    · exact Or.inr (same.trans whole)
  answered state list returned := by
    rw [supplies.listed state list returned]
    exact Or.inr (List.Perm.refl songs)

theorem holds_of_filled {songs : List Song} (whole : api.allSongs.Perm songs)
    (resolves : entry.Resolves songs) : api.Holds songs entry := by
  intro bare
  obtain ⟨song, source, _⟩ := resolves
  rcases source with embedded | ⟨_, inside, names⟩
  · rw [bare] at embedded
    cases embedded
  · exact ⟨song, whole.mem_iff.mpr inside, inside, names⟩

theorem holds_of_empty {songs : List Song} (empty : api.allSongs = []) :
    api.Holds songs entry ↔ entry.track.isSome = true := by
  rw [GMusic.Holds, empty, Option.isSome_iff_ne_none]
  simp

/-- While the library stays as it is, a filled song list holds the song of every entry, and
an empty one those of the entries that come with a track. -/
theorem always_holds_iff_filled (songs : List Song) (supplies : Supplies client fun _ => songs)
    (service : σ) (now : Int) (labels : List OpeningRequest) :
    (openingSystem client).Always (fun plugin => ∀ entries : List PlaylistEntry,
        (∀ entry ∈ entries, entry.Resolves songs) →
        ((∀ entry ∈ entries, plugin.api.Holds songs entry) ↔
          plugin.api.allSongs ≠ [] ∨ ∀ entry ∈ entries, entry.track.isSome = true))
      labels (Plugin.start service now) := by
  refine (always_stocked supplies.stock_unchanged service now labels).imp
    fun plugin stocked entries resolves => ?_
  by_cases empty : plugin.api.allSongs = []
  · rw [or_iff_right (not_not_intro empty)]
    exact forall₂_congr fun entry _ => holds_of_empty empty
  · have whole := stocked.resolve_left empty
    exact iff_of_true (fun entry member => holds_of_filled whole (resolves entry member))
      (Or.inl empty)

end Opening

def mixedPlaylist : PlaylistContents where
  id := "p"
  name := "Mix"
  tracks := [
    { id := "e", trackId := "2", playlistId := some "p", absolutePosition := "0",
      track := some { Song.sample with id := some "2" } },
    { id := "f", trackId := "1", playlistId := some "p", absolutePosition := "1" }]

def mixedClient : Mobileclient (Session Unit) :=
  Remote.withSession { Remote.ofSongs [Song.sample] with
    getAllUserPlaylistContents := pure [mixedPlaylist] }

theorem mixedClient_supplies : Supplies mixedClient fun _ => [Song.sample] where
  listed session songs returned := by
    obtain ⟨_, answered⟩ := Session.send_returns_iff.mp returned
    cases answered
    rfl
  identified _ song member := by
    rw [List.mem_singleton.mp member]
    rfl
  unique _ := List.nodup_singleton _
  playable _ song member := by
    rw [List.mem_singleton.mp member]
    rfl

theorem mixedPlaylist_resolves :
    ∀ entry ∈ tracksOfPlaylist "p" [mixedPlaylist], entry.Resolves [Song.sample] := by
  intro entry member
  rcases List.mem_cons.mp member with rfl | member
  · exact ⟨_, Or.inl rfl, rfl⟩
  · rw [List.mem_singleton.mp member]
    exact ⟨Song.sample, Or.inr ⟨rfl, List.mem_cons_self, rfl⟩, rfl⟩

theorem mixed_playlist_opens :
    ∃ plugin, (openingSystem mixedClient).run
        [.account (.library (.mainMenu 0 0 "user" "secret")), .account (.library .loadAsync)]
        (Plugin.start (Session.fresh ()) 0) = some plugin ∧
      Opens mixedClient [Song.sample] plugin.host "Mix" "p" (tracksOfPlaylist "p" [mixedPlaylist]) := by
  refine ⟨_, rfl, ?_⟩
  have always := always_opens_iff_holds mixedClient (fun _ => [Song.sample]) mixedClient_supplies
    (Session.fresh ()) 0
    [.account (.library (.mainMenu 0 0 "user" "secret")), .account (.library .loadAsync)]
  apply (always.last rfl "Mix" "p" [mixedPlaylist] (.fetched rfl rfl) mixedPlaylist_resolves).mpr
  intro entry member bare
  exact ⟨Song.sample, List.mem_cons_self, List.mem_cons_self, by
    rcases List.mem_cons.mp member with rfl | member
    · cases bare
    · rw [List.mem_singleton.mp member]
      rfl⟩

/-- A playlist that is opened behind the login, while the load job waits, raises. -/
theorem queued_load_breaks_playlist :
    Supplies mixedClient (fun _ => [Song.sample]) ∧
      ∃ plugin, (openingSystem mixedClient).run [.account (.library (.mainMenu 0 0 "user" "secret"))]
          (Plugin.start (Session.fresh ()) 0) = some plugin ∧
        plugin.api.authenticated = true ∧ plugin.threads = 1 ∧
        ContentsSource mixedClient plugin.host [mixedPlaylist] ∧
        (∀ entry ∈ tracksOfPlaylist "p" [mixedPlaylist], entry.Resolves [Song.sample]) ∧
        (getPlaylistContents mixedClient "Mix" "p").Raises plugin.host .indexError ∧
        ¬ Opens mixedClient [Song.sample] plugin.host "Mix" "p"
          (tracksOfPlaylist "p" [mixedPlaylist]) := by
  refine ⟨mixedClient_supplies, _, rfl, rfl, rfl, .fetched rfl rfl, mixedPlaylist_resolves, rfl, ?_⟩
  rintro ⟨container, returned, _⟩
  cases returned

end GoogleMusic
