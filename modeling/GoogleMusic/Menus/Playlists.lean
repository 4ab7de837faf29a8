import GoogleMusic.Foundation.Sorting
import GoogleMusic.Foundation.Traversal
import GoogleMusic.Menus.Library
import Mathlib.Data.List.Nodup

namespace GoogleMusic

open Foundation Host

variable {σ : Type}

def titleCase (previous : Char) : List Char → List Char
  | [] => []
  | character :: rest =>
      (if previous.isAlpha then character.toLower else character.toUpper) :: titleCase character rest

/-- `Prettify`, for the ASCII ids of genres. -/
def prettify (text : String) : String :=
  String.ofList (titleCase ' ' ((lower text).toList.map fun character =>
    if character = '_' then ' ' else character))

example : prettify "INDIE_ROCK" = "Indie Rock" := by decide

/-- One row of `PlaylistsMenu`.  With the id of a song the row adds the song to the
playlist, else it shows the playlist. -/
def playlistRow (id : Option String) (playlist : Playlist) : Except Raised MenuObject :=
  match id with
  | none =>
      if playlist.type.map lower = some "user_generated" then
        .ok (.directory (.getPlaylistContents playlist.name playlist.id) (.literal playlist.name) none)
      else do
        let token ← field "shareToken" playlist.shareToken
        pure (.directory (.getSharedPlaylist playlist.name token) (.literal playlist.name) none)
  | some song =>
      .ok (.directory (.addToCollection song (some playlist.id) 1) (.literal playlist.name) none)

def playlistsMenu (client : Mobileclient σ) (id : Option String) :
    Exec (Host σ) Raised ObjectContainer := do
  let playlists ← getAllPlaylists client
  let rows ← Exec.lift (playlists.mapM (playlistRow id))
  pure { title2 := some (.label "Playlists"), objects := sortedBy MenuObject.literalTitle rows }

def recentTimestamp (station : Station) : Except Raised Int :=
  match station.recentTimestamp with
  | none => .error .typeError
  | some text => intOfString text

def stationRow (station : Station) : MenuObject :=
  .directory (.getStationTracks (.literal station.name) station.id) (.literal station.name)
    (station.imageUrl.map Thumb.url)

def luckyRadio : MenuObject :=
  .directory (.getStationTracks (.label "Lucky Radio") "IFL") (.label "Lucky Radio") none

/-- The stations with the latest first, as `sorted` orders them by keys it computes
once for each. -/
def recentStations (stations : List Station) : Except Raised (List Station) := do
  let timed ← stations.mapM fun station => do
    let time ← recentTimestamp station
    pure (time, station)
  pure ((sortedByDescending Prod.fst timed).map Prod.snd)

def stationsMenu (client : Mobileclient σ) : Exec (Host σ) Raised ObjectContainer := do
  let stations ← getAllStations client
  let recent ← Exec.lift (recentStations stations)
  pure { title2 := some (.label "Stations"), objects := luckyRadio :: recent.map stationRow }

/-- The song of a playlist entry: the dictionary it comes with, else the song of the
library that it names. -/
def entryData (api : GMusic) (entry : PlaylistEntry) : Except Raised Song :=
  match entry.track with
  | some track => .ok track
  | none => getSong api entry.trackId

def contentsRow (api : GMusic) (entry : PlaylistEntry) : Except Raised MenuObject := do
  let data ← entryData api entry
  let row ← getTrack api.allAccess data entry.id
  pure (.track row)

def getPlaylistContents (client : Mobileclient σ) (name id : String) :
    Exec (Host σ) Raised ObjectContainer := do
  let tracks ← getAllUserPlaylistContents client id
  let api ← Exec.gets Host.api
  let objects ← Exec.lift (tracks.mapM (contentsRow api))
  pure { title2 := some (.literal name), objects }

def stationTrackRow (allAccess : Bool) (song : Song) : Except Raised MenuObject := do
  let id ←
    match song.nid with
    | some nid => if allAccess then .ok nid else field "id" song.id
    | none => field "id" song.id
  let row ← getTrack allAccess song id
  pure (.track row)

namespace Handlers

def getStationTracks (client : Mobileclient σ) (name : Text) (id : Reply String) :
    Exec (Host σ) Raised ObjectContainer := do
  let tracks ← GoogleMusic.getStationTracks client id
  let api ← Exec.gets Host.api
  let objects ← Exec.lift (tracks.mapM (stationTrackRow api.allAccess))
  pure { title2 := some name, objects }

/-- The handler shows the tracks of the station it has created, and of the `[]` that
the wrapper falls back to. -/
def createStation (client : Mobileclient σ) (id : String) :
    Exec (Host σ) Raised ObjectContainer := do
  let name := prettify id
  let station ← GoogleMusic.createStation client name id
  getStationTracks client (.literal name) station

end Handlers

/-- The contents a playlist is opened from: the cached ones, or those the service answers. -/
inductive ContentsSource (client : Mobileclient σ) (host : Host σ) : List PlaylistContents → Prop where
  | cached (nonempty : host.api.playlistContents ≠ []) :
      ContentsSource client host host.api.playlistContents
  | fetched {contents : List PlaylistContents} (empty : host.api.playlistContents = [])
      (answered : client.getAllUserPlaylistContents.Returns host.service contents) :
      ContentsSource client host contents

theorem getAllUserPlaylistContents_of_source {client : Mobileclient σ} {host : Host σ} {id : String}
    {contents : List PlaylistContents} (source : ContentsSource client host contents) :
    ∃ after, (getAllUserPlaylistContents client id).run host =
        (.ok (tracksOfPlaylist id contents), after) ∧
      after.api.allSongs = host.api.allSongs ∧ after.api.allAccess = host.api.allAccess := by
  rw [getAllUserPlaylistContents, Exec.run_bind]
  cases source with
  | cached nonempty =>
      rw [cachedList_filled nonempty]
      exact ⟨host, rfl, rfl, rfl⟩
  | fetched empty answered =>
      obtain ⟨service, ran⟩ := Exec.returns_iff_run.mp answered
      rw [cachedList_empty empty, ran]
      exact ⟨_, rfl, rfl, rfl⟩

section Keeps

variable {client : Mobileclient σ} {inv : Host σ → Prop}

theorem playlistsMenu_keeps (listed : (getAllPlaylists client).Keeps inv) (id : Option String) :
    (playlistsMenu client id).Keeps inv :=
  listed.bind fun _ => (Exec.Keeps.lift _).bind fun _ => .pure _

theorem stationsMenu_keeps (listed : (getAllStations client).Keeps inv) :
    (stationsMenu client).Keeps inv :=
  listed.bind fun _ => (Exec.Keeps.lift _).bind fun _ => .pure _

theorem getAllUserPlaylistContents_keeps (id : String)
    (listed : (cachedList client client.getAllUserPlaylistContents GMusic.playlistContents
      fun playlistContents api => { api with playlistContents }).Keeps inv) :
    (getAllUserPlaylistContents client id).Keeps inv :=
  listed.bind fun _ => .pure _

theorem getPlaylistContents_keeps (name : String) {id : String}
    (found : (getAllUserPlaylistContents client id).Keeps inv) :
    (getPlaylistContents client name id).Keeps inv :=
  found.bind fun _ => (Exec.Keeps.gets _).bind fun _ => (Exec.Keeps.lift _).bind fun _ => .pure _

theorem getStationTracks_keeps (name : Text) {id : Reply String}
    (asked : (getStationTracks client id).Keeps inv) :
    (Handlers.getStationTracks client name id).Keeps inv :=
  asked.bind fun _ => (Exec.Keeps.gets _).bind fun _ => (Exec.Keeps.lift _).bind fun _ => .pure _

end Keeps

/-- The object is the row of the entry: it has the entry's id, and its song is the one
the entry comes with or refers to. -/
def ShowsEntry (entry : PlaylistEntry) (object : MenuObject) : Prop :=
  ∃ song row, object = .track row ∧ row.ratingKey = entry.id ∧
    row.key = .getTrack song entry.id true ∧
    match entry.track with
    | some track => song = track
    | none => song.id = some entry.trackId

/-- The row has the playlist's name.  With the id of a song it adds the song to the
playlist, and without one it leads to the playlist: to its entries where the user has made
it, else to its token. -/
def ShowsPlaylist (id : Option String) (playlist : Playlist) (object : MenuObject) : Prop :=
  object.directoryTitle = some playlist.name ∧
    match id with
    | some song => object.target = some (.addToCollection song (some playlist.id) 1)
    | none =>
        if playlist.type.map lower = some "user_generated" then
          object.target = some (.getPlaylistContents playlist.name playlist.id)
        else ∃ token, playlist.shareToken = some token ∧
          object.target = some (.getSharedPlaylist playlist.name token)

def ShowsStation (station : Station) (object : MenuObject) : Prop :=
  object.directoryTitle = some station.name ∧
    object.target = some (.getStationTracks (.literal station.name) station.id) ∧
    object.picture = station.imageUrl.map Thumb.url

section Rows

variable {api : GMusic} {stations recent : List Station} {playlist : Playlist} {row : MenuObject}

theorem playlistRow_own (own : playlist.type.map lower = some "user_generated")
    (built : playlistRow none playlist = .ok row) :
    row = .directory (.getPlaylistContents playlist.name playlist.id) (.literal playlist.name) none := by
  rw [playlistRow, if_pos own] at built
  exact (Except.ok.inj built).symm

theorem playlistRow_shared (other : playlist.type.map lower ≠ some "user_generated")
    (built : playlistRow none playlist = .ok row) :
    ∃ token, playlist.shareToken = some token ∧
      row = .directory (.getSharedPlaylist playlist.name token) (.literal playlist.name) none := by
  rw [playlistRow, if_neg other] at built
  obtain ⟨token, read, made⟩ := bind_eq_ok.mp built
  exact ⟨token, field_eq_ok.mp read, (Except.ok.inj made).symm⟩

theorem playlistRow_shows {id : Option String} (built : playlistRow id playlist = .ok row) :
    ShowsPlaylist id playlist row := by
  cases id with
  | some song =>
      cases built
      exact ⟨rfl, rfl⟩
  | none =>
      by_cases own : playlist.type.map lower = some "user_generated"
      · rw [playlistRow_own own built]
        exact ⟨rfl, by simp only [if_pos own]; rfl⟩
      · obtain ⟨token, read, shared⟩ := playlistRow_shared own built
        rw [shared]
        exact ⟨rfl, by simp only [if_neg own]; exact ⟨token, read, rfl⟩⟩

theorem stationRow_shows (station : Station) : ShowsStation station (stationRow station) :=
  ⟨rfl, rfl, rfl⟩

theorem getSong_id {id : String} {song : Song} (found : getSong api id = .ok song) :
    song.id = some id := by
  rw [getSong, bind_eq_ok] at found
  obtain ⟨songs, filtered, chosen⟩ := found
  cases songs with
  | nil => cases chosen
  | cons first rest =>
      cases chosen
      have passes := filterM_sound filtered song List.mem_cons_self
      rw [bind_eq_ok] at passes
      obtain ⟨songId, read, same⟩ := passes
      have equal : songId = id := by simpa [pure, Except.pure] using same
      rw [field_eq_ok.mp read, equal]

/-- Among songs with ids of their own a search finds the song of the id and no other. -/
theorem getSong_eq_ok {id : String} {song : Song}
    (identified : ∀ song ∈ api.allSongs, song.id.isSome = true)
    (unique : (api.allSongs.map Song.id).Nodup) :
    getSong api id = .ok song ↔ song ∈ api.allSongs ∧ song.id = some id := by
  have filtered : api.allSongs.filterM (fun song => do
      let songId ← field "id" song.id
      pure (decide (songId = id))) = .ok (api.allSongs.filter fun song => song.id = some id) := by
    apply filterM_eq_filter
    intro song member
    obtain ⟨songId, has⟩ := Option.isSome_iff_exists.mp (identified song member)
    rw [has, field_some]
    simp [bind, Except.bind, pure, Except.pure]
  have passes : ∀ other, other ∈ api.allSongs.filter (fun song => song.id = some id) ↔
      other ∈ api.allSongs ∧ other.id = some id := fun other => by
    rw [List.mem_filter, decide_eq_true_eq]
  rw [getSong, filtered, ← passes]
  cases found : api.allSongs.filter fun song => song.id = some id with
  | nil => simp [bind, Except.bind]
  | cons first rest =>
      have leads := (passes first).mp (by rw [found]; exact List.mem_cons_self)
      simp only [bind, Except.bind, Except.ok.injEq]
      constructor
      · rintro rfl
        exact List.mem_cons_self
      · intro member
        have named := (passes song).mp (by rw [found]; exact member)
        exact List.inj_on_of_nodup_map unique leads.1 named.1 (leads.2.trans named.2.symm)

theorem getTrack_key {allAccess : Bool} {song : Song} {key : String} {row : TrackObject}
    (built : getTrack allAccess song key = .ok row) :
    row.key = .getTrack song key true ∧ row.ratingKey = key := by
  unfold getTrack at built
  simp only [bind_eq_ok] at built
  obtain ⟨_, _, _, _, _, _, _, _, _, _, _, _, made⟩ := built
  cases made
  exact ⟨rfl, rfl⟩

theorem contentsRow_shows {entry : PlaylistEntry} {object : MenuObject}
    (built : contentsRow api entry = .ok object) : ShowsEntry entry object := by
  rw [contentsRow, bind_eq_ok] at built
  obtain ⟨data, read, built⟩ := built
  rw [bind_eq_ok] at built
  obtain ⟨row, tracked, made⟩ := built
  cases made
  obtain ⟨key, ratingKey⟩ := getTrack_key tracked
  refine ⟨data, row, rfl, ratingKey, key, ?_⟩
  cases embedded : entry.track with
  | some track =>
      rw [entryData, embedded] at read
      cases read
      rfl
  | none =>
      rw [entryData, embedded] at read
      exact getSong_id read

/-- A row depends on the library and on nothing else of the API object. -/
theorem contentsRow_congr {before after : GMusic} (songs : after.allSongs = before.allSongs)
    (access : after.allAccess = before.allAccess) : contentsRow after = contentsRow before := by
  funext entry
  simp only [contentsRow, entryData, getSong, songs, access]

theorem getPlaylistContents_returns_iff {client : Mobileclient σ} {host after : Host σ}
    {name id : String} {entries : List PlaylistEntry} {container : ObjectContainer}
    (found : (getAllUserPlaylistContents client id).run host = (.ok entries, after)) :
    (getPlaylistContents client name id).Returns host container ↔
      ∃ objects, entries.mapM (contentsRow after.api) = .ok objects ∧
        container = { title2 := some (.literal name), objects } := by
  rw [Exec.Returns, getPlaylistContents, Exec.run_bind, found]
  simp only [Exec.run_bind, Exec.run_gets, Exec.run_lift]
  cases entries.mapM (contentsRow after.api) with
  | error reason => simp
  | ok objects => simp [eq_comm]

theorem recentStations_perm (sorted : recentStations stations = .ok recent) :
    recent.Perm stations := by
  rw [recentStations, bind_eq_ok] at sorted
  obtain ⟨timed, read, made⟩ := sorted
  cases made
  have same : timed.map Prod.snd = stations := by
    rw [mapM_eq_ok_iff] at read
    induction read with
    | nil => rfl
    | cons head tail ih =>
        obtain ⟨time, _, pair⟩ := bind_eq_ok.mp head
        cases pair
        rw [List.map_cons, ih]
  rw [← same]
  exact sortedByDescending_perm.map Prod.snd

end Rows

end GoogleMusic
