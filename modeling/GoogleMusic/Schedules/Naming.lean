import GoogleMusic.Foundation.Tracing
import GoogleMusic.Schedules.Routes

namespace GoogleMusic

open Foundation

inductive Ident where
  | song (id : String)
  | store (id : String)
  | playlist (id : String)
  | share (token : String)
  | station (id : String)
  | genre (id : String)
  | artist (id : String)
  | album (id : String)
deriving DecidableEq

def Song.idents (song : Song) : List Ident :=
  song.id.toList.map .song ++
    (song.nid.toList ++ song.storeId.toList).flatMap fun id => [.song id, .store id]

def Playlist.idents (playlist : Playlist) : List Ident :=
  .playlist playlist.id :: playlist.shareToken.toList.map .share

def PlaylistEntry.idents (entry : PlaylistEntry) : List Ident := entry.track.toList.flatMap Song.idents

def PlaylistContents.idents (contents : PlaylistContents) : List Ident :=
  contents.tracks.flatMap PlaylistEntry.idents

def Station.idents (station : Station) : List Ident := [.station station.id]

def Genre.idents (genre : Genre) : List Ident :=
  .genre genre.id :: (genre.children.getD []).map .genre

def Album.idents (album : Album) : List Ident := [.album album.albumId]

def ArtistInfo.idents (artist : ArtistInfo) : List Ident := (artist.albums.getD []).flatMap Album.idents

def AlbumInfo.idents (album : AlbumInfo) : List Ident := (album.tracks.getD []).flatMap Song.idents

def Hit.idents (hit : Hit) : List Ident :=
  hit.track.toList.flatMap Song.idents ++ hit.artist.toList.map (fun artist => .artist artist.artistId) ++
    hit.album.toList.flatMap Album.idents ++
      hit.playlist.toList.map fun playlist => .share playlist.shareToken

def Hits.idents (hits : Hits) : List Ident :=
  (hits.albumHits ++ hits.artistHits ++ hits.songHits ++ hits.playlistHits).flatMap Hit.idents

def PlayId.idents : PlayId → List Ident
  | .id song => [.song song]
  | .missing => []

def Callback.idents : Callback → List Ident
  | .playlistsMenu id => id.toList.map .store
  | .getPlaylistContents _ id => [.playlist id]
  | .getSharedPlaylist _ token => [.share token]
  | .getStationTracks _ id => [.station id]
  | .addToCollection id playlist _ => .store id :: playlist.toList.map .playlist
  | .getTrack song _ _ => song.idents
  | .playAudio id storeId _ => id.idents ++ storeId.idents
  | .libraryMenu | .stationsMenu | .genresMenu | .searchMenu | .refreshMenu | .librarySubMenu _ _
  | .showSongs _ _ _ | .getTrackList _ _ => []

def Link.idents : Link → List Ident
  | .menu callback => callback.idents
  | .genresSubMenu _ id children => .genre id :: (children.getD []).map .genre
  | .addItemMenu song => song.idents
  | .createStation id => [.genre id]
  | .getArtistInfo _ id => [.artist id]
  | .getAlbumInfo _ id => [.album id]

def linkIdents (links : List Link) : List Ident := links.flatMap Link.idents

inductive GMusic.Named (api : GMusic) : Ident → Prop where
  | song {song : Song} {name : Ident} (member : song ∈ api.allSongs) (named : name ∈ song.idents) :
      Named api name
  | entry {category : Category} {entry : Entry} {name : Ident}
      (member : entry ∈ (api.index category).items) (named : name ∈ entry.track.idents) : Named api name
  | playlist {playlist : Playlist} {name : Ident} (member : playlist ∈ api.playlists)
      (named : name ∈ playlist.idents) : Named api name
  | contents {contents : PlaylistContents} {name : Ident} (member : contents ∈ api.playlistContents)
      (named : name ∈ contents.idents) : Named api name
  | station {station : Station} {name : Ident} (member : station ∈ api.stations)
      (named : name ∈ station.idents) : Named api name

section Api

variable {api after : GMusic} {songs : List Song} {name : Ident}

theorem GMusic.Named.of_songs (named : after.Named name)
    (songs : ∀ song ∈ after.allSongs, song ∈ api.allSongs)
    (rest : after.index = api.index ∧ after.playlists = api.playlists ∧
      after.playlistContents = api.playlistContents ∧ after.stations = api.stations) :
    api.Named name := by
  obtain ⟨indexes, playlists, contents, stations⟩ := rest
  cases named with
  | song member named => exact .song (songs _ member) named
  | entry member named => exact .entry (indexes ▸ member) named
  | playlist member named => exact .playlist (playlists ▸ member) named
  | contents member named => exact .contents (contents ▸ member) named
  | station member named => exact .station (stations ▸ member) named

theorem GMusic.named_withSongs (named : (api.withSongs songs).Named name) :
    api.Named name ∨ name ∈ songs.flatMap Song.idents := by
  cases named with
  | song member named => exact Or.inr (List.mem_flatMap.mpr ⟨_, member, named⟩)
  | entry member named => exact Or.inl (.entry (GMusic.index_withSongs ▸ member) named)
  | playlist member named => exact Or.inl (.playlist member named)
  | contents member named => exact Or.inl (.contents member named)
  | station member named => exact Or.inl (.station member named)

theorem GMusic.named_withPlaylists {playlists : List Playlist}
    (named : { api with playlists }.Named name) :
    api.Named name ∨ name ∈ playlists.flatMap Playlist.idents := by
  cases named with
  | song member named => exact Or.inl (.song member named)
  | entry member named => exact Or.inl (.entry (by exact member) named)
  | playlist member named => exact Or.inr (List.mem_flatMap.mpr ⟨_, member, named⟩)
  | contents member named => exact Or.inl (.contents member named)
  | station member named => exact Or.inl (.station member named)

theorem GMusic.named_withContents {playlistContents : List PlaylistContents}
    (named : { api with playlistContents }.Named name) :
    api.Named name ∨ name ∈ playlistContents.flatMap PlaylistContents.idents := by
  cases named with
  | song member named => exact Or.inl (.song member named)
  | entry member named => exact Or.inl (.entry (by exact member) named)
  | playlist member named => exact Or.inl (.playlist member named)
  | contents member named => exact Or.inr (List.mem_flatMap.mpr ⟨_, member, named⟩)
  | station member named => exact Or.inl (.station member named)

theorem GMusic.named_withStations {stations : List Station} (named : { api with stations }.Named name) :
    api.Named name ∨ name ∈ stations.flatMap Station.idents := by
  cases named with
  | song member named => exact Or.inl (.song member named)
  | entry member named => exact Or.inl (.entry (by exact member) named)
  | playlist member named => exact Or.inl (.playlist member named)
  | contents member named => exact Or.inl (.contents member named)
  | station member named => exact Or.inr (List.mem_flatMap.mpr ⟨_, member, named⟩)

theorem GMusic.not_named_reset : ¬ api.resetLibrary.Named name := by
  rintro (⟨member, _⟩ | ⟨member, _⟩ | ⟨member, _⟩ | ⟨member, _⟩ | ⟨member, _⟩)
  · cases member
  · rw [GMusic.index_resetLibrary] at member
    cases member
  · cases member
  · cases member
  · cases member

theorem Song.track_idents {song : Song} {artist album : String}
    (member : name ∈ (song.track artist album).idents) : name ∈ song.idents := by
  simp only [Song.idents, Song.track, Option.toList_none, List.nil_append, List.mem_append,
    List.flatMap_append] at member ⊢
  exact member.imp_right Or.inr

/-- Filing songs names nothing that the songs do not. -/
theorem GMusic.Indexed.named (filed : GMusic.Indexed songs api after)
    (inside : ∀ song ∈ songs, song ∈ api.allSongs) (named : after.Named name) : api.Named name := by
  have playlists := congrArg GMusic.playlists filed.outside
  have contents := congrArg GMusic.playlistContents filed.outside
  have stations := congrArg GMusic.stations filed.outside
  simp only [GMusic.withoutMaps] at playlists contents stations
  cases named with
  | song member named => exact .song (filed.allSongs ▸ member) named
  | entry member named =>
      rcases List.mem_append.mp ((filed.items _).mem_iff.mp member) with earlier | added
      · exact .entry earlier named
      · obtain ⟨song, source, rfl⟩ := List.mem_map.mp added
        exact .song (inside song source) (Song.track_idents named)
  | playlist member named => exact .playlist (playlists ▸ member) named
  | contents member named => exact .contents (contents ▸ member) named
  | station member named => exact .station (stations ▸ member) named

theorem indexLibrary_named (named : (indexLibrary.final api).Named name) : api.Named name := by
  by_cases fields : ∀ song ∈ api.allSongs, song.indexable = true
  · obtain ⟨after, ran, filed, _⟩ := indexSongs_of_indexable api fields
    simp only [indexLibrary, Exec.final, Exec.run_bind, Exec.run_gets, ran, Exec.run_modify] at named
    refine filed.named (fun _ => id) (named.of_songs (fun _ => id) ?_)
    exact ⟨funext fun _ => GMusic.index_markLoaded, rfl, rfl, rfl⟩
  · obtain ⟨reason, after, front, bad, back, ran, filed, split, _⟩ :=
      indexSongs_of_defective api (by simpa using fields)
    simp only [indexLibrary, Exec.final, Exec.run_bind, Exec.run_gets, ran] at named
    refine filed.named (fun song inside => ?_) named
    rw [split]
    exact List.mem_append_left _ inside

end Api

section Rows

variable {song : Song} {allAccess : Bool} {key : String} {name : Ident}

theorem getTrack_idents {row : TrackObject} (built : getTrack allAccess song key = .ok row)
    (named : name ∈ linkIdents row.links) : name ∈ song.idents := by
  rw [(getTrack_eq_ok.mp built).2] at named
  simp only [linkIdents, Song.row, TrackObject.links, List.flatMap_cons, List.flatMap_nil,
    List.append_nil, List.map_cons, List.map_nil, Link.idents, Callback.idents, List.mem_append] at named
  rcases named with own | own | stored
  · exact own
  · cases has : song.id with
    | none => simp [Song.playIds, has, PlayId.idents] at own
    | some id => simpa [Song.playIds, has, PlayId.idents, Song.idents] using Or.inl own
  · cases has : song.storeId with
    | none => simp [Song.playIds, has, PlayId.idents] at stored
    | some storeId =>
        cases allAccess with
        | false => simp [Song.playIds, has, PlayId.idents] at stored
        | true =>
            simp only [Song.playIds, has, if_true, PlayId.idents, List.mem_singleton] at stored
            subst stored
            simp [Song.idents, has]

end Rows

theorem getSong_mem {api : GMusic} {id : String} {song : Song} (found : getSong api id = .ok song) :
    song ∈ api.allSongs := by
  obtain ⟨songs, filtered, chosen⟩ := bind_eq_ok.mp found
  cases songs with
  | nil => cases chosen
  | cons first rest =>
      cases chosen
      exact filterM_subset filtered List.mem_cons_self

/-- Rows built from values name what the values do. -/
theorem mapM_idents {α ρ : Type} {values : List α} {rows : List ρ} {build : α → Except Raised ρ}
    {links : ρ → List Link} {known : Ident → Prop} (built : values.mapM build = .ok rows)
    (names : ∀ value ∈ values, ∀ row, build value = .ok row →
      ∀ name ∈ linkIdents (links row), known name) :
    ∀ name ∈ linkIdents (rows.flatMap links), known name := by
  intro name named
  obtain ⟨link, shown, inside⟩ := List.mem_flatMap.mp named
  obtain ⟨row, member, own⟩ := List.mem_flatMap.mp shown
  obtain ⟨value, source, made⟩ := exists_left_of_forall₂ (mapM_eq_ok_iff.mp built) member
  exact names value source row made name (List.mem_flatMap.mpr ⟨link, own, inside⟩)

end GoogleMusic
