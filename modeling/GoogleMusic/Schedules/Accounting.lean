import GoogleMusic.Foundation.Erasure
import GoogleMusic.Schedules.Naming

namespace GoogleMusic

open Foundation Traced Exec Host Plugin

variable {σ : Type}

/-- A service with the account of what it has named and was asked for. -/
abbrev Party (σ : Type) := Traced σ Ident

def Mobileclient.traced (client : Mobileclient σ) : Mobileclient (Party σ) where
  getRegisteredDevices := trace [] (fun _ => []) client.getRegisteredDevices
  getAllSongs := trace [] (List.flatMap Song.idents) client.getAllSongs
  getAllPlaylists := trace [] (List.flatMap Playlist.idents) client.getAllPlaylists
  getAllUserPlaylistContents :=
    trace [] (List.flatMap PlaylistContents.idents) client.getAllUserPlaylistContents
  getSharedPlaylistContents token :=
    trace [.share token] (List.flatMap PlaylistEntry.idents) (client.getSharedPlaylistContents token)
  getAllStations := trace [] (List.flatMap Station.idents) client.getAllStations
  getStationTracks id count :=
    trace (match id with | .value id => [.station id] | .emptyList => []) (List.flatMap Song.idents)
      (client.getStationTracks id count)
  getGenres := trace [] (List.flatMap Genre.idents) client.getGenres
  createStation name id :=
    trace [.genre id] (fun station => [.station station]) (client.createStation name id)
  searchAllAccess query count := trace [] (fun _ => []) (client.searchAllAccess query count)
  getArtistInfo id albums tracks related :=
    trace [.artist id] ArtistInfo.idents (client.getArtistInfo id albums tracks related)
  getAlbumInfo id tracks := trace [.album id] AlbumInfo.idents (client.getAlbumInfo id tracks)
  addAaTrack id := trace [.store id] (fun _ => []) (client.addAaTrack id)
  addSongsToPlaylist playlist id :=
    trace (.store id :: playlist.toList.map .playlist) (fun _ => []) (client.addSongsToPlaylist playlist id)
  getStreamUrl id device := trace [.song id] (fun _ => []) (client.getStreamUrl id device)
  login email password := trace [] (fun _ => []) (client.login email password)

def Search.traced (search : Search σ) : Search (Party σ) := fun query count =>
  trace [] Hits.idents (search query count)

/-- `IFL` is the one station that the plugin knows without being told. -/
def Party.fresh (service : σ) : Party σ where
  inner := service
  known := [.station "IFL"]
  strays := []

def Host.forget (host : Host (Party σ)) : Host σ where
  api := host.api
  service := host.service.inner

def Plugin.forget (plugin : Plugin (Party σ) Nat) : Plugin σ Nat where
  host := plugin.host.forget
  refresh := plugin.refresh
  threads := plugin.threads

def Visitor.forget (visitor : Visitor (Party σ)) : Visitor σ where
  plugin := visitor.plugin.forget
  links := visitor.links

section Forgetting

variable {client : Mobileclient σ} {search : Search σ} {α : Type}

theorem request_erases (asks : List Ident) (names : α → List Ident) (endpoint : Exec σ Raised α) :
    Erases Host.forget (onService (trace asks names endpoint)) (onService endpoint) :=
  Erases.zoom (trace_erases asks names endpoint) (fun _ => rfl) fun _ _ => rfl

theorem onApi_erases (body : Exec GMusic Raised α) :
    Erases (Host.forget : Host (Party σ) → Host σ) (onApi body) (onApi body) := fun _ => rfl

theorem withRelogin_erases {tracing : Mobileclient (Party σ)} {attempt : Exec (Host (Party σ)) Raised α}
    {plain : Exec (Host σ) Raised α} (fallback : α) (erases : Erases Host.forget attempt plain) :
    Erases Host.forget (withRelogin tracing attempt fallback) (withRelogin client plain fallback) := by
  intro host
  rw [withRelogin_run, withRelogin_run, erases host]

theorem cachedList_erases {tracing : Mobileclient (Party σ)} {names : List α → List Ident}
    {endpoint : Exec σ Raised (List α)} {read : GMusic → List α} {write : List α → GMusic → GMusic} :
    Erases Host.forget (cachedList tracing (trace [] names endpoint) read write)
      (cachedList client endpoint read write) :=
  Erases.bind (Erases.gets fun _ => rfl) fun cached => Erases.ite
    (withRelogin_erases [] ((request_erases [] names endpoint).bind fun answer =>
      (onApi_erases _).bind fun _ => Erases.pure answer)) (Erases.pure cached)

theorem getDeviceId_erases : Erases Host.forget (getDeviceId client.traced) (getDeviceId client) :=
  Erases.bind (Erases.gets fun _ => rfl) fun _ => Erases.ite
    ((request_erases _ _ _).bind fun _ => (Erases.lift _).bind fun _ => onApi_erases _)
    (Erases.pure ())

theorem authenticate_erases (arguments : List String) :
    Erases Host.forget (authenticate client.traced arguments) (authenticate client arguments) := by
  unfold authenticate
  split
  · refine Erases.bind (Erases.handle (request_erases _ _ _) fun reason => ?_) fun accepted =>
      (onApi_erases _).bind fun _ => (onApi_erases _).bind fun _ => getDeviceId_erases.bind fun _ =>
        Erases.gets fun _ => rfl
    cases reason <;> first | exact Erases.pure _ | exact Erases.raise _
  · exact Erases.raise _

theorem setAllSongs_erases : Erases Host.forget (setAllSongs client.traced) (setAllSongs client) :=
  Erases.bind (Erases.gets fun _ => rfl) fun _ => Erases.ite
    (withRelogin_erases _ ((request_erases _ _ _).bind fun _ => (onApi_erases _).bind fun _ =>
      Erases.pure _)) (Erases.pure _)

theorem loadData_erases : Erases Host.forget (loadData client.traced) (loadData client) :=
  setAllSongs_erases.bind fun _ => onApi_erases _

theorem getStreamUrl_erases (id : String) :
    Erases Host.forget (getStreamUrl client.traced id) (getStreamUrl client id) := by
  refine Erases.handle (Erases.bind (Erases.gets fun _ => rfl) fun device => request_erases _ _ _)
    fun reason => ?_
  cases reason <;> exact Erases.raise _

theorem playAudio_erases (id storeId : Argument) :
    Erases Host.forget (playAudio client.traced id storeId) (playAudio client id storeId) := by
  have streams : ∀ argument, Erases Host.forget (streamUrl client.traced argument)
      (streamUrl client argument) := by
    intro argument
    cases argument with
    | text song => exact getStreamUrl_erases song
    | number value => exact Erases.raise _
  refine Erases.ite (Erases.handle (streams storeId) fun reason => ?_) (streams id)
  cases reason <;> first | exact streams id | exact Erases.raise _

theorem addItem_erases (id : String) (playlist : Option String) (type : Int) :
    Erases Host.forget (addItem client.traced id playlist type) (addItem client id playlist type) :=
  Erases.ite (Erases.map (withRelogin_erases _ (request_erases _ _ _)))
    (Erases.map (withRelogin_erases _ (request_erases _ _ _)))

theorem reply_erases {tracing : Mobileclient (Party σ)} (asks : List Ident) (names : α → List Ident)
    (endpoint : Exec σ Raised α) :
    Erases Host.forget (withRelogin tracing (.value <$> onService (trace asks names endpoint)) .emptyList)
      (withRelogin client (.value <$> onService endpoint) (Reply.emptyList : Reply α)) :=
  withRelogin_erases _ (Erases.map (request_erases asks names endpoint))

theorem getStationTracks_erases (name : Text) (id : Reply String) :
    Erases Host.forget (Handlers.getStationTracks client.traced name id)
      (Handlers.getStationTracks client name id) :=
  (withRelogin_erases _ (request_erases _ _ _)).bind fun _ => (Erases.gets fun _ => rfl).bind fun _ =>
    (Erases.lift _).bind fun _ => Erases.pure _

theorem searchMenu_erases (order : Iteration) (query : String) :
    Erases Host.forget (searchMenu client.traced search.traced order query)
      (searchMenu client search order query) := by
  apply (reply_erases _ _ _).bind
  intro results
  cases results with
  | emptyList => exact Erases.raise _
  | value hits => exact (Erases.lift _).bind fun _ => Erases.pure _

theorem onHost_erases {body : Exec (Host (Party σ)) Raised α} {plain : Exec (Host σ) Raised α}
    (erases : Erases Host.forget body plain) : Erases Plugin.forget (onHost body) (onHost plain) :=
  Erases.zoom erases (fun _ => rfl) fun _ _ => rfl

theorem libraryRefresh_erases (now : Int) :
    Erases Plugin.forget
      (Exec.modify (libraryRefresh (.queued client.traced) now) : Exec _ Raised Unit)
      (Exec.modify (libraryRefresh (.queued client) now)) := Erases.modify fun _ => rfl

theorem mainMenu_erases (now later : Int) (email password : String) :
    Erases Plugin.forget (mainMenu (.queued client.traced) now later email password)
      (mainMenu (.queued client) now later email password) :=
  Erases.bind (Erases.gets fun _ => rfl) fun _ => (Erases.when (libraryRefresh_erases later)).bind fun _ =>
    Erases.bind (Erases.gets fun _ => rfl) fun _ => (Erases.when ((onHost_erases
      (authenticate_erases _)).bind fun _ => Erases.modify fun _ => rfl)).bind fun _ =>
    Erases.bind (Erases.gets fun _ => rfl) fun _ => Erases.pure _

theorem serveMenu_erases (random : Shuffle Song) (now : Int) (callback : Callback) :
    Erases Plugin.forget (serveMenu client.traced random now callback)
      (serveMenu client random now callback) := by
  cases callback with
  | libraryMenu => exact Erases.pure _
  | playlistsMenu id =>
      exact Erases.map (onHost_erases (cachedList_erases.bind fun _ => (Erases.lift _).bind fun _ =>
        Erases.pure _))
  | stationsMenu =>
      exact Erases.map (onHost_erases (cachedList_erases.bind fun _ => (Erases.lift _).bind fun _ =>
        Erases.pure _))
  | genresMenu =>
      exact Erases.map (onHost_erases ((withRelogin_erases _ (request_erases _ _ _)).bind fun _ =>
        (Erases.lift _).bind fun _ => Erases.pure _))
  | searchMenu => exact Erases.raise _
  | refreshMenu => exact Erases.map ((libraryRefresh_erases now).bind fun _ => Erases.pure _)
  | librarySubMenu title page => exact Erases.map (Erases.gets fun _ => rfl)
  | showSongs title shuffle page => exact Erases.map (onHost_erases (onApi_erases _))
  | getTrackList name type => exact Erases.bind (Erases.gets fun _ => rfl) fun _ => Erases.map (Erases.lift _)
  | getPlaylistContents name id =>
      exact Erases.map (onHost_erases ((cachedList_erases.bind fun _ => Erases.pure _).bind fun _ =>
        (Erases.gets fun _ => rfl).bind fun _ => (Erases.lift _).bind fun _ => Erases.pure _))
  | getSharedPlaylist name token =>
      exact Erases.map (onHost_erases ((withRelogin_erases _ (request_erases _ _ _)).bind fun _ =>
        (Erases.gets fun _ => rfl).bind fun _ => (Erases.lift _).bind fun _ => Erases.pure _))
  | getStationTracks name id => exact Erases.map (onHost_erases (getStationTracks_erases name _))
  | addToCollection id playlist type =>
      exact Erases.map ((onHost_erases (addItem_erases id playlist type)).bind fun _ =>
        (libraryRefresh_erases now).bind fun _ => Erases.pure _)
  | getTrack song key includeContainer =>
      exact Erases.bind (Erases.gets fun _ => rfl) fun _ => Erases.map (Erases.lift _)
  | playAudio id storeId ext => exact Erases.map (onHost_erases (playAudio_erases _ _))

theorem serve_erases (random : Shuffle Song) (now : Int) (link : Link) :
    Erases Plugin.forget (serve client.traced random now link) (serve client random now link) := by
  cases link with
  | menu callback => exact serveMenu_erases random now callback
  | genresSubMenu name id children => exact Erases.pure _
  | addItemMenu song => exact Erases.bind (Erases.gets fun _ => rfl) fun _ => Erases.map (Erases.lift _)
  | createStation id =>
      exact Erases.map (onHost_erases ((reply_erases _ _ _).bind fun station =>
        getStationTracks_erases _ station))
  | getArtistInfo name id =>
      exact Erases.map (onHost_erases ((reply_erases _ _ _).bind fun _ => (Erases.lift _).bind fun _ =>
        (Erases.lift _).bind fun _ => Erases.pure _))
  | getAlbumInfo name id =>
      exact Erases.map (onHost_erases ((reply_erases _ _ _).bind fun _ => (Erases.lift _).bind fun _ =>
        (Erases.lift _).bind fun _ => (Erases.gets fun _ => rfl).bind fun _ => (Erases.lift _).bind fun _ =>
        Erases.pure _))

theorem opens_erases {body : Exec (Plugin (Party σ) Nat) Raised Answer}
    {plain : Exec (Plugin σ Nat) Raised Answer} (erases : Erases Plugin.forget body plain)
    (visitor : Visitor (Party σ)) : visitor.forget.opens plain = (visitor.opens body).forget := by
  unfold Visitor.opens
  rw [Visitor.forget, erases visitor.plugin]
  cases body.run visitor.plugin with
  | mk outcome plugin => cases outcome <;> rfl

theorem loadAsync_erases : Erases Plugin.forget
    (onHost (loadAsync client.traced) : Exec (Plugin (Party σ) Nat) Raised Unit)
    (onHost (loadAsync client)) := onHost_erases loadData_erases

theorem queuedStep_forget (plugin : Plugin (Party σ) Nat) :
    queuedStep client .loadAsync plugin.forget =
      (queuedStep client.traced .loadAsync plugin).map Plugin.forget := by
  have same : plugin.forget.threads = plugin.threads := rfl
  cases waiting : plugin.threads with
  | zero => simp only [queuedStep, same, waiting, Option.map_none]
  | succ pending =>
      simp only [queuedStep, same, waiting, Option.map_some, Option.some.injEq]
      exact loadAsync_erases.final { plugin with threads := pending }

theorem turn_forget (label : Turn) (visitor : Visitor (Party σ)) :
    (visiting client search).step label visitor.forget =
      ((visiting client.traced search.traced).step label visitor).map Visitor.forget := by
  cases label with
  | mainMenu now later email password =>
      exact congrArg some (opens_erases (Erases.map (mainMenu_erases now later email password)) visitor)
  | follow link random now =>
      simp only [visiting, turn]
      change (if link ∈ visitor.links then _ else _) = _
      split
      · exact congrArg some (opens_erases (serve_erases random now link) visitor)
      · rfl
  | search order query =>
      simp only [visiting, turn]
      change (if Link.menu .searchMenu ∈ visitor.links then _ else _) = _
      split
      · exact congrArg some (opens_erases (Erases.map (onHost_erases (searchMenu_erases order query))) visitor)
      · rfl
  | loadAsync =>
      simp only [visiting, turn]
      rw [Visitor.forget, queuedStep_forget, Option.map_map, Option.map_map]
      rfl

end Forgetting

/-- The account is only kept: with it or without it, visits come to the same. -/
theorem turns_forget (client : Mobileclient σ) (search : Search σ) (service : σ) (now : Int)
    (turns : List Turn) :
    (visiting client search).run turns (.start service now) =
      ((visiting client.traced search.traced).run turns (.start (Party.fresh service) now)).map
        Visitor.forget :=
  System.run_map turn_forget turns (.start (Party.fresh service) now)

end GoogleMusic
