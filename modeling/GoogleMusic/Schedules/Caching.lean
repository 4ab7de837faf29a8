import GoogleMusic.Foundation.Agreement
import GoogleMusic.Schedules.Account
import GoogleMusic.Schedules.Routes

namespace GoogleMusic

open Foundation Exec Host Plugin

variable {σ : Type}

inductive Cache where
  | songs
  | playlists
  | contents
  | stations
deriving DecidableEq

/-- Other answers to the four requests. -/
structure Listings (σ : Type) where
  getAllSongs : Exec σ Raised (List Song)
  getAllPlaylists : Exec σ Raised (List Playlist)
  getAllUserPlaylistContents : Exec σ Raised (List PlaylistContents)
  getAllStations : Exec σ Raised (List Station)

/-- The client with other answers for the caches that `which` selects. -/
def Mobileclient.relisted (client : Mobileclient σ) (listings : Listings σ) (which : Cache → Bool) :
    Mobileclient σ :=
  { client with
    getAllSongs := if which .songs then listings.getAllSongs else client.getAllSongs
    getAllPlaylists := if which .playlists then listings.getAllPlaylists else client.getAllPlaylists
    getAllUserPlaylistContents := if which .contents then listings.getAllUserPlaylistContents
      else client.getAllUserPlaylistContents
    getAllStations := if which .stations then listings.getAllStations else client.getAllStations }

/-- The answers of the client itself. -/
def Mobileclient.listings (client : Mobileclient σ) : Listings σ where
  getAllSongs := client.getAllSongs
  getAllPlaylists := client.getAllPlaylists
  getAllUserPlaylistContents := client.getAllUserPlaylistContents
  getAllStations := client.getAllStations

/-- The selected caches are in use. -/
structure GMusic.Filled (which : Cache → Bool) (api : GMusic) : Prop where
  songs : which .songs = true → api.allSongs ≠ []
  playlists : which .playlists = true → api.playlists ≠ []
  contents : which .contents = true → api.playlistContents ≠ []
  stations : which .stations = true → api.stations ≠ []

def Host.Filled (which : Cache → Bool) (host : Host σ) : Prop := host.api.Filled which

/-- The turn does not reset the library. -/
def Lasts (client : Mobileclient σ) : Turn → Visitor σ → Prop
  | .mainMenu now _ _ _, visitor => ¬ now > visitor.plugin.refresh + twoHours
  | .follow (.menu .refreshMenu) _ _, _ => False
  | .follow (.menu (.addToCollection id playlist type)) _ _, visitor =>
      ¬ ∃ item, (addItem client id playlist type).Returns visitor.plugin.host item
  | _, _ => True

section Wrappers

variable {client : Mobileclient σ} {search : Search σ} {listings : Listings σ} {which : Cache → Bool}
variable {α β : Type}

theorem onService_filled (request : Exec σ Raised α) :
    (onService request).Keeps (Host.Filled which) := fun _ held => held

theorem withRelogin_filled {attempt : Exec (Host σ) Raised β} (fallback : β)
    (kept : attempt.Keeps (Host.Filled which)) :
    (withRelogin client attempt fallback).Keeps (Host.Filled which) := fun host held => by
  rw [withRelogin_final]
  exact kept host held

theorem reply_filled (request : Exec σ Raised α) (read : α → β) (fallback : β) :
    (withRelogin client (read <$> onService request) fallback).Keeps (Host.Filled which) :=
  withRelogin_filled fallback ((onService_filled request).bind fun value => .pure (read value))

theorem authenticate_filled (arguments : List String) :
    (authenticate client arguments).Keeps (Host.Filled which) := by
  intro host held
  obtain ⟨authenticated, allAccess, device, left⟩ := authenticate_api client arguments host
  rw [Host.Filled, left]
  exact ⟨held.songs, held.playlists, held.contents, held.stations⟩

theorem reply_agree (request : Exec σ Raised α) (read : α → β) (fallback : β) :
    Agree (Host.Filled which)
      (withRelogin (client.relisted listings which) (read <$> onService request) fallback)
      (withRelogin client (read <$> onService request) fallback) :=
  fun host held => ⟨by rw [withRelogin_run, withRelogin_run], reply_filled request read fallback host held⟩

theorem asked_agree (request : Exec σ Raised α) (fallback : α) :
    Agree (Host.Filled which)
      (withRelogin (client.relisted listings which) (onService request) fallback)
      (withRelogin client (onService request) fallback) :=
  fun host held => ⟨by rw [withRelogin_run, withRelogin_run],
    withRelogin_filled fallback (onService_filled request) host held⟩

/-- A cached list asks for its answer only while it is empty. -/
theorem cachedList_agree {cache : Cache} {endpoint other : Exec σ Raised (List α)}
    {read : GMusic → List α} {write : List α → GMusic → GMusic}
    (inUse : ∀ host : Host σ, host.Filled which → which cache = true → read host.api ≠ [])
    (writes : ∀ values (host : Host σ), host.Filled which → which cache = false →
      (write values host.api).Filled which) :
    Agree (Host.Filled which)
      (cachedList (client.relisted listings which) (if which cache then other else endpoint) read write)
      (cachedList client endpoint read write) := by
  intro host held
  cases used : which cache with
  | true =>
      rw [Exec.final, cachedList_filled (inUse host held used), cachedList_filled (inUse host held used)]
      exact ⟨rfl, held⟩
  | false =>
      have kept : (cachedList client endpoint read write).Keeps (Host.Filled which) :=
        cachedList_keeps (fun host values _ _ held => writes values host held used)
          fun _ _ _ _ held => held
      exact ⟨rfl, kept host held⟩

theorem getAllPlaylists_agree : Agree (Host.Filled which)
    (getAllPlaylists (client.relisted listings which)) (getAllPlaylists client) :=
  cachedList_agree (fun _ held => held.playlists) fun _ _ held unused =>
    ⟨held.songs, fun used => by simp [unused] at used, held.contents, held.stations⟩

theorem getAllUserPlaylistContents_agree (id : String) : Agree (Host.Filled which)
    (getAllUserPlaylistContents (client.relisted listings which) id)
    (getAllUserPlaylistContents client id) :=
  Agree.bind (cachedList_agree (fun _ held => held.contents) fun _ _ held unused =>
    ⟨held.songs, held.playlists, fun used => by simp [unused] at used, held.stations⟩)
    fun _ => .of_keeps (.pure _)

theorem getAllStations_agree : Agree (Host.Filled which)
    (getAllStations (client.relisted listings which)) (getAllStations client) :=
  cachedList_agree (fun _ held => held.stations) fun _ _ held unused =>
    ⟨held.songs, held.playlists, held.contents, fun used => by simp [unused] at used⟩

/-- A load job asks for the songs only while there are none. -/
theorem loadAsync_agree : Agree (Host.Filled which)
    (loadAsync (client.relisted listings which)) (loadAsync client) := by
  intro host held
  have same := (loadData_outcome client host).caches
  refine ⟨?_, fun used => ?_, fun used => ?_, fun used => ?_, fun used => ?_⟩
  · cases used : which .songs with
    | true =>
        have cached := held.songs used
        exact (loadData_of_cached cached).trans (loadData_of_cached cached).symm
    | false =>
        have plain : (client.relisted listings which).getAllSongs = client.getAllSongs := by
          simp [Mobileclient.relisted, used]
        simp only [loadAsync, loadData, setAllSongs, plain]
        rfl
  · have cached := held.songs used
    rw [loadAsync, Exec.final, loadData_of_cached cached]
    change (indexLibrary.final host.api).allSongs ≠ []
    rw [indexLibrary_allSongs]
    exact cached
  · exact same.playlists ▸ held.playlists used
  · exact same.contents ▸ held.contents used
  · exact same.stations ▸ held.stations used

end Wrappers

def Plugin.Filled (which : Cache → Bool) (plugin : Plugin σ Nat) : Prop := plugin.host.Filled which

section Handlers

variable {client : Mobileclient σ} {search : Search σ} {listings : Listings σ} {which : Cache → Bool}
variable {α : Type} {random : Shuffle Song} {now : Int} {plugin : Plugin σ Nat}

theorem onHost_agree {body other : Exec (Host σ) Raised α} (agree : Agree (Host.Filled which) body other) :
    Agree (Plugin.Filled which) (onHost body) (onHost other) :=
  agree.zoom (fun _ held => held) fun _ _ kept _ => kept

theorem getStationTracks_agree (name : Text) (id : Reply String) : Agree (Host.Filled which)
    (Handlers.getStationTracks (client.relisted listings which) name id)
    (Handlers.getStationTracks client name id) :=
  (asked_agree _ _).bind fun _ => .of_keeps
    ((Exec.Keeps.gets _).bind fun _ => (Exec.Keeps.lift _).bind fun _ => .pure _)

theorem streamUrl_filled (argument : Argument) :
    (streamUrl client argument).Keeps (Host.Filled which) := by
  cases argument with
  | number value => exact .raise _
  | text id =>
      apply Exec.Keeps.handle ((Exec.Keeps.gets _).bind fun _ => onService_filled _)
      intro reason
      cases reason with
      | notLoggedIn =>
          exact (authenticate_filled []).bind fun _ =>
            .ite ((Exec.Keeps.gets _).bind fun _ => onService_filled _) (.pure _)
      | _ => exact .raise _

theorem playAudio_filled (id storeId : Argument) :
    (playAudio client id storeId).Keeps (Host.Filled which) := by
  refine Exec.Keeps.ite (Exec.Keeps.handle (streamUrl_filled storeId) fun reason => ?_) (streamUrl_filled id)
  cases reason with
  | callFailure message caller => exact streamUrl_filled id
  | _ => exact .raise _

theorem searchMenu_agree (order : Iteration) (query : String) : Agree (Host.Filled which)
    (searchMenu (client.relisted listings which) search order query)
    (searchMenu client search order query) := by
  refine (reply_agree _ _ _).bind fun results => .of_keeps ?_
  cases results with
  | emptyList => exact .raise _
  | value hits => exact (Exec.Keeps.lift _).bind fun _ => .pure _

theorem showSongs_filled (title : String) (shuffle : Bool) (page : Int) :
    (onApi (showSongs random title shuffle page) : Exec (Host σ) Raised ObjectContainer).Keeps
      (Host.Filled which) := by
  intro host held
  change ((showSongs random title shuffle page).final host.api).Filled which
  rw [showSongs_final]
  split
  · refine ⟨fun used empty => held.songs used ?_, held.playlists, held.contents, held.stations⟩
    have perm := random.perm host.api.allSongs
    rw [GMusic.allSongs_withSongs] at empty
    rw [empty] at perm
    exact perm.nil_eq.symm
  · exact held

/-- The callbacks that leave the library as it is. -/
def Callback.Reads : Callback → Prop
  | .refreshMenu => False
  | .addToCollection _ _ _ => False
  | _ => True

theorem serveMenu_agree {callback : Callback} (reads : callback.Reads) : Agree (Plugin.Filled which)
    (serveMenu (client.relisted listings which) random now callback)
    (serveMenu client random now callback) := by
  cases callback with
  | libraryMenu => exact .of_keeps (.pure _)
  | playlistsMenu id =>
      exact (onHost_agree (getAllPlaylists_agree.bind fun _ =>
        .of_keeps ((Exec.Keeps.lift _).bind fun _ => .pure _))).map
  | stationsMenu =>
      exact (onHost_agree (getAllStations_agree.bind fun _ =>
        .of_keeps ((Exec.Keeps.lift _).bind fun _ => .pure _))).map
  | genresMenu =>
      exact (onHost_agree ((asked_agree _ _).bind fun _ =>
        .of_keeps ((Exec.Keeps.lift _).bind fun _ => .pure _))).map
  | searchMenu => exact .of_keeps (.raise _)
  | refreshMenu => exact absurd reads id
  | librarySubMenu title page => exact (Agree.of_keeps (.gets _)).map
  | showSongs title shuffle page =>
      exact (onHost_agree (.of_keeps (showSongs_filled title shuffle page))).map
  | getTrackList name type =>
      exact .of_keeps ((Exec.Keeps.gets _).bind fun _ => (Exec.Keeps.lift _).bind fun _ => .pure _)
  | getPlaylistContents name id =>
      exact (onHost_agree ((getAllUserPlaylistContents_agree id).bind fun _ => .of_keeps
        ((Exec.Keeps.gets _).bind fun _ => (Exec.Keeps.lift _).bind fun _ => .pure _))).map
  | getSharedPlaylist name token =>
      exact (onHost_agree ((asked_agree _ _).bind fun _ => .of_keeps
        ((Exec.Keeps.gets _).bind fun _ => (Exec.Keeps.lift _).bind fun _ => .pure _))).map
  | getStationTracks name id => exact (onHost_agree (getStationTracks_agree name _)).map
  | addToCollection song playlist type => exact absurd reads id
  | getTrack song key includeContainer =>
      exact .of_keeps ((Exec.Keeps.gets _).bind fun _ => (Exec.Keeps.lift _).bind fun _ => .pure _)
  | playAudio id storeId ext => exact (onHost_agree (.of_keeps (playAudio_filled _ _))).map

def Link.Reads : Link → Prop
  | .menu callback => callback.Reads
  | _ => True

theorem serve_agree {link : Link} (reads : link.Reads) : Agree (Plugin.Filled which)
    (serve (client.relisted listings which) random now link) (serve client random now link) := by
  cases link with
  | menu callback => exact serveMenu_agree reads
  | genresSubMenu name id children => exact .of_keeps (.pure _)
  | addItemMenu song =>
      exact .of_keeps ((Exec.Keeps.gets _).bind fun _ => (Exec.Keeps.lift _).bind fun _ => .pure _)
  | createStation id =>
      exact (onHost_agree ((reply_agree _ _ _).bind fun station => getStationTracks_agree _ station)).map
  | getArtistInfo name id =>
      exact (onHost_agree ((reply_agree _ _ _).bind fun _ => .of_keeps
        ((Exec.Keeps.lift _).bind fun _ => (Exec.Keeps.lift _).bind fun _ => .pure _))).map
  | getAlbumInfo name id =>
      exact (onHost_agree ((reply_agree _ _ _).bind fun _ => .of_keeps
        ((Exec.Keeps.lift _).bind fun _ => (Exec.Keeps.lift _).bind fun _ =>
          (Exec.Keeps.gets _).bind fun _ => (Exec.Keeps.lift _).bind fun _ => .pure _))).map

theorem search_agree (order : Iteration) (query : String) : Agree (Plugin.Filled which)
    (Answer.store <$> onHost (searchMenu (client.relisted listings which) search order query))
    (Answer.store <$> onHost (searchMenu client search order query)) :=
  (onHost_agree (searchMenu_agree order query)).map

theorem serve_filled {link : Link} (reads : link.Reads) :
    (serve client random now link).Keeps (Plugin.Filled which) := by
  have agree : Agree (Plugin.Filled which) (serve (client.relisted client.listings which) random now link)
    (serve client random now link) := serve_agree reads
  exact agree.keeps

theorem search_filled (order : Iteration) (query : String) :
    (Answer.store <$> onHost (searchMenu client search order query)).Keeps (Plugin.Filled which) := by
  have agree : Agree (Plugin.Filled which)
    (Answer.store <$> onHost (searchMenu (client.relisted client.listings which) search order query))
    (Answer.store <$> onHost (searchMenu client search order query)) := search_agree order query
  exact agree.keeps

theorem loadAsync_filled : (loadAsync client).Keeps (Host.Filled which) := by
  have agree : Agree (Host.Filled which) (loadAsync (client.relisted client.listings which))
    (loadAsync client) := loadAsync_agree
  exact agree.keeps

/-- Also a handler that resets the library asks for none of the four lists. -/
theorem serve_same (link : Link) (held : plugin.Filled which) :
    (serve (client.relisted listings which) random now link).run plugin =
      (serve client random now link).run plugin := by
  by_cases reads : link.Reads
  · exact (serve_agree reads plugin held).1
  · cases link with
    | menu callback =>
        cases callback with
        | refreshMenu => rfl
        | addToCollection id playlist type => rfl
        | _ => exact absurd trivial reads
    | _ => exact absurd trivial reads

end Handlers

section Turns

variable {client : Mobileclient σ} {search : Search σ} {listings : Listings σ} {which : Cache → Bool}
variable {visitor next : Visitor σ} {label : Turn}

theorem queuedStep_same (held : visitor.plugin.Filled which) :
    queuedStep (client.relisted listings which) .loadAsync visitor.plugin =
      queuedStep client .loadAsync visitor.plugin := by
  cases waiting : visitor.plugin.threads with
  | zero => simp only [queuedStep, waiting]
  | succ pending =>
      simp only [queuedStep, waiting, Option.some.injEq]
      have agree : Agree (Plugin.Filled which) (onHost (loadAsync (client.relisted listings which)))
        (onHost (loadAsync client)) := onHost_agree loadAsync_agree
      rw [Exec.final, Exec.final, (agree { visitor.plugin with threads := pending } held).1]

theorem turn_same (label : Turn) (visitor : Visitor σ) (held : visitor.plugin.Filled which) :
    (visiting (client.relisted listings which) search).step label visitor =
      (visiting client search).step label visitor := by
  cases label with
  | mainMenu now later email password => rfl
  | follow link random now =>
      simp only [visiting, turn]
      rw [Visitor.opens_same (serve_same link held)]
  | search order query =>
      simp only [visiting, turn]
      rw [Visitor.opens_same (search_agree order query visitor.plugin held).1]
  | loadAsync =>
      simp only [visiting, turn]
      rw [queuedStep_same held]

theorem shown_same (label : Turn) (visitor : Visitor σ) (held : visitor.plugin.Filled which) :
    shown (client.relisted listings which) search label visitor =
      shown client search label visitor := by
  cases label with
  | mainMenu now later email password => rfl
  | follow link random now => rw [shown, shown, serve_same link held]
  | search order query => rw [shown, shown, (search_agree order query visitor.plugin held).1]
  | loadAsync => rfl

theorem mainMenu_filled {now later : Int} {email password : String} {plugin : Plugin σ Nat}
    (held : plugin.Filled which) (fresh : ¬ now > plugin.refresh + twoHours) :
    ((mainMenu (.queued client) now later email password).final plugin).Filled which := by
  rw [mainMenu_final, expire, if_neg fresh, Plugin.Filled]
  rcases signIn_host client email password plugin with same | tried
  · rw [same]
    exact held
  · rw [tried]
    exact authenticate_filled [email, password] plugin.host held

theorem addToCollection_filled {id : String} {playlist : Option String} {type now : Int}
    {plugin : Plugin σ Nat} (held : plugin.Filled which)
    (failed : ¬ ∃ item, (addItem client id playlist type).Returns plugin.host item) :
    ((addToCollection (.queued client) id playlist type now).final plugin).Filled which := by
  have outcome := addToCollection_outcome (.queued client) id playlist type now plugin
  generalize (addToCollection (.queued client) id playlist type now).final plugin = after at outcome
  cases outcome with
  | answered returned => exact absurd returned failed
  | raised failed =>
      change ((addItem client id playlist type).final plugin.host).api.Filled which
      rw [addItem_api]
      exact held

theorem follow_filled {link : Link} {random : Shuffle Song} {now : Int} (held : visitor.plugin.Filled which)
    (lasts : Lasts client (.follow link random now) visitor) :
    ((serve client random now link).final visitor.plugin).Filled which := by
  by_cases reads : link.Reads
  · exact serve_filled reads visitor.plugin held
  · cases link with
    | menu callback =>
        cases callback with
        | refreshMenu => exact absurd lasts id
        | addToCollection id playlist type =>
            rw [serve, serveMenu, Exec.final_map]
            exact addToCollection_filled held lasts
        | _ => exact absurd trivial reads
    | _ => exact absurd trivial reads

theorem turn_filled (held : visitor.plugin.Filled which)
    (step : (visiting client search).step label visitor = some next) (lasts : Lasts client label visitor) :
    next.plugin.Filled which := by
  cases label with
  | mainMenu now later email password =>
      cases step
      rw [Visitor.opens_plugin, Exec.final_map]
      exact mainMenu_filled held lasts
  | follow link random now =>
      simp only [visiting, turn] at step
      split at step
      · cases step
        rw [Visitor.opens_plugin]
        exact follow_filled held lasts
      · cases step
  | search order query =>
      simp only [visiting, turn] at step
      split at step
      · cases step
        rw [Visitor.opens_plugin]
        exact search_filled order query visitor.plugin held
      · cases step
  | loadAsync =>
      simp only [visiting, turn, Option.map_eq_some_iff] at step
      obtain ⟨plugin, ran, rfl⟩ := step
      obtain ⟨_, _, left⟩ := queuedStep_loadAsync ran
      rw [Plugin.Filled, left]
      exact loadAsync_filled visitor.plugin.host held

end Turns

/-- While nothing resets the library, a visitor cannot tell what the service would answer
to the requests behind the caches that are in use: not from the screens, and not from what
becomes of the plugin. -/
theorem filled_caches_suffice (client : Mobileclient σ) (search : Search σ) (listings : Listings σ)
    (which : Cache → Bool) (visitor : Visitor σ) (turns : List Turn)
    (filled : visitor.plugin.api.Filled which)
    (lasts : (visiting client search).Admits (Lasts client) turns visitor) :
    (visiting (client.relisted listings which) search).outputs
        (shown (client.relisted listings which) search) turns visitor =
      (visiting client search).outputs (shown client search) turns visitor ∧
    (visiting (client.relisted listings which) search).run turns visitor =
      (visiting client search).run turns visitor :=
  ⟨System.outputs_agree turn_same shown_same turn_filled filled lasts,
    System.run_agree turn_same turn_filled filled lasts⟩

/-- A visitor whose plugin has cached the playlists and the stations of the account. -/
def tunedIn : Visitor Account where
  plugin := { Plugin.start Account.sample 0 with
    host := {
      api := { playlists := Account.sample.playlists, stations := Account.sample.stations }
      service := Account.sample } }
  links := [.menu .stationsMenu, .menu (.playlistsMenu none)]

/-- A client whose every list has become unavailable. -/
def unlisted : Mobileclient Account :=
  { accountService with toEndpoints := Endpoints.unavailable }

def twoLists (cache : Cache) : Bool := cache = .stations ∨ cache = .playlists

def tuning : List Turn :=
  [.mainMenu 0 0 "user" "secret", .follow (.menu .stationsMenu) .identity 0, .loadAsync,
    .follow (.menu (.playlistsMenu none)) .identity 0,
    .follow (.menu (.getPlaylistContents "Mix" "p")) .identity 0]

theorem tunedIn_needs_no_lists :
    ((visiting (accountService.relisted unlisted.listings twoLists)
          fun _ _ => Exec.raise .typeError).outputs
        (shown (accountService.relisted unlisted.listings twoLists)
          fun _ _ => Exec.raise .typeError) tuning tunedIn =
      (visiting accountService fun _ _ => Exec.raise .typeError).outputs
        (shown accountService fun _ _ => Exec.raise .typeError) tuning tunedIn ∧
    (visiting (accountService.relisted unlisted.listings twoLists)
        fun _ _ => Exec.raise .typeError).run tuning tunedIn =
      (visiting accountService fun _ _ => Exec.raise .typeError).run tuning tunedIn) ∧
    ((visiting accountService fun _ _ => Exec.raise .typeError).run tuning tunedIn).isSome = true := by
  refine ⟨filled_caches_suffice accountService (fun _ _ => Exec.raise .typeError) unlisted.listings
    twoLists tunedIn tuning ?_ ?_, rfl⟩
  · exact ⟨fun used => by simp [twoLists] at used, fun _ => by simp [tunedIn, Plugin.api, Account.sample],
      fun used => by simp [twoLists] at used, fun _ => by simp [tunedIn, Plugin.api, Account.sample]⟩
  · intro next step
    refine ⟨by simp [Lasts, tunedIn, Plugin.start, twoHours], fun next step => ⟨trivial, ?_⟩⟩
    exact fun next step => ⟨trivial, fun next step => ⟨trivial, fun next step => ⟨trivial, trivial⟩⟩⟩

end GoogleMusic
