import GoogleMusic.Menus.Playlists
import GoogleMusic.Schedules.Queued
import Mathlib.Data.List.Perm.Basic

/-! # Playlists and stations of an account

The service is a party that holds an account.  The plugin keeps three lists of it, each
filled by the first reader that finds it empty and emptied by a refresh alone, and a
run here mixes the readers with every handler that writes to the account.
-/

namespace GoogleMusic

open Foundation Host Plugin

variable {σ α : Type}

/-- What the menus show of an account. -/
structure Account where
  playlists : List Playlist
  entries : List PlaylistEntry
  stations : List Station

namespace Account

variable {account after : Account} {id : String}

def entriesOf (account : Account) (id : String) : List PlaylistEntry :=
  sortedBy PlaylistEntry.absolutePosition
    (account.entries.filter fun entry => entry.playlistId = some id)

def userGenerated (playlist : Playlist) : Bool :=
  playlist.type = some "USER_GENERATED" || playlist.type ≠ some "SHARED" || playlist.type.isNone

/-- The vendored `get_all_user_playlist_contents`. -/
def userPlaylistContents (account : Account) : List PlaylistContents :=
  (account.playlists.filter userGenerated).map fun playlist =>
    { toPlaylist := playlist, tracks := account.entriesOf playlist.id }

theorem userGenerated_iff {playlist : Playlist} :
    userGenerated playlist = true ↔ playlist.type ≠ some "SHARED" := by
  cases type : playlist.type with
  | none => simp [userGenerated, type]
  | some name =>
      simp only [userGenerated, type, Option.isNone_some, Bool.or_false, Bool.or_eq_true,
        decide_eq_true_eq, Option.some.injEq, ne_eq]
      constructor
      · rintro (rfl | other)
        · decide
        · exact other
      · exact Or.inr

/-- The vendored method lists the entries under this id, if there are any: it skips the
playlists that are shared with the user. -/
def Covers (account : Account) (id : String) : Prop :=
  (∃ playlist ∈ account.playlists, playlist.type ≠ some "SHARED" ∧ playlist.id = id) ∨
    account.entriesOf id = []

theorem userPlaylistContents_congr (playlists : after.playlists = account.playlists)
    (entries : after.entries = account.entries) :
    after.userPlaylistContents = account.userPlaylistContents := by
  simp only [userPlaylistContents, entriesOf, playlists, entries]

theorem tracksOfPlaylist_map (account : Account) (id : String) (playlists : List Playlist) :
    tracksOfPlaylist id (playlists.map fun playlist =>
      { toPlaylist := playlist, tracks := account.entriesOf playlist.id }) =
      if ∃ playlist ∈ playlists, playlist.id = id then account.entriesOf id else [] := by
  induction playlists with
  | nil => simp [tracksOfPlaylist]
  | cons playlist playlists ih =>
      by_cases same : id = playlist.id
      · simp [tracksOfPlaylist, same]
      · simp [tracksOfPlaylist, same, Ne.symm same, ih]

/-- A playlist without entries and an id without a playlist look the same. -/
theorem tracksOfPlaylist_contents_iff (account : Account) (id : String) :
    tracksOfPlaylist id account.userPlaylistContents = account.entriesOf id ↔ account.Covers id := by
  have own : (∃ playlist ∈ account.playlists.filter userGenerated, playlist.id = id) ↔
      ∃ playlist ∈ account.playlists, playlist.type ≠ some "SHARED" ∧ playlist.id = id := by
    simp only [List.mem_filter, userGenerated_iff, and_assoc]
  rw [userPlaylistContents, tracksOfPlaylist_map, Covers]
  simp only [own]
  split
  · rename_i listed
    exact iff_of_true rfl (Or.inl listed)
  · rename_i absent
    rw [or_iff_right absent, eq_comm]

end Account

section Contract

variable (account : σ → Account)

def LeavesAccount (request : Exec σ Raised α) : Prop :=
  ∀ state, account (request.final state) = account state

structure ReadsAccount (request : Exec σ Raised α) (part : Account → α) : Prop where
  leaves : LeavesAccount account request
  current : ∀ state value, request.Returns state value → value = part (account state)

def AllOrNothing (request : Exec σ Raised α) : Prop :=
  ∀ state, (∃ value, request.Returns state value) ∨ account (request.final state) = account state

/-- The client's service holds the account, and only the requests that write to it
change it. -/
structure Serves (client : Mobileclient σ) : Prop where
  login : ∀ email password, LeavesAccount account (client.login email password)
  devices : LeavesAccount account client.getRegisteredDevices
  songs : LeavesAccount account client.getAllSongs
  stationTracks : ∀ id count, LeavesAccount account (client.getStationTracks id count)
  playlists : ReadsAccount account client.getAllPlaylists Account.playlists
  contents : ReadsAccount account client.getAllUserPlaylistContents Account.userPlaylistContents
  stations : ReadsAccount account client.getAllStations Account.stations
  addTrack : ∀ id, AllOrNothing account (client.addAaTrack id)
  addSongs : ∀ playlist id, AllOrNothing account (client.addSongsToPlaylist playlist id)
  createStation : ∀ name id, AllOrNothing account (client.createStation name id)
  onlyStations : ∀ name id state,
    (account ((client.createStation name id).final state)).playlists = (account state).playlists ∧
    (account ((client.createStation name id).final state)).entries = (account state).entries

end Contract

def Current (cached : List α) (part : Account → List α) (account : Account) : Prop :=
  cached = [] ∨ cached = part account

structure Coherent (account : σ → Account) (host : Host σ) : Prop where
  playlists : Current host.api.playlists Account.playlists (account host.service)
  contents : Current host.api.playlistContents Account.userPlaylistContents (account host.service)
  stations : Current host.api.stations Account.stations (account host.service)

structure GMusic.SameCaches (before after : GMusic) : Prop where
  playlists : after.playlists = before.playlists
  contents : after.playlistContents = before.playlistContents
  stations : after.stations = before.stations

section Caches

variable {client : Mobileclient σ} {account : σ → Account} {host after : Host σ}

theorem Coherent.of_same (coherent : Coherent account host)
    (caches : GMusic.SameCaches host.api after.api)
    (same : account after.service = account host.service) : Coherent account after where
  playlists := by rw [caches.playlists, same]; exact coherent.playlists
  contents := by rw [caches.contents, same]; exact coherent.contents
  stations := by rw [caches.stations, same]; exact coherent.stations

theorem resetLibrary_coherent (account : σ → Account) (host : Host σ) :
    Coherent account { host with api := host.api.resetLibrary } :=
  ⟨Or.inl rfl, Or.inl rfl, Or.inl rfl⟩

theorem keeps_onService {request : Exec σ Raised α} (leaves : LeavesAccount account request) :
    (onService request).Keeps (Coherent account) := fun host coherent =>
  coherent.of_same ⟨rfl, rfl, rfl⟩ (leaves host.service)

theorem keeps_withRelogin {β : Type} {attempt : Exec (Host σ) Raised β} {fallback : β}
    (kept : attempt.Keeps (Coherent account)) :
    (withRelogin client attempt fallback).Keeps (Coherent account) := fun host coherent => by
  rw [withRelogin_final]
  exact kept host coherent

theorem keeps_cachedList {endpoint : Exec σ Raised (List α)} {part : Account → List α}
    {read : GMusic → List α} {write : List α → GMusic → GMusic}
    (reads : ReadsAccount account endpoint part)
    (fills : ∀ host, Coherent account host →
      Coherent account { host with api := write (part (account host.service)) host.api }) :
    (cachedList client endpoint read write).Keeps (Coherent account) := by
  refine cachedList_keeps (fun host values service answered coherent => ?_)
    (fun host reason service answered coherent => ?_)
  · have current := reads.current host.service values (by rw [Exec.Returns, answered])
    have leaves := reads.leaves host.service
    rw [Exec.final, answered] at leaves
    subst current
    exact (fills host coherent).of_same ⟨rfl, rfl, rfl⟩ leaves
  · have leaves := reads.leaves host.service
    rw [Exec.final, answered] at leaves
    exact coherent.of_same ⟨rfl, rfl, rfl⟩ leaves

end Caches

section Handlers

variable {client : Mobileclient σ} {account : σ → Account} {host : Host σ}

theorem keeps_getAllPlaylists (serves : Serves account client) :
    (getAllPlaylists client).Keeps (Coherent account) :=
  keeps_cachedList serves.playlists fun _ coherent =>
    ⟨Or.inr rfl, coherent.contents, coherent.stations⟩

theorem keeps_getAllUserPlaylistContents (serves : Serves account client) (id : String) :
    (getAllUserPlaylistContents client id).Keeps (Coherent account) :=
  getAllUserPlaylistContents_keeps id (keeps_cachedList serves.contents fun _ coherent =>
    ⟨coherent.playlists, Or.inr rfl, coherent.stations⟩)

theorem keeps_getAllStations (serves : Serves account client) :
    (getAllStations client).Keeps (Coherent account) :=
  keeps_cachedList serves.stations fun _ coherent =>
    ⟨coherent.playlists, coherent.contents, Or.inr rfl⟩

theorem keeps_playlistsMenu (serves : Serves account client) (id : Option String) :
    (playlistsMenu client id).Keeps (Coherent account) :=
  playlistsMenu_keeps (keeps_getAllPlaylists serves) id

theorem keeps_stationsMenu (serves : Serves account client) :
    (stationsMenu client).Keeps (Coherent account) :=
  stationsMenu_keeps (keeps_getAllStations serves)

theorem keeps_getPlaylistContents (serves : Serves account client) (name id : String) :
    (getPlaylistContents client name id).Keeps (Coherent account) :=
  getPlaylistContents_keeps name (keeps_getAllUserPlaylistContents serves id)

theorem keeps_getStationTracks (serves : Serves account client) (name : Text)
    (id : Reply String) : (Handlers.getStationTracks client name id).Keeps (Coherent account) :=
  getStationTracks_keeps name (keeps_withRelogin (keeps_onService (serves.stationTracks id 200)))

theorem keeps_authenticate (serves : Serves account client) (email password : String) :
    (authenticate client [email, password]).Keeps (Coherent account) := by
  intro host coherent
  obtain ⟨_, _, _, left⟩ := authenticate_api client [email, password] host
  have leaves := authenticate_keeps (fun service => account service = account host.service)
    client email password (fun service same => (serves.login email password service).trans same)
    (fun service same => (serves.devices service).trans same) host rfl
  exact coherent.of_same (by rw [left]; exact ⟨rfl, rfl, rfl⟩) leaves

theorem sameCaches_of_withoutMaps {before after : GMusic}
    (outside : after.withoutMaps = before.withoutMaps) : GMusic.SameCaches before after := by
  have playlists := congrArg GMusic.playlists outside
  have contents := congrArg GMusic.playlistContents outside
  have stations := congrArg GMusic.stations outside
  exact ⟨playlists, contents, stations⟩

theorem LoadOutcome.caches {outcome : Except Raised Unit} {after : GMusic}
    (ran : LoadOutcome client host outcome after) : GMusic.SameCaches host.api after := by
  cases ran with
  | refused empty answered => exact ⟨rfl, rfl, rfl⟩
  | indexed source fields filed indexes =>
      have same := sameCaches_of_withoutMaps filed.outside
      exact ⟨same.playlists, same.contents, same.stations⟩
  | broken source split defective filed =>
      have same := sameCaches_of_withoutMaps filed.outside
      exact ⟨same.playlists, same.contents, same.stations⟩

theorem keeps_loadAsync (serves : Serves account client) :
    (loadAsync client).Keeps (Coherent account) := by
  intro host coherent
  refine coherent.of_same (loadData_outcome client host).caches ?_
  change account ((loadData client).final host).service = account host.service
  rcases loadData_service client host with same | asked
  · rw [same]
  · rw [asked]
    exact serves.songs host.service

/-- A created station makes a cached station list stale, and no other list. -/
theorem createStation_coherent {id : String} (serves : Serves account client)
    (coherent : Coherent account host)
    (forgets : (∃ station, (client.createStation (prettify id) id).Returns host.service station) →
      host.api.stations = []) :
    Coherent account ((Handlers.createStation client id).final host) := by
  refine Exec.Keeps.after ?_ fun station => keeps_getStationTracks serves _ station
  rw [createStation, withRelogin_final, Exec.final_map]
  rcases serves.createStation (prettify id) id host.service with created | same
  · obtain ⟨playlists, entries⟩ := serves.onlyStations (prettify id) id host.service
    refine ⟨?_, ?_, Or.inl (forgets created)⟩
    · exact coherent.playlists.imp_right fun same => same.trans playlists.symm
    · exact coherent.contents.imp_right fun same =>
        same.trans (Account.userPlaylistContents_congr playlists entries).symm
  · exact coherent.of_same ⟨rfl, rfl, rfl⟩ same

theorem AllOrNothing.map {β γ : Type} {request : Exec σ Raised β} {read : β → γ}
    (whole : AllOrNothing account request) : AllOrNothing account (read <$> request) := by
  intro state
  rcases whole state with ⟨value, returned⟩ | same
  · obtain ⟨after, ran⟩ := Exec.returns_iff_run.mp returned
    exact Or.inl ⟨read value, by rw [Exec.Returns, Exec.run_map, ran]⟩
  · exact Or.inr (by rw [Exec.final_map, same])

theorem addItem_leaves {id : String} {playlist : Option String} {type : Int}
    (serves : Serves account client)
    (failed : ¬ ∃ item, (addItem client id playlist type).Returns host item) :
    account ((addItem client id playlist type).final host).service = account host.service := by
  have whole : AllOrNothing account (addAnswer client id playlist type) := by
    unfold addAnswer
    split
    · exact (serves.addTrack id).map
    · exact (serves.addSongs playlist id).map
  rw [Exec.final, addItem_run]
  rcases whole host.service with ⟨item, returned⟩ | same
  · refine absurd ⟨item, ?_⟩ failed
    rw [Exec.Returns, addItem_run, returned]
    rfl
  · exact same

end Handlers

inductive AccountRequest where
  | playlistsMenu (id : Option String)
  | getPlaylistContents (name id : String)
  | stationsMenu
  | createStation (id : String)
  | library (request : Request)
deriving DecidableEq

def accountStep (client : Mobileclient σ) : AccountRequest → Plugin σ Nat → Option (Plugin σ Nat)
  | .playlistsMenu id, plugin => some ((onHost (playlistsMenu client id)).final plugin)
  | .getPlaylistContents name id, plugin =>
      some ((onHost (getPlaylistContents client name id)).final plugin)
  | .stationsMenu, plugin => some ((onHost (stationsMenu client)).final plugin)
  | .createStation id, plugin => some ((onHost (Handlers.createStation client id)).final plugin)
  | .library request, plugin => queuedStep client request plugin

def accountSystem (client : Mobileclient σ) : System (Plugin σ Nat) AccountRequest where
  step := accountStep client

/-- The answer to a request that reads the account shows what the account holds then. -/
def ShowsAccount (client : Mobileclient σ) (account : σ → Account) :
    AccountRequest → Plugin σ Nat → Prop
  | .playlistsMenu id, plugin => ∀ container, (playlistsMenu client id).Returns plugin.host container →
      ∃ order, order.Perm (account plugin.host.service).playlists ∧
        List.Forall₂ (ShowsPlaylist id) order container.objects
  | .getPlaylistContents name id, plugin =>
      ∀ container, (getPlaylistContents client name id).Returns plugin.host container →
        List.Forall₂ ShowsEntry ((account plugin.host.service).entriesOf id) container.objects
  | .stationsMenu, plugin => ∀ container, (stationsMenu client).Returns plugin.host container →
      ∃ order rows, order.Perm (account plugin.host.service).stations ∧
        container.objects = luckyRadio :: rows ∧ List.Forall₂ ShowsStation order rows
  | .createStation _, _ => True
  | .library _, _ => True

/-- A playlist is opened only where the vendored client lists its entries, and a station is
created only while no station list is cached. -/
def AccountedFor (client : Mobileclient σ) (account : σ → Account) :
    AccountRequest → Plugin σ Nat → Prop
  | .getPlaylistContents _ id, plugin => (account plugin.host.service).Covers id
  | .createStation id, plugin =>
      (∃ station, (client.createStation (prettify id) id).Returns plugin.host.service station) →
      plugin.api.stations = []
  | _, _ => True

section Steps

variable {client : Mobileclient σ} {account : σ → Account} {plugin next : Plugin σ Nat}

theorem signIn_coherent {email password : String} (serves : Serves account client)
    (coherent : Coherent account plugin.host) :
    Coherent account (plugin.signIn (.queued client) email password).host := by
  rcases signIn_host client email password plugin with same | tried
  · rw [same]
    exact coherent
  · rw [tried]
    exact keeps_authenticate serves email password plugin.host coherent

theorem queuedStep_coherent {request : Request} (serves : Serves account client)
    (coherent : Coherent account plugin.host)
    (step : queuedStep client request plugin = some next) : Coherent account next.host := by
  cases request with
  | mainMenu now later email password =>
      simp only [queuedStep, mainMenu_final, Option.some.injEq] at step
      subst step
      apply signIn_coherent serves
      unfold expire
      split
      · exact resetLibrary_coherent account plugin.host
      · exact coherent
  | refreshMenu now =>
      simp only [queuedStep, refreshMenu_final, Option.some.injEq] at step
      subst step
      exact resetLibrary_coherent account plugin.host
  | addToCollection id playlist type now =>
      simp only [queuedStep, Option.some.injEq] at step
      have outcome := addToCollection_outcome (.queued client) id playlist type now plugin
      rw [step] at outcome
      cases outcome with
      | answered returned => exact resetLibrary_coherent account _
      | raised failed =>
          have api := addItem_api client id playlist type plugin.host
          exact coherent.of_same (by rw [Runtime.queued, api]; exact ⟨rfl, rfl, rfl⟩)
            (addItem_leaves serves failed)
  | librarySubMenu title page =>
      simp only [queuedStep, Option.some.injEq] at step
      subst step
      exact coherent
  | loadAsync =>
      obtain ⟨_, _, ran⟩ := queuedStep_loadAsync step
      rw [ran]
      exact keeps_loadAsync serves plugin.host coherent

theorem accountStep_coherent {label : AccountRequest} (serves : Serves account client)
    (coherent : Coherent account plugin.host)
    (step : (accountSystem client).step label plugin = some next)
    (met : AccountedFor client account label plugin) : Coherent account next.host := by
  cases label with
  | library request => exact queuedStep_coherent serves coherent step
  | playlistsMenu id =>
      cases step
      exact keeps_playlistsMenu serves id plugin.host coherent
  | getPlaylistContents name id =>
      cases step
      exact keeps_getPlaylistContents serves name id plugin.host coherent
  | stationsMenu =>
      cases step
      exact keeps_stationsMenu serves plugin.host coherent
  | createStation id =>
      cases step
      exact createStation_coherent serves coherent met

theorem Coherent.playlistsMenu_shows {id : Option String} {container : ObjectContainer}
    (serves : Serves account client) (coherent : Coherent account plugin.host)
    (returned : (playlistsMenu client id).Returns plugin.host container) :
    ∃ order, order.Perm (account plugin.host.service).playlists ∧
      List.Forall₂ (ShowsPlaylist id) order container.objects := by
  obtain ⟨after, ran⟩ := Exec.returns_iff_run.mp returned
  obtain ⟨playlists, middle, listed, rest⟩ := Exec.bind_returned ran
  obtain ⟨rows, last, read, made⟩ := Exec.bind_returned rest
  have same := cachedList_expected (serves.playlists.current _) coherent.playlists listed
  subst same
  cases made
  have shown := (mapM_eq_ok_iff.mp (congrArg Prod.fst read)).imp fun _ _ => playlistRow_shows
  have sorted : (sortedBy MenuObject.literalTitle rows).Perm rows := sortedBy_perm
  obtain ⟨order, pairs, perm⟩ := List.perm_comp_forall₂ sorted shown.flip
  exact ⟨order, perm, pairs.flip⟩

/-- The entries in the cache are those the vendored client has found under the id. -/
theorem Coherent.getPlaylistContents_found {name id : String} {container : ObjectContainer}
    (serves : Serves account client) (coherent : Coherent account plugin.host)
    (returned : (getPlaylistContents client name id).Returns plugin.host container) :
    List.Forall₂ ShowsEntry
      (tracksOfPlaylist id (account plugin.host.service).userPlaylistContents) container.objects := by
  obtain ⟨after, ran⟩ := Exec.returns_iff_run.mp returned
  obtain ⟨tracks, middle, found, rest⟩ := Exec.bind_returned ran
  obtain ⟨contents, filled, listed, chosen⟩ := Exec.bind_returned found
  obtain ⟨api, same, got, rest⟩ := Exec.bind_returned rest
  obtain ⟨objects, last, read, made⟩ := Exec.bind_returned rest
  have current := cachedList_expected (serves.contents.current _) coherent.contents listed
  subst current
  cases chosen
  cases made
  have rows := mapM_eq_ok_iff.mp (congrArg Prod.fst read)
  exact rows.imp fun _ _ => contentsRow_shows

theorem Coherent.stationsMenu_shows {container : ObjectContainer}
    (serves : Serves account client) (coherent : Coherent account plugin.host)
    (returned : (stationsMenu client).Returns plugin.host container) :
    ∃ order rows, order.Perm (account plugin.host.service).stations ∧
      container.objects = luckyRadio :: rows ∧ List.Forall₂ ShowsStation order rows := by
  obtain ⟨after, ran⟩ := Exec.returns_iff_run.mp returned
  obtain ⟨stations, middle, listed, rest⟩ := Exec.bind_returned ran
  obtain ⟨recent, last, sorted, made⟩ := Exec.bind_returned rest
  have same := cachedList_expected (serves.stations.current _) coherent.stations listed
  subst same
  cases made
  refine ⟨recent, recent.map stationRow, recentStations_perm (congrArg Prod.fst sorted), rfl, ?_⟩
  rw [List.forall₂_map_right_iff, List.forall₂_same]
  exact fun station _ => stationRow_shows station

theorem Coherent.showsAccount {label : AccountRequest} (serves : Serves account client)
    (coherent : Coherent account plugin.host) (met : AccountedFor client account label plugin) :
    ShowsAccount client account label plugin := by
  cases label with
  | playlistsMenu id => exact fun container returned => coherent.playlistsMenu_shows serves returned
  | getPlaylistContents name id =>
      intro container returned
      have shown := coherent.getPlaylistContents_found serves returned
      rwa [(Account.tracksOfPlaylist_contents_iff _ _).mpr met] at shown
  | stationsMenu => exact fun container returned => coherent.stationsMenu_shows serves returned
  | createStation id => exact True.intro
  | library request => exact True.intro

theorem showsAccount_of_admits (serves : Serves account client) (service : σ) (now : Int)
    (labels : List AccountRequest)
    (admitted : (accountSystem client).Admits (AccountedFor client account) labels
      (Plugin.start service now)) :
    (accountSystem client).Admits (ShowsAccount client account) labels (Plugin.start service now) :=
  have started : Coherent account (Plugin.start service now).host :=
    ⟨Or.inl rfl, Or.inl rfl, Or.inl rfl⟩
  System.admits_of_keeps (fun plugin => Coherent account plugin.host)
    (fun coherent step met => accountStep_coherent serves coherent step met)
    (fun coherent met => coherent.showsAccount serves met) started admitted

end Steps

section Exact

variable {client : Mobileclient σ} {account : σ → Account} {plugin : Plugin σ Nat}
variable {container : ObjectContainer}

/-- A playlist that the vendored client leaves out opens without its entries. -/
theorem uncovered_entries_missing {name id : String} (serves : Serves account client)
    (coherent : Coherent account plugin.host)
    (uncovered : ¬ (account plugin.host.service).Covers id)
    (opens : (getPlaylistContents client name id).Returns plugin.host container) :
    ¬ ShowsAccount client account (.getPlaylistContents name id) plugin := by
  intro shows
  have found := coherent.getPlaylistContents_found serves opens
  have complete := shows container opens
  apply uncovered
  rw [← Account.tracksOfPlaylist_contents_iff]
  -- Without an own playlist of this id the client has no entries at all.
  rw [Account.userPlaylistContents, Account.tracksOfPlaylist_map] at found ⊢
  split at found
  · rename_i listed
    rw [if_pos listed]
  · rename_i absent
    rw [if_neg absent]
    have length := complete.length_eq.trans found.length_eq.symm
    exact (List.length_eq_zero_iff.mp length).symm

theorem createStation_api (client : Mobileclient σ) (id : String) (host : Host σ) :
    ((Handlers.createStation client id).final host).api = host.api := by
  let unwritten : Host σ → Prop := fun after => after.api = host.api
  have created : unwritten ((createStation client (prettify id) id).final host) := by
    rw [createStation, withRelogin_final, Exec.final_map]
    rfl
  refine Exec.Keeps.after created fun station => getStationTracks_keeps _ fun after same => ?_
  rw [getStationTracks, withRelogin_final]
  exact same

/-- A station menu over a filled cache shows as many stations as the cache has. -/
theorem stationsMenu_cached {host : Host σ} (cached : host.api.stations ≠ []) :
    (stationsMenu client).Returns host container ↔
      ∃ recent, recentStations host.api.stations = .ok recent ∧ container =
        { title2 := some (.label "Stations"), objects := luckyRadio :: recent.map stationRow } := by
  have filled : (getAllStations client).run host = (.ok host.api.stations, host) :=
    cachedList_filled cached
  simp only [Exec.Returns, stationsMenu, Exec.run_bind, filled, Exec.run_lift]
  cases sorted : recentStations host.api.stations with
  | error reason => simp
  | ok recent => simp [eq_comm]

/-- The station menu that could be opened before a creation can be opened after it, and
lacks the station. -/
theorem created_station_missing {id : String} (cached : plugin.api.stations ≠ [])
    (opens : (stationsMenu client).Returns plugin.host container)
    (created : (account ((Handlers.createStation client id).final plugin.host).service).stations.length ≠
      plugin.api.stations.length) :
    ¬ ShowsAccount client account .stationsMenu
      { plugin with host := (Handlers.createStation client id).final plugin.host } := by
  intro shows
  have api := createStation_api client id plugin.host
  have still : (stationsMenu client).Returns ((Handlers.createStation client id).final plugin.host)
      container := by
    rw [stationsMenu_cached (by rw [api]; exact cached), api]
    exact (stationsMenu_cached cached).mp opens
  obtain ⟨recent, sorted, rfl⟩ := (stationsMenu_cached cached).mp opens
  obtain ⟨order, rows, same, shown, pairs⟩ := shows _ still
  cases shown
  have length := pairs.length_eq
  rw [same.length_eq, List.length_map, (recentStations_perm sorted).length_eq] at length
  exact created length

end Exact

/-- In a run whose requests are all accounted for, every answer shows the account's
playlists, entries and stations as they are then. -/
theorem always_showsAccount (client : Mobileclient σ) (account : σ → Account)
    (serves : Serves account client) (service : σ) (now : Int) (labels : List AccountRequest)
    (admitted : (accountSystem client).Admits (AccountedFor client account) labels
      (Plugin.start service now)) :
    (accountSystem client).Admits (ShowsAccount client account) labels (Plugin.start service now) :=
  showsAccount_of_admits serves service now labels admitted

/-- A service that is nothing but its account. -/
def accountService : Mobileclient Account where
  toEndpoints := { Endpoints.unavailable with
    getRegisteredDevices := pure []
    getAllPlaylists := Exec.gets Account.playlists
    getAllUserPlaylistContents := Exec.gets Account.userPlaylistContents
    getAllStations := Exec.gets Account.stations
    getStationTracks _ _ := pure []
    createStation name id := do
      Exec.modify fun account => { account with
        stations := account.stations ++
          [{ id := "station-" ++ id, name, recentTimestamp := some "1" }] }
      pure ("station-" ++ id)
    addSongsToPlaylist playlist id := do
      Exec.modify fun account => { account with
        entries := account.entries ++
          [{ id := "entry-" ++ id, trackId := id, playlistId := playlist, absolutePosition := "1",
             track := some { Song.sample with id := some id } }] }
      pure (some ["entry-" ++ id]) }
  login _ _ := pure true

theorem accountService_serves : Serves id accountService where
  login _ _ _ := rfl
  devices _ := rfl
  songs _ := rfl
  stationTracks _ _ _ := rfl
  playlists := ⟨fun _ => rfl, fun _ _ returned => by cases returned; rfl⟩
  contents := ⟨fun _ => rfl, fun _ _ returned => by cases returned; rfl⟩
  stations := ⟨fun _ => rfl, fun _ _ returned => by cases returned; rfl⟩
  addTrack _ _ := Or.inr rfl
  addSongs _ _ _ := Or.inl ⟨_, rfl⟩
  createStation _ _ _ := Or.inl ⟨_, rfl⟩
  onlyStations _ _ _ := ⟨rfl, rfl⟩

/-- A playlist of the user's own with one entry, one that is shared with the user, and a
station. -/
def Account.sample : Account where
  playlists := [{ id := "p", name := "Mix", type := some "USER_GENERATED" },
    { id := "q", name := "Charts", type := some "SHARED", shareToken := some "token" }]
  entries := [{ id := "e", trackId := "1", playlistId := some "p", absolutePosition := "0",
                track := some Song.sample }]
  stations := [{ id := "1", name := "Radio", recentTimestamp := some "0" }]

/-- An entry that is added behind an open playlist, and a station that is created before
the first station menu. -/
def Account.errands : List AccountRequest :=
  [.library (.mainMenu 0 0 "user" "secret"), .playlistsMenu none, .getPlaylistContents "Mix" "p",
    .library (.addToCollection "7" (some "p") 1 0), .getPlaylistContents "Mix" "p",
    .createStation "ROCK", .stationsMenu]

theorem errands_accountedFor :
    (accountSystem accountService).Admits (AccountedFor accountService id) Account.errands
      (Plugin.start Account.sample 0) := by
  have own : ∃ playlist ∈ Account.sample.playlists,
      playlist.type ≠ some "SHARED" ∧ playlist.id = "p" :=
    ⟨_, List.mem_cons_self, by decide, rfl⟩
  exact .step rfl True.intro (.step rfl True.intro (.step rfl (Or.inl own) (.step rfl True.intro
    (.step rfl (Or.inl own) (.step rfl (fun _ => rfl) (.step rfl True.intro True.intro))))))

/-- The added entry is there when the playlist is opened again, and the created station in
the menu. -/
theorem showsAccount_of_errands :
    (accountSystem accountService).Admits (ShowsAccount accountService id) Account.errands
        (Plugin.start Account.sample 0) ∧
      (∃ plugin container, (accountSystem accountService).run (Account.errands.take 4)
          (Plugin.start Account.sample 0) = some plugin ∧
        (getPlaylistContents accountService "Mix" "p").Returns plugin.host container ∧
        container.objects.length = 2) ∧
      ∃ plugin container, (accountSystem accountService).run (Account.errands.take 6)
          (Plugin.start Account.sample 0) = some plugin ∧
        (stationsMenu accountService).Returns plugin.host container ∧
        container.objects.length = 3 :=
  ⟨always_showsAccount accountService id accountService_serves Account.sample 0 Account.errands
    errands_accountedFor, ⟨_, _, rfl, rfl, rfl⟩, ⟨_, _, rfl, rfl, rfl⟩⟩

/-- A station created behind an open station menu is missing when it is opened again. -/
theorem created_station_not_shown : Serves id accountService ∧
    ¬ (accountSystem accountService).Admits (ShowsAccount accountService id)
      [.library (.mainMenu 0 0 "user" "secret"), .stationsMenu, .createStation "ROCK", .stationsMenu]
      (Plugin.start Account.sample 0) := by
  refine ⟨accountService_serves, fun admits => ?_⟩
  have shows := admits.taken [_, _, _] rfl rfl
  obtain ⟨order, rows, same, shown, pairs⟩ := shows _ rfl
  cases shown
  exact absurd (same.length_eq.symm.trans pairs.length_eq) (by decide)

end GoogleMusic
