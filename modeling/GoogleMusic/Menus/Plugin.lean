import GoogleMusic.Api.Indexing
import GoogleMusic.Menus.Objects

/-! # The plugin and its state-changing handlers

The plugin is the API object, the time of the last refresh, and whatever the
framework keeps of the threads it was asked to create.  `Thread.Create` is a
parameter: it may queue the job, run it on the spot, or start it in stages.
-/

namespace GoogleMusic

open Foundation Host

structure Plugin (σ τ : Type) where
  host : Host σ
  /-- `Dict['refresh']`, in microseconds. -/
  refresh : Int
  threads : τ

structure Runtime (σ τ : Type) where
  client : Mobileclient σ
  createThread : Plugin σ τ → Plugin σ τ

variable {σ τ α : Type}

namespace Plugin

def api (plugin : Plugin σ τ) : GMusic := plugin.host.api

def onHost (body : Exec (Host σ) Raised α) : Exec (Plugin σ τ) Raised α :=
  Exec.zoom host (fun host plugin => { plugin with host }) body

end Plugin

open Plugin

def twoHours : Int := 7200 * 1000000

def loadAsync (client : Mobileclient σ) : Exec (Host σ) Raised Unit := loadData client

/-- `HTTP.ClearCache()` concerns a cache of the framework that no request of the
vendored client goes through. -/
def libraryRefresh (runtime : Runtime σ τ) (now : Int) (plugin : Plugin σ τ) : Plugin σ τ :=
  runtime.createThread
    { plugin with
      refresh := now
      host := { plugin.host with api := plugin.api.resetLibrary } }

def mainMenuObjects (api : GMusic) : List MenuObject :=
  (if api.authenticated then
    [.directory .libraryMenu (.label "My Library") none,
      .directory (.playlistsMenu none) (.label "Playlists") none,
      .directory .stationsMenu (.label "Stations") none] ++
    (if api.allAccess then
      [.directory .genresMenu (.label "Genres") none,
        .inputDirectory .searchMenu (.label "Search") (.label "Search Prompt")
          (.resource "icon-search.png")]
    else [])
  else []) ++
  [.directory .refreshMenu (.label "Refresh") none,
    .prefs (.label "Prefs Title") (.resource "icon-prefs.png")]

/-- `now` is the clock reading of the test and `later` the one `LibraryRefresh` takes;
`email` and `password` are the preferences. -/
def mainMenu (runtime : Runtime σ τ) (now later : Int) (email password : String) :
    Exec (Plugin σ τ) Raised ObjectContainer := do
  let refresh ← Exec.gets Plugin.refresh
  Exec.when (now > refresh + twoHours) (Exec.modify (libraryRefresh runtime later))
  let api ← Exec.gets Plugin.api
  Exec.when (api.authenticated == false && email != "" && password != "") do
    let _ ← onHost (authenticate runtime.client [email, password])
    Exec.modify runtime.createThread
  let api ← Exec.gets Plugin.api
  pure { title2 := some (.label "Title"), objects := mainMenuObjects api }

def refreshMenu (runtime : Runtime σ τ) (now : Int) : Exec (Plugin σ τ) Raised ObjectContainer := do
  Exec.modify (libraryRefresh runtime now)
  pure (.notice "Refresh" "RefreshInProgress")

/-- The item an add comes back with, as far as `AddToCollection` looks at it: whether
it is not `None`. -/
def addItem (client : Mobileclient σ) (id : String) (playlist : Option String) (type : Int) :
    Exec (Host σ) Raised Bool :=
  if type = 0 then Option.isSome <$> addAaTrack client id
  else Option.isSome <$> addSongsToPlaylist client playlist id

/-- The service's answer to an add, as to whether it has an item. -/
def addAnswer (client : Mobileclient σ) (id : String) (playlist : Option String) (type : Int) :
    Exec σ Raised Bool :=
  if type = 0 then Option.isSome <$> client.addAaTrack id
  else Option.isSome <$> client.addSongsToPlaylist playlist id

def addToCollection (runtime : Runtime σ τ) (id : String) (playlist : Option String) (type : Int)
    (now : Int) : Exec (Plugin σ τ) Raised ObjectContainer := do
  let item ← onHost (addItem runtime.client id playlist type)
  let message := if item then "Adding Success" else "Adding Fail"
  Exec.modify (libraryRefresh runtime now)
  pure (.notice "Adding Song" message)

section Steps

variable {runtime : Runtime σ τ} {now later : Int} {email password id : String}
variable {playlist : Option String} {type : Int} {plugin : Plugin σ τ}

/-- The first half of `MainMenu`: a refresh when the last one is over two hours old. -/
def Plugin.expire (runtime : Runtime σ τ) (now later : Int) (plugin : Plugin σ τ) : Plugin σ τ :=
  if now > plugin.refresh + twoHours then libraryRefresh runtime later plugin else plugin

/-- The second half: a login while there is none, and a load job when it returned. -/
def Plugin.signIn (runtime : Runtime σ τ) (email password : String) (plugin : Plugin σ τ) :
    Plugin σ τ :=
  if plugin.api.authenticated == false && email != "" && password != "" then
    match (authenticate runtime.client [email, password]).run plugin.host with
    | (.ok _, host) => runtime.createThread { plugin with host }
    | (.error _, host) => { plugin with host }
  else plugin

theorem mainMenu_final : (mainMenu runtime now later email password).final plugin =
    (plugin.expire runtime now later).signIn runtime email password := by
  have expired : (Exec.when (now > plugin.refresh + twoHours)
      (Exec.modify (libraryRefresh runtime later) : Exec (Plugin σ τ) Raised Unit)).run plugin =
      (.ok (), plugin.expire runtime now later) := by
    rw [Exec.run_when_modify, expire]
    simp only [decide_eq_true_eq]
  simp only [mainMenu, Exec.final, Exec.run_bind, Exec.run_gets, expired]
  generalize plugin.expire runtime now later = start
  cases wanted : start.api.authenticated == false && email != "" && password != "" with
  | false => simp only [signIn, wanted, Exec.when_false, Exec.run_pure, Bool.false_eq_true, if_false]
  | true =>
      simp only [signIn, wanted, Exec.when_true, if_true]
      cases tried : (authenticate runtime.client [email, password]).run start.host with
      | mk outcome host =>
          cases outcome <;>
            simp only [onHost, Exec.run_bind, Exec.run_zoom, tried, Exec.run_modify,
              Exec.run_pure]

theorem refreshMenu_final : (refreshMenu runtime now).final plugin =
    libraryRefresh runtime now plugin := rfl

theorem addToCollection_final : (addToCollection runtime id playlist type now).final plugin =
    match (addItem runtime.client id playlist type).run plugin.host with
    | (.ok _, host) => libraryRefresh runtime now { plugin with host }
    | (.error _, host) => { plugin with host } := by
  cases added : (addItem runtime.client id playlist type).run plugin.host with
  | mk outcome host =>
      cases outcome <;> simp [addToCollection, Exec.final, onHost, added]

/-- All that the second half of `MainMenu` can do. -/
inductive SignInOutcome (runtime : Runtime σ τ) (email password : String) (plugin : Plugin σ τ) :
    Plugin σ τ → Prop where
  | skipped : SignInOutcome runtime email password plugin plugin
  | returned (down : plugin.api.authenticated = false) :
      SignInOutcome runtime email password plugin (runtime.createThread
        { plugin with host := (authenticate runtime.client [email, password]).final plugin.host })
  | raised (down : plugin.api.authenticated = false) :
      SignInOutcome runtime email password plugin
        { plugin with host := (authenticate runtime.client [email, password]).final plugin.host }

theorem signIn_outcome (runtime : Runtime σ τ) (email password : String) (plugin : Plugin σ τ) :
    SignInOutcome runtime email password plugin (plugin.signIn runtime email password) := by
  unfold signIn
  split
  · rename_i wanted
    simp only [Bool.and_eq_true, beq_iff_eq] at wanted
    cases tried : (authenticate runtime.client [email, password]).run plugin.host with
    | mk outcome host =>
        have left : (authenticate runtime.client [email, password]).final plugin.host = host := by
          rw [Exec.final, tried]
        rw [← left]
        cases outcome with
        | ok value => exact .returned wanted.1.1
        | error reason => exact .raised wanted.1.1
  · exact .skipped

/-- All that an add can do: one that raised ends the handler before the refresh. -/
inductive AddOutcome (runtime : Runtime σ τ) (id : String) (playlist : Option String)
    (type now : Int) (plugin : Plugin σ τ) : Plugin σ τ → Prop where
  | answered (returned : ∃ item, (addItem runtime.client id playlist type).Returns plugin.host item) :
      AddOutcome runtime id playlist type now plugin (libraryRefresh runtime now
        { plugin with host := (addItem runtime.client id playlist type).final plugin.host })
  | raised (failed : ¬ ∃ item, (addItem runtime.client id playlist type).Returns plugin.host item) :
      AddOutcome runtime id playlist type now plugin
        { plugin with host := (addItem runtime.client id playlist type).final plugin.host }

theorem addToCollection_outcome (runtime : Runtime σ τ) (id : String) (playlist : Option String)
    (type now : Int) (plugin : Plugin σ τ) : AddOutcome runtime id playlist type now plugin
      ((addToCollection runtime id playlist type now).final plugin) := by
  rw [addToCollection_final]
  cases added : (addItem runtime.client id playlist type).run plugin.host with
  | mk outcome host =>
      have left : (addItem runtime.client id playlist type).final plugin.host = host := by
        rw [Exec.final, added]
      rw [← left]
      cases outcome with
      | ok item => exact .answered ⟨item, by rw [Exec.Returns, added]⟩
      | error reason => exact .raised (by simp [Exec.Returns, added])

theorem addItem_run (client : Mobileclient σ) (id : String) (playlist : Option String) (type : Int)
    (host : Host σ) : (addItem client id playlist type).run host =
      (((addAnswer client id playlist type).run host.service).1.mapError Raised.escaping,
        { host with service := (addAnswer client id playlist type).final host.service }) := by
  unfold addItem addAnswer
  split
  · rw [Exec.run_map, addAaTrack, withRelogin_run, Exec.final, Exec.run_map]
    simp only [onService, Exec.run_zoom]
    cases (client.addAaTrack id).run host.service with
    | mk outcome after => cases outcome <;> rfl
  · rw [Exec.run_map, addSongsToPlaylist, withRelogin_run, Exec.final, Exec.run_map]
    simp only [onService, Exec.run_zoom]
    cases (client.addSongsToPlaylist playlist id).run host.service with
    | mk outcome after => cases outcome <;> rfl

theorem addItem_api (client : Mobileclient σ) (id : String) (playlist : Option String) (type : Int)
    (host : Host σ) :
    ((addItem client id playlist type).final host).api = host.api := by
  rw [Exec.final, addItem_run]

theorem addItem_service (client : Mobileclient σ) (host : Host σ) :
    ((addItem client id playlist type).final host).service =
      if type = 0 then (client.addAaTrack id).final host.service
      else (client.addSongsToPlaylist playlist id).final host.service := by
  rw [Exec.final, addItem_run, addAnswer]
  split
  · exact Exec.final_map Option.isSome _ host.service
  · exact Exec.final_map Option.isSome _ host.service

theorem addItem_isAuthenticated {ρ : Type} (remote : Remote ρ) (id : String)
    (playlist : Option String) (type : Int) (host : Host (Session ρ)) :
    ((addItem remote.withSession id playlist type).final host).service.isAuthenticated =
      host.service.isAuthenticated := by
  rw [addItem_service]
  split
  · exact Session.send_isAuthenticated (remote.addAaTrack id) host.service
  · exact Session.send_isAuthenticated (remote.addSongsToPlaylist playlist id) host.service

end Steps

end GoogleMusic
