import GoogleMusic.Foundation.Agreement
import GoogleMusic.Schedules.Routes
import GoogleMusic.Vendored.Contracts
import GoogleMusic.Vendored.Searching

namespace GoogleMusic

open Foundation Exec Host Plugin

variable {σ ρ : Type}

structure Endpoints.Keep (endpoints : Endpoints σ) (inv : σ → Prop) : Prop where
  getRegisteredDevices : endpoints.getRegisteredDevices.Keeps inv
  getAllSongs : endpoints.getAllSongs.Keeps inv
  getAllPlaylists : endpoints.getAllPlaylists.Keeps inv
  getAllUserPlaylistContents : endpoints.getAllUserPlaylistContents.Keeps inv
  getSharedPlaylistContents : ∀ token, (endpoints.getSharedPlaylistContents token).Keeps inv
  getAllStations : endpoints.getAllStations.Keeps inv
  getStationTracks : ∀ id count, (endpoints.getStationTracks id count).Keeps inv
  getGenres : endpoints.getGenres.Keeps inv
  createStation : ∀ name id, (endpoints.createStation name id).Keeps inv
  getArtistInfo : ∀ id albums tracks related, (endpoints.getArtistInfo id albums tracks related).Keeps inv
  getAlbumInfo : ∀ id tracks, (endpoints.getAlbumInfo id tracks).Keeps inv
  addAaTrack : ∀ id, (endpoints.addAaTrack id).Keeps inv
  addSongsToPlaylist : ∀ playlist id, (endpoints.addSongsToPlaylist playlist id).Keeps inv
  getStreamUrl : ∀ id device, (endpoints.getStreamUrl id device).Keeps inv

/-- The requests keep what `inv` says of the flag and the service, and so does a login that
is tried while the flag is down: it goes up with a login that is granted or was before. -/
structure Guarded (client : Mobileclient σ) (search : Search σ) (inv : Bool → σ → Prop) : Prop where
  requests : ∀ flag, client.toEndpoints.Keep (inv flag)
  searches : ∀ flag query count, (search query count).Keeps (inv flag)
  accepted : ∀ email password state, inv false state →
    ((client.login email password).Returns state true ∨
      (client.login email password).Raises state .alreadyLoggedIn) →
    inv true ((client.login email password).final state)
  declined : ∀ email password state, inv false state →
    ¬ (client.login email password).Returns state true →
    ¬ (client.login email password).Raises state .alreadyLoggedIn →
    inv false ((client.login email password).final state)

def Host.Guards (inv : Bool → σ → Prop) (host : Host σ) : Prop := inv host.api.authenticated host.service

section Wrappers

variable {client : Mobileclient σ} {search : Search σ} {inv : Bool → σ → Prop}
variable {α β : Type} {host : Host σ}

theorem onService_guards {request : Exec σ Raised α} (kept : ∀ flag, request.Keeps (inv flag)) :
    (onService request).Keeps (Host.Guards inv) := fun host held => kept _ host.service held

theorem onApi_guards {body : Exec GMusic Raised α}
    (same : ∀ api, (body.final api).authenticated = api.authenticated) :
    (onApi body).Keeps (Host.Guards inv) := fun host held => by
  change inv (body.final host.api).authenticated host.service
  rw [same]
  exact held

theorem withRelogin_guards {attempt : Exec (Host σ) Raised β} {fallback : β}
    (kept : attempt.Keeps (Host.Guards inv)) :
    (withRelogin client attempt fallback).Keeps (Host.Guards inv) := fun host held => by
  rw [withRelogin_final]
  exact kept host held

theorem reply_guards {request : Exec σ Raised α} {read : α → β} {fallback : β}
    (kept : ∀ flag, request.Keeps (inv flag)) :
    (withRelogin client (read <$> onService request) fallback).Keeps (Host.Guards inv) :=
  withRelogin_guards ((onService_guards kept).bind fun value => .pure (read value))

theorem cachedList_guards {endpoint : Exec σ Raised (List α)} {read : GMusic → List α}
    {write : List α → GMusic → GMusic} (kept : ∀ flag, endpoint.Keeps (inv flag))
    (same : ∀ values api, (write values api).authenticated = api.authenticated) :
    (cachedList client endpoint read write).Keeps (Host.Guards inv) := by
  have asked : ∀ (host : Host σ) outcome service, endpoint.run host.service = (outcome, service) →
      host.Guards inv → inv host.api.authenticated service := by
    intro host outcome service answered held
    have left := kept host.api.authenticated host.service held
    rwa [Exec.final, answered] at left
  refine cachedList_keeps (fun host values service answered held => ?_)
    fun host reason service answered held => asked host _ service answered held
  rw [Host.Guards, same]
  exact asked host _ service answered held

theorem authenticate_guards (guarded : Guarded client search inv) (email password : String)
    (down : host.api.authenticated = false) (held : host.Guards inv) :
    ((authenticate client [email, password]).final host).Guards inv := by
  rw [Host.Guards, down] at held
  have accepted := guarded.accepted email password host.service held
  have declined := guarded.declined email password host.service held
  cases answered : (client.login email password).run host.service with
  | mk outcome service =>
      simp only [Exec.Returns, Exec.Raises, Exec.final, answered] at accepted declined
      by_cases granted : outcome = .ok true ∨ outcome = .error .alreadyLoggedIn
      · have up := accepted granted
        obtain ⟨_, device, ran, _⟩ := authenticate_accepted client
          (granted.imp (fun same => by rw [answered, same]) fun same => by rw [answered, same])
        rw [Exec.final, ran]
        exact (guarded.requests true).getRegisteredDevices service up
      · have stays := declined (fun same => granted (.inl same)) fun same => granted (.inr same)
        cases outcome with
        | ok value =>
            cases value with
            | true => exact absurd (.inl rfl) granted
            | false =>
                rw [Exec.final, authenticate_refused client answered]
                exact stays
        | error reason =>
            rw [Exec.final, authenticate_raised client (fun same => granted (.inr (by rw [same]))) answered]
            change inv host.api.authenticated service
            rw [down]
            exact stays

theorem loadAsync_guards (guarded : Guarded client search inv) :
    (loadAsync client).Keeps (Host.Guards inv) := by
  intro host held
  have same := (loadData_outcome client host).authenticated
  change inv ((loadData client).final host).api.authenticated ((loadData client).final host).service
  change ((loadData client).final host).api.authenticated = _ at same
  rw [same]
  rcases loadData_service client host with idle | asked
  · rw [idle]
    exact held
  · rw [asked]
    exact (guarded.requests _).getAllSongs host.service held

/-- The login of a wrapper has no arguments and ends before it is sent. -/
theorem relogin_guards {attempt : Exec (Host σ) Raised β} {fallback : β} :
    (relogin client attempt fallback).Keeps (Host.Guards inv) := fun _ held => held

end Wrappers

def Plugin.Guards (inv : Bool → σ → Prop) (plugin : Plugin σ Nat) : Prop := plugin.host.Guards inv

section Handlers

variable {client : Mobileclient σ} {search : Search σ} {inv : Bool → σ → Prop}
variable {α : Type} {random : Shuffle Song} {now : Int} {plugin : Plugin σ Nat}

theorem onHost_guards {body : Exec (Host σ) Raised α} (kept : body.Keeps (Host.Guards inv)) :
    (onHost body).Keeps (Plugin.Guards inv) := fun plugin held => kept plugin.host held

theorem getStationTracks_guards (guarded : Guarded client search inv) (name : Text) (id : Reply String) :
    (Handlers.getStationTracks client name id).Keeps (Host.Guards inv) :=
  getStationTracks_keeps name
    (withRelogin_guards (onService_guards fun flag => (guarded.requests flag).getStationTracks id _))

theorem streamUrl_guards (guarded : Guarded client search inv) (argument : Argument) :
    (streamUrl client argument).Keeps (Host.Guards inv) := by
  cases argument with
  | number value => exact .raise _
  | text id =>
      refine Exec.Keeps.handle ((Exec.Keeps.gets _).bind fun device =>
        onService_guards fun flag => (guarded.requests flag).getStreamUrl id device) fun reason => ?_
      cases reason with
      | notLoggedIn => exact relogin_guards
      | _ => exact .raise _

theorem playAudio_guards (guarded : Guarded client search inv) (id storeId : Argument) :
    (playAudio client id storeId).Keeps (Host.Guards inv) := by
  have streams := streamUrl_guards guarded
  refine Exec.Keeps.ite (Exec.Keeps.handle (streams storeId) fun reason => ?_) (streams id)
  cases reason with
  | callFailure message caller => exact streams id
  | _ => exact .raise _

theorem addItem_guards (guarded : Guarded client search inv) (id : String) (playlist : Option String)
    (type : Int) : (addItem client id playlist type).Keeps (Host.Guards inv) := by
  unfold addItem
  split
  · exact (withRelogin_guards
      (onService_guards fun flag => (guarded.requests flag).addAaTrack id)).map
  · exact (withRelogin_guards
      (onService_guards fun flag => (guarded.requests flag).addSongsToPlaylist playlist id)).map

theorem searchMenu_guards (guarded : Guarded client search inv) (order : Iteration) (query : String) :
    (searchMenu client search order query).Keeps (Host.Guards inv) := by
  apply Exec.Keeps.bind (reply_guards fun flag => guarded.searches flag query 100)
  intro results
  cases results with
  | emptyList => exact .raise _
  | value hits => exact (Exec.Keeps.lift _).bind fun _ => .pure _

theorem showSongs_guards (title : String) (shuffle : Bool) (page : Int) :
    (onApi (showSongs random title shuffle page) : Exec (Host σ) Raised ObjectContainer).Keeps
      (Host.Guards inv) := by
  apply onApi_guards
  intro api
  rw [showSongs_final]
  split <;> rfl

theorem libraryRefresh_guards :
    (Exec.modify (libraryRefresh (.queued client) now) : Exec (Plugin σ Nat) Raised Unit).Keeps
      (Plugin.Guards inv) := fun _ held => held

theorem serveMenu_guards (guarded : Guarded client search inv) (callback : Callback) :
    (serveMenu client random now callback).Keeps (Plugin.Guards inv) := by
  cases callback with
  | libraryMenu => exact .pure _
  | playlistsMenu id =>
      exact (onHost_guards (playlistsMenu_keeps (cachedList_guards
        (fun flag => (guarded.requests flag).getAllPlaylists) fun _ _ => rfl) id)).map
  | stationsMenu =>
      exact (onHost_guards (stationsMenu_keeps (cachedList_guards
        (fun flag => (guarded.requests flag).getAllStations) fun _ _ => rfl))).map
  | genresMenu =>
      exact (onHost_guards (Exec.Keeps.bind (withRelogin_guards
        (onService_guards fun flag => (guarded.requests flag).getGenres)) fun _ =>
        (Exec.Keeps.lift _).bind fun _ => .pure _)).map
  | searchMenu => exact .raise _
  | refreshMenu => exact Exec.Keeps.map (libraryRefresh_guards.bind fun _ => .pure _)
  | librarySubMenu title page => exact (Exec.Keeps.gets _).map
  | showSongs title shuffle page =>
      exact (onHost_guards (showSongs_guards title shuffle page)).map
  | getTrackList name type =>
      exact (Exec.Keeps.gets _).bind fun _ => (Exec.Keeps.lift _).bind fun _ => .pure _
  | getPlaylistContents name id =>
      exact (onHost_guards (getPlaylistContents_keeps name
        (getAllUserPlaylistContents_keeps id (cachedList_guards
          (fun flag => (guarded.requests flag).getAllUserPlaylistContents) fun _ _ => rfl)))).map
  | getSharedPlaylist name token =>
      exact (onHost_guards (Exec.Keeps.bind (withRelogin_guards
        (onService_guards fun flag => (guarded.requests flag).getSharedPlaylistContents token))
        fun _ => (Exec.Keeps.gets _).bind fun _ => (Exec.Keeps.lift _).bind fun _ => .pure _)).map
  | getStationTracks name id => exact (onHost_guards (getStationTracks_guards guarded name _)).map
  | addToCollection id playlist type =>
      exact Exec.Keeps.map ((onHost_guards (addItem_guards guarded id playlist type)).bind
        fun _ => libraryRefresh_guards.bind fun _ => .pure _)
  | getTrack song key includeContainer =>
      exact (Exec.Keeps.gets _).bind fun _ => (Exec.Keeps.lift _).bind fun _ => .pure _
  | playAudio id storeId ext =>
      exact (onHost_guards (playAudio_guards guarded _ _)).map

theorem serve_guards (guarded : Guarded client search inv) (link : Link) :
    (serve client random now link).Keeps (Plugin.Guards inv) := by
  cases link with
  | menu callback => exact serveMenu_guards guarded callback
  | genresSubMenu name id children => exact .pure _
  | addItemMenu song =>
      exact (Exec.Keeps.gets _).bind fun _ => (Exec.Keeps.lift _).bind fun _ => .pure _
  | createStation id =>
      exact (onHost_guards (Exec.Keeps.bind (reply_guards fun flag =>
        (guarded.requests flag).createStation _ id) fun station =>
        getStationTracks_guards guarded _ station)).map
  | getArtistInfo name id =>
      exact (onHost_guards (Exec.Keeps.bind (reply_guards fun flag =>
        (guarded.requests flag).getArtistInfo id _ _ _) fun _ => (Exec.Keeps.lift _).bind fun _ =>
        (Exec.Keeps.lift _).bind fun _ => .pure _)).map
  | getAlbumInfo name id =>
      exact (onHost_guards (Exec.Keeps.bind (reply_guards fun flag =>
        (guarded.requests flag).getAlbumInfo id _) fun _ => (Exec.Keeps.lift _).bind fun _ =>
        (Exec.Keeps.lift _).bind fun _ => (Exec.Keeps.gets _).bind fun _ =>
        (Exec.Keeps.lift _).bind fun _ => .pure _)).map

theorem mainMenu_guards (guarded : Guarded client search inv) (now later : Int)
    (email password : String) :
    (mainMenu (.queued client) now later email password).Keeps (Plugin.Guards inv) := by
  intro plugin held
  have expired : (plugin.expire (.queued client) now later).Guards inv := by
    unfold expire
    split <;> exact held
  rw [mainMenu_final]
  generalize plugin.expire (.queued client) now later = start at expired
  have outcome := signIn_outcome (.queued client) email password start
  generalize start.signIn (.queued client) email password = after at outcome
  cases outcome with
  | skipped => exact expired
  | returned down => exact authenticate_guards guarded email password down expired
  | raised down => exact authenticate_guards guarded email password down expired

theorem turn_guards {visitor next : Visitor σ} {label : Turn} (guarded : Guarded client search inv)
    (held : visitor.plugin.Guards inv) (step : (visiting client search).step label visitor = some next) :
    next.plugin.Guards inv := by
  cases label with
  | mainMenu now later email password =>
      cases step
      rw [Visitor.opens_plugin, Exec.final_map]
      exact mainMenu_guards guarded now later email password visitor.plugin held
  | follow link random now =>
      simp only [visiting, turn] at step
      split at step
      · cases step
        rw [Visitor.opens_plugin]
        exact serve_guards guarded link visitor.plugin held
      · cases step
  | search order query =>
      simp only [visiting, turn] at step
      split at step
      · cases step
        rw [Visitor.opens_plugin, Exec.final_map]
        exact onHost_guards (searchMenu_guards guarded order query) visitor.plugin held
      · cases step
  | loadAsync =>
      simp only [visiting, turn, Option.map_eq_some_iff] at step
      obtain ⟨plugin, ran, rfl⟩ := step
      obtain ⟨_, _, left⟩ := queuedStep_loadAsync ran
      rw [Plugin.Guards, left]
      exact loadAsync_guards guarded visitor.plugin.host held

end Handlers

theorem client_keep (service : Service ρ) {inv : Session ρ → Prop}
    (kept : ∀ {α : Type} (request : Exec ρ Raised α), (Session.send request).Keeps inv) :
    service.client.toEndpoints.Keep inv := by
  rw [client_eq_withSession]
  refine ⟨kept _, kept _, kept _, kept _, fun _ => kept _, kept _, fun _ _ => kept _, kept _,
    fun _ _ => kept _, fun _ _ _ _ => kept _, fun _ _ => kept _, fun _ => kept _, fun playlist id => ?_,
    fun id device => ?_⟩
  · cases playlist with
    | none => exact .raise _
    | some playlist => exact kept _
  · exact (deviceOr_keeps Line.session service device).bind fun device =>
      (Exec.Keeps.lift _).bind fun request => kept _

theorem login_run (service : Service ρ) (email password : String) {session : Session ρ}
    (loggedOut : session.isAuthenticated = false) :
    (service.client.login email password).run session = (.error (.other "OSError"), session) ∨
      (service.client.login email password).run session =
        match (service.performLogin email password).run session.remote with
        | (.ok granted, remote) => (.ok granted, { isAuthenticated := granted, remote })
        | (.error name, remote) => (.error (.other name), { session with remote }) := by
  change (service.login email password).run session = _ ∨ (service.login email password).run session = _
  unfold Service.login
  split
  · exact Or.inl rfl
  · exact Or.inr (Session.login_of_loggedOut _ loggedOut)

theorem client_guarded (service : Service ρ) :
    Guarded service.client service.search fun flag session => flag = session.isAuthenticated where
  requests flag := client_keep service fun request session held => by
    rw [Session.send_isAuthenticated]
    exact held
  searches flag query count := by
    rw [Service.search, searchAllAccessOf_session]
    intro session held
    rw [Session.send_isAuthenticated]
    exact held
  accepted email password session down granted := by
    rcases login_run service email password down.symm with refused | ran
    · simp [Exec.Returns, Exec.Raises, refused] at granted
    · rw [Exec.Returns, Exec.Raises, ran] at granted
      rw [Exec.final, ran]
      cases tried : (service.performLogin email password).run session.remote with
      | mk outcome remote =>
          rw [tried] at granted
          cases outcome with
          | error name => simp at granted
          | ok value => simpa using granted.symm
  declined email password session down denied other := by
    rcases login_run service email password down.symm with refused | ran
    · rw [Exec.final, refused]
      exact down
    · rw [Exec.Returns, ran] at denied
      rw [Exec.final, ran]
      cases tried : (service.performLogin email password).run session.remote with
      | mk outcome remote =>
          rw [tried] at denied
          cases outcome with
          | error name => exact down
          | ok value => simpa using denied

section Settled

variable {client : Mobileclient σ} {search : Search σ} {plugin : Plugin σ Nat}
variable {login : String → String → Exec σ Raised Bool} {visitor : Visitor σ}

theorem flag_guarded (client : Mobileclient σ) (search : Search σ) :
    Guarded client search fun flag _ => flag = true where
  requests _ := ⟨fun _ held => held, fun _ held => held, fun _ held => held, fun _ held => held,
    fun _ _ held => held, fun _ held => held, fun _ _ _ held => held, fun _ held => held,
    fun _ _ _ held => held, fun _ _ _ _ _ held => held, fun _ _ _ held => held, fun _ _ held => held,
    fun _ _ _ held => held, fun _ _ _ held => held⟩
  searches _ _ _ _ held := held
  accepted _ _ _ down := by cases down
  declined _ _ _ down := by cases down

theorem mainMenu_of_signedIn {now later : Int} {email password : String}
    (up : plugin.api.authenticated = true) :
    (mainMenu (.queued client) now later email password).run plugin =
      (.ok { title2 := some (.label "Title"),
             objects := mainMenuObjects (plugin.expire (.queued client) now later).api },
        plugin.expire (.queued client) now later) := by
  have expired : (Exec.when (now > plugin.refresh + twoHours)
      (Exec.modify (libraryRefresh (.queued client) later) : Exec (Plugin σ Nat) Raised Unit)).run plugin =
      (.ok (), plugin.expire (.queued client) now later) := by
    rw [Exec.run_when_modify, expire]
    simp only [decide_eq_true_eq]
  have still : (plugin.expire (.queued client) now later).api.authenticated = true := by
    unfold expire
    split <;> exact up
  simp only [mainMenu, Exec.run_bind, Exec.run_gets, expired, still, Exec.run_pure]
  rfl

theorem serve_otherLogin (random : Shuffle Song) (now : Int) (link : Link) :
    serve { client with login } random now link = serve client random now link := by
  cases link with
  | menu callback => cases callback <;> rfl
  | _ => rfl

theorem turn_otherLogin (label : Turn) (visitor : Visitor σ) (up : visitor.plugin.api.authenticated = true) :
    (visiting { client with login } search).step label visitor =
      (visiting client search).step label visitor := by
  cases label with
  | mainMenu now later email password =>
      refine congrArg some (Visitor.opens_same ?_)
      rw [Exec.run_map, Exec.run_map, mainMenu_of_signedIn up, mainMenu_of_signedIn up]
      rfl
  | follow link random now =>
      simp only [visiting, turn, serve_otherLogin]
  | search order query => rfl
  | loadAsync => rfl

end Settled

def Visitor.SignedIn (visitor : Visitor σ) : Prop := visitor.plugin.api.authenticated = true

/-- In every state of every visit the two flags agree, so that what the main menu shows is
what the session lets through; and once they are up they stay up, and nothing depends on what
the service would answer to another login. -/
theorem always_signedIn_once (service : Service ρ) (remote : ρ) (now : Int) (turns : List Turn) :
    (visiting service.client service.search).Always (fun visitor =>
      visitor.plugin.api.authenticated = visitor.plugin.host.service.isAuthenticated ∧
      (visitor.SignedIn → ∀ login later,
        (visiting { service.client with login } service.search).run later visitor =
          (visiting service.client service.search).run later visitor ∧
        ∀ after, (visiting service.client service.search).run later visitor = some after →
          after.SignedIn))
      turns (.start (Session.fresh remote) now) := by
  have always : (visiting service.client service.search).Always
      (fun visitor => visitor.plugin.Guards fun flag session => flag = session.isAuthenticated)
      turns (.start (Session.fresh remote) now) :=
    System.always_of_keeps (fun held step _ => turn_guards (client_guarded service) held step) rfl
      (System.admits_of_forall fun _ _ => True.intro :
        (visiting service.client service.search).Admits (fun _ _ => True) _ _)
  refine always.imp fun visitor agrees => ⟨agrees, fun up login later => ?_⟩
  have settled {label : Turn} {visitor next : Visitor (Session ρ)}
      (up : visitor.SignedIn)
      (step : (visiting service.client service.search).step label visitor = some next) :
      next.SignedIn :=
    turn_guards (flag_guarded service.client service.search) up step
  refine ⟨System.run_agree (fun label visitor => turn_otherLogin label visitor)
    (fun up step _ => settled up step) up
    (System.admits_of_forall fun _ _ => True.intro :
      (visiting service.client service.search).Admits (fun _ _ => True) _ _), fun after ran => ?_⟩
  exact System.run_keeps settled up ran

end GoogleMusic
