import GoogleMusic.Schedules.Inline
import GoogleMusic.Schedules.Opening
import GoogleMusic.Vendored.Client

/-! # What the client promises

The plugin's menus were followed over any client that keeps a contract: one session in
front of its methods, an account behind its lists, a library behind its songs.  Here the
contracts are derived for the client of the requests, from what the service promises of
its single requests and pages.
-/

namespace GoogleMusic

open Foundation

variable {ρ : Type} {service : Service ρ}

section Session

open Session

theorem getRegisteredDevicesOf_session (service : Service ρ) :
    getRegisteredDevicesOf Line.session service =
      send (getRegisteredDevicesOf Line.direct service) := by
  rw [getRegisteredDevicesOf, perform_session]
  exact (send_lift _ _).symm

theorem getAllUserPlaylistContentsOf_session (service : Service ρ) :
    getAllUserPlaylistContentsOf Line.session service =
      send (getAllUserPlaylistContentsOf Line.direct service) := by
  rw [getAllUserPlaylistContentsOf, getAllUserPlaylistContentsOf, send_bind, getAllItems_session]
  refine congrArg _ (funext fun playlists => ?_)
  rw [getAllItems_session]
  exact (send_lift _ _).symm

theorem getSharedPlaylistContentsOf_session (service : Service ρ) (token : String) :
    getSharedPlaylistContentsOf Line.session service token =
      send (getSharedPlaylistContentsOf Line.direct service token) := by
  rw [getSharedPlaylistContentsOf, perform_session]
  exact (send_lift _ _).symm

theorem getStationTracksOf_session (service : Service ρ) (id : Reply String) (count : Nat) :
    getStationTracksOf Line.session service id count =
      send (getStationTracksOf Line.direct service id count) := by
  rw [getStationTracksOf, perform_session]
  exact (send_map _ _).symm

theorem getGenresOf_session (service : Service ρ) (parent : Option String) :
    getGenresOf Line.session service parent = send (getGenresOf Line.direct service parent) := by
  rw [getGenresOf, perform_session]
  exact (send_map _ _).symm

theorem searchAllAccessOf_session (service : Service ρ) (query : String) (count : Nat) :
    searchAllAccessOf Line.session service query count =
      send (searchAllAccessOf Line.direct service query count) := by
  rw [searchAllAccessOf, perform_session]
  exact (send_lift _ _).symm

theorem addAaTrackOf_session (service : Service ρ) (id : String) :
    addAaTrackOf Line.session service id = send (addAaTrackOf Line.direct service id) := by
  rw [addAaTrackOf, addAaTrackOf, send_bind, getTrackInfoOf, perform_session]
  refine congrArg _ (funext fun info => ?_)
  rw [perform_session]
  exact (send_lift _ _).symm

theorem addSongsToPlaylistOf_session (service : Service ρ) (playlist id : String) :
    addSongsToPlaylistOf Line.session service playlist [id] =
      send (addSongsToPlaylistOf Line.direct service playlist [id]) := by
  rw [addSongsToPlaylistOf, addSongsToPlaylistOf, if_neg (by simp), if_neg (by simp), perform_session]
  exact (send_lift _ _).symm

theorem createStationOf_session (service : Service ρ) (name id : String) :
    createStationOf Line.session service name none none none (some id) =
      send (createStationOf Line.direct service name none none none (some id)) := by
  have seeded (line : Line ρ (Session ρ)) :
      createStationOf line service name none none none (some id) =
        (batchMutateStations.perform line
          (sendStation service name { genreId := some id, seedType := some 5 })) >>=
        fun res => Exec.lift (firstId res) := rfl
  rw [seeded, perform_session]
  exact (send_lift _ _).symm

theorem getStreamUrlOf_session (service : Service ρ) (id : String) (device : Option String) :
    getStreamUrlOf Line.session service id device =
      deviceOr Line.session service device >>= fun device =>
        Exec.lift (streamRequest id device) >>= fun request =>
          send (GetStreamUrl.call.request (service.mplay request)) := by
  rw [getStreamUrlOf]
  refine congrArg _ (funext fun device => congrArg _ (funext fun request => ?_))
  exact perform_session _ _

end Session

/-- Every request of a method passes the session by itself, and the method as a whole is
as if the session stood once in front of it.  Two methods check an argument first. -/
theorem client_eq_withSession (service : Service ρ) :
    service.client.toEndpoints =
      { service.remote.withSession.toEndpoints with
        addSongsToPlaylist := fun playlist id =>
          match playlist with
          | none => Exec.raise .valueError
          | some playlist => Session.send (service.remote.addSongsToPlaylist (some playlist) id)
        getStreamUrl := fun id device =>
          deviceOr Line.session service device >>= fun device =>
            Exec.lift (streamRequest id device) >>= fun request =>
              Session.send (GetStreamUrl.call.request (service.mplay request)) } := by
  simp only [Service.client, Service.endpoints, Service.remote, Remote.withSession,
    Endpoints.mk.injEq]
  refine ⟨getRegisteredDevicesOf_session service, getAllItems_session _ _ _, getAllItems_session _ _ _,
    getAllUserPlaylistContentsOf_session service, funext fun token => ?_, getAllItems_session _ _ _,
    funext fun id => funext fun count => ?_, getGenresOf_session service none,
    funext fun name => funext fun id => ?_, funext fun query => funext fun count => ?_,
    funext fun id => funext fun albums => funext fun tracks => funext fun related => ?_,
    funext fun id => funext fun tracks => ?_, funext fun id => ?_,
    funext fun playlist => funext fun id => ?_, funext fun id => funext fun device => ?_⟩
  · exact getSharedPlaylistContentsOf_session service token
  · exact getStationTracksOf_session service id count
  · exact createStationOf_session service name id
  · rw [searchAllAccessOf_session]
    exact (Session.send_lift _ _).symm
  · exact Session.perform_session _ _
  · exact Session.perform_session _ _
  · rw [addAaTrackOf_session]
    exact (Session.send_map _ _).symm
  · cases playlist with
    | none => rfl
    | some playlist =>
        change some <$> addSongsToPlaylistOf Line.session service playlist [id] = _
        rw [addSongsToPlaylistOf_session]
        exact (Session.send_map _ _).symm
  · exact getStreamUrlOf_session service id device

theorem client_login (service : Service ρ) (own : madeUp service.mac = false) :
    service.client.login = service.remote.withSession.login := by
  funext email password
  change service.login email password = Session.login (service.performLogin email password)
  rw [Service.login, if_neg (by simp [own])]

theorem client_sessioned (service : Service ρ) (own : madeUp service.mac = false) :
    Sessioned service.client fun session => session.isAuthenticated = true where
  refuses session loggedOut := by
    rw [client_eq_withSession]
    exact (Session.sessioned service.remote).refuses session loggedOut
  already email password session loggedIn := by
    rw [client_login service own]
    exact (Session.sessioned service.remote).already email password session loggedIn
  granted email password session := by
    rw [client_login service own]
    exact (Session.sessioned service.remote).granted email password session
  songs := by
    rw [client_eq_withSession]
    exact Session.keeps_loggedOut _
  devices := by
    rw [client_eq_withSession]
    exact Session.keeps_loggedOut _
  addTrack id := by
    rw [client_eq_withSession]
    exact Session.keeps_loggedOut _
  addSongs playlist id := by
    rw [client_eq_withSession]
    cases playlist with
    | none => exact .raise _
    | some playlist => exact Session.keeps_loggedOut _

/-- The menus of the library serve nothing half-indexed over this client. -/
theorem client_wellServed (own : madeUp service.mac = false) {remote : ρ} {now : Int}
    {labels : List Visit} {after : Plugin (Session ρ) Unit}
    (ran : (inlineSystem service.client).run labels (Plugin.idle (.fresh remote) now) = some after) :
    after.api.WellServed := by
  have loggedOut : ¬ (Session.fresh remote).isAuthenticated = true := by simp [Session.fresh]
  exact (run_sound (client_sessioned service own) loggedOut ran).served.wellServed

section Account

variable (account : ρ → Account)

def Untouched {α : Type} (request : Exec ρ String α) : Prop :=
  ∀ state, account (request.final state) = account state

/-- A batch is answered so that `read` finds its ids, or it changed nothing. -/
def Settles {α : Type} (call : Call BatchAnswer BatchAnswer) (read : BatchAnswer → Except Raised α)
    (answer : Exec ρ String (Response BatchAnswer)) : Prop :=
  ∀ state, (∃ response res value, answer.Returns state response ∧ call.read response = .ok res ∧
    read res = .ok value) ∨ account (answer.final state) = account state

/-- A list resource of the account, paged as the service likes. -/
def ListsPart {α : Type} (resource : Resource ρ α) (part : Account → List α) : Prop :=
  ∀ held, ∃ rest, resource.Lists (fun state => account state = held) rest ∧
    itemsOf false (rest none) = part held

/-- The service holds the account: three of its resources list it, two of its batches
write to it, and nothing else does. -/
structure Service.HoldsAccount (service : Service ρ) : Prop where
  playlists : ListsPart account service.playlistfeed Account.playlists
  entries : ListsPart account service.plentryfeed Account.entries
  stations : ListsPart account service.radioStation Account.stations
  songs : ∀ request, Untouched account (service.trackfeed.list request)
  masterLogin : ∀ email password id, Untouched account (service.performMasterLogin email password id)
  oauth : ∀ email token id, Untouched account (service.performOauth email token id)
  devices : Untouched account service.devicemanagementinfo
  stationTracks : ∀ id count, Untouched account (service.stationfeed id count)
  trackInfo : ∀ id, Untouched account (service.fetchtrack id)
  library : ∀ tracks, Untouched account (service.trackbatch tracks)
  plentries : ∀ batch, Settles account batchMutatePlaylistEntries allIds (service.plentriesbatch batch)
  editStation : ∀ batch, Settles account batchMutateStations firstId (service.editstation batch)
  onlyStations : ∀ batch state,
    (account ((service.editstation batch).final state)).playlists = (account state).playlists ∧
    (account ((service.editstation batch).final state)).entries = (account state).entries

end Account

def Session.accountOf (account : ρ → Account) (session : Session ρ) : Account :=
  account session.remote

section Reading

variable {account : ρ → Account} {α β : Type} {request : Exec ρ Raised α} {part : Account → α}

theorem send_leaves (leaves : LeavesAccount account request) :
    LeavesAccount (Session.accountOf account) (Session.send request) := by
  intro session
  cases state : session.isAuthenticated with
  | false => rw [Exec.final, Session.send_of_loggedOut _ state]
  | true =>
      rw [Exec.final, Session.send_of_loggedIn _ state]
      exact leaves session.remote

theorem send_reads (reads : ReadsAccount account request part) :
    ReadsAccount (Session.accountOf account) (Session.send request) part where
  leaves := send_leaves reads.leaves
  current _ _ returned := reads.current _ _ (Session.send_returns_iff.mp returned).2

theorem leaves_request {call : Call α β} {answer : Exec ρ String (Response α)}
    (untouched : Untouched account answer) : LeavesAccount account (call.request answer) := by
  intro state
  rw [Call.request_final]
  exact untouched state

theorem leaves_bind {first : Exec ρ Raised β} {next : β → Exec ρ Raised α}
    (head : LeavesAccount account first) (tail : ∀ value, LeavesAccount account (next value)) :
    LeavesAccount account (first >>= next) := by
  intro state
  have kept : (first >>= next).Keeps fun later => account later = account state :=
    Exec.Keeps.bind (fun later held => (head later).trans held)
      fun value later held => (tail value later).trans held
  exact kept state rfl

theorem leaves_lift (outcome : Except Raised α) :
    LeavesAccount account (Exec.lift outcome : Exec ρ Raised α) := fun _ => rfl

theorem leaves_getAllItems {call : McListCall α} {resource : Resource ρ α} {options : ListOptions}
    (untouched : ∀ request, Untouched account (resource.list request)) :
    LeavesAccount account (getAllItems Line.direct call resource options) := by
  intro state
  have keeps : ∀ token, ((resource.source Line.direct call options.setDefault).fetch token).Keeps
        fun later => account later = account state := by
    intro token later held
    change account ((nextChunk Line.direct call resource _ token).final later) = _
    rw [nextChunk_eq]
    exact (leaves_bind (fun state => untouched _ state) (fun _ => leaves_lift _) later).trans held
  rw [getAllItems, Exec.final_map]
  exact Cursor.Source.chunks_keeps _ none keeps state rfl

theorem reads_getAllItems (call : McListCall β) {resource : Resource ρ β} {part : Account → List β}
    (lists : ListsPart account resource part) :
    ReadsAccount account (getAllItems Line.direct call resource) part where
  leaves state := by
    obtain ⟨rest, listed, _⟩ := lists (account state)
    exact (getAllItems_reads listed call rfl rfl).1
  current state items returned := by
    obtain ⟨rest, listed, whole⟩ := lists (account state)
    rw [← whole]
    exact (getAllItems_reads listed call rfl rfl).2 items returned

theorem reads_contents (holds : service.HoldsAccount account) :
    ReadsAccount account (getAllUserPlaylistContentsOf Line.direct service)
      Account.userPlaylistContents where
  leaves := leaves_bind (reads_getAllItems listPlaylists holds.playlists).leaves fun _ =>
    leaves_bind (reads_getAllItems listPlaylistEntries holds.entries).leaves fun _ => leaves_lift _
  current state contents returned := by
    obtain ⟨after, ran⟩ := Exec.returns_iff_run.mp returned
    obtain ⟨playlists, middle, listed, rest⟩ := Exec.bind_returned ran
    obtain ⟨entries, last, found, built⟩ := Exec.bind_returned rest
    have same : account middle = account state := by
      have left := (reads_getAllItems listPlaylists holds.playlists).leaves state
      rw [Exec.final, listed] at left
      exact left
    have first := (reads_getAllItems listPlaylists holds.playlists).current state playlists
      (by rw [Exec.Returns, listed])
    have second := (reads_getAllItems listPlaylistEntries holds.entries).current middle entries
      (by rw [Exec.Returns, found])
    rw [same] at second
    subst first
    subst second
    have made := congrArg Prod.fst built
    rw [Exec.run_lift] at made
    exact Listing.contents_of_returned made

theorem allOrNothing_settled {call : Call BatchAnswer BatchAnswer}
    {read : BatchAnswer → Except Raised β} {answer : Exec ρ String (Response BatchAnswer)}
    (settles : Settles account call read answer) :
    AllOrNothing account (call.request answer >>= fun res => Exec.lift (read res)) := by
  intro state
  rcases settles state with ⟨response, res, value, answered, understood, found⟩ | same
  · obtain ⟨after, ran⟩ := Exec.returns_iff_run.mp
      (Call.request_returns_iff.mpr ⟨response, answered, understood⟩)
    refine Or.inl ⟨value, ?_⟩
    rw [Exec.Returns, Exec.run_bind, ran]
    exact found
  · apply Or.inr
    have kept : (call.request answer >>= fun res => Exec.lift (read res)).final state =
        answer.final state := by
      rw [Exec.final, Exec.run_bind, ← Call.request_final call answer state, Exec.final]
      cases (call.request answer).run state with
      | mk outcome after => cases outcome <;> rfl
    rw [kept]
    exact same

theorem allOrNothing_send (settles : AllOrNothing account request) :
    AllOrNothing (Session.accountOf account) (Session.send request) := by
  intro session
  cases state : session.isAuthenticated with
  | false =>
      apply Or.inr
      rw [Exec.final, Session.send_of_loggedOut _ state]
  | true =>
      rcases settles session.remote with ⟨value, returned⟩ | same
      · exact Or.inl ⟨value, Session.send_returns_iff.mpr ⟨state, returned⟩⟩
      · apply Or.inr
        rw [Exec.final, Session.send_of_loggedIn _ state]
        exact same

end Reading

section Serving

variable {account : ρ → Account}

theorem untouched_tokens (holds : service.HoldsAccount account) (email password : String) :
    Untouched account (service.tokens email password) := by
  intro state
  have kept : (service.tokens email password).Keeps fun later => account later = account state := by
    refine Exec.Keeps.bind (fun later held => (holds.masterLogin _ _ _ later).trans held)
      fun res => ?_
    cases (parseAuthResponse res).lookup "Token" with
    | none => exact .pure _
    | some masterToken =>
        apply Exec.Keeps.bind (fun later held => (holds.oauth _ _ _ later).trans held)
        intro res
        cases (parseAuthResponse res).lookup "Auth" with
        | none => exact .pure _
        | some authtoken => exact .pure _
  exact kept state rfl

theorem leaves_login (holds : service.HoldsAccount account) (email password : String) :
    LeavesAccount (Session.accountOf account) (service.client.login email password) := by
  intro session
  change Session.accountOf account ((service.login email password).final session) = _
  rw [Service.login]
  split
  · rfl
  · have kept := untouched_tokens holds email password session.remote
    rw [← Exec.final_map Option.isSome] at kept
    rw [Exec.final, Session.login]
    simp only
    split
    · rfl
    · change account ((service.performLogin email password).final session.remote) = _ at kept
      rw [Exec.final] at kept
      cases ran : (service.performLogin email password).run session.remote with
      | mk outcome after =>
          rw [ran] at kept
          cases outcome <;> exact kept

theorem settles_plentries (holds : service.HoldsAccount account) (playlist : String)
    (songs : List String) :
    Settles account batchMutatePlaylistEntries allIds (sendPlentries service playlist songs) :=
  fun state => holds.plentries (buildPlentryAdds (service.uuid state) playlist songs) state

theorem settles_station (holds : service.HoldsAccount account) (name : String) (seed : Seed) :
    Settles account batchMutateStations firstId (sendStation service name seed) :=
  fun state => holds.editStation _ state

theorem onlyStations_send (holds : service.HoldsAccount account) (name id : String)
    (session : Session ρ) :
    let after := Session.accountOf account
      ((Session.send (createStationOf Line.direct service name none none none (some id))).final session)
    after.playlists = (account session.remote).playlists ∧
      after.entries = (account session.remote).entries := by
  intro after
  have kept : (createStationOf Line.direct service name none none none (some id)).Keeps fun later =>
      (account later).playlists = (account session.remote).playlists ∧
        (account later).entries = (account session.remote).entries := by
    refine Exec.Keeps.bind (.lift _) fun seed => Exec.Keeps.bind ?_ fun res => .lift _
    intro later held
    rw [Call.perform_direct, Call.request_final]
    exact (holds.onlyStations _ later).imp (·.trans held.1) (·.trans held.2)
  have moved : (Session.send (createStationOf Line.direct service name none none none (some id))).Keeps
      fun later => (account later.remote).playlists = (account session.remote).playlists ∧
        (account later.remote).entries = (account session.remote).entries := by
    intro later held
    cases state : later.isAuthenticated with
    | false => rwa [Exec.final, Session.send_of_loggedOut _ state]
    | true =>
        rw [Exec.final, Session.send_of_loggedIn _ state]
        exact kept later.remote held
  exact moved session ⟨rfl, rfl⟩

/-- Over a service that holds the account, the client keeps the contract of the menus. -/
theorem client_serves (holds : service.HoldsAccount account) :
    Serves (Session.accountOf account) service.client where
  login := leaves_login holds
  devices := by
    rw [client_eq_withSession]
    exact send_leaves (leaves_bind (leaves_request holds.devices) fun _ => leaves_lift _)
  songs := by
    rw [client_eq_withSession]
    exact send_leaves (leaves_getAllItems holds.songs)
  stationTracks id count := by
    rw [client_eq_withSession]
    exact send_leaves (leaves_bind (leaves_request (holds.stationTracks id count)) fun _ _ => rfl)
  playlists := by
    rw [client_eq_withSession]
    exact send_reads (reads_getAllItems listPlaylists holds.playlists)
  contents := by
    rw [client_eq_withSession]
    exact send_reads (reads_contents holds)
  stations := by
    rw [client_eq_withSession]
    exact send_reads (reads_getAllItems listStations holds.stations)
  addTrack id session := by
    rw [client_eq_withSession]
    refine Or.inr (send_leaves ?_ session)
    refine leaves_bind (leaves_bind (leaves_request (holds.trackInfo id)) fun info => ?_) fun _ _ => rfl
    exact leaves_bind (leaves_request (holds.library _)) fun _ => leaves_lift _
  addSongs playlist id session := by
    rw [client_eq_withSession]
    cases playlist with
    | none => exact Or.inr rfl
    | some playlist =>
        have settled : AllOrNothing account (addSongsToPlaylistOf Line.direct service playlist [id]) :=
          allOrNothing_settled (settles_plentries holds playlist [id])
        exact allOrNothing_send settled.map session
  createStation name id session := by
    rw [client_eq_withSession]
    have settled : AllOrNothing account
        (createStationOf Line.direct service name none none none (some id)) :=
      allOrNothing_settled (settles_station holds name _)
    exact allOrNothing_send settled session
  onlyStations name id session := by
    rw [client_eq_withSession]
    exact onlyStations_send holds name id session

end Serving

/-- The track feed lists the library, paged as the service likes. -/
def Service.HoldsLibrary (service : Service ρ) (library : ρ → List Song) : Prop :=
  ∀ held, ∃ rest, service.trackfeed.Lists (fun state => library state = held) rest ∧
    itemsOf false (rest none) = held

section Library

variable {library : ρ → List Song}

theorem getAllSongs_whole (holds : service.HoldsLibrary library) {session : Session ρ}
    {songs : List Song} (returned : service.client.getAllSongs.Returns session songs) :
    songs = library session.remote := by
  obtain ⟨rest, lists, whole⟩ := holds (library session.remote)
  rw [client_eq_withSession] at returned
  rw [← whole]
  exact (getAllItems_reads lists listTracks rfl rfl).2 songs (Session.send_returns_iff.mp returned).2

theorem client_supplies (holds : service.HoldsLibrary library)
    (identified : ∀ state, ∀ song ∈ library state, song.id.isSome = true)
    (unique : ∀ state, ((library state).map Song.id).Nodup)
    (playable : ∀ state, ∀ song ∈ library state, song.playable = true) :
    Supplies service.client fun session => library session.remote where
  listed _ _ returned := getAllSongs_whole holds returned
  identified session := identified session.remote
  unique session := unique session.remote
  playable session := playable session.remote

/-- Every playlist opens completely exactly if the song list holds the songs that its entries
name, when the list is read page by page. -/
theorem client_opens_iff_holds (holds : service.HoldsLibrary library)
    (identified : ∀ state, ∀ song ∈ library state, song.id.isSome = true)
    (unique : ∀ state, ((library state).map Song.id).Nodup)
    (playable : ∀ state, ∀ song ∈ library state, song.playable = true)
    (session : Session ρ) (now : Int) (labels : List OpeningRequest) :
    (openingSystem service.client).Always (fun plugin => ∀ name id contents,
        ContentsSource service.client plugin.host contents →
        (∀ entry ∈ tracksOfPlaylist id contents,
          entry.Resolves (library plugin.host.service.remote)) →
        (Opens service.client (library plugin.host.service.remote) plugin.host name id
            (tracksOfPlaylist id contents) ↔
          ∀ entry ∈ tracksOfPlaylist id contents,
            plugin.api.Holds (library plugin.host.service.remote) entry))
      labels (Plugin.start session now) :=
  have supplies := client_supplies holds identified unique playable
  (always_stocked supplies.stock session now labels).imp fun _ searchable _ _ _ source resolves =>
    opens_iff_holds searchable source resolves

/-- Whichever request of whichever page fails, and wherever the library is in the middle of
being refreshed, the song list is empty or the whole library of a moment that the run has
come through. -/
theorem run_whole_library (service : Service ρ) (library : ρ → List Song)
    (holds : service.HoldsLibrary library) (session : Session ρ) (now : Int)
    (labels : List OpeningRequest) (plugin : Plugin (Session ρ) Nat)
    (ran : (openingSystem service.client).run labels (Plugin.start session now) = some plugin) :
    plugin.api.allSongs = [] ∨ ∃ earlier past, earlier <+: labels ∧
      (openingSystem service.client).run earlier (Plugin.start session now) = some past ∧
      plugin.api.allSongs.Perm (library past.host.service.remote) := by
  obtain ⟨earlier, past, inside, came, known⟩ := exists_answeredIn ran
  rcases known with empty | ⟨songs, returned, same⟩
  · exact Or.inl empty
  · refine Or.inr ⟨earlier, past, inside, came, ?_⟩
    rwa [getAllSongs_whole holds returned] at same

/-- In a run whose requests are all accounted for, the menus show the account of a service
whose lists come in pages. -/
theorem client_always_showsAccount (service : Service ρ) (account : ρ → Account)
    (holds : service.HoldsAccount account) (session : Session ρ) (now : Int)
    (labels : List AccountRequest)
    (admitted : (accountSystem service.client).Admits
      (AccountedFor service.client (Session.accountOf account)) labels (Plugin.start session now)) :
    (accountSystem service.client).Admits
      (ShowsAccount service.client (Session.accountOf account)) labels
      (Plugin.start session now) :=
  showsAccount_of_admits (client_serves holds) session now labels admitted

end Library

structure World where
  account : Account
  songs : List Song

def Response.ok {α : Type} (text : α) : Response α where
  statusCode := 200
  text := some text

/-- The entry that is made of an addition to a playlist. -/
def EntryDetails.entry (details : EntryDetails) : PlaylistEntry where
  id := details.clientId
  trackId := details.trackId
  playlistId := some details.playlistId
  absolutePosition := details.clientId
  track := some { Song.sample with id := some details.trackId }

/-- Lists in pages of two, and changes that are all accepted. -/
def World.answers : Service World where
  uuid _ count := toString count
  now _ := 0
  mac := 0x001122334455
  performMasterLogin _ _ _ := pure "SID=s\nToken=t\n"
  performOauth _ _ _ := pure "Auth=a\n"
  trackfeed := .paged 1 fun world => world.songs.map fun song => { item := song }
  playlistfeed := .paged 1 fun world => world.account.playlists.map fun playlist => { item := playlist }
  plentryfeed := .paged 1 fun world => world.account.entries.map fun entry => { item := entry }
  radioStation := .paged 1 fun world => world.account.stations.map fun station => { item := station }
  plentriesShared _ := pure (.ok {})
  stationfeed _ _ := pure (.ok { data := some {} })
  genres _ := pure (.ok {})
  query _ _ := pure (.ok {})
  fetchartist _ _ _ _ := pure (.ok {})
  fetchalbum _ _ := pure (.ok {})
  fetchtrack _ := pure (.ok ∅)
  mplay _ := pure { statusCode := 302, text := none, location := some "stream" }
  devicemanagementinfo := pure (.ok {})
  trackbatch tracks := do
    Exec.modify fun world => { world with
      songs := world.songs ++ tracks.map fun _ => { Song.sample with id := some "4" } }
    pure (.ok { mutateResponse := some (tracks.map fun _ =>
      { id := some "4", responseCode := some "OK" }) })
  plentriesbatch batch := do
    Exec.modify fun world => { world with
      account := { world.account with
        entries := world.account.entries ++ batch.map EntryDetails.entry } }
    pure (.ok { mutateResponse := some (batch.map fun details =>
      { id := some details.clientId, responseCode := some "OK" }) })
  editstation batch := do
    Exec.modify fun world => { world with
      account := { world.account with
        stations := world.account.stations ++ batch.map fun station =>
          { id := station.clientId, name := station.name,
            recentTimestamp := some station.recentTimestamp } } }
    pure (.ok { mutateResponse := some (batch.map fun station =>
      { id := some station.clientId, responseCode := some "OK" }) })

theorem paged_part {ρ α : Type} {account : ρ → Account} {part : Account → List α} (size : Nat) :
    ListsPart account (Resource.paged size fun state => (part (account state)).map fun item =>
      ({ item } : FeedItem α)) part := by
  intro held
  have lists := Resource.paged_lists size (fun state => (part (account state)).map fun item =>
    ({ item } : FeedItem α)) ((part held).map fun item => { item })
  refine ⟨_, ⟨fun request state same => ?_, fun token maxResults state response feed same =>
    lists.cuts token maxResults state response feed (by rw [same])⟩, ?_⟩
  · exact same
  · exact itemsOf_undeleted false (part held)

theorem World.answers_settle_plentries (batch : List EntryDetails) :
    Settles World.account batchMutatePlaylistEntries allIds (World.answers.plentriesbatch batch) := by
  intro state
  refine Or.inl ⟨_, _, batch.map EntryDetails.clientId, rfl,
    Call.read_eq_ok.mpr ⟨rfl, rfl, rfl, ?_⟩, ?_⟩
  · simp [batchMutatePlaylistEntries, McBatchMutateCall.call, McBatchMutateCall.checkSuccess,
      McBatchMutateCall.accepted]
  · change (batch.map _).mapM _ = _
    rw [mapM_eq_ok_iff, List.forall₂_map_left_iff, List.forall₂_map_right_iff, List.forall₂_same]
    exact fun details _ => rfl

theorem World.answers_settle_stations (batch : List StationMutation) :
    Settles World.account batchMutateStations firstId (World.answers.editstation batch) := by
  intro state
  cases batch with
  | nil =>
      apply Or.inr
      change ({ state.account with stations := state.account.stations ++ [] } : Account) = _
      rw [List.append_nil]
  | cons station batch =>
      refine Or.inl ⟨_, _, station.clientId, rfl, Call.read_eq_ok.mpr ⟨rfl, rfl, rfl, ?_⟩, rfl⟩
      simp [batchMutateStations, McBatchMutateCall.call, McBatchMutateCall.checkSuccess,
        McBatchMutateCall.accepted]

theorem World.answers_holdsAccount : World.answers.HoldsAccount World.account where
  playlists := paged_part 1
  entries := paged_part 1
  stations := paged_part 1
  songs _ _ := rfl
  masterLogin _ _ _ _ := rfl
  oauth _ _ _ _ := rfl
  devices _ := rfl
  stationTracks _ _ _ := rfl
  trackInfo _ _ := rfl
  library _ _ := rfl
  plentries := World.answers_settle_plentries
  editStation := World.answers_settle_stations
  onlyStations _ _ := ⟨rfl, rfl⟩

theorem World.answers_holdsLibrary : World.answers.HoldsLibrary World.songs := by
  intro held
  have lists := Resource.paged_lists 1 (fun world : World => world.songs.map fun song =>
    ({ item := song } : FeedItem Song)) (held.map fun song => { item := song })
  refine ⟨_, ⟨fun request state same => same, fun token maxResults state response feed same =>
    lists.cuts token maxResults state response feed (by rw [same])⟩, ?_⟩
  exact itemsOf_undeleted false held

def World.sample : World where
  account := Account.sample
  songs := [.sample, { Song.sample with id := some "2" }, { Song.sample with id := some "3" }]

/-- A song is added between two load jobs, and the second finds all four songs. -/
def World.errands : List OpeningRequest :=
  [.account (.library (.mainMenu 0 0 "user" "secret")), .account (.library .loadAsync),
    .account (.library (.addToCollection "T4" none 0 0)), .account (.library .loadAsync),
    .showSongs .identity "Shuffle All" true 1]

theorem whole_library_of_errands :
    ∃ plugin, (openingSystem World.answers.client).run World.errands
        (Plugin.start (Session.fresh World.sample) 0) = some plugin ∧
      plugin.api.allSongs.length = 4 ∧
      (plugin.api.allSongs = [] ∨ ∃ earlier past, earlier <+: World.errands ∧
        (openingSystem World.answers.client).run earlier
          (Plugin.start (Session.fresh World.sample) 0) = some past ∧
        plugin.api.allSongs.Perm past.host.service.remote.songs) :=
  ⟨_, rfl, rfl, run_whole_library World.answers World.songs World.answers_holdsLibrary _ 0 _ _ rfl⟩

theorem World.errands_accountedFor :
    (accountSystem World.answers.client).Admits
      (AccountedFor World.answers.client (Session.accountOf World.account)) Account.errands
      (Plugin.start (Session.fresh World.sample) 0) := by
  have own : ∃ playlist ∈ World.sample.account.playlists,
      playlist.type ≠ some "SHARED" ∧ playlist.id = "p" :=
    ⟨_, List.mem_cons_self, by decide, rfl⟩
  exact .step rfl True.intro (.step rfl True.intro (.step rfl (Or.inl own) (.step rfl True.intro
    (.step rfl (Or.inl own) (.step rfl (fun _ => rfl) (.step rfl True.intro True.intro))))))

theorem showsAccount_of_pages :
    (accountSystem World.answers.client).Admits
        (ShowsAccount World.answers.client (Session.accountOf World.account)) Account.errands
        (Plugin.start (Session.fresh World.sample) 0) ∧
      ∃ plugin container, (accountSystem World.answers.client).run (Account.errands.take 4)
          (Plugin.start (Session.fresh World.sample) 0) = some plugin ∧
        (getPlaylistContents World.answers.client "Mix" "p").Returns plugin.host container ∧
        container.objects.length = 2 :=
  ⟨client_always_showsAccount World.answers World.account World.answers_holdsAccount _ 0 _
    World.errands_accountedFor, _, _, rfl, rfl, rfl⟩

end GoogleMusic
