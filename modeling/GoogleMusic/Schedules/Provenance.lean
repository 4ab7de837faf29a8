import GoogleMusic.Schedules.Informing

namespace GoogleMusic

open Foundation Exec Host Plugin

variable {σ : Type}

/-- The id that is no one's. -/
def Placeholder (name : Ident) : Prop := name = .song "0"

/-- A handler that shows links to what the service has named, behind the plugin. -/
def Honest (floor : List Ident) (body : Exec (Plugin (Party σ) Nat) Raised Answer) : Prop :=
  Ensures (fun plugin => Informed Placeholder floor plugin.host) body
    (fun answer plugin => Informed Placeholder (floor ++ linkIdents answer.links) plugin.host)
    fun plugin => Informed Placeholder floor plugin.host

section Serving

variable {client : Mobileclient σ} {search : Search σ} {floor : List Ident} {random : Shuffle Song}
variable {now later : Int} {α : Type}

theorem onHost_ensures {pre fails : Host (Party σ) → Prop} {post : α → Host (Party σ) → Prop}
    {body : Exec (Host (Party σ)) Raised α} (ensures : Ensures pre body post fails) :
    Ensures (fun plugin : Plugin (Party σ) Nat => pre plugin.host) (onHost body)
      (fun value plugin => post value plugin.host) fun plugin => fails plugin.host := by
  intro plugin held
  have outcome := ensures plugin.host held
  rw [onHost, Exec.run_zoom]
  cases ran : body.run plugin.host with
  | mk result after =>
      rw [ran] at outcome
      cases result with
      | ok value => exact outcome
      | error reason => exact outcome

theorem container_honest {body : Exec (Host (Party σ)) Raised ObjectContainer}
    (shows : Shows Placeholder floor ObjectContainer.links body) :
    Honest floor (.container <$> onHost body) := Ensures.map (onHost_ensures shows)

theorem store_honest {body : Exec (Host (Party σ)) Raised StoreContainer}
    (shows : Shows Placeholder floor StoreContainer.links body) :
    Honest floor (.store <$> onHost body) := Ensures.map (onHost_ensures shows)

/-- An answer that is made from the API object without asking for anything. -/
theorem lift_honest {make : GMusic → Except Raised α} {wrap : α → Answer}
    (named : ∀ api value, make api = .ok value → ∀ name ∈ linkIdents (wrap value).links,
      api.Named name ∨ name ∈ floor) :
    Honest floor (Exec.gets Plugin.api >>= fun api => wrap <$> Exec.lift (make api) :
      Exec (Plugin (Party σ) Nat) Raised Answer) := by
  refine Ensures.getsBind fun api => Ensures.map (Ensures.lift (fun value made plugin held => ?_)
    fun _ held => held.1)
  obtain ⟨informed, rfl⟩ := held
  exact informed.add fun name own =>
    (named plugin.api value made name own).elim (informed.kept name) (informed.sound.known name)

theorem refresh_ensures {pre : Plugin (Party σ) Nat → Prop} {fails : Plugin (Party σ) Nat → Prop}
    (informed : ∀ plugin, pre plugin → Informed Placeholder floor plugin.host) :
    Ensures pre (Exec.modify (libraryRefresh (.queued client.traced) now) : Exec _ Raised Unit)
      (fun _ plugin => Informed Placeholder floor plugin.host) fails :=
  Ensures.modify fun plugin held =>
    (informed plugin held).withApi fun _ named => absurd named GMusic.not_named_reset

theorem mainMenuObjects_idents (title2 : Option Text) (api : GMusic) :
    linkIdents (Answer.container { title2, objects := mainMenuObjects api }).links = [] := by
  simp only [Answer.links, mainMenuObjects]
  cases api.authenticated <;> cases api.allAccess <;> rfl

theorem mainMenu_honest {email password : String} :
    Honest floor (.container <$> mainMenu (.queued client.traced) now later email password) := by
  refine Ensures.map (Ensures.getsBind fun refresh => Ensures.bind (Ensures.when (refresh_ensures
    fun _ held => held.1) fun _ held => held.1) fun _ => Ensures.getsBind fun api => Ensures.bind
    (Ensures.when (?_ : Ensures _ _ (fun _ plugin => Informed Placeholder floor plugin.host) _)
      fun _ held => held.1) fun _ => Ensures.getsBind fun api => Ensures.pure fun plugin held =>
        held.1.plain (mainMenuObjects_idents _ api))
  exact Ensures.bind ((onHost_ensures authenticate_ensures).imp (fun _ held => held.1)
    fun _ _ held => held) fun _ => Ensures.modify fun plugin held => held

theorem reopen_idents {allAccess : Bool} {song : Song} {key : String} {container : ObjectContainer}
    (returned : Handlers.getTrack allAccess song key = .ok container) :
    ∀ name ∈ linkIdents container.links, name ∈ song.idents := by
  obtain ⟨row, built, same⟩ := bind_eq_ok.mp returned
  cases same
  intro name named
  exact getTrack_idents built (by simpa [ObjectContainer.links, MenuObject.links] using named)

theorem addItemMenu_idents {allAccess : Bool} {song : Song} {container : StoreContainer}
    (returned : addItemMenu allAccess song = .ok container) :
    ∀ name ∈ linkIdents container.links, name ∈ song.idents := by
  obtain ⟨title, _, rest⟩ := bind_eq_ok.mp returned
  obtain ⟨nid, found, rest⟩ := bind_eq_ok.mp rest
  obtain ⟨row, built, same⟩ := bind_eq_ok.mp rest
  cases same
  intro name named
  simp only [StoreContainer.links, List.flatMap_cons, List.flatMap_nil, StoreObject.links, linkIdents,
    List.flatMap_append, List.mem_append, Link.idents, Callback.idents, List.append_nil, Option.toList_none,
    Option.toList_some, List.map_nil, List.map_cons, List.mem_singleton] at named
  rcases named with own | added | listed
  · exact getTrack_idents built own
  · simp [Song.idents, field_eq_ok.mp found, added]
  · simp [Song.idents, field_eq_ok.mp found, listed]

theorem genresSubMenu_idents {name id : String} {children : Option (List String)} :
    ∀ ident ∈ linkIdents (genresSubMenu name id children).links,
      ident ∈ (Link.genresSubMenu name id children).idents := by
  intro ident named
  simpa [StoreContainer.links, genresSubMenu, playRow, StoreObject.links, linkIdents, Link.idents,
    List.flatMap_map, eq_comm] using named

theorem serveMenu_honest (callback : Callback) (known : ∀ name ∈ callback.idents, name ∈ floor) :
    Honest floor (serveMenu client.traced random now callback) := by
  cases callback with
  | libraryMenu => exact Ensures.pure fun _ informed => informed.plain rfl
  | playlistsMenu id => exact container_honest (playlistsMenu_shows known)
  | stationsMenu => exact container_honest stationsMenu_shows
  | genresMenu => exact store_honest genresMenu_shows
  | searchMenu => exact Ensures.raise fun _ held => held
  | refreshMenu =>
      exact Ensures.map (Ensures.bind (refresh_ensures fun _ held => held) fun _ =>
        Ensures.pure fun _ informed => informed.plain rfl)
  | librarySubMenu title page =>
      exact Ensures.map (Ensures.gets fun _ informed => informed.plain librarySubMenu_named)
  | showSongs title shuffle page => exact container_honest showSongs_shows
  | getTrackList name type =>
      exact lift_honest fun api container returned ident named =>
        Or.inl (getTrackList_named returned ident named)
  | getPlaylistContents name id => exact container_honest getPlaylistContents_informs
  | getSharedPlaylist name token =>
      exact container_honest (getSharedPlaylist_shows (known _ (List.mem_singleton.mpr rfl)))
  | getStationTracks name id => exact container_honest (getStationTracks_shows known)
  | addToCollection id playlist type =>
      exact Ensures.map (Ensures.bind (onHost_ensures (addItem_ensures known)) fun item =>
        Ensures.bind (refresh_ensures fun _ held => held) fun _ =>
          Ensures.pure fun _ informed => informed.plain rfl)
  | getTrack song key includeContainer =>
      exact lift_honest fun api container returned name named =>
        Or.inr (known name (reopen_idents returned name named))
  | playAudio id storeId ext =>
      have asked : Ensures (Informed Placeholder floor)
          (playAudio client.traced id.argument.delivered storeId.argument.delivered)
          (fun _ => Informed Placeholder floor) (Informed Placeholder floor) := playAudio_ensures known rfl
      exact Ensures.bind (onHost_ensures asked) fun url => Ensures.pure fun _ informed => informed.plain rfl

theorem serve_honest (link : Link) (known : ∀ name ∈ link.idents, name ∈ floor) :
    Honest floor (serve client.traced random now link) := by
  cases link with
  | menu callback => exact serveMenu_honest callback known
  | genresSubMenu name id children =>
      exact Ensures.pure fun plugin informed => informed.add fun ident named =>
        informed.sound.known ident (known ident (genresSubMenu_idents ident named))
  | addItemMenu song =>
      exact lift_honest fun api container returned name named =>
        Or.inr (known name (addItemMenu_idents returned name named))
  | createStation id =>
      exact container_honest (createStation_shows (known _ (List.mem_singleton.mpr rfl)))
  | getArtistInfo name id =>
      exact store_honest (getArtistInfo_shows (known _ (List.mem_singleton.mpr rfl)))
  | getAlbumInfo name id =>
      exact store_honest (getAlbumInfo_shows (known _ (List.mem_singleton.mpr rfl)))

end Serving

namespace Visitor

/-- The service has named whatever the screens of the visitor link to. -/
def Told (visitor : Visitor (Party σ)) : Prop :=
  Informed Placeholder (linkIdents visitor.links) visitor.plugin.host

/-- What was asked for before the service had named it is the placeholder. -/
def AsksOnlyNamed (visitor : Visitor (Party σ)) : Prop :=
  ∀ name ∈ visitor.plugin.host.service.strays, Placeholder name

variable {client : Mobileclient σ} {search : Search σ} {visitor next : Visitor (Party σ)} {label : Turn}

theorem start_told (service : σ) (now : Int) : (start (Party.fresh service) now).Told where
  sound := ⟨fun _ => nofun, fun _ => nofun⟩
  kept _ named := absurd named (GMusic.not_named_reset : ¬ ({} : GMusic).resetLibrary.Named _)
  lucky := List.mem_singleton.mpr rfl

theorem opens_told {body : Exec (Plugin (Party σ) Nat) Raised Answer} (told : visitor.Told)
    (honest : Honest (linkIdents visitor.links) body) : (visitor.opens body).Told := by
  have outcome := honest visitor.plugin told
  unfold opens
  cases ran : body.run visitor.plugin with
  | mk result plugin =>
      rw [ran] at outcome
      cases result with
      | error reason => exact outcome
      | ok answer =>
          rw [Told, linkIdents, List.flatMap_append]
          exact outcome

theorem turn_told (told : visitor.Told)
    (step : (visiting client.traced search.traced).step label visitor = some next) : next.Told := by
  cases label with
  | mainMenu now later email password =>
      cases step
      exact opens_told told mainMenu_honest
  | follow link random now =>
      simp only [visiting, turn] at step
      split at step
      · cases step
        exact opens_told told (serve_honest link fun name named => List.mem_flatMap.mpr ⟨link, ‹_›, named⟩)
      · cases step
  | search order query =>
      simp only [visiting, turn] at step
      split at step
      · cases step
        exact opens_told told (store_honest searchMenu_shows)
      · cases step
  | loadAsync =>
      obtain ⟨plugin, loaded, rfl⟩ := Option.map_eq_some_iff.mp step
      obtain ⟨_, _, host⟩ := queuedStep_loadAsync loaded
      rw [Told, host]
      exact loadData_ensures.final (fun _ _ informed => informed) (fun _ informed => informed) told

end Visitor

/-- Whoever visits the plugin and however: what it asks the service for is either an id that
the service has named before, as one of that kind, or the placeholder of a row. -/
theorem always_asksOnlyNamed (client : Mobileclient σ) (search : Search σ) (service : σ) (now : Int)
    (turns : List Turn) :
    (visiting client.traced search.traced).Always Visitor.AsksOnlyNamed turns
      (.start (Party.fresh service) now) := by
  have always : (visiting client.traced search.traced).Always Visitor.Told turns
      (.start (Party.fresh service) now) :=
    System.always_of_keeps (fun told step _ => Visitor.turn_told told step) (Visitor.start_told service now)
      (System.admits_of_forall fun _ _ => True.intro :
        (visiting client.traced search.traced).Admits (fun _ _ => True) _ _)
  exact always.imp fun visitor told => told.sound.strays

end GoogleMusic
