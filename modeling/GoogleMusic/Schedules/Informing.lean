import GoogleMusic.Schedules.Accounting

namespace GoogleMusic

open Foundation Traced Exec Host Plugin

variable {σ : Type}

/-- The service has named all of `floor` and all that the API object keeps. -/
structure Informed (exempt : Ident → Prop) (floor : List Ident) (host : Host (Party σ)) : Prop where
  sound : host.service.Sound floor exempt
  kept : ∀ name, host.api.Named name → name ∈ host.service.known
  lucky : .station "IFL" ∈ host.service.known

section Informed

variable {exempt : Ident → Prop} {floor more asks : List Ident} {host : Host (Party σ)}
variable {α β : Type} {names : α → List Ident} {endpoint : Exec σ Raised α}

theorem Informed.add (informed : Informed exempt floor host)
    (known : ∀ name ∈ more, name ∈ host.service.known) : Informed exempt (floor ++ more) host :=
  ⟨informed.sound.append known, informed.kept, informed.lucky⟩

theorem Informed.sub (informed : Informed exempt floor host) (inside : ∀ name ∈ more, name ∈ floor) :
    Informed exempt more host :=
  ⟨⟨fun name member => informed.sound.known name (inside name member), informed.sound.strays⟩,
    informed.kept, informed.lucky⟩

theorem Informed.left (informed : Informed exempt (floor ++ more) host) : Informed exempt floor host :=
  ⟨informed.sound.left, informed.kept, informed.lucky⟩

/-- Links that name nothing. -/
theorem Informed.plain {links : List Link} (informed : Informed exempt floor host)
    (plain : linkIdents links = []) : Informed exempt (floor ++ linkIdents links) host := by
  rw [plain, List.append_nil]
  exact informed

theorem Informed.knows (informed : Informed exempt (floor ++ more) host) :
    ∀ name ∈ more, name ∈ host.service.known := fun name member =>
  informed.sound.known name (List.mem_append_right floor member)

theorem Informed.withApi (informed : Informed exempt floor host) {api : GMusic}
    (kept : ∀ name, api.Named name → name ∈ host.service.known) :
    Informed exempt floor { host with api } :=
  ⟨informed.sound, kept, informed.lucky⟩

/-- What a party ensures, its host ensures: nothing that was known is forgotten. -/
theorem request_ensures (known : ∀ name ∈ asks, name ∈ floor ∨ exempt name) :
    Ensures (Informed exempt floor) (onService (trace asks names endpoint))
      (fun value => Informed exempt (floor ++ names value)) (Informed exempt floor) := by
  apply Ensures.zoom
  intro host informed
  have everything : ∀ name ∈ asks, name ∈ host.service.known ∨ exempt name := fun name member =>
    (known name member).imp_left (informed.sound.known name)
  refine ((trace_ensures everything).imp (fun party same => ?_) fun value party sound => ?_).onRaise ?_
  · subst same
    exact ⟨fun _ => id, informed.sound.strays⟩
  · have grown := fun name member => sound.left.known name member
    refine ⟨⟨fun name member => ?_, sound.strays⟩, fun name named => grown name (informed.kept name named),
      grown _ informed.lucky⟩
    rcases List.mem_append.mp member with old | new
    · exact grown name (informed.sound.known name old)
    · exact sound.known name (List.mem_append_right _ new)
  · exact fun party sound => ⟨⟨fun name member => sound.known name (informed.sound.known name member),
      sound.strays⟩, fun name named => sound.known name (informed.kept name named),
      sound.known _ informed.lucky⟩

theorem write_ensures {write : GMusic → GMusic} {fails : Host (Party σ) → Prop}
    (named : ∀ api name, (write api).Named name → api.Named name ∨ name ∈ floor) :
    Ensures (Informed exempt floor) (onApi (Exec.modify write)) (fun _ => Informed exempt floor) fails := by
  intro host informed
  exact informed.withApi fun name held =>
    (named host.api name held).elim (informed.kept name) (informed.sound.known name)

/-- What a method of the API object names, whatever the names are known to be. -/
theorem onApi_ensures {body : Exec GMusic Raised α}
    (inner : ∀ known : Ident → Prop, Ensures (fun api => ∀ name, api.Named name → known name) body
      (fun value api => (∀ name, api.Named name → known name) ∧ ∀ name ∈ names value, known name)
      (fun api => ∀ name, api.Named name → known name)) :
    Ensures (Informed exempt floor) (onApi body : Exec (Host (Party σ)) Raised α)
      (fun value => Informed exempt (floor ++ names value)) (Informed exempt floor) :=
  Ensures.zoom fun host informed => by
    refine ((inner fun name => name ∈ host.service.known).imp (fun api same => ?_)
      fun value api held => (informed.withApi held.1).add held.2).onRaise fun api held =>
        informed.withApi held
    rw [same]
    exact informed.kept

theorem onApi_kept {body : Exec GMusic Raised α}
    (kept : ∀ api name, (body.final api).Named name → api.Named name) :
    Ensures (Informed exempt floor) (onApi body : Exec (Host (Party σ)) Raised α)
      (fun _ => Informed exempt floor) (Informed exempt floor) := by
  intro host informed
  have named := kept host.api
  rw [onApi, Exec.run_zoom]
  rw [Exec.final] at named
  cases ran : body.run host.api with
  | mk outcome after =>
      rw [ran] at named
      cases outcome with
      | ok value => exact informed.withApi fun name held => informed.kept name (named name held)
      | error reason => exact informed.withApi fun name held => informed.kept name (named name held)

theorem withRelogin_ensures {client : Mobileclient (Party σ)} {attempt : Exec (Host (Party σ)) Raised β}
    {fallback : β} {pre fails : Host (Party σ) → Prop} {post : β → Host (Party σ) → Prop}
    (ensures : Ensures pre attempt post fails) :
    Ensures pre (withRelogin client attempt fallback) post fails := by
  intro host held
  have outcome := ensures host held
  rw [withRelogin_run]
  cases ran : attempt.run host with
  | mk result after =>
      rw [ran] at outcome
      cases result with
      | ok value => exact outcome
      | error reason => exact outcome

/-- What the answer of a wrapper names. -/
def Reply.idents (names : α → List Ident) : Reply α → List Ident
  | .value answer => names answer
  | .emptyList => []

theorem reply_ensures {client : Mobileclient (Party σ)}
    (known : ∀ name ∈ asks, name ∈ floor ∨ exempt name) :
    Ensures (Informed exempt floor)
      (withRelogin client (.value <$> onService (trace asks names endpoint)) .emptyList)
      (fun reply => Informed exempt (floor ++ Reply.idents names reply)) (Informed exempt floor) :=
  withRelogin_ensures (Ensures.map (request_ensures known))

theorem cachedList_ensures {client : Mobileclient (Party σ)} {endpoint : Exec σ Raised (List α)}
    {read : GMusic → List α} {write : List α → GMusic → GMusic} {idents : α → List Ident}
    (cached : ∀ api value, value ∈ read api → ∀ name ∈ idents value, api.Named name)
    (writes : ∀ values api name, (write values api).Named name →
      api.Named name ∨ name ∈ values.flatMap idents) :
    Ensures (Informed exempt floor) (cachedList client (trace [] (List.flatMap idents) endpoint) read write)
      (fun values => Informed exempt (floor ++ values.flatMap idents)) (Informed exempt floor) := by
  refine Ensures.getsBind fun values => Ensures.ite (fun _ => ?_) fun _ => ?_
  · refine withRelogin_ensures (Ensures.bind ((request_ensures (by simp)).imp (fun _ held => held.1)
      fun _ _ held => held) fun answer => Ensures.bind (write_ensures fun api name named => ?_) fun _ =>
        Ensures.pure fun _ informed => informed)
    exact (writes answer api name named).imp_right (List.mem_append_right floor)
  · refine Ensures.pure fun host held => held.1.add fun name named => ?_
    obtain ⟨value, member, own⟩ := List.mem_flatMap.mp named
    exact held.1.kept name (cached host.api value (held.2 ▸ member) name own)

end Informed

def ObjectContainer.links (container : ObjectContainer) : List Link :=
  container.objects.flatMap MenuObject.links

def StoreContainer.links (container : StoreContainer) : List Link :=
  container.objects.flatMap StoreObject.links

/-- The handler asks for what `floor` has, and shows links to what the service has named. -/
def Shows {α : Type} (exempt : Ident → Prop) (floor : List Ident) (links : α → List Link)
    (body : Exec (Host (Party σ)) Raised α) : Prop :=
  Ensures (Informed exempt floor) body (fun answer => Informed exempt (floor ++ linkIdents (links answer)))
    (Informed exempt floor)

section Handlers

variable {exempt : Ident → Prop} {floor : List Ident} {client : Mobileclient σ} {search : Search σ}
variable {α β : Type} {links : α → List Link} {pre : Host (Party σ) → Prop}

/-- Rows that are built once all has been asked for. -/
theorem lift_shows {outcome : Except Raised β} {make : β → α}
    (informed : ∀ host, pre host → Informed exempt floor host)
    (names : ∀ host, pre host → ∀ rows, outcome = .ok rows →
      ∀ name ∈ linkIdents (links (make rows)), name ∈ host.service.known) :
    Ensures pre (do let rows ← Exec.lift outcome; pure (make rows))
      (fun answer => Informed exempt (floor ++ linkIdents (links answer))) (Informed exempt floor) := by
  have lifted : Ensures pre (Exec.lift outcome) (fun rows host => Informed exempt floor host ∧
      ∀ name ∈ linkIdents (links (make rows)), name ∈ host.service.known) (Informed exempt floor) :=
    Ensures.lift (fun rows built host held => ⟨informed host held, names host held rows built⟩) informed
  exact lifted.bind fun rows => Ensures.pure fun host held => held.1.add held.2

theorem playlistRow_idents {id : Option String} {playlist : Playlist} {row : MenuObject} {name : Ident}
    (built : playlistRow id playlist = .ok row) (named : name ∈ linkIdents row.links) :
    name ∈ id.toList.map Ident.store ∨ name ∈ playlist.idents := by
  cases id with
  | some song =>
      cases built
      simp only [linkIdents, MenuObject.links, List.flatMap_cons, List.flatMap_nil, List.append_nil,
        Link.idents, Callback.idents, List.mem_cons, Option.toList_some, List.map_cons, List.map_nil] at named
      rcases named with added | target
      · exact Or.inl (by simp [added])
      · exact Or.inr (by simpa [Playlist.idents] using Or.inl target)
  | none =>
      unfold playlistRow at built
      dsimp only at built
      split at built
      · cases built
        simp [linkIdents, MenuObject.links, Link.idents, Callback.idents] at named
        exact Or.inr (by simp [Playlist.idents, named])
      · obtain ⟨token, found, made⟩ := bind_eq_ok.mp built
        cases made
        simp [linkIdents, MenuObject.links, Link.idents, Callback.idents] at named
        exact Or.inr (by simp [Playlist.idents, named, field_eq_ok.mp found])

theorem linkIdents_of_perm {rows sorted : List MenuObject} {known : Ident → Prop} (same : sorted.Perm rows)
    (names : ∀ name ∈ linkIdents (rows.flatMap MenuObject.links), known name) :
    ∀ name ∈ linkIdents (sorted.flatMap MenuObject.links), known name :=
  fun name named => names name (((same.flatMap_right _).flatMap_right _).mem_iff.mp named)

theorem playlistsMenu_shows {id : Option String} (known : ∀ name ∈ id.toList.map Ident.store, name ∈ floor) :
    Shows exempt floor ObjectContainer.links (playlistsMenu client.traced id) := by
  refine Ensures.bind (cachedList_ensures (fun api playlist member name named => .playlist member named)
    fun _ _ _ => GMusic.named_withPlaylists) fun playlists => lift_shows (fun _ => Informed.left) ?_
  intro host informed rows built
  refine linkIdents_of_perm sortedBy_perm (mapM_idents built fun playlist member row made name named => ?_)
  rcases playlistRow_idents made named with added | own
  · exact informed.left.sound.known name (known name added)
  · exact informed.knows name (List.mem_flatMap.mpr ⟨playlist, member, own⟩)

theorem stationsMenu_shows : Shows exempt floor ObjectContainer.links (stationsMenu client.traced) := by
  refine Ensures.bind (cachedList_ensures (fun api station member name named => .station member named)
    fun _ _ _ => GMusic.named_withStations) fun stations => lift_shows (fun _ => Informed.left) ?_
  intro host informed recent sorted name named
  simp only [linkIdents, ObjectContainer.links, luckyRadio, stationRow, MenuObject.links, List.flatMap_cons,
    List.flatMap_map, List.cons_append, List.nil_append, Link.idents, Callback.idents, List.mem_cons,
    List.mem_flatMap, List.not_mem_nil, or_false] at named
  rcases named with lucky | ⟨link, ⟨station, member, rfl⟩, own⟩
  · exact lucky ▸ informed.lucky
  · have listed := (recentStations_perm sorted).mem_iff.mp member
    refine informed.knows name (List.mem_flatMap.mpr ⟨station, listed, ?_⟩)
    exact own

/-- The songs that a handler has been told of, in rows of their own. -/
theorem rows_known {songs : List α} {idents : α → List Ident} {row : α → Except Raised β}
    {shown : List β} {links : β → List Link} {host : Host (Party σ)}
    (informed : Informed exempt (floor ++ songs.flatMap idents) host) (built : songs.mapM row = .ok shown)
    (names : ∀ song row', row song = .ok row' → ∀ name ∈ linkIdents (links row'), name ∈ idents song) :
    ∀ name ∈ linkIdents (shown.flatMap links), name ∈ host.service.known :=
  mapM_idents built fun song member row' made name named =>
    informed.knows name (List.mem_flatMap.mpr ⟨song, member, names song row' made name named⟩)

theorem stationTrackRow_idents {allAccess : Bool} {song : Song} {row : MenuObject}
    (built : stationTrackRow allAccess song = .ok row) :
    ∀ name ∈ linkIdents row.links, name ∈ song.idents := by
  have shown : ∃ id track, getTrack allAccess song id = .ok track ∧ row = .track track := by
    unfold stationTrackRow at built
    dsimp only at built
    split at built
    · split at built <;>
      · obtain ⟨id, _, rest⟩ := bind_eq_ok.mp built
        obtain ⟨track, made, same⟩ := bind_eq_ok.mp rest
        exact ⟨id, track, made, (Except.ok.inj same).symm⟩
    · obtain ⟨id, _, rest⟩ := bind_eq_ok.mp built
      obtain ⟨track, made, same⟩ := bind_eq_ok.mp rest
      exact ⟨id, track, made, (Except.ok.inj same).symm⟩
  obtain ⟨id, track, made, rfl⟩ := shown
  exact fun name => getTrack_idents made

theorem getStationTracks_shows {name : Text} {id : Reply String}
    (known : ∀ ident ∈ Reply.idents (fun station => [Ident.station station]) id, ident ∈ floor) :
    Shows exempt floor ObjectContainer.links (Handlers.getStationTracks client.traced name id) := by
  refine Ensures.bind (withRelogin_ensures (request_ensures ?_)) fun tracks => Ensures.getsBind fun api =>
    lift_shows (fun _ held => held.1.left) ?_
  · cases id with
    | emptyList => simp
    | value station => exact fun ident member => Or.inl (known ident member)
  · exact fun host held rows built => rows_known held.1 built fun song row => stationTrackRow_idents

theorem createStation_shows {id : String} (known : .genre id ∈ floor) :
    Shows exempt floor ObjectContainer.links (Handlers.createStation client.traced id) := by
  apply Ensures.bind (reply_ensures (by simpa using Or.inl known))
  intro station
  have shown : Shows exempt (floor ++ Reply.idents (fun station => [Ident.station station]) station)
      ObjectContainer.links (Handlers.getStationTracks client.traced (.literal (prettify id)) station) :=
    getStationTracks_shows fun ident member => List.mem_append_right floor member
  refine (shown.imp (fun _ held => held) fun answer host informed => informed.sub fun name member => ?_).onRaise
    fun _ => Informed.left
  rcases List.mem_append.mp member with old | new
  · exact List.mem_append_left _ (List.mem_append_left _ old)
  · exact List.mem_append_right _ new

theorem entryData_idents {api : GMusic} {entry : PlaylistEntry} {song : Song}
    (read : entryData api entry = .ok song) :
    (∀ name ∈ song.idents, name ∈ entry.idents) ∨ song ∈ api.allSongs := by
  cases embedded : entry.track with
  | some track =>
      rw [entryData, embedded] at read
      cases read
      exact Or.inl fun name named => by simpa [PlaylistEntry.idents, embedded] using named
  | none =>
      rw [entryData, embedded] at read
      exact Or.inr (getSong_mem read)

theorem tracksOfPlaylist_idents {id : String} {contents : List PlaylistContents} {entry : PlaylistEntry}
    (member : entry ∈ tracksOfPlaylist id contents) :
    ∀ name ∈ entry.idents, name ∈ contents.flatMap PlaylistContents.idents := by
  induction contents with
  | nil => cases member
  | cons playlist contents ih =>
      intro name named
      rw [List.flatMap_cons, List.mem_append]
      unfold tracksOfPlaylist at member
      split at member
      · exact Or.inl (List.mem_flatMap.mpr ⟨entry, member, named⟩)
      · exact Or.inr (ih member name named)

theorem getAllUserPlaylistContents_ensures {id : String} :
    Ensures (Informed exempt floor) (getAllUserPlaylistContents client.traced id)
      (fun entries => Informed exempt (floor ++ entries.flatMap PlaylistEntry.idents))
      (Informed exempt floor) := by
  refine Ensures.bind (cachedList_ensures (fun api contents member name named => .contents member named)
    fun _ _ _ => GMusic.named_withContents) fun contents => Ensures.pure fun host informed =>
      informed.sub fun name member => ?_
  rcases List.mem_append.mp member with old | new
  · exact List.mem_append_left _ old
  · obtain ⟨entry, inside, own⟩ := List.mem_flatMap.mp new
    exact List.mem_append_right _ (tracksOfPlaylist_idents inside name own)

theorem getPlaylistContents_informs {name id : String} :
    Shows exempt floor ObjectContainer.links (getPlaylistContents client.traced name id) := by
  refine getAllUserPlaylistContents_ensures.bind fun entries => Ensures.getsBind fun api =>
    lift_shows (fun _ held => held.1.left) ?_
  rintro host ⟨informed, rfl⟩ rows built
  refine mapM_idents built fun entry member row made name named => ?_
  obtain ⟨song, read, rest⟩ := bind_eq_ok.mp made
  obtain ⟨track, shown, same⟩ := bind_eq_ok.mp rest
  cases same
  rcases entryData_idents read with own | listed
  · exact informed.knows name (List.mem_flatMap.mpr ⟨entry, member, own name (getTrack_idents shown named)⟩)
  · exact informed.kept name (.song listed (getTrack_idents shown named))

theorem sharedTrackRow_idents {allAccess : Bool} {entry : PlaylistEntry} {row : MenuObject}
    (built : sharedTrackRow allAccess entry = .ok row) :
    ∀ name ∈ linkIdents row.links, name ∈ entry.idents := by
  obtain ⟨song, found, rest⟩ := bind_eq_ok.mp built
  obtain ⟨track, made, same⟩ := bind_eq_ok.mp rest
  cases same
  intro name named
  rw [PlaylistEntry.idents, field_eq_ok.mp found]
  simpa using getTrack_idents made named

theorem getSharedPlaylist_shows {name token : String} (known : .share token ∈ floor) :
    Shows exempt floor ObjectContainer.links (Handlers.getSharedPlaylist client.traced name token) := by
  refine Ensures.bind (withRelogin_ensures (request_ensures (by simpa using Or.inl known))) fun tracks =>
    Ensures.getsBind fun api => lift_shows (fun _ held => held.1.left) ?_
  exact fun host held rows built => rows_known held.1 built fun entry row => sharedTrackRow_idents

theorem genresMenu_shows : Shows exempt floor StoreContainer.links (genresMenu client.traced) := by
  refine Ensures.bind (withRelogin_ensures (request_ensures (by simp))) fun genres =>
    lift_shows (fun _ => Informed.left) ?_
  intro host informed rows built
  apply rows_known informed built
  intro genre row made name named
  obtain ⟨thumb, _, same⟩ := bind_eq_ok.mp made
  cases same
  simpa [linkIdents, StoreObject.links, Link.idents, Genre.idents] using named

theorem HitKind.row_idents {kind : HitKind} {hit : Hit} {row : StoreObject} (built : kind.row hit = .ok row) :
    ∀ name ∈ linkIdents row.links, name ∈ hit.idents := by
  intro name named
  cases kind with
  | album =>
      obtain ⟨album, found, same⟩ := bind_eq_ok.mp built
      cases same
      rw [field_eq_ok] at found
      simp only [linkIdents, StoreObject.links, List.flatMap_singleton, Link.idents] at named
      simp [Hit.idents, found, Album.idents, List.mem_singleton.mp named]
  | artist =>
      obtain ⟨artist, found, same⟩ := bind_eq_ok.mp built
      cases same
      rw [field_eq_ok] at found
      simp only [linkIdents, StoreObject.links, List.flatMap_singleton, Link.idents] at named
      simp [Hit.idents, found, List.mem_singleton.mp named]
  | song =>
      obtain ⟨track, found, rest⟩ := bind_eq_ok.mp built
      obtain ⟨title, _, rest⟩ := bind_eq_ok.mp rest
      obtain ⟨thumb, _, same⟩ := bind_eq_ok.mp rest
      cases same
      rw [field_eq_ok] at found
      simp only [linkIdents, StoreObject.links, List.flatMap_singleton, Link.idents] at named
      simp [Hit.idents, found, named]
  | playlist =>
      obtain ⟨playlist, found, rest⟩ := bind_eq_ok.mp built
      obtain ⟨thumb, _, same⟩ := bind_eq_ok.mp rest
      cases same
      rw [field_eq_ok] at found
      simp only [linkIdents, StoreObject.links, List.flatMap_singleton, Link.idents, Callback.idents] at named
      simp [Hit.idents, found, List.mem_singleton.mp named]

theorem hitRows_idents {hits : Hits} {kinds : List HitKind} {rows : List StoreObject}
    (built : hitRows hits kinds = .ok rows) :
    ∀ name ∈ linkIdents (rows.flatMap StoreObject.links), name ∈ hits.idents := by
  induction kinds generalizing rows with
  | nil =>
      cases built
      simp [linkIdents]
  | cons kind kinds ih =>
      obtain ⟨first, shown, rest⟩ := bind_eq_ok.mp built
      obtain ⟨others, later, same⟩ := bind_eq_ok.mp rest
      cases same
      intro name named
      rw [List.flatMap_append, linkIdents, List.flatMap_append, List.mem_append] at named
      rcases named with own | other
      · refine mapM_idents shown (fun hit member row made name named => ?_) name own
        refine List.mem_flatMap.mpr ⟨hit, ?_, HitKind.row_idents made name named⟩
        cases kind <;> simp [Hits.values] at member <;> simp [member]
      · exact ih later name other

theorem searchMenu_shows {order : Iteration} {query : String} :
    Shows exempt floor StoreContainer.links (searchMenu client.traced search.traced order query) := by
  apply Ensures.bind (reply_ensures (by simp))
  intro results
  cases results with
  | emptyList => exact Ensures.raise fun _ => Informed.left
  | value hits =>
      exact lift_shows (fun _ => Informed.left) fun host informed rows built name named =>
        informed.knows name (hitRows_idents built name named)

theorem getArtistInfo_shows {name id : String} (known : .artist id ∈ floor) :
    Shows exempt floor StoreContainer.links (Handlers.getArtistInfo client.traced name id) := by
  apply Ensures.bind (reply_ensures (by simpa using Or.inl known))
  intro results
  cases results with
  | emptyList => exact Ensures.raise fun _ => Informed.left
  | value artist =>
      apply lift_shows (fun _ => Informed.left)
      intro host informed albums listed name named
      obtain ⟨link, shown, own⟩ := List.mem_flatMap.mp named
      obtain ⟨row, member, rowLink⟩ := List.mem_flatMap.mp shown
      obtain ⟨album, inside, rfl⟩ := List.mem_map.mp member
      refine informed.knows name (List.mem_flatMap.mpr ⟨album, ?_, ?_⟩)
      · rw [field_eq_ok.mp listed]
        exact sortedBy_perm.mem_iff.mp inside
      · rw [List.mem_singleton.mp rowLink] at own
        exact own

theorem getAlbumInfo_shows {name id : String} (known : .album id ∈ floor) :
    Shows exempt floor StoreContainer.links (Handlers.getAlbumInfo client.traced name id) := by
  apply Ensures.bind (reply_ensures (by simpa using Or.inl known))
  intro results
  cases results with
  | emptyList => exact Ensures.raise fun _ => Informed.left
  | value album =>
      change Ensures _ (Exec.lift (field "tracks" album.tracks) >>= _) _ _
      refine Ensures.bind (Ensures.lift (fun tracks listed host informed =>
        And.intro informed listed) fun _ => Informed.left) fun tracks => ?_
      refine Ensures.getsBind fun api => lift_shows (fun _ held => held.1.1.left) ?_
      rintro host ⟨⟨informed, listed⟩, _⟩ rows built
      refine mapM_idents built fun song member row made name named => ?_
      obtain ⟨nid, _, rest⟩ := bind_eq_ok.mp made
      obtain ⟨track, shown, same⟩ := bind_eq_ok.mp rest
      cases same
      refine informed.knows name (List.mem_flatMap.mpr ⟨song, ?_, getTrack_idents shown named⟩)
      rw [field_eq_ok.mp listed]
      exact member

theorem songRow_idents {allAccess : Bool} {song : Song} {row : TrackObject}
    (built : songRow allAccess song = .ok row) : ∀ name ∈ linkIdents row.links, name ∈ song.idents := by
  obtain ⟨id, _, made⟩ := bind_eq_ok.mp built
  exact fun name => getTrack_idents made

theorem track_links (rows : List TrackObject) :
    (rows.map MenuObject.track).flatMap MenuObject.links = rows.flatMap TrackObject.links := by
  rw [List.flatMap_map]
  rfl

theorem showSongs_shows {random : Shuffle Song} {title : String} {shuffle : Bool} {page : Int} :
    Shows exempt floor ObjectContainer.links
      (onApi (showSongs random title shuffle page) : Exec (Host (Party σ)) Raised ObjectContainer) := by
  refine onApi_ensures fun known => Ensures.getsBind fun loaded => Ensures.ite (fun _ => ?_) fun _ => ?_
  · refine Ensures.bind (Ensures.when (Ensures.modify fun api held name named => ?_) fun api held => held.1)
      fun _ => Ensures.getsBind fun api => Ensures.bind (Ensures.lift (fun rows built state held => ?_)
        fun state held => held.1) fun rows => Ensures.pure fun state held => held
    · refine held.1 name (named.of_songs (fun song member => (random.perm _).mem_iff.mp member) ?_)
      exact ⟨funext fun _ => GMusic.index_withSongs, rfl, rfl, rfl⟩
    · obtain ⟨names, rfl⟩ := held
      refine ⟨names, fun name named => ?_⟩
      have rowsNamed : name ∈ linkIdents (rows.flatMap TrackObject.links) := by
        rw [ObjectContainer.links, List.flatMap_append, track_links] at named
        rw [linkIdents, List.flatMap_append, List.mem_append] at named
        apply named.resolve_right
        intro next
        split at next <;> simp [MenuObject.links, Link.idents, Callback.idents] at next
      refine mapM_idents built (fun song member row made name own => ?_) name rowsNamed
      refine names name (.song ?_ (songRow_idents made name own))
      have inside := mem_of_mem_slice member
      split at inside
      · exact inside
      · exact sortedBy_perm.mem_iff.mp inside
  · exact Ensures.pure fun api held =>
      ⟨held.1, by simp [ObjectContainer.notice, ObjectContainer.links, linkIdents]⟩

theorem mem_items_of_tracks {api : GMusic} {type name : String} {entries : List Entry} {entry : Entry}
    (read : getTracksForType api type name = .ok entries) (member : entry ∈ entries) :
    ∃ category, entry ∈ (api.index category).items := by
  have inside : ∀ category, field name ((api.index category).lookup name) = .ok entries →
      ∃ category, entry ∈ (api.index category).items := fun category found => by
    have filed : entry ∈ (api.index category).group name := by
      rw [Groups.group, field_eq_ok.mp found]
      exact member
    exact ⟨category, Groups.mem_items_of_mem_group filed⟩
  unfold getTracksForType at read
  dsimp only at read
  split at read
  · exact inside .artist read
  split at read
  · exact inside .album read
  split at read
  · exact inside .genre read
  split at read
  · exact inside .letter read
  · cases read
    cases member

theorem getTrackList_named {api : GMusic} {type name : String} {container : ObjectContainer}
    (returned : getTrackList name type api = .ok container) :
    ∀ ident ∈ linkIdents container.links, api.Named ident := by
  obtain ⟨entries, read, rest⟩ := bind_eq_ok.mp returned
  obtain ⟨rows, built, same⟩ := bind_eq_ok.mp rest
  cases same
  rw [ObjectContainer.links, track_links]
  refine mapM_idents built fun entry member row made ident named => ?_
  obtain ⟨category, inside⟩ := mem_items_of_tracks read (sortedEntries_perm.mem_iff.mp member)
  exact .entry inside (getTrack_idents made named)

theorem librarySubMenu_named {api : GMusic} {title : String} {page : Int} :
    linkIdents (librarySubMenu title page api).links = [] := by
  rw [linkIdents, List.flatMap_eq_nil_iff]
  intro link shown
  obtain ⟨object, member, own⟩ := List.mem_flatMap.mp shown
  unfold librarySubMenu at member
  split at member
  · rcases List.mem_append.mp member with row | next
    · obtain ⟨key, _, rfl⟩ := List.mem_map.mp row
      rw [List.mem_singleton.mp own]
      rfl
    · split at next
      · rw [List.mem_singleton.mp next] at own
        rw [List.mem_singleton.mp own]
        rfl
      · cases next
  · cases member

theorem silent_ensures {endpoint : Exec σ Raised β} :
    Ensures (Informed exempt floor) (onService (trace [] (fun _ => []) endpoint))
      (fun _ => Informed exempt floor) (Informed exempt floor) :=
  (request_ensures (by simp)).imp (fun _ held => held) fun _ _ => Informed.left

/-- Neither flags nor the device are ids of what the service lists. -/
theorem flag_ensures {write : GMusic → GMusic} {fails : Host (Party σ) → Prop}
    (same : ∀ api, (write api).allSongs = api.allSongs ∧ (write api).index = api.index ∧
      (write api).playlists = api.playlists ∧ (write api).playlistContents = api.playlistContents ∧
      (write api).stations = api.stations) :
    Ensures (Informed exempt floor) (onApi (Exec.modify write)) (fun _ => Informed exempt floor) fails :=
  write_ensures fun api _ named => Or.inl (named.of_songs (fun _ member => (same api).1 ▸ member) (same api).2)

theorem authenticate_ensures {arguments : List String} :
    Ensures (Informed exempt floor) (authenticate client.traced arguments)
      (fun _ => Informed exempt floor) (Informed exempt floor) := by
  have unchanged : ∀ api : GMusic, api.allSongs = api.allSongs ∧ api.index = api.index ∧
      api.playlists = api.playlists ∧ api.playlistContents = api.playlistContents ∧
      api.stations = api.stations := fun api => ⟨rfl, rfl, rfl, rfl, rfl⟩
  unfold authenticate
  split
  · refine Ensures.bind (Ensures.handle silent_ensures fun reason => ?_) fun accepted =>
      Ensures.bind (flag_ensures unchanged) fun _ => Ensures.bind (flag_ensures unchanged) fun _ =>
      Ensures.bind ?_ fun _ => Ensures.gets fun _ held => held
    · cases reason <;> first | exact Ensures.pure fun _ held => held | exact Ensures.raise fun _ held => held
    · refine Ensures.getsBind fun api => Ensures.ite (fun _ => ?_) fun _ => Ensures.pure fun _ held => held.1
      refine Ensures.bind (silent_ensures.imp (fun _ held => held.1) fun _ _ held => held) fun devices =>
        Ensures.bind (Ensures.lift (fun _ _ _ held => held) fun _ held => held) fun device => ?_
      exact flag_ensures unchanged
  · exact Ensures.raise fun _ held => held

theorem setAllSongs_ensures :
    Ensures (Informed exempt floor) (setAllSongs client.traced) (fun _ => Informed exempt floor)
      (Informed exempt floor) := by
  refine Ensures.getsBind fun songs => Ensures.ite (fun _ => ?_) fun _ => Ensures.pure fun _ held => held.1
  refine withRelogin_ensures (Ensures.bind ((request_ensures (by simp)).imp (fun _ held => held.1)
    fun _ _ held => held) fun answer => Ensures.bind (write_ensures fun api name named => ?_) fun _ =>
      Ensures.pure fun _ => Informed.left)
  exact (GMusic.named_withSongs named).imp_right (List.mem_append_right floor)

theorem loadData_ensures :
    Ensures (Informed exempt floor) (loadData client.traced) (fun _ => Informed exempt floor)
      (Informed exempt floor) :=
  Ensures.bind setAllSongs_ensures fun _ => onApi_kept fun _ _ => indexLibrary_named

theorem addItem_ensures {id : String} {playlist : Option String} {type : Int}
    (known : ∀ name ∈ Ident.store id :: playlist.toList.map .playlist, name ∈ floor) :
    Ensures (Informed exempt floor) (addItem client.traced id playlist type)
      (fun _ => Informed exempt floor) (Informed exempt floor) := by
  refine Ensures.ite (fun _ => Ensures.map (withRelogin_ensures ?_)) fun _ =>
    Ensures.map (withRelogin_ensures ?_)
  · refine (request_ensures fun name member => Or.inl (known name ?_)).imp (fun _ held => held)
      fun _ _ => Informed.left
    exact List.mem_cons.mpr (Or.inl (List.mem_singleton.mp member))
  · exact (request_ensures fun name member => Or.inl (known name member)).imp (fun _ held => held)
      fun _ _ => Informed.left

theorem getStreamUrl_ensures {id : String} (known : .song id ∈ floor ∨ exempt (.song id)) :
    Ensures (Informed exempt floor) (getStreamUrl client.traced id) (fun _ => Informed exempt floor)
      (Informed exempt floor) := by
  refine Ensures.handle (Ensures.getsBind fun device => (request_ensures fun name member => ?_).imp
    (fun _ held => held.1) fun _ _ => Informed.left) fun reason => ?_
  · rw [List.mem_singleton.mp member]
    exact known
  · cases reason <;> exact Ensures.raise fun _ held => held

/-- `PlayAudio` asks for the ids of its row, and for the placeholder where one is missing. -/
theorem playAudio_ensures {id storeId : PlayId} (known : ∀ name ∈ id.idents ++ storeId.idents, name ∈ floor)
    (placeholder : exempt (.song "0")) :
    Ensures (Informed exempt floor) (playAudio client.traced id.argument.delivered storeId.argument.delivered)
      (fun _ => Informed exempt floor) (Informed exempt floor) := by
  have streams : ∀ playId : PlayId, (∀ name ∈ playId.idents, name ∈ floor) →
      Ensures (Informed exempt floor) (streamUrl client.traced playId.argument.delivered)
        (fun _ => Informed exempt floor) (Informed exempt floor) := fun playId own => by
    cases playId with
    | id song => exact getStreamUrl_ensures (Or.inl (own _ (List.mem_singleton.mpr rfl)))
    | missing => exact getStreamUrl_ensures (Or.inr placeholder)
  have first := streams storeId fun name member => known name (List.mem_append_right _ member)
  have second := streams id fun name member => known name (List.mem_append_left _ member)
  refine Ensures.ite (fun _ => Ensures.handle first fun reason => ?_) fun _ => second
  cases reason <;> first | exact second | exact Ensures.raise fun _ held => held

end Handlers

end GoogleMusic
