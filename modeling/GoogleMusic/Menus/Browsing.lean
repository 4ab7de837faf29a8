import GoogleMusic.Foundation.Paging
import GoogleMusic.Menus.Rows

namespace GoogleMusic

open Foundation

def Song.titleKey (song : Song) : WithBot String := sortKey song.title

def Song.listable (song : Song) : Bool := song.playable && song.id.isSome

def Song.shown (allAccess : Bool) (song : Song) : TrackObject := song.row allAccess (song.id.getD "")

structure GMusic.Browsable (api : GMusic) : Prop where
  loaded : api.libraryLoaded = true
  fields : ∀ song ∈ api.allSongs, song.listable = true

/-- The list behind a page, once the page has shuffled. -/
def listed (shuffle : Bool) (songs : List Song) : List Song :=
  if shuffle then songs else sortedBy Song.titleKey songs

section Page

variable {api : GMusic} {random : Shuffle Song} {title : String} {shuffle : Bool} {index : Nat}
variable {songs : List Song}

theorem slice_page {α : Type} (values : List α) (index : Nat) :
    slice values (((index : Int) + 1 - 1) * pageSize) (((index : Int) + 1 - 1) * pageSize + pageSize) =
      page 50 index values := by
  have start : ((index : Int) + 1 - 1) * pageSize = ((index * 50 : Nat) : Int) := by
    simp [pageSize]
  have stop : ((index * 50 : Nat) : Int) + pageSize = (((index + 1) * 50 : Nat) : Int) := by
    simp only [pageSize]
    omega
  have size : (index + 1) * 50 - index * 50 = 50 := by omega
  rw [start, stop, slice_of_nonneg, size]
  rfl

theorem page_stop_lt (index length : Nat) :
    ((index : Int) + 1 - 1) * pageSize + pageSize < (length : Int) ↔ (index + 1) * 50 < length := by
  simp only [pageSize]
  omega

theorem songRow_of_listable {song : Song} (fields : song.listable = true) (allAccess : Bool) :
    songRow allAccess song = .ok (song.shown allAccess) := by
  simp only [Song.listable, Bool.and_eq_true] at fields
  obtain ⟨id, hasId⟩ := Option.isSome_iff_exists.mp fields.2
  rw [songRow, hasId, field_some, Song.shown, hasId]
  exact getTrack_of_playable fields.1

theorem shown_injective (allAccess : Bool) : Function.Injective (Song.shown allAccess) :=
  fun _ _ same => song_eq_of_row same

theorem listed_perm : (listed shuffle songs).Perm songs := by
  unfold listed
  split
  · exact List.Perm.rfl
  · exact sortedBy_perm

def GMusic.reordered (random : Shuffle Song) (shuffle : Bool) (api : GMusic) : GMusic :=
  if shuffle then api.withSongs (random.apply api.allSongs) else api

theorem GMusic.Browsable.of_perm (browsable : api.Browsable) (same : songs.Perm api.allSongs) :
    (api.withSongs songs).Browsable where
  loaded := browsable.loaded
  fields song member := browsable.fields song (same.mem_iff.mp member)

theorem GMusic.Browsable.reordered (browsable : api.Browsable) :
    (api.reordered random shuffle).Browsable := by
  unfold GMusic.reordered
  split
  · exact browsable.of_perm (random.perm _)
  · exact browsable

def songPage (title : String) (shuffle : Bool) (index : Nat) (api : GMusic) : ObjectContainer where
  title2 := some (.label title)
  objects :=
    ((page 50 index (listed shuffle api.allSongs)).map (Song.shown api.allAccess)).map .track ++
      if (index + 1) * 50 < api.allSongs.length then
        [.nextPage (.showSongs title shuffle (index + 1 + 1))]
      else []

theorem showSongs_run (random : Shuffle Song) (title : String) (shuffle : Bool) (index : Nat)
    (browsable : api.Browsable) :
    (showSongs random title shuffle (index + 1)).run api =
      (.ok (songPage title shuffle index (api.reordered random shuffle)),
        api.reordered random shuffle) := by
  have rows : ∀ list : List Song, list.Perm api.allSongs →
      (page 50 index list).mapM (songRow api.allAccess) =
        .ok ((page 50 index list).map (Song.shown api.allAccess)) := by
    intro list same
    refine mapM_eq_map _ fun song member => songRow_of_listable (browsable.fields song ?_) _
    exact same.mem_iff.mp (List.mem_of_mem_drop (List.mem_of_mem_take member))
  cases shuffle with
  | false =>
      simp only [showSongs, Exec.run_bind, Exec.run_gets, browsable.loaded, if_true, Exec.when_false,
        Exec.run_pure, Exec.run_lift, Bool.false_eq_true, if_false, id, slice_page, page_stop_lt]
      rw [rows _ sortedBy_perm]
      rfl
  | true =>
      simp only [showSongs, Exec.run_bind, Exec.run_gets, browsable.loaded, if_true, Exec.when_true,
        Exec.run_modify, Exec.run_pure, Exec.run_lift, id, slice_page, page_stop_lt]
      rw [GMusic.allSongs_withSongs]
      have listedRows := rows _ (random.perm api.allSongs)
      simp only [GMusic.withSongs] at listedRows ⊢
      rw [listedRows]
      rfl

end Page

def interlude : List (String × Int) → (Nat → Shuffle Song) → GMusic → GMusic
  | [], _, api => api
  | (title, page) :: requests, random, api =>
      interlude requests (fun i => random (i + 1)) ((showSongs (random 0) title true page).final api)

/-- Open a page and follow its next-page links over at most `count` pages, answering
the pages and the link that is left.  `requests i` are made before the `i`-th page, and
`random i` are the draws from there on to that page's own. -/
def follow : Nat → (Nat → Nat → Shuffle Song) → (Nat → List (String × Int)) → Callback → GMusic →
    Except Raised (List ObjectContainer × Option Callback)
  | 0, _, _, link, _ => .ok ([], some link)
  | count + 1, random, requests, .showSongs title shuffle page, api => do
      let start := interlude (requests 0) (random 0) api
      let (answer, after) :=
        (showSongs (random 0 (requests 0).length) title shuffle page).run start
      let container ← answer
      match container.nextPage with
      | none => .ok ([container], none)
      | some link => do
          let (containers, left) ←
            follow count (fun i => random (i + 1)) (fun i => requests (i + 1)) link after
          .ok (container :: containers, left)
  | _ + 1, _, _, link, _ => .ok ([], some link)

/-- The order in which one page finds the list, its own shuffle included. -/
def visitOrder (shuffle : Bool) (random : Nat → Shuffle Song) (requests : List (String × Int))
    (songs : List Song) : List Song :=
  mix (requests.length + if shuffle then 1 else 0) random songs

def orders (shuffle : Bool) (random : Nat → Nat → Shuffle Song)
    (requests : Nat → List (String × Int)) (songs : List Song) : Nat → List Song
  | 0 => visitOrder shuffle (random 0) (requests 0) songs
  | visit + 1 =>
      visitOrder shuffle (random (visit + 1)) (requests (visit + 1))
        (orders shuffle random requests songs visit)

def lists (shuffle : Bool) (random : Nat → Nat → Shuffle Song)
    (requests : Nat → List (String × Int)) (songs : List Song) (visit : Nat) : List Song :=
  listed shuffle (orders shuffle random requests songs visit)

section Follow

variable {api : GMusic} {random : Nat → Nat → Shuffle Song} {requests : Nat → List (String × Int)}
variable {shuffle : Bool} {title : String} {songs : List Song} {count index visit : Nat}

theorem interlude_eq {requests : List (String × Int)} {random : Nat → Shuffle Song} (api : GMusic)
    (loaded : api.libraryLoaded = true) :
    interlude requests random api = api.withSongs (mix requests.length random api.allSongs) := by
  induction requests generalizing random api with
  | nil => rfl
  | cons request requests ih =>
      rw [interlude, showSongs_final, loaded, Bool.true_and, if_pos rfl]
      exact ih (api.withSongs ((random 0).apply api.allSongs)) loaded

theorem orders_shift :
    orders shuffle (fun i => random (i + 1)) (fun i => requests (i + 1))
        (visitOrder shuffle (random 0) (requests 0) songs) visit =
      orders shuffle random requests songs (visit + 1) := by
  induction visit with
  | zero => rfl
  | succ visit ih =>
      rw [orders, ih]
      rfl

theorem orders_perm : (orders shuffle random requests songs visit).Perm songs := by
  induction visit with
  | zero => exact mix_perm
  | succ visit ih => exact mix_perm.trans ih

/-- The order stays as it is while no visit moves anything. -/
theorem orders_still {first : Nat} (beyond : first ≤ visit)
    (still : ∀ later, first < later → later ≤ visit → ∀ list : List Song,
      visitOrder shuffle (random later) (requests later) list = list) :
    orders shuffle random requests songs visit = orders shuffle random requests songs first := by
  induction visit, beyond using Nat.le_induction with
  | base => rfl
  | succ visit beyond ih =>
      rw [orders, still (visit + 1) (Nat.lt_succ_of_le beyond) (Nat.le_refl _)]
      exact ih fun later after below => still later after (Nat.le_succ_of_le below)

theorem lists_perm : (lists shuffle random requests songs visit).Perm songs :=
  listed_perm.trans orders_perm

theorem reordered_interlude (loaded : api.libraryLoaded = true) :
    (interlude (requests 0) (random 0) api).reordered (random 0 (requests 0).length) shuffle =
      api.withSongs (visitOrder shuffle (random 0) (requests 0) api.allSongs) := by
  rw [interlude_eq api loaded]
  cases shuffle with
  | false => rfl
  | true =>
      rw [visitOrder, if_pos rfl, mix_succ]
      rfl

theorem songPage_tracks (title : String) (shuffle : Bool) (index : Nat) (api : GMusic) :
    (songPage title shuffle index api).tracks =
    (page 50 index (listed shuffle api.allSongs)).map (Song.shown api.allAccess) := by
  rw [songPage, ObjectContainer.tracks, List.filterMap_append, ObjectContainer.filterMap_asTrack]
  split <;> simp [MenuObject.asTrack]

theorem songPage_nextPage (title : String) (shuffle : Bool) (index : Nat) (api : GMusic) :
    (songPage title shuffle index api).nextPage =
    if (index + 1) * 50 < api.allSongs.length then
      some (.showSongs title shuffle (index + 1 + 1)) else none := by
  rw [songPage, ObjectContainer.nextPage, List.findSome?_append, ObjectContainer.findSome_nextKey]
  split <;> rfl

/-- Following the links to their end shows the pages of the lists behind them. -/
theorem follow_run (random : Nat → Nat → Shuffle Song) (requests : Nat → List (String × Int))
    (title : String) (shuffle : Bool) (index : Nat) (browsable : api.Browsable) (positive : 0 < count)
    (pages : index + count = pageCount 50 api.allSongs.length) :
    ∃ containers,
      follow count random requests (.showSongs title shuffle (index + 1)) api =
        .ok (containers, none) ∧
      containers.length = count ∧
      containers.flatMap ObjectContainer.tracks =
        (shown 50 count index (lists shuffle random requests api.allSongs)).map
          (Song.shown api.allAccess) := by
  induction count generalizing index random requests api with
  | zero => exact absurd positive (lt_irrefl 0)
  | succ count ih =>
      have started : (interlude (requests 0) (random 0) api).Browsable := by
        rw [interlude_eq api browsable.loaded]
        exact browsable.of_perm mix_perm
      have opened := showSongs_run (random 0 (requests 0).length) title shuffle index started
      rw [reordered_interlude browsable.loaded] at opened
      -- `after` is the state between this page and the next one.
      generalize left : api.withSongs
        (visitOrder shuffle (random 0) (requests 0) api.allSongs) = after at opened
      have songs : after.allSongs = visitOrder shuffle (random 0) (requests 0) api.allSongs := by
        rw [← left, GMusic.allSongs_withSongs]
      have access : after.allAccess = api.allAccess := by
        rw [← left]
        rfl
      have perm : after.allSongs.Perm api.allSongs := songs ▸ mix_perm
      have next := songPage_nextPage title shuffle index after
      have tracks := songPage_tracks title shuffle index after
      rw [perm.length_eq] at next
      rw [songs, access] at tracks
      by_cases last : count = 0
      · subst last
        have stops : ¬ (index + 1) * 50 < api.allSongs.length := by
          rw [page_continues_iff (by decide), ← pages]
          omega
        rw [if_neg stops] at next
        refine ⟨[songPage title shuffle index after], ?_, rfl, ?_⟩
        · simp only [follow, opened, bind, Except.bind, next]
        · rw [List.flatMap_singleton, tracks, shown, shown, List.append_nil]
          rfl
      · have continues : (index + 1) * 50 < api.allSongs.length := by
          rw [page_continues_iff (by decide), ← pages]
          omega
        rw [if_pos continues] at next
        have readable : after.Browsable := left ▸ browsable.of_perm (songs ▸ perm)
        obtain ⟨containers, ran, length, rest⟩ := ih
          (fun i => random (i + 1)) (fun i => requests (i + 1)) (index + 1)
          readable (Nat.pos_of_ne_zero last) (by rw [perm.length_eq, ← pages]; omega)
        rw [Int.natCast_add, Int.natCast_one] at ran
        refine ⟨songPage title shuffle index after :: containers, ?_,
          by rw [List.length_cons, length], ?_⟩
        · simp only [follow, opened, bind, Except.bind, next, ran]
        · rw [List.flatMap_cons, tracks, rest, shown, List.map_append, songs, access]
          refine congrArg₂ _ rfl (congrArg (List.map _) (congrArg _ (funext fun visit => ?_)))
          exact congrArg (listed shuffle) orders_shift

end Follow

def GMusic.loadedWith (songs : List Song) : GMusic :=
  ((loadData (Remote.ofSongs songs).withSession).final Host.signedIn).api

theorem loadedWith_songs {songs : List Song} (fields : ∀ song ∈ songs, song.indexable = true) :
    (GMusic.loadedWith songs).allSongs = songs ∧ (GMusic.loadedWith songs).libraryLoaded = true := by
  obtain ⟨after, ran, same, loaded⟩ :=
    loadData_of_indexable (Remote.ofSongs songs).withSession Host.signedIn rfl rfl fields
  rw [GMusic.loadedWith, Exec.final, ran]
  exact ⟨same, loaded⟩

theorem loadedWith_browsable {songs : List Song} (fields : ∀ song ∈ songs, song.indexable = true)
    (playable : ∀ song ∈ songs, song.playable = true) : (GMusic.loadedWith songs).Browsable where
  loaded := (loadedWith_songs fields).2
  fields song member := by
    rw [(loadedWith_songs fields).1] at member
    have indexable := fields song member
    simp only [Song.indexable, Bool.and_eq_true] at indexable
    rw [Song.listable, playable song member, indexable.2, Bool.and_self]

def fiftyOneSongs : List Song :=
  (List.range 51).map fun number =>
    { Song.sample with id := some (String.ofList (List.replicate (number + 1) 'i')) }

theorem fiftyOneSongs_browsable : (GMusic.loadedWith fiftyOneSongs).Browsable :=
  loadedWith_browsable
    (fun _ member => by obtain ⟨_, _, rfl⟩ := List.mem_map.mp member; rfl)
    (fun _ member => by obtain ⟨_, _, rfl⟩ := List.mem_map.mp member; rfl)

theorem fiftyOneSongs_loaded : (GMusic.loadedWith fiftyOneSongs).allSongs = fiftyOneSongs :=
  (loadedWith_songs fun _ member => by obtain ⟨_, _, rfl⟩ := List.mem_map.mp member; rfl).1

end GoogleMusic
