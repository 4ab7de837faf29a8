import GoogleMusic.Menus.Reference

namespace GoogleMusic

open Foundation Host

variable {σ : Type}

/-- Open a page and follow its next-page links over at most `count` pages, answering
the pages and the link that is left. -/
def followMenu (api : GMusic) : Nat → Callback → List ObjectContainer × Option Callback
  | 0, link => ([], some link)
  | count + 1, .librarySubMenu title page =>
      let container := librarySubMenu title page api
      match container.nextPage with
      | none => ([container], none)
      | some link =>
          let rest := followMenu api count link
          (container :: rest.1, rest.2)
  | _ + 1, link => ([], some link)

def menuKeys (title : String) (api : GMusic) : List String := sortedBy id (menuOfTitle api title).keys

def menuPage (title : String) (api : GMusic) (index : Nat) : ObjectContainer where
  title2 := some (.label title)
  objects :=
    (page 50 index (menuKeys title api)).map (menuRow (menuOfTitle api title) title) ++
      if (index + 1) * 50 < (menuOfTitle api title).keys.length then
        [.nextPage (.librarySubMenu title (index + 1 + 1))]
      else []

section Pages

variable {api : GMusic} {title : String} {index count : Nat}

theorem menuKeys_length : (menuKeys title api).length = (menuOfTitle api title).keys.length :=
  sortedBy_perm.length_eq

theorem menuKeys_increasing : (menuKeys title api).Pairwise fun left right => left < right := by
  have distinct : (menuKeys title api).Nodup :=
    sortedBy_perm.nodup_iff.mpr (AList.keys_nodup (menuOfTitle api title))
  have sorted : (menuKeys title api).Pairwise fun left right => id left ≤ id right := sortedBy_pairwise
  exact sorted.imp₂ (fun left right below different => lt_of_le_of_ne below different) distinct

theorem mem_menuKeys {key : String} : key ∈ menuKeys title api ↔ key ∈ menuOfTitle api title :=
  sortedBy_perm.mem_iff.trans AList.mem_keys

theorem librarySubMenu_run (title : String) (index : Nat) (loaded : api.libraryLoaded = true) :
    librarySubMenu title (index + 1) api = menuPage title api index := by
  simp only [librarySubMenu, loaded, if_true, slice_page, page_stop_lt, menuPage]
  rfl

theorem menuPage_nextPage : (menuPage title api index).nextPage =
    if (index + 1) * 50 < (menuOfTitle api title).keys.length then
      some (.librarySubMenu title (index + 1 + 1)) else none := by
  have rows : ∀ keys : List String,
      (keys.map (menuRow (menuOfTitle api title) title)).findSome? MenuObject.nextKey = none := by
    intro keys
    simp [List.findSome?_eq_none_iff, menuRow, MenuObject.nextKey]
  rw [menuPage, ObjectContainer.nextPage, List.findSome?_append, rows]
  split <;> rfl

theorem menuPage_titles : (menuPage title api index).titles = page 50 index (menuKeys title api) := by
  have rows : ∀ keys : List String,
      (keys.map (menuRow (menuOfTitle api title) title)).filterMap MenuObject.directoryTitle = keys := by
    intro keys
    simp [List.filterMap_map, Function.comp_def, menuRow, MenuObject.directoryTitle]
  rw [menuPage, ObjectContainer.titles, List.filterMap_append, rows]
  split <;> simp [MenuObject.directoryTitle]

theorem menuPage_rows {object : MenuObject} (shown : object ∈ (menuPage title api index).objects) :
    (∃ key thumb, object = .directory (.getTrackList key title) (.literal key) thumb) ∨
      ∃ next, object = .nextPage (.librarySubMenu title next) := by
  rcases List.mem_append.mp shown with row | next
  · obtain ⟨key, _, rfl⟩ := List.mem_map.mp row
    exact Or.inl ⟨key, _, rfl⟩
  · split at next
    · exact Or.inr ⟨_, List.mem_singleton.mp next⟩
    · cases next

/-- Each step opens one page; the link goes on until the pages that are due are read. -/
theorem followMenu_run (title : String) (index : Nat) (loaded : api.libraryLoaded = true)
    (positive : 0 < count)
    (pages : index + count = pageCount 50 (menuOfTitle api title).keys.length) :
    followMenu api count (.librarySubMenu title (index + 1)) =
      ((List.range' index count).map (menuPage title api), none) := by
  induction count generalizing index with
  | zero => exact absurd positive (lt_irrefl 0)
  | succ count ih =>
      have next : (menuPage title api index).nextPage = _ := menuPage_nextPage
      have continues : (index + 1) * 50 < (menuOfTitle api title).keys.length ↔
          index + 1 < pageCount 50 (menuOfTitle api title).keys.length :=
        page_continues_iff (by decide)
      rw [followMenu, librarySubMenu_run title index loaded, List.range'_succ, List.map_cons]
      by_cases last : count = 0
      · subst last
        rw [if_neg (by omega)] at next
        rw [next]
        rfl
      · rw [if_pos (by omega)] at next
        have rest := ih (index + 1) (Nat.pos_of_ne_zero last) (by omega)
        rw [Int.natCast_add, Int.natCast_one] at rest
        simp only [next, rest]

theorem exists_menuPage {container : ObjectContainer}
    (shown : container ∈ (List.range' 0 count).map (menuPage title api)) :
    ∃ index < count, container = menuPage title api index := by
  obtain ⟨index, inside, rfl⟩ := List.mem_map.mp shown
  rw [List.mem_range'_1] at inside
  exact ⟨index, by omega, rfl⟩

end Pages

/-- The titles under which the library is grouped, each with its map. -/
def GMusic.titledMenus (api : GMusic) : List (String × Menu) :=
  [("Artists", api.artists), ("Albums", api.albums), ("Genres", api.genres),
    ("Songs By Letter", api.letters)]

/-- The pages that a reader of the map's keys should be shown under the title.  An entry is
titled with a key and leads to its track list. -/
structure MenuPages (title : String) (menu : Menu) (containers : List ObjectContainer) : Prop where
  count : containers.length = max 1 ((menu.keys.length + 49) / 50)
  increasing : (containers.flatMap ObjectContainer.titles).Pairwise fun left right => left < right
  complete : ∀ key, key ∈ containers.flatMap ObjectContainer.titles ↔ key ∈ menu
  rows : ∀ container ∈ containers, ∀ object ∈ container.objects,
    (∃ key thumb, object = .directory (.getTrackList key title) (.literal key) thumb) ∨
      ∃ next, object = .nextPage (.librarySubMenu title next)
  full : ∀ container ∈ containers.dropLast, container.titles.length = 50
  nonempty : menu.keys.length ≠ 0 → ∀ container ∈ containers, container.titles ≠ []

def GMusic.IndexedFromReset (api : GMusic) : Prop :=
  ∃ (σ : Type) (client : Mobileclient σ) (host : Host σ),
    (loadData client).Returns host.reset () ∧ api = ((loadData client).final host.reset).api

section AllPages

variable {api : GMusic} {title name : String}

theorem titles_menuPages (api : GMusic) (title : String) :
    ((List.range' 0 (pageCount 50 (menuOfTitle api title).keys.length)).map
      (menuPage title api)).flatMap ObjectContainer.titles = menuKeys title api := by
  have enough : (menuOfTitle api title).keys.length ≤
      pageCount 50 (menuOfTitle api title).keys.length * 50 := length_le_pageCount (by decide) _
  rw [List.flatMap_map]
  simp only [menuPage_titles]
  rw [flatMap_page, Nat.zero_mul, List.drop_zero, List.take_of_length_le]
  rw [menuKeys_length]
  exact enough

theorem menuKeys_continue {index : Nat}
    (below : index + 1 < pageCount 50 (menuOfTitle api title).keys.length) :
    (index + 1) * 50 < (menuKeys title api).length := by
  rw [menuKeys_length]
  exact (page_continues_iff (by decide)).mpr below

theorem menuPage_full {index : Nat}
    (below : index + 1 < pageCount 50 (menuOfTitle api title).keys.length) :
    (menuPage title api index).titles.length = 50 := by
  rw [menuPage_titles]
  exact page_full (menuKeys_continue below)

theorem menuPage_nonempty {index : Nat} (some : (menuOfTitle api title).keys.length ≠ 0)
    (below : index < pageCount 50 (menuOfTitle api title).keys.length) :
    (menuPage title api index).titles ≠ [] := by
  rw [menuPage_titles]
  apply page_ne_nil (by decide)
  cases index with
  | zero =>
      rw [Nat.zero_mul, menuKeys_length]
      exact Nat.pos_of_ne_zero some
  | succ index => exact menuKeys_continue below

theorem menuPages_range (api : GMusic) (title : String) :
    MenuPages title (menuOfTitle api title)
      ((List.range' 0 (pageCount 50 (menuOfTitle api title).keys.length)).map
        (menuPage title api)) where
  count := by
    rw [List.length_map, List.length_range']
    rfl
  increasing := by
    rw [titles_menuPages]
    exact menuKeys_increasing
  complete key := by
    rw [titles_menuPages]
    exact mem_menuKeys
  rows container shown object inside := by
    obtain ⟨index, _, rfl⟩ := exists_menuPage shown
    exact menuPage_rows inside
  full container shown := by
    have some : 0 < pageCount 50 (menuOfTitle api title).keys.length := pageCount_pos
    obtain ⟨pages, same⟩ := Nat.exists_eq_add_one.mpr some
    rw [same, List.range'_1_concat, List.map_append, List.map_singleton, List.dropLast_concat] at shown
    obtain ⟨index, below, rfl⟩ := exists_menuPage shown
    exact menuPage_full (by omega)
  nonempty some container shown := by
    obtain ⟨index, below, rfl⟩ := exists_menuPage shown
    exact menuPage_nonempty some below

theorem tracks_nonempty (indexed : api.IndexedFromReset) (inside : name ∈ menuOfTitle api title) :
    ∃ entries, getTracksForType api title name = .ok entries ∧ entries ≠ [] := by
  obtain ⟨category, rfl, filed⟩ := mem_menuOfTitle inside
  obtain ⟨σ, client, host, returned, rfl⟩ := indexed
  obtain ⟨songs, answered⟩ := loadData_answered returned
  have library := loadData_libraryOf answered ((loadData_returns_iff answered).mp returned)
  rw [library.menu, Marks.mem_markAll] at filed
  rw [getTracksForType_title, library.index]
  have member : name ∈ Groups.fileAll (Song.shelf category) Song.entry songs ∅ :=
    Groups.mem_fileAll.mpr (filed.imp_left fun impossible => absurd impossible (AList.notMem_empty name))
  refine ⟨_, by rw [Groups.lookup_eq_group member, field_some], Groups.group_fileAll_ne_nil member⟩

theorem libraryMenu_links {page : Int} {label : Text} {thumb : Option Thumb} (api : GMusic)
    (linked : .directory (.librarySubMenu title page) label thumb ∈ libraryMenu.objects) :
    page = 1 ∧ (title, menuOfTitle api title) ∈ api.titledMenus := by
  simp only [libraryMenu, List.mem_cons, MenuObject.directory.injEq, Callback.librarySubMenu.injEq,
    reduceCtorEq, false_and, List.not_mem_nil, or_false, false_or] at linked
  rcases linked with ⟨⟨rfl, rfl⟩, _⟩ | ⟨⟨rfl, rfl⟩, _⟩ | ⟨⟨rfl, rfl⟩, _⟩ | ⟨⟨rfl, rfl⟩, _⟩ <;>
    exact ⟨rfl, by simp [GMusic.titledMenus, menuOfTitle]⟩

/-- Following the links of any menu that `LibraryMenu` opens shows the keys of the menu's
map, in their pages, and each key of a library indexed from the reset state has tracks. -/
theorem libraryMenu_pages (api : GMusic) (loaded : api.libraryLoaded = true) (title : String)
    (page : Int) (label : Text) (thumb : Option Thumb)
    (linked : .directory (.librarySubMenu title page) label thumb ∈ libraryMenu.objects) :
    ∃ menu containers, (title, menu) ∈ api.titledMenus ∧
      followMenu api (max 1 ((menu.keys.length + 49) / 50)) (.librarySubMenu title page) =
        (containers, none) ∧
      MenuPages title menu containers ∧
      (api.IndexedFromReset → ∀ key ∈ menu,
        ∃ entries, getTracksForType api title key = .ok entries ∧ entries ≠ []) := by
  obtain ⟨rfl, named⟩ := libraryMenu_links api linked
  have some : 0 < pageCount 50 (menuOfTitle api title).keys.length := pageCount_pos
  have followed := followMenu_run title 0 loaded some (Nat.zero_add _)
  exact ⟨_, _, named, followed, menuPages_range api title,
    fun indexed _ inside => tracks_nonempty indexed inside⟩

end AllPages

def fiftyOneArtists : List Song :=
  (List.range 51).map fun number =>
    { Song.sample with artist := some (String.ofList (List.replicate (number + 1) 'a')) }

theorem fiftyOneArtists_indexable : ∀ song ∈ fiftyOneArtists, song.indexable = true :=
  fun _ member => by obtain ⟨_, _, rfl⟩ := List.mem_map.mp member; rfl

theorem loadedWith_indexedFromReset {songs : List Song} (fields : ∀ song ∈ songs, song.indexable = true) :
    (GMusic.loadedWith songs).IndexedFromReset := by
  have fresh : Host.signedIn.reset = Host.signedIn := rfl
  have answered : (Remote.ofSongs songs).withSession.getAllSongs.Returns Host.signedIn.service songs := rfl
  have returned := (loadData_returns_iff answered).mpr fields
  refine ⟨_, (Remote.ofSongs songs).withSession, Host.signedIn, returned, ?_⟩
  rw [GMusic.loadedWith, fresh]

theorem libraryMenu_pages_fiftyOne : ∃ menu containers,
    ("Artists", menu) ∈ (GMusic.loadedWith fiftyOneArtists).titledMenus ∧
    followMenu (GMusic.loadedWith fiftyOneArtists) (max 1 ((menu.keys.length + 49) / 50))
      (.librarySubMenu "Artists" 1) = (containers, none) ∧
    MenuPages "Artists" menu containers ∧
    ∀ key ∈ menu, ∃ entries,
      getTracksForType (GMusic.loadedWith fiftyOneArtists) "Artists" key = .ok entries ∧
        entries ≠ [] := by
  obtain ⟨menu, containers, named, followed, pages, tracks⟩ :=
    libraryMenu_pages (GMusic.loadedWith fiftyOneArtists)
      (loadedWith_songs fiftyOneArtists_indexable).2 "Artists" 1 (.label "Artists") none
      List.mem_cons_self
  exact ⟨menu, containers, named, followed, pages,
    tracks (loadedWith_indexedFromReset fiftyOneArtists_indexable)⟩

end GoogleMusic
