import GoogleMusic.Menus.Rows
import GoogleMusic.Schedules.Queued

namespace GoogleMusic

open Foundation Plugin

variable {σ : Type}

structure Browser (σ : Type) where
  plugin : Plugin σ Nat
  links : List (String × String)

def shownLinks : Request → GMusic → List (String × String)
  | .librarySubMenu title page, api => (librarySubMenu title page api).trackLists
  | _, _ => []

def browsingSystem (client : Mobileclient σ) : System (Browser σ) Request where
  step label browser := (queuedStep client label browser.plugin).map fun plugin =>
    { plugin, links := browser.links ++ shownLinks label browser.plugin.api }

namespace Browser

def start (service : σ) (now : Int) : Browser σ where
  plugin := Plugin.start service now
  links := []

def LinksUsable (browser : Browser σ) : Prop :=
  ∀ link ∈ browser.links, ∃ container,
    getTrackList link.1 link.2 browser.plugin.api = .ok container

/-- The library is emptied only while no link has been shown. -/
def KeepsLinks (client : Mobileclient σ) (label : Request) (browser : Browser σ) : Prop :=
  Resets client label browser.plugin → browser.links = []

end Browser

namespace GMusic

/-- Every song and every entry has the fields `GetTrack` reads, and the menus offer the
keys of the indexes. -/
structure Showable (api : GMusic) : Prop where
  songs : ∀ song ∈ api.allSongs, song.playable = true
  entries : ∀ category, ∀ entry ∈ (api.index category).items, entry.track.playable = true
  agree : api.KeysAgree

variable {songs : List Song} {api before after : GMusic}

theorem Blank.showable (blank : api.Blank) : api.Showable where
  songs := by simp [blank.songs]
  entries category := by simp [blank.indexes]
  agree := blank.keysAgree

theorem SameLibrary.showable (same : SameLibrary before after) (showable : before.Showable) :
    after.Showable where
  songs := by rw [same.songs]; exact showable.songs
  entries := by rw [same.indexes]; exact showable.entries
  agree := same.keysAgree showable.agree

theorem Showable.markLoaded (showable : api.Showable) : api.markLoaded.Showable where
  songs := showable.songs
  entries category := by rw [index_markLoaded]; exact showable.entries category
  agree := markLoaded_keysAgree showable.agree

theorem Indexed.showable {front : List Song} (filed : Indexed front (before.withSongs songs) after)
    (part : ∀ song ∈ front, song ∈ songs) (fields : ∀ song ∈ songs, song.playable = true)
    (showable : before.Showable) : after.Showable where
  songs := by rw [filed.allSongs]; exact fields
  entries category entry member := by
    rcases List.mem_append.mp ((filed.items category).mem_iff.mp member) with earlier | added
    · rw [index_withSongs] at earlier
      exact showable.entries category entry earlier
    · obtain ⟨song, inside, rfl⟩ := List.mem_map.mp added
      exact Song.entry_playable (fields song (part song inside))
  agree := filed.keys (withSongs_keysAgree showable.agree)

end GMusic

section Load

variable {client : Mobileclient σ} {host : Host σ} {outcome : Except Raised Unit} {after : GMusic}
variable {songs : List Song}

def PlayableAnswers (client : Mobileclient σ) : Prop :=
  ∀ service songs, client.getAllSongs.Returns service songs →
    ∀ song ∈ songs, song.playable = true

theorem SongSource.playable (source : SongSource client host songs)
    (answers : PlayableAnswers client) (showable : host.api.Showable) :
    ∀ song ∈ songs, song.playable = true :=
  source.satisfies showable.songs (answers host.service)

theorem loadOutcome_showable (ran : LoadOutcome client host outcome after)
    (answers : PlayableAnswers client) (showable : host.api.Showable) : after.Showable := by
  cases ran with
  | refused empty answered => exact showable
  | indexed source fields filed indexes =>
      exact (filed.showable (fun _ => id) (source.playable answers showable) showable).markLoaded
  | broken source split defective filed =>
      refine filed.showable (fun song inside => ?_) (source.playable answers showable) showable
      rw [split]
      exact List.mem_append_left _ inside

theorem loadOutcome_kept (ran : LoadOutcome client host outcome after) {category : Category}
    {key : String} (member : key ∈ host.api.index category) : key ∈ after.index category := by
  cases ran with
  | refused empty answered => exact member
  | indexed source fields filed indexes =>
      rw [GMusic.index_markLoaded]
      exact filed.kept category key (by rw [GMusic.index_withSongs]; exact member)
  | broken source split defective filed =>
      exact filed.kept category key (by rw [GMusic.index_withSongs]; exact member)

end Load

namespace Browser

variable {client : Mobileclient σ} {label : Request} {browser next : Browser σ}

/-- The invariant of the runs that keep their links: each is a key of an index. -/
structure Linked (browser : Browser σ) : Prop where
  showable : browser.plugin.api.Showable
  filed : ∀ link ∈ browser.links, ∃ category : Category,
    link.2 = category.title ∧ link.1 ∈ browser.plugin.api.index category

theorem start_linked (service : σ) (now : Int) : (start service now).Linked where
  showable := (start_blank service now).showable
  filed := by simp [start]

theorem Linked.usable (linked : browser.Linked) : browser.LinksUsable := by
  intro link member
  obtain ⟨category, title, filed⟩ := linked.filed link member
  rw [title]
  exact (getTrackList_returns_iff (linked.showable.entries category)).mpr filed

theorem step_inv (step : (browsingSystem client).step label browser = some next) :
    queuedStep client label browser.plugin = some next.plugin ∧
      next.links = browser.links ++ shownLinks label browser.plugin.api := by
  obtain ⟨plugin, taken, rfl⟩ := Option.map_eq_some_iff.mp step
  exact ⟨taken, rfl⟩

theorem shownLinks_filed (agree : browser.plugin.api.KeysAgree) :
    ∀ link ∈ shownLinks label browser.plugin.api, ∃ category : Category,
      link.2 = category.title ∧ link.1 ∈ browser.plugin.api.index category := by
  intro link member
  cases label with
  | librarySubMenu title page =>
      obtain ⟨category, same, offered⟩ := mem_trackLists_librarySubMenu member
      exact ⟨category, same, (agree category link.1).mp offered⟩
  | _ => simp [shownLinks] at member

theorem step_linked (answers : PlayableAnswers client) (linked : browser.Linked)
    (step : (browsingSystem client).step label browser = some next)
    (keeps : KeepsLinks client label browser) : next.Linked := by
  obtain ⟨taken, links⟩ := step_inv step
  have filed : ∀ link ∈ next.links, ∃ category : Category,
      link.2 = category.title ∧ link.1 ∈ browser.plugin.api.index category := by
    intro link member
    rw [links, List.mem_append] at member
    exact member.elim (linked.filed link) (shownLinks_filed linked.showable.agree link)
  by_cases job : label = .loadAsync
  · subst job
    obtain ⟨_, _, ran⟩ := queuedStep_loadAsync taken
    have outcome := loadData_outcome client browser.plugin.host
    rw [← ran] at outcome
    refine ⟨loadOutcome_showable outcome answers linked.showable, fun link member => ?_⟩
    obtain ⟨category, title, key⟩ := filed link member
    exact ⟨category, title, loadOutcome_kept outcome key⟩
  · rcases queuedStep_library job taken with ⟨resets, blank⟩ | ⟨_, same⟩
    · refine ⟨blank.showable, ?_⟩
      have shown : shownLinks label browser.plugin.api = [] := by
        cases label with
        | librarySubMenu title page => exact absurd resets id
        | _ => rfl
      simp [links, keeps resets, shown]
    · refine ⟨same.showable linked.showable, ?_⟩
      rw [same.indexes]
      exact filed

theorem step_not_usable (linked : browser.Linked)
    (step : (browsingSystem client).step label browser = some next)
    (loses : ¬ KeepsLinks client label browser) : ¬ next.LinksUsable := by
  obtain ⟨taken, links⟩ := step_inv step
  rw [KeepsLinks, Classical.not_imp] at loses
  obtain ⟨resets, nonempty⟩ := loses
  have handler : label ≠ .loadAsync := by
    rintro rfl
    exact resets
  obtain ⟨link, member⟩ := List.exists_mem_of_ne_nil _ nonempty
  obtain ⟨category, title, _⟩ := linked.filed link member
  rcases queuedStep_library handler taken with ⟨_, blank⟩ | ⟨kept, _⟩
  · intro usable
    obtain ⟨container, returned⟩ :=
      usable link (by rw [links]; exact List.mem_append_left _ member)
    have absent : link.1 ∉ next.plugin.api.index category := by
      rw [blank.indexes]
      exact AList.notMem_empty _
    rw [title, getTrackList_of_notMem absent] at returned
    cases returned
  · exact absurd resets kept

end Browser

/-- On an account whose songs can all be shown, every link of a run leads to a container
throughout the run if and only if the library is never emptied after a link was shown. -/
theorem always_linksUsable_iff (client : Mobileclient σ) (answers : PlayableAnswers client)
    (service : σ) (now : Int) (labels : List Request) :
    (browsingSystem client).Always Browser.LinksUsable labels (Browser.start service now) ↔
      (browsingSystem client).Admits (Browser.KeepsLinks client) labels
        (Browser.start service now) :=
  System.always_iff_admits Browser.Linked (fun _ linked => linked.usable) (Browser.step_linked answers)
    Browser.step_not_usable (Browser.start_linked service now)

theorem sample_playableAnswers : PlayableAnswers (Remote.ofSongs [.sample]).withSession := by
  rintro ⟨isAuthenticated, remote⟩ songs returned
  cases isAuthenticated with
  | false => cases returned
  | true =>
      cases returned
      decide

theorem linksUsable_of_sample :
    (browsingSystem (Remote.ofSongs [.sample]).withSession).Always Browser.LinksUsable
        [.mainMenu 0 0 "user" "secret", .loadAsync, .librarySubMenu "Artists" 1]
        (Browser.start (.fresh ()) 0) ↔
      (browsingSystem (Remote.ofSongs [.sample]).withSession).Admits
        (Browser.KeepsLinks (Remote.ofSongs [.sample]).withSession)
        [.mainMenu 0 0 "user" "secret", .loadAsync, .librarySubMenu "Artists" 1]
        (Browser.start (.fresh ()) 0) :=
  always_linksUsable_iff _ sample_playableAnswers _ _ _

/-- A refresh behind an open artist list makes its link raise. -/
theorem refresh_breaks_link :
    ¬ (browsingSystem (Remote.ofSongs [.sample]).withSession).Always Browser.LinksUsable
      [.mainMenu 0 0 "user" "secret", .loadAsync, .librarySubMenu "Artists" 1, .refreshMenu 0]
      (Browser.start (.fresh ()) 0) := by
  intro always
  obtain ⟨container, returned⟩ := always.last rfl ("Artist", "Artists") (by decide)
  cases returned

end GoogleMusic
