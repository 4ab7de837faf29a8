import GoogleMusic.Schedules.Queued

namespace GoogleMusic

open Foundation Plugin

variable {σ : Type}

def GMusic.ExactlyOnce (api : GMusic) : Prop :=
  api.libraryLoaded = true → ∀ category,
    ((api.index category).items.map fun entry => some entry.id).Perm (api.allSongs.map Song.id)

/-- Nothing is loaded, or the loaded library has no songs and the service would now
answer songs that can all be indexed. -/
def Host.LoadsOnce (client : Mobileclient σ) (host : Host σ) : Prop :=
  host.api.libraryLoaded = true →
    host.api.allSongs = [] ∧ ∀ songs, client.getAllSongs.Returns host.service songs →
      ∀ song ∈ songs, song.indexable = true

def LoadsOnce (client : Mobileclient σ) : Request → Plugin σ Nat → Prop
  | .loadAsync, plugin => plugin.host.LoadsOnce client
  | _, _ => True

/-- The invariant of the runs that load once: a loaded library is filed exactly, and
one that is not loaded is empty or holds a song that stops every load. -/
structure GMusic.Consistent (api : GMusic) : Prop where
  fields : api.libraryLoaded = true → ∀ song ∈ api.allSongs, song.indexable = true
  filed : api.libraryLoaded = true → ∀ category,
    (api.index category).items.Perm (api.allSongs.map Song.entry)
  unloaded : api.libraryLoaded = false →
    api.Blank ∨ ∃ song ∈ api.allSongs, song.indexable = false

namespace GMusic

variable {api before after : GMusic}

theorem Consistent.exactlyOnce (consistent : api.Consistent) : api.ExactlyOnce := by
  intro loaded category
  have ids : (api.allSongs.map Song.entry).map (fun entry => some entry.id) =
      api.allSongs.map Song.id := by
    rw [List.map_map]
    exact List.map_congr_left fun song member => song.entry_id (consistent.fields loaded song member)
  rw [← ids]
  exact (consistent.filed loaded category).map _

theorem Blank.consistent (blank : api.Blank) : api.Consistent where
  fields loaded := by simp [blank.unloaded] at loaded
  filed loaded := by simp [blank.unloaded] at loaded
  unloaded _ := Or.inl blank

theorem SameLibrary.consistent (same : SameLibrary before after) (consistent : before.Consistent) :
    after.Consistent where
  fields loaded := by
    rw [same.songs]
    exact consistent.fields (same.loaded ▸ loaded)
  filed loaded := by
    rw [same.songs, same.indexes]
    exact consistent.filed (same.loaded ▸ loaded)
  unloaded down := by
    rw [same.songs]
    exact (consistent.unloaded (same.loaded ▸ down)).imp_left same.blank

theorem ExactlyOnce.length (once : api.ExactlyOnce) (loaded : api.libraryLoaded = true)
    (category : Category) : (api.index category).items.length = api.allSongs.length := by
  simpa using (once loaded category).length_eq

theorem Consistent.items_of_empty (consistent : api.Consistent) (loaded : api.libraryLoaded = true)
    (empty : api.allSongs = []) (category : Category) : (api.index category).items = [] := by
  have filed := consistent.filed loaded category
  rw [empty] at filed
  exact filed.eq_nil

theorem Blank.items (blank : api.Blank) (category : Category) : (api.index category).items = [] := by
  rw [blank.indexes]
  exact Groups.items_empty

end GMusic

section Load

variable {client : Mobileclient σ} {host : Host σ} {songs front back : List Song} {bad : Song}
variable {outcome : Except Raised Unit} {after : GMusic}

theorem items_before_load (consistent : host.api.Consistent) (once : host.LoadsOnce client)
    (source : SongSource client host songs) (fields : ∀ song ∈ songs, song.indexable = true)
    (category : Category) : (host.api.index category).items = [] := by
  cases loaded : host.api.libraryLoaded with
  | true => exact consistent.items_of_empty loaded (once loaded).1 category
  | false =>
      rcases consistent.unloaded loaded with blank | ⟨bad, member, defective⟩
      · exact blank.items category
      · cases source with
        | cached nonempty => simp [fields bad member] at defective
        | fetched empty answered => simp [empty] at member

theorem loadOutcome_consistent (ran : LoadOutcome client host outcome after)
    (consistent : host.api.Consistent) (once : host.LoadsOnce client) : after.Consistent := by
  cases ran with
  | refused empty answered => exact consistent
  | @indexed songs after source fields filed indexes =>
      have same : after.allSongs = songs := filed.allSongs
      refine ⟨fun _ => by rw [GMusic.allSongs_markLoaded, same]; exact fields, fun _ category => ?_, by simp⟩
      have items := filed.items category
      rw [GMusic.index_withSongs, items_before_load consistent once source fields] at items
      rw [GMusic.index_markLoaded, GMusic.allSongs_markLoaded, same]
      exact items
  | @broken songs front back bad reason after source split defective filed =>
      have same : after.allSongs = songs := filed.allSongs
      have down : host.api.libraryLoaded = false := by
        cases loaded : host.api.libraryLoaded with
        | false => rfl
        | true =>
            obtain ⟨empty, answers⟩ := once loaded
            cases source with
            | cached nonempty => exact absurd empty nonempty
            | fetched empty answered =>
                simp [answers _ answered bad (by simp [split])] at defective
      have kept : after.libraryLoaded = false := filed.libraryLoaded.trans down
      refine ⟨by simp [kept], by simp [kept], fun _ => Or.inr ⟨bad, ?_, defective⟩⟩
      simp [same, split]

/-- A second load of a library leaves a count that is wrong: twice the songs, or the
front part of a list that it could not index. -/
theorem loadOutcome_not_exactlyOnce (ran : LoadOutcome client host outcome after)
    (consistent : host.api.Consistent) (again : ¬ host.LoadsOnce client) : ¬ after.ExactlyOnce := by
  intro once
  rw [Host.LoadsOnce, Classical.not_imp] at again
  obtain ⟨loaded, again⟩ := again
  have before := (consistent.filed loaded .letter).length_eq
  rw [List.length_map] at before
  cases ran with
  | refused empty answered =>
      exact again ⟨empty, fun songs returned => absurd ⟨songs, returned⟩ answered⟩
  | @indexed songs after source fields filed indexes =>
      have same : after.allSongs = songs := filed.allSongs
      have count := once.length rfl .letter
      have items := (filed.items .letter).length_eq
      rw [GMusic.index_markLoaded] at count
      rw [GMusic.index_withSongs, List.length_append, List.length_map] at items
      cases source with
      | cached nonempty =>
          have positive := List.length_pos_of_ne_nil nonempty
          rw [GMusic.allSongs_markLoaded, same] at count
          omega
      | fetched empty answered =>
          refine again ⟨empty, fun other returned => ?_⟩
          rw [Exec.Returns, answered] at returned
          cases returned
          exact fields
  | @broken songs front back bad reason after source split defective filed =>
      have same : after.allSongs = songs := filed.allSongs
      cases source with
      | cached nonempty =>
          simp [consistent.fields loaded bad (by simp [split])] at defective
      | fetched empty answered =>
          have count := once.length (filed.libraryLoaded.trans loaded) .letter
          have items := (filed.items .letter).length_eq
          rw [GMusic.index_withSongs, List.length_append, List.length_map] at items
          rw [empty, List.length_nil] at before
          rw [same, split, List.length_append, List.length_cons] at count
          omega

end Load

section Run

variable {client : Mobileclient σ} {label : Request} {plugin next : Plugin σ Nat}

theorem queuedStep_consistent (consistent : plugin.api.Consistent)
    (step : queuedStep client label plugin = some next) (once : LoadsOnce client label plugin) :
    next.api.Consistent := by
  by_cases job : label = .loadAsync
  · subst job
    obtain ⟨_, _, ran⟩ := queuedStep_loadAsync step
    rw [Plugin.api, ran]
    exact loadOutcome_consistent (loadData_outcome client plugin.host) consistent once
  · rcases queuedStep_library job step with ⟨_, blank⟩ | ⟨_, same⟩
    · exact blank.consistent
    · exact same.consistent consistent

theorem queuedStep_not_exactlyOnce (consistent : plugin.api.Consistent)
    (step : queuedStep client label plugin = some next) (again : ¬ LoadsOnce client label plugin) :
    ¬ next.api.ExactlyOnce := by
  cases label with
  | loadAsync =>
      obtain ⟨_, _, ran⟩ := queuedStep_loadAsync step
      rw [Plugin.api, ran]
      exact loadOutcome_not_exactlyOnce (loadData_outcome client plugin.host) consistent again
  | _ => exact absurd True.intro again

/-- Whatever the service does and however jobs and handlers alternate, every loaded
library of the run is filed exactly once if and only if no job of the run loads a
library again. -/
theorem always_exactlyOnce_iff (client : Mobileclient σ) (service : σ) (now : Int)
    (labels : List Request) :
    (queuedSystem client).Always (fun plugin => plugin.api.ExactlyOnce) labels
        (Plugin.start service now) ↔
      (queuedSystem client).Admits (LoadsOnce client) labels (Plugin.start service now) :=
  System.always_iff_admits (fun plugin => plugin.api.Consistent)
    (fun _ consistent => consistent.exactlyOnce) queuedStep_consistent queuedStep_not_exactlyOnce
    (start_blank service now).consistent

/-- A login and a refresh before either job has run leave two jobs, and both file the
song. -/
theorem login_and_refresh_index_twice :
    ¬ (queuedSystem (Remote.ofSongs [Song.sample]).withSession).Always
      (fun plugin => plugin.api.ExactlyOnce)
      [.mainMenu 0 0 "user" "secret", .refreshMenu 0, .loadAsync, .loadAsync]
      (Plugin.start (.fresh ()) 0) := by
  intro always
  have once := always.last rfl
  have count := once.length rfl .letter
  revert count
  decide

end Run

end GoogleMusic
