import GoogleMusic.Schedules.Account

namespace GoogleMusic

open Foundation Host Plugin

variable {σ : Type}

def Accepts (client : Mobileclient σ) (id : String) (playlist : Option String) (type : Int)
    (service : σ) : Prop :=
  (addAnswer client id playlist type).Returns service true

structure GMusic.Emptied (api : GMusic) : Prop where
  songs : api.allSongs = []
  playlists : api.playlists = []
  contents : api.playlistContents = []
  stations : api.stations = []
  menus : ∀ category, api.menu category = ∅
  indexes : ∀ category, api.index category = ∅

/-- The add is answered with a message that tells whether the service accepted the song.
If it did, the library is emptied and one load enqueued, and else nothing is lost. -/
structure ReportsAdd (client : Mobileclient σ) (id : String) (playlist : Option String)
    (type now : Int) (plugin : Plugin σ Nat) : Prop where
  message : ∃ message,
    (addToCollection (.queued client) id playlist type now).Returns plugin
      (.notice "Adding Song" message) ∧
    (message = "Adding Success" ↔ Accepts client id playlist type plugin.host.service) ∧
    (message = "Adding Fail" ↔ ¬ Accepts client id playlist type plugin.host.service)
  accepted : Accepts client id playlist type plugin.host.service →
    let after := (addToCollection (.queued client) id playlist type now).final plugin
    after.api.Emptied ∧ after.threads = plugin.threads + 1
  refused : ¬ Accepts client id playlist type plugin.host.service →
    let after := (addToCollection (.queued client) id playlist type now).final plugin
    GMusic.SameLibrary plugin.api after.api ∧ GMusic.SameCaches plugin.api after.api

section Adding

variable {client : Mobileclient σ} {id : String} {playlist : Option String} {type : Int}
variable {plugin : Plugin σ Nat} {api : GMusic} {service : σ}

theorem addToCollection_of_answer (now : Int) {item : Bool}
    (answered : (addAnswer client id playlist type).run plugin.host.service = (.ok item, service)) :
    (addToCollection (.queued client) id playlist type now).run plugin =
      (.ok (.notice "Adding Song" (if item then "Adding Success" else "Adding Fail")),
        libraryRefresh (.queued client) now { plugin with host := { plugin.host with service } }) := by
  have added := addItem_run client id playlist type plugin.host
  rw [Exec.final, answered] at added
  simp only [addToCollection, onHost, Exec.run_bind, Exec.run_zoom, Runtime.queued, added,
    Except.mapError, Exec.run_modify, Exec.run_pure]

theorem addToCollection_of_raised (now : Int) {reason : Raised}
    (raised : (addAnswer client id playlist type).run plugin.host.service = (.error reason, service)) :
    (addToCollection (.queued client) id playlist type now).run plugin =
      (.error reason.escaping, { plugin with host := { plugin.host with service } }) := by
  have added := addItem_run client id playlist type plugin.host
  rw [Exec.final, raised] at added
  simp only [addToCollection, onHost, Exec.run_bind, Exec.run_zoom, Runtime.queued, added,
    Except.mapError]

theorem resetLibrary_emptied (api : GMusic) : api.resetLibrary.Emptied where
  songs := rfl
  playlists := rfl
  contents := rfl
  stations := rfl
  menus _ := GMusic.menu_resetLibrary
  indexes _ := GMusic.index_resetLibrary

/-- A reset loses nothing only where there is nothing to lose. -/
theorem resetLibrary_same_iff :
    GMusic.SameLibrary api api.resetLibrary ∧ GMusic.SameCaches api api.resetLibrary ↔
      api.resetLibrary = api := by
  constructor
  · rintro ⟨library, caches⟩
    have menu := fun category => congrFun library.menus category
    have index := fun category => congrFun library.indexes category
    cases api
    simp only [GMusic.resetLibrary, GMusic.mk.injEq, true_and]
    exact ⟨library.loaded, library.songs, menu .letter, menu .artist, menu .album, menu .genre,
      index .letter, index .artist, index .album, index .genre, caches.playlists, caches.contents,
      caches.stations⟩
  · intro same
    rw [same]
    exact ⟨.refl api, rfl, rfl, rfl⟩

theorem reportsAdd_of_accepted (now : Int)
    (answered : (addAnswer client id playlist type).run plugin.host.service = (.ok true, service)) :
    ReportsAdd client id playlist type now plugin := by
  have ran := addToCollection_of_answer now answered
  have accepts : Accepts client id playlist type plugin.host.service := by
    rw [Accepts, Exec.Returns, answered]
  refine ⟨⟨"Adding Success", ?_, ?_, ?_⟩, fun _ => ?_, fun refused => absurd accepts refused⟩
  · rw [Exec.Returns, ran]
    rfl
  · exact iff_of_true rfl accepts
  · exact iff_of_false (by decide) (fun refused => refused accepts)
  · rw [Exec.final, ran]
    exact ⟨resetLibrary_emptied _, rfl⟩

/-- An answer without an item is reported as it should be, and costs the library. -/
theorem reportsAdd_of_unaccepted (now : Int)
    (answered : (addAnswer client id playlist type).run plugin.host.service = (.ok false, service)) :
    ReportsAdd client id playlist type now plugin ↔ plugin.api.resetLibrary = plugin.api := by
  have ran := addToCollection_of_answer now answered
  have refuses : ¬ Accepts client id playlist type plugin.host.service := by
    simp [Accepts, Exec.Returns, answered]
  have left : ((addToCollection (.queued client) id playlist type now).final plugin).api =
      plugin.api.resetLibrary := by
    rw [Exec.final, ran]
    rfl
  rw [← resetLibrary_same_iff, ← left]
  constructor
  · exact fun reports => reports.refused refuses
  · intro same
    refine ⟨⟨"Adding Fail", ?_, ?_, ?_⟩, fun accepted => absurd accepted refuses, fun _ => same⟩
    · rw [Exec.Returns, ran]
      rfl
    · exact iff_of_false (by decide) refuses
    · exact iff_of_true rfl refuses

theorem not_reportsAdd_of_raised (now : Int) {reason : Raised}
    (raised : (addAnswer client id playlist type).run plugin.host.service = (.error reason, service)) :
    ¬ ReportsAdd client id playlist type now plugin := by
  intro reports
  obtain ⟨message, returned, _⟩ := reports.message
  rw [Exec.Returns, addToCollection_of_raised now raised] at returned
  cases returned

/-- An add reports the truth exactly if the service accepted the song, or answered without
an item while the library was empty already. -/
theorem addToCollection_reports_iff (client : Mobileclient σ) (id : String)
    (playlist : Option String) (type now : Int) (plugin : Plugin σ Nat) :
    ReportsAdd client id playlist type now plugin ↔
      Accepts client id playlist type plugin.host.service ∨
        (addAnswer client id playlist type).Returns plugin.host.service false ∧
          plugin.api.resetLibrary = plugin.api := by
  unfold Accepts Exec.Returns
  cases answer : (addAnswer client id playlist type).run plugin.host.service with
  | mk outcome service =>
      cases outcome with
      | error reason => simp [not_reportsAdd_of_raised now answer]
      | ok item =>
          cases item with
          | true => simp [reportsAdd_of_accepted now answer]
          | false => simp [reportsAdd_of_unaccepted now answer]

end Adding

def refusingClient (reason : Raised) : Mobileclient Unit where
  toEndpoints := { Endpoints.unavailable with addAaTrack _ := Exec.raise reason }
  login _ _ := pure true

/-- A refusal of the service reaches the caller, and so does a `TypeError` where the
session has ended, however a new login would go. -/
theorem refused_add_raises :
    (addToCollection (.queued (refusingClient (.callFailure "refused" "BatchMutateTracks"))) "song"
        none 0 0).Raises (Plugin.start () 0) (.callFailure "refused" "BatchMutateTracks") ∧
      (addToCollection (.queued (refusingClient .notLoggedIn)) "song" none 0 0).Raises
        (Plugin.start () 0) .typeError ∧
      ¬ ReportsAdd (refusingClient (.callFailure "refused" "BatchMutateTracks")) "song" none 0 0
        (Plugin.start () 0) ∧
      ¬ ReportsAdd (refusingClient .notLoggedIn) "song" none 0 0 (Plugin.start () 0) := by
  exact ⟨rfl, rfl, not_reportsAdd_of_raised 0 rfl, not_reportsAdd_of_raised 0 rfl⟩

end GoogleMusic
