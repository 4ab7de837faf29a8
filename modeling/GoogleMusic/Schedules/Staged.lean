import GoogleMusic.Schedules.Queued

/-! # Load jobs in stages

A load job tests the song list and asks the service for one, waits for the answer,
assigns it, and indexes it.  An add waits for its answer before it refreshes the
library.  Handlers run between any two of these steps.
-/

namespace GoogleMusic

open Foundation Host Plugin

variable {ρ : Type}

inductive Job where
  | created
  | asking
  | answered (songs : List Song)
  | indexing
deriving DecidableEq

namespace Job

/-- The next step of a job, which a raise ends like the last step does: a session that
is not logged in sends nothing, and the login without arguments then raises. -/
def advance (remote : Remote ρ) (host : Host (Session ρ)) : Job → Option Job × Host (Session ρ)
  | .created =>
      if host.api.allSongs.length = 0 then
        if host.service.isAuthenticated then (some .asking, host) else (none, host)
      else (some .indexing, host)
  | .asking =>
      let answer := remote.getAllSongs.run host.service.remote
      let host := { host with service := { host.service with remote := answer.2 } }
      match answer.1 with
      | .ok songs => (some (.answered songs), host)
      | .error _ => (none, host)
  | .answered songs => (some .indexing, { host with api := host.api.withSongs songs })
  | .indexing => (none, { host with api := indexLibrary.final host.api })

def advances (remote : Remote ρ) : Nat → Option Job × Host (Session ρ) → Option Job × Host (Session ρ)
  | 0, reached => reached
  | _ + 1, (none, host) => (none, host)
  | count + 1, (some job, host) => advances remote count (job.advance remote host)

/-- The stages of a job that no one else gets between are the job. -/
theorem advances_loadData (remote : Remote ρ) (host : Host (Session ρ)) :
    advances remote 4 (some .created, host) = (none, (loadData remote.withSession).final host) := by
  by_cases empty : host.api.allSongs = []
  · cases session : host.service.isAuthenticated with
    | false =>
        have answered : remote.withSession.getAllSongs.run host.service = _ :=
          Session.send_of_loggedOut remote.getAllSongs session
        obtain ⟨raised, ran⟩ := loadData_of_refused empty answered
        simp [advances, advance, empty, session, Exec.final, ran]
    | true =>
        have answered : remote.withSession.getAllSongs.run host.service = _ :=
          Session.send_of_loggedIn remote.getAllSongs session
        cases asked : remote.getAllSongs.run host.service.remote with
        | mk outcome state =>
            rw [asked] at answered
            cases outcome with
            | error reason =>
                obtain ⟨raised, ran⟩ := loadData_of_refused empty answered
                simp [advances, advance, empty, session, asked, Exec.final, ran]
            | ok songs =>
                simp only [Exec.final, loadData_of_fetched empty answered]
                simp [advances, advance, empty, session, asked, onApi, Exec.final]
  · simp [Exec.final, loadData_of_cached empty, advances, advance, empty, onApi]

def asks : Job → Bool
  | .indexing => false
  | _ => true

end Job

def Runtime.staged (remote : Remote ρ) : Runtime (Session ρ) (List Job) where
  client := remote.withSession
  createThread plugin := { plugin with threads := plugin.threads ++ [.created] }

structure Staging (ρ : Type) where
  plugin : Plugin (Session ρ) (List Job)
  /-- The items of the adds that were answered and have not refreshed the library yet. -/
  adding : List (Option String)
  /-- The library ids of the songs that were reported as added. -/
  reported : List String

def Staging.start (state : ρ) (now : Int) : Staging ρ where
  plugin := { host := { api := {}, service := .fresh state }, refresh := now, threads := [] }
  adding := []
  reported := []

inductive StagedRequest where
  | mainMenu (now later : Int) (email password : String)
  | refreshMenu (now : Int)
  | addToCollection (id : String) (playlist : Option String) (type : Int)
  | finishAdd (index : Nat) (now : Int)
  | advance (index : Nat)
deriving DecidableEq

/-- The first half of `AddToCollection`.  Only an add to the library answers an item
that is a song of the library. -/
def addedSong {σ : Type} (client : Mobileclient σ) (id : String) (playlist : Option String)
    (type : Int) : Exec (Host σ) Raised (Option String) :=
  if type = 0 then addAaTrack client id
  else (fun _ => none) <$> addSongsToPlaylist client playlist id

def replaceJob (jobs : List Job) (index : Nat) : Option Job → List Job
  | some job => jobs.set index job
  | none => jobs.eraseIdx index

def stagedStep (remote : Remote ρ) : StagedRequest → Staging ρ → Option (Staging ρ)
  | .mainMenu now later email password, staging =>
      some { staging with
        plugin := (mainMenu (.staged remote) now later email password).final staging.plugin }
  | .refreshMenu now, staging =>
      some { staging with plugin := (refreshMenu (.staged remote) now).final staging.plugin }
  | .addToCollection id playlist type, staging =>
      match (addedSong remote.withSession id playlist type).run staging.plugin.host with
      | (.ok item, host) =>
          some { staging with
            plugin := { staging.plugin with host }
            adding := staging.adding ++ [item] }
      | (.error _, host) => some { staging with plugin := { staging.plugin with host } }
  | .finishAdd index now, staging =>
      staging.adding[index]?.map fun item =>
        { plugin := libraryRefresh (.staged remote) now staging.plugin
          adding := staging.adding.eraseIdx index
          reported := staging.reported ++ item.toList }
  | .advance index, staging =>
      staging.plugin.threads[index]?.map fun job =>
        let reached := job.advance remote staging.plugin.host
        { staging with
          plugin := { staging.plugin with
            host := reached.2
            threads := replaceJob staging.plugin.threads index reached.1 } }

def stagedSystem (remote : Remote ρ) : System (Staging ρ) StagedRequest where
  step := stagedStep remote

theorem addedSong_run {σ : Type} (client : Mobileclient σ) (id : String) (playlist : Option String)
    (type : Int) (host : Host σ) : ∃ outcome : Except Raised (Option String), ∃ done after,
      (addedSong client id playlist type).run host = (outcome, after) ∧
      (addItem client id playlist type).run host = (outcome.map fun _ => done, after) := by
  by_cases toLibrary : type = 0
  · cases added : (addAaTrack client id).run host with
    | mk outcome after =>
        simp only [addedSong, addItem, toLibrary, if_true, Exec.run_map, added]
        cases outcome with
        | ok item => exact ⟨_, item.isSome, _, rfl, rfl⟩
        | error reason => exact ⟨_, true, _, rfl, rfl⟩
  · cases added : (addSongsToPlaylist client playlist id).run host with
    | mk outcome after =>
        simp only [addedSong, addItem, toLibrary, if_false, Exec.run_map, added]
        cases outcome with
        | ok items => exact ⟨_, items.isSome, _, rfl, rfl⟩
        | error reason => exact ⟨_, true, _, rfl, rfl⟩

/-- The two halves of an add that nothing gets between are the handler. -/
theorem addToCollection_halves (remote : Remote ρ) (id : String) (playlist : Option String)
    (type now : Int) (staging : Staging ρ) :
    ∃ middle, stagedStep remote (.addToCollection id playlist type) staging = some middle ∧
      (addToCollection (.staged remote) id playlist type now).final staging.plugin =
        match stagedStep remote (.finishAdd staging.adding.length now) middle with
        | some after => after.plugin
        | none => middle.plugin := by
  obtain ⟨outcome, done, host, first, whole⟩ :=
    addedSong_run remote.withSession id playlist type staging.plugin.host
  have client : (Runtime.staged remote).client = remote.withSession := rfl
  rw [addToCollection_final, client, whole]
  simp only [stagedStep, first]
  cases outcome <;> simp [Except.map]

end GoogleMusic
