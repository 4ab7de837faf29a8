import GoogleMusic.Schedules.Staged

/-! # Added songs and the loads under way

The service holds a library that only grows.  A load may still carry an answer from
before an add when the add refreshes the library, and assigns it afterwards to the
list that the refresh has emptied.
-/

namespace GoogleMusic

open Foundation Host Plugin

variable {ρ : Type}

def Lists (songs : List Song) (id : String) : Prop := ∃ song ∈ songs, song.id = some id

def Grows {ε α : Type} (library : ρ → List Song) (request : Exec ρ ε α) : Prop :=
  ∀ state, ∀ song ∈ library state, song ∈ library (request.final state)

/-- The remote side holds a library.  It answers every request for the song list with
the library as it is then, and an accepted add leaves the new song in it. -/
structure HoldsLibrary (remote : Remote ρ) (library : ρ → List Song) : Prop where
  songs : ∀ state, remote.getAllSongs.Returns state (library state)
  asked : Grows library remote.getAllSongs
  login : ∀ email password, Grows library (remote.performLogin email password)
  devices : Grows library remote.getRegisteredDevices
  addTrack : ∀ id, Grows library (remote.addAaTrack id)
  addSongs : ∀ playlist id, Grows library (remote.addSongsToPlaylist playlist id)
  accepted : ∀ id state added, (remote.addAaTrack id).Returns state (some added) →
    Lists (library ((remote.addAaTrack id).final state)) added

def Staging.Fresh (staging : Staging ρ) : Prop :=
  staging.plugin.threads = [] → staging.plugin.api.libraryLoaded = true →
    ∀ id ∈ staging.reported, Lists staging.plugin.api.allSongs id

/-- The refresh of an accepted add finds no job with an answer from before the add. -/
def NoStaleAnswer : StagedRequest → Staging ρ → Prop
  | .finishAdd index _, staging =>
      ∀ id, staging.adding[index]? = some (some id) →
        ∀ songs, .answered songs ∈ staging.plugin.threads → Lists songs id
  | _, _ => True

/-- What no step takes back: a session that is logged in, and the songs of the library. -/
structure Lasting (library : ρ → List Song) (before after : Session ρ) : Prop where
  session : before.isAuthenticated = true → after.isAuthenticated = true
  songs : ∀ song ∈ library before.remote, song ∈ library after.remote

namespace Lasting

variable {library : ρ → List Song} {before middle after : Session ρ}

theorem refl (library : ρ → List Song) (session : Session ρ) : Lasting library session session :=
  ⟨id, fun _ => id⟩

theorem trans (head : Lasting library before middle) (tail : Lasting library middle after) :
    Lasting library before after :=
  ⟨fun loggedIn => tail.session (head.session loggedIn),
    fun song member => tail.songs song (head.songs song member)⟩

theorem lists {id : String} (lasting : Lasting library before after)
    (listed : Lists (library before.remote) id) : Lists (library after.remote) id := by
  obtain ⟨song, member, same⟩ := listed
  exact ⟨song, lasting.songs song member, same⟩

theorem send {α : Type} {request : Exec ρ Raised α} (grows : Grows library request)
    (session : Session ρ) : Lasting library session ((Session.send request).final session) := by
  refine ⟨fun loggedIn => ?_, ?_⟩
  · rw [Session.send_isAuthenticated]
    exact loggedIn
  · cases state : session.isAuthenticated with
    | false =>
        rw [Exec.final, Session.send_of_loggedOut request state]
        exact fun _ => id
    | true =>
        rw [Exec.final, Session.send_of_loggedIn request state]
        exact grows session.remote

theorem login {attempt : Exec ρ String Bool} (grows : Grows library attempt)
    (session : Session ρ) : Lasting library session ((Session.login attempt).final session) := by
  cases state : session.isAuthenticated with
  | true =>
      have unchanged : (Session.login attempt).final session = session := by
        simp [Exec.final, Session.login, state]
      rw [unchanged]
      exact refl library session
  | false =>
      refine ⟨fun loggedIn => by simp [state] at loggedIn, ?_⟩
      have kept := grows session.remote
      rw [Exec.final] at kept ⊢
      rw [Session.login_of_loggedOut attempt state]
      cases attempted : attempt.run session.remote with
      | mk outcome remote =>
          rw [attempted] at kept
          cases outcome <;> exact kept

end Lasting

structure Staging.Tracking (library : ρ → List Song) (staging : Staging ρ) : Prop where
  confirmed : ∀ id, id ∈ staging.reported ∨ some id ∈ staging.adding →
    staging.plugin.host.service.isAuthenticated = true ∧
      Lists (library staging.plugin.host.service.remote) id
  answers : ∀ songs, .answered songs ∈ staging.plugin.threads →
    ∀ id ∈ staging.reported, Lists songs id
  listed : staging.plugin.api.allSongs = [] ∨
    ∀ id ∈ staging.reported, Lists staging.plugin.api.allSongs id
  asking : staging.reported ≠ [] → staging.plugin.api.allSongs = [] →
    ∃ job ∈ staging.plugin.threads, job.asks = true

section Steps

variable {remote : Remote ρ} {library : ρ → List Song} {staging next : Staging ρ}

theorem start_tracking (library : ρ → List Song) (state : ρ) (now : Int) :
    (Staging.start state now).Tracking library where
  confirmed := by simp [Staging.start]
  answers := by simp [Staging.start]
  listed := Or.inl rfl
  asking := by simp [Staging.start]

theorem Staging.Tracking.fresh (tracking : staging.Tracking library) : staging.Fresh := by
  intro idle _ id member
  rcases tracking.listed with empty | listed
  · obtain ⟨job, inside, _⟩ := tracking.asking (List.ne_nil_of_mem member) empty
    simp [idle] at inside
  · exact listed id member

/-- A step that lasts keeps the invariant when it writes neither the song list nor a
report, and at most creates jobs. -/
theorem Staging.Tracking.of_lasting (tracking : staging.Tracking library)
    (lasting : Lasting library staging.plugin.host.service next.plugin.host.service)
    (songs : next.plugin.api.allSongs = staging.plugin.api.allSongs)
    (jobs : ∃ count, next.plugin.threads = staging.plugin.threads ++ List.replicate count .created)
    (adding : next.adding = staging.adding) (reported : next.reported = staging.reported) :
    next.Tracking library := by
  obtain ⟨count, jobs⟩ := jobs
  refine ⟨?_, ?_, ?_, ?_⟩
  · intro id member
    rw [reported, adding] at member
    obtain ⟨loggedIn, listed⟩ := tracking.confirmed id member
    exact ⟨lasting.session loggedIn, lasting.lists listed⟩
  · intro answer member
    rw [jobs, List.mem_append] at member
    rw [reported]
    rcases member with member | created
    · exact tracking.answers answer member
    · cases List.eq_of_mem_replicate created
  · rw [songs, reported]
    exact tracking.listed
  · rw [songs, reported, jobs]
    intro nonempty empty
    obtain ⟨job, member, asks⟩ := tracking.asking nonempty empty
    exact ⟨job, List.mem_append_left _ member, asks⟩

theorem Staging.Tracking.refresh (tracking : staging.Tracking library) (remote : Remote ρ)
    (now : Int) :
    Staging.Tracking library
      { staging with plugin := libraryRefresh (.staged remote) now staging.plugin } where
  confirmed := tracking.confirmed
  answers songs member := by
    rcases List.mem_append.mp member with member | created
    · exact tracking.answers songs member
    · simp at created
  listed := Or.inl rfl
  asking _ _ := ⟨.created, List.mem_append_right _ List.mem_cons_self, rfl⟩

theorem authenticate_lasting (holds : HoldsLibrary remote library) (email password : String)
    (host : Host (Session ρ)) : Lasting library host.service
      ((authenticate remote.withSession [email, password]).final host).service :=
  authenticate_keeps (Lasting library host.service) remote.withSession email password
    (fun session held => held.trans (.login (holds.login email password) session))
    (fun session held => held.trans (.send holds.devices session)) host (.refl library host.service)

theorem Staging.Tracking.mainMenu {now later : Int} {email password : String}
    (holds : HoldsLibrary remote library) (tracking : staging.Tracking library) :
    Staging.Tracking library { staging with plugin :=
      (mainMenu (.staged remote) now later email password).final staging.plugin } := by
  rw [mainMenu_final]
  have expired : Staging.Tracking library
      { staging with plugin := staging.plugin.expire (.staged remote) now later } := by
    unfold expire
    split
    · exact tracking.refresh remote later
    · exact tracking
  generalize staging.plugin.expire (.staged remote) now later = plugin at expired
  have lasting := authenticate_lasting holds email password plugin.host
  have same := authenticate_sameLibrary remote.withSession [email, password] plugin.host
  have outcome := signIn_outcome (.staged remote) email password plugin
  generalize plugin.signIn (.staged remote) email password = after at outcome
  cases outcome with
  | skipped => exact expired
  | returned down => exact expired.of_lasting lasting same.songs ⟨1, rfl⟩ rfl rfl
  | raised down => exact expired.of_lasting lasting same.songs ⟨0, by simp⟩ rfl rfl

theorem withRelogin_send {α : Type} {request : Exec ρ Raised (Option α)}
    {host after : Host (Session ρ)} {outcome : Except Raised (Option α)}
    (grows : Grows library request)
    (ran : (withRelogin remote.withSession (onService (Session.send request)) none).run host =
      (outcome, after)) :
    after.api = host.api ∧ Lasting library host.service after.service ∧
      ∀ value, outcome = .ok value → host.service.isAuthenticated = true ∧
        request.Returns host.service.remote value ∧
        after.service.remote = request.final host.service.remote := by
  rw [withRelogin_run] at ran
  cases ran
  refine ⟨rfl, .send grows host.service, fun value returned => ?_⟩
  have answered : (Session.send request).Returns host.service value := by
    simp only [onService, Exec.run_zoom] at returned
    rw [Exec.Returns]
    cases answer : ((Session.send request).run host.service).1 with
    | ok other => rw [answer] at returned; cases returned; rfl
    | error reason => rw [answer] at returned; cases returned
  obtain ⟨loggedIn, returns⟩ := Session.send_returns_iff.mp answered
  refine ⟨loggedIn, returns, ?_⟩
  simp only [onService, Exec.run_zoom, Session.send_of_loggedIn request loggedIn, Exec.final]

theorem addedSong_spec {id : String} {playlist : Option String} {type : Int}
    {host after : Host (Session ρ)} {outcome : Except Raised (Option String)}
    (holds : HoldsLibrary remote library)
    (ran : (addedSong remote.withSession id playlist type).run host = (outcome, after)) :
    after.api = host.api ∧ Lasting library host.service after.service ∧
      ∀ added, outcome = .ok (some added) → after.service.isAuthenticated = true ∧
        Lists (library after.service.remote) added := by
  by_cases toLibrary : type = 0
  · simp only [addedSong, toLibrary, if_true] at ran
    obtain ⟨api, lasting, returned⟩ := withRelogin_send (holds.addTrack id) ran
    refine ⟨api, lasting, fun added same => ?_⟩
    obtain ⟨loggedIn, returns, left⟩ := returned (some added) same
    rw [left]
    exact ⟨lasting.session loggedIn, holds.accepted id _ added returns⟩
  · simp only [addedSong, toLibrary, if_false, Exec.run_map] at ran
    cases added : (addSongsToPlaylist remote.withSession playlist id).run host with
    | mk answer left =>
        obtain ⟨api, lasting, _⟩ := withRelogin_send (holds.addSongs playlist id) added
        rw [added] at ran
        cases answer with
        | ok items => cases ran; exact ⟨api, lasting, fun _ same => by cases same⟩
        | error reason => cases ran; exact ⟨api, lasting, fun _ same => by cases same⟩

theorem addToCollection_tracking {id : String} {playlist : Option String} {type : Int}
    (holds : HoldsLibrary remote library) (tracking : staging.Tracking library)
    (step : stagedStep remote (.addToCollection id playlist type) staging = some next) :
    next.Tracking library := by
  cases added : (addedSong remote.withSession id playlist type).run staging.plugin.host with
  | mk outcome host =>
      obtain ⟨api, lasting, accepted⟩ := addedSong_spec holds added
      have kept : Staging.Tracking library { staging with plugin := { staging.plugin with host } } :=
        tracking.of_lasting lasting (congrArg GMusic.allSongs api) ⟨0, by simp⟩ rfl rfl
      simp only [stagedStep, added] at step
      cases outcome with
      | error reason =>
          cases step
          exact kept
      | ok item =>
          cases step
          refine ⟨?_, kept.answers, kept.listed, kept.asking⟩
          rintro song (reported | member)
          · exact kept.confirmed song (Or.inl reported)
          · rcases List.mem_append.mp member with earlier | new
            · exact kept.confirmed song (Or.inr earlier)
            · exact accepted song (by rw [List.mem_singleton.mp new])

theorem finishAdd_tracking {index : Nat} {now : Int} (tracking : staging.Tracking library)
    (step : stagedStep remote (.finishAdd index now) staging = some next)
    (fresh : NoStaleAnswer (.finishAdd index now) staging) : next.Tracking library := by
  obtain ⟨item, found, rfl⟩ := Option.map_eq_some_iff.mp step
  have refreshed := tracking.refresh remote now
  refine ⟨?_, ?_, Or.inl rfl, fun _ _ => ⟨.created, List.mem_append_right _ List.mem_cons_self, rfl⟩⟩
  · rintro id (reported | waiting)
    · rcases List.mem_append.mp reported with earlier | new
      · exact refreshed.confirmed id (Or.inl earlier)
      · rw [Option.mem_toList.mp new] at found
        exact refreshed.confirmed id (Or.inr (List.mem_of_getElem? found))
    · exact refreshed.confirmed id (Or.inr (List.mem_of_mem_eraseIdx waiting))
  · intro songs member id reported
    rcases List.mem_append.mp reported with earlier | new
    · exact refreshed.answers songs member id earlier
    · rcases List.mem_append.mp member with member | created
      · exact fresh id (by rw [found, Option.mem_toList.mp new]) songs member
      · simp at created

end Steps

section Jobs

variable {remote : Remote ρ} {library : ρ → List Song} {staging next : Staging ρ}
variable {jobs : List Job} {job : Job} {left : Option Job} {index : Nat}

theorem mem_replaceJob {other : Job} (member : other ∈ replaceJob jobs index left) :
    other ∈ jobs ∨ left = some other := by
  cases left with
  | none => exact Or.inl (List.mem_of_mem_eraseIdx member)
  | some moved =>
      rcases List.mem_or_eq_of_mem_set member with member | rfl
      · exact Or.inl member
      · exact Or.inr rfl

/-- A list of jobs keeps one that asks when the job that took a step still asks, or did
not before. -/
theorem asks_replaceJob (found : jobs[index]? = some job)
    (moves : job.asks = true → ∃ moved, left = some moved ∧ moved.asks = true)
    (asking : ∃ other ∈ jobs, other.asks = true) :
    ∃ other ∈ replaceJob jobs index left, other.asks = true := by
  obtain ⟨other, member, asks⟩ := asking
  obtain ⟨place, there⟩ := List.getElem?_of_mem member
  by_cases same : place = index
  · subst same
    rw [there] at found
    cases found
    obtain ⟨moved, rfl, still⟩ := moves asks
    obtain ⟨bound, _⟩ := List.getElem?_eq_some_iff.mp there
    exact ⟨moved, List.mem_set bound moved, still⟩
  · cases left with
    | none => exact ⟨other, List.mem_eraseIdx_iff_getElem?.mpr ⟨place, same, there⟩, asks⟩
    | some moved =>
        have kept : (jobs.set index moved)[place]? = some other := by
          rw [List.getElem?_set_ne (Ne.symm same)]
          exact there
        exact ⟨other, List.mem_of_getElem? kept, asks⟩

theorem Staging.Tracking.of_advance {host : Host (Session ρ)} (tracking : staging.Tracking library)
    (found : staging.plugin.threads[index]? = some job)
    (lasting : Lasting library staging.plugin.host.service host.service)
    (answers : ∀ songs, left = some (.answered songs) → ∀ id ∈ staging.reported, Lists songs id)
    (listed : host.api.allSongs = [] ∨ ∀ id ∈ staging.reported, Lists host.api.allSongs id)
    (asking : staging.reported ≠ [] → host.api.allSongs = [] →
      staging.plugin.api.allSongs = [] ∧
        (job.asks = true → ∃ moved, left = some moved ∧ moved.asks = true)) :
    Staging.Tracking library { staging with plugin := { staging.plugin with
      host
      threads := replaceJob staging.plugin.threads index left } } where
  confirmed id member := by
    obtain ⟨loggedIn, known⟩ := tracking.confirmed id member
    exact ⟨lasting.session loggedIn, lasting.lists known⟩
  answers songs member := by
    rcases mem_replaceJob member with member | moved
    · exact tracking.answers songs member
    · exact answers songs moved
  listed := listed
  asking nonempty empty := by
    obtain ⟨before, moves⟩ := asking nonempty empty
    exact asks_replaceJob found moves (tracking.asking nonempty before)

theorem advance_tracking (holds : HoldsLibrary remote library) (tracking : staging.Tracking library)
    (step : stagedStep remote (.advance index) staging = some next) : next.Tracking library := by
  obtain ⟨job, found, rfl⟩ := Option.map_eq_some_iff.mp step
  have inside : job ∈ staging.plugin.threads := List.mem_of_getElem? found
  have loggedIn : staging.reported ≠ [] → staging.plugin.host.service.isAuthenticated = true := by
    intro nonempty
    obtain ⟨id, member⟩ := List.exists_mem_of_ne_nil _ nonempty
    exact (tracking.confirmed id (Or.inl member)).1
  cases job with
  | created =>
      have same : (Job.advance remote staging.plugin.host .created).2 = staging.plugin.host := by
        simp only [Job.advance]
        split
        · split <;> rfl
        · rfl
      refine tracking.of_advance found ?_ ?_ ?_ ?_
      · rw [same]
        exact .refl library _
      · intro songs moved
        simp only [Job.advance] at moved
        split at moved
        · split at moved <;> cases moved
        · cases moved
      · rw [same]
        exact tracking.listed
      · rw [same]
        intro nonempty empty
        refine ⟨empty, fun _ => ⟨.asking, ?_, rfl⟩⟩
        simp [Job.advance, empty, loggedIn nonempty]
  | asking =>
      have answered := holds.songs staging.plugin.host.service.remote
      have grows := holds.asked staging.plugin.host.service.remote
      rw [Exec.final] at grows
      rw [Exec.Returns] at answered
      simp only [Job.advance, answered]
      refine tracking.of_advance found ⟨id, grows⟩ ?_ tracking.listed ?_
      · intro songs moved id member
        cases moved
        exact (tracking.confirmed id (Or.inl member)).2
      · exact fun _ empty => ⟨empty, fun _ => ⟨_, rfl, rfl⟩⟩
  | answered songs =>
      have known := tracking.answers songs inside
      refine tracking.of_advance found (.refl library _) ?_ (Or.inr known) ?_
      · intro other moved
        cases moved
      · intro nonempty empty
        obtain ⟨id, member⟩ := List.exists_mem_of_ne_nil _ nonempty
        obtain ⟨song, inside, _⟩ := known id member
        change songs = [] at empty
        simp [empty] at inside
  | indexing =>
      have songs := indexLibrary_allSongs staging.plugin.host.api
      refine tracking.of_advance found (.refl library _) ?_ ?_ ?_
      · intro other moved
        cases moved
      · simp only [Job.advance, songs]
        exact tracking.listed
      · simp only [Job.advance, songs]
        exact fun _ empty => ⟨empty, fun asks => by cases asks⟩

end Jobs

theorem stagedStep_tracking {remote : Remote ρ} {library : ρ → List Song} {label : StagedRequest}
    {staging next : Staging ρ} (holds : HoldsLibrary remote library)
    (tracking : staging.Tracking library)
    (step : (stagedSystem remote).step label staging = some next)
    (fresh : NoStaleAnswer label staging) : next.Tracking library := by
  cases label with
  | mainMenu now later email password =>
      cases step
      exact tracking.mainMenu holds
  | refreshMenu now =>
      cases step
      exact tracking.refresh remote now
  | addToCollection id playlist type => exact addToCollection_tracking holds tracking step
  | finishAdd index now => exact finishAdd_tracking tracking step fresh
  | advance index => exact advance_tracking holds tracking step

/-- In every interleaving in which no added song is reported while a load still carries
an answer without it, a loaded library with no job left has every reported song. -/
theorem always_fresh (remote : Remote ρ) (library : ρ → List Song)
    (holds : HoldsLibrary remote library) (state : ρ) (now : Int) (labels : List StagedRequest)
    (admitted : (stagedSystem remote).Admits NoStaleAnswer labels (Staging.start state now)) :
    (stagedSystem remote).Always Staging.Fresh labels (Staging.start state now) := by
  have tracking := System.always_of_keeps
    (fun {_ _ _} held step met => stagedStep_tracking holds held step met)
    (start_tracking library state now) admitted
  exact tracking.imp fun staging held => held.fresh

section Stale

variable {remote : Remote ρ} {staging next : Staging ρ} {songs : List Song}
variable {front back : List Job} {job : Job}

def Job.work : Job → Nat
  | .created => 4
  | .asking => 3
  | .answered _ => 2
  | .indexing => 1

theorem work_of_advance {host : Host (Session ρ)} {moved : Job}
    (moves : (job.advance remote host).1 = some moved) : moved.work < job.work := by
  cases job with
  | created =>
      simp only [Job.advance] at moves
      split at moves
      · split at moves <;> cases moves
        decide
      · cases moves
        decide
  | asking =>
      simp only [Job.advance] at moves
      split at moves <;> cases moves
      simp [Job.work]
  | answered songs =>
      cases moves
      simp [Job.work]
  | indexing => cases moves

theorem run_job (remote : Remote ρ) (staging : Staging ρ)
    (jobs : staging.plugin.threads = front ++ job :: back) :
    ∃ labels after, (stagedSystem remote).run labels staging = some after ∧
      after.plugin.threads = front ++ back ∧ after.reported = staging.reported := by
  induction work : job.work using Nat.strong_induction_on generalizing job staging with
  | _ steps ih =>
      have found : staging.plugin.threads[front.length]? = some job := by simp [jobs]
      let reached := job.advance remote staging.plugin.host
      let middle : Staging ρ := { staging with plugin := { staging.plugin with
        host := reached.2
        threads := replaceJob staging.plugin.threads front.length reached.1 } }
      have step : (stagedSystem remote).step (.advance front.length) staging = some middle := by
        simp [stagedSystem, stagedStep, found, middle, reached]
      cases moves : reached.1 with
      | none =>
          refine ⟨[.advance front.length], middle, by simp [System.run, step], ?_, rfl⟩
          simp only [middle, moves, replaceJob, jobs]
          simp [List.eraseIdx_append_of_length_le]
      | some moved =>
          have threads : middle.plugin.threads = front ++ moved :: back := by
            simp only [middle, moves, replaceJob, jobs]
            simp
          obtain ⟨labels, after, ran, left, reported⟩ :=
            ih moved.work (work ▸ work_of_advance moves) middle threads rfl
          exact ⟨.advance front.length :: labels, after, by simp [System.run, step, ran], left, reported⟩

theorem run_others (remote : Remote ρ) (staging : Staging ρ)
    (jobs : staging.plugin.threads = front ++ job :: back) :
    ∃ labels after, (stagedSystem remote).run labels staging = some after ∧
      after.plugin.threads = [job] ∧ after.reported = staging.reported := by
  induction back generalizing staging with
  | cons other back ih =>
      have split : staging.plugin.threads = (front ++ [job]) ++ other :: back := by simp [jobs]
      obtain ⟨labels, middle, ran, left, reported⟩ := run_job remote staging split
      obtain ⟨later, after, rest, alone, same⟩ := ih middle (by simp [left])
      exact ⟨labels ++ later, after, System.run_append ran rest, alone, same.trans reported⟩
  | nil =>
      induction front generalizing staging with
      | nil => exact ⟨[], staging, rfl, jobs, rfl⟩
      | cons other front ih =>
          have split : staging.plugin.threads = [] ++ other :: (front ++ [job]) := jobs
          obtain ⟨labels, middle, ran, left, reported⟩ := run_job remote staging split
          obtain ⟨later, after, rest, alone, same⟩ := ih middle left
          exact ⟨labels ++ later, after, System.run_append ran rest, alone, same.trans reported⟩

/-- An answer without a song that is reported while the answer is under way can always be
the last to arrive: some continuation ends with the library loaded and the song missing. -/
theorem stale_answer_wins {index : Nat} {now : Int} {id : String}
    (step : (stagedSystem remote).step (.finishAdd index now) staging = some next)
    (accepted : staging.adding[index]? = some (some id))
    (waiting : .answered songs ∈ staging.plugin.threads) (stale : ¬ Lists songs id)
    (fields : ∀ song ∈ songs, song.indexable = true) :
    ∃ labels after, (stagedSystem remote).run labels next = some after ∧ ¬ after.Fresh := by
  obtain ⟨item, found, made⟩ := Option.map_eq_some_iff.mp step
  rw [accepted] at found
  cases found
  obtain ⟨front, back, jobs⟩ := List.append_of_mem waiting
  have split : next.plugin.threads = front ++ .answered songs :: (back ++ [.created]) := by
    simp [← made, libraryRefresh, Runtime.staged, jobs]
  have member : id ∈ next.reported := by simp [← made]
  obtain ⟨labels, last, ran, alone, reported⟩ := run_others remote next split
  obtain ⟨indexed, indexes, filed, _⟩ :=
    indexSongs_of_indexable (last.plugin.api.withSongs songs) fields
  have loaded : indexLibrary.final (last.plugin.api.withSongs songs) = indexed.markLoaded := by
    simp only [indexLibrary, Exec.final, Exec.run_bind, Exec.run_gets, GMusic.allSongs_withSongs,
      indexes, Exec.run_modify]
  have ended : (stagedSystem remote).run [.advance 0, .advance 0] last = some { last with
      plugin := { last.plugin with
        host := { last.plugin.host with api := indexed.markLoaded }
        threads := [] } } := by
    rw [← loaded]
    simp [System.run, stagedSystem, stagedStep, alone, Job.advance, replaceJob, Plugin.api]
  refine ⟨labels ++ [.advance 0, .advance 0], _, System.run_append ran ended, fun fresh => stale ?_⟩
  have listed := fresh rfl rfl id (by rw [← reported] at member; exact member)
  rw [← show indexed.allSongs = songs from filed.allSongs]
  exact listed

end Stale

def growingLibrary : Remote (List Song) where
  toEndpoints := { Endpoints.unavailable with
    getRegisteredDevices := pure []
    getAllSongs := Exec.gets id
    addAaTrack nid := do
      Exec.modify fun songs => songs ++ [{ Song.sample with id := some ("library-" ++ nid) }]
      pure (some ("library-" ++ nid)) }
  performLogin _ _ := pure true

theorem growingLibrary_holds : HoldsLibrary growingLibrary id where
  songs _ := rfl
  asked _ _ member := member
  login _ _ _ _ member := member
  devices _ _ member := member
  addTrack _ _ _ member := List.mem_append_left _ member
  addSongs _ _ _ _ member := member
  accepted _ _ _ returned := by
    cases returned
    exact ⟨_, List.mem_append_right _ List.mem_cons_self, rfl⟩

/-- The add is reported while the first load waits for its answer, and then both loads run
to their ends. -/
def reportedInTime : List StagedRequest :=
  [.mainMenu 0 0 "user" "secret", .advance 0, .addToCollection "nid" none 0, .finishAdd 0 0,
    .advance 0, .advance 0, .advance 0, .advance 0, .advance 0]

theorem fresh_of_growing :
    (stagedSystem growingLibrary).Always Staging.Fresh reportedInTime
        (Staging.start [.sample] 0) ∧
      ∃ staging, (stagedSystem growingLibrary).run reportedInTime (Staging.start [.sample] 0) =
          some staging ∧
        staging.plugin.threads = [] ∧ staging.plugin.api.libraryLoaded = true ∧
        staging.reported = ["library-nid"] := by
  refine ⟨always_fresh growingLibrary id growingLibrary_holds [.sample] 0 reportedInTime ?_,
    _, rfl, rfl, rfl, rfl⟩
  refine .step rfl True.intro (.step rfl True.intro (.step rfl True.intro (.step rfl ?_ ?_)))
  · intro id added songs answered
    cases List.mem_singleton.mp answered
  · exact .step rfl True.intro (.step rfl True.intro (.step rfl True.intro (.step rfl True.intro
      (.step rfl True.intro True.intro))))

/-- The first load is answered before the add and assigns after its refresh.  The second
then finds the list filled. -/
def overtakenLoad : List StagedRequest :=
  [.mainMenu 0 0 "user" "secret", .advance 0, .advance 0, .addToCollection "nid" none 0,
    .finishAdd 0 0, .advance 0, .advance 0, .advance 0, .advance 0]

theorem overtaken_load_loses_song : HoldsLibrary growingLibrary id ∧
    ¬ (stagedSystem growingLibrary).Always Staging.Fresh overtakenLoad
      (Staging.start [.sample] 0) := by
  refine ⟨growingLibrary_holds, fun always => ?_⟩
  obtain ⟨song, member, same⟩ := always.last rfl rfl rfl "library-nid" (by decide)
  cases List.mem_singleton.mp member
  exact absurd same (by decide)

end GoogleMusic
