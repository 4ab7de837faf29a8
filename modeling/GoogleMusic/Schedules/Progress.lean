import GoogleMusic.Schedules.Queued

namespace GoogleMusic

open Foundation Plugin

variable {ρ : Type}

/-- Logged in and with no job left, the library is loaded. -/
def Plugin.NotStuck {σ : Type} (plugin : Plugin σ Nat) : Prop :=
  plugin.api.authenticated = true → plugin.threads = 0 → plugin.api.libraryLoaded = true

def LoadableAccount (remote : Remote ρ) : Prop :=
  ∀ state, ∃ songs, remote.getAllSongs.Returns state songs ∧
    ∀ song ∈ songs, song.indexable = true

def SignsIn : Request → Plugin (Session ρ) Nat → Prop
  | .mainMenu _ _ email password, plugin =>
      plugin.api.authenticated = false ∧ email ≠ "" ∧ password ≠ ""
  | _, _ => False

/-- A login that is granted with no job in the queue also finds its device list. -/
def ListsDevicesWhenIdle (remote : Remote ρ) : Request → Plugin (Session ρ) Nat → Prop
  | .mainMenu now later email password, plugin =>
      SignsIn (.mainMenu now later email password) plugin →
      plugin.threads = 0 → ¬ now > plugin.refresh + twoHours →
      (remote.performLogin email password).Returns plugin.host.service.remote true →
      ListsDevices remote plugin.api.device
        ((remote.performLogin email password).final plugin.host.service.remote)
  | _, _ => True

/-- The invariant of the runs that make progress. -/
structure Plugin.Progressing (plugin : Plugin (Session ρ) Nat) : Prop where
  flags : plugin.api.authenticated = plugin.host.service.isAuthenticated
  fields : ∀ song ∈ plugin.api.allSongs, song.indexable = true
  loggedOut : plugin.api.authenticated = false →
    plugin.api.allSongs = [] ∧ plugin.api.libraryLoaded = false
  loading : plugin.NotStuck

section Steps

variable {remote : Remote ρ} {label : Request} {plugin next : Plugin (Session ρ) Nat}
variable {now later : Int} {email password : String}

theorem start_progressing (state : ρ) (now : Int) :
    (Plugin.start (Session.fresh state) now).Progressing where
  flags := rfl
  fields := by simp [Plugin.start, Plugin.api]
  loggedOut _ := ⟨rfl, rfl⟩
  loading loggedIn := by simp [Plugin.start, Plugin.api] at loggedIn

theorem Plugin.Progressing.of_same (progressing : plugin.Progressing)
    (api : next.host.api = plugin.host.api)
    (session : next.host.service.isAuthenticated = plugin.host.service.isAuthenticated)
    (threads : next.threads = plugin.threads) : next.Progressing where
  flags := by rw [Plugin.api, api, session]; exact progressing.flags
  fields := by rw [Plugin.api, api]; exact progressing.fields
  loggedOut := by rw [Plugin.api, api]; exact progressing.loggedOut
  loading := by rw [NotStuck, Plugin.api, api, threads]; exact progressing.loading

theorem libraryRefresh_progressing (plugin : Plugin (Session ρ) Nat)
    (flags : plugin.api.authenticated = plugin.host.service.isAuthenticated) :
    (libraryRefresh (.queued remote.withSession) now plugin).Progressing where
  flags := flags
  fields := by simp [queued_libraryRefresh, Plugin.api, GMusic.resetLibrary]
  loggedOut _ := ⟨rfl, rfl⟩
  loading _ idle := by simp [queued_libraryRefresh] at idle

/-- A job of a session that is logged in loads the library, and any other job ends
without a trace. -/
theorem loadAsync_progressing (account : LoadableAccount remote) (progressing : plugin.Progressing)
    (step : queuedStep remote.withSession .loadAsync plugin = some next) : next.Progressing := by
  obtain ⟨_, _, ran⟩ := queuedStep_loadAsync step
  have outcome := loadData_outcome remote.withSession plugin.host
  have session := loadData_isAuthenticated remote plugin.host
  rw [← ran] at outcome session
  have authenticated := outcome.authenticated
  change next.api.authenticated = plugin.api.authenticated at authenticated
  have flags : next.api.authenticated = next.host.service.isAuthenticated := by
    rw [session, authenticated, progressing.flags]
  obtain ⟨listed, answered, listable⟩ := account plugin.host.service.remote
  generalize ((loadData remote.withSession).run plugin.host).1 = ending at outcome
  generalize left : next.host.api = after at outcome
  cases outcome with
  | refused empty unanswered =>
      have down : next.api.authenticated = false := by
        rw [authenticated, progressing.flags, ← Bool.not_eq_true]
        exact fun loggedIn => unanswered ⟨listed, Session.send_returns_iff.mpr ⟨loggedIn, answered⟩⟩
      refine ⟨flags, ?_, fun _ => ?_, fun loggedIn => by simp [down] at loggedIn⟩
      · rw [Plugin.api, left]
        exact progressing.fields
      · rw [Plugin.api, left]
        exact progressing.loggedOut (authenticated ▸ down)
  | @indexed songs after source fields filed indexes =>
      have up : next.api.authenticated = true := by
        rw [authenticated]
        cases source with
        | cached nonempty =>
            rw [← Bool.not_eq_false]
            exact fun down => nonempty (progressing.loggedOut down).1
        | fetched empty returned =>
            rw [progressing.flags]
            exact (Session.send_returns_iff.mp returned).1
      refine ⟨flags, ?_, fun down => by simp [up] at down, fun _ _ => ?_⟩
      · rw [Plugin.api, left, GMusic.allSongs_markLoaded, filed.allSongs]
        exact fields
      · rw [Plugin.api, left, GMusic.libraryLoaded_markLoaded]
  | @broken songs front back bad reason after source split defective filed =>
      have inside : bad ∈ songs := by simp [split]
      have indexable : bad.indexable = true := by
        cases source with
        | cached nonempty => exact progressing.fields bad inside
        | fetched empty returned =>
            have same := (Session.send_returns_iff.mp returned).2
            rw [Exec.Returns, answered] at same
            cases same
            exact listable bad inside
      simp [indexable] at defective

theorem addToCollection_progressing {id : String} {playlist : Option String} {type : Int}
    (progressing : plugin.Progressing) :
    ((addToCollection (.queued remote.withSession) id playlist type now).final
      plugin).Progressing := by
  have api := addItem_api remote.withSession id playlist type plugin.host
  have session := addItem_isAuthenticated remote id playlist type plugin.host
  have outcome := addToCollection_outcome (.queued remote.withSession) id playlist type now plugin
  generalize (addToCollection (.queued remote.withSession) id playlist type now).final plugin = after
    at outcome
  cases outcome with
  | answered returned =>
      apply libraryRefresh_progressing _
      simp only [Plugin.api, Runtime.queued, api, session]
      exact progressing.flags
  | raised failed => exact progressing.of_same api session rfl

theorem expire_progressing (progressing : plugin.Progressing) :
    (plugin.expire (.queued remote.withSession) now later).Progressing := by
  unfold expire
  split
  · exact libraryRefresh_progressing plugin progressing.flags
  · exact progressing

theorem signIn_run (remote : Remote ρ)
    (wanted : plugin.api.authenticated = false ∧ email ≠ "" ∧ password ≠ "") :
    let after := plugin.signIn (.queued remote.withSession) email password
    let login := authenticate remote.withSession [email, password]
    after.host = login.final plugin.host ∧
      (((∃ value, login.Returns plugin.host value) ∧ after.threads = plugin.threads + 1) ∨
        ¬ (∃ value, login.Returns plugin.host value) ∧ after.threads = plugin.threads) := by
  obtain ⟨down, hasEmail, hasPassword⟩ := wanted
  simp only [signIn, down, bne_iff_ne.mpr hasEmail, bne_iff_ne.mpr hasPassword, beq_self_eq_true,
    Bool.and_self, if_true, Exec.Returns, Exec.final, Runtime.queued]
  cases tried : (authenticate remote.withSession [email, password]).run plugin.host with
  | mk outcome host => cases outcome <;> simp

theorem signIn_unwanted
    (unwanted : ¬ (plugin.api.authenticated = false ∧ email ≠ "" ∧ password ≠ "")) :
    plugin.signIn (.queued remote.withSession) email password = plugin := by
  refine if_neg fun wanted => unwanted ?_
  simpa [and_assoc] using wanted

theorem signIn_denied (progressing : plugin.Progressing)
    (wanted : plugin.api.authenticated = false ∧ email ≠ "" ∧ password ≠ "")
    (denied : ¬ (remote.performLogin email password).Returns plugin.host.service.remote true) :
    (plugin.signIn (.queued remote.withSession) email password).Progressing := by
  obtain ⟨host, _⟩ := signIn_run remote wanted
  have loggedOut := progressing.flags.symm.trans wanted.1
  obtain ⟨down, session⟩ := authenticate_denied loggedOut wanted.1 denied
  have same := authenticate_sameLibrary remote.withSession [email, password] plugin.host
  rw [← host] at down session same
  have start := progressing.loggedOut wanted.1
  refine ⟨down.trans session.symm, ?_, fun _ => ⟨same.songs.trans start.1, same.loaded.trans start.2⟩,
    fun up => by rw [Plugin.api, down] at up; cases up⟩
  rw [Plugin.api, same.songs]
  exact progressing.fields

theorem signIn_granted (progressing : plugin.Progressing)
    (wanted : plugin.api.authenticated = false ∧ email ≠ "" ∧ password ≠ "")
    (granted : (remote.performLogin email password).Returns plugin.host.service.remote true) :
    let after := plugin.signIn (.queued remote.withSession) email password
    after.api.authenticated = true ∧ after.host.service.isAuthenticated = true ∧
      after.api.allSongs = [] ∧ after.api.libraryLoaded = false ∧
      (after.threads = 0 ↔ plugin.threads = 0 ∧ ¬ ListsDevices remote plugin.api.device
        ((remote.performLogin email password).final plugin.host.service.remote)) := by
  obtain ⟨host, jobs⟩ := signIn_run remote wanted
  have loggedOut := progressing.flags.symm.trans wanted.1
  obtain ⟨up, session, devices⟩ := authenticate_granted loggedOut granted
  have same := authenticate_sameLibrary remote.withSession [email, password] plugin.host
  have start := progressing.loggedOut wanted.1
  rw [devices] at jobs
  rw [← host] at up session same
  refine ⟨up, session, same.songs.trans start.1, same.loaded.trans start.2, ?_⟩
  rcases jobs with ⟨listed, added⟩ | ⟨unlisted, kept⟩
  · rw [added]
    simp only [Nat.add_eq_zero_iff, one_ne_zero, and_false, false_iff, not_and, not_not]
    exact fun _ => listed
  · rw [kept]
    exact (and_iff_left unlisted).symm

theorem signIn_progressing (progressing : plugin.Progressing)
    (listed : plugin.api.authenticated = false ∧ email ≠ "" ∧ password ≠ "" → plugin.threads = 0 →
      (remote.performLogin email password).Returns plugin.host.service.remote true →
      ListsDevices remote plugin.api.device
        ((remote.performLogin email password).final plugin.host.service.remote)) :
    (plugin.signIn (.queued remote.withSession) email password).Progressing := by
  by_cases wanted : plugin.api.authenticated = false ∧ email ≠ "" ∧ password ≠ ""
  · by_cases granted : (remote.performLogin email password).Returns plugin.host.service.remote true
    · obtain ⟨up, session, empty, _, idle⟩ := signIn_granted progressing wanted granted
      refine ⟨up.trans session.symm, by simp [empty], fun down => by simp [up] at down, ?_⟩
      intro _ none
      obtain ⟨before, unlisted⟩ := idle.mp none
      exact absurd (listed wanted before granted) unlisted
    · exact signIn_denied progressing wanted granted
  · rw [signIn_unwanted wanted]
    exact progressing

theorem queuedStep_progressing (account : LoadableAccount remote) (progressing : plugin.Progressing)
    (step : queuedStep remote.withSession label plugin = some next)
    (listed : ListsDevicesWhenIdle remote label plugin) : next.Progressing := by
  cases label with
  | loadAsync => exact loadAsync_progressing account progressing step
  | mainMenu now later email password =>
      simp only [queuedStep, mainMenu_final, Option.some.injEq] at step
      subst step
      apply signIn_progressing (expire_progressing progressing)
      by_cases old : now > plugin.refresh + twoHours
      · rw [expire_of_old old]
        exact fun _ idle => by simp [queued_libraryRefresh] at idle
      · rw [expire_of_recent old]
        exact fun wanted idle => listed wanted idle old
  | refreshMenu now =>
      simp only [queuedStep, refreshMenu_final, Option.some.injEq] at step
      subst step
      exact libraryRefresh_progressing plugin progressing.flags
  | addToCollection id playlist type now =>
      simp only [queuedStep, Option.some.injEq] at step
      subst step
      exact addToCollection_progressing progressing
  | librarySubMenu title page =>
      simp only [queuedStep, Option.some.injEq] at step
      subst step
      exact progressing

/-- A login whose device query raises while nothing is queued leaves the plugin logged
in with nothing to load it. -/
theorem queuedStep_stuck (progressing : plugin.Progressing)
    (step : queuedStep remote.withSession label plugin = some next)
    (unlisted : ¬ ListsDevicesWhenIdle remote label plugin) : ¬ next.NotStuck := by
  cases label with
  | mainMenu now later email password =>
      simp only [ListsDevicesWhenIdle, Classical.not_imp] at unlisted
      obtain ⟨wanted, idle, recent, granted, unlisted⟩ := unlisted
      simp only [queuedStep, mainMenu_final, Option.some.injEq] at step
      rw [expire_of_recent recent] at step
      obtain ⟨up, _, _, unloaded, none⟩ := signIn_granted progressing wanted granted
      rw [step] at up unloaded none
      intro notStuck
      have loaded := notStuck up (none.mpr ⟨idle, unlisted⟩)
      rw [unloaded] at loaded
      cases loaded
  | _ => exact absurd True.intro unlisted

end Steps

/-- On an account whose songs can always be listed and indexed, a run never leaves the
plugin logged in with neither a library nor a job if and only if every login granted
while no job is queued also finds its device list. -/
theorem always_notStuck_iff (remote : Remote ρ) (account : LoadableAccount remote) (state : ρ)
    (now : Int) (labels : List Request) :
    (queuedSystem remote.withSession).Always Plugin.NotStuck labels
        (Plugin.start (.fresh state) now) ↔
      (queuedSystem remote.withSession).Admits (ListsDevicesWhenIdle remote) labels
        (Plugin.start (.fresh state) now) :=
  System.always_iff_admits Plugin.Progressing (fun _ progressing => progressing.loading)
    (queuedStep_progressing account) queuedStep_stuck (start_progressing state now)

theorem sample_loadable : LoadableAccount (Remote.ofSongs [.sample]) :=
  fun _ => ⟨[.sample], rfl, by decide⟩

theorem notStuck_of_sample :
    (queuedSystem (Remote.ofSongs [.sample]).withSession).Always Plugin.NotStuck
        [.mainMenu 0 0 "user" "secret", .loadAsync] (Plugin.start (.fresh ()) 0) ↔
      (queuedSystem (Remote.ofSongs [.sample]).withSession).Admits
        (ListsDevicesWhenIdle (Remote.ofSongs [.sample]))
        [.mainMenu 0 0 "user" "secret", .loadAsync] (Plugin.start (.fresh ()) 0) :=
  always_notStuck_iff _ sample_loadable _ _ _

def Remote.withoutDevices : Remote Unit :=
  { Remote.ofSongs [.sample] with
    getRegisteredDevices := Exec.raise (.callFailure "no devices" "get_registered_devices") }

/-- The first main menu logs in and then raises before it can create a thread. -/
theorem device_failure_sticks :
    ¬ (queuedSystem Remote.withoutDevices.withSession).Always Plugin.NotStuck
      [.mainMenu 0 0 "user" "secret"] (Plugin.start (.fresh ()) 0) := by
  intro always
  have loaded := always.last rfl (by decide) (by decide)
  revert loaded
  decide

end GoogleMusic
