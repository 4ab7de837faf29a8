import GoogleMusic.Foundation.Runs
import GoogleMusic.Menus.Library
import GoogleMusic.Menus.Plugin

namespace GoogleMusic

open Foundation Plugin

variable {σ : Type}

inductive Visit where
  | mainMenu (now later : Int) (email password : String)
  | refreshMenu (now : Int)
  | addToCollection (id : String) (playlist : Option String) (type now : Int)
  | showSongs (random : Shuffle Song) (title : String) (shuffle : Bool) (page : Int)

/-- The job runs to its end at once, and an exception of the job ends with the job. -/
def Runtime.inline (client : Mobileclient σ) : Runtime σ Unit where
  client
  createThread plugin := { plugin with host := (loadAsync client).final plugin.host }

def visit (client : Mobileclient σ) : Visit → Plugin σ Unit → Plugin σ Unit
  | .mainMenu now later email password, plugin =>
      (mainMenu (.inline client) now later email password).final plugin
  | .refreshMenu now, plugin => (refreshMenu (.inline client) now).final plugin
  | .addToCollection id playlist type now, plugin =>
      (addToCollection (.inline client) id playlist type now).final plugin
  | .showSongs random title shuffle page, plugin =>
      { plugin with
        host := { plugin.host with
          api := (showSongs random title shuffle page).final plugin.host.api } }

def inlineSystem (client : Mobileclient σ) : System (Plugin σ Unit) Visit where
  step label plugin := some (visit client label plugin)

def Plugin.idle (service : σ) (now : Int) : Plugin σ Unit where
  host := { api := {}, service }
  refresh := now
  threads := ()

namespace GMusic

structure WellServed (api : GMusic) : Prop where
  keys : ∀ category key, key ∈ api.menu category ↔ key ∈ api.index category
  loggedOut : api.authenticated = false → api.allSongs = [] ∧
    (∀ category, api.menu category = ∅ ∧ api.index category = ∅) ∧ api.libraryLoaded = false
  nonempty : api.libraryLoaded = true → ∀ category key, key ∈ api.index category →
    (api.index category).group key ≠ []
  group : api.libraryLoaded = true → ∀ category key, ((api.index category).group key).Perm
    ((api.allSongs.filter fun song => song.keyIn category = some key).map Song.entry)
  ids : api.libraryLoaded = true → ∀ category,
    ((api.index category).items.map fun entry => some entry.id).Perm (api.allSongs.map Song.id)

/-- The invariant behind it: a loaded library was filed from nothing, from a list that
has only been rearranged since. -/
structure Served (api : GMusic) : Prop where
  keys : api.KeysAgree
  loggedOut : api.authenticated = false → api.Blank
  filed : api.libraryLoaded = true → ∃ songs, songs.Perm api.allSongs ∧
    (∀ song ∈ songs, song.indexable = true) ∧
    ∀ category, api.index category = Groups.fileAll (Song.shelf category) Song.entry songs ∅

variable {api before after : GMusic}

theorem Served.wellServed (served : api.Served) : api.WellServed where
  keys := served.keys
  loggedOut down :=
    have blank := served.loggedOut down
    ⟨blank.songs, fun category => ⟨blank.menus category, blank.indexes category⟩, blank.unloaded⟩
  nonempty loaded category key member := by
    obtain ⟨songs, _, _, indexes⟩ := served.filed loaded
    rw [indexes] at member ⊢
    exact Groups.group_fileAll_ne_nil member
  group loaded category key := by
    obtain ⟨songs, perm, fields, indexes⟩ := served.filed loaded
    have keyed : (api.allSongs.filter fun song => song.keyIn category = some key) =
        api.allSongs.filter fun song => song.shelf category = key :=
      List.filter_congr fun song member => by
        simp [keyIn_of_indexable (fields song (perm.mem_iff.mpr member))]
    rw [indexes, Groups.group_fileAll, Groups.group_empty, List.nil_append, keyed]
    exact (perm.filter _).map _
  ids loaded category := by
    obtain ⟨songs, perm, fields, indexes⟩ := served.filed loaded
    have entries : (songs.map Song.entry).map (fun entry => some entry.id) = songs.map Song.id := by
      rw [List.map_map]
      exact List.map_congr_left fun song member => song.entry_id (fields song member)
    have items := (Groups.items_fileAll (Song.shelf category) Song.entry songs ∅).map
      fun entry => some entry.id
    rw [Groups.items_empty, List.nil_append, entries] at items
    rw [indexes]
    exact items.trans (perm.map _)

theorem Blank.served (blank : api.Blank) : api.Served where
  keys := blank.keysAgree
  loggedOut _ := blank
  filed loaded := by simp [blank.unloaded] at loaded

theorem Served.shuffle (served : api.Served) (random : Shuffle Song) :
    (api.withSongs (random.apply api.allSongs)).Served where
  keys := withSongs_keysAgree served.keys
  loggedOut down := by
    have blank := served.loggedOut down
    have empty : random.apply api.allSongs = [] := by
      have perm := random.perm api.allSongs
      rw [blank.songs] at perm ⊢
      exact perm.eq_nil
    refine ⟨empty, fun category => ?_, fun category => ?_, blank.unloaded⟩
    · rw [menu_withSongs, blank.menus]
    · rw [index_withSongs, blank.indexes]
  filed loaded := by
    obtain ⟨songs, perm, fields, indexes⟩ := served.filed loaded
    refine ⟨songs, perm.trans (random.perm _).symm, fields, fun category => ?_⟩
    rw [index_withSongs, indexes]

end GMusic

section Steps

variable {client : Mobileclient σ} {loggedIn : σ → Prop} {plugin : Plugin σ Unit} {host : Host σ}
variable {now later : Int} {email password : String}

structure Plugin.Sound (loggedIn : σ → Prop) (plugin : Plugin σ Unit) : Prop where
  served : plugin.api.Served
  flag : loggedIn plugin.host.service → plugin.api.authenticated = true

theorem idle_sound {service : σ} (loggedOut : ¬ loggedIn service) :
    (Plugin.idle service now).Sound loggedIn where
  served := GMusic.Blank.served ⟨rfl, fun category => by cases category <;> rfl,
    fun category => by cases category <;> rfl, rfl⟩
  flag opened := absurd opened loggedOut

theorem authenticate_flag (host : Host σ) (sessioned : Sessioned client loggedIn)
    (opened : loggedIn ((authenticate client [email, password]).final host).service) :
    ((authenticate client [email, password]).final host).api.authenticated = true := by
  cases answered : (client.login email password).run host.service with
  | mk outcome service =>
      by_cases accepted : outcome = .ok true ∨ outcome = .error .alreadyLoggedIn
      · obtain ⟨_, _, ran, _⟩ := authenticate_accepted client
          (accepted.imp (fun same => by rw [answered, same]) fun same => by rw [answered, same])
        rw [Exec.final, ran]
      · exfalso
        have stillOut : ¬ loggedIn host.service := by
          intro before
          obtain ⟨_, refused⟩ := sessioned.already email password _ before
          rw [answered] at refused
          cases refused
          exact accepted (Or.inr rfl)
        have ending : ((authenticate client [email, password]).final host).service = service := by
          cases outcome with
          | ok answer =>
              cases answer with
              | true => exact absurd (Or.inl rfl) accepted
              | false => rw [Exec.final, authenticate_refused client answered]
          | error reason =>
              rw [Exec.final,
                authenticate_raised client (fun same => accepted (Or.inr (by rw [same]))) answered]
        have returned := sessioned.granted email password host.service stillOut
          (by rw [Exec.final, answered]; exact ending ▸ opened)
        rw [Exec.Returns, answered] at returned
        exact accepted (Or.inl returned)

/-- A load that starts from an empty library ends in a served one, and only an open
session can have put songs into it. -/
theorem load_sound (plugin : Plugin σ Unit) (sessioned : Sessioned client loggedIn)
    (blank : plugin.api.Blank)
    (flag : loggedIn plugin.host.service → plugin.api.authenticated = true) :
    ({ plugin with host := (loadData client).final plugin.host } : Plugin σ Unit).Sound loggedIn := by
  have outcome := loadData_outcome client plugin.host
  have authenticated := outcome.authenticated
  have opened : loggedIn ((loadData client).final plugin.host).service →
      loggedIn plugin.host.service := by
    rcases loadData_service client plugin.host with same | asked
    · rw [same]
      exact id
    · rw [asked]
      exact fun after => by_contra fun before => sessioned.songs _ before after
  refine ⟨?_, fun after => authenticated.trans (flag (opened after))⟩
  have answeredUp : ∀ songs, SongSource client plugin.host songs →
      plugin.api.authenticated = true := by
    intro songs source
    cases source with
    | cached nonempty => exact absurd blank.songs nonempty
    | fetched empty answered =>
        refine flag (by_contra fun loggedOut => ?_)
        obtain ⟨_, refused⟩ := sessioned.refuses _ loggedOut
        rw [Exec.Returns, refused] at answered
        cases answered
  change ((loadData client).final plugin.host).api.Served
  generalize ((loadData client).final plugin.host).api = after at outcome authenticated
  generalize ((loadData client).run plugin.host).1 = ending at outcome
  have up : ∀ songs, SongSource client plugin.host songs → after.authenticated = false →
      after.Blank := by
    intro songs source down
    rw [authenticated] at down
    exact absurd (answeredUp songs source) (by rw [Plugin.api, down]; simp)
  cases outcome with
  | refused empty answered => exact blank.served
  | @indexed songs after source fields filed indexes =>
      refine ⟨GMusic.markLoaded_keysAgree (filed.keys (GMusic.withSongs_keysAgree blank.keysAgree)),
        up songs source, fun _ => ⟨songs, .of_eq filed.allSongs.symm, fields, fun category => ?_⟩⟩
      rw [GMusic.index_markLoaded, indexes]
      exact congrArg _ (blank.indexes category)
  | @broken songs front back bad reason after source split defective filed =>
      refine ⟨filed.keys (GMusic.withSongs_keysAgree blank.keysAgree), up songs source, ?_⟩
      intro loaded
      have unloaded := blank.unloaded
      rw [filed.libraryLoaded, GMusic.libraryLoaded_withSongs] at loaded
      rw [Plugin.api, loaded] at unloaded
      cases unloaded

theorem libraryRefresh_sound (plugin : Plugin σ Unit) (sessioned : Sessioned client loggedIn)
    (flag : loggedIn plugin.host.service → plugin.api.authenticated = true) :
    (libraryRefresh (.inline client) now plugin).Sound loggedIn :=
  load_sound { plugin with
      refresh := now
      host := { plugin.host with api := plugin.api.resetLibrary } }
    sessioned (GMusic.resetLibrary_blank _) flag

theorem expire_sound (sessioned : Sessioned client loggedIn) (sound : plugin.Sound loggedIn) :
    (plugin.expire (.inline client) now later).Sound loggedIn := by
  unfold expire
  split
  · exact libraryRefresh_sound plugin sessioned sound.flag
  · exact sound

theorem signIn_sound (sessioned : Sessioned client loggedIn) (sound : plugin.Sound loggedIn) :
    (plugin.signIn (.inline client) email password).Sound loggedIn := by
  have flag : loggedIn ((authenticate client [email, password]).final plugin.host).service →
      ((authenticate client [email, password]).final plugin.host).api.authenticated = true :=
    authenticate_flag plugin.host sessioned
  have same := authenticate_sameLibrary client [email, password] plugin.host
  have outcome := signIn_outcome (.inline client) email password plugin
  generalize plugin.signIn (.inline client) email password = after at outcome
  cases outcome with
  | skipped => exact sound
  | returned down => exact load_sound _ sessioned (same.blank (sound.served.loggedOut down)) flag
  | raised down => exact ⟨(same.blank (sound.served.loggedOut down)).served, flag⟩

theorem addToCollection_sound {id : String} {playlist : Option String} {type : Int}
    (sessioned : Sessioned client loggedIn) (sound : plugin.Sound loggedIn) :
    ((addToCollection (.inline client) id playlist type now).final plugin).Sound loggedIn := by
  have api := addItem_api client id playlist type plugin.host
  have opened : loggedIn ((addItem client id playlist type).final plugin.host).service →
      loggedIn plugin.host.service := by
    rw [addItem_service]
    split
    · exact fun after => by_contra fun before => sessioned.addTrack id _ before after
    · exact fun after => by_contra fun before => sessioned.addSongs playlist id _ before after
  have flag : loggedIn ((addItem client id playlist type).final plugin.host).service →
      ((addItem client id playlist type).final plugin.host).api.authenticated = true := by
    rw [api]
    exact fun after => sound.flag (opened after)
  have outcome := addToCollection_outcome (.inline client) id playlist type now plugin
  generalize (addToCollection (.inline client) id playlist type now).final plugin = after at outcome
  cases outcome with
  | answered returned => exact libraryRefresh_sound _ sessioned flag
  | raised failed =>
      refine ⟨?_, flag⟩
      simp only [Plugin.api, Runtime.inline, api]
      exact sound.served

theorem visit_sound (sessioned : Sessioned client loggedIn) (sound : plugin.Sound loggedIn)
    (label : Visit) : (visit client label plugin).Sound loggedIn := by
  cases label with
  | mainMenu now later email password =>
      rw [visit, mainMenu_final]
      exact signIn_sound sessioned (expire_sound sessioned sound)
  | refreshMenu now =>
      rw [visit, refreshMenu_final]
      exact libraryRefresh_sound plugin sessioned sound.flag
  | addToCollection id playlist type now => exact addToCollection_sound sessioned sound
  | showSongs random title shuffle page =>
      simp only [visit, showSongs_final]
      split
      · exact ⟨sound.served.shuffle random, sound.flag⟩
      · exact sound

theorem run_sound (sessioned : Sessioned client loggedIn) {service : σ} (loggedOut : ¬ loggedIn service)
    {labels : List Visit} {after : Plugin σ Unit}
    (ran : (inlineSystem client).run labels (Plugin.idle service now) = some after) :
    after.Sound loggedIn :=
  have keeps {label : Visit} {plugin next : Plugin σ Unit} (sound : plugin.Sound loggedIn)
      (step : (inlineSystem client).step label plugin = some next) : next.Sound loggedIn := by
    cases step
    exact visit_sound sessioned sound label
  System.run_keeps keeps (idle_sound loggedOut) ran

end Steps

/-- Whatever the service answers, and wherever a load raises, every state of a run that
starts logged out serves only what was filed completely. -/
theorem reachable_wellServed {client : Mobileclient σ} {loggedIn : σ → Prop}
    (sessioned : Sessioned client loggedIn) {service : σ} (loggedOut : ¬ loggedIn service)
    {now : Int} {labels : List Visit} {after : Plugin σ Unit}
    (ran : (inlineSystem client).run labels (Plugin.idle service now) = some after) :
    after.api.WellServed :=
  (run_sound sessioned loggedOut ran).served.wellServed

/-- A service whose first answer has a song without a title. -/
def mendedLibrary : Remote (List (List Song)) where
  toEndpoints := { Endpoints.unavailable with
    getRegisteredDevices := pure []
    getAllSongs := do
      let answers ← Exec.gets id
      Exec.modify List.tail
      pure (answers.headD []) }
  performLogin _ _ := pure true

def mendedAnswers : List (List Song) :=
  [[.sample, { Song.sample with id := some "2", title := none }],
    [.sample, { Song.sample with id := some "2", artist := some "Other" }]]

/-- The load behind the login raises at its second song, and the one behind the refresh gets
through. -/
theorem wellServed_of_mended :
    ∃ broken after, (inlineSystem mendedLibrary.withSession).run [.mainMenu 0 0 "user" "secret"]
          (Plugin.idle (.fresh mendedAnswers) 0) = some broken ∧
      broken.api.libraryLoaded = false ∧ broken.api.artists.keys = ["Artist"] ∧
      (inlineSystem mendedLibrary.withSession).run
          [.mainMenu 0 0 "user" "secret", .refreshMenu 0, .showSongs .identity "Shuffle All" true 1]
          (Plugin.idle (.fresh mendedAnswers) 0) = some after ∧
      after.api.libraryLoaded = true ∧ after.api.WellServed := by
  have loggedOut : ¬ (Session.fresh mendedAnswers).isAuthenticated = true := by simp [Session.fresh]
  have ran : (inlineSystem mendedLibrary.withSession).run
      [.mainMenu 0 0 "user" "secret", .refreshMenu 0, .showSongs .identity "Shuffle All" true 1]
      (Plugin.idle (.fresh mendedAnswers) 0) = some _ := rfl
  exact ⟨_, _, rfl, rfl, rfl, ran, rfl,
    reachable_wellServed (Session.sessioned mendedLibrary) loggedOut ran⟩

end GoogleMusic
