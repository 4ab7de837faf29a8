import GoogleMusic.Foundation.Runs
import GoogleMusic.Menus.Library
import GoogleMusic.Menus.Plugin

/-! # Load jobs in a queue

`Thread.Create` enqueues, and a step of its own runs one enqueued job at any later
moment.  The jobs carry no data, so a count stands for them, and running any one of
them covers every order.
-/

namespace GoogleMusic

open Foundation Plugin

variable {σ : Type}

/-- The steps of a run.  Browsing a library menu reads and never writes. -/
inductive Request where
  | mainMenu (now later : Int) (email password : String)
  | refreshMenu (now : Int)
  | addToCollection (id : String) (playlist : Option String) (type now : Int)
  | librarySubMenu (title : String) (page : Int)
  | loadAsync
deriving DecidableEq

def Runtime.queued (client : Mobileclient σ) : Runtime σ Nat where
  client
  createThread plugin := { plugin with threads := plugin.threads + 1 }

def queuedStep (client : Mobileclient σ) : Request → Plugin σ Nat → Option (Plugin σ Nat)
  | .mainMenu now later email password, plugin =>
      some ((mainMenu (.queued client) now later email password).final plugin)
  | .refreshMenu now, plugin => some ((refreshMenu (.queued client) now).final plugin)
  | .addToCollection id playlist type now, plugin =>
      some ((addToCollection (.queued client) id playlist type now).final plugin)
  | .librarySubMenu _ _, plugin => some plugin
  | .loadAsync, plugin =>
      match plugin.threads with
      | 0 => none
      | pending + 1 => some ((onHost (loadAsync client)).final { plugin with threads := pending })

def queuedSystem (client : Mobileclient σ) : System (Plugin σ Nat) Request where
  step := queuedStep client

def Plugin.start (service : σ) (now : Int) : Plugin σ Nat where
  host := { api := {}, service }
  refresh := now
  threads := 0

theorem start_blank (service : σ) (now : Int) : (Plugin.start service now).api.Blank :=
  ⟨rfl, fun category => by cases category <;> rfl, fun category => by cases category <;> rfl, rfl⟩

/-- The steps that empty the library: a refresh, an add that was answered, and a main
menu opened more than two hours after the last refresh. -/
def Resets (client : Mobileclient σ) : Request → Plugin σ Nat → Prop
  | .mainMenu now _ _ _, plugin => now > plugin.refresh + twoHours
  | .refreshMenu _, _ => True
  | .addToCollection id playlist type _, plugin =>
      ∃ item, (addItem client id playlist type).Returns plugin.host item
  | .librarySubMenu _ _, _ => False
  | .loadAsync, _ => False

section Steps

variable {client : Mobileclient σ} {label : Request} {plugin next : Plugin σ Nat}
variable {now later : Int} {email password : String}

theorem queued_libraryRefresh : libraryRefresh (.queued client) now plugin =
    { host := { plugin.host with api := plugin.api.resetLibrary }
      refresh := now
      threads := plugin.threads + 1 } := rfl

theorem queuedStep_loadAsync (step : queuedStep client .loadAsync plugin = some next) :
    plugin.threads = next.threads + 1 ∧ next.refresh = plugin.refresh ∧
      next.host = (loadData client).final plugin.host := by
  cases waiting : plugin.threads with
  | zero => simp [queuedStep, waiting] at step
  | succ pending =>
      simp only [queuedStep, waiting, Option.some.injEq] at step
      subst step
      exact ⟨rfl, rfl, rfl⟩

theorem expire_of_recent (recent : ¬ now > plugin.refresh + twoHours) :
    plugin.expire (.queued client) now later = plugin := if_neg recent

theorem expire_of_old (old : now > plugin.refresh + twoHours) :
    plugin.expire (.queued client) now later = libraryRefresh (.queued client) later plugin :=
  if_pos old

theorem signIn_host (client : Mobileclient σ) (email password : String) (plugin : Plugin σ Nat) :
    (plugin.signIn (.queued client) email password).host = plugin.host ∨
      (plugin.signIn (.queued client) email password).host =
        (authenticate client [email, password]).final plugin.host := by
  have outcome := signIn_outcome (.queued client) email password plugin
  generalize plugin.signIn (.queued client) email password = after at outcome
  cases outcome with
  | skipped => exact Or.inl rfl
  | returned down => exact Or.inr rfl
  | raised down => exact Or.inr rfl

theorem signIn_library (client : Mobileclient σ) (email password : String) (plugin : Plugin σ Nat) :
    GMusic.SameLibrary plugin.api (plugin.signIn (.queued client) email password).api := by
  rcases signIn_host client email password plugin with same | tried
  · rw [Plugin.api, Plugin.api, same]
    exact .refl _
  · rw [Plugin.api, Plugin.api, tried]
    exact authenticate_sameLibrary client [email, password] plugin.host

theorem addToCollection_library {id : String} {playlist : Option String} {type : Int} :
    let after := (addToCollection (.queued client) id playlist type now).final plugin
    (∃ item, (addItem client id playlist type).Returns plugin.host item) ∧ after.api.Blank ∨
      (¬ ∃ item, (addItem client id playlist type).Returns plugin.host item) ∧
        GMusic.SameLibrary plugin.api after.api := by
  have kept := addItem_api client id playlist type plugin.host
  have outcome := addToCollection_outcome (.queued client) id playlist type now plugin
  generalize (addToCollection (.queued client) id playlist type now).final plugin = after at outcome
  cases outcome with
  | answered returned => exact Or.inl ⟨returned, GMusic.resetLibrary_blank _⟩
  | raised failed =>
      refine Or.inr ⟨failed, ?_⟩
      simp only [Plugin.api, Runtime.queued, kept]
      exact .refl _

theorem queuedStep_library (handler : label ≠ .loadAsync)
    (step : queuedStep client label plugin = some next) :
    Resets client label plugin ∧ next.api.Blank ∨
      ¬ Resets client label plugin ∧ GMusic.SameLibrary plugin.api next.api := by
  cases label with
  | loadAsync => exact absurd rfl handler
  | mainMenu now later email password =>
      simp only [queuedStep, mainMenu_final, Option.some.injEq] at step
      subst step
      have signedIn :=
        signIn_library client email password (plugin.expire (.queued client) now later)
      by_cases old : now > plugin.refresh + twoHours
      · rw [expire_of_old old] at signedIn ⊢
        exact Or.inl ⟨old, signedIn.blank (GMusic.resetLibrary_blank _)⟩
      · rw [expire_of_recent old] at signedIn ⊢
        exact Or.inr ⟨old, signedIn⟩
  | refreshMenu now =>
      simp only [queuedStep, refreshMenu_final, Option.some.injEq] at step
      subst step
      exact Or.inl ⟨True.intro, GMusic.resetLibrary_blank _⟩
  | addToCollection id playlist type now =>
      simp only [queuedStep, Option.some.injEq] at step
      subst step
      exact addToCollection_library
  | librarySubMenu title page =>
      simp only [queuedStep, Option.some.injEq] at step
      subst step
      exact Or.inr ⟨id, GMusic.SameLibrary.refl _⟩

end Steps

end GoogleMusic
