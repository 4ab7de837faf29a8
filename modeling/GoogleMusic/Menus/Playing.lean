import GoogleMusic.Menus.Rows

namespace GoogleMusic

open Foundation Host

variable {σ : Type}

/-- A value that a handler is called with. -/
inductive Argument where
  | text (text : String)
  | number (value : Int)
deriving DecidableEq

def PlayId.argument : PlayId → Argument
  | .id song => .text song
  | .missing => .number 0

/-- A route parameter without a declared type arrives as its string form. -/
def Argument.delivered : Argument → Argument
  | .text value => .text value
  | .number value => .text (toString value)

/-- `API.get_stream_url` on any argument.  The vendored client checks that an id is a
string before it does anything else. -/
def streamUrl (client : Mobileclient σ) : Argument → Exec (Host σ) Raised String
  | .text id => getStreamUrl client id
  | .number _ => Exec.raise .valueError

/-- `PlayAudio(id, storeId)`, which answers the address it redirects to. -/
def playAudio (client : Mobileclient σ) (id storeId : Argument) : Exec (Host σ) Raised String :=
  if storeId ≠ .number 0 then
    Exec.handle (streamUrl client storeId) fun
      | .callFailure _ _ => streamUrl client id
      | reason => Exec.raise reason
  else streamUrl client id

/-- A session that is logged in.  The service notes every id it is asked for, and grants
its url or refuses it. -/
def streamClient (granted : String → Option String) : Mobileclient (List String) where
  toEndpoints := { Endpoints.unavailable with
    getStreamUrl id _ := ⟨fun requested =>
      match granted id with
      | some url => (.ok url, requested ++ [id])
      | none => (.error (.callFailure "refused" "GetStreamUrl"), requested ++ [id])⟩ }
  login _ _ := Exec.raise .alreadyLoggedIn

def Song.usedStoreId (allAccess : Bool) (song : Song) : Option String :=
  if allAccess then song.storeId else none

/-- The store id if it is used, and then the id unless a url was granted. -/
def Song.requests (granted : String → Option String) (allAccess : Bool) (song : Song) :
    List String :=
  (song.usedStoreId allAccess).toList ++
    if ((song.usedStoreId allAccess).bind granted).isSome then [] else song.id.toList

structure PlaysSong (granted : String → Option String) (allAccess : Bool) (song : Song)
    (outcome : Except Raised String) (requested : List String) : Prop where
  own : ∀ id ∈ requested, some id = song.id ∨ some id = song.storeId
  asked : requested = song.requests granted allAccess
  redirect : ∀ url, outcome = .ok url ↔ requested.findSome? granted = some url
  failure : (∃ message name, outcome = .error (.callFailure message name)) ↔
    requested.findSome? granted = none

/-- No placeholder is asked for: the store id is used and granted or the id can follow it,
or the id is itself the text of the placeholder. -/
def Song.asksOwn (granted : String → Option String) (allAccess : Bool) (song : Song) : Prop :=
  match song.usedStoreId allAccess with
  | some storeId => song.id.isSome ∨ (granted storeId).isSome
  | none => song.id = some "0" ∧ (granted "0").isSome

section Playing

variable {granted : String → Option String} {api : GMusic} {song : Song} {id storeId : String}
variable {requested : List String}

theorem getStreamUrl_run : (getStreamUrl (streamClient granted) id).run { api, service := requested } =
    ((match granted id with
      | some url => .ok url
      | none => .error (.callFailure ("Could not play song with id: " ++ id) "get_stream_url")),
      { api, service := requested ++ [id] }) := by
  cases answer : granted id <;>
    simp [getStreamUrl, streamClient, onService, answer]

theorem playAudio_run : (playAudio (streamClient granted) (.text id) (.text storeId)).run
      { api, service := [] } =
    match granted storeId with
    | some url => (.ok url, { api, service := [storeId] })
    | none => (getStreamUrl (streamClient granted) id).run { api, service := [storeId] } := by
  have text : Argument.text storeId ≠ .number 0 := by simp
  rw [playAudio, if_pos text, Exec.run_handle]
  simp only [streamUrl, getStreamUrl_run, List.nil_append]
  cases granted storeId with
  | some url => rfl
  | none => exact getStreamUrl_run

theorem mem_parts_row {allAccess : Bool} {key : String} {ident store : PlayId} {ext : String}
    (linked : .playAudio ident store ext ∈
      (song.row allAccess key).items.flatMap MediaObject.parts) :
    ident = (song.playIds allAccess).1 ∧ store = (song.playIds allAccess).2 := by
  simp only [Song.row, List.flatMap_cons, List.flatMap_nil, List.append_nil, List.mem_singleton,
    Callback.playAudio.injEq] at linked
  exact ⟨linked.1, linked.2.1⟩

theorem playIds_delivered (song : Song) (allAccess : Bool) :
    (song.playIds allAccess).1.argument.delivered = .text (song.id.getD "0") ∧
      (song.playIds allAccess).2.argument.delivered =
        .text ((song.usedStoreId allAccess).getD "0") := by
  have zero : toString (0 : Int) = "0" := by decide
  cases hasId : song.id <;> cases hasStore : song.storeId <;> cases allAccess <;>
    simp [Song.playIds, Song.usedStoreId, PlayId.argument, Argument.delivered, hasId, hasStore, zero]

/-- What the handler asks for, and what it makes of the answers. -/
theorem playAudio_asks (granted : String → Option String) (api : GMusic) (id storeId : String) :
    ∃ outcome requested,
      (playAudio (streamClient granted) (.text id) (.text storeId)).run { api, service := [] } =
        (outcome, { api, service := requested }) ∧
      requested = (storeId :: if (granted storeId).isSome then [] else [id]) ∧
      (∀ url, outcome = .ok url ↔ requested.findSome? granted = some url) ∧
      ((∃ message name, outcome = .error (.callFailure message name)) ↔
        requested.findSome? granted = none) := by
  rw [playAudio_run]
  cases store : granted storeId with
  | some url => exact ⟨.ok url, [storeId], rfl, by simp, by simp [store], by simp [store]⟩
  | none =>
      rw [getStreamUrl_run]
      refine ⟨_, [storeId, id], rfl, by simp, ?_, ?_⟩
      · cases ident : granted id <;> simp [store, ident, eq_comm]
      · cases ident : granted id <;> simp [store, ident]

theorem requests_own {allAccess : Bool} :
    ∀ asked ∈ song.requests granted allAccess, some asked = song.id ∨ some asked = song.storeId := by
  intro asked member
  rw [Song.requests, List.mem_append] at member
  rcases member with store | ident
  · right
    rw [Song.usedStoreId] at store
    split at store
    · exact (Option.mem_toList.mp store).symm
    · simp at store
  · left
    split at ident
    · simp at ident
    · exact (Option.mem_toList.mp ident).symm

theorem requests_eq_iff {allAccess : Bool} :
    ((song.usedStoreId allAccess).getD "0" ::
        if (granted ((song.usedStoreId allAccess).getD "0")).isSome then [] else [song.id.getD "0"]) =
      song.requests granted allAccess ↔ song.asksOwn granted allAccess := by
  rw [Song.requests, Song.asksOwn]
  cases used : song.usedStoreId allAccess with
  | some storeId =>
      cases store : granted storeId <;> cases hasId : song.id <;> simp [store]
  | none =>
      cases hasId : song.id with
      | none => simp
      | some id =>
          cases zero : granted "0" with
          | none => simp [zero]
          | some url => simp [zero, eq_comm (a := "0")]

/-- A row asks only for ids of its song, in the order they should be tried, exactly if no
placeholder is among the ids it asks for. -/
theorem playAudio_playsSong_iff (granted : String → Option String) (api : GMusic) (song : Song)
    (key : String) (row : TrackObject) (built : getTrack api.allAccess song key = .ok row)
    (id storeId : PlayId) (ext : String)
    (linked : .playAudio id storeId ext ∈ row.items.flatMap MediaObject.parts) :
    let play := playAudio (streamClient granted) id.argument.delivered storeId.argument.delivered
    PlaysSong granted api.allAccess song (play.run { api, service := [] }).1
        (play.final { api, service := [] }).service ↔
      song.asksOwn granted api.allAccess := by
  obtain ⟨_, rfl⟩ := getTrack_eq_ok.mp built
  obtain ⟨rfl, rfl⟩ := mem_parts_row linked
  obtain ⟨ident, store⟩ := playIds_delivered song api.allAccess
  obtain ⟨outcome, requested, ran, asked, redirect, failure⟩ := playAudio_asks granted api
    (song.id.getD "0") ((song.usedStoreId api.allAccess).getD "0")
  simp only [ident, store, Exec.final, ran]
  rw [← requests_eq_iff, ← asked]
  constructor
  · exact fun plays => plays.asked
  · exact fun same => ⟨same ▸ requests_own, same, redirect, failure⟩

end Playing

def Song.stored : Song := { Song.sample with storeId := some "T1" }

def grantsAll (id : String) : Option String := some ("stream/" ++ id)

theorem stored_song_plays :
    PlaysSong grantsAll true Song.stored
      ((playAudio (streamClient grantsAll) (.text "1") (.text "T1")).run
        { api := { allAccess := true }, service := [] }).1
      ((playAudio (streamClient grantsAll) (.text "1") (.text "T1")).final
        { api := { allAccess := true }, service := [] }).service :=
  (playAudio_playsSong_iff grantsAll { allAccess := true } Song.stored "1" (Song.stored.row true "1")
    rfl (.id "1") (.id "T1") "mp3" (by decide)).mpr (Or.inl rfl)

/-- A library song without a store id is asked for as `"0"` first. -/
theorem placeholder_asked_for :
    let play := playAudio (streamClient grantsAll) (PlayId.id "1").argument.delivered
      PlayId.missing.argument.delivered
    getTrack true Song.sample "1" = .ok (Song.sample.row true "1") ∧
      .playAudio (.id "1") .missing "mp3" ∈
        (Song.sample.row true "1").items.flatMap MediaObject.parts ∧
      (play.final { api := { allAccess := true }, service := [] }).service = ["0"] ∧
      ¬ PlaysSong grantsAll true Song.sample
        (play.run { api := { allAccess := true }, service := [] }).1
        (play.final { api := { allAccess := true }, service := [] }).service := by
  refine ⟨rfl, by decide, by decide, fun plays => ?_⟩
  exact absurd plays.asked (by decide)

end GoogleMusic
