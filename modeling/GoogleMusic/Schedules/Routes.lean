import GoogleMusic.Menus.Playing
import GoogleMusic.Menus.Store
import GoogleMusic.Schedules.Queued

/-! # Visits

Whoever uses the plugin opens its main menu and follows links.  A link of any screen that
was shown stays open to them, however much has happened since, and load jobs run in between.
-/

namespace GoogleMusic

open Foundation Plugin Host

variable {σ : Type}

inductive Answer where
  | container (container : ObjectContainer)
  | store (container : StoreContainer)
  | redirect (url : String)
deriving DecidableEq

def TrackObject.links (row : TrackObject) : List Link :=
  .menu row.key :: row.items.flatMap fun media => media.parts.map Link.menu

def MenuObject.links : MenuObject → List Link
  | .directory key _ _ => [.menu key]
  | .inputDirectory key _ _ _ => [.menu key]
  | .prefs _ _ => []
  | .nextPage key => [.menu key]
  | .track row => row.links

def StoreObject.links : StoreObject → List Link
  | .directory key _ _ _ => [key]
  | .track row => row.links

def Answer.links : Answer → List Link
  | .container shown => shown.objects.flatMap MenuObject.links
  | .store shown => shown.objects.flatMap StoreObject.links
  | .redirect _ => []

/-- The handler behind a callback of the library's menus.  The framework hands the ids of
`PlayAudio` over as text, and a search without a query is a `TypeError`. -/
def serveMenu (client : Mobileclient σ) (random : Shuffle Song) (now : Int) :
    Callback → Exec (Plugin σ Nat) Raised Answer
  | .libraryMenu => pure (.container libraryMenu)
  | .playlistsMenu id => .container <$> onHost (playlistsMenu client id)
  | .stationsMenu => .container <$> onHost (stationsMenu client)
  | .genresMenu => .store <$> onHost (genresMenu client)
  | .searchMenu => Exec.raise .typeError
  | .refreshMenu => .container <$> refreshMenu (.queued client) now
  | .librarySubMenu title page => .container <$> Exec.gets fun plugin => librarySubMenu title page plugin.api
  | .showSongs title shuffle page => .container <$> onHost (onApi (showSongs random title shuffle page))
  | .getTrackList name type => do
      let api ← Exec.gets Plugin.api
      .container <$> Exec.lift (getTrackList name type api)
  | .getPlaylistContents name id => .container <$> onHost (getPlaylistContents client name id)
  | .getSharedPlaylist name token => .container <$> onHost (Handlers.getSharedPlaylist client name token)
  | .getStationTracks name id => .container <$> onHost (Handlers.getStationTracks client name (.value id))
  | .addToCollection id playlist type => .container <$> addToCollection (.queued client) id playlist type now
  | .getTrack song key _ => do
      let api ← Exec.gets Plugin.api
      .container <$> Exec.lift (Handlers.getTrack api.allAccess song key)
  | .playAudio id storeId _ =>
      .redirect <$> onHost (playAudio client id.argument.delivered storeId.argument.delivered)

def serve (client : Mobileclient σ) (random : Shuffle Song) (now : Int) :
    Link → Exec (Plugin σ Nat) Raised Answer
  | .menu callback => serveMenu client random now callback
  | .genresSubMenu name id children => pure (.store (genresSubMenu name id children))
  | .addItemMenu song => do
      let api ← Exec.gets Plugin.api
      .store <$> Exec.lift (addItemMenu api.allAccess song)
  | .createStation id => .container <$> onHost (Handlers.createStation client id)
  | .getArtistInfo name id => .store <$> onHost (Handlers.getArtistInfo client name id)
  | .getAlbumInfo name id => .store <$> onHost (Handlers.getAlbumInfo client name id)

/-- What a visitor does, with the clock readings and the draws of the handler it sets off. -/
inductive Turn where
  | mainMenu (now later : Int) (email password : String)
  | follow (link : Link) (random : Shuffle Song) (now : Int)
  | search (order : Iteration) (query : String)
  | loadAsync

structure Visitor (σ : Type) where
  plugin : Plugin σ Nat
  /-- Every link that a screen has shown. -/
  links : List Link

namespace Visitor

def start (service : σ) (now : Int) : Visitor σ where
  plugin := Plugin.start service now
  links := []

/-- A handler that raises shows an error and no links, and what it wrote stays written. -/
def opens (body : Exec (Plugin σ Nat) Raised Answer) (visitor : Visitor σ) : Visitor σ :=
  match body.run visitor.plugin with
  | (.ok answer, plugin) => { plugin, links := visitor.links ++ answer.links }
  | (.error _, plugin) => { visitor with plugin }

theorem opens_same {body other : Exec (Plugin σ Nat) Raised Answer} {visitor : Visitor σ}
    (same : body.run visitor.plugin = other.run visitor.plugin) :
    visitor.opens body = visitor.opens other := by
  unfold opens
  rw [same]

theorem opens_plugin (body : Exec (Plugin σ Nat) Raised Answer) (visitor : Visitor σ) :
    (visitor.opens body).plugin = body.final visitor.plugin := by
  unfold opens
  rw [Exec.final]
  cases body.run visitor.plugin with
  | mk outcome plugin => cases outcome <;> rfl

end Visitor

def turn (client : Mobileclient σ) (search : Search σ) : Turn → Visitor σ → Option (Visitor σ)
  | .mainMenu now later email password, visitor =>
      some (visitor.opens (.container <$> mainMenu (.queued client) now later email password))
  | .follow link random now, visitor =>
      if link ∈ visitor.links then some (visitor.opens (serve client random now link)) else none
  | .search order query, visitor =>
      if Link.menu .searchMenu ∈ visitor.links then
        some (visitor.opens (.store <$> onHost (searchMenu client search order query)))
      else none
  | .loadAsync, visitor =>
      (queuedStep client .loadAsync visitor.plugin).map fun plugin => { visitor with plugin }

/-- The screen of a turn, which is an error where the handler raises.  A load job has none. -/
def shown (client : Mobileclient σ) (search : Search σ) :
    Turn → Visitor σ → Option (Except Raised Answer)
  | .mainMenu now later email password, visitor =>
      some ((.container <$> mainMenu (.queued client) now later email password :
        Exec (Plugin σ Nat) Raised Answer).run visitor.plugin).1
  | .follow link random now, visitor => some ((serve client random now link).run visitor.plugin).1
  | .search order query, visitor =>
      some ((.store <$> onHost (searchMenu client search order query) :
        Exec (Plugin σ Nat) Raised Answer).run visitor.plugin).1
  | .loadAsync, _ => none

def visiting (client : Mobileclient σ) (search : Search σ) : System (Visitor σ) Turn where
  step := turn client search

end GoogleMusic
