import GoogleMusic.Api.State

namespace GoogleMusic

/-- A text is either data or a key that `L` looks up in the strings file. -/
inductive Text where
  | literal (text : String)
  | label (key : String)
deriving DecidableEq

inductive Thumb where
  | url (url : String)
  | resource (name : String)
deriving DecidableEq

/-- A play id: an id of the song, or the placeholder `0`. -/
inductive PlayId where
  | id (id : String)
  | missing
deriving DecidableEq

inductive Callback where
  | libraryMenu
  | playlistsMenu (id : Option String)
  | stationsMenu
  | genresMenu
  | searchMenu
  | refreshMenu
  | librarySubMenu (title : String) (page : Int)
  | showSongs (title : String) (shuffle : Bool) (page : Int)
  | getTrackList (name type : String)
  | getPlaylistContents (name id : String)
  | getSharedPlaylist (name token : String)
  | getStationTracks (name : Text) (id : String)
  | addToCollection (id : String) (playlist : Option String) (type : Int)
  | getTrack (song : Song) (key : String) (includeContainer : Bool)
  | playAudio (id storeId : PlayId) (ext : String)
deriving DecidableEq

inductive ContainerFormat where
  | mp3
deriving DecidableEq

inductive AudioCodec where
  | mp3
deriving DecidableEq

structure MediaObject where
  parts : List Callback
  container : ContainerFormat
  audioCodec : AudioCodec
deriving DecidableEq

structure TrackObject where
  key : Callback
  ratingKey : String
  title : String
  album : String
  artist : String
  duration : Int
  index : Int
  items : List MediaObject
  thumb : Option String
deriving DecidableEq

inductive MenuObject where
  | directory (key : Callback) (title : Text) (thumb : Option Thumb)
  | inputDirectory (key : Callback) (title prompt : Text) (thumb : Thumb)
  | prefs (title : Text) (thumb : Thumb)
  | nextPage (key : Callback)
  | track (track : TrackObject)
deriving DecidableEq

namespace MenuObject

def nextKey : MenuObject → Option Callback
  | .nextPage key => some key
  | _ => none

def asTrack : MenuObject → Option TrackObject
  | .track row => some row
  | _ => none

def target : MenuObject → Option Callback
  | .directory key _ _ => some key
  | _ => none

def picture : MenuObject → Option Thumb
  | .directory _ _ thumb => thumb
  | _ => none

def literalTitle : MenuObject → String
  | .directory _ (.literal text) _ => text
  | _ => ""

def directoryTitle : MenuObject → Option String
  | .directory _ (.literal text) _ => some text
  | _ => none

def trackList : MenuObject → Option (String × String)
  | .directory (.getTrackList name type) _ _ => some (name, type)
  | _ => none

end MenuObject

structure ObjectContainer where
  title2 : Option Text := none
  header : Option Text := none
  message : Option Text := none
  objects : List MenuObject := []
deriving DecidableEq

namespace ObjectContainer

def notice (header message : String) : ObjectContainer where
  header := some (.label header)
  message := some (.label message)

def nextPage (container : ObjectContainer) : Option Callback :=
  container.objects.findSome? MenuObject.nextKey

def tracks (container : ObjectContainer) : List TrackObject :=
  container.objects.filterMap MenuObject.asTrack

def trackLists (container : ObjectContainer) : List (String × String) :=
  container.objects.filterMap MenuObject.trackList

/-- The titles of the directories that are data and not labels. -/
def titles (container : ObjectContainer) : List String :=
  container.objects.filterMap MenuObject.directoryTitle

theorem filterMap_asTrack (rows : List TrackObject) :
    (rows.map MenuObject.track).filterMap MenuObject.asTrack = rows := by
  simp [List.filterMap_map, Function.comp_def, MenuObject.asTrack]

theorem findSome_nextKey (rows : List TrackObject) :
    (rows.map MenuObject.track).findSome? MenuObject.nextKey = none := by
  simp [List.findSome?_eq_none_iff, MenuObject.nextKey]

end ObjectContainer

end GoogleMusic
