import Mathlib.Data.String.Basic
import GoogleMusic.Foundation.Exec
import GoogleMusic.Foundation.Numerals

/-! # Dictionaries of the service

The vendored client hands the plugin the service's JSON objects as
dictionaries.  A field the plugin tests for, or reads where the service may leave
it out, is an `Option` here; reading an absent one raises `KeyError`.
-/

namespace GoogleMusic

open Foundation

/-- The exceptions of the plugin and of the vendored client.  `other` stands for
any exception that no handler of the plugin tells apart. -/
inductive Raised where
  | notLoggedIn
  | alreadyLoggedIn
  | callFailure (message callname : String)
  | keyError (key : String)
  | indexError
  | typeError
  | valueError
  | other (name : String)
deriving DecidableEq

structure Art where
  url : Option String := none
deriving DecidableEq

/-- A song dictionary.  The same type serves the copies that `load_data` makes:
these carry the track number under `trackType`, a name under which the service
itself keeps a string that nothing here reads. -/
structure Song where
  title : Option String := none
  artist : Option String := none
  album : Option String := none
  genre : Option String := none
  durationMillis : Option String := none
  id : Option String := none
  nid : Option String := none
  storeId : Option String := none
  trackNumber : Option Int := none
  trackType : Option Int := none
  albumArtRef : Option (List Art) := none
deriving DecidableEq

def Song.sample : Song where
  title := some "Title"
  artist := some "Artist"
  album := some "Album"
  durationMillis := some "284000"
  id := some "1"

structure Playlist where
  id : String
  name : String
  type : Option String := none
  shareToken : Option String := none
deriving DecidableEq

structure PlaylistEntry where
  id : String
  trackId : String
  playlistId : Option String := none
  absolutePosition : String
  track : Option Song := none
deriving DecidableEq

structure PlaylistContents extends Playlist where
  tracks : List PlaylistEntry
deriving DecidableEq

structure Station where
  id : String
  name : String
  recentTimestamp : Option String := none
  imageUrl : Option String := none
deriving DecidableEq

structure Genre where
  id : String
  name : String
  children : Option (List String) := none
  images : Option (List Art) := none
deriving DecidableEq

structure Album where
  name : String
  albumId : String
  albumArtRef : Option String := none
  year : Option Int := none
deriving DecidableEq

structure Artist where
  name : String
  artistId : String
  artistArtRef : Option String := none
deriving DecidableEq

structure ArtistInfo where
  albums : Option (List Album) := none
deriving DecidableEq

structure AlbumInfo where
  tracks : Option (List Song) := none
deriving DecidableEq

/-- The hits of a search, each list already stripped of the wrapper around its
items. -/
structure SearchResults where
  albumHits : List Album
  artistHits : List Artist
  songHits : List Song
  playlistHits : List Playlist
deriving DecidableEq

structure Device where
  type : Option String := none
  id : Option String := none
deriving DecidableEq

/-- `dictionary[key]`. -/
def field (key : String) : Option α → Except Raised α
  | some value => .ok value
  | none => .error (.keyError key)

def firstCharacter (text : String) : Except Raised String :=
  match text.toList with
  | [] => .error .indexError
  | first :: _ => .ok (String.singleton first)

/-- `art[0]['url']`. -/
def firstUrl : List Art → Except Raised String
  | [] => .error .indexError
  | art :: _ => field "url" art.url

/-- White space in Unicode 5.2, the version of Python 2.7. -/
def isSpace (character : Char) : Bool :=
  let code := character.toNat
  (9 ≤ code && code ≤ 13) || (28 ≤ code && code ≤ 32) || (0x2000 ≤ code && code ≤ 0x200A) ||
    [0x85, 0xA0, 0x1680, 0x180E, 0x2028, 0x2029, 0x202F, 0x205F, 0x3000].contains code

/-- The zeros of the same version.  Each is followed by its nine other decimal digits. -/
def decimalZeros : List Nat :=
  [0x30, 0x660, 0x6F0, 0x7C0, 0x966, 0x9E6, 0xA66, 0xAE6, 0xB66, 0xBE6, 0xC66, 0xCE6, 0xD66,
    0xE50, 0xED0, 0xF20, 0x1040, 0x1090, 0x17E0, 0x1810, 0x1946, 0x19D0, 0x1A80, 0x1A90, 0x1B50,
    0x1BB0, 0x1C40, 0x1C50, 0xA620, 0xA8D0, 0xA900, 0xA9D0, 0xAA50, 0xABF0, 0xFF10, 0x104A0,
    0x1D7CE, 0x1D7D8, 0x1D7E2, 0x1D7EC, 0x1D7F6]

-- U+19DA is a decimal one up to this version, and no decimal digit after it.
def decimal (character : Char) : Option Nat :=
  if character.toNat = 0x19DA then some 1
  else
    (decimalZeros.find? fun first => first ≤ character.toNat && character.toNat < first + 10).map
      fun first => character.toNat - first

/-- `int(text)` on a string: an optional sign and at least one digit, with white
space allowed around them. -/
def intOfString (text : String) : Except Raised Int :=
  let trimmed := ((text.toList.dropWhile isSpace).reverse.dropWhile isSpace).reverse
  let parsed : Option Int :=
    match trimmed with
    | [] => none
    | '-' :: [] => none
    | '+' :: [] => none
    | '-' :: digits => (Numeral.parse 10 decimal 0 digits).map fun value => -(value : Int)
    | '+' :: digits => (Numeral.parse 10 decimal 0 digits).map fun value => (value : Int)
    | digits => (Numeral.parse 10 decimal 0 digits).map fun value => (value : Int)
  match parsed with
  | some value => .ok value
  | none => .error .valueError

example : intOfString "\u000C-1\u0663\u00A0" = .ok (-13) := by decide

def lower (text : String) : String := String.ofList (text.toList.map Char.toLower)

@[simp] theorem field_eq_ok {key : String} {read : Option α} {value : α} :
    field key read = .ok value ↔ read = some value := by
  cases read <;> simp [field]

theorem bind_eq_ok {first : Except ε α} {next : α → Except ε β} {result : β} :
    (first >>= next) = .ok result ↔ ∃ value, first = .ok value ∧ next value = .ok result := by
  cases first <;> simp [bind, Except.bind]

@[simp] theorem field_some (key : String) (value : α) : field key (some value) = .ok value := rfl

end GoogleMusic
