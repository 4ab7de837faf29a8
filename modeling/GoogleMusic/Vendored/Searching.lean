import GoogleMusic.Menus.Store
import GoogleMusic.Vendored.Client

namespace GoogleMusic

open Foundation

variable {ρ : Type}

def Service.search (service : Service ρ) : Search (Session ρ) := searchAllAccessOf Line.session service

def SearchFeed.listed (res : SearchFeed) : List Hit := res.entries.getD []

/-- The types of songs, artists, albums and playlists. -/
def hitTypes : List String := ["1", "2", "3", "4"]

/-- A picture is the first of the item's, if the item has the field. -/
inductive ArtShown : Option (List Art) → Option Thumb → Prop where
  | absent : ArtShown none none
  | first (url : String) (others : List Art) :
      ArtShown (some ({ url := some url } :: others)) (some (.url url))

/-- The object under which a hit is found in the menu. -/
inductive HitShown (hit : Hit) : StoreObject → Prop where
  | song {track : Song} {title : String} {thumb : Option Thumb} (type : hit.type = some "1")
      (wraps : hit.track = some track) (titled : track.title = some title)
      (art : ArtShown track.albumArtRef thumb) :
      HitShown hit (.directory (.addItemMenu track) (.text (.literal title)) (some (.label "Song")) thumb)
  | artist {artist : Artist} (type : hit.type = some "2") (wraps : hit.artist = some artist) :
      HitShown hit (.directory (.getArtistInfo artist.name artist.artistId) (.text (.literal artist.name))
        (some (.label "Artist")) (artist.artistArtRef.map Thumb.url))
  | album {album : Album} (type : hit.type = some "3") (wraps : hit.album = some album) :
      HitShown hit (.directory (.getAlbumInfo album.name album.albumId) (.text (.literal album.name))
        (some (.label "Album")) (album.albumArtRef.map Thumb.url))
  | playlist {playlist : SharedPlaylist} {thumb : Option Thumb} (type : hit.type = some "4")
      (wraps : hit.playlist = some playlist) (art : ArtShown playlist.albumArtRef thumb) :
      HitShown hit (.directory (.menu (.getSharedPlaylist playlist.name playlist.shareToken))
        (.text (.literal playlist.name)) (some (.label "Playlist")) thumb)

/-- The hit has a type, and if it is one of the four, the item of the type and the fields of
it that are read.  The first picture of a list is read where there is a list. -/
inductive Hit.Readable (hit : Hit) : Prop where
  | song (track : Song) (type : hit.type = some "1") (wraps : hit.track = some track)
      (titled : track.title.isSome = true)
      (art : ∀ art, track.albumArtRef = some art → ∃ url others, art = { url := some url } :: others)
  | artist (artist : Artist) (type : hit.type = some "2") (wraps : hit.artist = some artist)
  | album (album : Album) (type : hit.type = some "3") (wraps : hit.album = some album)
  | playlist (playlist : SharedPlaylist) (type : hit.type = some "4")
      (wraps : hit.playlist = some playlist)
      (art : ∀ art, playlist.albumArtRef = some art → ∃ url others, art = { url := some url } :: others)
  | unlisted (type : String) (has : hit.type = some type) (other : type ∉ hitTypes)

section Rows

variable {hit : Hit} {kind : HitKind} {object : StoreObject} {art : Option (List Art)}
variable {thumb : Option Thumb} {url : Option String}

theorem artThumb_of_urls
    (urls : ∀ list, art = some list → ∃ url others, list = { url := some url } :: others) :
    ∃ thumb, artThumb art = .ok thumb := by
  cases art with
  | none => exact ⟨none, rfl⟩
  | some list =>
      obtain ⟨url, others, rfl⟩ := urls list rfl
      exact ⟨some url, rfl⟩

theorem ArtShown.urls (shown : ArtShown art thumb) :
    ∀ list, art = some list → ∃ url others, list = { url := some url } :: others := by
  intro list has
  cases shown with
  | absent => cases has
  | first url others =>
      cases has
      exact ⟨url, others, rfl⟩

/-- The type under which hits of a kind are filed. -/
def HitKind.type : HitKind → String
  | .song => "1"
  | .artist => "2"
  | .album => "3"
  | .playlist => "4"

theorem HitKind.type_injective : Function.Injective HitKind.type := by
  intro first second
  cases first <;> cases second <;> decide

theorem mem_hitTypes {type : String} : type ∈ hitTypes ↔ ∃ kind : HitKind, kind.type = type := by
  constructor
  · intro member
    simp only [hitTypes, List.mem_cons, List.not_mem_nil, or_false] at member
    rcases member with rfl | rfl | rfl | rfl
    · exact ⟨.song, rfl⟩
    · exact ⟨.artist, rfl⟩
    · exact ⟨.album, rfl⟩
    · exact ⟨.playlist, rfl⟩
  · intro named
    obtain ⟨kind, rfl⟩ := named
    cases kind <;> decide

theorem HitShown.readable (shown : HitShown hit object) : hit.Readable := by
  cases shown with
  | song type wraps titled art => exact .song _ type wraps (by rw [titled]; rfl) art.urls
  | artist type wraps => exact .artist _ type wraps
  | album type wraps => exact .album _ type wraps
  | playlist type wraps art => exact .playlist _ type wraps art.urls

theorem Hit.Readable.row (readable : hit.Readable) (typed : hit.type = some kind.type) :
    ∃ object, kind.row hit = .ok object := by
  have of_type (other : HitKind) (has : hit.type = some other.type) : kind = other :=
    HitKind.type_injective (Option.some.inj (typed.symm.trans has))
  cases readable with
  | song track type wraps titled art =>
      obtain rfl := of_type .song type
      obtain ⟨title, has⟩ := Option.isSome_iff_exists.mp titled
      obtain ⟨thumb, read⟩ := artThumb_of_urls art
      simp [HitKind.row, songHitRow, wraps, has, read, bind, Except.bind, pure, Except.pure]
  | artist artist type wraps =>
      obtain rfl := of_type .artist type
      simp [HitKind.row, artistHitRow, wraps, bind, Except.bind, pure, Except.pure]
  | album album type wraps =>
      obtain rfl := of_type .album type
      simp [HitKind.row, albumHitRow, wraps, bind, Except.bind, pure, Except.pure]
  | playlist playlist type wraps art =>
      obtain rfl := of_type .playlist type
      obtain ⟨thumb, read⟩ := artThumb_of_urls art
      simp [HitKind.row, playlistHitRow, wraps, read, bind, Except.bind, pure, Except.pure]
  | unlisted type has other =>
      exact absurd (mem_hitTypes.mpr ⟨kind, Option.some.inj (typed.symm.trans has)⟩) other

end Rows

section Filing

variable {entries : List Hit} {hits filed : Hits}

end Filing

section Showing

variable {hits : Hits} {kinds : List HitKind} {rows : List StoreObject}

theorem Iteration.all (order : Iteration) (kind : HitKind) : kind ∈ order.kinds :=
  order.whole.mem_iff.mpr (by cases kind <;> decide)

end Showing

section Menu

variable {service : Service ρ} {order : Iteration} {query : String} {host : Host (Session ρ)}
variable {container : StoreContainer} {entries : List Hit} {hits : Hits} {rows : List StoreObject}

end Menu

end GoogleMusic
