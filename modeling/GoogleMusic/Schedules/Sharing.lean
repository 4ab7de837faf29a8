import GoogleMusic.Schedules.Account

namespace GoogleMusic

open Foundation Host

variable {σ : Type}

/-- The playlists and entries of an account, as the service lists them. -/
structure Listing where
  playlists : List Playlist
  entries : List PlaylistEntry

namespace Listing

variable {listing : Listing} {id : String}

def entriesOf (listing : Listing) (id : String) : List PlaylistEntry :=
  sortedBy PlaylistEntry.absolutePosition
    (listing.entries.filter fun entry => entry.playlistId = some id)

/-- `e['playlistId'] == playlist['id']`. -/
def belongs (id : String) (entry : PlaylistEntry) : Except Raised Bool := do
  let playlistId ← field "playlistId" entry.playlistId
  pure (decide (playlistId = id))

theorem belongs_toOption {entry : PlaylistEntry} :
    (belongs id entry).toOption = some true ↔ entry.playlistId = some id := by
  cases place : entry.playlistId with
  | none => simp [belongs, place, field, bind, Except.bind, Except.toOption]
  | some playlistId => simp [belongs, place, bind, Except.bind, pure, Except.pure, Except.toOption]

/-- The vendored `get_all_user_playlist_contents` over the two lists. -/
def userPlaylistContents (listing : Listing) : Except Raised (List PlaylistContents) :=
  (listing.playlists.filter Account.userGenerated).mapM fun playlist => do
    let entries ← listing.entries.filterM (belongs playlist.id)
    pure { toPlaylist := playlist, tracks := sortedBy PlaylistEntry.absolutePosition entries }

def contents (listing : Listing) : List PlaylistContents :=
  (listing.playlists.filter Account.userGenerated).map fun playlist =>
    { toPlaylist := playlist, tracks := listing.entriesOf playlist.id }

/-- Where the method returns, it has found the same contents. -/
theorem contents_of_returned {found : List PlaylistContents}
    (returned : listing.userPlaylistContents = .ok found) : found = listing.contents := by
  rw [userPlaylistContents, mapM_eq_ok_iff] at returned
  have equal : List.Forall₂ Eq listing.contents found := by
    refine List.forall₂_map_left_iff.mpr (returned.imp fun playlist contents built => ?_)
    obtain ⟨entries, filtered, made⟩ := bind_eq_ok.mp built
    cases made
    have kept := filterM_eq_ok filtered
    simp only [belongs_toOption] at kept
    rw [kept]
    rfl
  rwa [List.forall₂_eq_eq_eq, eq_comm] at equal

end Listing

structure Listing.Documented (listing : Listing) : Prop where
  types : ∀ playlist ∈ listing.playlists, playlist.type = some "USER_GENERATED" ∨
    playlist.type = some "MAGIC" ∨ playlist.type = some "SHARED" ∨ playlist.type = none
  distinct : (listing.playlists.map Playlist.id).Nodup
  placed : ∀ entry ∈ listing.entries, entry.playlistId.isSome = true

section Classified

variable {client : Mobileclient σ} {listing : Listing} {playlist : Playlist} {host : Host σ}
variable {row : MenuObject} {name id : String}

end Classified

end GoogleMusic
