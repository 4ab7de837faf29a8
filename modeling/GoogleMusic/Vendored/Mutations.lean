import GoogleMusic.Foundation.Chain
import GoogleMusic.Foundation.Dictionary
import GoogleMusic.Vendored.Wire

namespace GoogleMusic

open Foundation

structure MutateResult where
  id : Option String := none
  responseCode : Option String := none
deriving DecidableEq

structure BatchAnswer where
  /-- Whether the answer has the key `error`. -/
  error : Bool := false
  mutateResponse : Option (List MutateResult) := none
deriving DecidableEq

namespace McBatchMutateCall

def accepted (result : MutateResult) : Bool :=
  result.responseCode = some "OK" || result.responseCode = some "CONFLICT"

def failureMessage : String :=
  "The server reported failure while changing the requested resource. If this wasn't caused by invalid arguments or server flakiness, please open an issue."

def checkSuccess (msg : BatchAnswer) : Option String :=
  if msg.error || !((msg.mutateResponse.getD []).all accepted) then some failureMessage else none

def parseResponse (response : Response BatchAnswer) : Except ParseError BatchAnswer :=
  match response.text with
  | none => .error .parseException
  | some msg => .ok msg

def call (name : String) : Call BatchAnswer BatchAnswer where
  name
  parseResponse
  filterResponse _ := .ok ()
  checkSuccess

end McBatchMutateCall

def batchMutateTracks : Call BatchAnswer BatchAnswer := McBatchMutateCall.call "BatchMutateTracks"

def batchMutatePlaylistEntries : Call BatchAnswer BatchAnswer :=
  McBatchMutateCall.call "BatchMutatePlaylistEntries"

def batchMutateStations : Call BatchAnswer BatchAnswer := McBatchMutateCall.call "BatchMutateStations"

/-- `res['mutate_response'][0]['id']`. -/
def firstId (res : BatchAnswer) : Except Raised String := do
  let results ← field "mutate_response" res.mutateResponse
  match results with
  | [] => .error .indexError
  | result :: _ => field "id" result.id

/-- `[e['id'] for e in res['mutate_response']]`. -/
def allIds (res : BatchAnswer) : Except Raised (List String) := do
  let results ← field "mutate_response" res.mutateResponse
  results.mapM fun result => field "id" result.id

/-- A value of a track dictionary.  `other` stands for a list or a dictionary, which is
handed on unread. -/
inductive Value where
  | text (value : String)
  | number (value : Int)
  | flag (value : Bool)
  | other (json : String)
deriving DecidableEq

abbrev TrackInfo := Dictionary String Value

def storeKeys : List String :=
  ["kind", "trackAvailableForPurchase", "albumAvailableForPurchase", "albumArtRef", "artistId"]

def trackDefaults : List (String × Value) :=
  [("playCount", .number 0), ("rating", .text "0"), ("genre", .text ""),
    ("lastModifiedTimestamp", .text "0"), ("deleted", .flag false), ("beatsPerMinute", .number (-1)),
    ("composer", .text ""), ("creationTimestamp", .text "-1"), ("totalDiscCount", .number 0)]

/-- The track of the one mutation `create` that adds a store track. -/
def buildTrackAdd (storeTrackInfo : TrackInfo) : TrackInfo :=
  (Dictionary.setDefaults trackDefaults (Dictionary.without storeKeys storeTrackInfo)).insert
    "trackType" (.number 8)

/-- The seed of a station. -/
structure Seed where
  trackId : Option String := none
  trackLockerId : Option String := none
  artistId : Option String := none
  albumId : Option String := none
  genreId : Option String := none
  seedType : Option Nat := none
deriving DecidableEq

/-- `len(seed)`. -/
def Seed.size (seed : Seed) : Nat :=
  seed.trackId.toList.length + seed.trackLockerId.toList.length + seed.artistId.toList.length +
    seed.albumId.toList.length + seed.genreId.toList.length + seed.seedType.toList.length

/-- The `if` of `create_station` for a track, which looks at the first character of its id. -/
def Seed.withTrack (seed : Seed) : Option String → Except Raised Seed
  | none => .ok seed
  | some trackId =>
      match trackId.toList with
      | [] => .error .indexError
      | 'T' :: _ => .ok { seed with trackId := some trackId, seedType := some 2 }
      | _ :: _ => .ok { seed with trackLockerId := some trackId, seedType := some 1 }

def Seed.withArtist (seed : Seed) : Option String → Seed
  | none => seed
  | some artistId => { seed with artistId := some artistId, seedType := some 3 }

def Seed.withAlbum (seed : Seed) : Option String → Seed
  | none => seed
  | some albumId => { seed with albumId := some albumId, seedType := some 4 }

def Seed.withGenre (seed : Seed) : Option String → Seed
  | none => seed
  | some genreId => { seed with genreId := some genreId, seedType := some 5 }

def seedOf (trackId artistId albumId genreId : Option String) : Except Raised Seed := do
  let seed ← Seed.withTrack {} trackId
  let seed := ((seed.withArtist artistId).withAlbum albumId).withGenre genreId
  if seed.size > 2 then .error .valueError else .ok seed

structure StationMutation where
  clientId : String
  deleted : Bool := false
  imageType : Nat := 1
  lastModifiedTimestamp : String := "-1"
  name : String
  recentTimestamp : String
  seed : Seed
  includeFeed : Bool
  numEntries : Nat
  contentFilter : Nat := 1
deriving DecidableEq

structure EntryDetails where
  clientId : String
  creationTimestamp : String := "-1"
  deleted : Bool := false
  lastModifiedTimestamp : String := "0"
  playlistId : String
  source : Nat
  trackId : String
  precedingEntryId : Option String := none
  followingEntryId : Option String := none
deriving DecidableEq

/-- The turn for the song at position `i` of `total`. -/
def entryAdd (playlistId : String) (total i : Nat) (prevId : Option String) (curId nextId songId : String) :
    EntryDetails where
  clientId := curId
  playlistId
  source := if songId.startsWith "T" then 2 else 1
  trackId := songId
  precedingEntryId := if i > 0 then prevId else none
  followingEntryId := if i < total - 1 then some nextId else none

/-- The loop of `build_plentry_adds`; `uuid n` is the `n`th id that it draws. -/
def plentryAdds (uuid : Nat → String) (playlistId : String) (total : Nat) :
    Nat → Option String → String → String → List String → List EntryDetails
  | _, _, _, _, [] => []
  | i, prevId, curId, nextId, songId :: songIds =>
      entryAdd playlistId total i prevId curId nextId songId ::
        plentryAdds uuid playlistId total (i + 1) (some curId) nextId (uuid (i + 2)) songIds

def buildPlentryAdds (uuid : Nat → String) (playlistId : String) (songIds : List String) :
    List EntryDetails :=
  plentryAdds uuid playlistId songIds.length 0 none (uuid 0) (uuid 1) songIds

def EntryDetails.node (details : EntryDetails) : Node String String where
  name := details.clientId
  prev := details.precedingEntryId
  next := details.followingEntryId
  value := details.trackId

section Chained

variable {uuid : Nat → String} {playlistId : String} {songIds : List String} {i total : Nat}
variable {prevId : Option String}

theorem plentryAdds_names (uuid : Nat → String) (playlistId : String) (total i : Nat)
    (prevId : Option String) (songIds : List String) :
    ((plentryAdds uuid playlistId total i prevId (uuid i) (uuid (i + 1)) songIds).map
      EntryDetails.clientId) = (List.range' i songIds.length).map uuid := by
  induction songIds generalizing i prevId with
  | nil => rfl
  | cons songId songIds ih =>
      rw [plentryAdds, List.map_cons, ih (i + 1) (some (uuid i)), List.length_cons, List.range'_succ,
        List.map_cons]
      rfl

theorem plentryAdds_nameOfHead (uuid : Nat → String) (playlistId : String) (total i : Nat)
    (prevId : Option String) (songIds : List String) :
    Node.nameOfHead ((plentryAdds uuid playlistId total i prevId (uuid i) (uuid (i + 1)) songIds).map
      EntryDetails.node) = if songIds = [] then none else some (uuid i) := by
  cases songIds <;> rfl

/-- Each turn links its song to the ones of the turns before and after it. -/
theorem plentryAdds_linked (starts : i = 0 → prevId = none) (whole : total = i + songIds.length) :
    Node.Linked prevId ((plentryAdds uuid playlistId total i prevId (uuid i) (uuid (i + 1)) songIds).map
      EntryDetails.node) := by
  induction songIds generalizing i prevId with
  | nil => exact True.intro
  | cons songId songIds ih =>
      rw [List.length_cons] at whole
      refine ⟨?_, ?_, ih (i := i + 1) (by omega) (by omega)⟩
      · cases i with
        | zero => exact (starts rfl).symm
        | succ i => rfl
      · rw [plentryAdds_nameOfHead]
        cases songIds with
        | nil =>
            have last : ¬ i < total - 1 := by
              rw [List.length_nil] at whole
              omega
            exact if_neg last
        | cons other songIds =>
            have inner : i < total - 1 := by
              rw [List.length_cons] at whole
              omega
            exact if_pos inner

theorem buildPlentryAdds_songs (uuid : Nat → String) (playlistId : String) (songIds : List String) :
    (buildPlentryAdds uuid playlistId songIds).map EntryDetails.trackId = songIds := by
  have loop : ∀ (total i : Nat) (prevId : Option String) (curId nextId : String),
      (plentryAdds uuid playlistId total i prevId curId nextId songIds).map EntryDetails.trackId =
        songIds := by
    induction songIds with
    | nil => intros; rfl
    | cons songId songIds ih =>
        intro total i prevId curId nextId
        rw [plentryAdds, List.map_cons, ih]
        rfl
  exact loop _ _ _ _ _

theorem buildPlentryAdds_linked (uuid : Nat → String) (playlistId : String) (songIds : List String) :
    Node.Linked none ((buildPlentryAdds uuid playlistId songIds).map EntryDetails.node) :=
  plentryAdds_linked (fun _ => rfl) (by omega)

theorem buildPlentryAdds_names (distinct : Function.Injective uuid) (playlistId : String)
    (songIds : List String) :
    (((buildPlentryAdds uuid playlistId songIds).map EntryDetails.node).map Node.name).Nodup := by
  have drawn : ((buildPlentryAdds uuid playlistId songIds).map EntryDetails.clientId).Nodup := by
    rw [buildPlentryAdds, plentryAdds_names uuid playlistId songIds.length 0 none songIds]
    exact List.Nodup.map distinct List.nodup_range'
  rw [List.map_map]
  exact drawn

/-- Whatever becomes of the order of a batch on the way, its links tell the order of the
songs, and they tell no other: every arrangement of the batch that is linked from its first
entry to its last has the songs in this order. -/
theorem buildPlentryAdds_assemble (distinct : Function.Injective uuid) {batch : List EntryDetails}
    (shuffled : batch.Perm (buildPlentryAdds uuid playlistId songIds)) :
    (Node.assemble (batch.map EntryDetails.node)).map Node.value = songIds ∧
      ∀ row : List EntryDetails, row.Perm batch → Node.Linked none (row.map EntryDetails.node) →
        row.map EntryDetails.trackId = songIds := by
  have names := buildPlentryAdds_names distinct playlistId songIds
  have found : Node.assemble (batch.map EntryDetails.node) =
      (buildPlentryAdds uuid playlistId songIds).map EntryDetails.node :=
    Node.assemble_of_perm (buildPlentryAdds_linked uuid playlistId songIds) names (shuffled.map _)
  have assembled : (Node.assemble (batch.map EntryDetails.node)).map Node.value = songIds := by
    rw [found, List.map_map]
    exact buildPlentryAdds_songs uuid playlistId songIds
  refine ⟨assembled, fun row same linked => ?_⟩
  have rowNames : ((row.map EntryDetails.node).map Node.name).Nodup :=
    (((same.trans shuffled).map EntryDetails.node).map Node.name).nodup_iff.mpr names
  have row_eq := Node.assemble_of_perm linked rowNames (same.symm.map EntryDetails.node)
  rw [row_eq, List.map_map] at assembled
  exact assembled

/-- Ids that are made up in unary. -/
def tally (count : Nat) : String := String.ofList (List.replicate count 'u')

theorem tally_injective : Function.Injective tally := by
  intro first second same
  have lengths := congrArg (fun text => text.toList.length) same
  simpa only [tally, String.toList_ofList, List.length_replicate] using lengths

theorem reversed_batch_assembles :
    (Node.assemble ((buildPlentryAdds tally "playlist" ["Tb", "a", "Tb"]).reverse.map
      EntryDetails.node)).map Node.value = ["Tb", "a", "Tb"] ∧
    ∀ row : List EntryDetails, row.Perm (buildPlentryAdds tally "playlist" ["Tb", "a", "Tb"]).reverse →
      Node.Linked none (row.map EntryDetails.node) →
      row.map EntryDetails.trackId = ["Tb", "a", "Tb"] :=
  buildPlentryAdds_assemble tally_injective (List.reverse_perm _)

end Chained

end GoogleMusic
