import GoogleMusic.Vendored.Wire

namespace GoogleMusic

open Foundation

structure FeedItem (α : Type) where
  deleted : Option Bool := none
  item : α
deriving DecidableEq

structure FeedData (α : Type) where
  items : Option (List (FeedItem α))
deriving DecidableEq

structure Feed (α : Type) where
  data : Option (FeedData α) := none
  nextPageToken : Option String := none
deriving DecidableEq

/-- What the parameters and the body of a list call carry. -/
structure ListRequest where
  updatedMin : Int
  startToken : Option String
  maxResults : Option String
deriving DecidableEq

/-- A list call and the type of what it lists.  The classes differ in their paths and in
the names by which errors call them. -/
structure McListCall (α : Type) where
  name : String

namespace McListCall

variable {α : Type}

/-- `dynamic_params` and `dynamic_data`; `updatedAfter` is in microseconds. -/
def request (updatedAfter : Option Int) (startToken : Option String) (maxResults : Option Nat) :
    ListRequest where
  updatedMin := updatedAfter.getD 0
  startToken
  maxResults := maxResults.map toString

def parseResponse (response : Response (Feed α)) : Except ParseError (Feed α) :=
  match response.text with
  | none => .error .parseException
  | some res => .ok { res with data := some (res.data.getD { items := some [] }) }

def filterResponse (msg : Feed α) : Except Raised Unit := do
  let data ← field "data" msg.data
  let _ ← field "items" data.items

def toCall (call : McListCall α) : Call (Feed α) (Feed α) where
  name := call.name
  parseResponse
  filterResponse
  checkSuccess _ := none

end McListCall

def listTracks : McListCall Song := ⟨"ListTracks"⟩

def listPlaylists : McListCall Playlist := ⟨"ListPlaylists"⟩

def listPlaylistEntries : McListCall PlaylistEntry := ⟨"ListPlaylistEntries"⟩

def listStations : McListCall Station := ⟨"ListStations"⟩

/-- A list resource of the service, whose page tokens come to an end: over one whose
tokens do not, neither does the loop. -/
structure Resource (ρ α : Type) where
  list : ListRequest → Exec ρ String (Response (Feed α))
  rank : ρ → Option String → Nat
  descends : ∀ {request state response after feed token},
    (list request).run state = (.ok response, after) → response.text = some feed →
    feed.nextPageToken = some token → rank after (some token) < rank state request.startToken

structure ListOptions where
  includeDeleted : Bool := false
  updatedAfter : Option Int := none
  maxResults : Option Nat := none

variable {ρ τ α : Type}

def kept (includeDeleted : Bool) (items : List (FeedItem α)) : List (FeedItem α) :=
  if includeDeleted then items else items.filter fun item => !item.deleted.getD false

/-- One turn of the loop of `_get_all_items_incremental`. -/
def nextChunk (line : Line ρ τ) (call : McListCall α) (resource : Resource ρ α)
    (options : ListOptions) (token : Option String) : Exec τ Raised (Batch String α) := do
  let libChunk ← call.toCall.perform line
    (resource.list (McListCall.request options.updatedAfter token options.maxResults))
  let data ← Exec.lift (field "data" libChunk.data)
  let items ← Exec.lift (field "items" data.items)
  pure {
    items := (kept options.includeDeleted items).map FeedItem.item
    next := libChunk.nextPageToken }

section Turn

variable {line : Line ρ τ} {name : String} {call : McListCall α} {resource : Resource ρ α} {options : ListOptions}
variable {token : Option String}

def Feed.entries (feed : Feed α) : List (FeedItem α) :=
  match feed.data with
  | none => []
  | some data => data.items.getD []

/-- A page as the reader takes it. -/
def Feed.batch (includeDeleted : Bool) (feed : Feed α) : Batch String α where
  items := (kept includeDeleted feed.entries).map FeedItem.item
  next := feed.nextPageToken

/-- A page without its data is an empty one, and one whose data has no items raises. -/
def Feed.read (feed : Feed α) : Except Raised (Feed α) :=
  match feed.data with
  | none => .ok feed
  | some data => do
      let _ ← field "items" data.items
      pure feed

/-- A response of a list call, from the status to the items that are kept. -/
def readPage (name : String) (includeDeleted : Bool) (response : Response (Feed α)) :
    Except Raised (Batch String α) :=
  match response.raiseForStatus with
  | some message => .error (.callFailure message name)
  | none =>
      match response.text with
      | none => .error (.callFailure notUnderstood name)
      | some feed => do
          let _ ← feed.read
          pure (feed.batch includeDeleted)

theorem readPage_eq_ok {response : Response (Feed α)} {includeDeleted : Bool} {batch : Batch String α}
    (read : readPage name includeDeleted response = .ok batch) :
    response.raiseForStatus = none ∧
      ∃ feed, response.text = some feed ∧ batch = feed.batch includeDeleted := by
  unfold readPage at read
  split at read
  · cases read
  · rename_i status
    split at read
    · cases read
    · rename_i feed text
      obtain ⟨_, _, built⟩ := bind_eq_ok.mp read
      cases built
      exact ⟨status, feed, text, rfl⟩

theorem nextChunk_eq (line : Line ρ τ) (call : McListCall α) (resource : Resource ρ α)
    (options : ListOptions) (token : Option String) :
    nextChunk line call resource options token =
      line.send ((resource.list (McListCall.request options.updatedAfter token
        options.maxResults)).mapError .other) >>=
      fun response => Exec.lift (readPage call.name options.includeDeleted response) := by
  apply Exec.eq_of_run
  intro state
  simp only [nextChunk, Call.perform, Exec.run_bind]
  cases (line.send ((resource.list (McListCall.request options.updatedAfter token
      options.maxResults)).mapError .other)).run state with
  | mk outcome after =>
      cases outcome with
      | error reason => rfl
      | ok response =>
          simp only [Exec.run_lift, Call.read, readPage]
          cases response.raiseForStatus with
          | some message => rfl
          | none =>
              simp only [McListCall.toCall, McListCall.parseResponse]
              cases response.text with
              | none => rfl
              | some feed =>
                  cases feed with
                  | mk data token =>
                      cases data with
                      | none => rfl
                      | some data => cases data with
                        | mk items => cases items <;> rfl

theorem nextChunk_ran {state after : τ} {batch : Batch String α}
    (ran : (nextChunk line call resource options token).run state =
      (.ok batch, after)) :
    ∃ response,
      (resource.list (McListCall.request options.updatedAfter token options.maxResults)).run
        (line.service state) = (.ok response, line.service after) ∧
      readPage call.name options.includeDeleted response = .ok batch := by
  rw [nextChunk_eq] at ran
  obtain ⟨response, middle, sent, read⟩ := Exec.bind_returned ran
  have answered := line.answers sent
  rw [Exec.run_mapError] at answered
  cases listed : (resource.list (McListCall.request options.updatedAfter token
      options.maxResults)).run (line.service state) with
  | mk outcome service =>
      rw [listed] at answered
      cases outcome with
      | error name => cases answered
      | ok found =>
          cases answered
          cases congrArg Prod.snd read
          exact ⟨response, rfl, congrArg Prod.fst read⟩

theorem nextChunk_descends (line : Line ρ τ) (call : McListCall α) (resource : Resource ρ α)
    (options : ListOptions) : Cursor.Descends (fun state => resource.rank (line.service state))
      (nextChunk line call resource options) := by
  intro token state batch after next ran follows
  obtain ⟨response, answered, read⟩ := nextChunk_ran ran
  obtain ⟨_, feed, text, rfl⟩ := readPage_eq_ok read
  exact resource.descends answered text follows

end Turn

def Resource.source (resource : Resource ρ α) (line : Line ρ τ) (call : McListCall α)
    (options : ListOptions) : Cursor.Source τ Raised String α where
  fetch := nextChunk line call resource options
  rank state := resource.rank (line.service state)
  descends := nextChunk_descends line call resource options

/-- `kwargs.setdefault('max_results', 20000)`. -/
def ListOptions.setDefault (options : ListOptions) : ListOptions :=
  { options with maxResults := some (options.maxResults.getD 20000) }

/-- `_get_all_items` with `incremental=False`. -/
def getAllItems (line : Line ρ τ) (call : McListCall α) (resource : Resource ρ α)
    (options : ListOptions := {}) : Exec τ Raised (List α) :=
  List.flatten <$> (resource.source line call options.setDefault).chunks none

namespace Session

open Cursor

variable {κ : Type} {fetch : Option κ → Exec ρ Raised (Batch κ α)} {session : Session ρ}
variable {fuel : Nat} {token : Option κ}

theorem drain_of_loggedOut (loggedOut : session.isAuthenticated = false) :
    drain (fun token => send (fetch token)) (fuel + 1) token session =
      some (.error .notLoggedIn, session) := by
  rw [drain, send_of_loggedOut _ loggedOut]

theorem drain_of_loggedIn (fetch : Option κ → Exec ρ Raised (Batch κ α)) (fuel : Nat)
    (token : Option κ) (loggedIn : session.isAuthenticated = true) :
    drain (fun token => send (fetch token)) fuel token session =
      (drain fetch fuel token session.remote).map fun ending =>
        (ending.1, { session with remote := ending.2 }) := by
  induction fuel generalizing token session with
  | zero => rfl
  | succ fuel ih =>
      rw [drain, drain, send_of_loggedIn _ loggedIn]
      cases answered : (fetch token).run session.remote with
      | mk outcome after =>
          cases outcome with
          | error reason => rfl
          | ok batch =>
              cases goes : batch.next with
              | none => simp only [goes, Option.map_some]
              | some next =>
                  have moved : ({ session with remote := after } : Session ρ).isAuthenticated = true :=
                    loggedIn
                  have rest := ih (some next) moved
                  simp only [goes, rest, Option.map_map, Function.comp_def]

theorem chunks_send {outer : Source (Session ρ) Raised κ α} {inner : Source ρ Raised κ α}
    (fetches : outer.fetch = fun token => send (inner.fetch token)) :
    outer.chunks token = send (inner.chunks token) := by
  apply Exec.eq_of_run
  intro session
  cases state : session.isAuthenticated with
  | false =>
      have refused : drain outer.fetch 1 token session = some (.error .notLoggedIn, session) := by
        rw [fetches]
        exact drain_of_loggedOut state
      rw [send_of_loggedOut _ state]
      exact Source.chunks_of_drain refused
  | true =>
      have finished := drain_of_loggedIn inner.fetch (inner.rank session.remote token + 1) token state
      rw [← fetches, inner.drain_eq_chunks, Option.map_some] at finished
      rw [send_of_loggedIn _ state]
      exact Source.chunks_of_drain finished

theorem pages_send {inv : ρ → Prop} {rest : Option κ → List α} (pages : Pages inv rest fetch) :
    Pages (fun session : Session ρ => inv session.remote) rest fun token => send (fetch token) where
  keeps token session held := by
    cases state : session.isAuthenticated with
    | false => rwa [Exec.final, send_of_loggedOut _ state]
    | true =>
        rw [Exec.final, send_of_loggedIn _ state]
        exact pages.keeps token session.remote held
  cuts token session batch held returned :=
    pages.cuts token session.remote batch held (send_returns_iff.mp returned).2

end Session

theorem nextChunk_session (call : McListCall α) (resource : Resource ρ α) (options : ListOptions) :
    nextChunk Line.session call resource options =
      fun token => Session.send (nextChunk Line.direct call resource options token) := by
  funext token
  rw [nextChunk_eq, nextChunk_eq]
  exact (Session.send_lift _ _).symm

theorem getAllItems_session (call : McListCall α) (resource : Resource ρ α) (options : ListOptions) :
    getAllItems Line.session call resource options =
      Session.send (getAllItems Line.direct call resource options) := by
  rw [getAllItems, getAllItems, Session.send_map]
  exact congrArg _ (Session.chunks_send (nextChunk_session call resource _))

/-- In the states of `inv` the resource lists `rest none`, each token standing for the rest
of that list.  A page without data is one without items, and where a page is cut is left
to the service. -/
structure Resource.Lists (resource : Resource ρ α) (inv : ρ → Prop)
    (rest : Option String → List (FeedItem α)) : Prop where
  keeps : ∀ request, (resource.list request).Keeps inv
  cuts : ∀ token maxResults state response feed, inv state →
    (resource.list (McListCall.request none token maxResults)).Returns state response →
    response.raiseForStatus = none → response.text = some feed →
    rest token = feed.entries ++ feed.nextPageToken.elim [] fun token => rest (some token)

/-- The items of a listing without the deleted ones, unless these are asked for. -/
def itemsOf (includeDeleted : Bool) (items : List (FeedItem α)) : List α :=
  (items.filter fun item => includeDeleted ∨ item.deleted ≠ some true).map FeedItem.item

theorem kept_eq_filter (includeDeleted : Bool) (items : List (FeedItem α)) :
    kept includeDeleted items =
      items.filter fun item => includeDeleted ∨ item.deleted ≠ some true := by
  cases includeDeleted with
  | true => simp [kept]
  | false =>
      apply List.filter_congr
      intro item _
      rcases item.deleted with _ | _ | _ <;> rfl

theorem itemsOf_append (includeDeleted : Bool) (first second : List (FeedItem α)) :
    itemsOf includeDeleted (first ++ second) =
      itemsOf includeDeleted first ++ itemsOf includeDeleted second := by
  rw [itemsOf, List.filter_append, List.map_append]
  rfl

theorem itemsOf_undeleted (includeDeleted : Bool) (items : List α) :
    itemsOf includeDeleted (items.map fun item => { item }) = items := by
  have all : ∀ listed ∈ items.map fun item => ({ item } : FeedItem α),
      decide (includeDeleted ∨ listed.deleted ≠ some true) = true := by
    intro listed member
    obtain ⟨item, _, rfl⟩ := List.mem_map.mp member
    simp
  rw [itemsOf, List.filter_eq_self.mpr all, List.map_map]
  exact List.map_id' items

section Complete

variable {resource : Resource ρ α} {inv : ρ → Prop} {rest : Option String → List (FeedItem α)}
variable {options : ListOptions}

theorem nextChunk_pages (lists : resource.Lists inv rest) (call : McListCall α)
    (whole : options.updatedAfter = none) :
    Cursor.Pages inv (fun token => itemsOf options.includeDeleted (rest token))
      (nextChunk Line.direct call resource options) where
  keeps token := by
    rw [nextChunk_eq]
    refine Exec.Keeps.bind (fun state held => ?_) fun response => .lift _
    exact lists.keeps _ state held
  cuts token state batch held returned := by
    rw [nextChunk_eq, whole] at returned
    obtain ⟨after, ran⟩ := Exec.returns_iff_run.mp returned
    obtain ⟨response, middle, sent, read⟩ := Exec.bind_returned ran
    obtain ⟨status, feed, text, rfl⟩ := readPage_eq_ok (congrArg Prod.fst read)
    have answered := Exec.returns_mapError.mp (Exec.returns_iff_run.mpr ⟨middle, sent⟩)
    rw [lists.cuts token options.maxResults state response feed held answered status text,
      itemsOf_append]
    cases follows : feed.nextPageToken <;> simp [Feed.batch, follows, itemsOf, kept_eq_filter]

theorem getAllItems_reads (lists : resource.Lists inv rest) (call : McListCall α)
    (whole : options.updatedAfter = none) {state : ρ} (held : inv state) :
    inv ((getAllItems Line.direct call resource options).final state) ∧
      ∀ items, (getAllItems Line.direct call resource options).Returns state items →
        items = itemsOf options.includeDeleted (rest none) := by
  have larger : options.setDefault.updatedAfter = none := whole
  have pages := nextChunk_pages lists call larger
  constructor
  · rw [getAllItems, Exec.final_map]
    exact Cursor.Source.chunks_keeps _ none pages.keeps state held
  · intro items returned
    obtain ⟨after, ran⟩ := Exec.returns_iff_run.mp returned
    obtain ⟨chunks, middle, drained, flat⟩ := Exec.bind_returned ran
    cases flat
    exact Cursor.Source.chunks_reads _ none pages held (Exec.returns_iff_run.mpr ⟨_, drained⟩)

/-- A listing that is taken page by page, with other requests in between, is at any time a
beginning of the list, and at its end all of it: what the method returns that reads it in
one go with larger pages. -/
theorem incremental_agrees (lists : resource.Lists inv rest) (call : McListCall α) (includeDeleted : Bool)
    (session : Session ρ) (held : inv session.remote) (moves : List (Cursor.Move (Session ρ)))
    (admitted : (Cursor.readingSystem (nextChunk Line.session call resource
      { includeDeleted })).Admits (Cursor.KeepsListing fun session => inv session.remote) moves
        (.opened session)) :
    (Cursor.readingSystem (nextChunk Line.session call resource
      { includeDeleted })).Always (fun reading =>
        reading.taken.flatten <+: itemsOf includeDeleted (rest none) ∧
        (reading.position = .finished →
          reading.taken.flatten = itemsOf includeDeleted (rest none) ∧
          ∀ later items, inv later.remote →
            (getAllItems Line.session call resource { includeDeleted }).Returns later items →
            items = reading.taken.flatten)) moves (.opened session) := by
  have pages := Session.pages_send
    (nextChunk_pages lists call (rfl : ({ includeDeleted } : ListOptions).updatedAfter = none))
  rw [← nextChunk_session] at pages
  refine (Cursor.always_reads pages held admitted).imp fun reading read => ⟨read.1, fun ended => ?_⟩
  refine ⟨read.2 ended, fun later items kept returned => ?_⟩
  rw [getAllItems_session] at returned
  rw [read.2 ended]
  exact (getAllItems_reads lists call rfl kept).2 items (Session.send_returns_iff.mp returned).2

end Complete

namespace Resource

/-- Lists `items` in pages of `size + 1`; a token is as long as what lies before it. -/
def paged (size : Nat) (items : ρ → List (FeedItem α)) : Resource ρ α where
  list request := do
    let all ← Exec.gets items
    let offset := (request.startToken.getD "").length
    let rest := all.drop offset
    pure {
      statusCode := 200
      text := some {
        data := some { items := some (rest.take (size + 1)) }
        nextPageToken :=
          if size + 1 < rest.length then
            some (String.ofList (List.replicate (offset + size + 1) 'x'))
          else none } }
  rank state token := (items state).length - (token.getD "").length
  descends := by
    intro request state response after feed token ran text follows
    cases ran
    cases text
    simp only [List.length_drop] at follows
    split at follows
    · rename_i more
      cases follows
      rw [Option.getD_some, String.length_ofList, List.length_replicate]
      omega
    · cases follows

theorem paged_lists (size : Nat) (items : ρ → List (FeedItem α)) (held : List (FeedItem α)) :
    (paged size items).Lists (fun state => items state = held)
      (fun token => held.drop (token.getD "").length) where
  keeps _ _ same := same
  cuts token maxResults state response feed same answered status text := by
    cases answered
    cases text
    change held.drop _ = ((items state).drop _).take (size + 1) ++ _
    rw [same]
    dsimp only
    split
    · rw [Option.elim_some, Option.getD_some, String.length_ofList, List.length_replicate,
        Nat.add_assoc, ← List.drop_drop, List.take_append_drop]
      rfl
    · rename_i last
      rw [Option.elim_none, List.append_nil, List.take_of_length_le (by
        simpa only [McListCall.request, not_lt, same] using last)]
      rfl

end Resource

def threeStations : List (FeedItem Station) :=
  [{ item := { id := "1", name := "Radio" } },
    { deleted := some true, item := { id := "2", name := "Silence" } },
    { deleted := some false, item := { id := "3", name := "Rock" } }]

/-- Two pages, with a request in between that changes the service. -/
theorem incremental_stations :
    (Cursor.readingSystem (nextChunk Line.session listStations
      (Resource.paged 1 Prod.fst) {})).Always (fun reading =>
        reading.taken.flatten <+: itemsOf false threeStations ∧
        (reading.position = .finished →
          reading.taken.flatten = itemsOf false threeStations ∧
          ∀ (later : Session (List (FeedItem Station) × Nat)) items, later.remote.1 = threeStations →
            (getAllItems Line.session listStations (Resource.paged 1 Prod.fst)
              {}).Returns later items →
            items = reading.taken.flatten))
      [.advance, .other fun session => { session with remote := (session.remote.1, 1) }, .advance]
      (.opened { isAuthenticated := true, remote := (threeStations, 0) }) :=
  incremental_agrees (Resource.paged_lists 1 Prod.fst threeStations) listStations false _ rfl _ (by
    rintro _ ⟨⟩
    refine ⟨True.intro, ?_⟩
    rintro _ ⟨⟩
    refine ⟨fun same => same, ?_⟩
    rintro _ ⟨⟩
    exact ⟨True.intro, True.intro⟩)

end GoogleMusic
