import GoogleMusic.Menus.Browsing
import Mathlib.Data.List.Perm.Basic

namespace GoogleMusic

open Foundation

structure ShowsLibrary (api : GMusic) (containers : List ObjectContainer) : Prop where
  count : containers.length = pageCount 50 api.allSongs.length
  once : ((containers.flatMap ObjectContainer.tracks).map Except.ok).Perm
    (api.allSongs.map (songRow api.allAccess))

/-- From page 1 of the view on, the links end after as many pages as the library needs,
and these satisfy `good`. -/
def Reads (api : GMusic) (random : Nat → Nat → Shuffle Song) (requests : Nat → List (String × Int))
    (title : String) (shuffle : Bool) (good : List ObjectContainer → Prop) : Prop :=
  ∃ containers, follow (pageCount 50 api.allSongs.length) random requests
    (.showSongs title shuffle 1) api = .ok (containers, none) ∧ good containers

def InTitleOrder (containers : List ObjectContainer) : Prop :=
  (containers.flatMap ObjectContainer.tracks).Pairwise fun left right => left.title ≤ right.title

section Reading

variable {api : GMusic} {random : Nat → Nat → Shuffle Song} {requests : Nat → List (String × Int)}
variable {shuffle : Bool} {title : String} {good : List ObjectContainer → Prop}

/-- The rows a reader is shown, and what they are shown of. -/
def seen (api : GMusic) (shuffle : Bool) (random : Nat → Nat → Shuffle Song)
    (requests : Nat → List (String × Int)) : List Song :=
  shown 50 (pageCount 50 api.allSongs.length) 0 (lists shuffle random requests api.allSongs)

theorem read_run (random : Nat → Nat → Shuffle Song) (requests : Nat → List (String × Int))
    (title : String) (shuffle : Bool) (browsable : api.Browsable) :
    ∃ containers, follow (pageCount 50 api.allSongs.length) random requests
        (.showSongs title shuffle 1) api = .ok (containers, none) ∧
      containers.length = pageCount 50 api.allSongs.length ∧
      containers.flatMap ObjectContainer.tracks =
        (seen api shuffle random requests).map (Song.shown api.allAccess) := by
  simpa [seen] using
    follow_run random requests title shuffle 0 browsable pageCount_pos (Nat.zero_add _)

theorem showsLibrary_iff (browsable : api.Browsable) {containers : List ObjectContainer}
    (count : containers.length = pageCount 50 api.allSongs.length)
    (tracks : containers.flatMap ObjectContainer.tracks =
      (seen api shuffle random requests).map (Song.shown api.allAccess)) :
    ShowsLibrary api containers ↔ (seen api shuffle random requests).Perm api.allSongs := by
  have rows : api.allSongs.map (songRow api.allAccess) =
      (api.allSongs.map (Song.shown api.allAccess)).map Except.ok := by
    rw [List.map_map]
    exact List.map_congr_left fun song member => songRow_of_listable (browsable.fields song member) _
  have same : ((containers.flatMap ObjectContainer.tracks).map Except.ok).Perm
      (api.allSongs.map (songRow api.allAccess)) ↔
      (seen api shuffle random requests).Perm api.allSongs := by
    rw [tracks, rows, List.map_perm_map_iff (fun _ _ => Except.ok.inj),
      List.map_perm_map_iff (shown_injective api.allAccess)]
  exact ⟨fun shows => same.mp shows.once, fun perm => ⟨count, same.mpr perm⟩⟩

theorem reads_library_iff (title : String) (browsable : api.Browsable) :
    Reads api random requests title shuffle (ShowsLibrary api) ↔
      (seen api shuffle random requests).Perm api.allSongs := by
  obtain ⟨containers, ran, count, tracks⟩ := read_run random requests title shuffle browsable
  rw [← showsLibrary_iff browsable count tracks]
  constructor
  · rintro ⟨other, ran', shows⟩
    rw [ran] at ran'
    cases ran'
    exact shows
  · exact fun shows => ⟨containers, ran, shows⟩

theorem lists_length_le (visit : Nat) :
    (lists shuffle random requests api.allSongs visit).length ≤
      (0 + pageCount 50 api.allSongs.length) * 50 := by
  rw [lists_perm.length_eq, Nat.zero_add]
  exact length_le_pageCount (by decide) _

theorem seen_perm
    (keeps : ∀ visit, ((lists shuffle random requests api.allSongs visit).drop ((visit + 1) * 50)).Perm
      ((lists shuffle random requests api.allSongs (visit + 1)).drop ((visit + 1) * 50))) :
    (seen api shuffle random requests).Perm api.allSongs := by
  have perm := shown_perm 0 (lists shuffle random requests api.allSongs)
    (by simpa only [Nat.zero_add] using keeps) lists_length_le
  rw [Nat.zero_mul, List.drop_zero] at perm
  exact perm.trans lists_perm

theorem seen_switch (front back : List Song) {index : Nat}
    (inside : index < pageCount 50 api.allSongs.length)
    (before : ∀ visit < index, lists shuffle random requests api.allSongs visit = front)
    (after : ∀ visit, index ≤ visit → lists shuffle random requests api.allSongs visit = back) :
    seen api shuffle random requests = front.take (index * 50) ++ back.drop (index * 50) := by
  obtain ⟨more, pages⟩ := Nat.exists_eq_add_of_le (Nat.le_of_lt inside)
  have enough : (lists shuffle random requests api.allSongs index).length ≤ _ :=
    lists_length_le index
  rw [after index (Nat.le_refl _), pages, Nat.zero_add] at enough
  rw [seen, pages]
  exact shown_switch front back before after enough

end Reading

section Plain

variable {api : GMusic} {random : Nat → Nat → Shuffle Song} {requests : Nat → List (String × Int)}
variable {title : String}

/-- The titles come in order whatever is shuffled: only songs of one title can change
places. -/
theorem plain_inTitleOrder (browsable : api.Browsable) {containers : List ObjectContainer}
    (tracks : containers.flatMap ObjectContainer.tracks =
      (seen api false random requests).map (Song.shown api.allAccess)) : InTitleOrder containers := by
  have sorted : ∀ visit, (lists false random requests api.allSongs visit).Pairwise
      fun left right => left.titleKey ≤ right.titleKey := fun _ => sortedBy_pairwise
  have keys := shown_map 0 (lists false random requests api.allSongs)
    (fun visit => map_eq_of_sorted (sorted visit) (sorted 0) (lists_perm.trans lists_perm.symm))
    (by rw [List.length_map]; exact lists_length_le 0)
  rw [Nat.zero_mul, List.drop_zero] at keys
  have ordered := sorted_of_map_eq keys (sorted 0)
  rw [InTitleOrder, tracks, List.pairwise_map]
  have titled : ∀ song ∈ seen api false random requests, ∃ text, song.title = some text := by
    intro song member
    obtain ⟨visit, inside⟩ := exists_of_mem_shown member
    have fields := browsable.fields song (lists_perm.mem_iff.mp inside)
    simp only [Song.listable, Song.playable, Bool.and_eq_true] at fields
    exact Option.isSome_iff_exists.mp fields.1.1.1.1.1
  refine ordered.imp_of_mem fun {left right} inside inside' below => ?_
  obtain ⟨text, hasText⟩ := titled left inside
  obtain ⟨text', hasText'⟩ := titled right inside'
  simpa [Song.titleKey, sortKey, Song.shown, Song.row, hasText, hasText'] using below

theorem plain_reads_iff (browsable : api.Browsable) :
    Reads api random requests title false
        (fun containers => ShowsLibrary api containers ∧ InTitleOrder containers) ↔
      (seen api false random requests).Perm api.allSongs := by
  obtain ⟨containers, ran, count, tracks⟩ := read_run random requests title false browsable
  rw [← reads_library_iff title browsable]
  constructor
  · rintro ⟨other, ran', shows, _⟩
    exact ⟨other, ran', shows⟩
  · rintro ⟨other, ran', shows⟩
    rw [ran] at ran'
    cases ran'
    exact ⟨containers, ran, shows, plain_inTitleOrder browsable tracks⟩

theorem plain_seen_perm
    (apart : ∀ index, requests (index + 1) ≠ [] →
      ¬ Straddled Song.titleKey api.allSongs ((index + 1) * 50)) :
    (seen api false random requests).Perm api.allSongs := by
  apply seen_perm
  intro visit
  by_cases still : requests (visit + 1) = []
  · have same : orders false random requests api.allSongs (visit + 1) =
        orders false random requests api.allSongs visit := by
      rw [orders, visitOrder, still]
      rfl
    rw [lists, lists, same]
  · have perm : (lists false random requests api.allSongs visit).Perm
        (lists false random requests api.allSongs (visit + 1)) := lists_perm.trans lists_perm.symm
    exact drop_perm_of_not_straddled sortedBy_pairwise sortedBy_pairwise perm
      fun straddled => apart visit still (straddled.perm lists_perm)

/-- One shuffle behind a straddled break, and none elsewhere, repeats a song. -/
theorem exists_plain_repeat (requests : Nat → List (String × Int)) {index : Nat}
    (requested : requests (index + 1) ≠ [])
    (straddled : Straddled Song.titleKey api.allSongs ((index + 1) * 50)) :
    ∃ random, ¬ (seen api false random requests).Perm api.allSongs := by
  have sorted : (sortedBy Song.titleKey api.allSongs).Pairwise
      fun left right => left.titleKey ≤ right.titleKey := sortedBy_pairwise
  obtain ⟨first, before, second, after, different, tie⟩ :=
    (straddled.perm sortedBy_perm.symm).exists_cut sorted
  obtain ⟨other, perm, keys, repeated⟩ := exists_exchange before after different
  have target : other.Perm api.allSongs := perm.trans sortedBy_perm
  have otherSorted := sorted_of_map_eq (keys Song.titleKey tie) sorted
  obtain ⟨last, length⟩ := Nat.exists_eq_succ_of_ne_zero
    (List.length_eq_zero_iff.not.mpr requested)
  -- Only the last request before the page behind the break moves anything.
  let random (visit request : Nat) : Shuffle Song :=
    if visit = index + 1 ∧ request = last then Shuffle.redirect api.allSongs other target
    else Shuffle.identity
  have still : ∀ visit, visit ≠ index + 1 → ∀ songs : List Song,
      visitOrder false (random visit) (requests visit) songs = songs := by
    intro visit elsewhere songs
    exact mix_identity fun request _ => if_neg fun both => elsewhere both.1
  have moved : visitOrder false (random (index + 1)) (requests (index + 1)) api.allSongs = other := by
    rw [visitOrder, length]
    change mix (last + 1) (random (index + 1)) api.allSongs = other
    rw [mix_succ, mix_identity fun request below =>
      if_neg fun both => absurd both.2 (Nat.ne_of_lt below)]
    have chosen : random (index + 1) last = Shuffle.redirect api.allSongs other target :=
      if_pos ⟨rfl, rfl⟩
    rw [chosen, Shuffle.redirect_apply]
  have early : ∀ visit, visit < index + 1 →
      orders false random requests api.allSongs visit = api.allSongs := by
    intro visit below
    have first : orders false random requests api.allSongs 0 = api.allSongs := still 0 (by omega) _
    exact (orders_still (Nat.zero_le visit) fun later _ upTo => still later (by omega)).trans first
  have late : ∀ visit, index + 1 ≤ visit →
      orders false random requests api.allSongs visit = other := by
    intro visit beyond
    have atBreak : orders false random requests api.allSongs (index + 1) = other := by
      rw [orders, early index (Nat.lt_succ_self _), moved]
    exact (orders_still beyond fun later after _ => still later (by omega)).trans atBreak
  refine ⟨random, ?_⟩
  have inside : index + 1 < pageCount 50 api.allSongs.length := by
    rw [← page_continues_iff (by decide)]
    obtain ⟨_, _, _, _, _, _, _, below⟩ := straddled
    exact below.trans_le List.countP_le_length
  rw [seen_switch (sortedBy Song.titleKey api.allSongs) other inside
    (fun visit below => by rw [lists, early visit below]; rfl)
    (fun visit beyond => by
      rw [lists, late visit beyond]
      exact sortedBy_eq_self otherSorted)]
  exact fun complete => repeated (complete.trans sortedBy_perm.symm)

end Plain

/-- Whatever the shuffled requests draw, a reader of the plain view is shown the whole
library once, in title order, and on as many pages as it needs, if and only if no title
of two different songs straddles a page break behind which one of them is made. -/
theorem songs_unaffected_by_shuffles_iff {api : GMusic} (browsable : api.Browsable)
    (requests : Nat → List (String × Int)) :
    (∀ random, Reads api random requests "Songs" false
        fun containers => ShowsLibrary api containers ∧ InTitleOrder containers) ↔
      ∀ index, requests (index + 1) ≠ [] →
        ¬ Straddled Song.titleKey api.allSongs ((index + 1) * 50) := by
  constructor
  · intro reads index requested straddled
    obtain ⟨random, repeated⟩ := exists_plain_repeat requests requested straddled
    exact repeated ((plain_reads_iff browsable).mp (reads random))
  · exact fun apart random => (plain_reads_iff browsable).mpr (plain_seen_perm apart)

theorem songs_of_fiftyOne :
    (∀ random, Reads (.loadedWith fiftyOneSongs) random (fun _ => [("Shuffle All", 1)]) "Songs" false
        fun containers =>
          ShowsLibrary (.loadedWith fiftyOneSongs) containers ∧ InTitleOrder containers) ↔
      ∀ index : Nat, [("Shuffle All", (1 : Int))] ≠ [] →
        ¬ Straddled Song.titleKey (GMusic.loadedWith fiftyOneSongs).allSongs ((index + 1) * 50) :=
  songs_unaffected_by_shuffles_iff fiftyOneSongs_browsable _

/-- A shuffled page between page 1 and page 2 of fifty-one songs of one title. -/
theorem shuffle_repeats_a_song :
    ¬ ∀ random, Reads (.loadedWith fiftyOneSongs) random
      (fun index => if index = 1 then [("Shuffle All", 1)] else []) "Songs" false
      fun containers =>
        ShowsLibrary (.loadedWith fiftyOneSongs) containers ∧ InTitleOrder containers := by
  intro reads
  have oneTitle : ∀ song ∈ fiftyOneSongs, song.titleKey = Song.sample.titleKey := by
    intro song member
    obtain ⟨_, _, rfl⟩ := List.mem_map.mp member
    rfl
  have straddled : Straddled Song.titleKey fiftyOneSongs 50 := by
    refine ⟨{ Song.sample with id := some "i" }, by decide, { Song.sample with id := some "ii" },
      by decide, by decide, rfl, ?_, ?_⟩
    · have none : fiftyOneSongs.countP (fun song => song.titleKey < Song.sample.titleKey) = 0 :=
        List.countP_eq_zero.mpr fun song member => by simp [oneTitle song member]
      exact none ▸ (by decide)
    · have all : fiftyOneSongs.countP (fun song => song.titleKey ≤ Song.sample.titleKey) =
          fiftyOneSongs.length :=
        List.countP_eq_length.mpr fun song member => by simp [oneTitle song member]
      exact all ▸ (by decide)
  have requested : (if 0 + 1 = 1 then [("Shuffle All", (1 : Int))] else []) ≠ [] := by decide
  obtain ⟨random, repeated⟩ := exists_plain_repeat
    (fun index => if index = 1 then [("Shuffle All", 1)] else []) requested
    (fiftyOneSongs_loaded ▸ straddled)
  exact repeated ((plain_reads_iff fiftyOneSongs_browsable).mp (reads random))

section Shuffled

variable {api : GMusic} {random : Nat → Nat → Shuffle Song}

theorem shuffled_seen_perm
    (small : api.allSongs.length ≤ 50 ∨ ∀ first ∈ api.allSongs, ∀ second ∈ api.allSongs,
      first = second) :
    (seen api true random fun _ => []).Perm api.allSongs := by
  have perm : ∀ visit, (lists true random (fun _ => []) api.allSongs visit).Perm api.allSongs :=
    fun _ => lists_perm
  apply seen_perm
  intro visit
  rcases small with short | equal
  · have past : ∀ other, ((lists true random (fun _ => []) api.allSongs other).drop
        ((visit + 1) * 50)) = [] := by
      intro other
      apply List.drop_eq_nil_of_le
      rw [(perm other).length_eq]
      omega
    rw [past, past]
  · have same : lists true random (fun _ => []) api.allSongs visit =
        lists true random (fun _ => []) api.allSongs (visit + 1) := by
      apply List.ext_getElem (((perm visit).trans (perm (visit + 1)).symm).length_eq)
      intro position inside inside'
      exact equal _ ((perm visit).mem_iff.mp (List.getElem_mem inside)) _
        ((perm (visit + 1)).mem_iff.mp (List.getElem_mem inside'))
    rw [same]

/-- Two different songs in a library of more than one page: the first draw puts them on
the two sides of the first page break, and the second exchanges them. -/
theorem exists_shuffled_repeat {first second : Song} (large : 50 < api.allSongs.length)
    (inside : first ∈ api.allSongs) (inside' : second ∈ api.allSongs) (different : first ≠ second) :
    ∃ random, ¬ (seen api true random fun _ => []).Perm api.allSongs := by
  obtain ⟨rest, perm⟩ : ∃ rest, api.allSongs.Perm (first :: second :: rest) := by
    have others := List.perm_cons_erase inside
    have member : second ∈ api.allSongs.erase first :=
      (List.mem_erase_of_ne different.symm).mpr inside'
    exact ⟨_, others.trans ((List.perm_cons_erase member).cons first)⟩
  have apart : (first :: (rest ++ [second])).Perm api.allSongs :=
    ((List.perm_append_singleton second rest).cons first).trans perm.symm
  have length := apart.length_eq
  rw [List.length_cons, List.length_append, List.length_singleton] at length
  have before : first ∈ (first :: (rest ++ [second])).take 50 := by simp
  have after : second ∈ (first :: (rest ++ [second])).drop 50 := by
    rw [List.drop_succ_cons, List.drop_append_of_le_length (by omega)]
    exact List.mem_append_right _ (List.mem_singleton_self second)
  obtain ⟨other, exchanged, _, repeated⟩ := exists_exchange before after different
  let random (visit _ : Nat) : Shuffle Song :=
    if visit = 0 then Shuffle.redirect api.allSongs _ apart
    else if visit = 1 then Shuffle.redirect _ other exchanged
    else Shuffle.identity
  have start : orders true random (fun _ => []) api.allSongs 0 = first :: (rest ++ [second]) :=
    Shuffle.redirect_apply apart
  have next : orders true random (fun _ => []) api.allSongs 1 = other := by
    rw [orders, start]
    exact Shuffle.redirect_apply exchanged
  have still : ∀ later, 1 < later → ∀ songs : List Song,
      visitOrder true (random later) [] songs = songs := by
    intro later beyond songs
    have chosen : random later = fun _ => Shuffle.identity := by
      funext request
      exact (if_neg (by omega)).trans (if_neg (by omega))
    rw [chosen]
    rfl
  have late : ∀ visit, 1 ≤ visit → orders true random (fun _ => []) api.allSongs visit = other :=
    fun visit beyond => (orders_still beyond fun later after _ => still later after).trans next
  refine ⟨random, ?_⟩
  have pages : 1 < pageCount 50 api.allSongs.length := by
    rw [← Nat.zero_add 1, ← page_continues_iff (by decide)]
    omega
  rw [seen_switch (first :: (rest ++ [second])) other pages
    (fun visit below => by
      obtain rfl : visit = 0 := by omega
      exact start)
    (fun visit beyond => by exact late visit beyond)]
  exact fun complete => repeated (complete.trans apart.symm)

end Shuffled

/-- Whatever the draws, a reader of the shuffled view is shown the whole library once on
as many pages as it needs, if and only if one page holds it or its songs are all equal. -/
theorem shuffle_plays_library_iff {api : GMusic} (browsable : api.Browsable) :
    (∀ random, Reads api random (fun _ => []) "Shuffle All" true (ShowsLibrary api)) ↔
      api.allSongs.length ≤ 50 ∨ ∀ first ∈ api.allSongs, ∀ second ∈ api.allSongs,
        first = second := by
  constructor
  · intro reads
    by_contra large
    simp only [not_or, not_le, not_forall] at large
    obtain ⟨large, first, inside, second, inside', different⟩ := large
    obtain ⟨random, repeated⟩ := exists_shuffled_repeat large inside inside' different
    exact repeated ((reads_library_iff _ browsable).mp (reads random))
  · exact fun small random => (reads_library_iff _ browsable).mpr (shuffled_seen_perm small)

theorem shuffle_of_fiftyOne :
    (∀ random, Reads (.loadedWith fiftyOneSongs) random (fun _ => []) "Shuffle All" true
        (ShowsLibrary (.loadedWith fiftyOneSongs))) ↔
      (GMusic.loadedWith fiftyOneSongs).allSongs.length ≤ 50 ∨
        ∀ first ∈ (GMusic.loadedWith fiftyOneSongs).allSongs,
          ∀ second ∈ (GMusic.loadedWith fiftyOneSongs).allSongs, first = second :=
  shuffle_plays_library_iff fiftyOneSongs_browsable

/-- The second page of fifty-one songs is cut from another order than the first. -/
theorem reshuffle_repeats_a_song :
    ¬ ∀ random, Reads (.loadedWith fiftyOneSongs) random (fun _ => []) "Shuffle All" true
      (ShowsLibrary (.loadedWith fiftyOneSongs)) := by
  intro reads
  have first : { Song.sample with id := some "i" } ∈ (GMusic.loadedWith fiftyOneSongs).allSongs := by
    rw [fiftyOneSongs_loaded]
    decide
  have second : { Song.sample with id := some "ii" } ∈ (GMusic.loadedWith fiftyOneSongs).allSongs := by
    rw [fiftyOneSongs_loaded]
    decide
  obtain ⟨random, repeated⟩ :=
    exists_shuffled_repeat (by rw [fiftyOneSongs_loaded]; decide) first second (by decide)
  exact repeated ((reads_library_iff _ fiftyOneSongs_browsable).mp (reads random))

end GoogleMusic
