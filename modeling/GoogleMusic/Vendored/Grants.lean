import GoogleMusic.Vendored.Client
import Mathlib.Data.List.Induction
import Mathlib.Data.List.TakeWhile

namespace GoogleMusic

open Foundation

/-- The line is of the key, with a value or without. -/
def Names (key : String) (line : List Char) : Prop := line = key.toList ∨ key.toList ++ ['='] <+: line

/-- The last line of the key has the value behind its `=`, or is the key alone. -/
def Grants (text key val : String) : Prop :=
  ∃ before line after, text.toList.splitOn '\n' = before ++ line :: after ∧
    (line = key.toList ∧ val = "" ∨ line = key.toList ++ '=' :: val.toList) ∧
    ∀ other ∈ after, ¬ Names key other

section Lines

variable {line : List Char} {key val : String}

theorem partitionLine_joined (plain : '=' ∉ key.toList) (val : String) :
    partitionLine (key.toList ++ '=' :: val.toList) = (key, val) := by
  have passes : ∀ character ∈ key.toList, (character != '=') = true := by
    intro character member
    exact bne_iff_ne.mpr fun same => plain (same ▸ member)
  rw [partitionLine, List.takeWhile_append_of_pos passes, List.dropWhile_append_of_pos passes]
  simp

theorem partitionLine_bare (plain : '=' ∉ key.toList) : partitionLine key.toList = (key, "") := by
  have passes : ∀ character ∈ key.toList, (character != '=') = true := by
    intro character member
    exact bne_iff_ne.mpr fun same => plain (same ▸ member)
  rw [partitionLine, List.takeWhile_eq_self_iff.mpr passes, List.dropWhile_eq_nil_iff.mpr passes]
  simp

theorem partitionLine_shape (line : List Char) : line = (partitionLine line).1.toList ∨
    line = (partitionLine line).1.toList ++ '=' :: (partitionLine line).2.toList := by
  have split := List.takeWhile_append_dropWhile (p := fun character => character != '=') (l := line)
  simp only [partitionLine, String.toList_ofList]
  cases rest : line.dropWhile fun character => character != '=' with
  | nil =>
      rw [rest, List.append_nil] at split
      exact Or.inl split.symm
  | cons character val =>
      have stops := List.head?_dropWhile_not (fun character => character != '=') line
      rw [rest] at split stops
      obtain rfl : character = '=' := by simpa using stops
      exact Or.inr split.symm

theorem partitionLine_eq_iff (plain : '=' ∉ key.toList) : partitionLine line = (key, val) ↔
    (line = key.toList ∧ val = "" ∨ line = key.toList ++ '=' :: val.toList) := by
  constructor
  · intro read
    have shape := partitionLine_shape line
    rw [read] at shape
    rcases shape with bare | joined
    · have alone := partitionLine_bare plain
      rw [← bare, read, Prod.mk.injEq] at alone
      exact Or.inl ⟨bare, alone.2⟩
    · exact Or.inr joined
  · rintro (⟨rfl, rfl⟩ | rfl)
    · exact partitionLine_bare plain
    · exact partitionLine_joined plain val

theorem partitionLine_fst_iff (plain : '=' ∉ key.toList) :
    (partitionLine line).1 = key ↔ Names key line := by
  constructor
  · rintro rfl
    rcases partitionLine_shape line with bare | joined
    · exact Or.inl bare
    · refine Or.inr ⟨(partitionLine line).2.toList, ?_⟩
      rw [List.append_assoc]
      exact joined.symm
  · rintro (rfl | ⟨val, rfl⟩)
    · rw [partitionLine_bare plain]
    · have joined := partitionLine_joined plain (String.ofList val)
      rw [String.toList_ofList] at joined
      rw [List.append_assoc, List.singleton_append, joined]

end Lines

/-- The body of the loop of `parse_auth_response`. -/
def record (responseData : Dictionary String String) (line : List Char) : Dictionary String String :=
  if line = [] then responseData
  else responseData.insert (partitionLine line).1 (partitionLine line).2

section Texts

variable {line : List Char} {key val text : String}

theorem record_lookup (plain : '=' ∉ key.toList) (filled : key ≠ "")
    (responseData : Dictionary String String) (line : List Char) :
    (Names key line → (record responseData line).lookup key = some (partitionLine line).2) ∧
      (¬ Names key line → (record responseData line).lookup key = responseData.lookup key) := by
  rw [← partitionLine_fst_iff plain]
  by_cases empty : line = []
  · subst empty
    exact ⟨fun same => absurd same.symm filled, fun _ => rfl⟩
  · rw [record, if_neg empty]
    refine ⟨?_, fun other => AList.lookup_insert_ne (Ne.symm other)⟩
    rintro rfl
    exact AList.lookup_insert _

theorem concat_eq_append_cons {lines before after : List (List Char)} {last : List Char}
    (split : lines ++ [last] = before ++ line :: after) :
    after = [] ∧ line = last ∨ ∃ rest, after = rest ++ [last] ∧ lines = before ++ line :: rest := by
  cases after using List.reverseRecOn with
  | nil =>
      obtain ⟨_, same⟩ := List.append_inj' split rfl
      cases same
      exact Or.inl ⟨rfl, rfl⟩
  | append_singleton rest final =>
      rw [← List.cons_append, ← List.append_assoc] at split
      obtain ⟨rfl, same⟩ := List.append_inj' split rfl
      cases same
      exact Or.inr ⟨rest, rfl, rfl⟩

/-- The last line of a key counts. -/
theorem foldl_record_lookup (plain : '=' ∉ key.toList) (filled : key ≠ "") (lines : List (List Char)) :
    (lines.foldl record ∅).lookup key = some val ↔ ∃ before line after,
      lines = before ++ line :: after ∧ partitionLine line = (key, val) ∧
        ∀ other ∈ after, ¬ Names key other := by
  induction lines using List.reverseRecOn with
  | nil => simp
  | append_singleton lines last ih =>
      rw [List.foldl_append, List.foldl_cons, List.foldl_nil]
      obtain ⟨named, unnamed⟩ := record_lookup plain filled (lines.foldl record ∅) last
      by_cases names : Names key last
      · rw [named names, Option.some.injEq]
        constructor
        · rintro rfl
          exact ⟨lines, last, [], rfl, Prod.ext ((partitionLine_fst_iff plain).mpr names) rfl, nofun⟩
        · rintro ⟨before, line, after, split, read, others⟩
          rcases concat_eq_append_cons split with ⟨_, rfl⟩ | ⟨rest, rfl, _⟩
          · rw [read]
          · exact absurd names (others last (by simp))
      · rw [unnamed names, ih]
        constructor
        · rintro ⟨before, line, after, rfl, read, others⟩
          refine ⟨before, line, after ++ [last], by simp, read, fun other member => ?_⟩
          rcases List.mem_append.mp member with inside | final
          · exact others other inside
          · exact List.mem_singleton.mp final ▸ names
        · rintro ⟨before, line, after, split, read, others⟩
          rcases concat_eq_append_cons split with ⟨_, rfl⟩ | ⟨rest, rfl, rfl⟩
          · exact absurd ((partitionLine_fst_iff plain).mp (congrArg Prod.fst read)) names
          · exact ⟨before, line, rest, rfl, read,
              fun other member => others other (List.mem_append_left _ member)⟩

theorem parseAuthResponse_eq (text : String) :
    parseAuthResponse text = (text.toList.splitOn '\n').foldl record ∅ := rfl

theorem parseAuthResponse_lookup (plain : '=' ∉ key.toList) (filled : key ≠ "") :
    (parseAuthResponse text).lookup key = some val ↔ Grants text key val := by
  simp only [parseAuthResponse_eq, foldl_record_lookup plain filled, partitionLine_eq_iff plain, Grants]

end Texts

theorem grants_token (text val : String) :
    (parseAuthResponse text).lookup "Token" = some val ↔ Grants text "Token" val :=
  parseAuthResponse_lookup (by decide) (by decide)

theorem grants_auth (text val : String) :
    (parseAuthResponse text).lookup "Auth" = some val ↔ Grants text "Auth" val :=
  parseAuthResponse_lookup (by decide) (by decide)

/-- A login is granted exactly when the answer to its first request has a token to make the
second one with, and the answer to that one has a token for the requests to come. -/
theorem performLogin_grants_iff {ρ : Type} (service : Service ρ) (email password : String)
    (state : ρ) :
    (service.performLogin email password).Returns state true ↔
      ∃ master middle masterToken oauth authtoken,
        (service.performMasterLogin email password service.androidId).run state = (.ok master, middle) ∧
        Grants master "Token" masterToken ∧
        (service.performOauth email masterToken service.androidId).Returns middle oauth ∧
        Grants oauth "Auth" authtoken := by
  rw [Service.performLogin, Exec.returns_map_iff]
  constructor
  · rintro ⟨tokens, returned, some⟩
    obtain ⟨after, ran⟩ := Exec.returns_iff_run.mp returned
    obtain ⟨master, middle, first, rest⟩ := Exec.bind_returned ran
    cases token : (parseAuthResponse master).lookup "Token" with
    | none =>
        simp only [token, Exec.run_pure, Prod.mk.injEq, Except.ok.injEq] at rest
        obtain ⟨rfl, _⟩ := rest
        cases some
    | some masterToken =>
        simp only [token] at rest
        obtain ⟨oauth, last, second, rest⟩ := Exec.bind_returned rest
        cases auth : (parseAuthResponse oauth).lookup "Auth" with
        | none =>
            simp only [auth, Exec.run_pure, Prod.mk.injEq, Except.ok.injEq] at rest
            obtain ⟨rfl, _⟩ := rest
            cases some
        | some authtoken =>
            exact ⟨master, middle, masterToken, oauth, authtoken, first,
              (grants_token master masterToken).mp token, Exec.returns_iff_run.mpr ⟨last, second⟩,
              (grants_auth oauth authtoken).mp auth⟩
  · rintro ⟨master, middle, masterToken, oauth, authtoken, first, token, second, auth⟩
    obtain ⟨last, second⟩ := Exec.returns_iff_run.mp second
    refine ⟨some (masterToken, authtoken), ?_, rfl⟩
    simp only [Exec.Returns, Service.tokens, Exec.run_bind, first, second,
      (grants_token master masterToken).mpr token, (grants_auth oauth authtoken).mpr auth,
      Exec.run_pure]

def render (entries : List (String × String)) : String :=
  String.ofList (['\n'].intercalate (entries.map fun entry => entry.1.toList ++ '=' :: entry.2.toList))

/-- The separators stand in no key, and no entry goes over a line. -/
def Plain (entries : List (String × String)) : Prop :=
  ∀ entry ∈ entries, '=' ∉ entry.1.toList ∧ '\n' ∉ entry.1.toList ∧ '\n' ∉ entry.2.toList

theorem foldl_record_entries {entries : List (String × String)} (plain : Plain entries)
    (responseData : Dictionary String String) :
    (entries.map fun entry => entry.1.toList ++ '=' :: entry.2.toList).foldl record responseData =
      Dictionary.insertAll entries responseData := by
  induction entries generalizing responseData with
  | nil => rfl
  | cons entry entries ih =>
      obtain ⟨first, rest⟩ := List.forall_mem_cons.mp plain
      have added : record responseData (entry.1.toList ++ '=' :: entry.2.toList) =
          responseData.insert entry.1 entry.2 := by
        rw [record, if_neg (by simp), partitionLine_joined first.1]
      rw [List.map_cons, List.foldl_cons, added, ih rest]
      rfl

/-- A dictionary that is written out line by line reads back, with any `=` in the values, and
of two entries of one key with the later one. -/
theorem parseAuthResponse_render {entries : List (String × String)} (plain : Plain entries)
    (key : String) :
    (parseAuthResponse (render entries)).lookup key = entries.reverse.lookup key := by
  have lines : entries = [] ∨ (render entries).toList.splitOn '\n' =
      entries.map fun entry => entry.1.toList ++ '=' :: entry.2.toList := by
    by_cases none : entries = []
    · exact Or.inl none
    · rw [render, String.toList_ofList]
      refine Or.inr (List.splitOn_intercalate '\n' ?_ (by simpa using none))
      intro line member
      obtain ⟨entry, inside, rfl⟩ := List.mem_map.mp member
      obtain ⟨_, before, after⟩ := plain entry inside
      simp [before, after]
  rcases lines with rfl | lines
  · rfl
  · rw [parseAuthResponse_eq, lines, foldl_record_entries plain, Dictionary.lookup_insertAll,
      AList.lookup_empty, Option.or_none]

theorem parseAuthResponse_granted :
    (parseAuthResponse (render [("SID", "x"), ("Token", "old"), ("Token", "oauth2rt_1/a=b")])).lookup
      "Token" = some "oauth2rt_1/a=b" :=
  parseAuthResponse_render (by unfold Plain; decide) "Token"

end GoogleMusic
