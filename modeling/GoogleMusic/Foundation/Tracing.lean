import GoogleMusic.Foundation.Erasure
import GoogleMusic.Foundation.Triples

namespace Foundation

structure Traced (σ ι : Type) where
  inner : σ
  known : List ι
  /-- What was asked for while no answer had named it. -/
  strays : List ι

namespace Traced

open Exec

variable {σ ι ε α : Type}

/-- Keeps account of all that answers have named so far, and of what was asked for before any
answer had named it. -/
def trace [DecidableEq ι] (asks : List ι) (names : α → List ι) (body : Exec σ ε α) :
    Exec (Traced σ ι) ε α := ⟨fun traced =>
  let strays := traced.strays ++ asks.filter fun name => name ∉ traced.known
  match body.run traced.inner with
  | (.ok value, inner) => (.ok value, { inner, known := traced.known ++ names value, strays })
  | (.error reason, inner) => (.error reason, { inner, known := traced.known, strays })⟩

/-- The names are known, those of `floor` among them, and nothing was asked for but what
was known or is `exempt`. -/
structure Sound (floor : List ι) (exempt : ι → Prop) (traced : Traced σ ι) : Prop where
  known : ∀ name ∈ floor, name ∈ traced.known
  strays : ∀ name ∈ traced.strays, exempt name

variable {floor asks : List ι} {exempt : ι → Prop} {names : α → List ι} {body : Exec σ ε α}
variable {traced : Traced σ ι}

theorem trace_erases [DecidableEq ι] (asks : List ι) (names : α → List ι) (body : Exec σ ε α) :
    Erases inner (trace asks names body) body := by
  intro traced
  rw [trace]
  cases ran : body.run traced.inner with
  | mk outcome after => cases outcome <;> simp only [ran]

theorem Sound.append (sound : traced.Sound floor exempt) {more : List ι}
    (known : ∀ name ∈ more, name ∈ traced.known) : traced.Sound (floor ++ more) exempt where
  known name member := (List.mem_append.mp member).elim (sound.known name) (known name)
  strays := sound.strays

theorem Sound.left {more : List ι} (sound : traced.Sound (floor ++ more) exempt) :
    traced.Sound floor exempt where
  known name member := sound.known name (List.mem_append_left more member)
  strays := sound.strays

/-- A request that asks for what is known adds what its answer names. -/
theorem trace_ensures [DecidableEq ι] (known : ∀ name ∈ asks, name ∈ floor ∨ exempt name) :
    Ensures (Sound floor exempt) (trace asks names body)
      (fun value => Sound (floor ++ names value) exempt) (Sound floor exempt) := by
  intro traced sound
  have asked : ∀ name ∈ traced.strays ++ asks.filter fun name => name ∉ traced.known, exempt name := by
    intro name member
    rcases List.mem_append.mp member with earlier | new
    · exact sound.strays name earlier
    · obtain ⟨wanted, unknown⟩ := List.mem_filter.mp new
      apply (known name wanted).resolve_left
      intro inside
      exact (of_decide_eq_true unknown) (sound.known name inside)
  rw [trace]
  cases ran : body.run traced.inner with
  | mk outcome after =>
      cases outcome with
      | error reason =>
          simp only [ran]
          exact ⟨sound.known, asked⟩
      | ok value =>
          simp only [ran]
          refine ⟨fun name member => ?_, asked⟩
          rcases List.mem_append.mp member with old | new
          · exact List.mem_append_left _ (sound.known name old)
          · exact List.mem_append_right _ new

end Traced

end Foundation
