import Mathlib.Data.List.Nodup
import Mathlib.Data.List.Perm.Basic

/-! # Rows that are named by links

A row of nodes can be told by naming, in every node, the node before it and the node
after it.  The order in which such nodes are listed then carries nothing: the row is
found again from the links, in any shuffle of the nodes.
-/

namespace Foundation

structure Node (ι α : Type) where
  name : ι
  prev : Option ι
  next : Option ι
  value : α
deriving DecidableEq

namespace Node

variable {ι α : Type}

def nameOfHead (row : List (Node ι α)) : Option ι := row.head?.map name

/-- Every node names its two neighbours, the first of the row naming `before`. -/
def Linked : Option ι → List (Node ι α) → Prop
  | _, [] => True
  | before, node :: row => node.prev = before ∧ node.next = nameOfHead row ∧ Linked (some node.name) row

/-- The nodes from the one called `name` on, `fuel` of them at most. -/
def follow [DecidableEq ι] (nodes : List (Node ι α)) : Nat → Option ι → List (Node ι α)
  | 0, _ => []
  | _ + 1, none => []
  | fuel + 1, some name =>
      match nodes.find? fun node => node.name = name with
      | none => []
      | some node => node :: follow nodes fuel node.next

/-- The row that `nodes` tell, from the node without a predecessor on. -/
def assemble [DecidableEq ι] (nodes : List (Node ι α)) : List (Node ι α) :=
  follow nodes nodes.length ((nodes.find? fun node => node.prev.isNone).map name)

theorem find?_of_unique {β : Type} {items : List β} {test : β → Bool} {item : β} (member : item ∈ items)
    (passes : test item = true) (unique : ∀ other ∈ items, test other = true → other = item) :
    items.find? test = some item := by
  cases found : items.find? test with
  | none => exact absurd passes (by simpa using List.find?_eq_none.mp found item member)
  | some other =>
      have same := unique other (List.mem_of_find?_eq_some found) (List.find?_some found)
      rw [same]

section Rows

variable {row nodes back : List (Node ι α)} {node : Node ι α} {before : Option ι}

/-- Only the first node of a row can be without a predecessor. -/
theorem Linked.prev_isSome {name : ι} (linked : Linked (some name) row) (member : node ∈ row) :
    node.prev.isNone = false := by
  induction row generalizing name with
  | nil => cases member
  | cons first row ih =>
      rcases List.mem_cons.mp member with rfl | member
      · rw [linked.1]
        rfl
      · exact ih linked.2.2 member

theorem find?_name [DecidableEq ι] (names : (nodes.map name).Nodup) (member : node ∈ nodes) :
    nodes.find? (fun other => other.name = node.name) = some node :=
  find?_of_unique member (by simp) fun _ inside same =>
    List.inj_on_of_nodup_map names inside member (of_decide_eq_true same)

theorem follow_back [DecidableEq ι] (names : (nodes.map name).Nodup)
    (members : ∀ node ∈ back, node ∈ nodes) (linked : Linked before back) :
    follow nodes back.length (nameOfHead back) = back := by
  induction back generalizing before with
  | nil => rfl
  | cons node back ih =>
      obtain ⟨_, goes, rest⟩ := linked
      have found := find?_name names (members node List.mem_cons_self)
      change follow nodes (back.length + 1) (some node.name) = node :: back
      simp only [follow, found, goes]
      exact congrArg (node :: ·) (ih (fun other inside => members other (List.mem_cons_of_mem _ inside)) rest)

/-- A row is found again from its links, in whatever order its nodes are given. -/
theorem assemble_of_perm [DecidableEq ι] (linked : Linked none row) (names : (row.map name).Nodup)
    (shuffled : nodes.Perm row) : assemble nodes = row := by
  have distinct : (nodes.map name).Nodup := (shuffled.map name).nodup_iff.mpr names
  rw [assemble, shuffled.length_eq]
  cases row with
  | nil =>
      rw [shuffled.eq_nil]
      rfl
  | cons first row =>
      have starts : nodes.find? (fun node => node.prev.isNone) = some first := by
        refine find?_of_unique (shuffled.mem_iff.mpr List.mem_cons_self) ?_ fun other inside none => ?_
        · rw [linked.1]
          rfl
        · rcases List.mem_cons.mp (shuffled.mem_iff.mp inside) with same | later
          · exact same
          · have some := linked.2.2.prev_isSome later
            simp [some] at none
      rw [starts]
      exact follow_back distinct (fun node inside => shuffled.mem_iff.mpr inside) linked

end Rows

end Node

end Foundation
