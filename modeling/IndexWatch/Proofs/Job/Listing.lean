import IndexWatch.Proofs.Job.RoundTrip
import IndexWatch.Proofs.Json.Layout
import IndexWatch.Proofs.Selection

namespace IndexWatch.Job

open Json (Tree IsValue Spells)
open Json.Reader

variable {room : Nat} {jobs : List Job}

def listTokens (jobs : List Job) : List Json.Token := (Tree.array (jobs.map toTree)).tokens

-- Whether a list is told apart from every other one by what is written of it, and leaves room for
-- its brackets.
structure AreSound (room : Nat) (jobs : List Job) : Prop where
  faithful : ∀ j ∈ jobs, j.IsFaithful
  depth : (Tree.array (jobs.map toTree)).depth ≤ room

theorem readList_ensures : Ensures (readList room) (AreSound room) := by
  apply Ensures.next
  intro t
  split
  case h_2 => exact .reject
  case h_1 =>
    cases room
    case zero => exact .throw
    case succ room =>
      refine .next fun _ => (items_ensures read_ensures).mono fun jobs h => ?_
      exact ⟨fun j hj => (h j hj).1,
        Tree.depth_array_le_iff.2 (List.forall_mem_map.2 fun j hj => (h j hj).2)⟩

theorem AreSound.order (h : AreSound room jobs) : AreSound room (order jobs) where
  faithful := fun j hj => h.faithful j (order_perm.mem_iff.1 hj)
  depth    := by
    cases room
    case zero => exact absurd h.depth (Nat.not_succ_le_zero _)
    case succ room =>
      have hd := List.forall_mem_map.1 (Tree.depth_array_le_iff.1 h.depth)
      exact Tree.depth_array_le_iff.2
        (List.forall_mem_map.2 fun j hj => hd j (order_perm.mem_iff.1 hj))

-- A printed list with the end of its line spells the lexemes of the list.
theorem spells_prettyList (hi : ∀ j ∈ jobs, j.IsIntegral) :
    Spells (listTokens jobs) (prettyList jobs ++ "\n").toList := by
  have hlist : (Tree.array (jobs.map toTree)).IsIntegral :=
    Tree.isIntegral_array_iff.2 (List.forall_mem_map.2 fun j hj => isIntegral_toTree (hi j hj))
  have hend : Json.EndsNumber (WireText.ofChars ['\n']) := by simp [Json.EndsNumber]
  have h := Tree.lays_pretty hlist _ _ hend (.blank rfl .nil)
  rw [prettyList, String.toList_append, String.toList_ofList]
  rwa [List.append_nil] at h

theorem decodeList_prettyList (h : AreSound Json.maxDepth jobs) (hi : ∀ j ∈ jobs, j.IsIntegral) :
    decodeList (.ofBytes (utf8Bytes (prettyList jobs ++ "\n"))) = .ok jobs := by
  have hl : Json.lex (.ofString (prettyList jobs ++ "\n")) = listTokens jobs :=
    Json.lex_spelled (spells_prettyList hi)
  rw [WireText.ofBytes_utf8Bytes]
  exact Json.decode_eq (hl ▸ readList_reads h.faithful h.depth)

end IndexWatch.Job
