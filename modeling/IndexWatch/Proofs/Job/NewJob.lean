import IndexWatch.Job.Reader
import IndexWatch.Proofs.Json.Lexemes
import IndexWatch.Proofs.Json.Reading
import IndexWatch.Proofs.Text.Wire

namespace IndexWatch

namespace KeyMap

theorem eq_empty_of_isEmpty {β : Type} {m : KeyMap β} (h : m.isEmpty) : m = .empty :=
  ext (List.isEmpty_iff.1 h)

end KeyMap

namespace NewJob

open Json (Tree)
open Json.Reader

variable {n m : NewJob} {room : Nat}

-- The data as they are written, if there are any.
def dataTree (n : NewJob) : Tree := .object (n.data.map Tree.string).entries

theorem isIntegral_toTree : n.toTree.IsIntegral := by
  have hdata : n.dataTree.IsIntegral :=
    Tree.isIntegral_object_iff.2 (List.forall_mem_map.2 fun _ _ => Tree.isIntegral_string)
  rw [toTree, Tree.isIntegral_object_iff, List.forall_mem_cons]
  refine ⟨Tree.isIntegral_string, ?_⟩
  split
  case isTrue  => exact nofun
  case isFalse => exact List.forall_mem_singleton.2 hdata

theorem readData_reads : Reads (readData (room + 1)) n.dataTree.tokens n.data := by
  have hg : Gathers (gather string) .empty (n.data.map Tree.string).entries n.data :=
    gathers_gather fun e _ => string_reads e.2
  rw [dataTree, Tree.tokens_object]
  exact Reads.peek (Reads.advance (members_reads hg))

-- The drafts before and behind the members of a request.
theorem gathers : Gathers (Draft.step (room + 1)) {}
    (("type", .string n.type.name) :: if n.data.isEmpty then [] else [("data", n.dataTree)])
    ⟨some n.type, if n.data.isEmpty then none else some n.data⟩ := by
  let typed : Draft := { type := some n.type }
  have htype : Reads (Draft.step (room + 1) {} "type") (.colon :: (Tree.string n.type.name).tokens)
      typed := fun _ => rfl
  apply Gathers.cons htype
  split
  case isTrue  => exact .nil
  case isFalse =>
    have hdata : Reads (Draft.step (room + 1) typed "data") (.colon :: n.dataTree.tokens)
        { typed with data := some n.data } :=
      (once_reads "data" readData_reads).done (g := fun o => ({ typed with data := o } : Draft))
    exact .cons hdata .nil

theorem finish_reads :
    Reads (Draft.finish ⟨some n.type, if n.data.isEmpty then none else some n.data⟩) [] n := by
  have hdata : (if n.data.isEmpty then none else some n.data).getD .empty = n.data := by
    split
    case isTrue h => exact (KeyMap.eq_empty_of_isEmpty h).symm
    case isFalse  => rfl
  intro rest
  rw [Draft.finish, hdata]
  rfl

theorem read_reads : Reads (NewJob.read (room + 2)) n.toTree.tokens n := by
  have hr := (members_reads (@gathers n room)).bind finish_reads
  rw [List.append_nil] at hr
  rw [toTree, Tree.tokens_object]
  exact Reads.peek (Reads.advance hr)

theorem decode_encode (n : NewJob) : decode (.ofString n.encode) = .ok n := by
  apply Json.decode_eq
  rw [encode, WireText.ofString_ofList, Tree.lex_compact isIntegral_toTree]
  exact read_reads

theorem encode_inj (h : n.encode = m.encode) : n = m := by
  have hn := decode_encode n
  rw [h, decode_encode m] at hn
  exact (Except.ok.inj hn).symm

-- The bytes of the text, as they go over the wire.
theorem decode_utf8Bytes (n : NewJob) : decode (.ofBytes (utf8Bytes n.encode)) = .ok n := by
  rw [WireText.ofBytes_utf8Bytes, decode_encode]

end NewJob

end IndexWatch
