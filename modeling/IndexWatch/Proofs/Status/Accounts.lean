import IndexWatch.Proofs.Status.History
import IndexWatch.Proofs.Status.PollLoop

namespace IndexWatch.Controller

variable {c d : Controller} {t : Task} {trace : List Occurrence} {e : Event} {es : List Event}

section

variable {settings : StatusSettings} {analytics : Analytics Unit}

theorem life_begun (h : (life settings analytics es).1.store.isDisposed = false) :
    Begun (life settings analytics es).1 es := by
  have hf : Looping (mount settings analytics).1 (some .start) := .on rfl (List.forall_mem_nil _)
  have hb : Begun (mount settings analytics).1 [] := .fresh hf List.not_mem_nil
  exact life_steps.begun h hb

end

end IndexWatch.Controller
