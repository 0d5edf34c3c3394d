import ModuleHost.Proofs.Demo.Calls
import ModuleHost.Proofs.Entry.Handling

/-!
# The answer of the demo module

Whatever the demo is told when it prints, a request that its handler serves comes back with the demo's
answer, and on handles that the host has made nothing can keep it from that (`Follows.served`): the
answered data are what the handler's program yields (`handle_yields`), and the handler asks for nothing
that a request does not grant (`handle_reads`).
-/
namespace ModuleHost

open Text Boundary

namespace Demo

theorem handle_reads : handle.Asks ViewOp.ReadsUri := by
  have answer_reads : answer.Asks ViewOp.ReadsUri := by
    refine ⟨trivial, fun _ => ⟨trivial, fun _ => ⟨trivial, fun body => ⟨trivial, fun _ =>
      ⟨trivial, fun _ => ⟨trivial, fun _ => ⟨trivial, fun written => ?_⟩⟩⟩⟩⟩⟩⟩
    cases written with
    | ok u => exact ⟨trivial, fun _ => trivial⟩
    | error e => exact ⟨trivial, fun _ => ⟨trivial, fun _ => trivial⟩⟩
  rw [handle_eq]
  refine ⟨trivial, fun stored => ?_⟩
  cases stored with
  | ok u => exact answer_reads
  | error e => exact ⟨trivial, fun _ => answer_reads⟩

/-- The data of a request that was answered. -/
def answeredData (d : CallData) : CallData := { d with response := answered d.response }

end Demo

namespace System

open Demo

variable {s s' : System} {t j : Nat} {v v' : Visit} {log : List Event}

/-- **A request that the demo's handler serves is answered**, whatever the handler is told when it
prints and whatever others do: where its entry has come back, the answer is there; and on handles that
the host has made, the thread can bring it there from wherever it is in the handler. -/
theorem Follows.served (hr : Run s) (code : s.HasHandler j handler) (enters : s.Enters t j v)
    (request : v.proxy = false) (follows : s.Follows t s') (here : s'.Attends t j v')
    (grown : s'.threadLog t = s.threadLog t ++ log) (begun : Begun log) :
    (v'.stage = .returned → v'.data = answeredData v.data) ∧
      (v.handles.Sound → ∃ s'' v'', s'.Comes t s'' ∧ s''.Attends t j v'' ∧ v''.stage = .returned ∧
        v''.data = answeredData v.data) := by
  have yields : (handler.guarded v.proxy v.errand v.handles).Yields v.data
      ({line v.data.request ++ "\n"}, 1) (· = answeredData v.data) := by
    rw [request]
    exact handle_yields v.data
  exact follows.delivers hr code (fun _ _ _ => rfl) enters handle_reads yields here grown begun

end System

end ModuleHost
