import ModuleHost.Machine.Call

/-!
# What a program comes to on its handles

`h.Ensures Q p d` says of a program `p` of module code that runs on handles `h` and host data `d`:
whatever state its module is in, it meets no fault, and where it ends, `Q` holds of its result (a
panic is one) and of the data. It goes through the ways in which programs are put together, so that
an entry point is looked at piece by piece.

`Serving` says what the views of a request entry may rely on: all of their callbacks are permitted.
-/
namespace ModuleHost

open Boundary

namespace Boundary.Handles

variable {α β : Type} {h : Handles} {Q Q' : Except Payload α → CallData → Prop}
  {p : ModuleProgram α} {d : CallData}

/-- A visit whose module code has these handles, where nothing else about it matters. -/
def visit (h : Handles) (d : CallData) : Visit := { proxy := false, given := h, data := d }

def Ensures (h : Handles) (Q : Except Payload α → CallData → Prop) :
    ModuleProgram α → CallData → Prop
  | .ret a, d => Q (.ok a) d
  | .panic q, d => Q (.error q) d
  | .ask o next, d => ∀ m : Module, ∃ a d' m' events,
      (h.visit d).perform m o = .ok (a, d', m', events) ∧ h.Ensures Q (next a) d'

/-- What an operation comes to depends on the handles and the data only. -/
theorem perform_visit (v : Visit) (m : Module) (o : ModuleOp) :
    v.perform m o = (v.given.visit v.data).perform m o := by
  cases o <;> simp only [Visit.perform, visit]

theorem Ensures.mono (he : h.Ensures Q p d) (hq : ∀ r d, Q r d → Q' r d) : h.Ensures Q' p d := by
  induction p generalizing d with
  | ret a | panic q => exact hq _ _ he
  | ask o next ih =>
    intro m
    obtain ⟨a, d', m', events, perform, rest⟩ := he m
    exact ⟨a, d', m', events, perform, ih a rest⟩

theorem Ensures.bind {f : α → ModuleProgram β} {R : Except Payload β → CallData → Prop}
    (he : h.Ensures Q p d) (hok : ∀ a d, Q (.ok a) d → h.Ensures R (f a) d)
    (herror : ∀ q d, Q (.error q) d → R (.error q) d) : h.Ensures R (p.bind f) d := by
  induction p generalizing d with
  | ret a => exact hok a d he
  | panic q => exact herror q d he
  | ask o next ih =>
    intro m
    obtain ⟨a, d', m', events, perform, rest⟩ := he m
    exact ⟨a, d', m', events, perform, ih a rest⟩

/-! ## Single operations -/

/-- A permitted callback does what the host does for it. -/
theorem ensures_host {c : HostCall} (permit : h.permit c = .ok ()) (d : CallData) :
    h.Ensures (fun r d' => r = .ok (d.answer c).1 ∧ d' = (d.answer c).2.1) (ModuleProgram.host c)
      d := by
  intro m
  have performed : (h.visit d).perform m (.host c) =
      .ok ((d.answer c).1, (d.answer c).2.1, m, (d.answer c).2.2.map Event.notice) := by
    simp only [Visit.perform, visit, permit]
  exact ⟨_, _, _, _, performed, rfl, rfl⟩

/-- A permitted callback, and then what is made of its answer. -/
theorem ensures_read {c : HostCall} {f : c.Answer → ModuleProgram α} (permit : h.permit c = .ok ())
    (d : CallData) (read : h.Ensures Q (f (d.answer c).1) (d.answer c).2.1) :
    h.Ensures Q ((ModuleProgram.host c).bind f) d := by
  refine (ensures_host permit d).bind ?_ ?_
  · rintro a d' ⟨answer, rfl⟩
    cases answer
    exact read
  · rintro q d' ⟨answer, -⟩
    cases answer

/-- What module code does on its own leaves the host data as they are. -/
theorem ensures_own (o : SelfOp) (d : CallData) :
    h.Ensures (fun r d' => (∃ a, r = .ok a) ∧ d' = d) (ModuleProgram.own o) d :=
  fun _ => ⟨_, d, _, _, rfl, ⟨_, rfl⟩, rfl⟩

end Boundary.Handles

/-! ## The handles of a request entry -/

/-- Whether all views have a callback. -/
def Boundary.HostCall.IsPlain : HostCall → Prop
  | .setUri _ | .setTarget _ => False
  | _ => True

/-- Handles of which the views of an entry can be made, and what these views can then rely on. A
target may be missing. -/
structure Boundary.Handles.Serving (proxy : Bool) (h : Handles) : Prop where
  views : views? proxy h = .ok true
  plain : ∀ c : HostCall, c.IsPlain → h.permit c = .ok ()
  uri : proxy = true → ∀ u, h.permit (.setUri u) = .ok ()
  target : ∀ t, h.target = some t → t.isLive = true ∧ ∀ a, h.permit (.setTarget a) = .ok ()

theorem Call.serving_handles (proxy : Bool) : (handles proxy).Serving proxy := by
  cases proxy with
  | false =>
    refine ⟨rfl, fun c hc => ?_, fun h => (by cases h), fun t ht => (by cases ht)⟩
    cases c with
    | setUri | setTarget => exact hc.elim
    | method | uri | header | body | status | setStatus | setHeader | writeBody => rfl
  | true =>
    refine ⟨rfl, fun c hc => ?_, fun _ u => rfl, fun t ht => ?_⟩
    · cases c with
      | setUri | setTarget => exact hc.elim
      | method | uri | header | body | status | setStatus | setHeader | writeBody => rfl
    · cases ht
      exact ⟨rfl, fun a => rfl⟩

end ModuleHost
