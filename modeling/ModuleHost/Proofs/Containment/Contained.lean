import ModuleHost.Proofs.Boundary.Direct
import ModuleHost.Proofs.Boundary.Window

/-!
# Handlers that do not panic

`Handler.contained` ends properly where the given handler panics: a start or a shutdown fails with
some text, a request leaves status 500 where it sees none, a proxy call chooses no address besides,
and a destructor just finishes. No callback of it panics (`contained_calm`).

What the entries run for the two handlers differs in nothing but silent operations: behind a panic,
the first one looks up what was requested and tells of the panic (`guarded_trims`).
-/
namespace ModuleHost

open Boundary

/-- What a handler does in place of a panic: it leaves status 500 where it sees none. -/
def View.settle : ViewProgram Unit :=
  (View.op .status).bind fun (status : UInt16) =>
    if status = 0 then View.op (.setStatus 500) else .ret ()

namespace SelfProgram

/-- The program that fails where the given one panics. -/
def failing (tell : Payload → String) (p : SelfProgram (Except String Unit)) :
    SelfProgram (Except String Unit) :=
  p.catchPanic fun q => .ret (.error (tell q))

/-- The program that finishes where the given one panics. -/
def finishing (p : SelfProgram Unit) : SelfProgram Unit := p.catchPanic fun _ => .ret ()

end SelfProgram

/-- The handler without its panics. `tell` makes the text of an error. -/
def Handler.contained (tell : Payload → String) (h : Handler) : Handler where
  init n := (h.init n).failing tell
  handle e := (h.handle e).catchPanic fun _ => View.settle
  proxy e := (h.proxy e).catchPanic fun _ => View.settle.bind fun _ => .ret none
  shutdown seen := (h.shutdown seen).failing tell
  drop := h.drop.finishing
  relay := h.relay

/-- A handler none of whose callbacks panics, whatever the answers that it gets. -/
structure Handler.Calm (h : Handler) : Prop where
  init : ∀ n, (h.init n).Calm fun _ _ => True
  handle : ∀ e, (h.handle e).Calm fun _ _ => True
  proxy : ∀ e, (h.proxy e).Calm fun _ _ => True
  shutdown : ∀ seen, (h.shutdown seen).Calm fun _ _ => True
  drop : h.drop.Calm fun _ _ => True

theorem View.settle_calm : View.settle.Calm fun _ _ => True := by
  intro status _
  simp only [Program.bind]
  split
  · exact fun _ _ => trivial
  · trivial

theorem Handler.contained_calm (tell : Payload → String) (h : Handler) :
    (h.contained tell).Calm where
  init _ := Program.calm_catchPanic fun _ => trivial
  handle _ := Program.calm_catchPanic fun _ => View.settle_calm
  proxy _ := Program.calm_catchPanic fun _ => View.settle_calm.bind fun _ => trivial
  shutdown _ := Program.calm_catchPanic fun _ => trivial
  drop := Program.calm_catchPanic fun _ => trivial

/-! ## What the entries run -/

/-- Whether an operation leaves nothing behind but a notice. -/
def ModuleOp.Silent : ModuleOp → Prop
  | .host .method | .host .uri | .own (.report _) => True
  | _ => False

/-- The second program does what the first one does, but for silent operations that it leaves out.
Where it leaves one out, it is about to do something else. -/
inductive ModuleProgram.Trims : ModuleProgram Unit → ModuleProgram Unit → Prop
  | ret : Trims (.ret ()) (.ret ())
  | panic (q : Payload) : Trims (.panic q) (.panic q)
  | ask (o : ModuleOp) (next next' : o.Answer → ModuleProgram Unit) :
      (∀ a, Trims (next a) (next' a)) →
      Trims (.ask (I := ModuleInterface) o next) (.ask (I := ModuleInterface) o next')
  | skip (o o' : ModuleOp) (next : o.Answer → ModuleProgram Unit)
      (next' : o'.Answer → ModuleProgram Unit) :
      o.Silent → o ≠ o' → (∀ a, Trims (next a) (.ask (I := ModuleInterface) o' next')) →
      Trims (.ask (I := ModuleInterface) o next) (.ask (I := ModuleInterface) o' next')

namespace ModuleProgram.Trims

theorem refl : ∀ p : ModuleProgram Unit, Trims p p
  | .ret () => .ret
  | .panic q => .panic q
  | .ask o next => .ask o next next fun a => refl (next a)

theorem congr {p p' q q' : ModuleProgram Unit} (h : Trims p p') (hp : p = q) (hp' : p' = q') :
    Trims q q' := hp ▸ hp' ▸ h

theorem view (o : ViewOp) {f f' : o.Answer → ModuleProgram Unit} (h : ∀ a, Trims (f a) (f' a)) :
    Trims (o.lower.bind f) (o.lower.bind f') := by
  obtain ⟨o', read, lower⟩ := o.lower_eq_ask
  rw [lower]
  exact .ask o' _ _ fun a => h (read a)

end ModuleProgram.Trims

namespace Handler

theorem request_trims (q : ViewProgram Unit) :
    (requestEntry.rest q).Trims (requestEntry.rest (q.catchPanic fun _ => View.settle)) := by
  induction q with
  | ret a => exact .refl _
  | panic q =>
    -- The method and the URI for the notice, and the notice itself.
    refine .skip _ _ _ _ trivial (by simp) fun _ => .skip _ _ _ _ trivial (by simp) fun _ =>
      .skip _ _ _ _ trivial (by simp) fun _ => .ask _ _ _ fun status => ?_
    by_cases zero : (status : UInt16) = 0
    · simp only [Program.bind, zero, if_true]
      exact .ask _ _ _ fun _ => .ret
    · simp only [Program.bind, zero, if_false]
      exact .ret
  | ask o next ih =>
    have asked := requestEntry_ask o next
    have asked' := requestEntry_ask o fun a => (next a).catchPanic fun _ => View.settle
    exact (ModuleProgram.Trims.view o ih).congr asked.symm asked'.symm

theorem proxy_trims (given : Handles) (q : ViewProgram (Option String)) :
    ((proxyEntry given).rest q).Trims ((proxyEntry given).rest
      (q.catchPanic fun _ => View.settle.bind fun _ => .ret none)) := by
  induction q with
  | ret a => exact .refl _
  | panic q =>
    -- The notice only.
    refine .skip _ _ _ _ trivial (by simp) fun _ => .ask _ _ _ fun status => ?_
    by_cases zero : (status : UInt16) = 0
    · simp only [Program.bind, zero, if_true]
      exact .ask _ _ _ fun _ => .ret
    · simp only [Program.bind, zero, if_false]
      exact .ret
  | ask o next ih =>
    have asked := proxyEntry_ask given o next
    have asked' := proxyEntry_ask given o fun a =>
      (next a).catchPanic fun _ => View.settle.bind fun _ => .ret none
    exact (ModuleProgram.Trims.view o ih).congr asked.symm asked'.symm

/-- **What the entries run** for a handler and for the contained one is the same, but for what the
first one does to tell of a panic. -/
theorem guarded_trims (tell : Payload → String) (h : Handler) (proxy : Bool) (errand : Errand)
    (given : Handles) :
    (h.guarded proxy errand given).Trims ((h.contained tell).guarded proxy errand given) := by
  cases proxy with
  | false => exact request_trims (h.handle errand)
  | true => exact proxy_trims given (h.proxy errand)

end Handler

/-! ## Modules -/

def Code.contained (tell : Payload → String) : Code → Code
  | .handler h drops => .handler (h.contained tell) drops
  | .entries e => .entries e

/-- The module whose handler is contained, in the same state. -/
def Module.contained (tell : Payload → String) (m : Module) : Module :=
  { m with code := m.code.contained tell }

/-- A module as the kit builds it from a handler whose values are let go quietly: its entry points hand
on what they get, a request handler has read-only views, and the version is the one of the kit. -/
structure Module.Standard (m : Module) : Prop where
  code : ∃ h : Handler, m.code = .handler h ∧ h.Straight ∧
    ∀ e, (h.handle e).Asks ViewOp.ReadsUri
  probe : m.probe = .ret abiVersion

theorem Module.contained_code {m : Module} {h : Handler} (tell : Payload → String)
    (code : m.code = .handler h) : (m.contained tell).code = .handler (h.contained tell) := by
  simp only [Module.contained, code, Code.contained]

section
variable (tell : Payload → String) (m : Module)

@[simp] theorem Module.code_contained : (m.contained tell).code = m.code.contained tell := rfl

@[simp] theorem Module.context_contained : (m.contained tell).context = m.context := rfl

@[simp] theorem Module.contained_setContext (c : Context) :
    (m.setContext c).contained tell = (m.contained tell).setContext c := rfl

/-- A module's own operations do not depend on its handler. -/
theorem SelfOp.perform_contained (o : SelfOp) :
    SelfOp.perform (m.contained tell) o = ((SelfOp.perform m o).1,
      (SelfOp.perform m o).2.1.contained tell, (SelfOp.perform m o).2.2) := by
  cases o with
  | note | report => rfl
  | print line =>
    simp only [perform, Module.print, Module.contained]
    cases m.sink m.prints <;> rfl

theorem Module.count_contained :
    (m.contained tell).count = (m.count.1, m.count.2.contained tell) := by
  obtain ⟨code, probe, sink, ⟨slot, lock, generation, calls, starts⟩, tally, prints⟩ := m
  cases code with
  | entries e => rfl
  | handler h => cases slot <;> rfl

theorem Visit.perform_contained (v : Visit) (o : ModuleOp) :
    v.perform (m.contained tell) o =
      (v.perform m o).map fun (a, data, m, events) => (a, data, m.contained tell, events) := by
  cases o with
  | host c =>
    simp only [perform]
    split <;> rfl
  | own o =>
    simp only [perform, SelfOp.perform_contained]
    rfl
  | count =>
    simp only [perform, Module.count_contained]
    rfl
  | stamps | canSetUri | pause => rfl

end

/-- A silent operation leaves everything as it is, but for a notice. -/
theorem Visit.perform_silent {v : Visit} {m m' : Module} {o : ModuleOp} {a : o.Answer}
    {data : CallData} {events : List Event} (silent : o.Silent)
    (h : v.perform m o = .ok (a, data, m', events)) :
    data = v.data ∧ m' = m ∧ ∀ e ∈ events, ∃ n, e = .notice n := by
  cases o with
  | host c =>
    simp only [perform] at h
    split at h
    · cases h
    · cases c with
      | method | uri =>
        cases h
        exact ⟨rfl, rfl, by simp [CallData.answer]⟩
      | header | body | setUri | status | setStatus | setHeader | writeBody | setTarget =>
        exact silent.elim
  | own o =>
    cases o with
    | report n =>
      cases h
      exact ⟨rfl, rfl, by simp⟩
    | note | print => exact silent.elim
  | count | stamps | canSetUri | pause => exact silent.elim

end ModuleHost
