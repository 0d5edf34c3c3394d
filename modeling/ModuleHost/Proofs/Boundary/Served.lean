import ModuleHost.Machine.Call
import ModuleHost.Proofs.Boundary.Remainder

/-!
# Handlers on live handles

What the entries of a handler module run where the host's handles are all there and live
(`Handler.served`): no null handle is reported, no assertion over a stamp goes off, and no panic
leaves the entry (`served_calm`). The only operation that the handles do not grant is replacing the
URI of a read-only request, which a handler asks for only where its own code does (`served_asks`).
-/
namespace ModuleHost

open Boundary

/-- Whether the module's entry points hand on what the host gave them. -/
def Handler.Straight (h : Handler) : Prop :=
  ∀ errand proxy handles, h.relay errand proxy handles = (proxy, handles)

/-- Whether a request view has the operation; the URI is for proxy views to replace. -/
def ViewOp.ReadsUri : ViewOp → Prop
  | .setUri _ => False
  | _ => True

/-- What the handles of a call grant. -/
def ModuleOp.Granted (proxy : Bool) : ModuleOp → Prop
  | .host (.setUri _) | .host (.setTarget _) => proxy = true
  | _ => True

/-- The answers that live handles give: where a target's stamp is looked at, it is live. -/
def ModuleOp.FromLive (proxy : Bool) : (o : ModuleOp) → o.Answer → Prop
  | .stamps, s => proxy = true → s.2.2 = some true
  | _, _ => True

namespace Handler

/-- What a request entry runs on live handles. -/
def served (h : Handler) (proxy : Bool) (errand : Errand) : ModuleProgram Unit :=
  if proxy then
    (h.chosen errand).bind fun address => match address with
      | none => .ret ()
      | some address => setTarget address
  else h.guardedRequest errand

theorem guarded_eq_served (h : Handler) (proxy : Bool) (errand : Errand) :
    h.guarded proxy errand (Call.handles proxy) = h.served proxy errand := by
  cases proxy with
  | false => rfl
  | true =>
    have giveTarget : giveTarget (Call.handles true) = fun address => match address with
        | none => .ret ()
        | some address => setTarget address := by
      funext address
      cases address <;> rfl
    simp only [guarded, served, guardedProxy, giveTarget]

/-! ## No panic leaves the entry -/

theorem afterPanic_calm {proxy : Bool} {notice : ModuleProgram Notice}
    (h : notice.Calm (ModuleOp.FromLive proxy)) :
    (afterPanic notice).Calm (ModuleOp.FromLive proxy) := by
  refine h.bind fun n => ?_
  intro _ _ status _
  simp only [Program.bind]
  split
  · exact fun _ _ => trivial
  · trivial

theorem chosen_calm (h : Handler) (proxy : Bool) (errand : Errand) :
    (h.chosen errand).Calm (ModuleOp.FromLive proxy) := by
  refine Program.calm_catchPanic fun q => ?_
  have reported : (afterPanic (.ret (.proxyPanicked q.message))).Calm (ModuleOp.FromLive proxy) :=
    afterPanic_calm trivial
  exact reported.bind fun _ => trivial

theorem setTarget_calm (address : String) :
    (setTarget address).Calm (ModuleOp.FromLive true) := by
  intro stamps live
  have live : stamps.2.2 = some true := live rfl
  simp only [Program.bind, live]
  exact fun _ _ => trivial

theorem served_calm (h : Handler) (proxy : Bool) (errand : Errand) :
    (h.served proxy errand).Calm (ModuleOp.FromLive proxy) := by
  cases proxy with
  | false =>
    refine Program.calm_catchPanic fun q => afterPanic_calm ?_
    exact fun _ _ _ _ => trivial
  | true =>
    refine (h.chosen_calm true errand).bind fun address => ?_
    cases address with
    | none => trivial
    | some address => exact setTarget_calm address

/-! ## What it may ask -/

theorem lower_asks (o : ViewOp) (h : o.ReadsUri) : o.lower.Asks (ModuleOp.Granted false) := by
  cases o with
  | setUri => exact h.elim
  | method | uri | header | setHeader => exact (Program.Asks.op trivial).bind fun _ => trivial
  | body | status | setStatus | writeBody | own | count | pause => exact Program.Asks.op trivial

theorem afterPanic_asks {notice : ModuleProgram Notice}
    (h : notice.Asks (ModuleOp.Granted false)) :
    (afterPanic notice).Asks (ModuleOp.Granted false) := by
  refine h.bind fun n => (Program.Asks.op trivial).bind fun _ =>
    (lower_asks .status trivial).bind fun status => ?_
  split
  · exact lower_asks (.setStatus 500) trivial
  · trivial

theorem served_asks (h : Handler) (proxy : Bool) (errand : Errand)
    (reads : proxy = false → (h.handle errand).Asks ViewOp.ReadsUri) :
    (h.served proxy errand).Asks (ModuleOp.Granted proxy) := by
  cases proxy with
  | true =>
    refine Program.asks_of_forall (fun o => ?_) _
    cases o with
    | host c => cases c <;> trivial
    | own | count | stamps | canSetUri | pause => trivial
  | false =>
    refine Program.Asks.catchPanic ((reads rfl).lower lower_asks) fun q => afterPanic_asks ?_
    exact (lower_asks .method trivial).bind fun _ => (lower_asks .uri trivial).bind fun _ => trivial

end Handler

end ModuleHost
