import ModuleHost.Demo.Handler
import ModuleHost.Proofs.Boundary.Output

/-!
# The calls of the demo module

What the demo handler puts out for one call (`guarded_yields`): one line that describes the request
and one request counted, or, for a proxy call, one request counted if the URI routes. And what it
makes of a request's response (`handle_yields`), whatever becomes of the line, and of the data of a proxy
call (`proxy_yields`).
-/
namespace ModuleHost.Demo

open Text Boundary

/-- The text that describes a request. -/
def line (r : Request) : String :=
  describe r.method r.uri ((r.header "User-Agent").getD "") ((r.body.map decodeLossy).getD "")

/-- Whether a call is counted: every request is, and a proxy call whose URI routes. -/
def counts (proxy : Bool) (d : CallData) : Bool := !proxy || (route d.request.uri).isSome

/-- What the handler puts out for a call. -/
def due (proxy : Bool) (d : CallData) : Output :=
  (if proxy then 0 else {line d.request ++ "\n"}, (counts proxy d).toNat)

/-- The response with the demo's answer added. -/
def answered (r : Response) : Response :=
  { status := 404, headers := r.headers.insert "hello" "world",
    body := r.body ++ encode "Hello World!\n" }

/-- What is done for a request after its header was stored, or refused. -/
def answer : ViewProgram Unit := do
  View.writeText "Hello World!\n"
  View.op (.setStatus 404)
  let body ← View.bodyText
  let method : String ← View.op .method
  let uri : String ← View.op .uri
  let agent : Option String ← View.op (.header "User-Agent")
  emit (describe method uri (agent.getD "") (body.getD ""))
  let _ : Nat ← View.op .count
  return ()

theorem handle_eq : handle = (View.op (.setHeader "hello" "world")).bind fun stored =>
    match stored with
    | .ok _ => answer
    | .error e => (View.report (.headerNotSet e.message)).bind fun _ => answer := rfl

/-! ## Programs of views -/

section
variable {α : Type} {entry : Entry α} {o : ViewOp} {next : o.Answer → ViewProgram α}
  {d : CallData} {τ : Output} {Q : CallData → Prop}
  (asks : ∀ (o : ViewOp) (next : o.Answer → ViewProgram α),
    entry.rest (.ask (I := ViewInterface) o next) = o.lower.bind fun a => entry.rest (next a))
include asks

theorem entry_yields (h : ∀ a, o.Gives d a → (entry.rest (next a)).Yields (d.apply o) τ Q) :
    (entry.rest ((View.op o).bind next)).Yields d (o.output + τ) Q := by
  have same : entry.rest ((View.op o).bind next) = o.lower.bind fun a => entry.rest (next a) :=
    asks o next
  rw [same]
  exact yields_view h

theorem entry_yields_quiet (quiet : o.output = 0)
    (h : ∀ a, o.Gives d a → (entry.rest (next a)).Yields (d.apply o) τ Q) :
    (entry.rest ((View.op o).bind next)).Yields d τ Q := by
  have yields := entry_yields asks h
  rwa [quiet, zero_add] at yields

end

/-! ## Requests -/

theorem answer_yields (d : CallData) :
    (Handler.requestEntry.rest answer).Yields d ({line d.request ++ "\n"}, 1) fun d' =>
      d' = { d with response :=
        { d.response with status := 404, body := d.response.body ++ encode "Hello World!\n" } } := by
  have asks := Handler.requestEntry_ask
  refine entry_yields_quiet (o := .writeBody _) asks rfl fun _ _ => ?_
  refine entry_yields_quiet (o := .setStatus 404) asks rfl fun _ _ => ?_
  refine entry_yields_quiet (o := .body) asks rfl fun body hb => ?_
  refine entry_yields_quiet (o := .method) asks rfl fun method hm => ?_
  refine entry_yields_quiet (o := .uri) asks rfl fun uri hu => ?_
  refine entry_yields_quiet (o := .header _) asks rfl fun agent ha => ?_
  cases hb; cases hm; cases hu; cases ha
  refine entry_yields (o := .own (.print _)) (τ := (0, 1)) asks fun written _ => ?_
  -- Whether the line was written or not, only the counter is left.
  cases written with
  | ok u => exact entry_yields (o := .count) (τ := 0) asks fun _ _ => ⟨rfl, rfl⟩
  | error e =>
    refine entry_yields_quiet (o := .own (.report _)) asks rfl fun _ _ => ?_
    exact entry_yields (o := .count) (τ := 0) asks fun _ _ => ⟨rfl, rfl⟩

theorem handle_yields (d : CallData) :
    (Handler.requestEntry.rest handle).Yields d ({line d.request ++ "\n"}, 1) fun d' =>
      d' = { d with response := answered d.response } := by
  have taken : d.response.setHeader "hello" "world" = .ok (d.response.headers.get? "hello",
      { d.response with headers := d.response.headers.insert "hello" "world" }) := by
    have valid : Header.validate (Header.key "hello") "world" = .ok () := by decide +kernel
    simp only [Response.setHeader, valid]
  rw [handle_eq]
  refine entry_yields_quiet Handler.requestEntry_ask rfl fun stored gives => ?_
  simp only [ViewOp.Gives, taken] at gives
  subst gives
  have rest := answer_yields (d.apply (.setHeader "hello" "world"))
  simp only [CallData.apply, taken] at rest
  simp only [CallData.apply, taken, answered]
  exact rest

/-! ## Proxy calls -/

/-- The data of a proxy call with the URI rewritten and the address handed on, where its URI routes;
others are left as they were. -/
def forwarded (given : Handles) (d : CallData) : CallData :=
  match route d.request.uri with
  | none => d
  | some (address, rest) =>
    { d with request := { d.request with uri := rest } }.aim given (some address)

theorem giveTarget_yields (given : Handles) (address : Option String) (d : CallData) :
    (Handler.giveTarget given address).Yields d 0 (· = d.aim given address) := by
  cases address with
  | none => exact ⟨rfl, by simp [CallData.aim]⟩
  | some address =>
    cases target : given.target with
    | none =>
      simp only [Handler.giveTarget, target]
      exact ⟨0, rfl, fun _ _ => ⟨rfl, by simp [ModuleOp.after, CallData.aim, target]⟩⟩
    | some handle =>
      simp only [Handler.giveTarget, target]
      refine ⟨0, rfl, fun stamps _ => ?_⟩
      simp only [Program.bind]
      split
      · refine ⟨0, rfl, fun _ _ => ⟨rfl, ?_⟩⟩
        simp [ModuleOp.after, CallData.answer, CallData.aim, target]
      · rfl

theorem proxy_yields (given : Handles) (d : CallData) :
    ((Handler.proxyEntry given).rest proxy).Yields d (0, (route d.request.uri).isSome.toNat)
      (· = forwarded given d) := by
  have asks := Handler.proxyEntry_ask given
  refine entry_yields_quiet (o := .uri) asks rfl fun uri hu => ?_
  cases hu
  cases routed : route d.request.uri with
  | none =>
    simp only [forwarded, routed]
    refine (giveTarget_yields given none d).mono fun d' same => ?_
    rw [same]
    simp [CallData.aim]
  | some r =>
    simp only [forwarded, routed]
    refine entry_yields_quiet (o := .setUri r.2) asks rfl fun _ _ => ?_
    exact entry_yields (o := .count) (τ := 0) asks fun _ _ => giveTarget_yields given (some r.1) _

/-- **What the demo puts out for one call**, on whatever handles. -/
theorem guarded_yields (proxy : Bool) (errand : Errand) (given : Handles) (d : CallData) :
    (handler.guarded proxy errand given).Yields d (due proxy d) fun _ => True := by
  cases proxy with
  | false => exact (handle_yields d).mono fun _ _ => trivial
  | true => exact (proxy_yields given d).mono fun _ _ => trivial

end ModuleHost.Demo
