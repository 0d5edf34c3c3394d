import ModuleHost.Proofs.Boundary.Ensures
import ModuleHost.Proofs.Boundary.Served
import ModuleHost.Proofs.Text.Utf8

/-!
# Views and the data behind them

What a handler does through its views can also be done to the host's own request and response:
`CallData.apply` says what an operation writes there, and `ViewOp.Gives` what it answers. Operations
that have nothing to do with request and response may answer anything.

`p.Plays d ops q` follows a program in this way: on data `d` it has performed the operations `ops`,
got the answers that the data gave at each, and has `q` left. Through handles, callbacks and bytes it
can take no other course (`lower_ensures`). An entry performs its handler's operations one by one and
then does with the end of it what `final` says (`Entry.Wraps`), so that at any moment it stands
`Midway` in such a course.
-/
namespace ModuleHost

open Text Boundary

/-! ## Operations on the data themselves -/

namespace Boundary.CallData

/-- What a view operation writes. A header that the response refuses changes nothing. -/
def apply (d : CallData) : ViewOp → CallData
  | .setUri uri => { d with request := { d.request with uri } }
  | .setStatus status => { d with response := { d.response with status } }
  | .setHeader name value =>
    match d.response.setHeader name value with
    | .ok (_, response) => { d with response }
    | .error _ => d
  | .writeBody bytes => { d with response := d.response.writeBody bytes }
  | .method | .uri | .header _ | .body | .status | .own _ | .count | .pause => d

/-- The data after operations in a row. -/
def applyAll (d : CallData) (ops : List ViewOp) : CallData := ops.foldl apply d

theorem applyAll_snoc (d : CallData) (ops : List ViewOp) (o : ViewOp) :
    d.applyAll (ops ++ [o]) = (d.applyAll ops).apply o := by
  simp only [applyAll, List.foldl_append, List.foldl_cons, List.foldl_nil]

end Boundary.CallData

/-- Whether an operation on the data gives the answer: what the request and the response themselves
hold, and for a header whether the response takes it, with its name as it was given if not. -/
def ViewOp.Gives (d : CallData) : (o : ViewOp) → o.Answer → Prop
  | .method, a => a = d.request.method
  | .uri, a => a = d.request.uri
  | .header name, a => a = d.request.header name
  | .body, a => a = d.request.body
  | .status, a => a = d.response.status
  | .setHeader name value, a =>
    match d.response.setHeader name value with
    | .ok _ => a = .ok ()
    | .error _ => a = .error ⟨name⟩
  | .setUri _, _ | .setStatus _, _ | .writeBody _, _ | .own _, _ | .count, _ | .pause, _ => True

/-- Where a program comes to that performs its operations on the data themselves. -/
inductive ViewProgram.Plays {α : Type} (p : ViewProgram α) (d : CallData) :
    List ViewOp → ViewProgram α → Prop
  | begun : Plays p d [] p
  | answer {ops : List ViewOp} {o : ViewOp} {next : o.Answer → ViewProgram α} (a : o.Answer) :
      Plays p d ops (.ask (I := ViewInterface) o next) → o.Gives (d.applyAll ops) a →
      Plays p d (ops ++ [o]) (next a)

/-- How a program ends that performs its operations on the data themselves. -/
def ViewProgram.Ends {α : Type} (p : ViewProgram α) (d : CallData) (ops : List ViewOp) :
    Except Payload α → Prop
  | .ok a => p.Plays d ops (.ret a)
  | .error q => p.Plays d ops (.panic q)

/-- The response of a handler that has come to an end: a panic leaves status 500 where there was
none. -/
def Response.settle {α : Type} (r : Response) : Except Payload α → Response
  | .ok _ => r
  | .error _ => r.finalize 500

/-- The last URI set, or the first one. -/
def latestUri (uri : String) (ops : List ViewOp) : String :=
  ops.foldl (fun uri o => match o with | .setUri new => new | _ => uri) uri

theorem latestUri_of_reads {uri : String} {ops : List ViewOp} (h : ∀ o ∈ ops, o.ReadsUri) :
    latestUri uri ops = uri := by
  induction ops generalizing uri with
  | nil => rfl
  | cons o ops ih =>
    have reads := h o List.mem_cons_self
    have rest : latestUri uri ops = uri := ih fun o' ho => h o' (List.mem_cons_of_mem _ ho)
    cases o with
    | setUri => exact reads.elim
    | method | uri | header | body | status | setStatus | setHeader | writeBody | own | count
    | pause => exact rest

/-- The address that a proxy handler chose; a panic chooses none. -/
def choice : Except Payload (Option String) → Option String
  | .ok address => address
  | .error _ => none

theorem choice_eq_some {r : Except Payload (Option String)} {address : String} :
    choice r = some address ↔ r = .ok (some address) := by
  cases r with
  | ok chosen => simp [choice]
  | error q => simp [choice]

namespace Boundary.CallData

/-- The data that a handler leaves where it has come to an end. -/
def settle {α : Type} (d : CallData) (r : Except Payload α) : CallData :=
  { d with response := d.response.settle r }

/-- The data with the address that was chosen, where handles lead to the target. -/
def aim (d : CallData) (h : Handles) (address : Option String) : CallData :=
  if h.target.isSome && address.isSome then { d with target := address } else d

/-- A proxy call's handles lead to its target, which nothing else sets. -/
theorem aim_handles (d : CallData) (address : Option String) (unset : d.target = none) :
    (d.aim (Call.handles true) address).target = address ∧
      (d.aim (Call.handles true) address).request = d.request ∧
      (d.aim (Call.handles true) address).response = d.response := by
  cases address with
  | none => exact ⟨unset, rfl, rfl⟩
  | some address => exact ⟨rfl, rfl, rfl⟩

/-- Operations of views change nothing of the request but its URI, and nothing of the target. -/
theorem applyAll_frame (d : CallData) (ops : List ViewOp) :
    (d.applyAll ops).request = { d.request with uri := latestUri d.request.uri ops } ∧
      (d.applyAll ops).target = d.target := by
  induction ops generalizing d with
  | nil => exact ⟨rfl, rfl⟩
  | cons o ops ih =>
    have frame : (d.apply o).target = d.target ∧ (d.apply o).request =
        { d.request with uri := match o with | .setUri new => new | _ => d.request.uri } := by
      cases o with
      | setHeader name value =>
        simp only [apply]
        split <;> exact ⟨rfl, rfl⟩
      | method | uri | header | body | setUri | status | setStatus | writeBody | own | count
      | pause => exact ⟨rfl, rfl⟩
    obtain ⟨request, target⟩ := ih (d.apply o)
    refine ⟨?_, target.trans frame.1⟩
    rw [frame.2] at request
    exact request

end Boundary.CallData

namespace ViewProgram.Plays

variable {α : Type} {p q : ViewProgram α} {d : CallData} {ops : List ViewOp}

/-- Only operations that the program may ask are performed. -/
theorem asks {P : ViewOp → Prop} (h : p.Plays d ops q) (asks : p.Asks P) :
    (∀ o ∈ ops, P o) ∧ q.Asks P := by
  induction h with
  | begun => exact ⟨by simp, asks⟩
  | answer a _ _ ih =>
    refine ⟨fun o ho => ?_, ih.2.2 a⟩
    rcases List.mem_append.mp ho with old | new
    · exact ih.1 o old
    · obtain rfl := List.mem_singleton.mp new
      exact ih.2.1

theorem first (h : p.Plays d ops q) :
    ops = [] ∧ q = p ∨ ∃ (o : ViewOp) (next : o.Answer → ViewProgram α) (a : o.Answer)
      (rest : List ViewOp), p = .ask (I := ViewInterface) o next ∧ ops = o :: rest ∧ o.Gives d a ∧
        (next a).Plays (d.apply o) rest q := by
  induction h with
  | begun => exact .inl ⟨rfl, rfl⟩
  | @answer ops o next a _ gives ih =>
    rcases ih with ⟨rfl, rfl⟩ | ⟨o', next', a', rest, rfl, rfl, gives', plays⟩
    · exact .inr ⟨o, next, a, [], rfl, rfl, gives, .begun⟩
    · exact .inr ⟨o', next', a', rest ++ [o], rfl, rfl, gives', .answer a plays gives⟩

theorem of_ret {a : α} (h : ViewProgram.Plays (.ret a) d ops q) : ops = [] ∧ q = .ret a := by
  rcases h.first with stays | ⟨o, next, a', rest, asked, -⟩
  · exact stays
  · cases asked

end ViewProgram.Plays

namespace ViewProgram

variable {α : Type} {p : ViewProgram α} {d : CallData} {ops : List ViewOp}

theorem Ends.plays {r : Except Payload α} (h : p.Ends d ops r) : ∃ q, p.Plays d ops q := by
  cases r with
  | ok a => exact ⟨_, h⟩
  | error q => exact ⟨_, h⟩

theorem ends_read {o : ViewOp} {f : o.Answer → α} {r : Except Payload α}
    (h : Ends (.ask (I := ViewInterface) o fun a => .ret (f a)) d ops r) :
    ∃ a, o.Gives d a ∧ r = .ok (f a) ∧ d.applyAll ops = d.apply o := by
  have played : ∀ {q : ViewProgram α},
      Plays (.ask (I := ViewInterface) o fun a => .ret (f a)) d ops q →
      (∀ next, q ≠ .ask (I := ViewInterface) o next) →
      ∃ a, o.Gives d a ∧ q = .ret (f a) ∧ d.applyAll ops = d.apply o := by
    intro q plays ended
    rcases plays.first with ⟨-, rfl⟩ | ⟨o', next, a, rest, asked, rfl, gives, plays⟩
    · exact absurd rfl (ended _)
    · cases asked
      obtain ⟨rfl, rfl⟩ := plays.of_ret
      exact ⟨a, gives, rfl, rfl⟩
  cases r with
  | ok b =>
    obtain ⟨a, gives, same, data⟩ := played h (by simp)
    cases same
    exact ⟨a, gives, rfl, data⟩
  | error q =>
    obtain ⟨a, -, same, -⟩ := played h (by simp)
    cases same

theorem bodyText_ends {r : Except Payload (Option String)} (h : View.bodyText.Ends d ops r) :
    r = .ok (d.request.body.map decodeLossy) ∧ d.applyAll ops = d := by
  obtain ⟨a, gives, rfl, data⟩ := ends_read (o := .body) h
  cases gives
  exact ⟨rfl, data⟩

theorem writeText_ends {text : String} {r : Except Payload Unit}
    (h : (View.writeText text).Ends d ops r) :
    r = .ok () ∧ d.applyAll ops = { d with response := d.response.writeBody (encode text) } := by
  obtain ⟨a, -, rfl, data⟩ := ends_read (o := .writeBody (encode text)) (f := id) h
  exact ⟨rfl, data⟩

end ViewProgram

/-! ## Through the handles -/

variable {given : Handles} {proxy : Bool} {d : CallData}

/-- **A view operation does through its callback what it says**: the bytes that cross the boundary
read as the texts that were meant. -/
theorem ViewOp.lower_ensures (serving : given.Serving proxy) (o : ViewOp)
    (offered : proxy = true ∨ o.ReadsUri) (d : CallData) :
    given.Ensures (fun r d' => ∃ a, r = .ok a ∧ o.Gives d a ∧ d' = d.apply o) o.lower d := by
  have plain (c : HostCall) (hc : c.IsPlain) : given.permit c = .ok () := serving.plain c hc
  cases o with
  | method =>
    refine Handles.ensures_read (plain .method trivial) d ⟨_, rfl, ?_, rfl⟩
    simp [Gives, CallData.answer]
  | uri =>
    refine Handles.ensures_read (plain .uri trivial) d ⟨_, rfl, ?_, rfl⟩
    simp [Gives, CallData.answer]
  | header name =>
    refine Handles.ensures_read (plain (.header _) trivial) d ⟨_, rfl, ?_, rfl⟩
    simp only [Gives, CallData.answer, Option.bind_some, decodeLossy_encode]
    cases d.request.header name <;> simp
  | body =>
    refine (Handles.ensures_host (plain .body trivial) d).mono fun r d' h => ?_
    exact ⟨_, h.1, rfl, h.2⟩
  | setUri uri =>
    have granted := offered.resolve_right id
    refine (Handles.ensures_host (serving.uri granted _) d).mono fun r d' h => ?_
    refine ⟨_, h.1, trivial, ?_⟩
    rw [h.2]
    simp only [CallData.answer, CallData.apply, decodeLossy_encode]
  | status =>
    refine (Handles.ensures_host (plain .status trivial) d).mono fun r d' h => ?_
    exact ⟨_, h.1, rfl, h.2⟩
  | setStatus code =>
    refine (Handles.ensures_host (plain (.setStatus code) trivial) d).mono fun r d' h => ?_
    exact ⟨_, h.1, trivial, h.2⟩
  | setHeader name value =>
    refine Handles.ensures_read (plain (.setHeader _ _) trivial) d ⟨_, rfl, ?_, ?_⟩
    · simp only [Gives, CallData.answer, decodeLossy_encode]
      cases d.response.setHeader name value <;> simp
    · simp only [CallData.apply, CallData.answer, decodeLossy_encode]
      cases d.response.setHeader name value <;> simp
  | writeBody bytes =>
    refine (Handles.ensures_host (plain (.writeBody _) trivial) d).mono fun r d' h => ?_
    exact ⟨_, h.1, trivial, h.2⟩
  | own o =>
    refine (Handles.ensures_own o d).mono fun r d' h => ?_
    obtain ⟨⟨a, answer⟩, data⟩ := h
    exact ⟨a, answer, trivial, data⟩
  | count | pause => exact fun m => ⟨_, d, _, _, rfl, _, rfl, trivial, rfl⟩

theorem ViewOp.lower_eq_ask (o : ViewOp) : ∃ (o' : ModuleOp) (read : o'.Answer → o.Answer),
    o.lower = .ask (I := ModuleInterface) o' fun a => .ret (read a) := by
  cases o <;> exact ⟨_, _, rfl⟩

/-- Whether the views of an entry have the operation. -/
def ViewOp.Offered (proxy : Bool) (o : ViewOp) : Prop := proxy = true ∨ o.ReadsUri

theorem ViewProgram.asks_offered {α : Type} {p : ViewProgram α}
    (reads : proxy = false → p.Asks ViewOp.ReadsUri) : p.Asks (ViewOp.Offered proxy) := by
  cases proxy with
  | false => exact (reads rfl).mono fun o ho => .inr ho
  | true => exact Program.asks_of_forall (fun o => .inl rfl) p

/-! ## Entries -/

/-- What an entry makes of its handler: what it has left to run where the handler has `q` left, and
the data that it leaves where the handler has ended on data `d`. -/
structure Entry (α : Type) where
  rest (q : ViewProgram α) : ModuleProgram Unit
  final (d : CallData) (r : Except Payload α) : CallData

namespace Entry

variable {α : Type} {entry : Entry α} {p : ViewProgram α}

/-- On these handles, the entry performs its handler's operations one by one, and ends as `final`
says. -/
structure Wraps (given : Handles) (entry : Entry α) : Prop where
  ask : ∀ (o : ViewOp) (next : o.Answer → ViewProgram α),
    entry.rest (.ask (I := ViewInterface) o next) = o.lower.bind fun a => entry.rest (next a)
  ret : ∀ (a : α) (d : CallData),
    given.Ensures (fun r d' => r = .ok () ∧ d' = entry.final d (.ok a)) (entry.rest (.ret a)) d
  panic : ∀ (q : Payload) (d : CallData),
    given.Ensures (fun r d' => r = .ok () ∧ d' = entry.final d (.error q)) (entry.rest (.panic q)) d

/-- Where the entry of handler `p` stands that has begun on data `d`: the handler is at work, and
the data are those of its course; or it has ended, and only the rest of the entry is left. -/
inductive Midway (given : Handles) (entry : Entry α) (p : ViewProgram α) (d : CallData) :
    ModuleProgram Unit → CallData → Prop
  | playing {ops : List ViewOp} {q : ViewProgram α} :
      p.Plays d ops q → Midway given entry p d (entry.rest q) (d.applyAll ops)
  | ended {ops : List ViewOp} {r : Except Payload α} {left : ModuleProgram Unit} {data : CallData} :
      p.Ends d ops r →
      given.Ensures (fun r' d' => r' = .ok () ∧ d' = entry.final (d.applyAll ops) r) left data →
      Midway given entry p d left data

/-- The data at the end of an entry of handler `p` that has begun on data `d`. -/
def Leaves (entry : Entry α) (p : ViewProgram α) (d d' : CallData) : Prop :=
  ∃ ops r, p.Ends d ops r ∧ d' = entry.final (d.applyAll ops) r

/-- **An entry comes to its end**, from wherever it stands. -/
theorem Midway.ensures (serving : given.Serving proxy) (wraps : entry.Wraps given)
    (asks : p.Asks (ViewOp.Offered proxy)) {left : ModuleProgram Unit} {data : CallData}
    (h : entry.Midway given p d left data) :
    given.Ensures (fun r d' => r = .ok () ∧ entry.Leaves p d d') left data := by
  cases h with
  | ended ends rest => exact rest.mono fun r d' h => ⟨h.1, _, _, ends, h.2⟩
  | @playing ops q plays =>
    have asks := (plays.asks asks).2
    induction q generalizing ops with
    | ret a => exact (wraps.ret a _).mono fun r d' h => ⟨h.1, ops, .ok a, plays, h.2⟩
    | panic q => exact (wraps.panic q _).mono fun r d' h => ⟨h.1, ops, .error q, plays, h.2⟩
    | ask o next ih =>
      rw [wraps.ask o next]
      refine (ViewOp.lower_ensures serving o asks.1 _).bind ?_ (by simp)
      rintro a d' ⟨a', ha, gives, rfl⟩
      cases ha
      have rest := ih a (.answer a plays gives) (asks.2 a)
      rw [CallData.applyAll_snoc d ops o] at rest
      exact rest

/-- **An operation of an entry** is answered, and the entry stands in its course again. -/
theorem Midway.answer (serving : given.Serving proxy) (wraps : entry.Wraps given)
    (asks : p.Asks (ViewOp.Offered proxy)) {o : ModuleOp} {next : o.Answer → ModuleProgram Unit}
    {data : CallData} (h : entry.Midway given p d (.ask (I := ModuleInterface) o next) data)
    (m : Module) : ∃ a data' m' events, (given.visit data).perform m o = .ok (a, data', m', events) ∧
      entry.Midway given p d (next a) data' := by
  generalize hleft : (Program.ask (I := ModuleInterface) o next : ModuleProgram Unit) = left at h
  -- Where the handler has ended, what is left still ends as it should.
  have last {ops : List ViewOp} {r : Except Payload α} {left : ModuleProgram Unit}
      {data : CallData} (ends : p.Ends d ops r)
      (rest : given.Ensures (fun r' d' => r' = .ok () ∧ d' = entry.final (d.applyAll ops) r) left
        data) (hleft : .ask (I := ModuleInterface) o next = left) :
      ∃ a data' m' events, (given.visit data).perform m o = .ok (a, data', m', events) ∧
        entry.Midway given p d (next a) data' := by
    subst hleft
    obtain ⟨a, data', m', events, perform, rest⟩ := rest m
    exact ⟨a, data', m', events, perform, .ended ends rest⟩
  cases h with
  | ended ends rest => exact last ends rest hleft
  | @playing ops q plays =>
    have asks := (plays.asks asks).2
    cases q with
    | ret a => exact last (r := .ok a) plays (wraps.ret a _) hleft
    | panic q => exact last (r := .error q) plays (wraps.panic q _) hleft
    | ask o' next' =>
      obtain ⟨o'', read, lower⟩ := o'.lower_eq_ask
      have ensures := ViewOp.lower_ensures serving o' asks.1 (d.applyAll ops)
      have asked := hleft.trans (wraps.ask o' next')
      rw [lower] at asked
      cases asked
      rw [lower] at ensures
      obtain ⟨a, data', m', events, perform, a', ha, gives, rfl⟩ := ensures m
      cases ha
      refine ⟨a, _, m', events, perform, ?_⟩
      rw [← CallData.applyAll_snoc d ops o']
      exact .playing (.answer (read a) plays gives)

theorem Midway.leaves_of_ret (serving : given.Serving proxy) (wraps : entry.Wraps given)
    (asks : p.Asks (ViewOp.Offered proxy)) {u : Unit} {data : CallData}
    (h : entry.Midway given p d (.ret u) data) : entry.Leaves p d data :=
  (h.ensures serving wraps asks).2

theorem Midway.not_panic (serving : given.Serving proxy) (wraps : entry.Wraps given)
    (asks : p.Asks (ViewOp.Offered proxy)) {q : Payload} {data : CallData} :
    ¬ entry.Midway given p d (.panic q) data := by
  intro h
  cases (h.ensures serving wraps asks).1

end Entry

/-! ## The two entries of a handler module -/

namespace Handler

theorem afterPanic_ensures (serving : given.Serving proxy) {notice : ModuleProgram Notice}
    (told : given.Ensures (fun r d' => (∃ n, r = .ok n) ∧ d' = d) notice d) :
    given.Ensures (fun r d' => r = .ok () ∧ d' = { d with response := d.response.finalize 500 })
      (afterPanic notice) d := by
  refine told.bind ?_ (by simp)
  rintro n d' ⟨-, rfl⟩
  refine (Handles.ensures_own (.report n) _).bind ?_ (by simp)
  rintro u d' ⟨-, rfl⟩
  refine Handles.ensures_read (serving.plain .status trivial) _ ?_
  by_cases zero : d'.response.status = 0
  · rw [CallData.answer, if_pos zero]
    refine (Handles.ensures_host (serving.plain (.setStatus 500) trivial) _).mono ?_
    rintro r d' ⟨rfl, rfl⟩
    exact ⟨rfl, by simp only [CallData.answer, Response.finalize, zero, if_true]⟩
  · rw [CallData.answer, if_neg zero]
    exact ⟨rfl, by simp only [Response.finalize, zero, if_false]⟩

theorem giveTarget_ensures (serving : given.Serving proxy) (address : Option String)
    (d : CallData) :
    given.Ensures (fun r d' => r = .ok () ∧ d' = d.aim given address) (giveTarget given address)
      d := by
  cases address with
  | none => exact ⟨rfl, by simp [CallData.aim]⟩
  | some address =>
    simp only [giveTarget]
    cases target : given.target with
    | none =>
      refine (Handles.ensures_own (.report .targetNull) d).mono ?_
      rintro r d' ⟨⟨u, rfl⟩, rfl⟩
      exact ⟨rfl, by simp [CallData.aim, target]⟩
    | some t =>
      obtain ⟨live, permit⟩ := serving.target t target
      refine fun m => ⟨_, d, _, _, rfl, ?_⟩
      simp only [Handles.visit, target, Option.map_some, live]
      refine (Handles.ensures_host (permit _) d).mono ?_
      rintro r d' ⟨rfl, rfl⟩
      exact ⟨rfl, by simp [CallData.answer, CallData.aim, target]⟩

/-- The handler's views in a request entry, its panics caught. -/
def requestEntry : Entry Unit where
  rest q := q.lower.catchPanic fun p => afterPanic do
    let method : String ← ViewOp.lower .method
    let uri : String ← ViewOp.lower .uri
    return .handlerPanicked p.message method uri
  final d r := d.settle r

/-- The same in a proxy entry, where the address that the handler chose goes to the host. -/
def proxyEntry (given : Handles) : Entry (Option String) where
  rest q := (q.lower.catchPanic fun p =>
    (afterPanic (.ret (.proxyPanicked p.message))).bind fun _ => .ret none).bind (giveTarget given)
  final d r := (d.settle r).aim given (choice r)

theorem requestEntry_ask (o : ViewOp) (next : o.Answer → ViewProgram Unit) :
    requestEntry.rest (.ask (I := ViewInterface) o next) =
      o.lower.bind fun a => requestEntry.rest (next a) := by
  obtain ⟨o', read, lower⟩ := o.lower_eq_ask
  simp only [requestEntry, ViewProgram.lower, Program.lower]
  rw [lower]
  rfl

theorem proxyEntry_ask (given : Handles) (o : ViewOp)
    (next : o.Answer → ViewProgram (Option String)) :
    (proxyEntry given).rest (.ask (I := ViewInterface) o next) =
      o.lower.bind fun a => (proxyEntry given).rest (next a) := by
  obtain ⟨o', read, lower⟩ := o.lower_eq_ask
  simp only [proxyEntry, ViewProgram.lower, Program.lower]
  rw [lower]
  rfl

theorem wraps_requestEntry (serving : given.Serving proxy) : requestEntry.Wraps given where
  ask := requestEntry_ask
  ret a d := ⟨rfl, rfl⟩
  panic q d := by
    refine afterPanic_ensures serving ?_
    refine (ViewOp.lower_ensures serving .method (.inr trivial) d).bind ?_ (by simp)
    rintro method d' ⟨a, -, -, rfl⟩
    refine (ViewOp.lower_ensures serving .uri (.inr trivial) _).bind ?_ (by simp)
    rintro uri d' ⟨a, -, -, rfl⟩
    exact ⟨⟨_, rfl⟩, rfl⟩

theorem wraps_proxyEntry (serving : given.Serving proxy) : (proxyEntry given).Wraps given where
  ask := proxyEntry_ask given
  ret a d := giveTarget_ensures serving a d
  panic q d := by
    have told : given.Ensures (fun r d' => (∃ n, r = .ok n) ∧ d' = d)
      (.ret (Notice.proxyPanicked q.message)) d := ⟨⟨_, rfl⟩, rfl⟩
    refine ((afterPanic_ensures serving told).bind (R := fun r d' => r = .ok none ∧
      d' = d.settle (.error q : Except Payload (Option String))) ?_ (by simp)).bind ?_ (by simp)
    · rintro u d' ⟨-, rfl⟩
      exact ⟨rfl, rfl⟩
    · rintro address d' ⟨ha, rfl⟩
      cases ha
      exact giveTarget_ensures serving none _

end Handler

end ModuleHost
