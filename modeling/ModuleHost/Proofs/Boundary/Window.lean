import ModuleHost.Proofs.Boundary.Served
import ModuleHost.Proofs.Instance.Calling
import ModuleHost.Proofs.Instance.Drain

/-!
# The window in which handles are valid

The host makes the handles of a call when the gate has admitted it, and retires them when the entry
has returned. `Run.handled` says at which stages they are what; `Run.guarded` says what follows for
the calls of handler modules, whose entries hand the handles on as they are. `handles_valid` puts
both together with the drain: a call counts as finished, and `OnUnload` starts, only behind the
retirement.
-/
namespace ModuleHost

open Boundary

/-! ## Handles -/

namespace Boundary

/-- What module code may rely on: the stamp is live, the way to the host is open, and there is a
table. -/
structure Handle.IsOpen {Table : Type} (h : Handle Table) : Prop where
  stamp : h.stamp = liveStamp
  attached : h.attached = true
  table : h.table.isSome = true

structure Handle.IsRetired {Table : Type} (h : Handle Table) : Prop where
  stamp : h.stamp = retiredStamp
  attached : h.attached = false

namespace Handles

/-- The handles of a call are all there and open, and only a proxy call may replace the URI. -/
structure Open (proxy : Bool) (h : Handles) : Prop where
  request : ∃ r, h.request = some r ∧ r.IsOpen
  response : ∃ r, h.response = some r ∧ r.IsOpen
  target : if proxy then ∃ r, h.target = some r ∧ r.IsOpen else h.target = none
  uri : h.canSetUri = proxy

/-- The handles of a call are all there and retired. -/
structure Retired (proxy : Bool) (h : Handles) : Prop where
  request : ∃ r, h.request = some r ∧ r.IsRetired
  response : ∃ r, h.response = some r ∧ r.IsRetired
  target : if proxy then ∃ r, h.target = some r ∧ r.IsRetired else h.target = none

/-- No handle that there is, is live. -/
structure NoneLive (h : Handles) : Prop where
  request : ∀ r, h.request = some r → r.isLive = false
  response : ∀ r, h.response = some r → r.isLive = false
  target : ∀ r, h.target = some r → r.isLive = false

theorem noneLive_empty : NoneLive {} := ⟨by simp, by simp, by simp⟩

theorem noneLive_retire (h : Handles) : h.retire.NoneLive := by
  have dead : ∀ {Table : Type} (o : Option (Handle Table)) (r : Handle Table),
      o.map Handle.retire = some r → r.isLive = false := by
    intro Table o r hr
    obtain ⟨r', -, rfl⟩ := Option.map_eq_some_iff.mp hr
    exact r'.isLive_retire
  exact ⟨dead _, dead _, dead _⟩

theorem permit_handles {proxy : Bool} {c : HostCall} {f : Fault}
    (h : (Call.handles proxy).permit c = .error f) :
    f = .nullPointer ∧ proxy = false ∧ ¬ ModuleOp.Granted proxy (.host c) := by
  cases proxy with
  | true => cases c <;> cases h
  | false =>
    cases c with
    | setUri | setTarget =>
      cases h
      exact ⟨rfl, rfl, Bool.false_ne_true⟩
    | method | uri | header | body | status | setStatus | setHeader | writeBody => cases h

end Handles

end Boundary

namespace Call

theorem handles_open (proxy : Bool) : (handles proxy).Open proxy := by
  cases proxy with
  | false => exact ⟨⟨_, rfl, rfl, rfl, rfl⟩, ⟨_, rfl, rfl, rfl, rfl⟩, rfl, rfl⟩
  | true =>
    exact ⟨⟨_, rfl, rfl, rfl, rfl⟩, ⟨_, rfl, rfl, rfl, rfl⟩, ⟨_, rfl, rfl, rfl, rfl⟩, rfl⟩

theorem handles_retired (proxy : Bool) : (handles proxy).retire.Retired proxy := by
  cases proxy with
  | false => exact ⟨⟨_, rfl, rfl, rfl⟩, ⟨_, rfl, rfl, rfl⟩, rfl⟩
  | true => exact ⟨⟨_, rfl, rfl, rfl⟩, ⟨_, rfl, rfl, rfl⟩, ⟨_, rfl, rfl, rfl⟩⟩

end Call

/-! ## Visits -/

/-- The program of the entry that is still to be run. -/
def VisitStage.program? : VisitStage → Option (ModuleProgram Unit)
  | .firstRead p | .claiming p | .draining p | .initializing p _ | .secondRead p | .running _ p
  | .plain p => some p
  | .entering | .returned | .faulted _ | .escaped => none

namespace Visit

variable {v v' : Visit} {m m' : Module} {events : List Event}

theorem step_frame (h : v.step m = some (v', m', events)) :
    v'.handles = v.handles ∧ v'.proxy = v.proxy ∧ v'.errand = v.errand := by
  rcases step_cases h with ⟨-, rfl, -, -⟩ | ⟨stage, data, rfl, -⟩
  · unfold enter
    split
    · exact ⟨rfl, rfl, rfl⟩
    · simp only
      split <;> exact ⟨rfl, rfl, rfl⟩
  · exact ⟨rfl, rfl, rfl⟩

/-- How a visit enters a handler module whose entries hand the handles on. -/
theorem enter_straight {h : Handler} (code : m.code = .handler h) (straight : h.Straight)
    (given : v.handles = Call.handles v.proxy) :
    v.enter m = ({ v with given := v.handles, stage := .firstRead (h.served v.proxy v.errand) },
      [.entered v.entry]) := by
  have views : views? v.proxy (Call.handles v.proxy) = .ok true := by
    cases v.proxy <;> rfl
  have relay := straight v.errand v.proxy (Call.handles v.proxy)
  simp only [enter, code, given, relay, views, Handler.guarded_eq_served]

theorem perform_fromLive {o : ModuleOp} {a : o.Answer} {data : CallData}
    (given : v.given = Call.handles v.proxy) (h : v.perform m o = .ok (a, data, m', events)) :
    o.FromLive v.proxy a := by
  cases o with
  | stamps =>
    simp only [perform, Except.ok.injEq, Prod.mk.injEq] at h
    intro proxy
    rw [← h.1, given, proxy]
    rfl
  | host | own | count | canSetUri | pause => trivial

/-- The faults that a handler can meet on live handles. -/
theorem perform_fault {o : ModuleOp} {f : Fault} (given : v.given = Call.handles v.proxy)
    (h : v.perform m o = .error f) :
    f = .nullPointer ∧ v.proxy = false ∧ ¬ o.Granted v.proxy := by
  cases o with
  | host c =>
    simp only [perform] at h
    split at h
    · rename_i f' hf
      cases h
      rw [given] at hf
      exact Handles.permit_handles hf
    · cases h
  | own | count | stamps | canSetUri | pause => cases h

/-- What a visit to handler `h` on live handles can rely on, and what it cannot come to. -/
structure Guarded (h : Handler) (v : Visit) : Prop where
  /-- What is still to be run is left of the entry on live handles. -/
  rest : ∀ p, v.stage.program? = some p →
    (h.served v.proxy v.errand).Leads (ModuleOp.FromLive v.proxy) p
  /-- No panic leaves the entry. -/
  calm : v.stage ≠ .escaped
  /-- No callback is refused but one that a view of the request does not have. -/
  fault : ∀ f, v.stage = .faulted f →
    f = .nullPointer ∧ v.proxy = false ∧ ¬ (h.handle v.errand).Asks ViewOp.ReadsUri

variable {h : Handler}

theorem Guarded.entering (hs : v.stage = .entering) : v.Guarded h :=
  ⟨by simp [hs, VisitStage.program?], by simp [hs], by simp [hs]⟩

theorem Guarded.onward {p : ModuleProgram Unit}
    (left : (h.served v'.proxy v'.errand).Leads (ModuleOp.FromLive v'.proxy) p)
    (hs : v'.stage.program? = some p ∨ v'.stage = .returned) : v'.Guarded h := by
  rcases hs with hs | hs
  · refine ⟨fun q hq => ?_, fun escaped => ?_, fun f hf => ?_⟩
    · obtain rfl := Option.some.inj (hs.symm.trans hq)
      exact left
    · simp [escaped, VisitStage.program?] at hs
    · simp [hf, VisitStage.program?] at hs
  · exact ⟨by simp [hs, VisitStage.program?], by simp [hs], by simp [hs]⟩

theorem Guarded.passage {stage : VisitStage} {data : CallData} (hv : v.Guarded h)
    (code : m.code = .handler h) (given : v.given = Call.handles v.proxy)
    (hs : v.Passage m stage data m' events) :
    ({ v with stage, data } : Visit).Guarded h := by
  cases hs with
  | begun p l value hp =>
    refine .onward (hv.rest p ?_) (.inl rfl)
    rcases hp with hp | hp <;> rw [hp] <;> rfl
  | fresh p hp | claim p l hp | start p handler drops hp | pass p handler drops hp | init p o next hp
  | built p u hp =>
    exact .onward (hv.rest p (by rw [hp]; rfl)) (.inl rfl)
  | torn p hp | missed p hp | failed p init n hp =>
    exact .onward (hv.rest p (by rw [hp]; rfl)) (.inr rfl)
  | broke p init r told hp loud => exact absurd (Module.parting_quiet code r) loud
  | handle g o next a data m' events hp perform | serve o next a data m' events hp perform =>
    have asked := hv.rest (.ask o next) (by rw [hp]; rfl)
    have live := perform_fromLive given perform
    exact .onward (.answer a live asked) (.inl rfl)
  | ended g u hp | served u hp => exact .onward (hv.rest (.ret u) (by rw [hp]; rfl)) (.inr rfl)
  | fault o next f hp perform =>
    have asked : (h.served v.proxy v.errand).Leads (ModuleOp.FromLive v.proxy) (.ask o next) := by
      refine hv.rest _ ?_
      rcases hp with ⟨g, hp⟩ | hp <;> rw [hp] <;> rfl
    obtain ⟨rfl, proxy, refused⟩ := perform_fault given perform
    refine ⟨by simp [VisitStage.program?], by simp, fun f hf => ?_⟩
    cases hf
    exact ⟨rfl, proxy, fun reads =>
      refused ((h.served_asks v.proxy v.errand fun _ => reads).leads asked).1⟩
  | escaped g q hp | escape q hp =>
    have panics : (h.served v.proxy v.errand).Leads (ModuleOp.FromLive v.proxy) (.panic q) :=
      hv.rest _ (by rw [hp]; rfl)
    exact ((h.served_calm v.proxy v.errand).leads panics).elim

end Visit

/-! ## Calls -/

namespace Call

/-- The handles of a call at its stages: none before it is admitted, live ones until the entry has
returned, and from then on the same ones retired. -/
def Handled (c : Call) : Prop :=
  match c.stage with
  | .arriving | .done (.error _) => c.visit.handles = {} ∧ c.visit.given = {}
  | .inside | .retiring | .escaped => c.visit.handles = handles c.visit.proxy
  | .leaving | .done (.ok _) =>
    c.visit.handles = (handles c.visit.proxy).retire ∧ ∃ given, c.visit.given = Handles.retire given

/-- A call of handler `h`: the module's code has the handles as the host made them. -/
structure Guarded (h : Handler) (c : Call) : Prop where
  given : c.stage = .inside → c.visit.stage ≠ .entering → c.visit.given = handles c.visit.proxy
  visit : c.visit.Guarded h

variable {c c' : Call} {i i' : Instance} {m m' : Module} {events : List Event} {h : Handler}

theorem handled_of_new (hc : (Task.calling c).IsNew) : c.Handled := by
  obtain ⟨proxy, request, response, errand, hc⟩ := hc
  rw [hc]
  exact ⟨rfl, rfl⟩

theorem guarded_of_new (hc : (Task.calling c).IsNew) : c.Guarded h := by
  obtain ⟨proxy, request, response, errand, hc⟩ := hc
  have stage : c.visit.stage = .entering := by rw [hc]; rfl
  exact ⟨fun _ past => absurd stage past, .entering stage⟩

theorem Transition.handled (hc : c.Handled) (hg : c.Transition i m c' i' m' events) : c'.Handled := by
  cases hg with
  | missing hs | refused hs | returned hs | broke hs | release hs =>
    simp only [Handled, hs] at hc
    exact hc
  | admitted g hs => exact rfl
  | visiting v m' events hs hstep =>
    simp only [Handled, hs] at hc ⊢
    obtain ⟨handles, proxy, -⟩ := Visit.step_frame hstep
    rw [handles, proxy, hc]
  | retire hs =>
    simp only [Handled, hs] at hc
    exact ⟨congrArg Handles.retire hc, c.visit.given, rfl⟩

theorem Transition.guarded (code : m.code = .handler h) (straight : h.Straight) (handled : c.Handled)
    (hc : c.Guarded h) (hg : c.Transition i m c' i' m' events) : c'.Guarded h := by
  cases hg with
  | missing | refused | returned | broke | release => exact ⟨by simp, hc.visit⟩
  | admitted g hs => exact ⟨fun _ past => absurd rfl past, .entering rfl⟩
  | visiting v m' events hs hstep =>
    simp only [Handled, hs] at handled
    rcases Visit.step_cases hstep with ⟨entering, rfl, -, -⟩ | ⟨stage, data, rfl, passage⟩
    · rw [Visit.enter_straight code straight handled]
      exact ⟨fun _ _ => handled, .onward .refl (.inl rfl)⟩
    · have given := hc.given hs passage.past
      exact ⟨fun _ _ => given, hc.visit.passage code given passage⟩
  | retire hs => exact ⟨by simp, hc.visit.rest, hc.visit.calm, hc.visit.fault⟩

end Call

/-! ## Runs -/

namespace System

theorem Run.handled {s : System} (hr : Run s) {t : Nat} {c : Call}
    (ht : s.threads[t]? = some (.calling c)) : c.Handled := by
  have key : ∀ (t : Nat) (c : Call), s.threads[t]? = some (.calling c) → c.Handled := by
    refine hr.induction (P := fun s => ∀ (t : Nat) (c : Call),
      s.threads[t]? = some (.calling c) → c.Handled) (by simp) fun s s' _ ih hm t c ht => ?_
    rcases hm.task_after ht with old | new | hs
    · exact ih t c old
    · exact Call.handled_of_new new
    · obtain ⟨c₀, i, i', m, m', events, hc, -, -, transition, -⟩ := (step_cases hs).call ht
      exact transition.handled (ih t c₀ hc)
  exact key t c ht

theorem Run.guarded {s : System} (hr : Run s) {t : Nat} {c : Call} {h : Handler}
    (ht : s.threads[t]? = some (.calling c)) (code : s.CodeOf c.on (.handler h))
    (straight : h.Straight) : c.Guarded h := by
  have key : ∀ (t : Nat) (c : Call), s.threads[t]? = some (.calling c) →
      s.CodeOf c.on (.handler h) → c.Guarded h := by
    refine hr.induction (P := fun s => ∀ (t : Nat) (c : Call), s.threads[t]? = some (.calling c) →
      s.CodeOf c.on (.handler h) → c.Guarded h) (by simp) fun s s' hr ih hm t c ht code => ?_
    rcases hm.task_after ht with old | new | hs
    · have there := hr.orderly.owned.known t _ c.on old (.inl rfl)
      exact ih t c old (hm.codeOf hr there code)
    · exact Call.guarded_of_new new
    · obtain ⟨c₀, i, i', m, m', events, hc, hi, hmod, transition, -⟩ := (step_cases hs).call ht
      rw [transition.on] at code
      have there := hr.orderly.owned.known t _ c₀.on hc (.inl rfl)
      have code₀ := hm.codeOf hr there code
      exact transition.guarded (code₀.of_found hi hmod) straight (hr.handled hc) (ih t c₀ hc code₀)
  exact key t c ht code

/-- Where `OnUnload` of an instance is called, no handle of its calls is live. -/
theorem Invokes.none_live {s s' : System} {t n : Nat} (hr : Run s)
    (h : s.Invokes t n .onUnload s') {u : Nat} {c : Call}
    (hu : s.threads[u]? = some (.calling c)) (hon : c.on = n) :
    c.visit.handles.NoneLive ∧ c.visit.given.NoneLive := by
  have outside : ¬ (Task.calling c).IsInside n := h.drained hr hu
  have handled := hr.handled hu
  unfold Call.Handled at handled
  split at handled
  · rw [handled.1, handled.2]
    exact ⟨Handles.noneLive_empty, Handles.noneLive_empty⟩
  · rw [handled.1, handled.2]
    exact ⟨Handles.noneLive_empty, Handles.noneLive_empty⟩
  · rename_i hs
    exact absurd ⟨hon, by simp [hs], by simp [hs]⟩ outside
  · rename_i hs
    exact absurd ⟨hon, by simp [hs], by simp [hs]⟩ outside
  · rename_i hs
    exact absurd ⟨hon, by simp [hs], by simp [hs]⟩ outside
  · rename_i hs
    exact absurd ⟨hon, by simp [hs], by simp [hs]⟩ outside
  · obtain ⟨handles, given, hgiven⟩ := handled
    rw [handles, hgiven]
    exact ⟨Handles.noneLive_retire _, Handles.noneLive_retire _⟩

/-- **Handles are valid exactly while their call runs.** In every run, the handles of a call are
all there and open as long as module code of the call runs, and on until the host retires them; only
a proxy call may replace the URI. A call is taken off the count of calls inside only with its handles
retired, and no handle of an instance's calls is live when its `OnUnload` starts. A call of a handler
module whose entries hand the handles on goes from the entrance to the program on live handles, with
nothing to report; its code has the handles as the host made them; and neither a panic nor a fault
ends it, but for a request handler that asks to replace the URI, which its view does not offer. -/
theorem handles_valid {s : System} (hr : Run s) :
    (∀ (t : Nat) (c : Call), s.threads[t]? = some (.calling c) →
      c.stage = .inside ∨ c.stage = .retiring → c.visit.handles.Open c.visit.proxy) ∧
    (∀ (s' : System) (n : Nat) (i i' : Instance), Move s s' → s.instances[n]? = some i →
      s'.instances[n]? = some i' → i'.gate.inFlight < i.gate.inFlight →
      ∃ (t : Nat) (c : Call), s.threads[t]? = some (.calling c) ∧ c.on = n ∧
        c.stage = .leaving ∧ s'.threads[t]? = some (.calling { c with stage := .done (.ok ()) }) ∧
        c.visit.handles.Retired c.visit.proxy ∧ c.visit.given.NoneLive) ∧
    (∀ (t n : Nat) (s' : System), s.Invokes t n .onUnload s' →
      ∀ (u : Nat) (c : Call), s.threads[u]? = some (.calling c) → c.on = n →
        c.visit.handles.NoneLive ∧ c.visit.given.NoneLive) ∧
    ∀ (t : Nat) (c : Call) (m : Module) (h : Handler), s.threads[t]? = some (.calling c) →
      s.CodeOf c.on m.code → m.code = .handler h → h.Straight → c.Guarded h ∧
      (c.stage = .inside → c.visit.stage = .entering → c.visit.enter m =
        ({ c.visit with given := c.visit.handles,
                        stage := .firstRead (h.served c.visit.proxy c.visit.errand) },
          [.entered c.visit.entry])) := by
  refine ⟨fun t c ht running => ?_, fun s' n i i' hm hi hi' less => ?_,
    fun t n s' h u c hu hon => h.none_live hr hu hon, fun t c m h ht code hcode straight => ?_⟩
  · have handled := hr.handled ht
    rcases running with hs | hs <;> simp only [Call.Handled, hs] at handled <;> rw [handled] <;>
      exact Call.handles_open c.visit.proxy
  · obtain ⟨t, c, ht, hon, leaving, after⟩ := hm.released hi hi' less
    have handled := hr.handled ht
    simp only [Call.Handled, leaving] at handled
    obtain ⟨handles, given, hgiven⟩ := handled
    refine ⟨t, c, ht, hon, leaving, after, ?_, ?_⟩
    · rw [handles]
      exact Call.handles_retired c.visit.proxy
    · rw [hgiven]
      exact Handles.noneLive_retire given
  · refine ⟨hr.guarded ht (hcode ▸ code) straight, fun hs _ => ?_⟩
    have handled := hr.handled ht
    simp only [Call.Handled, hs] at handled
    exact Visit.enter_straight hcode straight handled

/-- A handler that sends every proxy request to the same address. -/
def sampleRouter : Handler :=
  { init := fun _ => .ret (.ok ()), handle := fun _ => .ret (), proxy := fun _ => .ret (some "up") }

/-- Thread 0 has opened instance 0 on that handler. -/
def sampleRouting : System :=
  (((({} : System).addModule { code := .handler sampleRouter }).spawn
    (.opening sampleOpening .arriving)).steps (List.replicate 11 0)).getD {}

/-- Thread 1 is about to make a proxy call on it, and thread 2 to shut it down. -/
def sampleRouted : System :=
  (sampleRouting.spawn (.calling (.start 0 true {} {} {}))).spawn (.shutting 0 .arriving)

theorem run_sampleRouted : Run sampleRouted := by
  have opened : Run sampleRouting := (run_opening (m := { code := .handler sampleRouter }) rfl).later
    (later_of_steps (List.replicate 11 0) rfl)
  have out : sampleRouting.HandedOut 0 := ⟨_, List.mem_singleton.mpr rfl⟩
  have called := opened.move (.begin _ (.calling (.start 0 true {} {} {})) ⟨_, _, _, _, rfl⟩
    fun n hn => by cases hn; exact out)
  exact called.move (.begin _ (.shutting 0 .arriving) rfl
    fun n hn => by cases hn; exact out.spawn _)

theorem handles_valid_sample : ∃ s₁ s₂ s₃ s₄ s₅ : System,
    (∃ c, s₁.threads[1]? = some (.calling c) ∧ c.stage = .inside ∧ c.visit.handles.Open true ∧
      c.Guarded sampleRouter) ∧
    Later s₁ s₂ ∧ s₂.step 1 = some s₃ ∧
    (∃ (t : Nat) (c : Call), s₂.threads[t]? = some (.calling c) ∧ c.visit.handles.Retired c.visit.proxy) ∧
    Later s₃ s₄ ∧ s₄.Invokes 2 0 .onUnload s₅ ∧
    ∃ c, s₄.threads[1]? = some (.calling c) ∧ c.visit.handles.NoneLive := by
  -- Thread 1 runs the handler; it returns, and its handles retire; only then thread 2 unloads.
  have r₁ : Run ((sampleRouted.steps [1, 1, 1]).getD {}) :=
    run_sampleRouted.later (later_of_steps [1, 1, 1] rfl)
  have l₂ : Later ((sampleRouted.steps [1, 1, 1]).getD {})
      ((sampleRouted.steps [1, 1, 1, 1, 1, 1, 1, 1]).getD {}) :=
    later_of_steps [1, 1, 1, 1, 1] rfl
  have release : ((sampleRouted.steps [1, 1, 1, 1, 1, 1, 1, 1]).getD {}).step 1 =
      some ((sampleRouted.steps [1, 1, 1, 1, 1, 1, 1, 1, 1]).getD {}) := rfl
  have l₄ : Later ((sampleRouted.steps [1, 1, 1, 1, 1, 1, 1, 1, 1]).getD {})
      ((sampleRouted.steps [1, 1, 1, 1, 1, 1, 1, 1, 1, 2, 2]).getD {}) :=
    later_of_steps [2, 2] rfl
  have unloads : ((sampleRouted.steps [1, 1, 1, 1, 1, 1, 1, 1, 1, 2, 2]).getD {}).Invokes 2 0
      .onUnload ((sampleRouted.steps [1, 1, 1, 1, 1, 1, 1, 1, 1, 2, 2, 2]).getD {}) :=
    ⟨rfl, _, rfl, _, List.mem_singleton.mpr rfl, rfl, rfl⟩
  have r₂ := r₁.later l₂
  have r₄ := (r₂.step release).later l₄
  obtain ⟨running, -, -, guarded⟩ := handles_valid r₁
  obtain ⟨-, released, -, -⟩ := handles_valid r₂
  obtain ⟨-, -, unloading, -⟩ := handles_valid r₄
  obtain ⟨t, c, ht, -, -, -, retired, -⟩ :=
    released _ 0 _ _ (.step _ _ 1 release) rfl rfl (by decide)
  exact ⟨_, _, _, _, _,
    ⟨_, rfl, rfl, running 1 _ rfl (.inl rfl),
      (guarded 1 _ _ sampleRouter rfl ⟨_, _, rfl, rfl, rfl⟩ rfl fun _ _ _ => rfl).1⟩,
    l₂, release, ⟨t, c, ht, retired⟩, l₄, unloads, ⟨_, rfl, (unloading 2 0 _ unloads 1 _ rfl rfl).1⟩⟩

end System

end ModuleHost
