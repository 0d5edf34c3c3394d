import ModuleHost.Proofs.Boundary.Direct
import ModuleHost.Proofs.Boundary.Window
import ModuleHost.Proofs.Instance.Following

/-!
# The bridge is transparent

A call on a handler module is followed from its start, with whatever other threads do around it. As
long as its handler runs, the host data are those of a course of the handler on the data themselves
(`Entry.Serves.course`), and where it has come to its end they are what this course and its end leave
(`request_transparent`, `proxy_transparent`). That a call comes to its end is proved as well: from
wherever its handler runs, and from the start where instance and context are live.
-/
namespace ModuleHost

open Text Boundary

/-- Whether a handler has begun in this part of a history. -/
def Begun (log : List Event) : Prop := ∃ g, .handlerBegun g ∈ log

theorem begun_append_iff {log events : List Event} :
    Begun (log ++ events) ↔ Begun log ∨ Begun events := by
  simp only [Begun, List.mem_append, exists_or]

/-- Events that begin no handler leave it open whether one has begun. -/
theorem begun_append_quiet {log events : List Event} (none : ¬ Begun events) :
    Begun (log ++ events) ↔ Begun log := by
  simp only [begun_append_iff, none, or_false]

theorem not_begun_finishStart (c : Context) (r : Except Notice Unit) :
    ¬ Begun (c.finishStart r).2 := by
  cases r <;> simp [Context.finishStart, Begun, Context.build]

theorem not_begun_of_remarks {events : List Event} (h : ∀ e ∈ events, e.isRemark = true) :
    ¬ Begun events := by
  rintro ⟨g, hg⟩
  cases h _ hg

variable {α : Type} {entry : Entry α} {p : ViewProgram α} {h : Handler} {proxy : Bool}
  {errand : Errand} {d : CallData}

/-- On the handles of a call, handler `h` serves the errand with program `p` inside the entry. -/
structure Entry.Serves (entry : Entry α) (p : ViewProgram α) (h : Handler) (proxy : Bool)
    (errand : Errand) : Prop where
  program : h.served proxy errand = entry.rest p
  wraps : entry.Wraps (Call.handles proxy)
  asks : p.Asks (ViewOp.Offered proxy)

theorem Handler.serves_request (h : Handler) (errand : Errand)
    (reads : (h.handle errand).Asks ViewOp.ReadsUri) :
    requestEntry.Serves (h.handle errand) h false errand where
  program := rfl
  wraps := wraps_requestEntry (Call.serving_handles false)
  asks := ViewProgram.asks_offered fun _ => reads

theorem Handler.serves_proxy (h : Handler) (errand : Errand) :
    (proxyEntry (Call.handles true)).Serves (h.proxy errand) h true errand where
  program := (h.guarded_eq_served true errand).symm
  wraps := wraps_proxyEntry (Call.serving_handles true)
  asks := ViewProgram.asks_offered (by simp)

/-! ## One call -/

/-- The data of a call that has come back from its entry. -/
def Entry.Outcome (entry : Entry α) (p : ViewProgram α) (d data : CallData) (log : List Event) :
    Prop :=
  Begun log ∧ entry.Leaves p d data ∨ ¬ Begun log ∧ data = d

/-- Where a visit stands that serves with `p`: before its handler has begun, the data are as they
were; then they are those of the handler's course. -/
def Visit.Course (entry : Entry α) (p : ViewProgram α) (d : CallData) (v : Visit)
    (log : List Event) : Prop :=
  match v.stage with
  | .entering => ¬ Begun log ∧ v.data = d
  | .firstRead left | .claiming left | .draining left | .initializing left _ | .secondRead left =>
    ¬ Begun log ∧ v.data = d ∧ left = entry.rest p
  | .running _ left => Begun log ∧ entry.Midway (Call.handles v.proxy) p d left v.data
  | .returned => entry.Outcome p d v.data log
  | .plain _ | .faulted _ | .escaped => False

/-- The same for the call around it. -/
def Call.Course (entry : Entry α) (p : ViewProgram α) (d : CallData) (c : Call) (log : List Event) :
    Prop :=
  match c.stage with
  | .arriving | .done (.error _) => ¬ Begun log ∧ c.visit.data = d
  | .inside => c.visit.Course entry p d log
  | .retiring | .leaving | .done (.ok _) => entry.Outcome p d c.visit.data log
  | .escaped => False

theorem Visit.Course.enter {v : Visit} {m : Module} {log : List Event}
    (serves : entry.Serves p h v.proxy v.errand) (code : m.code = .handler h) (straight : h.Straight)
    (given : v.handles = Call.handles v.proxy) (hs : v.stage = .entering)
    (hv : v.Course entry p d log) : (v.enter m).1.Course entry p d (log ++ (v.enter m).2) := by
  simp only [Course, hs] at hv
  rw [enter_straight code straight given]
  simp only [Course, begun_append_iff, serves.program, and_true]
  exact ⟨not_or.mpr ⟨hv.1, by simp [Begun]⟩, hv.2⟩

theorem Visit.Course.passage {v : Visit} {m m' : Module} {stage : VisitStage} {data : CallData}
    {log events : List Event} (serves : entry.Serves p h v.proxy v.errand)
    (code : m.code = .handler h) (given : v.given = Call.handles v.proxy) (hv : v.Course entry p d log)
    (hs : v.Passage m stage data m' events) :
    ({ v with stage, data } : Visit).Course entry p d (log ++ events) := by
  -- Steps before the handler begins, and after it, only pass on what is known.
  cases hs with
  | begun left l value hp =>
    have there : ¬ Begun log ∧ v.data = d ∧ left = entry.rest p := by
      rcases hp with hp | hp <;> simp only [Course, hp] at hv <;> exact hv
    obtain ⟨-, rfl, rfl⟩ := there
    exact ⟨begun_append_iff.mpr (.inr ⟨_, List.mem_singleton_self _⟩), .playing .begun⟩
  | fresh left hp | claim left l hp | start left handler drops hp
  | pass left handler drops hp =>
    simp only [Course, hp] at hv
    simp only [Course]
    rw [begun_append_quiet (by simp [Begun])]
    exact hv
  | torn left hp | missed left hp =>
    simp only [Course, hp] at hv
    refine .inr ⟨?_, hv.2.1⟩
    rw [begun_append_quiet (by simp [Begun])]
    exact hv.1
  | init left o next hp =>
    simp only [Course, hp] at hv
    simp only [Course]
    rw [begun_append_quiet (not_begun_of_remarks (selfPerform_remarks m o))]
    exact hv
  | built left u hp =>
    simp only [Course, hp] at hv
    simp only [Course]
    rw [begun_append_quiet (not_begun_finishStart _ _)]
    exact hv
  | failed left i n hp =>
    simp only [Course, hp] at hv
    refine .inr ⟨?_, hv.2.1⟩
    rw [begun_append_quiet (not_begun_finishStart _ _)]
    exact hv.1
  | broke left i r told hp loud => exact absurd (Module.parting_quiet code r) loud
  | handle g o next a data m' events hp perform =>
    simp only [Course, hp] at hv
    obtain ⟨a', data', m'', events', performed, midway⟩ :=
      hv.2.answer (Call.serving_handles v.proxy) serves.wraps serves.asks m
    rw [← given, ← Handles.perform_visit, perform] at performed
    cases performed
    exact ⟨(begun_append_quiet (not_begun_of_remarks (perform_remarks perform).2)).mpr hv.1, midway⟩
  | ended g u hp =>
    simp only [Course, hp] at hv
    refine .inl ⟨?_, hv.2.leaves_of_ret (Call.serving_handles v.proxy) serves.wraps serves.asks⟩
    exact (begun_append_quiet (by simp [Begun])).mpr hv.1
  | fault o next f hp perform =>
    rcases hp with ⟨g, hp⟩ | hp <;> simp only [Course, hp] at hv
    obtain ⟨a', data', m'', events', performed, -⟩ :=
      hv.2.answer (Call.serving_handles v.proxy) serves.wraps serves.asks m
    rw [← given, ← Handles.perform_visit, perform] at performed
    cases performed
  | escaped g q hp =>
    simp only [Course, hp] at hv
    exact absurd hv.2 (Entry.Midway.not_panic (Call.serving_handles v.proxy) serves.wraps serves.asks)
  | serve o next a data m' events hp | served u hp | escape q hp => simp only [Course, hp] at hv

theorem Call.Course.transition {c c' : Call} {i i' : Instance} {m m' : Module} {log events : List Event}
    (serves : entry.Serves p h c.visit.proxy c.visit.errand) (code : m.code = .handler h)
    (straight : h.Straight) (handled : c.Handled) (guarded : c.Guarded h)
    (hc : c.Course entry p d log) (hg : c.Transition i m c' i' m' events) :
    c'.Course entry p d (log ++ events) := by
  cases hg with
  | missing hs | admitted g hs | refused hs =>
    simp only [Course, hs] at hc
    refine ⟨?_, hc.2⟩
    rw [begun_append_quiet (by simp [Begun])]
    exact hc.1
  | visiting v m' events hs hstep =>
    simp only [Course, hs] at hc
    simp only [Handled, hs] at handled
    simp only [Course, hs]
    rcases Visit.step_cases hstep with ⟨entering, rfl, -, rfl⟩ | ⟨stage, data, rfl, passage⟩
    · exact hc.enter serves code straight handled entering
    · exact hc.passage serves code (guarded.given hs passage.past) passage
  | returned hs back =>
    simp only [Course, hs, Visit.Course, back] at hc
    simp only [Course, Entry.Outcome]
    rw [begun_append_quiet (by simp [Begun])]
    exact hc
  | broke hs broken =>
    simp only [Course, hs, Visit.Course] at hc
    rcases broken with ⟨f, hv⟩ | hv <;> simp only [hv] at hc
  | retire hs | release hs =>
    simp only [Course, hs] at hc
    simp only [Course, Entry.Outcome]
    rw [begun_append_quiet (by simp [Begun])]
    exact hc

namespace System

variable {s₀ s : System} {t n : Nat} {request : Request} {response : Response}

/-- **A call stays in the course of its handler** as long as it is followed. -/
theorem Follows.course (hr : Run s₀)
    (ht : s₀.threads[t]? = some (.calling (.start n proxy request response errand)))
    (code : s₀.CodeOf n (.handler h)) (straight : h.Straight) (serves : entry.Serves p h proxy errand)
    (follows : s₀.Follows t s) :
    ∃ c log, s.threads[t]? = some (.calling c) ∧ c.on = n ∧ c.visit.proxy = proxy ∧
      s.threadLog t = s₀.threadLog t ++ log ∧ c.Course entry p ⟨request, response, none⟩ log := by
  have kept := follows.call
    (P := fun c log => (c.visit.proxy = proxy ∧ c.visit.errand = errand) ∧
      c.Course entry p ⟨request, response, none⟩ log) ht ⟨⟨rfl, rfl⟩, by simp [Begun], rfl⟩ (by
    rintro s₁ c₁ c₂ i i' m m' log events before hc hi hm on transition ⟨⟨rfl, rfl⟩, course⟩
    have run := hr.later before.later
    have code₁ : s₁.CodeOf c₁.on (.handler h) := by
      rw [on]
      exact before.later.codeOf hr code
    refine ⟨?_, course.transition serves (code₁.of_found hi hm) straight (run.handled hc)
      (run.guarded hc code₁ straight) transition⟩
    cases transition with
    | visiting v m' events hs hstep => exact (Visit.step_frame hstep).2
    | missing | admitted | refused | returned | broke | retire | release => exact ⟨rfl, rfl⟩)
  obtain ⟨c, log, hc, on, hlog, ⟨same, -⟩, course⟩ := kept
  exact ⟨c, log, hc, on, same, hlog, course⟩

/-- A handler that runs on handles on which it meets no fault comes to its end, and its call too. -/
theorem Stands.finish_running {c : Call} {i : Instance} {m : Module} {g : Nat}
    {left : ModuleProgram Unit} (stands : s.Stands t c i m) (inside : c.stage = .inside)
    (running : c.visit.stage = .running g left)
    (ends : c.visit.given.Ensures (fun r _ => r = .ok ()) left c.visit.data) :
    ∃ s', s.Comes t s' ∧ ∃ data, s'.report? t = some (.called (.ok ()) c.visit.proxy data) := by
  induction left generalizing s c m with
  | ret u =>
    have hv : c.visit.step m = some ({ c.visit with stage := .returned },
        m.setContext { m.context with lock := m.context.lock.releaseRead }, [.handlerEnded g]) := by
      simp only [Visit.step, running]
    obtain ⟨s₁, step₁, h₁⟩ := stands.step (Call.step_visiting inside hv) rfl
    obtain ⟨s', comes, data, report⟩ := h₁.finish inside rfl
    exact ⟨s', .step step₁ comes, data, report⟩
  | panic q => cases ends
  | ask o next ih =>
    obtain ⟨a, data, m', events, perform, rest⟩ := ends m
    have performed := (Handles.perform_visit c.visit m o).trans perform
    have hv : c.visit.step m =
        some ({ c.visit with data, stage := .running g (next a) }, m', events) := by
      simp only [Visit.step, running, performed]
    obtain ⟨s₁, step₁, h₁⟩ := stands.step (Call.step_visiting inside hv) rfl
    obtain ⟨s', comes, data', report⟩ := ih a h₁ inside rfl rest
    exact ⟨s', .step step₁ comes, data', report⟩

/-- Since `s₀`, thread `t` has begun a handler. -/
def Dispatched (s₀ : System) (t : Nat) (s : System) : Prop :=
  ∃ log, s.threadLog t = s₀.threadLog t ++ log ∧ Begun log

theorem dispatched_iff {log : List Event} (h : s.threadLog t = s₀.threadLog t ++ log) :
    s₀.Dispatched t s ↔ Begun log := by
  refine ⟨fun ⟨log', same, begun⟩ => ?_, fun begun => ⟨log, h, begun⟩⟩
  rw [List.append_cancel_left (h.symm.trans same)]
  exact begun

theorem of_report_called {c : Call} {r : Except HostError Unit} {data : CallData}
    (ht : s.threads[t]? = some (.calling c)) (h : s.report? t = some (.called r proxy data)) :
    c.stage = .done r ∧ c.visit.data = data := by
  simp only [report?, ht, Option.bind_some, Task.report?] at h
  split at h
  · rename_i r' done
    cases h
    exact ⟨done, rfl⟩
  · cases h

section
variable (hr : Run s₀)
  (ht : s₀.threads[t]? = some (.calling (.start n proxy request response errand)))
  (code : s₀.CodeOf n (.handler h)) (straight : h.Straight) (serves : entry.Serves p h proxy errand)
include hr ht code straight serves

/-- What a call has come to: its handler was dispatched, and the data are what it leaves; or it was
not, and they are as they were. -/
theorem Follows.called {r : Except HostError Unit} {data : CallData} (follows : s₀.Follows t s)
    (report : s.report? t = some (.called r proxy data)) :
    s₀.Dispatched t s ∧ r = .ok () ∧ entry.Leaves p ⟨request, response, none⟩ data ∨
      ¬ s₀.Dispatched t s ∧ data = ⟨request, response, none⟩ := by
  obtain ⟨c, log, hc, -, -, hlog, course⟩ := follows.course hr ht code straight serves
  obtain ⟨done, rfl⟩ := of_report_called hc report
  rw [dispatched_iff hlog]
  cases r with
  | error e =>
    simp only [Call.Course, done] at course
    exact .inr course
  | ok u =>
    simp only [Call.Course, done] at course
    exact course.imp (fun ⟨begun, leaves⟩ => ⟨begun, rfl, leaves⟩) id

/-- While its handler runs, the data are those of its course, and its thread can bring it to its
end. -/
theorem Follows.running {c : Call} {g : Nat} {left : ModuleProgram Unit} (follows : s₀.Follows t s)
    (hc : s.threads[t]? = some (.calling c)) (running : c.visit.stage = .running g left)
    (inside : c.stage = .inside) :
    entry.Midway (Call.handles proxy) p ⟨request, response, none⟩ left c.visit.data ∧
      ∃ s', s.Comes t s' ∧ ∃ data, s'.report? t = some (.called (.ok ()) proxy data) := by
  obtain ⟨c', log, hc', rfl, rfl, hlog, course⟩ := follows.course hr ht code straight serves
  cases hc.symm.trans hc'
  simp only [Call.Course, inside, Visit.Course, running] at course
  have run := hr.later follows.later
  have code' := follows.later.codeOf hr code
  obtain ⟨i, m, hi, hm, -⟩ := id code'
  have given := (run.guarded hc code' straight).given inside (by simp [running])
  refine ⟨course.2, Stands.finish_running ⟨hc, hi, hm⟩ inside running ?_⟩
  rw [given]
  exact (course.2.ensures (Call.serving_handles _) serves.wraps serves.asks).mono fun r d' h => h.1

/-- **A call on a live instance and a live context** is dispatched to the handler, and comes to its
end. -/
theorem Comes.called {i : Instance} {m : Module} {value : HandlerValue}
    (hi : s₀.instances[n]? = some i) (hm : s₀.modules[i.module]? = some m)
    (gate : i.gate.state = .live) (exported : proxy = true → i.exports.proxy = true)
    (slot : m.context.slot = .live value) (free : m.context.lock.claimed = false) :
    ∃ s, s₀.Comes t s ∧ s₀.Dispatched t s ∧
      ∃ data, s.report? t = some (.called (.ok ()) proxy data) := by
  obtain ⟨g, admits⟩ : ∃ g, i.gate.admit? = some g := ⟨_, if_pos gate⟩
  obtain ⟨l, acquire⟩ : ∃ l, m.context.lock.acquireRead? = some l := ⟨_, if_neg (by simp [free])⟩
  have hcode : m.code = .handler h := code.of_found hi hm
  have stands : s₀.Stands t (.start n proxy request response errand) i m := ⟨ht, hi, hm⟩
  -- Through the gate, through the entrance, and to the lock.
  let v : Visit := ⟨proxy, errand, Call.handles proxy, {}, ⟨request, response, none⟩, .entering⟩
  let v₁ : Visit :=
    { v with given := v.handles, stage := .firstRead (h.served proxy errand) }
  let v₂ : Visit := { v₁ with stage := .running value.generation (h.served proxy errand) }
  have admitted : (Call.start n proxy request response errand).step i m =
      some (⟨n, v, .inside⟩, { i with gate := g }, m, [.admitted]) := by
    have there : (proxy && !i.exports.proxy) = false := by
      cases hp : proxy with
      | false => rfl
      | true => simp [exported hp]
    simp only [Call.start, Call.step, Call.arrive, there, admits, Bool.false_eq_true, if_false, v]
  have enter : v.enter m = (v₁, [.entered v.entry]) := Visit.enter_straight hcode straight rfl
  have entered : v.step m = some (v₁, m, [.entered v.entry]) := by
    have step : v.step m = some ((v.enter m).1, m, (v.enter m).2) := rfl
    rw [step, enter]
  have began : v₁.step m = some (v₂,
      m.setContext { m.context with lock := l, calls := m.context.calls + 1 },
      [.handlerBegun value.generation]) := by
    simp only [Visit.step, Visit.read, acquire, slot, Option.map_some, v₁, v₂]
  obtain ⟨s₁, step₁, h₁⟩ := stands.step admitted rfl
  obtain ⟨s₂, step₂, h₂⟩ := h₁.step (Call.step_visiting rfl entered) rfl
  obtain ⟨s₃, step₃, h₃⟩ := h₂.step (Call.step_visiting rfl began) rfl
  have comes : s₀.Comes t s₃ := .step step₁ (.step step₂ (.step step₃ (.refl s₃ t)))
  obtain ⟨c, log, hc, -, -, hlog, course⟩ := comes.follows.course hr ht code straight serves
  cases h₃.task.symm.trans hc
  obtain ⟨-, s₄, last, data, report⟩ :=
    comes.follows.running hr ht code straight serves h₃.task rfl rfl
  refine ⟨s₄, comes.trans last, ?_, data, report⟩
  obtain ⟨c', log', -, -, hlog', -⟩ := last.follows.call (P := fun _ _ => True) h₃.task trivial
    fun _ _ _ _ _ _ _ => trivial
  refine ⟨log ++ log', ?_, begun_append_iff.mpr (.inl course.1)⟩
  rw [hlog', hlog, List.append_assoc]

end

/-- **The request bridge is transparent.** Thread `t` is about to make a request call on a handler
module. Whatever other threads do: while its handler runs, the host data are those of a course of the
handler on request and response themselves, each answer being what these hold, and the thread can
bring the call to its end. Where the call has come to its end, either the handler was dispatched, and
the request is as it was and the response is the one that the same operations make of it, with status
500 behind a panic that left none; or it was not, and nothing has changed. On a live instance and a
live context it is dispatched. A body is read as text, and text is written, as its bytes are. -/
theorem request_transparent {h : Handler} (hr : Run s₀)
    (ht : s₀.threads[t]? = some (.calling (.start n false request response errand)))
    (code : s₀.CodeOf n (.handler h)) (straight : h.Straight)
    (reads : (h.handle errand).Asks ViewOp.ReadsUri) :
    (∀ (s : System) (c : Call) (g : Nat) (left : ModuleProgram Unit), s₀.Follows t s →
      s.threads[t]? = some (.calling c) → c.visit.stage = .running g left → c.stage = .inside →
      Handler.requestEntry.Midway (Call.handles false) (h.handle errand) ⟨request, response, none⟩ left
        c.visit.data ∧
      ∃ s', s.Comes t s' ∧ ∃ data, s'.report? t = some (.called (.ok ()) false data)) ∧
    (∀ (s : System) (r : Except HostError Unit) (data : CallData), s₀.Follows t s →
      s.report? t = some (.called r false data) →
      (s₀.Dispatched t s ∧ r = .ok () ∧
        ∃ (ops : List ViewOp) (ending : Except Payload Unit),
          (h.handle errand).Ends ⟨request, response, none⟩ ops ending ∧ data.request = request ∧
          data.response =
            ((⟨request, response, none⟩ : CallData).applyAll ops).response.settle ending) ∨
      ¬ s₀.Dispatched t s ∧ data = ⟨request, response, none⟩) ∧
    (∀ (i : Instance) (m : Module) (value : HandlerValue), s₀.instances[n]? = some i →
      s₀.modules[i.module]? = some m → i.gate.state = .live → m.context.slot = .live value →
      m.context.lock.claimed = false →
      ∃ s, s₀.Comes t s ∧ s₀.Dispatched t s ∧
        ∃ data, s.report? t = some (.called (.ok ()) false data)) ∧
    (∀ (d : CallData) (ops : List ViewOp) (ending : Except Payload (Option String)),
      View.bodyText.Ends d ops ending → ending = .ok (d.request.body.map decodeLossy) ∧
        d.applyAll ops = d) ∧
    ∀ (d : CallData) (text : String) (ops : List ViewOp) (ending : Except Payload Unit),
      (View.writeText text).Ends d ops ending → ending = .ok () ∧
        d.applyAll ops = { d with response := d.response.writeBody (encode text) } := by
  have serves := h.serves_request errand reads
  refine ⟨fun s c g left follows hc running inside =>
      follows.running hr ht code straight serves hc running inside,
    fun s r data follows report => ?_,
    fun i m value hi hm gate slot free =>
      Comes.called hr ht code straight serves hi hm gate (by simp) slot free,
    fun d ops ending => ViewProgram.bodyText_ends, fun d text ops ending => ViewProgram.writeText_ends⟩
  rcases follows.called hr ht code straight serves report with ⟨dispatched, ok, leaves⟩ | aside
  · obtain ⟨ops, ending, ends, rfl⟩ := leaves
    refine .inl ⟨dispatched, ok, ops, ending, ends, ?_, rfl⟩
    obtain ⟨q, plays⟩ := ends.plays
    have asked := (plays.asks reads).1
    have request := ((⟨request, response, none⟩ : CallData).applyAll_frame ops).1
    rw [latestUri_of_reads asked] at request
    exact request
  · exact .inr aside

/-- A handler that greets in the language asked for, tries a header that no response takes, and then
panics without a status. -/
def sampleGreeter : Handler :=
  { init := fun _ => .ret (.ok ()),
    handle := fun _ =>
      (View.op (.header "Accept-Language")).bind fun (language : Option String) =>
        (View.writeText (language.getD "?")).bind fun _ =>
          (View.op (.setHeader "x y" "1")).bind fun _ => .panic (.text "no greeting") }

/-- Thread 0 has opened instance 0 on that handler. -/
def sampleGreeting : System :=
  (((({} : System).addModule { code := .handler sampleGreeter }).spawn
    (.opening sampleOpening .arriving)).steps (List.replicate 11 0)).getD {}

theorem run_sampleGreeting : Run sampleGreeting :=
  (run_opening (m := { code := .handler sampleGreeter }) rfl).later
    (later_of_steps (List.replicate 11 0) rfl)

/-- Thread 1 is about to ask it for a greeting. -/
def sampleGreeted : System :=
  sampleGreeting.spawn (.calling
    (.start 0 false (({} : Request).setHeader "accept-language" "en") {} {}))

theorem run_sampleGreeted : Run sampleGreeted :=
  run_sampleGreeting.move (.begin _ _ ⟨_, _, _, _, rfl⟩
    fun n hn => by cases hn; exact ⟨_, List.mem_singleton.mpr rfl⟩)

theorem request_transparent_sample : ∃ (s : System) (data : CallData) (ops : List ViewOp)
    (ending : Except Payload Unit),
    sampleGreeted.Comes 1 s ∧ sampleGreeted.Dispatched 1 s ∧
    s.report? 1 = some (.called (.ok ()) false data) ∧
    (sampleGreeter.handle {}).Ends
      ⟨({} : Request).setHeader "accept-language" "en", {}, none⟩ ops ending ∧
    data.response = { status := 500, body := [0x65, 0x6E] } := by
  have reads : (sampleGreeter.handle {}).Asks ViewOp.ReadsUri :=
    ⟨trivial, fun _ => ⟨trivial, fun _ => ⟨trivial, fun _ => trivial⟩⟩⟩
  have comes : sampleGreeted.Comes 1 ((sampleGreeted.steps (List.replicate 15 1)).getD {}) :=
    ⟨15, rfl⟩
  obtain ⟨-, ended, -⟩ := request_transparent run_sampleGreeted (t := 1) rfl ⟨_, _, rfl, rfl, rfl⟩
    (fun _ _ _ => rfl) reads
  rcases ended _ _ _ comes.follows rfl with
    ⟨dispatched, -, ops, ending, ends, -, -⟩ | ⟨-, same⟩
  · exact ⟨_, _, ops, ending, comes, dispatched, rfl, ends, by decide +kernel⟩
  · exact absurd same (by decide +kernel)

/-- **The proxy bridge is transparent.** The same for a proxy call: what the handler reads as the URI
is always the last one that it has set, or else the one that the request came with. Where the call has
come to its end and the handler was dispatched, the target is the address that the handler returned,
and none if it returned none or panicked; the request has the last URI set, however the handler ended,
and is otherwise as it was; and the response is what the same operations make of it, with status 500
behind a panic that left none. -/
theorem proxy_transparent {h : Handler} (hr : Run s₀)
    (ht : s₀.threads[t]? = some (.calling (.start n true request response errand)))
    (code : s₀.CodeOf n (.handler h)) (straight : h.Straight) :
    (∀ (s : System) (c : Call) (g : Nat) (left : ModuleProgram Unit), s₀.Follows t s →
      s.threads[t]? = some (.calling c) → c.visit.stage = .running g left → c.stage = .inside →
      (Handler.proxyEntry (Call.handles true)).Midway (Call.handles true) (h.proxy errand)
        ⟨request, response, none⟩ left c.visit.data ∧
      ∃ s', s.Comes t s' ∧ ∃ data, s'.report? t = some (.called (.ok ()) true data)) ∧
    (∀ (ops : List ViewOp) (uri : String),
      ViewOp.uri.Gives ((⟨request, response, none⟩ : CallData).applyAll ops) uri ↔
        uri = latestUri request.uri ops) ∧
    (∀ (s : System) (r : Except HostError Unit) (data : CallData), s₀.Follows t s →
      s.report? t = some (.called r true data) →
      (s₀.Dispatched t s ∧ r = .ok () ∧
        ∃ (ops : List ViewOp) (ending : Except Payload (Option String)),
          (h.proxy errand).Ends ⟨request, response, none⟩ ops ending ∧
          (∀ address, data.target = some address ↔ ending = .ok (some address)) ∧
          data.request = { request with uri := latestUri request.uri ops } ∧
          data.response =
            ((⟨request, response, none⟩ : CallData).applyAll ops).response.settle ending) ∨
      ¬ s₀.Dispatched t s ∧ data = ⟨request, response, none⟩) ∧
    ∀ (i : Instance) (m : Module) (value : HandlerValue), s₀.instances[n]? = some i →
      s₀.modules[i.module]? = some m → i.gate.state = .live → i.exports.proxy = true →
      m.context.slot = .live value → m.context.lock.claimed = false →
      ∃ s, s₀.Comes t s ∧ s₀.Dispatched t s ∧
        ∃ data, s.report? t = some (.called (.ok ()) true data) := by
  have serves := h.serves_proxy errand
  have frame := (⟨request, response, none⟩ : CallData).applyAll_frame
  refine ⟨fun s c g left follows hc running inside =>
      follows.running hr ht code straight serves hc running inside,
    fun ops uri => by simp only [ViewOp.Gives, (frame ops).1],
    fun s r data follows report => ?_,
    fun i m value hi hm gate exported slot free =>
      Comes.called hr ht code straight serves hi hm gate (fun _ => exported) slot free⟩
  rcases follows.called hr ht code straight serves report with ⟨dispatched, ok, leaves⟩ | aside
  · obtain ⟨ops, ending, ends, rfl⟩ := leaves
    refine .inl ⟨dispatched, ok, ops, ending, ends, ?_⟩
    obtain ⟨target, request, response⟩ := CallData.aim_handles
      (((⟨request, response, none⟩ : CallData).applyAll ops).settle ending) (choice ending)
      (frame ops).2
    refine ⟨fun address => ?_, request.trans (frame ops).1, response⟩
    exact (Eq.congr_left target).trans choice_eq_some
  · exact .inr aside

/-- A handler that routes to a mirror, and panics where it does not know one. -/
def sampleMirror : Handler :=
  { init := fun _ => .ret (.ok ()), handle := fun _ => .ret (),
    proxy := fun _ =>
      (View.op (.setUri "/mirror")).bind fun _ =>
        (View.op .uri).bind fun (uri : String) =>
          (View.op (.header "Host")).bind fun (host : Option String) =>
            match host with
            | none => .panic (.text "no host")
            | some host => .ret (some (host ++ uri)) }

/-- Thread 0 has opened instance 0 on that handler. -/
def sampleMirroring : System :=
  (((({} : System).addModule { code := .handler sampleMirror }).spawn
    (.opening sampleOpening .arriving)).steps (List.replicate 11 0)).getD {}

/-- Thread 1 is about to make a proxy call without a host on it. -/
def sampleMirrored : System :=
  sampleMirroring.spawn (.calling (.start 0 true (.new "GET" "/a") {} {}))

theorem run_sampleMirrored : Run sampleMirrored := by
  have opened : Run sampleMirroring := (run_opening (m := { code := .handler sampleMirror }) rfl).later
    (later_of_steps (List.replicate 11 0) rfl)
  exact opened.move (.begin _ _ ⟨_, _, _, _, rfl⟩
    fun n hn => by cases hn; exact ⟨_, List.mem_singleton.mpr rfl⟩)

theorem proxy_transparent_sample : ∃ (s : System) (data : CallData) (ops : List ViewOp)
    (ending : Except Payload (Option String)),
    sampleMirrored.Comes 1 s ∧ sampleMirrored.Dispatched 1 s ∧
    s.report? 1 = some (.called (.ok ()) true data) ∧
    (sampleMirror.proxy {}).Ends ⟨.new "GET" "/a", {}, none⟩ ops ending ∧
    data.target = none ∧ data.request = .new "GET" "/mirror" ∧ data.response = { status := 500 } ∧
    latestUri "/a" ops = "/mirror" := by
  have comes : sampleMirrored.Comes 1 ((sampleMirrored.steps (List.replicate 13 1)).getD {}) :=
    ⟨13, rfl⟩
  obtain ⟨-, -, ended, -⟩ := proxy_transparent run_sampleMirrored (t := 1) rfl
    ⟨_, _, rfl, rfl, rfl⟩ (fun _ _ _ => rfl)
  rcases ended _ _ _ comes.follows rfl with
    ⟨dispatched, -, ops, ending, ends, -, request, -⟩ | ⟨-, same⟩
  · have uri : _ = latestUri "/a" ops := congrArg Request.uri request
    exact ⟨_, _, ops, ending, comes, dispatched, rfl, ends, by decide +kernel, by decide +kernel,
      by decide +kernel, uri.symm.trans (by decide +kernel)⟩
  · exact absurd same (by decide +kernel)

end System

end ModuleHost
