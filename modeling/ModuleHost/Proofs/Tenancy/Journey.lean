import ModuleHost.Proofs.Tenancy.Slot

/-!
# The journey of a call

The passages of a thread are its history without remarks. A call of a tended module that returns has
left its `journey` there: it was admitted, came through the entry point with one dispatch to the
handler, and was released. `Call.Journeyed` says how much of its journey a call has behind it, and
`Tended.onJourney` that this is so at every moment of a run: the handler runs on the value that was built
for the call's own instance, and no call comes back without it.
-/
namespace ModuleHost

open Boundary

/-- The passages of a call of entry point `e` that has returned, having run the handler of generation
`g`. -/
def journey (e : EntryPoint) (g : Nat) : List Event :=
  [.admitted, .entered e, .handlerBegun g, .handlerEnded g, .left e, .released]

/-- How many passages of its journey a call has behind it, where nothing has broken it off. -/
def Call.progress (c : Call) : Nat :=
  match c.stage with
  | .arriving | .done (.error _) | .escaped => 0
  | .inside =>
    match c.visit.stage with
    | .entering => 1
    | .firstRead _ => 2
    | .running .. => 3
    | .returned => 4
    | _ => 0
  | .retiring | .leaving => 5
  | .done (.ok _) => 6

/-- The events that are no remarks of module code or host. -/
def passages (events : List Event) : List Event := events.filter fun e => !e.isRemark

theorem passages_remarks {events : List Event} (h : ∀ e ∈ events, e.isRemark = true) :
    passages events = [] := by
  refine filter_remarks (fun e he => ?_) h
  rw [he]
  rfl

theorem suffix_append_both {α : Type} {a l : List α} (h : a <:+ l) (b : List α) :
    a ++ b <:+ l ++ b := by
  obtain ⟨before, rfl⟩ := h
  exact ⟨before, (List.append_assoc ..).symm⟩

namespace System

variable {s s' : System} {t u j n g : Nat} {i : Instance} {handler : Handler}

/-- The passages of thread `t`, oldest first. -/
def passagesOf (s : System) (t : Nat) : List Event := passages (s.threadLog t)

theorem passagesOf_turn (s : System) (t module : Nat) (on : Option Nat) (k : Task) (m : Module)
    (instances : List Instance) (events : List Event) :
    (s.turn t module on k m instances events).passagesOf t =
      s.passagesOf t ++ passages events := by
  rw [passagesOf, threadLog_turn, if_pos rfl, passages, List.filter_append]
  rfl

/-- An instance handed out keeps the value that was built for it. -/
theorem BuiltFor.move (h : s.BuiltFor j n g) (hm : Move s s') : s'.BuiltFor j n g := by
  obtain ⟨u, o, hu, hj, built⟩ := h
  obtain ⟨new, grown⟩ := hm.history
  obtain ⟨st', after, same | opens⟩ := hm.opening_after hu
  · subst same
    exact ⟨u, o, after, hj, by rw [grown]; exact List.mem_append_right _ built⟩
  · exact absurd rfl (opens.stage_ne _)

/-- Where a thread stands in a call, it has stood there before and done nothing, or it begins the
call, or it has taken a step of it. -/
theorem Move.calling {c' : Call} (hm : Move s s') (ht : s'.threads[t]? = some (.calling c')) :
    (s.threads[t]? = some (.calling c') ∧ s'.threadLog t = s.threadLog t) ∨
      (Task.calling c').IsNew ∨
      ∃ c i i' m m' events, s.threads[t]? = some (.calling c) ∧ s.instances[c.on]? = some i ∧
        s.modules[i.module]? = some m ∧ c.Transition i m c' i' m' events ∧
        s' = s.turn t i.module (some c.on) (.calling c') m' (s.instances.set c.on i') events := by
  cases hm with
  | install => exact .inl ⟨ht, rfl⟩
  | begin k hnew _ =>
    rcases of_getElem?_concat ht with ht | ⟨rfl, -⟩
    · exact .inl ⟨ht, rfl⟩
    · exact .inr (.inl hnew)
  | again u c d r hu _ hnew _ =>
    rcases of_getElem?_set ht with ⟨-, same⟩ | ⟨-, ht⟩
    · cases same
      exact .inr (.inl hnew)
    · exact .inl ⟨ht, rfl⟩
  | step _ u hs =>
    have turn := step_cases hs
    by_cases hut : u = t
    · subst hut
      exact .inr (.inr (turn.call ht))
    · obtain ⟨k, k', module, m', instances, events, rfl, shape⟩ := turn.shape
      rcases of_getElem?_set ht with ⟨same, -⟩ | ⟨-, ht⟩
      · exact absurd same.symm hut
      · refine .inl ⟨ht, ?_⟩
        rw [threadLog_turn, if_neg hut, List.append_nil]

end System

/-- What a call to handler `h`, on thread `t`, has behind it and is about: the handler that runs, or
has run, is of generation `g`. -/
structure Call.Journeyed (s : System) (j t : Nat) (h : Handler) (c : Call) (g : Nat) : Prop where
  own : 3 ≤ c.progress → s.BuiltFor j c.on g
  behind : (journey c.visit.entry g).take c.progress <:+ s.passagesOf t
  ready : ∀ p, c.stage = .inside → c.visit.stage = .firstRead p →
    p = h.served c.visit.proxy c.visit.errand
  running : ∀ g' p, c.stage = .inside → c.visit.stage = .running g' p → g' = g

namespace Call.Journeyed

variable {s s' : System} {t j g : Nat} {c c' : Call} {i i' : Instance} {m m' : Module}
  {events : List Event} {h : Handler}

theorem nothing (none : c.progress = 0) (g : Nat) : c.Journeyed s j t h g := by
  refine ⟨fun some => by omega, by rw [none]; exact List.nil_suffix, fun p hs hv => ?_,
    fun g' p hs hv => ?_⟩
  · simp [progress, hs, hv] at none
  · simp [progress, hs, hv] at none

theorem still (journeyed : c.Journeyed s j t h g) (hm : System.Move s s')
    (log : s'.threadLog t = s.threadLog t) : c.Journeyed s' j t h g := by
  refine ⟨fun some => (journeyed.own some).move hm, ?_, journeyed.ready, journeyed.running⟩
  rw [System.passagesOf, log]
  exact journeyed.behind

theorem onward (journeyed : c.Journeyed s j t h g)
    (after : s'.passagesOf t = s.passagesOf t ++ passages events)
    (next : (journey c'.visit.entry g).take c'.progress =
      (journey c.visit.entry g).take c.progress ++ passages events)
    (own : 3 ≤ c'.progress → s'.BuiltFor j c'.on g)
    (ready : ∀ p, c'.stage = .inside → c'.visit.stage = .firstRead p →
      p = h.served c'.visit.proxy c'.visit.errand)
    (running : ∀ g' p, c'.stage = .inside → c'.visit.stage = .running g' p → g' = g) :
    c'.Journeyed s' j t h g := by
  refine ⟨own, ?_, ready, running⟩
  rw [next, after]
  exact suffix_append_both journeyed.behind _

theorem passage {stage : VisitStage} {data : CallData} {g₀ : Nat} (journeyed : c.Journeyed s j t h g)
    (hs : c.stage = .inside) (prompt : c.visit.stage.Prompt) (hm : System.Move s s')
    (own : s.BuiltFor j c.on g₀) (value : m.context.slot.value? = some g₀)
    (after : s'.passagesOf t = s.passagesOf t ++ passages events)
    (passage : c.visit.Passage m stage data m' events) :
    ∃ g', ({ c with visit := { c.visit with stage, data } } : Call).Journeyed s' j t h g' := by
  cases passage with
  | begun p l v hv hl slot =>
    obtain rfl : v.generation = g₀ := by
      rw [slot] at value
      exact Option.some.inj value
    rcases hv with hv | hv
    · refine ⟨v.generation, fun _ => own.move hm, ?_, by simp, ?_⟩
      · have behind := journeyed.behind
        simp only [progress, hs, hv] at behind ⊢
        rw [after]
        exact suffix_append_both behind _
      · intro g' p' _ hv'
        cases hv'
        rfl
    · rw [hv] at prompt
      exact prompt.elim
  | fresh p hv slot | torn p hv slot =>
    rw [slot] at value
    cases value
  | handle g₁ o next a data m' events hv perform =>
    obtain rfl := journeyed.running g₁ _ hs hv
    refine ⟨g₁, journeyed.onward after ?_ (fun _ => (journeyed.own ?_).move hm) (by simp) ?_⟩
    · simp only [progress, hs, hv, passages_remarks (perform_remarks perform).2, List.append_nil]
      rfl
    · simp [progress, hs, hv]
    · intro g' p' _ hv'
      cases hv'
      rfl
  | ended g₁ u hv =>
    obtain rfl := journeyed.running g₁ _ hs hv
    refine ⟨g₁, journeyed.onward after ?_ (fun _ => (journeyed.own ?_).move hm) (by simp) (by simp)⟩
    · simp only [progress, hs, hv]
      rfl
    · simp [progress, hs, hv]
  | fault o next f hv | escaped g₁ q hv => exact ⟨g, nothing (by simp [progress, hs]) g⟩
  | missed p hv | claim p l hv | start p _ _ hv | pass p _ _ hv | init p o next hv | built p u hv
  | failed p init n hv | broke p init r journeyed hv | serve o next a data m' events hv | served u hv
  | escape q hv =>
    rw [hv] at prompt
    exact prompt.elim

theorem transition (journeyed : c.Journeyed s j t h g) (tenancy : s.Tenancy j) (tended : System.Tended j s)
    (code : ∀ m, s.modules[j]? = some m → m.code = .handler h) (straight : h.Straight)
    (hm : System.Move s s') (ht : s.threads[t]? = some (.calling c))
    (hi : s.instances[c.on]? = some i) (home : i.module = j) (hmod : s.modules[j]? = some m)
    (after : s'.passagesOf t = s.passagesOf t ++ passages events)
    (transition : c.Transition i m c' i' m' events) : ∃ g', c'.Journeyed s' j t h g' := by
  cases transition with
  | missing | refused | broke => exact ⟨g, nothing rfl g⟩
  | admitted gate hs =>
    refine ⟨g, journeyed.onward after ?_ (by simp [progress]) (by simp) (by simp)⟩
    simp only [progress, hs]
    rfl
  | visiting v m' events hs hstep =>
    rcases Visit.step_cases hstep with ⟨entering, rfl, -, rfl⟩ | ⟨stage, data, rfl, passage⟩
    · have handled := tended.run.handled ht
      simp only [Handled, hs] at handled
      have enters := Visit.enter_straight (code m hmod) straight handled
      rw [enters] at after ⊢
      refine ⟨g, journeyed.onward after ?_ (by simp [progress, hs]) ?_ (by simp)⟩
      · simp only [progress, hs, entering]
        rfl
      · intro p _ hv
        cases hv
        rfl
    · have inside : (Task.calling c).IsInside c.on := ⟨rfl, by simp [hs], by simp [hs]⟩
      obtain ⟨g₀, own, value⟩ := tenancy.own tended code ht inside hi home
      have context : s.context j = m.context := by simp [System.context, hmod]
      rw [context] at value
      exact journeyed.passage hs (tenancy.prompt t c i ht hi home) hm own value after passage
  | returned hs hv =>
    refine ⟨g, journeyed.onward after ?_ (fun _ => (journeyed.own ?_).move hm) (by simp) (by simp)⟩
    · simp only [progress, hs, hv]
      rfl
    · simp [progress, hs, hv]
  | retire hs =>
    refine ⟨g, journeyed.onward after ?_ (fun _ => (journeyed.own ?_).move hm) (by simp) (by simp)⟩
    · simp only [progress, hs]
      rfl
    · simp [progress, hs]
  | release hs =>
    refine ⟨g, journeyed.onward after ?_ (fun _ => (journeyed.own ?_).move hm) (by simp) (by simp)⟩
    · simp only [progress, hs]
      rfl
    · simp [progress, hs]

end Call.Journeyed

namespace System

variable {s : System} {t j : Nat} {i : Instance} {handler : Handler}

/-- **Every call of a tended module is on its journey.** -/
theorem Tended.onJourney (straight : handler.Straight) (tended : Tended j s)
    (code : ∀ m, s.modules[j]? = some m → m.code = .handler handler) {c : Call}
    (ht : s.threads[t]? = some (.calling c)) (hi : s.instances[c.on]? = some i)
    (hj : i.module = j) : ∃ g, c.Journeyed s j t handler g := by
  induction tended generalizing t c i with
  | start => cases ht
  | @move s s' tended hm allowed ih =>
    have hr := tended.run
    have before := hm.code_before hr code
    have there : ∀ {c₀ : Call}, s.threads[t]? = some (.calling c₀) → c₀.on = c.on →
        ∃ i₀, s.instances[c₀.on]? = some i₀ ∧ i₀.module = j := by
      intro c₀ hc same
      have hi₀ := List.getElem?_eq_getElem (hr.orderly.owned.known t _ c₀.on hc (.inl rfl))
      obtain ⟨i₁, σ, σ', marks, hi₁, make, -⟩ := hm.gate hi₀
      rw [same] at hi₁
      obtain rfl := Option.some.inj (hi₁.symm.trans hi)
      exact ⟨_, hi₀, make.module.symm.trans hj⟩
    rcases hm.calling ht with ⟨old, log⟩ | ⟨proxy, request, response, errand, new⟩ |
      ⟨c₀, i₀, i', m, m', events, hc, hi₀, hmod, transition, rfl⟩
    · obtain ⟨i₀, hi₀, home⟩ := there old rfl
      obtain ⟨g, journeyed⟩ := ih before old hi₀ home
      exact ⟨g, journeyed.still hm log⟩
    · rw [new]
      exact ⟨0, .nothing rfl 0⟩
    · obtain ⟨i₁, hi₁, home⟩ := there hc transition.on.symm
      obtain rfl := Option.some.inj (hi₀.symm.trans hi₁)
      obtain ⟨g, journeyed⟩ := ih before hc hi₀ home
      rw [home] at hmod
      exact journeyed.transition (tended.tenancy straight before) tended before straight hm hc hi₀ home hmod
        (passagesOf_turn ..) transition

end System

end ModuleHost
