import ModuleHost.Proofs.Context.Hold

/-!
# Inside an entry point

A step inside an entry point either passes its entrance or leaves only inner events: what module
code says of itself, and the marks of its context. No entry point is called, left, admitted to or
closed from within another one.
-/
namespace ModuleHost
open Boundary

/-- What module code says of itself and of its context, but of no passage through an entry point. -/
def Event.isInner (e : Event) : Bool := e.isRemark || e.ofContext

theorem isInner_of_remarks {events : List Event} (h : ∀ e ∈ events, e.isRemark = true) :
    ∀ e ∈ events, e.isInner = true := fun e he => by simp [Event.isInner, h e he]

theorem Context.finishStart_inner (c : Context) (r : Except Notice Unit) :
    ∀ e ∈ (c.finishStart r).2, e.isInner = true := by
  cases r <;> simp [finishStart, Event.isInner, Event.isRemark, Event.ofContext]

theorem Context.endStart_inner (c : Context) (r : Except Notice Unit) (parting : Parting) :
    ∀ e ∈ (c.endStart r parting).2, e.isInner = true := by
  cases parting with
  | quiet => exact c.finishStart_inner r
  | told => cases r <;> simp [endStart, Event.isInner, Event.isRemark]
  | untold => simp [endStart]

namespace HookStage

theorem locked_inner (hook : Hook) (m : Module) (h : Handler) :
    ∀ e ∈ (locked hook m h).2.2, e.isInner = true := by
  unfold locked
  simp only
  split <;> simp [Event.isInner, Event.isRemark, Event.ofContext]

theorem afterClose_inner (v : HandlerValue) (m : Module) (r : Upshot) :
    ∀ e ∈ (step.afterClose v m r).2.2, e.isInner = true := by
  unfold step.afterClose
  split <;> simp [Event.isInner, Event.isRemark]

theorem afterDrop_inner (v : HandlerValue) (m : Module) (p : Payload) :
    ∀ e ∈ (step.afterDrop v m p).2.2, e.isInner = true := by
  unfold step.afterDrop
  split <;> simp [Event.isInner, Event.isRemark, Event.ofContext]

theorem step_inner {hook : Hook} {m m' : Module} {h h' : HookStage} {events : List Event}
    (hs : h.step hook m = some (h', m', events)) :
    h = .entering ∧ events = [.entered hook.entry] ∨
      h ≠ .entering ∧ ∀ e ∈ events, e.isInner = true := by
  cases h with
  | entering =>
    simp only [step, Option.some.injEq, Prod.mk.injEq] at hs
    exact .inl ⟨rfl, hs.2.2.symm⟩
  | claiming =>
    simp only [step, Option.map_eq_some_iff, Prod.mk.injEq] at hs
    obtain ⟨l, -, rfl, rfl, rfl⟩ := hs
    exact .inr (by simp)
  | draining =>
    simp only [step] at hs
    split at hs
    · rename_i handler _ _
      split at hs
      · simp only [Option.some.injEq] at hs
        have inner := locked_inner hook m handler
        rw [hs] at inner
        exact .inr ⟨by simp, inner⟩
      · cases hs
    · cases hs
  | initializing p =>
    cases p with
    | ask o next =>
      simp only [step, Option.some.injEq, Prod.mk.injEq] at hs
      obtain ⟨rfl, rfl, rfl⟩ := hs
      exact .inr ⟨by simp, isInner_of_remarks (selfPerform_remarks m o)⟩
    | ret r | panic p =>
      cases hs
      exact .inr ⟨by simp, m.context.endStart_inner _ _⟩
  | closing v p =>
    cases p with
    | ask o next =>
      simp only [step, Option.some.injEq, Prod.mk.injEq] at hs
      obtain ⟨rfl, rfl, rfl⟩ := hs
      exact .inr ⟨by simp, isInner_of_remarks (selfPerform_remarks m o)⟩
    | ret r =>
      simp only [step, Option.some.injEq] at hs
      exact .inr ⟨by simp, by simpa only [hs] using afterClose_inner v m (.ok r)⟩
    | panic q =>
      simp only [step, Option.some.injEq] at hs
      exact .inr ⟨by simp, by simpa only [hs] using afterClose_inner v m (.error q)⟩
  | dropping v p =>
    cases p with
    | ask o next =>
      simp only [step, Option.some.injEq, Prod.mk.injEq] at hs
      obtain ⟨rfl, rfl, rfl⟩ := hs
      exact .inr ⟨by simp, isInner_of_remarks (selfPerform_remarks m o)⟩
    | ret r =>
      simp only [step, Option.some.injEq, Prod.mk.injEq] at hs
      obtain ⟨rfl, rfl, rfl⟩ := hs
      exact .inr (by simp [Event.isInner, Event.ofContext])
    | panic q =>
      simp only [step, Option.some.injEq] at hs
      exact .inr ⟨by simp, by simpa only [hs] using afterDrop_inner v m q⟩
  | unwinding v p | plain p =>
    cases p with
    | ask o next =>
      simp only [step, Option.some.injEq, Prod.mk.injEq] at hs
      obtain ⟨rfl, rfl, rfl⟩ := hs
      exact .inr ⟨by simp, isInner_of_remarks (selfPerform_remarks m o)⟩
    | ret r | panic p =>
      simp only [step, Option.some.injEq, Prod.mk.injEq] at hs
      obtain ⟨rfl, rfl, rfl⟩ := hs
      exact .inr (by simp [Event.isInner, Event.isRemark, Event.ofContext])
  | returned code => cases hs
  | escaped => cases hs

end HookStage

namespace Visit

theorem enter_inner (v : Visit) (m : Module) :
    ∃ more, (v.enter m).2 = .entered v.entry :: more ∧ ∀ e ∈ more, e.isInner = true := by
  unfold enter
  split
  · exact ⟨[], rfl, by simp⟩
  · simp only
    split
    · exact ⟨[], rfl, by simp⟩
    · exact ⟨[_], rfl, by simp [Event.isInner, Event.isRemark]⟩
    · exact ⟨[], rfl, by simp⟩

theorem read_inner {v v' : Visit} {m m' : Module} {p : ModuleProgram Unit}
    {fresh torn : VisitStage} {tornEvents events : List Event}
    (h : v.read m p fresh torn tornEvents = some (v', m', events))
    (hev : ∀ e ∈ tornEvents, e.isInner = true) : ∀ e ∈ events, e.isInner = true := by
  simp only [read, Option.map_eq_some_iff] at h
  obtain ⟨l, -, h⟩ := h
  split at h
  · cases h
    simp [Event.isInner, Event.ofContext]
  · cases h
    simp
  · cases h
    exact hev

theorem step_inner {v v' : Visit} {m m' : Module} {events : List Event}
    (h : v.step m = some (v', m', events)) :
    (v.stage = .entering ∧ ∃ more, events = .entered v.entry :: more ∧
      ∀ e ∈ more, e.isInner = true) ∨ v.stage ≠ .entering ∧ ∀ e ∈ events, e.isInner = true := by
  unfold step at h
  split at h
  · rename_i hs
    cases h
    exact .inl ⟨hs, v.enter_inner m⟩
  · rename_i p hs
    exact .inr ⟨by simp [hs], read_inner h (by simp [Event.isInner, Event.isRemark])⟩
  · rename_i p hs
    simp only [Option.map_eq_some_iff, Prod.mk.injEq] at h
    obtain ⟨l, -, rfl, rfl, rfl⟩ := h
    exact .inr ⟨by simp [hs], by simp⟩
  · rename_i p hs
    refine .inr ⟨by simp [hs], ?_⟩
    split at h
    · split at h
      · simp only [Option.some.injEq, locked] at h
        split at h <;> cases h <;> simp [Event.isInner, Event.ofContext]
      · cases h
    · cases h
  · rename_i p o next hs
    cases h
    exact .inr ⟨by simp [hs], isInner_of_remarks (selfPerform_remarks m o)⟩
  · rename_i p r hs
    cases h
    exact .inr ⟨by simp [hs], m.context.endStart_inner _ _⟩
  · rename_i p q hs
    cases h
    exact .inr ⟨by simp [hs], m.context.endStart_inner _ _⟩
  · rename_i p hs
    exact .inr ⟨by simp [hs], read_inner h (by simp)⟩
  · rename_i g o next hs
    refine .inr ⟨by simp [hs], ?_⟩
    split at h
    · cases h
      simp
    · rename_i hperform
      cases h
      exact isInner_of_remarks (perform_remarks hperform).2
  · rename_i g r hs
    cases h
    exact .inr ⟨by simp [hs], by simp [Event.isInner, Event.ofContext]⟩
  · rename_i g q hs
    cases h
    exact .inr ⟨by simp [hs], by simp [Event.isInner, Event.ofContext]⟩
  · rename_i o next hs
    refine .inr ⟨by simp [hs], ?_⟩
    split at h
    · cases h
      simp
    · rename_i hperform
      cases h
      exact isInner_of_remarks (perform_remarks hperform).2
  · rename_i r hs
    cases h
    exact .inr ⟨by simp [hs], by simp⟩
  · rename_i q hs
    cases h
    exact .inr ⟨by simp [hs], by simp⟩
  · cases h
  · cases h
  · cases h

end Visit

end ModuleHost
