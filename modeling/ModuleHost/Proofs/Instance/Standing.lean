import ModuleHost.Proofs.Instance.Opening

/-!
# What a thread is to an instance

A `Standing` says what an instance has to reckon with from a thread: nothing, an opener that has
not called `OnLoad`, an admitted call before or after it entered the module, the one shutdown on
its way from the closed gate to the published end, or a shutdown that has seen this end. `Gate.Step`
lists all steps that a thread can take with respect to one instance, each with the standing before
and after, the gate before and after, and the gate marks that it leaves. `Turn.view` says that a turn
of the machine is one of these steps for each instance that there is.
-/
namespace ModuleHost

open Boundary

inductive Standing where
  | apart
  /-- The opener, before it calls `OnLoad`. -/
  | starting
  /-- A call between its admission and the entry point. -/
  | admitted
  /-- A call from the entry point on, until it no longer counts as inside. -/
  | within
  /-- The shutdown that closed the gate, waiting for the calls inside. -/
  | draining
  /-- The shutdown found no call inside; it is about to call `OnUnload`. -/
  | drained
  /-- The shutdown from the start of `OnUnload` on, or without that entry point from the end of
  the wait on, until the end is published. -/
  | unloading
  /-- A shutdown that has published the end, or found it published. -/
  | ended
  deriving DecidableEq, Repr

def ShutdownStage.standing : ShutdownStage → Standing
  | .draining _ => .draining
  | .unloading _ .entering => .drained
  | .unloading .. | .unmapping .. | .publishing .. | .escaped => .unloading
  | .broadcasting .. | .reporting .. | .done _ => .ended
  | .arriving | .asleep _ => .apart

def OpenStage.standing : OpenStage → Standing
  | .loading _ .entering => .starting
  | .abandoning _ _ s | .dropping _ _ s => s.standing
  | _ => .apart

def Call.standing (c : Call) : Standing :=
  match c.stage with
  | .arriving | .done _ => .apart
  | .inside =>
    match c.visit.stage with
    | .entering => .admitted
    | _ => .within
  | .retiring | .leaving | .escaped => .within

namespace Task

/-- What a task is to the instance that it works on. -/
def standing : Task → Standing
  | .opening _ s => s.standing
  | .calling c => c.standing
  | .shutting _ s | .dropping _ s => s.standing
  | .hooking .. | .visiting .. => .apart

/-- What a task is to instance `n`. -/
def standingTo (n : Nat) (k : Task) : Standing := if k.on? = some n then k.standing else .apart

end Task

/-! ## What a task holds of its module -/

def ShutdownStage.hold : ShutdownStage → Hold
  | .unloading _ h => h.hold
  | _ => .free

def OpenStage.hold : OpenStage → Hold
  | .probing h | .loading _ h => h.hold
  | .abandoning _ _ σ | .dropping _ _ σ => σ.hold
  | _ => .free

def Call.hold (c : Call) : Hold :=
  match c.stage with
  | .inside => c.visit.stage.hold
  | _ => .free

def Task.hold : Task → Hold
  | .opening _ st => st.hold
  | .calling c => c.hold
  | .shutting _ σ | .dropping _ σ => σ.hold
  | .hooking _ _ h => h.hold
  | .visiting _ v => v.stage.hold

/-! ## The steps on an instance -/

theorem ShutdownStage.standing_ne (σ : ShutdownStage) :
    σ.standing ≠ .starting ∧ σ.standing ≠ .admitted ∧ σ.standing ≠ .within := by
  cases σ with
  | unloading inside h => cases h <;> simp [standing]
  | _ => simp [standing]

theorem OpenStage.standing_ne (st : OpenStage) :
    st.standing ≠ .admitted ∧ st.standing ≠ .within := by
  cases st with
  | loading n h => cases h <;> simp [standing]
  | abandoning n code σ | dropping n code σ => exact σ.standing_ne.2
  | _ => simp [standing]

theorem Call.standing_ne_starting (c : Call) : c.standing ≠ .starting := by
  unfold standing
  split
  · simp
  · simp
  · split <;> simp
  · simp
  · simp
  · simp

def Boundary.EntryPoint.request (proxy : Bool) : EntryPoint :=
  if proxy then .handleProxyRequest else .handleRequest

def Boundary.EntryPoint.IsRequest (e : EntryPoint) : Prop := ∃ proxy, e = .request proxy

@[simp] theorem Boundary.EntryPoint.not_isRequest_onLoad : ¬ EntryPoint.onLoad.IsRequest := by
  simp [IsRequest, request]

@[simp] theorem Boundary.EntryPoint.not_isRequest_onUnload : ¬ EntryPoint.onUnload.IsRequest := by
  simp [IsRequest, request]

@[simp] theorem Boundary.EntryPoint.not_isRequest_moduleAbiVersion :
    ¬ EntryPoint.moduleAbiVersion.IsRequest := by
  simp [IsRequest, request]

/-- The steps of a thread with respect to one instance with exports `x`. -/
inductive Gate.Step (x : Exports) : Gate → Standing → List Event → Gate → Standing → Prop
  | stay (g : Gate) (σ : Standing) : σ ≠ .admitted → Step x g σ [] g σ
  | load (g : Gate) : Step x g .starting [.entered .onLoad] g .apart
  | answer (g : Gate) (code : Int) : Step x g .apart [.left .onLoad (some code)] g .apart
  | accept (g g' : Gate) : g.admit? = some g' → Step x g .apart [.admitted] g' .admitted
  | enter (g : Gate) (proxy : Bool) :
      Step x g .admitted [.entered (EntryPoint.request proxy)] g .within
  | release (g : Gate) : Step x g .within [.released] g.release .apart
  | close (g g' : Gate) : g.close? = some g' →
      Step x g .apart [.gateClosed g'.inFlight] g' .draining
  | drain (g : Gate) : g.inFlight = 0 → x.onUnload = true → Step x g .draining [] g .drained
  | skip (g : Gate) : g.inFlight = 0 → x.onUnload = false → Step x g .draining [] g .unloading
  | unload (g : Gate) : Step x g .drained [.entered .onUnload] g .unloading
  | unmap (g : Gate) : Step x g .unloading [.unmapped] g .unloading
  | publish (g : Gate) : Step x g .unloading [.published] g.publishUnloaded .ended
  | find (g : Gate) : g.state = .unloaded → Step x g .apart [] g .ended
  | depart (g : Gate) : Step x g .ended [] g .apart

namespace Gate

theorem admit?_eq_some {g g' : Gate} (h : g.admit? = some g') :
    g.state = .live ∧ g'.state = .live ∧ g'.inFlight = g.inFlight + 1 := by
  unfold admit? at h
  split at h
  · rename_i hs
    cases h
    exact ⟨hs, hs, rfl⟩
  · cases h

theorem close?_eq_some {g g' : Gate} (h : g.close? = some g') :
    g.state = .live ∧ g'.state = .draining ∧ g'.inFlight = g.inFlight := by
  unfold close? at h
  split at h
  · rename_i hs
    cases h
    exact ⟨hs, rfl, rfl⟩
  · cases h

@[simp] theorem state_release (g : Gate) : g.release.state = g.state := rfl

@[simp] theorem inFlight_release (g : Gate) : g.release.inFlight = g.inFlight - 1 := rfl

@[simp] theorem state_publishUnloaded (g : Gate) : g.publishUnloaded.state = .unloaded := rfl

@[simp] theorem inFlight_publishUnloaded (g : Gate) : g.publishUnloaded.inFlight = g.inFlight := rfl

end Gate

namespace Gate.Step

variable {x : Exports} {g g' : Gate} {σ σ' : Standing} {marks : List Event}

/-- Who may call an entry point. -/
theorem entered {e : EntryPoint} (h : Step x g σ marks g' σ') (he : .entered e ∈ marks) :
    e = .onLoad ∧ σ = .starting ∨ e.IsRequest ∧ σ = .admitted ∨ e = .onUnload ∧ σ = .drained := by
  cases h with
  | load => simpa using he
  | enter proxy =>
    obtain rfl : e = EntryPoint.request proxy := by simpa using he
    exact .inr (.inl ⟨⟨proxy, rfl⟩, rfl⟩)
  | unload => simpa using he
  | stay | drain | skip | find | depart => cases he
  | answer | accept | release | close | unmap | publish => simp at he

/-- A gate that has closed stays closed, and nobody is admitted any more. -/
theorem closed (h : Step x g σ marks g' σ') (hg : g.state ≠ .live) :
    g'.state ≠ .live ∧ σ' ≠ .admitted := by
  cases h with
  | stay σ hσ => exact ⟨hg, hσ⟩
  | accept g' hadmit => exact absurd (admit?_eq_some hadmit).1 hg
  | close g' hclose => exact absurd (close?_eq_some hclose).1 hg
  | publish => exact ⟨by simp, by simp⟩
  | load | answer | enter | drain | skip | unload | unmap | find | depart => exact ⟨hg, by simp⟩
  | release => exact ⟨hg, by simp⟩

theorem unloaded (h : Step x g σ marks g' σ') (hg : g.state = .unloaded) :
    g'.state = .unloaded := by
  cases h with
  | accept g' hadmit => rw [(admit?_eq_some hadmit).1] at hg; cases hg
  | close g' hclose => rw [(close?_eq_some hclose).1] at hg; cases hg
  | publish => rfl
  | stay | load | answer | enter | drain | skip | unload | unmap | find | depart => exact hg
  | release => exact hg

end Gate.Step

/-- What a step on an instance leaves of it: everything but gate, library and broadcasts. -/
structure Instance.SameMake (i i' : Instance) : Prop where
  exports : i'.exports = i.exports
  module : i'.module = i.module
  name : i'.name = i.name

namespace Instance

theorem SameMake.refl (i : Instance) : i.SameMake i := ⟨rfl, rfl, rfl⟩

theorem SameMake.trans {i j k : Instance} (h : i.SameMake j) (h' : j.SameMake k) : i.SameMake k :=
  ⟨h'.exports.trans h.exports, h'.module.trans h.module, h'.name.trans h.name⟩

/-- What a step of a task on an instance does to the instance and to its module. -/
structure Spec (i : Instance) (m : Module) (σ : Standing) (h : Hold) (i' : Instance) (m' : Module)
    (σ' : Standing) (h' : Hold) (events : List Event) : Prop where
  gate : Gate.Step i.exports i.gate σ (gateMarks events) i'.gate σ'
  make : i.SameMake i'
  context : Context.Step m.context h (contextMarks events) m'.context h'
  code : m.SameCode m'

theorem Spec.apart {i i' : Instance} {m : Module} {σ σ' : Standing} {h : Hold} {events : List Event}
    (gate : Gate.Step i.exports i.gate σ (gateMarks events) i'.gate σ') (make : i.SameMake i')
    (quiet : contextMarks events = []) : Spec i m σ h i' m σ' h events := by
  refine ⟨gate, make, ?_, .refl m⟩
  rw [quiet]
  exact .refl _ _

end Instance

/-! ## Shutdowns -/

theorem HookStage.standing_unloading {inside : Nat} {h : HookStage} (hne : h ≠ .entering) :
    (ShutdownStage.unloading inside h).standing = .unloading := by
  cases h <;> first | exact absurd rfl hne | rfl

theorem ShutdownStage.step_unloading {i : Instance} {m : Module} {inside : Nat} {h : HookStage}
    (hr : h.IsRunning) :
    (unloading inside h).step i m =
      (h.step .unload m).map fun (h, m, events) => (.unloading inside h, i, m, events) := by
  cases h with
  | returned code => exact absurd rfl (hr.1 code)
  | escaped => exact absurd rfl hr.2
  | _ => rfl

theorem ShutdownStage.look_spec (i : Instance) (m : Module) :
    i.Spec m .apart .free i m (look i).standing (look i).hold [] := by
  unfold look
  split
  · rename_i hs
    exact .apart (.find i.gate hs) (.refl i) rfl
  · exact .apart (.stay i.gate .apart (by decide)) (.refl i) rfl

/-- A step of a shutdown. No lifecycle entry point but those of the opener gives an answer. -/
theorem ShutdownStage.step_spec {i i' : Instance} {m m' : Module} {σ σ' : ShutdownStage}
    {events : List Event} (h : σ.step i m = some (σ', i', m', events)) :
    i.Spec m σ.standing σ.hold i' m' σ'.standing σ'.hold events ∧ answers events = [] := by
  cases σ with
  | arriving =>
    simp only [step] at h
    split at h
    · rename_i g hg
      simp only [Option.some.injEq, Prod.mk.injEq] at h
      obtain ⟨rfl, rfl, rfl, rfl⟩ := h
      exact ⟨.apart (.close i.gate g hg) ⟨rfl, rfl, rfl⟩ rfl, rfl⟩
    · simp only [Option.some.injEq, Prod.mk.injEq] at h
      obtain ⟨rfl, rfl, rfl, rfl⟩ := h
      exact ⟨look_spec i m, rfl⟩
  | asleep since =>
    simp only [step] at h
    split at h
    · simp only [Option.some.injEq, Prod.mk.injEq] at h
      obtain ⟨rfl, rfl, rfl, rfl⟩ := h
      exact ⟨look_spec i m, rfl⟩
    · cases h
  | draining inside =>
    simp only [step] at h
    split at h
    · rename_i hzero
      simp only [Option.some.injEq, Prod.mk.injEq] at h
      obtain ⟨rfl, rfl, rfl, rfl⟩ := h
      cases hx : i.exports.onUnload with
      | true => exact ⟨.apart (.drain i.gate hzero hx) (.refl i) rfl, rfl⟩
      | false => exact ⟨.apart (.skip i.gate hzero hx) (.refl i) rfl, rfl⟩
    · cases h
  | unloading inside hook =>
    rcases hook.running_or with ⟨code, rfl⟩ | rfl | hr
    · simp only [step, Option.some.injEq, Prod.mk.injEq] at h
      obtain ⟨rfl, rfl, rfl, rfl⟩ := h
      exact ⟨.apart (.stay i.gate .unloading (by decide)) (.refl i) rfl, rfl⟩
    · simp only [step, Option.some.injEq, Prod.mk.injEq] at h
      obtain ⟨rfl, rfl, rfl, rfl⟩ := h
      exact ⟨.apart (.stay i.gate .unloading (by decide)) (.refl i) rfl, rfl⟩
    · simp only [step_unloading hr, Option.map_eq_some_iff, Prod.mk.injEq] at h
      obtain ⟨⟨hook', m₁, events₁⟩, hstep, rfl, rfl, rfl, rfl⟩ := h
      have spec := HookStage.step_spec hstep
      refine ⟨⟨?_, .refl i, spec.context, spec.code⟩, spec.no_answers⟩
      rw [HookStage.standing_unloading spec.begun]
      by_cases he : hook = .entering
      · subst he
        rw [spec.entry rfl]
        exact .unload i.gate
      · rw [HookStage.standing_unloading he, spec.quiet he]
        exact .stay i.gate .unloading (by decide)
  | unmapping inside hook =>
    simp only [step, Option.some.injEq, Prod.mk.injEq] at h
    obtain ⟨rfl, rfl, rfl, rfl⟩ := h
    exact ⟨.apart (.unmap i.gate) ⟨rfl, rfl, rfl⟩ rfl, rfl⟩
  | publishing inside hook =>
    simp only [step, Option.some.injEq, Prod.mk.injEq] at h
    obtain ⟨rfl, rfl, rfl, rfl⟩ := h
    exact ⟨.apart (.publish i.gate) ⟨rfl, rfl, rfl⟩ rfl, rfl⟩
  | broadcasting inside hook | reporting inside hook =>
    simp only [step, Option.some.injEq, Prod.mk.injEq] at h
    obtain ⟨rfl, rfl, rfl, rfl⟩ := h
    exact ⟨.apart (.stay i.gate .ended (by decide)) ⟨rfl, rfl, rfl⟩ rfl, rfl⟩
  | done o => cases h
  | escaped => cases h

/-! ## Calls -/

theorem Call.standing_inside {c : Call} (hs : c.stage = .inside) :
    c.standing = if c.visit.stage matches .entering then .admitted else .within := by
  unfold standing
  rw [hs]
  cases c.visit.stage <;> rfl

theorem Call.standing_inside_within {c : Call} (hs : c.stage = .inside)
    (hv : c.visit.stage ≠ .entering) : c.standing = .within := by
  rw [standing_inside hs]
  cases h : c.visit.stage <;> simp_all

theorem Call.hold_inside {c : Call} (hs : c.stage = .inside) : c.hold = c.visit.stage.hold := by
  simp [hold, hs]

theorem Visit.entry_eq (v : Visit) : v.entry = EntryPoint.request v.proxy := rfl

theorem Call.arrive_spec (i : Instance) (m : Module) (c : Call) :
    i.Spec m .apart .free (c.arrive i).2.1 m (c.arrive i).1.standing (c.arrive i).1.hold
        (c.arrive i).2.2 ∧ (c.arrive i).1.on = c.on := by
  unfold arrive
  split
  · exact ⟨.apart (.stay i.gate .apart (by decide)) (.refl i) rfl, rfl⟩
  · cases hg : i.gate.admit? with
    | some g => exact ⟨.apart (.accept i.gate g hg) ⟨rfl, rfl, rfl⟩ rfl, rfl⟩
    | none => exact ⟨.apart (.stay i.gate .apart (by decide)) (.refl i) rfl, rfl⟩

theorem Call.step_spec {i i' : Instance} {m m' : Module} {c c' : Call} {events : List Event}
    (h : c.step i m = some (c', i', m', events)) :
    i.Spec m c.standing c.hold i' m' c'.standing c'.hold events ∧ c'.on = c.on := by
  unfold step at h
  split at h
  · rename_i hs
    simp only [Option.some.injEq, Prod.mk.injEq] at h
    obtain ⟨rfl, rfl, rfl, rfl⟩ := h
    have hstanding : c.standing = .apart := by simp [standing, hs]
    have hhold : c.hold = .free := by simp [hold, hs]
    rw [hstanding, hhold]
    exact c.arrive_spec i m
  · rename_i hs
    have hhold := hold_inside hs
    split at h
    · rename_i hstage
      simp only [Option.some.injEq, Prod.mk.injEq] at h
      obtain ⟨rfl, rfl, rfl, rfl⟩ := h
      rw [standing_inside_within hs (by simp [hstage]), hhold, hstage]
      exact ⟨.apart (.stay i.gate .within (by decide)) (.refl i) rfl, rfl⟩
    · rename_i hstage
      simp only [Option.some.injEq, Prod.mk.injEq] at h
      obtain ⟨rfl, rfl, rfl, rfl⟩ := h
      rw [standing_inside_within hs (by simp [hstage]), hhold, hstage]
      exact ⟨.apart (.stay i.gate .within (by decide)) (.refl i) rfl, rfl⟩
    · rename_i hstage
      simp only [Option.some.injEq, Prod.mk.injEq] at h
      obtain ⟨rfl, rfl, rfl, rfl⟩ := h
      rw [standing_inside_within hs (by simp [hstage]), hhold, hstage]
      exact ⟨.apart (.stay i.gate .within (by decide)) (.refl i) rfl, rfl⟩
    · simp only [Option.map_eq_some_iff, Prod.mk.injEq] at h
      obtain ⟨⟨v, m₁, events₁⟩, hstep, rfl, rfl, rfl, rfl⟩ := h
      have spec := Visit.step_spec hstep
      have hafter : ({ c with visit := v } : Call).standing = .within :=
        standing_inside_within hs spec.begun
      have hhold' : ({ c with visit := v } : Call).hold = v.stage.hold := hold_inside hs
      rw [hafter, hhold, hhold']
      refine ⟨⟨?_, .refl i, spec.context, spec.code⟩, rfl⟩
      by_cases he : c.visit.stage = .entering
      · have hbefore : c.standing = .admitted := by simp [standing_inside hs, he]
        rw [spec.entry he, hbefore, Visit.entry_eq]
        exact .enter i.gate c.visit.proxy
      · rw [spec.quiet he, standing_inside_within hs he]
        exact .stay i.gate .within (by decide)
  · rename_i hs
    simp only [Option.some.injEq, Prod.mk.injEq] at h
    obtain ⟨rfl, rfl, rfl, rfl⟩ := h
    have hstanding : c.standing = .within := by simp [standing, hs]
    have hhold : c.hold = .free := by simp [hold, hs]
    rw [hstanding, hhold]
    exact ⟨.apart (.stay i.gate .within (by decide)) (.refl i) rfl, rfl⟩
  · rename_i hs
    simp only [Option.some.injEq, Prod.mk.injEq] at h
    obtain ⟨rfl, rfl, rfl, rfl⟩ := h
    have hstanding : c.standing = .within := by simp [standing, hs]
    have hhold : c.hold = .free := by simp [hold, hs]
    rw [hstanding, hhold]
    exact ⟨.apart (.release i.gate) ⟨rfl, rfl, rfl⟩ rfl, rfl⟩
  · cases h
  · cases h

/-! ## Openings -/

theorem OpenStage.standing_loading {n : Nat} {h : HookStage} (hne : h ≠ .entering) :
    (OpenStage.loading n h).standing = .apart := by
  cases h <;> first | exact absurd rfl hne | rfl

theorem Opening.Late.spec {i i' : Instance} {m m' : Module} {st st' : OpenStage}
    {events : List Event} (h : Late i m st st' i' m' events) :
    i.Spec m st.standing st.hold i' m' st'.standing st'.hold events := by
  cases h with
  | hook n hook hook' m' events hstep =>
    have spec := HookStage.step_spec hstep
    refine ⟨?_, .refl i, spec.context, spec.code⟩
    rw [OpenStage.standing_loading spec.begun]
    by_cases he : hook = .entering
    · subst he
      rw [spec.entry rfl]
      exact .load i.gate
    · rw [OpenStage.standing_loading he, spec.quiet he]
      exact .stay i.gate .apart (by decide)
  | loaded n => exact .apart (.answer i.gate loadOk) (.refl i) rfl
  | failed n code _ => exact .apart (.answer i.gate code) (.refl i) rfl
  | broke n => exact .apart (.stay i.gate .apart (by decide)) (.refl i) rfl
  | abandon n code σ σ' i' m' events hstep => exact (ShutdownStage.step_spec hstep).1
  | drop n code σ σ' i' m' events hstep => exact (ShutdownStage.step_spec hstep).1
  | abandoned n code r | dropped n code r => exact .apart (.depart i.gate) (.refl i) rfl
  | announce n => exact .apart (.stay i.gate .apart (by decide)) (.refl i) rfl

theorem Opening.Late.on? {i i' : Instance} {m m' : Module} {st st' : OpenStage} {n : Nat}
    {events : List Event} (h : Late i m st st' i' m' events) (hon : st.on? = some n) :
    st'.on? = some n ∨ st'.on? = none ∧ st'.hold = .free := by
  cases h with
  | broke | dropped | announce => exact .inr ⟨rfl, rfl⟩
  | _ => exact .inl hon

/-! ## Tasks -/

namespace Task

theorem standing_eq_apart {k : Task} (h : k.on? = none) : k.standing = .apart := by
  cases k with
  | opening o st => cases st <;> first | rfl | cases h
  | calling c => cases h
  | shutting n σ | dropping n σ => cases h
  | hooking module hook h | visiting module v => rfl

theorem standingTo_self {n : Nat} {k : Task} (h : k.on? = some n) : k.standingTo n = k.standing :=
  if_pos h

theorem standingTo_other {n : Nat} {k : Task} (h : k.on? ≠ some n) : k.standingTo n = .apart :=
  if_neg h

theorem standingTo_after {n : Nat} {k : Task} (h : k.on? = some n ∨ k.on? = none) :
    k.standingTo n = k.standing := by
  rcases h with h | h
  · exact standingTo_self h
  · rw [standingTo_other (by simp [h]), standing_eq_apart h]

/-- **All steps on an instance.** A step of a task on instance `n` is one of `Gate.Step`, and one of
`Context.Step` for its module. -/
theorem stepOn_spec {k k' : Task} {n : Nat} {i i' : Instance} {m m' : Module}
    {events : List Event} (hon : k.on? = some n) (h : k.stepOn i m = some (k', i', m', events)) :
    i.Spec m (k.standingTo n) k.hold i' m' (k'.standingTo n) k'.hold events ∧
      (k'.on? = some n ∨ k'.on? = none ∧ k'.hold = .free) := by
  rw [standingTo_self hon]
  cases k with
  | opening o st =>
    simp only [stepOn, Option.map_eq_some_iff, Prod.mk.injEq] at h
    obtain ⟨⟨st', i₁, m₁, events₁⟩, hstep, rfl, rfl, rfl, rfl⟩ := h
    have late := Opening.stepLate_cases hstep
    have hon' : (Task.opening o st').on? = some n ∨
        (Task.opening o st').on? = none ∧ (Task.opening o st').hold = .free := late.on? hon
    rw [standingTo_after (hon'.imp id And.left)]
    exact ⟨late.spec, hon'⟩
  | calling c =>
    simp only [stepOn, Option.map_eq_some_iff, Prod.mk.injEq] at h
    obtain ⟨⟨c', i₁, m₁, events₁⟩, hstep, rfl, rfl, rfl, rfl⟩ := h
    obtain ⟨spec, hon'⟩ := Call.step_spec hstep
    have hon' : (Task.calling c').on? = some n := by simpa [on?, hon'] using hon
    rw [standingTo_self hon']
    exact ⟨spec, .inl hon'⟩
  | shutting n' σ =>
    simp only [stepOn, Option.map_eq_some_iff, Prod.mk.injEq] at h
    obtain ⟨⟨σ', i₁, m₁, events₁⟩, hstep, rfl, rfl, rfl, rfl⟩ := h
    rw [standingTo_self (show (Task.shutting n' σ').on? = some n from hon)]
    exact ⟨(ShutdownStage.step_spec hstep).1, .inl hon⟩
  | dropping n' σ =>
    simp only [stepOn, Option.map_eq_some_iff, Prod.mk.injEq] at h
    obtain ⟨⟨σ', i₁, m₁, events₁⟩, hstep, rfl, rfl, rfl, rfl⟩ := h
    rw [standingTo_self (show (Task.dropping n' σ').on? = some n from hon)]
    exact ⟨(ShutdownStage.step_spec hstep).1, .inl hon⟩
  | hooking module hook h | visiting module v => cases hon

theorem stepIn_direct {k k' : Task} {m m' : Module} {events : List Event}
    (h : k.stepIn m = some (k', m', events)) : k'.direct? = k.direct? := by
  cases k with
  | hooking | visiting =>
    simp only [stepIn, Option.map_eq_some_iff, Prod.mk.injEq] at h
    obtain ⟨_, -, rfl, -⟩ := h
    rfl
  | opening | calling | shutting | dropping => cases h

theorem on?_of_direct {k : Task} {module : Nat} (h : k.direct? = some module) : k.on? = none := by
  cases k with
  | hooking | visiting => rfl
  | opening | calling | shutting | dropping => cases h

end Task

/-- An opening works on no instance but the one that it makes. -/
theorem Opening.Early.on? {o : Opening} {next : Nat} {m m' : Module} {st st' : OpenStage}
    {made : Option Instance} {events : List Event} (h : o.Early next m st st' made m' events) :
    st'.on? = none ∨ st'.on? = some next := by
  cases h <;> simp [OpenStage.on?]

/-! ## Turns of the machine -/

namespace System

/-- How a turn of thread `t`, from task `k` to task `k'`, looks from instance `n`. -/
structure Turn.View (s s' : System) (t n : Nat) (k k' : Task) (i i' : Instance)
    (marks : List Event) : Prop where
  before : s.threads[t]? = some k
  after : s'.threads = s.threads.set t k'
  found : s'.instances[n]? = some i'
  make : i.SameMake i'
  gate : Gate.Step i.exports i.gate (k.standingTo n) marks i'.gate (k'.standingTo n)
  log : gateMarks (s'.instanceLog n) = gateMarks (s.instanceLog n) ++ marks
  mine : k'.standingTo n ≠ k.standingTo n → k.on? = some n

theorem Turn.View.aside {s s' : System} {t n : Nat} {k k' : Task} {i : Instance}
    (before : s.threads[t]? = some k) (after : s'.threads = s.threads.set t k')
    (found : s'.instances[n]? = some i) (log : s'.instanceLog n = s.instanceLog n)
    (hk : k.on? ≠ some n) (hk' : k'.on? ≠ some n) : View s s' t n k k' i i [] := by
  refine ⟨before, after, found, .refl i, ?_, by rw [log, List.append_nil], fun h => ?_⟩
  · rw [Task.standingTo_other hk, Task.standingTo_other hk']
    exact .stay i.gate .apart (by decide)
  · rw [Task.standingTo_other hk, Task.standingTo_other hk'] at h
    exact absurd rfl h

/-- **All steps on an instance.** A turn is one of `Gate.Step` for each instance that there is. -/
theorem Turn.view {s s' : System} {t n : Nat} {i : Instance} (h : s.Turn t s')
    (hi : s.instances[n]? = some i) : ∃ k k' i' marks, View s s' t n k k' i i' marks := by
  have hlt : n < s.instances.length := (List.getElem?_eq_some_iff.mp hi).1
  cases h with
  | early o st st' made m m' events ht hon hm hs =>
    refine ⟨_, _, i, [], .aside ht rfl ?_ (instanceLog_turn_other (by simp)) ?_ ?_⟩
    · rw [turn_instances, List.getElem?_append_left hlt, hi]
    · simp [Task.on?, hon]
    · rcases (Opening.stepEarly_cases hs).on? with hon' | hon'
      · simp [Task.on?, hon']
      · simp only [Task.on?, hon', ne_eq, Option.some.injEq]
        omega
  | late k k' n₁ i₁ i' m m' events ht hon hi₁ hm hs =>
    obtain ⟨⟨gate, make, -, -⟩, hon'⟩ := Task.stepOn_spec hon hs
    by_cases hn : n₁ = n
    · subst hn
      obtain rfl := Option.some.inj (hi₁.symm.trans hi)
      refine ⟨k, k', i', gateMarks events, ht, rfl, ?_, make, gate, ?_, fun _ => hon⟩
      · simp [hlt]
      · rw [instanceLog_turn, if_pos rfl, gateMarks, List.filter_append]
        rfl
    · refine ⟨k, k', i, [], .aside ht rfl ?_ (instanceLog_turn_other (by simp [hn])) ?_ ?_⟩
      · simp [hn, hi]
      · simp [hon, hn]
      · rcases hon' with h | ⟨h, -⟩ <;> simp [h, hn]
  | direct k k' module m m' events ht hd hm hs =>
    refine ⟨k, k', i, [], .aside ht rfl hi (instanceLog_turn_other (by simp)) ?_ ?_⟩
    · simp [Task.on?_of_direct hd]
    · simp [Task.on?_of_direct ((Task.stepIn_direct hs).trans hd)]

/-- What a turn from task `k` to task `k'` is to instance `n`: a step of a task on it, or nothing. -/
inductive Turn.Sight (s s' : System) (n : Nat) (k k' : Task) (i : Instance) : Instance → Prop
  | on (i' : Instance) (m m' : Module) (events : List Event) :
      k.on? = some n → s.modules[i.module]? = some m → k.stepOn i m = some (k', i', m', events) →
      s'.instanceLog n = s.instanceLog n ++ events → Sight s s' n k k' i i'
  | aside : k.on? ≠ some n → k'.on? ≠ some n → s'.instanceLog n = s.instanceLog n →
      Sight s s' n k k' i i

/-- **A turn seen from an instance**, with all that the step on it says. -/
theorem Turn.sight {s s' : System} {t n : Nat} {i : Instance} (h : s.Turn t s')
    (hi : s.instances[n]? = some i) : ∃ k k' i', s.threads[t]? = some k ∧
      s'.threads = s.threads.set t k' ∧ s'.instances[n]? = some i' ∧ Sight s s' n k k' i i' := by
  have hlt : n < s.instances.length := (List.getElem?_eq_some_iff.mp hi).1
  cases h with
  | early o st st' made m m' events ht hon hm hs =>
    refine ⟨_, _, i, ht, rfl, ?_, .aside ?_ ?_ (instanceLog_turn_other (by simp))⟩
    · rw [turn_instances, List.getElem?_append_left hlt, hi]
    · simp [Task.on?, hon]
    · rcases (Opening.stepEarly_cases hs).on? with hon' | hon'
      · simp [Task.on?, hon']
      · simp only [Task.on?, hon', ne_eq, Option.some.injEq]
        omega
  | late k k' n₁ i₁ i' m m' events ht hon hi₁ hm hs =>
    by_cases hn : n₁ = n
    · subst hn
      obtain rfl := Option.some.inj (hi₁.symm.trans hi)
      refine ⟨k, k', i', ht, rfl, ?_, .on i' m m' events hon hm hs ?_⟩
      · simp [hlt]
      · rw [instanceLog_turn, if_pos rfl]
    · refine ⟨k, k', i, ht, rfl, ?_, .aside ?_ ?_ (instanceLog_turn_other (by simp [hn]))⟩
      · simp [hn, hi]
      · simp [hon, hn]
      · rcases (Task.stepOn_spec hon hs).2 with h | ⟨h, -⟩ <;> simp [h, hn]
  | direct k k' module m m' events ht hd hm hs =>
    refine ⟨k, k', i, ht, rfl, hi, .aside ?_ ?_ (instanceLog_turn_other (by simp))⟩
    · simp [Task.on?_of_direct hd]
    · simp [Task.on?_of_direct ((Task.stepIn_direct hs).trans hd)]

/-- A turn in which an instance comes to be: the step of an opening that makes it. -/
theorem Turn.newborn {s s' : System} {t n : Nat} {i : Instance} (h : s.Turn t s')
    (new : s.instances[n]? = none) (hi : s'.instances[n]? = some i) :
    ∃ o st st' m m' events, s.threads[t]? = some (.opening o st) ∧ s.modules[o.module]? = some m ∧
      o.Early s.instances.length m st st' (some i) m' events ∧ n = s.instances.length ∧
      s' = s.turn t o.module none (.opening o st') m' (s.instances ++ [i]) events := by
  have none_here : s.instances.length ≤ n := List.getElem?_eq_none_iff.mp new
  have here : n < s'.instances.length := (List.getElem?_eq_some_iff.mp hi).1
  cases h with
  | early o st st' made m m' events ht hon hm hs =>
    cases made with
    | none =>
      simp only [turn_instances, Option.toList_none, List.append_nil] at here
      omega
    | some j =>
      simp only [turn_instances, Option.toList_some, List.length_append, List.length_singleton]
        at here
      obtain rfl : n = s.instances.length := by omega
      obtain rfl : j = i := by simpa using hi
      exact ⟨o, st, st', m, m', events, ht, hm, Opening.stepEarly_cases hs, rfl, rfl⟩
  | late k k' n₁ i₁ i' m m' events ht hon hi₁ hm hs =>
    rw [turn_instances, List.length_set] at here
    omega
  | direct k k' module m m' events ht hd hm hs =>
    rw [turn_instances] at here
    omega

end System

end ModuleHost
