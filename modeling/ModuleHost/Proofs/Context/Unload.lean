import ModuleHost.Proofs.Context.Work

/-!
# Shutting down and dropping inside one unload

The visit marks of a thread in a module are the passages into and out of entry points and the
context marks. `Follows` says, for each position inside a lifecycle entry point, how these marks end
there: a thread that shuts a value down has entered `OnUnload` right before, and between the start of
the shutdown and the drop there is no other mark of the thread. `Run.trail` takes this through a run:
a value whose shutdown has begun was dropped in the same visit of `OnUnload`, or this visit goes
on.
-/
namespace ModuleHost

open Boundary

/-- What a visit of an entry point leaves: its two ends, and the context marks. -/
def Event.ofVisit : Event → Bool
  | .entered _ | .left .. => true
  | e => e.ofContext

def visitMarks (events : List Event) : List Event := events.filter Event.ofVisit

theorem visitMarks_remarks {events : List Event} (h : ∀ e ∈ events, e.isRemark = true) :
    visitMarks events = [] :=
  filter_remarks (fun e he => by cases e <;> first | rfl | cases he) h

theorem mem_visitMarks_shutdownBegun {events : List Event} {g : Nat} :
    .shutdownBegun g ∈ visitMarks events ↔ .shutdownBegun g ∈ contextMarks events := by
  simp [visitMarks, contextMarks, List.mem_filter, Event.ofVisit]

/-- Whether a value was shut down and dropped within one visit of `OnUnload`. -/
def TornDown (g : Nat) (marks : List Event) : Prop :=
  [.entered .onUnload, .shutdownBegun g, .dropped g] <:+: marks

theorem TornDown.append {g : Nat} {marks : List Event} (h : TornDown g marks) (more : List Event) :
    TornDown g (marks ++ more) :=
  h.trans (List.prefix_append marks more).isInfix

/-! ## Positions -/

/-- How the marks of a thread end where it stands inside a lifecycle entry point. -/
def HookStage.Follows (hook : Hook) (marks : List Event) : HookStage → Prop
  | .claiming | .draining => hook ≠ .probe ∧ [.entered hook.entry] <:+ marks
  | .closing v _ | .dropping v _ | .unwinding v _ =>
    hook = .unload ∧ [.entered .onUnload, .shutdownBegun v.generation] <:+ marks
  | _ => True

namespace HookStage

variable {hook : Hook} {m m' : Module} {h h' : HookStage} {marks events : List Event}

/-- A thread that tears a value down has entered `OnUnload` and begun the shutdown. -/
theorem Follows.tearsDown (hf : h.Follows hook marks) {g : Nat}
    (ht : h.hold.tearsDown g = true) : [.entered .onUnload, .shutdownBegun g] <:+ marks := by
  cases h with
  | closing v p | dropping v p | unwinding v p =>
    have hg : v.generation = g := by simpa [hold, Hold.tearsDown] using ht
    rw [← hg]
    exact hf.2
  | _ => cases ht

theorem locked_follows (handler : Handler) (hp : hook ≠ .probe)
    (hm : [.entered hook.entry] <:+ marks) :
    (locked hook m handler).1.Follows hook (marks ++ visitMarks (locked hook m handler).2.2) := by
  cases hs : m.context.slot with
  | live v =>
    cases hook with
    | probe => exact absurd rfl hp
    | load =>
      simp only [locked, hs]
      trivial
    | unload =>
      obtain ⟨before, rfl⟩ := hm
      simp only [locked, hs]
      refine ⟨rfl, before, ?_⟩
      rw [List.append_assoc]
      rfl
  | fresh | tornDown =>
    cases hook <;> simp only [locked, hs] <;> trivial

theorem afterStart_follows (m : Module) (r : Upshot) :
    (step.afterStart m r).1.Follows hook marks := by
  rcases afterStart_over m r with ends | ends <;> rw [ends] <;> trivial

theorem afterClose_follows {v : HandlerValue} {r : Upshot} {p : SelfProgram (Except String Unit)}
    (hf : (closing v p).Follows hook marks) :
    (step.afterClose v m r).1.Follows hook (marks ++ visitMarks (step.afterClose v m r).2.2) := by
  have same : marks ++ visitMarks [] = marks := List.append_nil marks
  unfold step.afterClose
  split <;> exact same.symm ▸ hf

theorem afterDrop_follows (v : HandlerValue) (m : Module) (p : Payload) :
    (step.afterDrop v m p).1.Follows hook marks := by
  rcases afterDrop_over v m p with ends | ends <;> rw [ends] <;> trivial

/-- A destructor that panicked has been run all the same. -/
theorem visitMarks_afterDrop (v : HandlerValue) (m : Module) (p : Payload) :
    visitMarks (step.afterDrop v m p).2.2 = [.dropped v.generation] := by
  unfold step.afterDrop
  split <;> rfl

theorem step_follows (hs : h.step hook m = some (h', m', events)) (hf : h.Follows hook marks) :
    h'.Follows hook (marks ++ visitMarks events) := by
  cases h with
  | entering =>
    simp only [step, Option.some.injEq, Prod.mk.injEq] at hs
    obtain ⟨rfl, rfl, rfl⟩ := hs
    have entered : [.entered hook.entry] <:+ marks ++ visitMarks [.entered hook.entry] :=
      List.suffix_append _ _
    cases hook with
    | probe => trivial
    | load | unload =>
      cases hc : m.code with
      | handler handler =>
        simp only [start, hc]
        exact ⟨by simp, entered⟩
      | entries e =>
        simp only [start, hc]
        trivial
  | claiming =>
    simp only [step, Option.map_eq_some_iff, Prod.mk.injEq] at hs
    obtain ⟨l, -, rfl, rfl, rfl⟩ := hs
    simpa [visitMarks, Follows] using hf
  | draining =>
    simp only [step] at hs
    split at hs
    · rename_i handler _ _
      split at hs
      · simp only [Option.some.injEq] at hs
        have := locked_follows (m := m) handler hf.1 hf.2
        rwa [hs] at this
      · cases hs
    · cases hs
  | initializing p =>
    cases p with
    | ask o next =>
      cases hs
      trivial
    | ret r =>
      simp only [step, Option.some.injEq] at hs
      simpa only [hs] using afterStart_follows m (.ok r)
    | panic q =>
      simp only [step, Option.some.injEq] at hs
      simpa only [hs] using afterStart_follows m (.error q)
  | closing v p =>
    cases p with
    | ask o next =>
      simp only [step, Option.some.injEq, Prod.mk.injEq] at hs
      obtain ⟨rfl, rfl, rfl⟩ := hs
      rw [visitMarks_remarks (selfPerform_remarks m o), List.append_nil]
      exact hf
    | ret r =>
      simp only [step, Option.some.injEq] at hs
      simpa only [hs] using afterClose_follows (m := m) (r := .ok r) hf
    | panic q =>
      simp only [step, Option.some.injEq] at hs
      simpa only [hs] using afterClose_follows (m := m) (r := .error q) hf
  | dropping v p =>
    cases p with
    | ask o next =>
      simp only [step, Option.some.injEq, Prod.mk.injEq] at hs
      obtain ⟨rfl, rfl, rfl⟩ := hs
      rw [visitMarks_remarks (selfPerform_remarks m o), List.append_nil]
      exact hf
    | ret r =>
      cases hs
      trivial
    | panic q =>
      simp only [step, Option.some.injEq] at hs
      simpa only [hs] using afterDrop_follows v m q
  | unwinding v p =>
    cases p with
    | ask o next =>
      simp only [step, Option.some.injEq, Prod.mk.injEq] at hs
      obtain ⟨rfl, rfl, rfl⟩ := hs
      rw [visitMarks_remarks (selfPerform_remarks m o), List.append_nil]
      exact hf
    | ret r | panic q =>
      cases hs
      trivial
  | plain p =>
    cases p with
    | ask o next | ret r | panic p =>
      simp only [step, Option.some.injEq, Prod.mk.injEq] at hs
      obtain ⟨rfl, rfl, rfl⟩ := hs
      trivial
  | returned code => cases hs
  | escaped => cases hs

/-- A thread that tears a value down goes on with it, or drops it. -/
theorem step_tearsDown {g : Nat} (hs : h.step hook m = some (h', m', events))
    (ht : h.hold.tearsDown g = true) :
    h'.hold.tearsDown g = true ∨ visitMarks events = [.dropped g] := by
  cases h with
  | closing v p =>
    left
    cases p with
    | ask o next =>
      simp only [step, Option.some.injEq, Prod.mk.injEq] at hs
      obtain ⟨rfl, rfl, rfl⟩ := hs
      exact ht
    | ret r =>
      simp only [step, Option.some.injEq] at hs
      rw [show h' = (step.afterClose v m (.ok r)).1 by rw [hs], afterClose_hold]
      exact ht
    | panic q =>
      simp only [step, Option.some.injEq] at hs
      rw [show h' = (step.afterClose v m (.error q)).1 by rw [hs], afterClose_hold]
      exact ht
  | dropping v p =>
    have hg : v.generation = g := by simpa [hold, Hold.tearsDown] using ht
    cases p with
    | ask o next =>
      simp only [step, Option.some.injEq, Prod.mk.injEq] at hs
      obtain ⟨rfl, rfl, rfl⟩ := hs
      exact .inl ht
    | ret r =>
      cases hs
      rw [hg]
      exact .inr rfl
    | panic q =>
      simp only [step, Option.some.injEq] at hs
      right
      simpa only [hs, hg] using visitMarks_afterDrop v m q
  | unwinding v p =>
    have hg : v.generation = g := by simpa [hold, Hold.tearsDown] using ht
    cases p with
    | ask o next =>
      simp only [step, Option.some.injEq, Prod.mk.injEq] at hs
      obtain ⟨rfl, rfl, rfl⟩ := hs
      exact .inl ht
    | ret r | panic q =>
      cases hs
      rw [hg]
      exact .inr rfl
  | _ => cases ht

end HookStage

/-! ## Tasks -/

namespace Task

/-- How the marks of a thread end where its task stands. -/
def Follows (k : Task) (marks : List Event) : Prop :=
  ∀ hook stage, k.hook? = some (hook, stage) → stage.Follows hook marks

theorem follows_of_none {k : Task} (h : k.hook? = none) (marks : List Event) : k.Follows marks := by
  intro hook stage hk
  cases h.symm.trans hk

theorem IsNew.follows {k : Task} (h : k.IsNew) (marks : List Event) : k.Follows marks := by
  intro hook stage hk
  rw [h.hook hk]
  trivial

end Task

theorem HookTurn.follows {k k' : Task} {m m' : Module} {marks events : List Event}
    (h : HookTurn m m' events k.hook? k'.hook?) (hf : k.Follows marks) :
    k'.Follows (marks ++ visitMarks events) := by
  intro hook stage hk
  cases h with
  | inside hook₁ h h' before after hstep =>
    cases after.symm.trans hk
    exact HookStage.step_follows hstep (hf _ _ before)
  | outside _ after =>
    rw [after _ _ hk]
    trivial

/-- Where a thread tears a value down, its step goes on with it, or drops it in the same visit. -/
theorem HookTurn.tearsDown {k k' : Task} {m m' : Module} {marks events : List Event} {g : Nat}
    (h : HookTurn m m' events k.hook? k'.hook?) (hf : k.Follows marks)
    (ht : k.hold.tearsDown g = true) :
    TornDown g (marks ++ visitMarks events) ∨ k'.hold.tearsDown g = true := by
  obtain ⟨hook, stage, hk⟩ := Task.hook_of_tearsDown ht
  cases h with
  | inside hook₁ h h' before after hstep =>
    rw [Task.hold_of_hook before] at ht
    rcases HookStage.step_tearsDown hstep ht with ht' | dropped
    · right
      rw [Task.hold_of_hook after]
      exact ht'
    · left
      obtain ⟨first, rfl⟩ := (hf _ _ before).tearsDown ht
      rw [dropped]
      exact ⟨first, [], by simp⟩
  | outside before _ =>
    rw [Task.hold_of_hook hk, before _ _ hk] at ht
    cases ht

/-- A thread that begins a shutdown tears the value down from then on. -/
theorem Context.Step.tearsDown {c c' : Context} {σ σ' : Hold} {marks : List Event} {g : Nat}
    (h : c.Step σ marks c' σ') (hg : .shutdownBegun g ∈ marks) : σ'.tearsDown g = true := by
  cases h with
  | close v hzero hv =>
    simp only [List.mem_singleton, Event.shutdownBegun.injEq] at hg
    simp [Hold.tearsDown, hg]
  | _ => simp at hg

/-! ## Runs -/

namespace System

/-- The visit marks of thread `t` in module `j`, oldest first. -/
def visitLog (s : System) (t j : Nat) : List Event :=
  visitMarks (s.log fun u module _ => u == t && module == j)

/-- Where thread `t` stands in module `j`, and what came of the shutdowns that it began there. -/
structure Trail (s : System) (t j : Nat) : Prop where
  follows : ∀ k, s.threads[t]? = some k → k.module? s.instances = some j →
    k.Follows (s.visitLog t j)
  closed : ∀ g, .shutdownBegun g ∈ s.visitLog t j → TornDown g (s.visitLog t j) ∨
    ∃ k, s.threads[t]? = some k ∧ (k.holdOn s.instances j).tearsDown g = true

section
variable {s : System} {t module : Nat} {on : Option Nat} {k k' : Task} {m m' : Module}
  {instances : List Instance} {events : List Event}

theorem visitLog_turn (u j : Nat) :
    (s.turn t module on k m instances events).visitLog u j =
      s.visitLog u j ++ if t = u ∧ module = j then visitMarks events else [] := by
  simp only [visitLog, log_turn, visitMarks, List.filter_append]
  by_cases h : t = u ∧ module = j
  · simp [h]
  · rw [if_neg h, if_neg (by simpa using h)]
    rfl

theorem Trail.elsewhere {u j : Nat} (h : s.Trail u j) {s' : System}
    (log : s'.visitLog u j = s.visitLog u j)
    (follows : ∀ k', s'.threads[u]? = some k' → k'.module? s'.instances = some j →
      (∀ marks, k'.Follows marks) ∨ s.threads[u]? = some k' ∧ k'.module? s.instances = some j)
    (tears : ∀ k g, s.threads[u]? = some k → (k.holdOn s.instances j).tearsDown g = true →
      ∃ k', s'.threads[u]? = some k' ∧ (k'.holdOn s'.instances j).tearsDown g = true) :
    s'.Trail u j := by
  refine ⟨fun k' hk' home => ?_, fun g hg => ?_⟩
  · rcases follows k' hk' home with any | ⟨hk, home⟩
    · exact any _
    · rw [log]
      exact h.follows k' hk home
  · rw [log] at hg ⊢
    rcases h.closed g hg with torn | ⟨k, hk, ht⟩
    · exact .inl torn
    · exact .inr (tears k g hk ht)

end

/-- A turn keeps the trails of all threads in all modules. -/
theorem Turn.trail {s s' : System} {t u j : Nat} (orderly : s.Orderly) (hs : s.Turn t s')
    (h : s.Trail u j) : s'.Trail u j := by
  obtain ⟨k, k', module, on, m, m', instances, events, rfl, work⟩ := hs.work orderly
  have log : (s.turn t module on k' m' instances events).visitLog u j =
      s.visitLog u j ++ if t = u ∧ module = j then visitMarks events else [] := visitLog_turn u j
  obtain ⟨hold, hold'⟩ := work.holdOn j
  by_cases hu : t = u
  · subst hu
    have mine : (s.turn t module on k' m' instances events).threads[t]? = some k' := by
      simp [(List.getElem?_eq_some_iff.mp work.before).1]
    by_cases hj : module = j
    · subst hj
      rw [if_pos rfl] at hold hold'
      rw [if_pos ⟨rfl, rfl⟩] at log
      have hf := h.follows k work.before work.home
      refine ⟨fun k₁ hk₁ _ => ?_, fun g hg => ?_⟩
      · cases mine.symm.trans hk₁
        rw [log]
        exact work.hook.follows hf
      · have tearing : k'.hold.tearsDown g = true →
            ∃ k₁, (s.turn t module on k' m' instances events).threads[t]? = some k₁ ∧
              (k₁.holdOn instances module).tearsDown g = true :=
          fun ht => ⟨k', mine, by rw [hold']; exact ht⟩
        rw [log] at hg ⊢
        rcases List.mem_append.mp hg with old | new
        · rcases h.closed g old with torn | ⟨k₁, hk₁, ht⟩
          · exact .inl (torn.append _)
          · cases work.before.symm.trans hk₁
            rw [hold] at ht
            exact (work.hook.tearsDown hf ht).imp id tearing
        · exact .inr (tearing (work.step.tearsDown (mem_visitMarks_shutdownBegun.mp new)))
    · rw [if_neg hj] at hold
      rw [if_neg (by simp [hj]), List.append_nil] at log
      refine h.elsewhere log (fun k₁ hk₁ home₁ => ?_) fun k₁ g hk₁ ht => ?_
      · cases mine.symm.trans hk₁
        rcases work.home' with home' | ⟨none, -⟩
        · exact absurd (Option.some.inj (home'.symm.trans home₁)) hj
        · exact .inl (Task.follows_of_none none)
      · cases work.before.symm.trans hk₁
        rw [hold] at ht
        cases ht
  · rw [if_neg (by simp [hu]), List.append_nil] at log
    have same : (s.turn t module on k' m' instances events).threads[u]? = s.threads[u]? := by
      simp [hu]
    refine h.elsewhere log (fun k₁ hk₁ home₁ => ?_) fun k₁ g hk₁ ht => ?_
    · rw [same] at hk₁
      exact .inr ⟨hk₁, (work.others k₁ (List.mem_of_getElem? hk₁)).symm.trans home₁⟩
    · refine ⟨k₁, same.trans hk₁, ?_⟩
      rw [turn_instances, Task.holdOn, work.others k₁ (List.mem_of_getElem? hk₁)]
      exact ht

/-- **Every shutdown ends in its own unload.** A value that a thread began to shut down was dropped
by it within the same visit of `OnUnload`, unless the thread is still about it. -/
theorem Run.trail {s : System} (h : Run s) (t j : Nat) : s.Trail t j := by
  refine h.induction (P := fun s => s.Trail t j) ⟨by simp, by simp [visitLog, log, visitMarks]⟩
    fun s s' hr trail hm => ?_
  cases hm with
  | install m _ => exact ⟨trail.follows, trail.closed⟩
  | begin k hnew _ =>
    refine trail.elsewhere rfl (fun k' hk' home => ?_) fun k' g hk' ht => ?_
    · rw [spawn, List.getElem?_append] at hk'
      split at hk'
      · exact .inr ⟨hk', home⟩
      · cases List.mem_singleton.mp (List.mem_of_getElem? hk')
        exact .inl hnew.follows
    · refine ⟨k', ?_, ht⟩
      rw [spawn, List.getElem?_append_left (List.getElem?_eq_some_iff.mp hk').1, hk']
  | again u c d r hu _ hnew _ =>
    refine trail.elsewhere rfl (fun k' hk' home => ?_) fun k' g hk' ht => ?_
    · rcases of_getElem?_set hk' with ⟨-, rfl⟩ | ⟨-, hk'⟩
      · exact .inl hnew.follows
      · exact .inr ⟨hk', home⟩
    · refine ⟨k', ?_, ht⟩
      by_cases hut : u = t
      · subst hut
        cases hu.symm.trans hk'
        -- A call tears nothing down.
        unfold Task.holdOn at ht
        split at ht
        · obtain ⟨hook, stage, hk⟩ := Task.hook_of_tearsDown ht
          cases hk
        · cases ht
      · simp [assign, hut, hk']
  | step _ u hs => exact (step_cases hs).trail hr.orderly trail

end System

end ModuleHost
