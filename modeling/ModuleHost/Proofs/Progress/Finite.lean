import Mathlib.Logic.Hydra
import ModuleHost.Proofs.Context.Passage
import ModuleHost.Proofs.Instance.Calling
import ModuleHost.Proofs.Instance.Closing
import ModuleHost.Proofs.Instance.Ending

/-!
# Threads come to an end

No step of a thread leads back: what it has still to do, its `rank`, gets less with every step,
whatever instance and module the step finds. First counts the position, and at one position the code
that is left to run, of which every branch is finite. Only a sleeper could look at the state again and
again; but the one broadcast that wakes it comes after the end, so that it finds the instance unloaded.

Machines without new tasks therefore come to rest under every schedule: `Run.descends` says that a step
lowers the ranks of all threads together.
-/
namespace ModuleHost

open Boundary

/-! ## Ranks -/

/-- Code that is left to run. -/
structure Rest where
  interface : Interface
  Result : Type
  code : Program interface Result

/-- What is left once an operation has been performed. -/
inductive Rest.Below : Rest → Rest → Prop
  | mk {I : Interface} {α : Type} (o : I.Op) (next : I.Answer o → Program I α) (a : I.Answer o) :
      Below ⟨I, α, next a⟩ ⟨I, α, .ask o next⟩

theorem Rest.wellFounded : WellFounded Below := by
  refine ⟨fun ⟨I, α, p⟩ => ?_⟩
  induction p with
  | ret | panic => exact ⟨_, fun _ below => by cases below⟩
  | ask o next ih =>
    refine ⟨_, fun _ below => ?_⟩
    cases below with
    | mk _ _ a => exact ih a

/-- A position, counted from the end, and the code left at it. -/
abbrev Rank : Type 1 := Nat × Rest

namespace Rank

def Less : Rank → Rank → Prop := Prod.Lex (· < ·) Rest.Below

theorem wellFounded : WellFounded Less := WellFounded.prod_lex Nat.lt_wfRel.wf Rest.wellFounded

instance : Std.Irrefl Less := wellFounded.irrefl

/-- A position without code. -/
def bare (n : Nat) : Rank := (n, ⟨SelfInterface, Unit, .ret ()⟩)

/-- The same, `n` positions further from the end. -/
def above (n : Nat) (r : Rank) : Rank := (n + r.1, r.2)

theorem Less.of_lt {r r' : Rank} (h : r'.1 < r.1) : Less r' r := Prod.Lex.left _ _ h

theorem Less.above {r r' : Rank} (h : Less r' r) (n : Nat) : Less (r'.above n) (r.above n) := by
  cases h with
  | left _ _ lt => exact .of_lt (Nat.add_lt_add_left lt n)
  | right _ below => exact .right _ below

theorem Less.code {I : Interface} {α : Type} (n : Nat) (o : I.Op)
    (next : I.Answer o → Program I α) (a : I.Answer o) :
    Less (n, ⟨I, α, next a⟩) (n, ⟨I, α, .ask o next⟩) := Prod.Lex.right n (.mk o next a)

end Rank

def HookStage.rank : HookStage → Rank
  | .entering => .bare 5
  | .claiming => .bare 4
  | .draining => .bare 3
  | .closing _ p => (2, ⟨_, _, p⟩)
  | .initializing p => (1, ⟨_, _, p⟩)
  | .dropping _ p | .unwinding _ p => (1, ⟨_, _, p⟩)
  | .plain p => (1, ⟨_, _, p⟩)
  | .returned _ | .escaped => .bare 0

def VisitStage.rank : VisitStage → Rank
  | .entering => .bare 7
  | .firstRead _ => .bare 6
  | .claiming _ => .bare 5
  | .draining _ => .bare 4
  | .initializing _ i => (3, ⟨_, _, i⟩)
  | .secondRead _ => .bare 2
  | .running _ p => (1, ⟨_, _, p⟩)
  | .plain p => (1, ⟨_, _, p⟩)
  | .returned | .faulted _ | .escaped => .bare 0

def Call.rank (c : Call) : Rank :=
  match c.stage with
  | .arriving => .bare 11
  | .inside => c.visit.stage.rank.above 3
  | .retiring => .bare 2
  | .leaving => .bare 1
  | .done _ | .escaped => .bare 0

def ShutdownStage.rank : ShutdownStage → Rank
  | .arriving => .bare 12
  | .draining _ => .bare 11
  | .unloading _ h => h.rank.above 5
  | .unmapping .. => .bare 4
  | .publishing .. => .bare 3
  | .broadcasting .. => .bare 2
  | .reporting .. => .bare 1
  | .asleep _ => .bare 1
  | .done _ | .escaped => .bare 0

def OpenStage.rank : OpenStage → Rank
  | .arriving => .bare 43
  | .probing h => h.rank.above 37
  | .judging _ => .bare 36
  | .loading _ h => h.rank.above 30
  | .abandoning _ _ σ => σ.rank.above 16
  | .dropping _ _ σ => σ.rank.above 2
  | .announcing _ => .bare 1
  | .done _ | .escaped => .bare 0

def Task.rank : Task → Rank
  | .opening _ st => st.rank
  | .calling c => c.rank
  | .shutting _ σ | .dropping _ σ => σ.rank
  | .hooking _ _ h => h.rank
  | .visiting _ v => v.stage.rank

/-! ## No step leads back -/

section
variable {i i' : Instance} {m m' : Module} {events : List Event}

theorem HookStage.rank_afterStart (m : Module) (r : Upshot) :
    (step.afterStart m r).1.rank = .bare 0 := by
  rcases afterStart_over m r with ends | ends <;> rw [ends] <;> rfl

theorem HookStage.rank_afterClose (v : HandlerValue) (m : Module) (r : Upshot) :
    (step.afterClose v m r).1.rank = (1, ⟨_, _, step.destructor m⟩) := by
  rcases afterClose_next v m r with next | next <;> rw [next] <;> rfl

theorem HookStage.rank_afterDrop (v : HandlerValue) (m : Module) (p : Payload) :
    (step.afterDrop v m p).1.rank = .bare 0 := by
  rcases afterDrop_over v m p with ends | ends <;> rw [ends] <;> rfl

theorem HookStage.step_less {hook : Hook} {h h' : HookStage}
    (hs : h.step hook m = some (h', m', events)) : Rank.Less h'.rank h.rank := by
  cases h with
  | entering =>
    simp only [step, Option.some.injEq, Prod.mk.injEq] at hs
    obtain ⟨rfl, -, -⟩ := hs
    unfold start
    split <;> exact .of_lt (by simp [rank, Rank.bare])
  | claiming =>
    simp only [step, Option.map_eq_some_iff, Prod.mk.injEq] at hs
    obtain ⟨l, -, rfl, -, -⟩ := hs
    exact .of_lt (by simp [rank, Rank.bare])
  | draining =>
    simp only [step] at hs
    split at hs
    · split at hs
      · simp only [Option.some.injEq, locked] at hs
        split at hs <;> cases hs <;> exact .of_lt (by simp [rank, Rank.bare])
      · cases hs
    · cases hs
  | initializing p =>
    cases p with
    | ask o next => cases hs; exact .code 1 o next _
    | ret r =>
      simp only [step, Option.some.injEq] at hs
      rw [show h' = (step.afterStart m (.ok r)).1 by rw [hs], rank_afterStart]
      exact .of_lt Nat.zero_lt_one
    | panic q =>
      simp only [step, Option.some.injEq] at hs
      rw [show h' = (step.afterStart m (.error q)).1 by rw [hs], rank_afterStart]
      exact .of_lt Nat.zero_lt_one
  | closing v p =>
    cases p with
    | ask o next => cases hs; exact .code 2 o next _
    | ret r =>
      simp only [step, Option.some.injEq] at hs
      rw [show h' = (step.afterClose v m (.ok r)).1 by rw [hs], rank_afterClose]
      exact .of_lt Nat.one_lt_two
    | panic q =>
      simp only [step, Option.some.injEq] at hs
      rw [show h' = (step.afterClose v m (.error q)).1 by rw [hs], rank_afterClose]
      exact .of_lt Nat.one_lt_two
  | dropping v p =>
    cases p with
    | ask o next => cases hs; exact .code 1 o next _
    | ret r => cases hs; exact .of_lt (by simp [rank, Rank.bare])
    | panic q =>
      simp only [step, Option.some.injEq] at hs
      rw [show h' = (step.afterDrop v m q).1 by rw [hs], rank_afterDrop]
      exact .of_lt Nat.zero_lt_one
  | unwinding v p | plain p =>
    cases p with
    | ask o next => cases hs; exact .code 1 o next _
    | ret r | panic q => cases hs; exact .of_lt (by simp [rank, Rank.bare])
  | returned code => cases hs
  | escaped => cases hs

theorem Visit.step_less {v v' : Visit} (h : v.step m = some (v', m', events)) :
    Rank.Less v'.stage.rank v.stage.rank := by
  rcases step_cases h with ⟨hs, rfl, -, -⟩ | ⟨stage, data, rfl, passage⟩
  · rw [hs]
    unfold enter
    split
    · exact .of_lt (by simp [VisitStage.rank, Rank.bare])
    · dsimp only
      split <;> exact .of_lt (by simp [VisitStage.rank, Rank.bare])
  · cases passage with
    | begun p l value hs =>
      rcases hs with hs | hs <;> rw [hs] <;> exact .of_lt (by simp [VisitStage.rank, Rank.bare])
    | init p o next hs => rw [hs]; exact .code (I := SelfInterface) 3 o next _
    | handle g o next a data m' events hs _ => rw [hs]; exact .code (I := ModuleInterface) 1 o next a
    | serve o next a data m' events hs _ => rw [hs]; exact .code (I := ModuleInterface) 1 o next a
    | fault o next f hs =>
      rcases hs with ⟨g, hs⟩ | hs <;> rw [hs] <;> exact .of_lt (by simp [VisitStage.rank, Rank.bare])
    | fresh p hs | torn p hs | missed p hs | claim p l hs | start p handler drops hs
    | pass p handler drops hs | built p u hs | failed p i n hs | broke p i r told hs | ended g u hs
    | served u hs | escaped g q hs | escape q hs =>
      rw [hs]
      exact .of_lt (by simp [VisitStage.rank, Rank.bare])

theorem Call.Transition.less {c c' : Call} (h : c.Transition i m c' i' m' events) :
    Rank.Less c'.rank c.rank := by
  cases h with
  | missing hs | refused hs | admitted g hs =>
    refine .of_lt ?_
    simp [Call.rank, hs, Rank.bare, Rank.above, VisitStage.rank]
  | visiting v m' events hs hstep =>
    simp only [Call.rank, hs]
    exact (Visit.step_less hstep).above 3
  | returned hs hv =>
    refine .of_lt ?_
    simp [Call.rank, hs, hv, Rank.bare, Rank.above, VisitStage.rank]
  | broke hs hv =>
    refine .of_lt ?_
    simp [Call.rank, hs, Rank.bare, Rank.above]
  | retire hs | release hs =>
    refine .of_lt ?_
    simp [Call.rank, hs, Rank.bare]

/-- Nothing has been broadcast before the end has been published. -/
def Instance.Silent (i : Instance) : Prop := i.gate.state ≠ .unloaded → i.broadcasts = 0

theorem ShutdownStage.Transition.less {σ σ' : ShutdownStage} (h : Transition i m σ σ' i' m' events)
    (silent : i.Silent) : Rank.Less σ'.rank σ.rank := by
  cases h with
  | hook inside h h' m' events hstep => exact (HookStage.step_less hstep).above 5
  | find σ looks =>
    rcases looks with ⟨rfl, -⟩ | ⟨since, rfl, -⟩ <;> exact .of_lt (by simp [rank, Rank.bare])
  | sleep σ looks still =>
    rcases looks with ⟨rfl, -⟩ | ⟨since, rfl, woken⟩
    · exact .of_lt (by simp [rank, Rank.bare])
    · -- What has woken it up is the one broadcast, after the end.
      rw [silent still] at woken
      exact absurd woken (Nat.not_lt_zero since)
  | _ => exact .of_lt (by simp [rank, Rank.bare, Rank.above, HookStage.rank])

theorem Opening.Early.less {o : Opening} {next : Nat} {st st' : OpenStage}
    {made : Option Instance} (h : o.Early next m st st' made m' events) :
    Rank.Less st'.rank st.rank := by
  cases h with
  | hook h h' m' events hstep => exact (HookStage.step_less hstep).above 37
  | _ => exact .of_lt (by simp [OpenStage.rank, Rank.bare, Rank.above, HookStage.rank])

theorem Opening.Late.less {st st' : OpenStage} (h : Late i m st st' i' m' events)
    (silent : i.Silent) : Rank.Less st'.rank st.rank := by
  cases h with
  | hook n h h' m' events hstep => exact (HookStage.step_less hstep).above 30
  | abandon n code σ σ' i' m' events hstep =>
    exact ((ShutdownStage.step_cases hstep).less silent).above 16
  | drop n code σ σ' i' m' events hstep =>
    exact ((ShutdownStage.step_cases hstep).less silent).above 2
  | _ =>
    exact .of_lt (by simp [OpenStage.rank, Rank.bare, Rank.above, HookStage.rank, ShutdownStage.rank])

theorem Task.stepOn_less {k k' : Task} (h : k.stepOn i m = some (k', i', m', events))
    (silent : i.Silent) : Rank.Less k'.rank k.rank := by
  cases k with
  | opening o st =>
    obtain ⟨st', rfl, late⟩ := opening_stepOn h
    exact late.less silent
  | calling c =>
    obtain ⟨c', rfl, transition⟩ := calling_stepOn h
    exact transition.less
  | shutting n σ | dropping n σ =>
    simp only [stepOn, Option.map_eq_some_iff, Prod.mk.injEq] at h
    obtain ⟨⟨σ', i₁, m₁, events₁⟩, hs, rfl, -⟩ := h
    exact (ShutdownStage.step_cases hs).less silent
  | hooking | visiting => cases h

theorem Task.stepIn_less {k k' : Task} (h : k.stepIn m = some (k', m', events)) :
    Rank.Less k'.rank k.rank := by
  cases k with
  | hooking j hook st =>
    simp only [stepIn, Option.map_eq_some_iff, Prod.mk.injEq] at h
    obtain ⟨⟨st', m₁, events₁⟩, hs, rfl, -⟩ := h
    exact HookStage.step_less hs
  | visiting j v =>
    simp only [stepIn, Option.map_eq_some_iff, Prod.mk.injEq] at h
    obtain ⟨⟨v', m₁, events₁⟩, hs, rfl, -⟩ := h
    exact Visit.step_less hs
  | opening | calling | shutting | dropping => cases h

end

/-! ## All threads together -/

namespace System

/-- What all threads have still to do. -/
def ranks (s : System) : Multiset Rank := s.threads.map Task.rank

/-- A step of a thread lowers its rank. -/
theorem Run.less {s s' : System} {t : Nat} (hr : Run s) (h : s.step t = some s') :
    ∃ k k', s.threads[t]? = some k ∧ s'.threads = s.threads.set t k' ∧
      Rank.Less k'.rank k.rank := by
  cases step_cases h with
  | early o st st' made m m' events ht _ _ early =>
    exact ⟨_, _, ht, rfl, (Opening.stepEarly_cases early).less⟩
  | late k k' n i i' m m' events ht hon hi _ hstep =>
    exact ⟨_, _, ht, rfl, Task.stepOn_less hstep (hr.endings n i hi).ending.silent⟩
  | direct k k' j m m' events ht _ _ hstep => exact ⟨_, _, ht, rfl, Task.stepIn_less hstep⟩

theorem coe_set_add {α : Type 1} {l : List α} {t : Nat} {a : α} (h : l[t]? = some a) (b : α) :
    ((l.set t b : List α) : Multiset α) + {a} = (l : Multiset α) + {b} := by
  obtain ⟨hlt, rfl⟩ := List.getElem?_eq_some_iff.mp h
  have perm : (l.set t b).Perm (b :: l.eraseIdx t) := by
    rw [List.set_eq_take_append_cons_drop, if_pos hlt, List.eraseIdx_eq_take_drop_succ]
    exact List.perm_middle
  have perm' : (l[t] :: l.eraseIdx t).Perm l := List.getElem_cons_eraseIdx_perm hlt
  rw [Multiset.coe_eq_coe.mpr perm, ← Multiset.coe_eq_coe.mpr perm', ← Multiset.cons_coe,
    ← Multiset.cons_coe, ← Multiset.singleton_add, ← Multiset.singleton_add,
    add_comm _ {l[t]}, add_comm ({b} : Multiset α), ← add_assoc]

/-- **Every step lowers the ranks.** Where nothing new is begun, threads therefore come to an end under
every schedule. -/
theorem Run.descends {s s' : System} {t : Nat} (hr : Run s) (h : s.step t = some s') :
    Relation.CutExpand Rank.Less s'.ranks s.ranks := by
  obtain ⟨k, k', ht, after, less⟩ := hr.less h
  refine ⟨{k'.rank}, k.rank, fun r hr => ?_, ?_⟩
  · rw [Multiset.mem_singleton.mp hr]
    exact less
  · have there : (s.threads.map Task.rank)[t]? = some k.rank := by rw [List.getElem?_map, ht]; rfl
    rw [ranks, after, List.map_set]
    exact coe_set_add there k'.rank

theorem wellFounded_ranks : WellFounded (Relation.CutExpand Rank.Less) := Rank.wellFounded.cutExpand

end System

end ModuleHost
