import ModuleHost.Proofs.Context.Inner

/-!
# The steps inside a request entry point

`Visit.Passage` lists the steps of a visit that has passed the entrance: where it stands before and
after, what becomes of the host data and of the module, and the events that it leaves.
`Visit.step_cases` says that there are no others, so that whatever a visit keeps on its way is shown
once for each line of the list.
-/
namespace ModuleHost

open Boundary

/-- A step of visit `v` in module `m`, to a stage, host data, a module, and events. -/
inductive Visit.Passage (v : Visit) (m : Module) :
    VisitStage → CallData → Module → List Event → Prop
  | begun (p : ModuleProgram Unit) (l : Lock) (value : HandlerValue) :
      v.stage = .firstRead p ∨ v.stage = .secondRead p → m.context.lock.acquireRead? = some l →
      m.context.slot = .live value →
      Passage v m (.running value.generation p) v.data
        (m.setContext { m.context with lock := l, calls := m.context.calls + 1 })
        [.handlerBegun value.generation]
  | fresh (p : ModuleProgram Unit) :
      v.stage = .firstRead p → m.context.slot = .fresh → Passage v m (.claiming p) v.data m []
  | torn (p : ModuleProgram Unit) :
      v.stage = .firstRead p → m.context.slot = .tornDown →
      Passage v m .returned v.data m [.notice .requestAfterUnload]
  /-- The value was built and is gone again. -/
  | missed (p : ModuleProgram Unit) :
      v.stage = .secondRead p → m.context.slot.value? = none → Passage v m .returned v.data m []
  | claim (p : ModuleProgram Unit) (l : Lock) :
      v.stage = .claiming p → m.context.lock.claim? = some l →
      Passage v m (.draining p) v.data (m.setContext { m.context with lock := l }) []
  | start (p : ModuleProgram Unit) (h : Handler) (drops : Drops) :
      v.stage = .draining p → m.code = .handler h drops → m.context.lock.readers = 0 →
      m.context.slot = .fresh →
      Passage v m (.initializing p (h.init m.context.starts)) v.data
        (m.setContext m.context.beginStart) [.startBegun m.context.starts]
  | pass (p : ModuleProgram Unit) (h : Handler) (drops : Drops) :
      v.stage = .draining p → m.code = .handler h drops → m.context.lock.readers = 0 →
      m.context.slot ≠ .fresh →
      Passage v m (.secondRead p) v.data (m.setContext m.context.releaseWrite) []
  | init (p : ModuleProgram Unit) (o : SelfOp) (next : o.Answer → SelfProgram (Except String Unit)) :
      v.stage = .initializing p (.ask o next) →
      Passage v m (.initializing p (next (SelfOp.perform m o).1)) v.data (SelfOp.perform m o).2.1
        (SelfOp.perform m o).2.2
  | built (p : ModuleProgram Unit) (u : Unit) :
      v.stage = .initializing p (.ret (.ok u)) →
      Passage v m (.secondRead p) v.data (m.setContext (m.context.finishStart (.ok u)).1)
        (m.context.finishStart (.ok u)).2
  | failed (p : ModuleProgram Unit) (i : SelfProgram (Except String Unit)) (n : Notice) :
      v.stage = .initializing p i →
      Passage v m .returned v.data (m.setContext (m.context.finishStart (.error n)).1)
        (m.context.finishStart (.error n)).2
  /-- What a failed start came to is not let go quietly. -/
  | broke (p : ModuleProgram Unit) (i : SelfProgram (Except String Unit)) (r : Upshot)
      (told : List Notice) :
      v.stage = .initializing p i → m.drops.parting r ≠ .quiet →
      Passage v m .escaped v.data (m.setContext m.context.releaseWrite) (told.map .notice)
  | handle (g : Nat) (o : ModuleOp) (next : o.Answer → ModuleProgram Unit) (a : o.Answer)
      (data : CallData) (m' : Module) (events : List Event) :
      v.stage = .running g (.ask o next) → v.perform m o = .ok (a, data, m', events) →
      Passage v m (.running g (next a)) data m' events
  | serve (o : ModuleOp) (next : o.Answer → ModuleProgram Unit) (a : o.Answer)
      (data : CallData) (m' : Module) (events : List Event) :
      v.stage = .plain (.ask o next) → v.perform m o = .ok (a, data, m', events) →
      Passage v m (.plain (next a)) data m' events
  | fault (o : ModuleOp) (next : o.Answer → ModuleProgram Unit) (f : Fault) :
      (∃ g, v.stage = .running g (.ask o next)) ∨ v.stage = .plain (.ask o next) →
      v.perform m o = .error f → Passage v m (.faulted f) v.data m []
  | ended (g : Nat) (u : Unit) :
      v.stage = .running g (.ret u) →
      Passage v m .returned v.data
        (m.setContext { m.context with lock := m.context.lock.releaseRead }) [.handlerEnded g]
  | served (u : Unit) : v.stage = .plain (.ret u) → Passage v m .returned v.data m []
  | escaped (g : Nat) (q : Payload) :
      v.stage = .running g (.panic q) →
      Passage v m .escaped v.data
        (m.setContext { m.context with lock := m.context.lock.releaseRead }) [.handlerEnded g]
  | escape (q : Payload) : v.stage = .plain (.panic q) → Passage v m .escaped v.data m []

namespace Visit

variable {v v' : Visit} {m m' : Module} {events : List Event}

theorem Passage.past {stage : VisitStage} {data : CallData}
    (h : v.Passage m stage data m' events) : v.stage ≠ .entering := by
  cases h with
  | begun p l value hs => rcases hs with hs | hs <;> simp [hs]
  | fault o next f hs => rcases hs with ⟨g, hs⟩ | hs <;> simp [hs]
  | _ => simp [*]

theorem read_cases {p : ModuleProgram Unit} {fresh torn : VisitStage} {tornEvents : List Event}
    (h : v.read m p fresh torn tornEvents = some (v', m', events)) :
    (∃ l value, m.context.lock.acquireRead? = some l ∧ m.context.slot = .live value ∧
      v' = { v with stage := .running value.generation p } ∧
      m' = m.setContext { m.context with lock := l, calls := m.context.calls + 1 } ∧
      events = [.handlerBegun value.generation]) ∨
    (m.context.slot = .fresh ∧ v' = { v with stage := fresh } ∧ m' = m ∧ events = []) ∨
    (m.context.slot = .tornDown ∧ v' = { v with stage := torn } ∧ m' = m ∧
      events = tornEvents) := by
  simp only [read, Option.map_eq_some_iff] at h
  obtain ⟨l, hl, h⟩ := h
  split at h
  · rename_i value slot
    cases h
    exact .inl ⟨l, value, hl, slot, rfl, rfl, rfl⟩
  · rename_i slot
    cases h
    exact .inr (.inl ⟨slot, rfl, rfl, rfl⟩)
  · rename_i slot
    cases h
    exact .inr (.inr ⟨slot, rfl, rfl, rfl⟩)

theorem afterStart_cases {p : ModuleProgram Unit} {i : SelfProgram (Except String Unit)}
    {r : Upshot} (hs : v.stage = .initializing p i) (built : ∀ u, r = .ok (.ok u) → i = .ret (.ok u)) :
    ∃ stage, (v.afterStart m p r).1 = { v with stage } ∧
      v.Passage m stage v.data (v.afterStart m p r).2.1 (v.afterStart m p r).2.2 := by
  cases parting : m.drops.parting r with
  | quiet =>
    simp only [afterStart, parting, Context.endStart]
    rcases r with q | e | u
    · exact ⟨_, rfl, .failed p i _ hs⟩
    · exact ⟨_, rfl, .failed p i _ hs⟩
    · exact ⟨_, rfl, .built p u (built u rfl ▸ hs)⟩
  | told =>
    have loud : m.drops.parting r ≠ .quiet := by simp [parting]
    simp only [afterStart, parting, Context.endStart]
    rcases r with q | e | u
    · exact ⟨_, rfl, .broke p i _ [_] hs loud⟩
    · exact ⟨_, rfl, .broke p i _ [_] hs loud⟩
    · exact absurd rfl loud
  | untold =>
    have loud : m.drops.parting r ≠ .quiet := by simp [parting]
    simp only [afterStart, parting, Context.endStart]
    exact ⟨_, rfl, .broke p i r [] hs loud⟩

/-- **All steps of a visit**: it enters, or takes one of the steps past the entrance, which change
its stage and the host data only. -/
theorem step_cases (h : v.step m = some (v', m', events)) :
    (v.stage = .entering ∧ v' = (v.enter m).1 ∧ m' = m ∧ events = (v.enter m).2) ∨
      ∃ stage data, v' = { v with stage, data } ∧ v.Passage m stage data m' events := by
  unfold step at h
  split at h
  · rename_i hs
    cases h
    exact .inl ⟨hs, rfl, rfl, rfl⟩
  · rename_i p hs
    obtain ⟨l, value, hl, slot, rfl, rfl, rfl⟩ | ⟨slot, rfl, rfl, rfl⟩ | ⟨slot, rfl, rfl, rfl⟩ :=
      read_cases h
    · exact .inr ⟨_, _, rfl, .begun p l value (.inl hs) hl slot⟩
    · exact .inr ⟨_, _, rfl, .fresh p hs slot⟩
    · exact .inr ⟨_, _, rfl, .torn p hs slot⟩
  · rename_i p hs
    simp only [Option.map_eq_some_iff, Prod.mk.injEq] at h
    obtain ⟨l, hl, rfl, rfl, rfl⟩ := h
    exact .inr ⟨_, _, rfl, .claim p l hs hl⟩
  · rename_i p hs
    split at h
    · rename_i handler drops code
      split at h
      · rename_i readers
        simp only [Option.some.injEq, locked] at h
        split at h
        · rename_i slot
          cases h
          exact .inr ⟨_, _, rfl, .start p handler drops hs code readers slot⟩
        · rename_i slot
          cases h
          exact .inr ⟨_, _, rfl, .pass p handler drops hs code readers slot⟩
      · cases h
    · cases h
  · rename_i p o next hs
    cases h
    exact .inr ⟨_, _, rfl, .init p o next hs⟩
  · rename_i p r hs
    simp only [Option.some.injEq] at h
    obtain ⟨stage, after, passage⟩ := v.afterStart_cases (m := m) (r := .ok r) hs (by simp)
    rw [h] at after passage
    exact .inr ⟨stage, v.data, after, passage⟩
  · rename_i p q hs
    simp only [Option.some.injEq] at h
    obtain ⟨stage, after, passage⟩ := v.afterStart_cases (m := m) (r := .error q) hs (by simp)
    rw [h] at after passage
    exact .inr ⟨stage, v.data, after, passage⟩
  · rename_i p hs
    obtain ⟨l, value, hl, slot, rfl, rfl, rfl⟩ | ⟨slot, rfl, rfl, rfl⟩ | ⟨slot, rfl, rfl, rfl⟩ :=
      read_cases h
    · exact .inr ⟨_, _, rfl, .begun p l value (.inr hs) hl slot⟩
    · exact .inr ⟨_, _, rfl, .missed p hs (by rw [slot]; rfl)⟩
    · exact .inr ⟨_, _, rfl, .missed p hs (by rw [slot]; rfl)⟩
  · rename_i g o next hs
    split at h
    · rename_i f hf
      cases h
      exact .inr ⟨_, _, rfl, .fault o next f (.inl ⟨g, hs⟩) hf⟩
    · rename_i a data m₁ events₁ hperform
      cases h
      exact .inr ⟨_, _, rfl, .handle g o next a data _ _ hs hperform⟩
  · rename_i g u hs
    cases h
    exact .inr ⟨_, _, rfl, .ended g u hs⟩
  · rename_i g q hs
    cases h
    exact .inr ⟨_, _, rfl, .escaped g q hs⟩
  · rename_i o next hs
    split at h
    · rename_i f hf
      cases h
      exact .inr ⟨_, _, rfl, .fault o next f (.inr hs) hf⟩
    · rename_i a data m₁ events₁ hperform
      cases h
      exact .inr ⟨_, _, rfl, .serve o next a data _ _ hs hperform⟩
  · rename_i u hs
    cases h
    exact .inr ⟨_, _, rfl, .served u hs⟩
  · rename_i q hs
    cases h
    exact .inr ⟨_, _, rfl, .escape q hs⟩
  · cases h
  · cases h
  · cases h

end Visit

end ModuleHost
