import ModuleHost.Proofs.Entry.Handling
import ModuleHost.Proofs.Entry.Starting

/-!
# Entries that change nothing

A program rests on the data if it leaves them as they are and counts nothing, whatever it is told
(`ModuleProgram.Rests`). A request entry whose handler's program rests leaves the host data as they were,
wherever it stands, and none of its steps changes what the value in the slot has counted: not even the
start of a value, since a request starts one only where none is (`Follows.rests`).
-/
namespace ModuleHost

open Boundary

/-- The requests that the value in the slot has counted. -/
def Context.counted (c : Context) : Nat :=
  match c.slot with
  | .live v => v.seen
  | .fresh | .tornDown => 0

/-- Whether the program leaves the data as they are and counts nothing. -/
def ModuleProgram.Rests {α : Type} : ModuleProgram α → CallData → Prop
  | .ret _, _ | .panic _, _ => True
  | .ask (o : ModuleOp) next, d =>
    o ≠ .count ∧ o.after d = d ∧ ∀ a, o.Fits d a → Rests (next a) d

variable {v v' : Visit} {m m' : Module} {events : List Event} {d : CallData} {h : Handler}

theorem Boundary.Handles.keeps_rests (given : Handles) :
    given.Keeps fun p d' => d' = d ∧ p.Rests d := by
  rintro m m' o next a d' data events ⟨rfl, -, same, rest⟩ perform
  obtain ⟨fits, rfl⟩ := Visit.perform_fits perform
  exact ⟨same, rest a fits⟩

theorem Visit.perform_context {o : ModuleOp} {a : o.Answer} {data : CallData} (other : o ≠ .count)
    (perform : v.perform m o = .ok (a, data, m', events)) : m'.context = m.context := by
  cases o with
  | host c =>
    simp only [Visit.perform] at perform
    split at perform
    · cases perform
    · cases perform
      rfl
  | count => exact absurd rfl other
  | own o =>
    cases perform
    exact o.perform_context m
  | stamps | canSetUri | pause =>
    cases perform
    rfl

/-- The steps of an entry that count nothing; a start fills the slot where nothing was counted. -/
theorem Visit.Passage.counted {stage : VisitStage} {data : CallData}
    (passage : v.Passage m stage data m' events) (handled : ∀ p, v.stage ≠ .plain p)
    (other : ∀ g o next, v.stage = .running g (.ask (I := ModuleInterface) o next) → o ≠ .count)
    (fresh : ∀ p i, v.stage = .initializing p i → m.context.slot = .fresh) :
    m'.context.counted = m.context.counted := by
  cases passage with
  | begun | fresh | torn | missed | claim | start | pass | broke | fault | ended | served | escaped
  | escape => rfl
  | init p o next hs => rw [o.perform_context]
  | built p u hs | failed p i n hs =>
    simp only [Context.counted, fresh _ _ hs]
    rfl
  | handle g o next a data m' events hs perform =>
    rw [Visit.perform_context (other g o next hs) perform]
  | serve o next a data m' events hs => exact absurd hs (handled _)

/-- **An entry whose handler's program rests** changes neither the host data nor what was counted. -/
theorem System.Follows.rests {s s' : System} {t j : Nat} (hr : Run s) (code : s.HasHandler j h)
    (straight : h.Straight) (enters : s.Enters t j v)
    (rests : (h.guarded v.proxy v.errand v.handles).Rests v.data) (follows : s.Follows t s')
    (here : s'.Attends t j v') :
    v'.data = v.data ∧
      ∀ s'', s'.step t = some s'' → (s''.context j).counted = (s'.context j).counted := by
  obtain ⟨-, log, -, grown, -⟩ := follows.stepsTo hr code enters.attends
  have handling := follows.handling hr code straight enters v.handles.keeps_rests
    (fun _ => ⟨rfl, rests⟩) here grown
  refine ⟨?_, fun s'' hs => ?_⟩
  · exact handling.data.elim id fun ⟨p, same, _⟩ => same
  · obtain ⟨v₂, events, -, -, entryStep⟩ := here.step hs
    cases entryStep with
    | part gone stage data modules => simp only [System.context, modules]
    | visit m m' hm hm' hstep =>
      have before : s'.context j = m.context := by simp [System.context, hm]
      have after : s''.context j = m'.context := by simp [System.context, hm']
      rw [before, after]
      rcases Visit.step_cases hstep with ⟨-, -, rfl, -⟩ | ⟨stage, data, rfl, passage⟩
      · rfl
      · refine passage.counted (fun p hs => ?_) (fun g o next hs => ?_) fun p i hs => ?_
        · simp only [Handling, hs] at handling
        · simp only [Handling, hs] at handling
          exact handling.1.2.1
        · have phase := (hr.later follows.later).starting_fresh here hs
          rw [before] at phase
          cases slot : m.context.slot <;> simp [Context.phase, slot, Slot.phase] at phase
          rfl

end ModuleHost
