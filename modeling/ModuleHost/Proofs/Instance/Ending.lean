import ModuleHost.Proofs.Context.Inner
import ModuleHost.Proofs.Instance.Orderly

/-!
# How an instance ends

The end marks of an instance are what its end leaves in the history: the gate closed, `OnUnload`
called and left, the library released, the end published. `ShutdownStage.Tells` says which of them
are there when the shutdown that closed the gate stands at a given stage, and `Instance.Ending` which
are there before this shutdown and after it. Both are kept by every step: no other shutdown, call or
opening leaves an end mark (`Task.stepOn_quiet`).
-/
namespace ModuleHost

open Boundary

namespace Event

/-- Whether the event belongs to the end of an instance. -/
def ofEnd : Event → Bool
  | .gateClosed _ | .entered .onUnload | .left .onUnload _ | .unmapped | .published => true
  | _ => false

end Event

def endMarks (events : List Event) : List Event := events.filter Event.ofEnd

theorem endMarks_append (a b : List Event) : endMarks (a ++ b) = endMarks a ++ endMarks b :=
  List.filter_append ..

theorem endMarks_inner {events : List Event} (h : ∀ e ∈ events, e.isInner = true) :
    endMarks events = [] := by
  refine List.filter_eq_nil_iff.mpr fun e he => ?_
  have inner := h e he
  cases e <;> first | exact Bool.false_ne_true | cases inner

namespace HookStage

theorem endMarks_step {hook : Hook} {m m' : Module} {h h' : HookStage} {events : List Event}
    (hs : h.step hook m = some (h', m', events)) :
    h = .entering ∧ events = [.entered hook.entry] ∨ h ≠ .entering ∧ endMarks events = [] :=
  (step_inner hs).imp id fun ⟨hne, inner⟩ => ⟨hne, endMarks_inner inner⟩

end HookStage

/-- The end of an instance up to the return of `OnUnload`, when `inside` calls were in flight. -/
def Boundary.Exports.departure (x : Exports) (inside : Nat) : List Event :=
  .gateClosed inside :: if x.onUnload then [.entered .onUnload, .left .onUnload] else []

/-- The whole end. -/
def Boundary.Exports.farewell (x : Exports) (inside : Nat) : List Event :=
  x.departure inside ++ [.unmapped, .published]

/-- What a shutdown says, by where it stands, of the instance and its end marks. Who sleeps has fallen
asleep before the only broadcast. -/
def ShutdownStage.Tells (i : Instance) (marks : List Event) : ShutdownStage → Prop
  | .draining inside => marks = [.gateClosed inside]
  | .unloading inside .entering => i.exports.onUnload = true ∧ marks = [.gateClosed inside]
  | .unloading inside _ =>
    i.exports.onUnload = true ∧ marks = [.gateClosed inside, .entered .onUnload]
  | .unmapping inside hook => hook = i.exports.onUnload ∧ marks = i.exports.departure inside
  | .publishing inside hook =>
    hook = i.exports.onUnload ∧ marks = i.exports.departure inside ++ [.unmapped] ∧ i.mapped = false
  | .broadcasting inside hook =>
    hook = i.exports.onUnload ∧ marks = i.exports.farewell inside
  | .reporting inside hook | .done (.completed inside hook) =>
    hook = i.exports.onUnload ∧ marks = i.exports.farewell inside ∧ 0 < i.broadcasts
  | .asleep since => since = 0
  | .arriving | .done .alreadyShutDown | .escaped => True

/-- What the end marks of an instance are before its end and after it; before, nothing has been
broadcast. -/
structure Instance.Ending (i : Instance) (marks : List Event) : Prop where
  silent : i.gate.state ≠ .unloaded → i.broadcasts = 0
  untouched : i.gate.state = .live → marks = []
  gone : i.gate.state = .unloaded → i.mapped = false ∧ ∃ inside, marks = i.exports.farewell inside

theorem Instance.Ending.meanwhile {i : Instance} (draining : i.gate.state = .draining)
    (silent : i.broadcasts = 0) (marks : List Event) : i.Ending marks := by
  refine ⟨fun _ => silent, ?_, ?_⟩
  · intro live
    cases draining.symm.trans live
  · intro unloaded
    cases draining.symm.trans unloaded

/-- Whether a thread that stands so is about to end the instance. -/
def Standing.closes : Standing → Bool
  | .draining | .drained | .unloading => true
  | _ => false

/-- Whoever is about to end an instance is the only one. -/
theorem Books.closer_alone {x : Exports} {g : Gate} {N : Standing → Nat} {word : List EntryPoint}
    (b : Books x g N word) {σ : Standing} (hσ : σ.closes = true) (pos : 0 < N σ) :
    g.state = .draining ∧ N .draining + N .drained + N .unloading = 1 := by
  have closer := b.closer
  have some_closer : 0 < N .draining + N .drained + N .unloading := by
    cases σ with
    | draining | drained | unloading => omega
    | apart | starting | admitted | within | ended => cases hσ
  split at closer
  · rename_i hs
    exact ⟨hs, closer⟩
  · omega

namespace ShutdownStage

variable {i i' : Instance} {m m' : Module} {σ σ' : ShutdownStage} {events marks : List Event}

/-- A shutdown that found the gate closed, or has published the end, leaves no end marks. -/
theorem step_quiet (h : σ.step i m = some (σ', i', m', events)) (hσ : σ.standing.closes = false)
    (closed : i.gate.state ≠ .live) :
    endMarks events = [] ∧ i'.mapped = i.mapped ∧ i.broadcasts ≤ i'.broadcasts := by
  cases σ with
  | arriving =>
    simp only [step] at h
    split at h
    · rename_i g hg
      exact absurd (Gate.close?_eq_some hg).1 closed
    · cases h
      exact ⟨rfl, rfl, Nat.le_refl _⟩
  | asleep since =>
    simp only [step] at h
    split at h
    · cases h
      exact ⟨rfl, rfl, Nat.le_refl _⟩
    · cases h
  | broadcasting inside hook =>
    cases h
    exact ⟨rfl, rfl, Nat.le_succ _⟩
  | reporting inside hook =>
    cases h
    exact ⟨rfl, rfl, Nat.le_refl _⟩
  | unloading inside hook => cases hook <;> cases hσ
  | draining inside | unmapping inside hook | publishing inside hook => cases hσ
  | done o | escaped => cases h

/-- What a shutdown tells does not change while exports, marks and library stay. -/
theorem Tells.congr (h : σ.Tells i marks) (exports : i'.exports = i.exports)
    (mapped : i'.mapped = i.mapped) (broadcasts : i.broadcasts ≤ i'.broadcasts) :
    σ.Tells i' marks := by
  have told : ∀ {inside : Nat} {hook : Bool},
      hook = i.exports.onUnload ∧ marks = i.exports.farewell inside ∧ 0 < i.broadcasts →
      hook = i'.exports.onUnload ∧ marks = i'.exports.farewell inside ∧ 0 < i'.broadcasts := by
    rintro inside hook ⟨unloads, whole, woken⟩
    rw [exports]
    exact ⟨unloads, whole, Nat.lt_of_lt_of_le woken broadcasts⟩
  cases σ with
  | draining inside => exact h
  | unloading inside hook =>
    cases hook <;> exact ⟨(congrArg Exports.onUnload exports).trans h.1, h.2⟩
  | unmapping inside hook | broadcasting inside hook =>
    simp only [Tells, exports] at h ⊢
    exact h
  | publishing inside hook =>
    simp only [Tells, exports, mapped] at h ⊢
    exact h
  | reporting inside hook => exact told h
  | done o =>
    cases o with
    | completed inside hook => exact told h
    | alreadyShutDown => trivial
  | asleep since => exact h
  | arriving | escaped => trivial

theorem Tells.of_apart {marks' : List Event} (h : σ.Tells i marks) (apart : σ.standing = .apart) :
    σ.Tells i' marks' := by
  cases σ with
  | unloading inside hook => cases hook <;> cases apart
  | arriving => trivial
  | asleep since => exact h
  | draining | unmapping | publishing | broadcasting | reporting | done | escaped => cases apart

/-- A step of a shutdown: what it tells of the end stays true, and so does what is known of the
instance. -/
theorem Tells.step (tells : σ.Tells i marks) (h : σ.step i m = some (σ', i', m', events))
    (ending : i.Ending marks) (draining : σ.standing.closes = true → i.gate.state = .draining)
    (ended : σ.standing = .ended → i.gate.state = .unloaded) :
    i'.Ending (marks ++ endMarks events) ∧ σ'.Tells i' (marks ++ endMarks events) := by
  -- Where nothing of the instance's end happens.
  have still : endMarks events = [] → i' = i → σ'.Tells i marks →
      i'.Ending (marks ++ endMarks events) ∧ σ'.Tells i' (marks ++ endMarks events) := by
    intro quiet same tells'
    rw [quiet, List.append_nil, same]
    exact ⟨ending, tells'⟩
  have looks : (look i).Tells i marks := by
    unfold look
    split
    · trivial
    · rename_i open₀
      exact ending.silent open₀
  cases σ with
  | arriving =>
    simp only [ShutdownStage.step] at h
    split at h
    · rename_i g hg
      obtain ⟨live, closed, -⟩ := Gate.close?_eq_some hg
      have silent : i.broadcasts = 0 := ending.silent (by rw [live]; decide)
      cases h
      refine ⟨?_, ?_⟩
      · apply Instance.Ending.meanwhile
        · exact closed
        · exact silent
      · rw [ending.untouched live]
        rfl
    · cases h
      exact still rfl rfl looks
  | asleep since =>
    simp only [ShutdownStage.step] at h
    split at h
    · cases h
      exact still rfl rfl looks
    · cases h
  | draining inside =>
    have tells : marks = [.gateClosed inside] := tells
    simp only [ShutdownStage.step] at h
    split at h
    · cases h
      refine still rfl rfl ?_
      cases hx : i.exports.onUnload with
      | true => exact ⟨hx, tells⟩
      | false => exact ⟨hx.symm, by simp [tells, Exports.departure, hx]⟩
    · cases h
  | unloading inside hook =>
    have closed : i.gate.state = .draining := draining (by cases hook <;> rfl)
    have silent : i.broadcasts = 0 := ending.silent (by rw [closed]; decide)
    rcases hook.running_or with ⟨code, rfl⟩ | rfl | hr
    · obtain ⟨hx, rfl⟩ := tells
      cases h
      exact ⟨.meanwhile closed silent _, hx.symm, by simp [endMarks, Event.ofEnd, Exports.departure, hx]⟩
    · cases h
      exact still rfl rfl trivial
    · simp only [step_unloading hr, Option.map_eq_some_iff, Prod.mk.injEq] at h
      obtain ⟨⟨hook', m₁, events₁⟩, hstep, rfl, rfl, rfl, rfl⟩ := h
      have begun := (HookStage.step_spec hstep).begun
      have inside_told : ∀ {marks : List Event}, i.exports.onUnload = true →
          marks = [.gateClosed inside, .entered .onUnload] →
          (unloading inside hook').Tells i marks := by
        intro marks hx told
        cases hook' <;> first | exact absurd rfl begun | exact ⟨hx, told⟩
      rcases HookStage.endMarks_step hstep with ⟨rfl, rfl⟩ | ⟨hne, quiet⟩
      · obtain ⟨hx, rfl⟩ := tells
        exact ⟨.meanwhile closed silent _, inside_told hx rfl⟩
      · obtain ⟨hx, told⟩ : i.exports.onUnload = true ∧
            marks = [.gateClosed inside, .entered .onUnload] := by
          cases hook <;> first | exact absurd rfl hne | exact tells
        exact still quiet rfl (inside_told hx told)
  | unmapping inside hook =>
    obtain ⟨hhook, rfl⟩ := tells
    have closed : i.gate.state = .draining := draining rfl
    have silent : i.broadcasts = 0 := ending.silent (by rw [closed]; decide)
    cases h
    refine ⟨?_, hhook, rfl, rfl⟩
    apply Instance.Ending.meanwhile
    · exact closed
    · exact silent
  | publishing inside hook =>
    obtain ⟨hhook, rfl, mapped⟩ := tells
    cases h
    have whole : i.exports.departure inside ++ [.unmapped] ++ endMarks [.published] =
        i.exports.farewell inside := by
      rw [List.append_assoc]
      rfl
    rw [whole]
    exact ⟨⟨fun open₀ => absurd rfl open₀, fun live => (by cases live),
      fun _ => ⟨mapped, inside, rfl⟩⟩, hhook, rfl⟩
  | broadcasting inside hook =>
    cases h
    rw [show endMarks [] = [] from rfl, List.append_nil]
    exact ⟨⟨fun open₀ => absurd (ended rfl) open₀, ending.untouched, ending.gone⟩, tells.1, tells.2,
      Nat.succ_pos _⟩
  | reporting inside hook =>
    cases h
    exact still rfl rfl tells
  | done o | escaped => cases h

end ShutdownStage

theorem Call.step_quiet {c c' : Call} {i i' : Instance} {m m' : Module} {events : List Event}
    (h : c.step i m = some (c', i', m', events)) :
    endMarks events = [] ∧ i'.mapped = i.mapped ∧ i'.gate.state = i.gate.state ∧
      i'.broadcasts = i.broadcasts := by
  have request : ∀ v : Visit, Event.ofEnd (.left v.entry) = false ∧
      Event.ofEnd (.entered v.entry) = false := by
    intro v
    unfold Visit.entry
    split <;> exact ⟨rfl, rfl⟩
  unfold step at h
  split at h
  · simp only [Option.some.injEq, arrive] at h
    split at h
    · cases h
      exact ⟨rfl, rfl, rfl, rfl⟩
    · split at h
      · rename_i g hg
        obtain ⟨live, live', -⟩ := Gate.admit?_eq_some hg
        cases h
        exact ⟨rfl, rfl, live'.trans live.symm, rfl⟩
      · cases h
        exact ⟨rfl, rfl, rfl, rfl⟩
  · split at h
    · cases h
      exact ⟨by simp [endMarks, (request c.visit).1], rfl, rfl, rfl⟩
    · cases h
      exact ⟨rfl, rfl, rfl, rfl⟩
    · cases h
      exact ⟨rfl, rfl, rfl, rfl⟩
    · simp only [Option.map_eq_some_iff, Prod.mk.injEq] at h
      obtain ⟨⟨v, m₁, events₁⟩, hstep, rfl, rfl, rfl, rfl⟩ := h
      refine ⟨?_, rfl, rfl, rfl⟩
      rcases Visit.step_inner hstep with ⟨-, more, rfl, inner⟩ | ⟨-, inner⟩
      · have quiet := endMarks_inner inner
        unfold endMarks at quiet ⊢
        rw [List.filter_cons_of_neg (by simp [(request c.visit).2]), quiet]
      · exact endMarks_inner inner
  · cases h
    exact ⟨rfl, rfl, rfl, rfl⟩
  · cases h
    exact ⟨rfl, rfl, rfl, rfl⟩
  · cases h
  · cases h

/-! ## Tasks -/

namespace Task

/-- Why a shutdown is called. -/
inductive Reason where
  /-- Somebody asks for it. -/
  | asked
  /-- The instance is given up. -/
  | dropped
  /-- `OnLoad` failed. -/
  | failed
  /-- The opening that failed gives its instance up. -/
  | discarded
  deriving DecidableEq, Repr

/-- The shutdown call that a task is in: its reason, the instance, and where it stands. -/
def shutdown? : Task → Option (Reason × Nat × ShutdownStage)
  | .shutting n σ => some (.asked, n, σ)
  | .dropping n σ => some (.dropped, n, σ)
  | .opening _ (.abandoning n _ σ) => some (.failed, n, σ)
  | .opening _ (.dropping n _ σ) => some (.discarded, n, σ)
  | _ => none

variable {k k' : Task} {n : Nat} {i i' : Instance} {m m' : Module} {events : List Event}

theorem on?_of_shutdown {why : Reason} {σ : ShutdownStage} (h : k.shutdown? = some (why, n, σ)) :
    k.on? = some n ∧ k.standing = σ.standing := by
  cases k with
  | opening o st => cases st <;> cases h <;> exact ⟨rfl, rfl⟩
  | shutting | dropping => cases h; exact ⟨rfl, rfl⟩
  | calling | hooking | visiting => cases h

/-- The steps of tasks in a shutdown call: of the shutdown, or on from one that is done. -/
inductive Transition (i : Instance) (m : Module) (n : Nat) :
    Reason → ShutdownStage → Task → Instance → Module → List Event → Prop
  | on (why : Reason) (σ σ' : ShutdownStage) (k' : Task) (i' : Instance) (m' : Module)
      (events : List Event) : σ.step i m = some (σ', i', m', events) →
      k'.shutdown? = some (why, n, σ') → Transition i m n why σ k' i' m' events
  | again (o : Opening) (code : Int) (r : ShutdownOutcome) :
      Transition i m n .failed (.done r) (.opening o (.dropping n code .arriving)) i m []
  | lost (o : Opening) (e : HostError) (r : ShutdownOutcome) :
      Transition i m n .discarded (.done r) (.opening o (.done (.error e))) i m []

theorem stepOn_transition {why : Reason} {σ : ShutdownStage} (hk : k.shutdown? = some (why, n, σ))
    (h : k.stepOn i m = some (k', i', m', events)) : Transition i m n why σ k' i' m' events := by
  cases k with
  | opening o st =>
    obtain ⟨st', rfl, late⟩ := opening_stepOn h
    cases late with
    | abandon n' code σ₁ σ' i' m' events hs => cases hk; exact .on _ _ σ' _ _ _ _ hs rfl
    | drop n' code σ₁ σ' i' m' events hs => cases hk; exact .on _ _ σ' _ _ _ _ hs rfl
    | abandoned n' code r => cases hk; exact .again o code r
    | dropped n' code r => cases hk; exact .lost o _ r
    | hook | loaded | failed | broke | announce => cases hk
  | shutting n' σ₁ | dropping n' σ₁ =>
    cases hk
    simp only [stepOn, Option.map_eq_some_iff, Prod.mk.injEq] at h
    obtain ⟨⟨σ', i₁, m₁, events₁⟩, hs, rfl, rfl, rfl, rfl⟩ := h
    exact .on _ _ σ' _ _ _ _ hs rfl
  | calling | hooking | visiting => cases hk

/-- Outside of shutdown calls nothing of the instance's end happens; a failed opening begins one. -/
theorem stepOn_outside (hk : k.shutdown? = none) (h : k.stepOn i m = some (k', i', m', events)) :
    (endMarks events = [] ∧ i'.mapped = i.mapped ∧ i'.gate.state = i.gate.state ∧
      i'.broadcasts = i.broadcasts) ∧
      (k'.shutdown? = none ∨ ∃ n, k'.shutdown? = some (.failed, n, .arriving)) := by
  cases k with
  | opening o st =>
    obtain ⟨st', rfl, late⟩ := opening_stepOn h
    cases late with
    | hook n hook hook' m' events hs =>
      refine ⟨⟨?_, rfl, rfl, rfl⟩, .inl rfl⟩
      rcases HookStage.endMarks_step hs with ⟨-, rfl⟩ | ⟨-, quiet⟩
      · rfl
      · exact quiet
    | loaded | broke | announce => exact ⟨⟨rfl, rfl, rfl, rfl⟩, .inl rfl⟩
    | failed n code _ => exact ⟨⟨rfl, rfl, rfl, rfl⟩, .inr ⟨n, rfl⟩⟩
    | abandon | abandoned | drop | dropped => cases hk
  | calling c =>
    simp only [stepOn, Option.map_eq_some_iff, Prod.mk.injEq] at h
    obtain ⟨⟨c', i₁, m₁, events₁⟩, hstep, rfl, rfl, rfl, rfl⟩ := h
    exact ⟨Call.step_quiet hstep, .inl rfl⟩
  | shutting | dropping => cases hk
  | hooking | visiting => cases h

theorem IsNew.shutdown_arriving {why : Reason} {σ : ShutdownStage} (h : k.IsNew)
    (hk : k.shutdown? = some (why, n, σ)) : σ = .arriving := by
  cases k with
  | opening o st => cases h; cases hk
  | shutting | dropping => cases hk; exact h
  | calling | hooking | visiting => cases hk

end Task

/-! ## Every run -/

theorem Books.sole_closer {x : Exports} {g : Gate} {threads : List Task} {word : List EntryPoint}
    {t u n : Nat} {k k' : Task} (b : Books x g (standings threads n) word)
    (ht : threads[t]? = some k) (hu : threads[u]? = some k')
    (hk : (k.standingTo n).closes = true) (hk' : (k'.standingTo n).closes = true) : u = t := by
  refine Decidable.byContradiction fun hne => ?_
  -- With the first of them put aside, the second would still be there.
  have left : (threads.set t (.hooking 0 .load .entering))[u]? = some k' := by
    rw [List.getElem?_set_ne (Ne.symm hne)]
    exact hu
  have pos := standings_pos left n
  have alone := (b.closer_alone hk (standings_pos ht n)).2
  have e₁ := standings_set ht (.hooking 0 .load .entering) n .draining
  have e₂ := standings_set ht (.hooking 0 .load .entering) n .drained
  have e₃ := standings_set ht (.hooking 0 .load .entering) n .unloading
  have aside : (Task.hooking 0 .load .entering).standingTo n = .apart := rfl
  simp only [aside, reduceCtorEq, if_false] at e₁ e₂ e₃
  generalize k.standingTo n = σ at hk e₁ e₂ e₃
  generalize k'.standingTo n = σ' at hk' pos
  cases σ with
  | draining | drained | unloading =>
    simp only [reduceCtorEq, if_true, if_false] at e₁ e₂ e₃
    cases σ' with
    | draining | drained | unloading => omega
    | apart | starting | admitted | within | ended => cases hk'
  | apart | starting | admitted | within | ended => cases hk

namespace System

/-- What is known of the end of instance `n`: by its state, and by who is in a shutdown of it. -/
structure Endings (s : System) (n : Nat) (i : Instance) : Prop where
  ending : i.Ending (endMarks (s.instanceLog n))
  tells : ∀ (t : Nat) (k : Task) (why : Task.Reason) (σ : ShutdownStage), s.threads[t]? = some k →
    k.shutdown? = some (why, n, σ) → σ.Tells i (endMarks (s.instanceLog n))

namespace Endings

variable {s s' : System} {n : Nat} {i : Instance}

/-- Who is in a shutdown, when nobody but thread `t` is about to end the instance and nobody has
ended it. -/
theorem others_apart {x : Exports} {g : Gate} {word : List EntryPoint} {t : Nat}
    (b : Books x g (standings s.threads n) word) (open₀ : g.state ≠ .unloaded)
    (alone : ∀ (u : Nat) (k : Task), s.threads[u]? = some k → (k.standingTo n).closes = true → u = t)
    {u : Nat} {k : Task} {why : Task.Reason} {σ : ShutdownStage} (hu : s.threads[u]? = some k)
    (hk : k.shutdown? = some (why, n, σ)) (hne : u ≠ t) : σ.standing = .apart := by
  obtain ⟨hon, hσ⟩ := Task.on?_of_shutdown hk
  have pos := standings_pos hu n
  have stands : k.standingTo n = σ.standing := by rw [Task.standingTo_self hon, hσ]
  rw [stands] at pos
  cases hs : σ.standing with
  | apart => rfl
  | starting => exact absurd hs σ.standing_ne.1
  | admitted => exact absurd hs σ.standing_ne.2.1
  | within => exact absurd hs σ.standing_ne.2.2
  | ended =>
    rw [hs] at pos
    exact absurd (b.ended pos) open₀
  | draining | drained | unloading =>
    have closes : (k.standingTo n).closes = true := by rw [stands, hs]; rfl
    exact absurd (alone u k hu closes) hne

section
variable {t : Nat} {k k' : Task} {i' : Instance}

/-- What is left to show of a turn of thread `t`: what is known of the instance, what the thread
tells, and what the others tell. -/
theorem after (ht : s'.threads = s.threads.set t k')
    (own : i'.Ending (endMarks (s'.instanceLog n)))
    (mine : ∀ (why : Task.Reason) (σ : ShutdownStage), k'.shutdown? = some (why, n, σ) →
      σ.Tells i' (endMarks (s'.instanceLog n)))
    (others : ∀ (u : Nat) (k₁ : Task) (why : Task.Reason) (σ : ShutdownStage), u ≠ t →
      s.threads[u]? = some k₁ → k₁.shutdown? = some (why, n, σ) →
      σ.Tells i' (endMarks (s'.instanceLog n))) : s'.Endings n i' := by
  refine ⟨own, fun u k₁ why σ hu hk₁ => ?_⟩
  rw [ht] at hu
  rcases of_getElem?_set hu with ⟨-, rfl⟩ | ⟨hne, hu⟩
  · exact mine why σ hk₁
  · exact others u k₁ why σ hne hu hk₁

theorem calm (h : s.Endings n i) (ht : s'.threads = s.threads.set t k') (make : i.SameMake i')
    (log : endMarks (s'.instanceLog n) = endMarks (s.instanceLog n)) (mapped : i'.mapped = i.mapped)
    (state : i'.gate.state = i.gate.state) (broadcasts : i'.broadcasts = i.broadcasts)
    (mine : ∀ (why : Task.Reason) (σ : ShutdownStage), k'.shutdown? = some (why, n, σ) →
      σ.Tells i' (endMarks (s'.instanceLog n))) : s'.Endings n i' := by
  refine after ht ⟨fun open₀ => ?_, fun live => ?_, fun unloaded => ?_⟩ mine
    fun u k₁ why σ _ hu hk₁ => ?_
  · rw [state] at open₀
    exact broadcasts.trans (h.ending.silent open₀)
  · rw [log]
    exact h.ending.untouched (state.symm.trans live)
  · rw [log, mapped, make.exports]
    exact h.ending.gone (state.symm.trans unloaded)
  · rw [log]
    exact (h.tells u k₁ why σ hu hk₁).congr make.exports mapped (Nat.le_of_eq broadcasts.symm)

theorem shutdown {why : Task.Reason} {σ σ' : ShutdownStage} {m m' : Module} {events : List Event}
    (h : s.Endings n i) (orderly : s.Orderly) (hi : s.instances[n]? = some i)
    (ht : s.threads[t]? = some k) (after' : s'.threads = s.threads.set t k')
    (log : s'.instanceLog n = s.instanceLog n ++ events) (make : i.SameMake i')
    (hk : k.shutdown? = some (why, n, σ)) (hk' : k'.shutdown? = some (why, n, σ'))
    (hσ : σ.step i m = some (σ', i', m', events)) : s'.Endings n i' := by
  have books := orderly.books n i hi
  obtain ⟨hon, standing⟩ := Task.on?_of_shutdown hk
  have stands : k.standingTo n = σ.standing := by rw [Task.standingTo_self hon, standing]
  have draining : σ.standing.closes = true → i.gate.state = .draining := by
    intro closes
    rw [← stands] at closes
    exact (books.closer_alone closes (standings_pos ht n)).1
  have ended : σ.standing = .ended → i.gate.state = .unloaded := by
    intro hended
    have pos := standings_pos ht n
    rw [stands, hended] at pos
    exact books.ended pos
  obtain ⟨own, mine⟩ := (h.tells t k why σ ht hk).step hσ h.ending draining ended
  rw [← endMarks_append, ← log] at own mine
  refine after after' own (fun why' σ₁ hk₁ => ?_) fun u k₁ why₁ σ₁ hne hu hk₁ => ?_
  · cases hk'.symm.trans hk₁
    exact mine
  · by_cases quiet : σ.standing.closes = false ∧ i.gate.state ≠ .live
    · obtain ⟨silent, mapped, broadcasts⟩ := ShutdownStage.step_quiet hσ quiet.1 quiet.2
      rw [log, endMarks_append, silent, List.append_nil]
      exact (h.tells u k₁ why₁ σ₁ hu hk₁).congr make.exports mapped broadcasts
    · -- This is the step that closes the gate, or one of the thread that closed it.
      have open₀ : i.gate.state ≠ .unloaded := by
        intro unloaded
        refine quiet ⟨?_, by simp [unloaded]⟩
        cases closes : σ.standing.closes with
        | false => rfl
        | true => cases unloaded.symm.trans (draining closes)
      have alone : ∀ (u : Nat) (k₁ : Task), s.threads[u]? = some k₁ →
          (k₁.standingTo n).closes = true → u = t := by
        intro u k₁ hu closes₁
        cases closes : σ.standing.closes with
        | true => exact books.sole_closer ht hu (by rw [stands]; exact closes) closes₁
        | false =>
          have draining₁ := (books.closer_alone closes₁ (standings_pos hu n)).1
          exact absurd ⟨closes, by simp [draining₁]⟩ quiet
      exact (h.tells u k₁ why₁ σ₁ hu hk₁).of_apart (others_apart books open₀ alone hu hk₁ hne)

end

theorem turn (h : s.Endings n i) (orderly : s.Orderly) {t : Nat} (hs : s.Turn t s')
    (hi : s.instances[n]? = some i) : ∃ i', s'.instances[n]? = some i' ∧ s'.Endings n i' := by
  obtain ⟨k, k', i', ht, after', hi', sight⟩ := hs.sight hi
  refine ⟨i', hi', ?_⟩
  cases sight with
  | aside hon hon' hlog =>
    refine h.calm after' (.refl i) (by rw [hlog]) rfl rfl rfl fun why σ hk₁ => ?_
    exact absurd (Task.on?_of_shutdown hk₁).1 hon'
  | on i' m m' events hon hm hstep hlog =>
    obtain ⟨⟨-, make, -⟩, -⟩ := Task.stepOn_spec hon hstep
    cases hk : k.shutdown? with
    | none =>
      obtain ⟨⟨quiet, mapped, state, broadcasts⟩, begins⟩ := Task.stepOn_outside hk hstep
      have log : endMarks (s'.instanceLog n) = endMarks (s.instanceLog n) := by
        rw [hlog, endMarks_append, quiet, List.append_nil]
      refine h.calm after' make log mapped state broadcasts fun why σ hk' => ?_
      rcases begins with none | ⟨n', first⟩
      · cases none.symm.trans hk'
      · cases first.symm.trans hk'
        trivial
    | some call =>
      obtain ⟨why, n₁, σ⟩ := call
      obtain rfl := Option.some.inj (hon.symm.trans (Task.on?_of_shutdown hk).1)
      cases Task.stepOn_transition hk hstep with
      | on _ _ σ' k' i' m' events hσ hk' =>
        exact h.shutdown orderly hi ht after' hlog make hk hk' hσ
      | again | lost =>
        have log : endMarks (s'.instanceLog n) = endMarks (s.instanceLog n) := by
          rw [hlog, List.append_nil]
        refine h.calm after' make log rfl rfl rfl fun why' σ₁ hk₁ => ?_
        cases hk₁
        try trivial

theorem made (orderly : s.Orderly) {t : Nat} {o : Opening} {st st' : OpenStage} {m m' : Module}
    {i : Instance} {events : List Event}
    (hs : o.Early s.instances.length m st st' (some i) m' events) :
    (s.turn t o.module none (.opening o st') m' (s.instances ++ [i]) events).Endings
      s.instances.length i := by
  have fresh : i.gate.state = .live ∧ i.broadcasts = 0 := by cases hs <;> exact ⟨rfl, rfl⟩
  have log : (s.turn t o.module none (.opening o st') m' (s.instances ++ [i]) events).instanceLog
      s.instances.length = [] := by
    rw [instanceLog_turn_other (by simp), orderly.instanceLog_fresh]
  refine ⟨⟨fun _ => fresh.2, fun _ => by rw [log]; rfl, fun unloaded => ?_⟩,
    fun u k why σ hu hk => ?_⟩
  · cases fresh.1.symm.trans unloaded
  · rcases of_getElem?_set hu with ⟨-, rfl⟩ | ⟨-, hu⟩
    · cases hs <;> cases hk
    · have mentioned := orderly.owned.known u k _ hu (.inl (Task.on?_of_shutdown hk).1)
      exact absurd mentioned (Nat.lt_irrefl _)

end Endings

/-- **What is known of the end of an instance** holds in every run. -/
theorem Run.endings (h : Run s) : ∀ (n : Nat) (i : Instance), s.instances[n]? = some i →
    s.Endings n i := by
  refine h.induction (P := fun s => ∀ (n : Nat) (i : Instance), s.instances[n]? = some i →
    s.Endings n i) (by simp) fun s s' hr ih hm n i' hi' => ?_
  cases hm with
  | install m _ => exact ⟨(ih n i' hi').ending, (ih n i' hi').tells⟩
  | begin k hnew _ =>
    refine ⟨(ih n i' hi').ending, fun u k₁ why σ hu hk₁ => ?_⟩
    rcases of_getElem?_concat hu with hu | ⟨rfl, -⟩
    · exact (ih n i' hi').tells u k₁ why σ hu hk₁
    · rw [hnew.shutdown_arriving hk₁]
      trivial
  | again t c d r ht _ hnew _ =>
    refine ⟨(ih n i' hi').ending, fun u k₁ why σ hu hk₁ => ?_⟩
    rcases of_getElem?_set hu with ⟨-, rfl⟩ | ⟨-, hu⟩
    · cases hk₁
    · exact (ih n i' hi').tells u k₁ why σ hu hk₁
  | step _ t hs =>
    have turn := step_cases hs
    cases hi : s.instances[n]? with
    | some i =>
      obtain ⟨i₁, hi₁, known⟩ := (ih n i hi).turn hr.orderly turn hi
      obtain rfl := Option.some.inj (hi₁.symm.trans hi')
      exact known
    | none =>
      obtain ⟨o, st, st', m, m', events, -, -, made, rfl, rfl⟩ := turn.newborn hi hi'
      exact .made hr.orderly made

end System

end ModuleHost
