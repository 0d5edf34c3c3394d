import ModuleHost.Proofs.Context.Hold

/-!
# The steps of an opening

`Opening.Early` lists the steps of an opening before its instance exists, `Opening.Late` those after.
The two `cases` lemmas say that `stepEarly` and `stepLate` take no others; what an opening does to
its instance, to the history and to its own life is read off these lists.
-/
namespace ModuleHost

open Boundary

/-- A lifecycle entry point that has neither returned nor broken off. -/
def HookStage.IsRunning (h : HookStage) : Prop := (∀ code, h ≠ .returned code) ∧ h ≠ .escaped

theorem HookStage.running_or (h : HookStage) :
    (∃ code, h = .returned code) ∨ h = .escaped ∨ h.IsRunning := by
  cases h <;> simp [IsRunning]

/-- A shutdown that has not come to its end. -/
def ShutdownStage.IsRunning (σ : ShutdownStage) : Prop := ∀ o, σ ≠ .done o

theorem ShutdownStage.running_or (σ : ShutdownStage) : (∃ o, σ = .done o) ∨ σ.IsRunning := by
  cases σ <;> simp [IsRunning]

namespace Opening

inductive Early (o : Opening) (next : Nat) (m : Module) :
    OpenStage → OpenStage → Option Instance → Module → List Event → Prop
  | ask : o.exports.abiVersion = true → Early o next m .arriving (.probing .entering) none m []
  | unasked : o.exports.abiVersion = false → Early o next m .arriving (.judging none) none m []
  | hook (h h' : HookStage) (m' : Module) (events : List Event) :
      h.step .probe m = some (h', m', events) →
      Early o next m (.probing h) (.probing h') none m' events
  | told (v : Int) :
      Early o next m (.probing (.returned v)) (.judging (some v.toNat.toUInt32)) none m
        [.left .moduleAbiVersion (some v)]
  | broke : Early o next m (.probing .escaped) .escaped none m []
  | refuse (found : Option UInt32) (e : HostError) :
      o.refusal? found = some e → Early o next m (.judging found) (.done (.error e)) none m []
  | load (found : Option UInt32) :
      o.refusal? found = none → o.exports.onLoad = true →
      Early o next m (.judging found) (.loading next .entering) (some o.toInstance) m []
  | skip (found : Option UInt32) :
      o.refusal? found = none → o.exports.onLoad = false →
      Early o next m (.judging found) (.announcing next) (some o.toInstance) m []

inductive Late (i : Instance) (m : Module) :
    OpenStage → OpenStage → Instance → Module → List Event → Prop
  | hook (n : Nat) (h h' : HookStage) (m' : Module) (events : List Event) :
      h.step .load m = some (h', m', events) → Late i m (.loading n h) (.loading n h') i m' events
  | loaded (n : Nat) :
      Late i m (.loading n (.returned loadOk)) (.announcing n) i m [.left .onLoad (some loadOk)]
  | failed (n : Nat) (code : Int) :
      code ≠ loadOk →
      Late i m (.loading n (.returned code)) (.abandoning n code .arriving) i m
        [.left .onLoad (some code), .notice (.moduleInitFailed i.name code)]
  | broke (n : Nat) : Late i m (.loading n .escaped) .escaped i m []
  | abandon (n : Nat) (code : Int) (σ σ' : ShutdownStage) (i' : Instance) (m' : Module)
      (events : List Event) :
      σ.step i m = some (σ', i', m', events) →
      Late i m (.abandoning n code σ) (.abandoning n code σ') i' m' events
  | abandoned (n : Nat) (code : Int) (r : ShutdownOutcome) :
      Late i m (.abandoning n code (.done r)) (.dropping n code .arriving) i m []
  | drop (n : Nat) (code : Int) (σ σ' : ShutdownStage) (i' : Instance) (m' : Module)
      (events : List Event) :
      σ.step i m = some (σ', i', m', events) →
      Late i m (.dropping n code σ) (.dropping n code σ') i' m' events
  | dropped (n : Nat) (code : Int) (r : ShutdownOutcome) :
      Late i m (.dropping n code (.done r)) (.done (.error (.initFailed i.name code))) i m []
  | announce (n : Nat) :
      Late i m (.announcing n) (.done (.ok n)) i m [.notice (.moduleLoaded i.name i.exports)]

theorem stepEarly_probing {o : Opening} {next : Nat} {m : Module} {h : HookStage}
    (hr : h.IsRunning) :
    o.stepEarly next m (.probing h) =
      (h.step .probe m).map fun (h, m, events) => (.probing h, none, m, events) := by
  cases h with
  | returned code => exact absurd rfl (hr.1 code)
  | escaped => exact absurd rfl hr.2
  | _ => rfl

theorem stepEarly_cases {o : Opening} {next : Nat} {m m' : Module} {st st' : OpenStage}
    {made : Option Instance} {events : List Event}
    (h : o.stepEarly next m st = some (st', made, m', events)) :
    o.Early next m st st' made m' events := by
  cases st with
  | arriving =>
    simp only [stepEarly, Option.some.injEq, Prod.mk.injEq] at h
    obtain ⟨rfl, rfl, rfl, rfl⟩ := h
    cases hx : o.exports.abiVersion with
    | true => exact .ask hx
    | false => exact .unasked hx
  | probing hook =>
    rcases hook.running_or with ⟨v, rfl⟩ | rfl | hr
    · simp only [stepEarly, Option.some.injEq, Prod.mk.injEq] at h
      obtain ⟨rfl, rfl, rfl, rfl⟩ := h
      exact .told v
    · simp only [stepEarly, Option.some.injEq, Prod.mk.injEq] at h
      obtain ⟨rfl, rfl, rfl, rfl⟩ := h
      exact .broke
    · simp only [stepEarly_probing hr, Option.map_eq_some_iff, Prod.mk.injEq] at h
      obtain ⟨⟨hook', m₁, events₁⟩, hstep, rfl, rfl, rfl, rfl⟩ := h
      exact .hook hook hook' m₁ events₁ hstep
  | judging found =>
    simp only [stepEarly] at h
    split at h
    · rename_i e he
      simp only [Option.some.injEq, Prod.mk.injEq] at h
      obtain ⟨rfl, rfl, rfl, rfl⟩ := h
      exact .refuse found e he
    · rename_i he
      simp only [Option.some.injEq, Prod.mk.injEq] at h
      obtain ⟨rfl, rfl, rfl, rfl⟩ := h
      cases hx : o.exports.onLoad with
      | true => exact .load found he hx
      | false => exact .skip found he hx
  | loading _ _ | abandoning _ _ _ | dropping _ _ _ | announcing _ | done _ | escaped => cases h

section
variable {i i' : Instance} {m m' : Module} {st st' : OpenStage} {events : List Event}

theorem stepLate_loading {n : Nat} {h : HookStage} (hr : h.IsRunning) :
    stepLate i m (.loading n h) =
      (h.step .load m).map fun (h, m, events) => (.loading n h, i, m, events) := by
  cases h with
  | returned code => exact absurd rfl (hr.1 code)
  | escaped => exact absurd rfl hr.2
  | _ => rfl

theorem stepLate_abandoning {n : Nat} {code : Int} {σ : ShutdownStage} (hr : σ.IsRunning) :
    stepLate i m (.abandoning n code σ) =
      (σ.step i m).map fun (σ, i, m, events) => (.abandoning n code σ, i, m, events) := by
  cases σ with
  | done o => exact absurd rfl (hr o)
  | _ => rfl

theorem stepLate_dropping {n : Nat} {code : Int} {σ : ShutdownStage} (hr : σ.IsRunning) :
    stepLate i m (.dropping n code σ) =
      (σ.step i m).map fun (σ, i, m, events) => (.dropping n code σ, i, m, events) := by
  cases σ with
  | done o => exact absurd rfl (hr o)
  | _ => rfl

theorem stepLate_cases (h : stepLate i m st = some (st', i', m', events)) :
    Late i m st st' i' m' events := by
  cases st with
  | loading n hook =>
    rcases hook.running_or with ⟨code, rfl⟩ | rfl | hr
    · simp only [stepLate] at h
      split at h
      · rename_i hok
        simp only [Option.some.injEq, Prod.mk.injEq] at h
        obtain ⟨rfl, rfl, rfl, rfl⟩ := h
        subst hok
        exact .loaded n
      · rename_i hne
        simp only [Option.some.injEq, Prod.mk.injEq] at h
        obtain ⟨rfl, rfl, rfl, rfl⟩ := h
        exact .failed n code hne
    · simp only [stepLate, Option.some.injEq, Prod.mk.injEq] at h
      obtain ⟨rfl, rfl, rfl, rfl⟩ := h
      exact .broke n
    · simp only [stepLate_loading hr, Option.map_eq_some_iff, Prod.mk.injEq] at h
      obtain ⟨⟨hook', m₁, events₁⟩, hstep, rfl, rfl, rfl, rfl⟩ := h
      exact .hook n hook hook' m₁ events₁ hstep
  | abandoning n code σ =>
    rcases σ.running_or with ⟨r, rfl⟩ | hr
    · simp only [stepLate, Option.some.injEq, Prod.mk.injEq] at h
      obtain ⟨rfl, rfl, rfl, rfl⟩ := h
      exact .abandoned n code r
    · simp only [stepLate_abandoning hr, Option.map_eq_some_iff, Prod.mk.injEq] at h
      obtain ⟨⟨σ', i₁, m₁, events₁⟩, hstep, rfl, rfl, rfl, rfl⟩ := h
      exact .abandon n code σ σ' i₁ m₁ events₁ hstep
  | dropping n code σ =>
    rcases σ.running_or with ⟨r, rfl⟩ | hr
    · simp only [stepLate, Option.some.injEq, Prod.mk.injEq] at h
      obtain ⟨rfl, rfl, rfl, rfl⟩ := h
      exact .dropped n code r
    · simp only [stepLate_dropping hr, Option.map_eq_some_iff, Prod.mk.injEq] at h
      obtain ⟨⟨σ', i₁, m₁, events₁⟩, hstep, rfl, rfl, rfl, rfl⟩ := h
      exact .drop n code σ σ' i₁ m₁ events₁ hstep
  | announcing n =>
    simp only [stepLate, Option.some.injEq, Prod.mk.injEq] at h
    obtain ⟨rfl, rfl, rfl, rfl⟩ := h
    exact .announce n
  | arriving | probing _ | judging _ | done _ | escaped => cases h

end

end Opening

end ModuleHost
