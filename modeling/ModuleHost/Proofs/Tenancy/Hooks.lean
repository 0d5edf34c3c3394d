import ModuleHost.Proofs.Context.Work

/-!
# The lifecycle entry points of handler modules

Of the positions inside a lifecycle entry point, only some belong to each entry of a handler module
that lets its values go quietly (`HookStage.Fits`): `OnLoad` starts a handler, `OnUnload` shuts a value
down and drops it, and `ModuleAbiVersion` does not come near the lock. `Run.fits` says that no thread is
anywhere else.
-/
namespace ModuleHost

open Boundary

namespace HookStage

/-- Whether the entry of a handler module can come to this position. -/
def Fits (hook : Hook) : HookStage → Prop
  | .entering | .returned _ => True
  | .claiming | .draining => hook ≠ .probe
  | .initializing _ => hook = .load
  | .closing .. | .dropping .. => hook = .unload
  | .plain _ | .escaped => hook = .probe
  | .unwinding .. => False

variable {hook : Hook} {m m' : Module} {handler : Handler} {h h' : HookStage} {events : List Event}

theorem start_fits (code : m.code = .handler handler) : (start hook m).Fits hook := by
  unfold start
  rw [code]
  cases hook with
  | probe => exact rfl
  | load | unload => simp [Fits]

theorem locked_fits (hne : hook ≠ .probe) : (locked hook m handler).1.Fits hook := by
  cases hook with
  | probe => exact absurd rfl hne
  | load | unload => cases slot : m.context.slot <;> simp [locked, slot, Fits]

theorem step_fits (code : m.code = .handler handler) (fits : h.Fits hook)
    (hs : h.step hook m = some (h', m', events)) : h'.Fits hook := by
  cases h with
  | entering =>
    cases hs
    exact start_fits code
  | claiming =>
    simp only [step, Option.map_eq_some_iff, Prod.mk.injEq] at hs
    obtain ⟨l, -, rfl, -, -⟩ := hs
    exact fits
  | draining =>
    simp only [step, code] at hs
    split at hs
    · have fits : (locked hook m handler).1.Fits hook := locked_fits fits
      rw [Option.some.inj hs] at fits
      exact fits
    · cases hs
  | initializing p =>
    cases p with
    | ask => cases hs; exact fits
    | ret | panic =>
      simp only [step, afterStart_quiet code] at hs
      cases hs
      trivial
  | closing v p =>
    cases p with
    | ask => cases hs; exact fits
    | ret | panic =>
      simp only [step, afterClose_quiet code] at hs
      cases hs
      exact fits
  | dropping v p =>
    cases p with
    | ask => cases hs; exact fits
    | ret => cases hs; trivial
    | panic q =>
      simp only [step, afterDrop_quiet code] at hs
      cases hs
      trivial
  | plain p =>
    cases p with
    | ask | panic => cases hs; exact fits
    | ret => cases hs; trivial
  | unwinding => exact fits.elim
  | returned | escaped => cases hs

end HookStage

namespace System

/-- Whether a task works on a module that is no handler, or one that does not let go quietly. -/
def OnOther (s : System) (k : Task) : Prop :=
  ∃ j m, k.module? s.instances = some j ∧ s.modules[j]? = some m ∧ ∀ h, m.code ≠ .handler h

/-- A thread inside a lifecycle entry point of a handler module is where this entry can come to. -/
theorem Run.fits {s : System} (hr : Run s) {t : Nat} {k : Task} {hook : Hook} {st : HookStage}
    (ht : s.threads[t]? = some k) (hk : k.hook? = some (hook, st)) :
    st.Fits hook ∨ s.OnOther k := by
  have key : ∀ (t : Nat) (k : Task) (hook : Hook) (st : HookStage), s.threads[t]? = some k →
      k.hook? = some (hook, st) → st.Fits hook ∨ s.OnOther k := by
    refine hr.induction (P := fun s => ∀ (t : Nat) (k : Task) (hook : Hook) (st : HookStage),
      s.threads[t]? = some k → k.hook? = some (hook, st) → st.Fits hook ∨ s.OnOther k) (by simp)
      fun s s' hr ih hm t k hook st ht hk => ?_
    -- A task that is as it was works where it did.
    have stays : s.threads[t]? = some k → k.module? s'.instances = k.module? s.instances →
        st.Fits hook ∨ s'.OnOther k := by
      intro old same
      rcases ih t k hook st old hk with fits | ⟨j, m, home, hmod, other⟩
      · exact .inl fits
      · obtain ⟨m', hm', code'⟩ := hm.code hr hmod
        exact .inr ⟨j, m', same.trans home, hm', fun h => code'.code ▸ other h⟩
    rcases hm.task_after ht with old | new | hs
    · cases hm with
      | install | begin | again => exact stays old rfl
      | step _ u hs =>
        obtain ⟨k₀, k', module, on, m, m', instances, events, rfl, work⟩ :=
          (step_cases hs).work hr.orderly
        exact stays old (work.others k (List.mem_of_getElem? old))
    · rw [new.hook hk]
      exact .inl trivial
    · obtain ⟨k₀, k', module, on, m, m', instances, events, rfl, work⟩ :=
        (step_cases hs).work hr.orderly
      rcases of_getElem?_set ht with ⟨-, rfl⟩ | ⟨ne, -⟩
      · rcases work.hook with ⟨hook₀, h, h', before, after, hstep⟩ | ⟨-, entrance⟩
        · obtain ⟨rfl, rfl⟩ := Prod.mk.inj (Option.some.inj (after.symm.trans hk))
          have here := (List.getElem?_eq_some_iff.mp work.found).1
          by_cases quiet : ∃ handler, m.code = .handler handler
          · obtain ⟨handler, code⟩ := quiet
            rcases ih t k₀ hook₀ h work.before before with fits | ⟨j, m₁, home, hmod, other⟩
            · exact .inl (HookStage.step_fits code fits hstep)
            · obtain rfl := Option.some.inj (work.home.symm.trans home)
              obtain rfl := Option.some.inj (work.found.symm.trans hmod)
              exact absurd code (other handler)
          · rcases work.home' with home | ⟨outside, -⟩
            · exact .inr ⟨module, m', home, by simp [here],
                fun handler code => quiet ⟨handler, work.code.code.symm.trans code⟩⟩
            · cases outside.symm.trans hk
        · rw [entrance hook st hk]
          exact .inl trivial
      · exact absurd rfl ne
  exact key t k hook st ht hk

end System

end ModuleHost
