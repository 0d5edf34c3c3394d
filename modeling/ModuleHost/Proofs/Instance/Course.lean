import ModuleHost.Proofs.Instance.Orderly

/-!
# How far an opening has come

`Opening.Course` says for each stage of an opening what its thread has called before the instance
existed, and what the module has answered so far. `Course.early` and `Course.late` follow it along
the steps of an opening.
-/
namespace ModuleHost

open Boundary

namespace HookStage.Spec

variable {hook : Hook} {m m' : Module} {h h' : HookStage} {events : List Event}

theorem entries_entering (spec : Spec hook m .entering h' m' events) :
    entries events = [hook.entry] := by
  rw [← entries_gateMarks, spec.entry rfl]
  rfl

theorem entries_quiet (spec : Spec hook m h h' m' events) (hne : h ≠ .entering) :
    entries events = [] := by
  rw [← entries_gateMarks, spec.quiet hne]
  rfl

theorem entered {e : EntryPoint} (spec : Spec hook m h h' m' events) (he : .entered e ∈ events) :
    e = hook.entry := by
  have mem := mem_entries.mpr he
  by_cases hne : h = .entering
  · subst hne
    rw [spec.entries_entering] at mem
    exact List.mem_singleton.mp mem
  · rw [spec.entries_quiet hne] at mem
    cases mem

end HookStage.Spec

namespace Opening

theorem Early.polite {o : Opening} {next : Nat} {m m' : Module} {st st' : OpenStage}
    {made : Option Instance} {events : List Event} {e : EntryPoint}
    (h : o.Early next m st st' made m' events) (he : .entered e ∈ events) : ¬ e.IsRequest := by
  cases h with
  | hook h h' m' events hstep =>
    rw [(HookStage.step_spec hstep).entered he]
    exact EntryPoint.not_isRequest_moduleAbiVersion
  | told v => simp at he
  | ask | unasked | broke | refuse | load | skip => cases he

theorem Late.polite {i i' : Instance} {m m' : Module} {st st' : OpenStage} {events : List Event}
    {e : EntryPoint} (h : Late i m st st' i' m' events) (he : .entered e ∈ events) :
    ¬ e.IsRequest := by
  rcases h.spec.gate.entered (List.mem_filter.mpr ⟨he, rfl⟩) with ⟨rfl, -⟩ | ⟨-, hσ⟩ | ⟨rfl, -⟩
  · exact EntryPoint.not_isRequest_onLoad
  · exact absurd hσ st.standing_ne.1
  · exact EntryPoint.not_isRequest_onUnload

/-- How the host reads what `ModuleAbiVersion` returned. -/
def version (v : Int) : UInt32 := v.toNat.toUInt32

/-- Whether the module, asked or not, has not the version that the host wants. -/
def Foreign (o : Opening) : Option Int → Prop
  | some v => version v ≠ abiVersion
  | none => o.requireAbi = true

/-- What a probe answered, if there was one. -/
def probed (v : Option Int) : List (EntryPoint × Int) := v.toList.map fun v => (.moduleAbiVersion, v)

/-- What `OnLoad` answers where the opening goes well, if it is exported. -/
def welcome (o : Opening) : List (EntryPoint × Int) :=
  if o.exports.onLoad then [(.onLoad, loadOk)] else []

/-- The error of a refusal for the version. -/
def foreignError (o : Opening) (v : Option Int) : HostError :=
  .incompatibleAbi o.name abiVersion ((v.map version).getD 0)

theorem refusal?_foreign {o : Opening} {v : Option Int} (h : o.Foreign v) :
    o.refusal? (v.map version) = some (o.foreignError v) := by
  cases v with
  | some v => exact if_pos h
  | none => exact if_pos h

theorem refusal?_not_foreign {o : Opening} {v : Option Int} (h : ¬ o.Foreign v) :
    o.refusal? (v.map version) = none := by
  cases v with
  | some v => exact if_neg h
  | none => exact if_neg h

/-- The answers of `OnLoad` at the stages of an opening that has made instance `n`. -/
inductive Loaded (o : Opening) (n : Nat) : OpenStage → List (EntryPoint × Int) → Prop
  | loading (h : HookStage) : o.exports.onLoad = true → Loaded o n (.loading n h) []
  | abandoning (code : Int) (σ : ShutdownStage) : o.exports.onLoad = true → code ≠ loadOk →
      Loaded o n (.abandoning n code σ) [(.onLoad, code)]
  | dropping (code : Int) (σ : ShutdownStage) : o.exports.onLoad = true → code ≠ loadOk →
      Loaded o n (.dropping n code σ) [(.onLoad, code)]
  | failed (code : Int) : o.exports.onLoad = true → code ≠ loadOk →
      Loaded o n (.done (.error (.initFailed o.name code))) [(.onLoad, code)]
  | announcing : Loaded o n (.announcing n) o.welcome
  | handedOut : Loaded o n (.done (.ok n)) o.welcome

/-- Where an opening stands, the instance that it has made, what it called before that, and the
answers that it got. -/
inductive Course (o : Opening) :
    OpenStage → Option Nat → List EntryPoint → List (EntryPoint × Int) → Prop
  | arriving : Course o .arriving none [] []
  | asking : o.exports.abiVersion = true → Course o (.probing .entering) none [] []
  | asked (h : HookStage) : o.exports.abiVersion = true → h ≠ .entering →
      Course o (.probing h) none o.exports.probes []
  | judging (v : Option Int) : v.isSome = o.exports.abiVersion →
      Course o (.judging (v.map version)) none o.exports.probes (probed v)
  | refused (v : Option Int) : v.isSome = o.exports.abiVersion → o.Foreign v →
      Course o (.done (.error (o.foreignError v))) none o.exports.probes (probed v)
  | made (st : OpenStage) (n : Nat) (v : Option Int) (later : List (EntryPoint × Int)) :
      v.isSome = o.exports.abiVersion → ¬ o.Foreign v → o.Loaded n st later →
      Course o st (some n) o.exports.probes (probed v ++ later)
  /-- Module code broke off. -/
  | broken (made : Option Nat) (word : List EntryPoint) (got : List (EntryPoint × Int)) :
      Course o .escaped made word got

namespace Course

variable {o : Opening} {st st' : OpenStage} {made : Option Nat} {word : List EntryPoint}
  {got : List (EntryPoint × Int)} {m m' : Module} {events : List Event}

theorem mentions {n : Nat} (h : o.Course st made word got) (hm : (Task.opening o st).Mentions n) :
    made = some n := by
  cases h with
  | made _ n' v later _ _ hl =>
    cases hl <;> rcases hm with hm | ⟨o', ho⟩ <;> first
      | cases hm <;> rfl
      | cases ho <;> rfl
  | _ => rcases hm with hm | ⟨o', ho⟩ <;> first | cases hm | cases ho

theorem early {next : Nat} {i : Option Instance} (h : o.Course st made word got)
    (hs : o.Early next m st st' i m' events) :
    made = none ∧
      o.Course st' (i.map fun _ => next) (word ++ entries events) (got ++ answers events) := by
  cases h with
  | arriving =>
    cases hs with
    | ask hx => exact ⟨rfl, .asking hx⟩
    | unasked hx =>
      have silent : o.exports.probes = [] := by simp [Exports.probes, hx]
      have course : o.Course (.judging none) none o.exports.probes [] := .judging none hx.symm
      rw [silent] at course
      exact ⟨rfl, course⟩
  | asking hx =>
    cases hs with
    | hook h₁ h₁' m' events hstep =>
      have spec := HookStage.step_spec hstep
      have called : o.exports.probes = entries events := by
        rw [spec.entries_entering]
        simp [Exports.probes, hx, Hook.entry]
      rw [spec.no_answers, List.nil_append, ← called]
      exact ⟨rfl, .asked h₁' hx spec.begun⟩
  | asked h₁ hx hne =>
    cases hs with
    | hook h₁ h₁' m' events hstep =>
      have spec := HookStage.step_spec hstep
      rw [spec.entries_quiet hne, spec.no_answers, List.append_nil, List.append_nil]
      exact ⟨rfl, .asked h₁' hx spec.begun⟩
    | told v =>
      rw [show entries [.left .moduleAbiVersion (some v)] = [] from rfl, List.append_nil]
      exact ⟨rfl, .judging (some v) hx.symm⟩
    | broke => exact ⟨rfl, .broken _ _ _⟩
  | judging v hv =>
    by_cases foreign : o.Foreign v
    · have refusal := refusal?_foreign foreign
      cases hs with
      | refuse found e he =>
        obtain rfl := Option.some.inj (he.symm.trans refusal)
        exact ⟨rfl, by simpa [entries, answers] using Course.refused v hv foreign⟩
      | load found he hx | skip found he hx => cases he.symm.trans refusal
    · have refusal := refusal?_not_foreign foreign
      cases hs with
      | refuse found e he => cases he.symm.trans refusal
      | load found he hx =>
        have course := Course.made _ next v [] hv foreign (.loading .entering hx)
        exact ⟨rfl, by simpa [entries, answers] using course⟩
      | skip found he hx =>
        have quiet : o.welcome = [] := by simp [welcome, hx]
        have course := Course.made _ next v o.welcome hv foreign .announcing
        rw [quiet] at course
        exact ⟨rfl, by simpa [entries, answers] using course⟩
  | made _ n v later _ _ hl => cases hs <;> cases hl
  | refused | broken => cases hs

theorem late {n : Nat} {i i' : Instance} (h : o.Course st made word got) (hon : st.on? = some n)
    (hs : Late i m st st' i' m' events) (name : i.name = o.name) :
    o.Course st' made word (got ++ answers events) := by
  cases h with
  | made _ n' v later hv foreign hl =>
    have go : ∀ {st' : OpenStage} {more : List (EntryPoint × Int)},
        o.Loaded n' st' (later ++ more) →
        o.Course st' (some n') o.exports.probes (probed v ++ later ++ more) := by
      intro st' more hl'
      rw [List.append_assoc]
      exact .made st' n' v _ hv foreign hl'
    cases hs with
    | hook n h h' m' events hstep =>
      rw [(HookStage.step_spec hstep).no_answers]
      cases hl with
      | loading _ hx => exact go (.loading h' hx)
    | loaded n =>
      cases hl with
      | loading _ hx =>
        have welcomed : o.welcome = [(.onLoad, loadOk)] := by simp [welcome, hx]
        have loaded : o.Loaded n' (.announcing n') o.welcome := .announcing
        rw [welcomed] at loaded
        exact go loaded
    | failed n code hne =>
      cases hl with
      | loading _ hx => exact go (.abandoning code .arriving hx hne)
    | broke n => exact .broken _ _ _
    | abandon n code σ σ' i' m' events hstep =>
      rw [(ShutdownStage.step_spec hstep).2]
      cases hl with
      | abandoning _ _ hx hne => exact go (.abandoning code σ' hx hne)
    | abandoned n code r =>
      cases hl with
      | abandoning _ _ hx hne => exact go (.dropping code .arriving hx hne)
    | drop n code σ σ' i' m' events hstep =>
      rw [(ShutdownStage.step_spec hstep).2]
      cases hl with
      | dropping _ _ hx hne => exact go (.dropping code σ' hx hne)
    | dropped n code r =>
      cases hl with
      | dropping _ _ hx hne =>
        rw [name]
        exact go (.failed code hx hne)
    | announce n =>
      cases hl with
      | announcing =>
        rw [show answers [.notice (.moduleLoaded i.name i.exports)] = [] from rfl]
        exact go (by simpa using Loaded.handedOut)
  | arriving | asking | asked | judging | refused | broken => cases hon

end Course

end Opening

end ModuleHost
