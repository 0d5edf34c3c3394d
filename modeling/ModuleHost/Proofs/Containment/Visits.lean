import ModuleHost.Proofs.Containment.Hooks
import ModuleHost.Proofs.Instance.Following

/-!
# Request entry points without panics

The counterpart of a visit stands at the same position on the same data, and what it has left to run
is what the visit has left without the operations that tell of a panic (`Visit.Trims`). A step of the
visit is taken by the counterpart as well, or it is one of these operations, and then the counterpart
stands where it should without a step (`Visit.Trims.step`). Which of the two it is, can be seen from
the operations that both are about to perform (`Visit.next?`). So it is for the calls around visits.
-/
namespace ModuleHost

open Boundary

/-! ## Handles that the host has made -/

/-- Handles of which each is missing, or is live and leads to the host. -/
structure Boundary.Handles.Sound (h : Handles) : Prop where
  request : ∀ r, h.request = some r → r.isLive = true ∧ r.attached = true
  response : ∀ r, h.response = some r → r.isLive = true ∧ r.attached = true
  target : ∀ t, h.target = some t → t.isLive = true ∧ t.attached = true ∧ t.table.isSome = true

namespace Boundary.Handles

variable {h : Handles} {proxy : Bool}

theorem sound_empty : Sound {} := ⟨by simp, by simp, by simp⟩

theorem sound_handles (proxy : Bool) : (Call.handles proxy).Sound := by
  cases proxy with
  | false =>
    refine ⟨?_, ?_, ?_⟩ <;> rintro _ ⟨⟩ <;> exact ⟨rfl, rfl⟩
  | true =>
    refine ⟨?_, ?_, ?_⟩ <;> rintro _ ⟨⟩
    · exact ⟨rfl, rfl⟩
    · exact ⟨rfl, rfl⟩
    · exact ⟨rfl, rfl, rfl⟩

theorem liveTable?_eq {Table : Type} {o : Option (Handle Table)} {f : Fault}
    (live : ∀ r, o = some r → r.isLive = true) : liveTable? o f = .ok (o.bind Handle.table) := by
  cases o with
  | none => rfl
  | some r => simp only [liveTable?, live r rfl, if_true, Option.bind_some]

theorem reach_eq_ok {Table : Type} {o : Option (Handle Table)}
    (attached : ∀ r, o = some r → r.attached = true) (there : (o.bind Handle.table).isSome = true) :
    reach o = .ok () := by
  cases o with
  | none => cases there
  | some r =>
    have table : r.table.isNone = false := by simpa using there
    simp [reach, table, attached r rfl]

theorem Sound.views (sound : h.Sound) (proxy : Bool) :
    views? proxy h = .ok ((if proxy
      then ((h.request.bind Handle.table).map RequestTable.canSetUri).getD false
      else (h.request.bind Handle.table).isSome) && (h.response.bind Handle.table).isSome) := by
  have request := liveTable?_eq (f := Fault.requestNotLive) fun r hr => (sound.request r hr).1
  have response := liveTable?_eq (f := .responseNotLive) fun r hr => (sound.response r hr).1
  cases proxy <;>
    simp only [views?, proxyView?, requestView?, responseView?, request, response, Except.map, bind,
      Except.bind, pure, Except.pure] <;> rfl

theorem Sound.serving (sound : h.Sound) (made : views? proxy h = .ok true) : h.Serving proxy := by
  have both := Except.ok.inj ((sound.views proxy).symm.trans made)
  simp only [Bool.and_eq_true] at both
  obtain ⟨request, response⟩ := both
  have there : (h.request.bind Handle.table).isSome = true := by
    cases proxy with
    | false => exact request
    | true =>
      cases table : h.request.bind Handle.table with
      | none => simp [table] at request
      | some t => rfl
  have reachRequest := reach_eq_ok (fun r hr => (sound.request r hr).2) there
  have reachResponse := reach_eq_ok (fun r hr => (sound.response r hr).2) response
  refine ⟨made, fun c plain => ?_, fun granted u => ?_, fun t ht => ?_⟩
  · cases c with
    | method | uri | header | body => exact reachRequest
    | status | setStatus | setHeader | writeBody => exact reachResponse
    | setUri | setTarget => exact plain.elim
  · subst granted
    have canSetUri : h.canSetUri = true := by
      obtain ⟨req, res, tgt⟩ := h
      cases req with
      | none => simp at request
      | some r =>
        obtain ⟨stamp, attached, table⟩ := r
        cases table with
        | none => simp at request
        | some t => simpa [canSetUri] using request
    simp only [permit, canSetUri, if_true, reachRequest]
  · obtain ⟨live, attached, table⟩ := sound.target t ht
    refine ⟨live, fun a => ?_⟩
    simp only [permit, ht]
    exact reach_eq_ok (o := some t) (fun r hr => Option.some.inj hr ▸ attached) table

end Boundary.Handles

/-- On such handles, what an entry runs meets no fault, and no panic leaves it. -/
theorem Handler.guarded_ensures {h : Handler} {proxy : Bool} {errand : Errand} {given : Handles}
    (reads : (h.handle errand).Asks ViewOp.ReadsUri) (serving : given.Serving proxy) (d : CallData) :
    given.Ensures (fun r _ => r = .ok ()) (h.guarded proxy errand given) d := by
  cases proxy with
  | false =>
    have begun : requestEntry.Midway given (h.handle errand) d _ d := .playing .begun
    exact (begun.ensures serving (wraps_requestEntry serving)
      (ViewProgram.asks_offered fun _ => reads)).mono fun r d' h => h.1
  | true =>
    have begun : (proxyEntry given).Midway given (h.proxy errand) d _ d := .playing .begun
    exact (begun.ensures serving (wraps_proxyEntry serving)
      (ViewProgram.asks_offered (by simp))).mono fun r d' h => h.1

/-! ## Visits -/

/-- The position of the counterpart of a visit. -/
inductive VisitStage.Trims (tell : Payload → String) : VisitStage → VisitStage → Prop
  | entering : Trims tell .entering .entering
  | firstRead {p p' : ModuleProgram Unit} : p.Trims p' → Trims tell (.firstRead p) (.firstRead p')
  | claiming {p p' : ModuleProgram Unit} : p.Trims p' → Trims tell (.claiming p) (.claiming p')
  | draining {p p' : ModuleProgram Unit} : p.Trims p' → Trims tell (.draining p) (.draining p')
  | initializing {p p' : ModuleProgram Unit} (i : SelfProgram (Except String Unit)) :
      p.Trims p' → Trims tell (.initializing p i) (.initializing p' (i.failing tell))
  | secondRead {p p' : ModuleProgram Unit} :
      p.Trims p' → Trims tell (.secondRead p) (.secondRead p')
  | running {p p' : ModuleProgram Unit} (g : Nat) :
      p.Trims p' → Trims tell (.running g p) (.running g p')
  | returned : Trims tell .returned .returned

/-- The counterpart `v'` of visit `v`, which is not about to break off. -/
structure Visit.Trims (tell : Payload → String) (v v' : Visit) : Prop where
  same : ∃ stage, v' = { v with stage }
  stage : v.stage.Trims tell v'.stage
  sound : v.stage = .entering → v.handles.Sound
  ends : ∀ p, v.stage.program? = some p → v.given.Ensures (fun r _ => r = .ok ()) p v.data

/-- The operation that a running handler is about to perform. -/
def Visit.next? (v : Visit) : Option ModuleOp :=
  match v.stage with
  | .running _ (.ask o _) => some o
  | _ => none

variable {tell : Payload → String} {m m₁ : Module} {v v' v₁ : Visit} {events : List Event}

namespace Visit

/-- The same step of the counterpart. -/
def Trims.Steps (tell : Payload → String) (m₁ : Module) (v₁ : Visit) (events : List Event)
    (step : Option (Visit × Module × List Event)) : Prop :=
  ∃ v₁' events', step = some (v₁', m₁.contained tell, events') ∧ v₁.Trims tell v₁' ∧
    withoutNotices events' = withoutNotices events

/-- The entrance: null handles end both visits, and others let both go on. -/
theorem Trims.enter (standard : m.Standard) (sound : v.handles.Sound) :
    Trims.Steps tell m (v.enter m).1 (v.enter m).2
      (some ((v.enter (m.contained tell)).1, m.contained tell, (v.enter (m.contained tell)).2)) := by
  obtain ⟨h, code, straight, reads⟩ := standard.code
  have code' : (m.contained tell).code = .handler (h.contained tell) := by
    rw [Module.code_contained, code, Code.contained]
  have relay := straight v.errand v.proxy v.handles
  have relay' : (h.contained tell).relay v.errand v.proxy v.handles = _ := relay
  obtain ⟨made, views⟩ : ∃ made, views? v.proxy v.handles = .ok made := ⟨_, sound.views v.proxy⟩
  cases made with
  | false =>
    simp only [Visit.enter, code, code', relay, relay', views]
    exact ⟨_, _, rfl, ⟨⟨_, rfl⟩, .returned, by simp, by simp [VisitStage.program?]⟩, rfl⟩
  | true =>
    simp only [Visit.enter, code, code', relay, relay', views]
    refine ⟨_, _, rfl, ⟨⟨_, rfl⟩, .firstRead (h.guarded_trims tell _ _ _), by simp, ?_⟩, rfl⟩
    rintro _ ⟨⟩
    exact Handler.guarded_ensures (reads _) (sound.serving views) v.data

theorem Trims.read {p p' : ModuleProgram Unit} {fresh torn fresh' torn' : VisitStage}
    {tornEvents : List Event}
    (hlive : ∀ g, ({ v with stage := .running g p } : Visit).Trims tell
      { v with stage := .running g p' })
    (hfresh : ({ v with stage := fresh } : Visit).Trims tell { v with stage := fresh' })
    (htorn : ({ v with stage := torn } : Visit).Trims tell { v with stage := torn' })
    (hs : v.read m p fresh torn tornEvents = some (v₁, m₁, events)) :
    Trims.Steps tell m₁ v₁ events (v.read (m.contained tell) p' fresh' torn' tornEvents) := by
  simp only [Visit.read, Option.map_eq_some_iff] at hs
  obtain ⟨l, hl, hs⟩ := hs
  simp only [Visit.read, Module.context_contained, hl, Option.map_some]
  cases slot : m.context.slot with
  | live value =>
    simp only [slot] at hs
    cases hs
    exact ⟨_, _, rfl, hlive _, rfl⟩
  | fresh =>
    simp only [slot] at hs
    cases hs
    exact ⟨_, _, rfl, hfresh, rfl⟩
  | tornDown =>
    simp only [slot] at hs
    cases hs
    exact ⟨_, _, rfl, htorn, rfl⟩

/-- A visit goes on to a stage at which it has the same program left, or none. -/
theorem Trims.onward {p : ModuleProgram Unit} {stage stage' : VisitStage}
    (ends : v.given.Ensures (fun r _ => r = .ok ()) p v.data) (h : stage.Trims tell stage')
    (left : stage.program? = some p ∨ stage = .returned) :
    ({ v with stage } : Visit).Trims tell { v with stage := stage' } := by
  refine ⟨⟨_, rfl⟩, h, fun entering => ?_, fun q hq => ?_⟩
  · have entering : stage = .entering := entering
    subst entering
    rcases left with left | left <;> cases left
  · rcases left with left | rfl
    · rw [← Option.some.inj (left.symm.trans hq)]
      exact ends
    · cases hq

theorem Trims.step_outside (standard : m.Standard) (trims : v.Trims tell v')
    (outside : ∀ g p, v.stage ≠ .running g p) (hs : v.step m = some (v₁, m₁, events)) :
    Trims.Steps tell m₁ v₁ events (v'.step (m.contained tell)) := by
  obtain ⟨⟨stage', rfl⟩, stage, sound, ends⟩ := trims
  obtain ⟨proxy, errand, handles, given, data, stage₀⟩ := v
  cases stage with
  | entering =>
    cases hs
    exact Trims.enter (v := ⟨proxy, errand, handles, given, data, .entering⟩) standard (sound rfl)
  | firstRead trims =>
    have ends := ends _ rfl
    exact Trims.read (v := ⟨proxy, errand, handles, given, data, _⟩)
      (fun g => .onward ends (.running g trims) (.inl rfl))
      (.onward ends (.claiming trims) (.inl rfl)) (.onward ends .returned (.inr rfl)) hs
  | secondRead trims =>
    have ends := ends _ rfl
    exact Trims.read (v := ⟨proxy, errand, handles, given, data, _⟩)
      (fun g => .onward ends (.running g trims) (.inl rfl))
      (.onward ends .returned (.inr rfl)) (.onward ends .returned (.inr rfl)) hs
  | claiming trims =>
    simp only [step, Option.map_eq_some_iff, Prod.mk.injEq] at hs
    obtain ⟨l, hl, rfl, rfl, rfl⟩ := hs
    refine ⟨_, _, ?_, .onward (ends _ rfl) (.draining trims) (.inl rfl), rfl⟩
    simp only [step, Module.context_contained, hl, Option.map_some]
    rfl
  | draining trims =>
    have ends := ends _ rfl
    obtain ⟨h, code, -⟩ := standard.code
    simp only [step, code] at hs
    split at hs
    · rename_i free
      simp only [step, Module.code_contained, code, Code.contained, Module.context_contained, free,
        if_true]
      cases slot : m.context.slot with
      | fresh =>
        simp only [locked, slot] at hs
        cases hs
        simp only [locked, Module.context_contained, slot]
        exact ⟨_, _, rfl, .onward ends (.initializing _ trims) (.inl rfl), rfl⟩
      | live | tornDown =>
        simp only [locked, slot] at hs
        cases hs
        simp only [locked, Module.context_contained, slot]
        exact ⟨_, _, rfl, .onward ends (.secondRead trims) (.inl rfl), rfl⟩
    · cases hs
  | initializing i trims =>
    have ends := ends _ rfl
    obtain ⟨h, code, -⟩ := standard.code
    have code' := Module.contained_code tell code
    cases i with
    | ask o next =>
      simp only [step, Option.some.injEq, Prod.mk.injEq] at hs
      obtain ⟨rfl, rfl, rfl⟩ := hs
      refine ⟨_, _, ?_, .onward ends (.initializing _ trims) (.inl rfl), rfl⟩
      simp only [step, SelfProgram.failing, Program.catchPanic]
      rw [SelfOp.perform_contained tell m o]
    | ret r =>
      simp only [step, afterStart_quiet code, Option.some.injEq, Prod.mk.injEq] at hs
      obtain ⟨rfl, rfl, rfl⟩ := hs
      cases r with
      | ok u =>
        exact ⟨_, _, congrArg some (afterStart_quiet code' _ _ (.ok (.ok u))),
          .onward ends (.secondRead trims) (.inl rfl), rfl⟩
      | error e =>
        exact ⟨_, _, congrArg some (afterStart_quiet code' _ _ (.ok (.error e))),
          .onward ends .returned (.inr rfl), rfl⟩
    | panic q =>
      simp only [step, afterStart_quiet code, Option.some.injEq, Prod.mk.injEq] at hs
      obtain ⟨rfl, rfl, rfl⟩ := hs
      exact ⟨_, _, congrArg some (afterStart_quiet code' _ _ (.ok (.error (tell q)))),
        .onward ends .returned (.inr rfl), rfl⟩
  | running g trims => exact absurd rfl (outside g _)
  | returned => cases hs

/-- **A step of a visit**: the counterpart takes it as well, if both are about to perform the same
operation; otherwise it has already come to where the visit comes. -/
theorem Trims.step (standard : m.Standard) (trims : v.Trims tell v')
    (hs : v.step m = some (v₁, m₁, events)) :
    v.next? = v'.next? ∧ Trims.Steps tell m₁ v₁ events (v'.step (m.contained tell)) ∨
      v.next? ≠ v'.next? ∧ v₁.Trims tell v' ∧ m₁ = m ∧ withoutNotices events = [] := by
  by_cases running : ∃ g p, v.stage = .running g p
  · obtain ⟨g, p, hp⟩ := running
    obtain ⟨⟨stage', rfl⟩, stage, -, ends⟩ := trims
    obtain ⟨proxy, errand, handles, given, data, stage₀⟩ := v
    cases hp
    cases stage with
    | running g left =>
      have ends := ends _ rfl
      cases left with
      | ret =>
        cases hs
        exact .inl ⟨rfl, _, _, rfl, .onward (p := .ret ()) ends .returned (.inr rfl), rfl⟩
      | panic q => cases ends
      | ask o next next' trims =>
        obtain ⟨a, data', m', events', perform, rest⟩ := ends m
        have performed (stage : VisitStage) :
            Visit.perform ⟨proxy, errand, handles, given, data, stage⟩ m o =
              .ok (a, data', m', events') := (Handles.perform_visit _ m o).trans perform
        have performed' (stage : VisitStage) :
            Visit.perform ⟨proxy, errand, handles, given, data, stage⟩ (m.contained tell) o =
              .ok (a, data', m'.contained tell, events') := by
          rw [Visit.perform_contained, performed]
          rfl
        simp only [Visit.step, performed] at hs
        cases hs
        refine .inl ⟨rfl, ⟨proxy, errand, handles, given, data', .running g (next' a)⟩, _, ?_, ?_,
          rfl⟩
        · simp only [Visit.step, performed']
        · exact .onward (v := ⟨proxy, errand, handles, given, data', .running g (next a)⟩) rest
            (.running g (trims a)) (.inl rfl)
      | skip o o' next next' silent differs trims =>
        obtain ⟨a, data', m', events', perform, rest⟩ := ends m
        have performed : Visit.perform ⟨proxy, errand, handles, given, data,
            .running g (.ask (I := ModuleInterface) o next)⟩ m o = .ok (a, data', m', events') :=
          (Handles.perform_visit _ m o).trans perform
        obtain ⟨rfl, rfl, told⟩ := perform_silent silent performed
        simp only [Visit.step, performed] at hs
        cases hs
        refine .inr ⟨fun same => differs (Option.some.inj same), ?_, rfl, ?_⟩
        · exact .onward (v := ⟨proxy, errand, handles, given, _, .running g (next a)⟩) rest
            (.running g (trims a)) (.inl rfl)
        · refine List.filter_eq_nil_iff.mpr fun e he => ?_
          obtain ⟨n, rfl⟩ := told e he
          simp
  · have outside : ∀ g p, v.stage ≠ .running g p := fun g p hp => running ⟨g, p, hp⟩
    refine .inl ⟨?_, trims.step_outside standard outside hs⟩
    obtain ⟨⟨stage', rfl⟩, stage, -, -⟩ := trims
    obtain ⟨proxy, errand, handles, given, data, stage₀⟩ := v
    cases stage with
    | running g trims => exact absurd rfl (outside g _)
    | entering | firstRead | claiming | draining | initializing | secondRead | returned => rfl

end Visit

/-! ## Calls -/

/-- The operation that the handler of a call is about to perform. -/
def Call.next? (c : Call) : Option ModuleOp :=
  match c.stage with
  | .inside => c.visit.next?
  | _ => none

/-- The counterpart `c'` of call `c`. -/
structure Call.Trims (tell : Payload → String) (c c' : Call) : Prop where
  same : ∃ visit, c' = { c with visit }
  visit : c.visit.Trims tell c'.visit
  back : c.stage = .retiring → c.visit.stage = .returned
  whole : c.stage ≠ .escaped

namespace Call

variable {c c' c₁ : Call} {i i₁ : Instance}

/-- The same step of the counterpart. -/
def Trims.Steps (tell : Payload → String) (c₁ : Call) (i₁ : Instance) (m₁ : Module)
    (events : List Event) (step : Option (Call × Instance × Module × List Event)) : Prop :=
  ∃ c₁' events', step = some (c₁', i₁, m₁.contained tell, events') ∧ c₁.Trims tell c₁' ∧
    withoutNotices events' = withoutNotices events

/-- **A step of a call**, as for visits. -/
theorem Trims.step (standard : m.Standard) (trims : c.Trims tell c')
    (hs : c.step i m = some (c₁, i₁, m₁, events)) :
    c.next? = c'.next? ∧ Trims.Steps tell c₁ i₁ m₁ events (c'.step i (m.contained tell)) ∨
      c.next? ≠ c'.next? ∧ c₁.Trims tell c' ∧ i₁ = i ∧ m₁ = m ∧ withoutNotices events = [] := by
  obtain ⟨⟨v, rfl⟩, visit, back, whole⟩ := trims
  obtain ⟨on, u, stage⟩ := c
  obtain ⟨stage', rfl⟩ : ∃ stage', v = { u with stage := stage' } := visit.same
  cases stage with
  | arriving =>
    refine .inl ⟨rfl, ?_⟩
    simp only [Call.step, arrive] at hs ⊢
    by_cases missing : (u.proxy && !i.exports.proxy) = true
    · simp only [missing, if_true] at hs ⊢
      cases hs
      exact ⟨_, _, rfl, ⟨⟨_, rfl⟩, visit, by simp, by simp⟩, rfl⟩
    · simp only [missing] at hs ⊢
      cases admits : i.gate.admit? with
      | some g =>
        simp only [admits] at hs ⊢
        cases hs
        exact ⟨_, _, rfl, ⟨⟨_, rfl⟩, ⟨⟨_, rfl⟩, .entering, fun _ => Handles.sound_handles _,
          by simp [VisitStage.program?]⟩, by simp, by simp⟩, rfl⟩
      | none =>
        simp only [admits] at hs ⊢
        cases hs
        exact ⟨_, _, rfl, ⟨⟨_, rfl⟩, visit, by simp, by simp⟩, rfl⟩
  | inside =>
    cases step_cases hs with
    | visiting v₁ m₁ events _ hstep =>
      rcases visit.step standard hstep with ⟨same, v₁', events', hstep', trims', quiet⟩ |
        ⟨differs, trims', rfl, quiet⟩
      · exact .inl ⟨same, ⟨on, v₁', .inside⟩, events', step_visiting rfl hstep',
          ⟨⟨v₁', rfl⟩, trims', by simp, by simp⟩, quiet⟩
      · exact .inr ⟨differs, ⟨⟨_, rfl⟩, trims', by simp, by simp⟩, rfl, rfl, quiet⟩
    | returned _ back =>
      obtain rfl : stage' = .returned := by
        have trims := visit.stage
        rw [show u.stage = .returned from back] at trims
        cases trims
        rfl
      have quiet : u.next? = none := by
        rw [Visit.next?, show u.stage = .returned from back]
      exact .inl ⟨quiet, ⟨on, _, .retiring⟩, _, rfl, ⟨⟨_, rfl⟩, visit, fun _ => back, by simp⟩, rfl⟩
    | broke _ broken =>
      have trims := visit.stage
      rcases broken with ⟨f, hv⟩ | hv <;> simp only at hv <;> rw [hv] at trims <;> cases trims
    | missing h | admitted g h | refused h | retire h | release h => cases h
  | retiring =>
    have back : u.stage = .returned := back rfl
    cases hs
    refine .inl ⟨rfl, _, _, rfl, ⟨⟨_, rfl⟩, ⟨⟨_, rfl⟩, visit.stage, ?_, ?_⟩, by simp, by simp⟩, rfl⟩
    · simp [back]
    · simp [back, VisitStage.program?]
  | leaving =>
    cases hs
    exact .inl ⟨rfl, _, _, rfl, ⟨⟨_, rfl⟩, visit, by simp, by simp⟩, rfl⟩
  | done | escaped => cases hs

end Call

end ModuleHost
