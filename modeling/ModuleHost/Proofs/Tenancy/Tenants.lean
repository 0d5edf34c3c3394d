import ModuleHost.Proofs.Tenancy.Dispatch
import ModuleHost.Proofs.Tenancy.Journey

/-!
# What a tended module does for its instances

Module and instances know nothing of each other but the entry points that are called. Where a module
is tended, its state follows the life of the instances all the same, whatever the handler's code
comes to:

* a call inside finds the value that was built for its own instance, and waits for none
  (`Call.Hosted`),
* a call that returns has made its whole `journey`, with one dispatch, on that value,
* handlers are started by openings only (`Tended.starts`),
* without calls in flight, the dispatches of the module are the calls that its instances served, and
  its generation is the number of instances opened.

`tenants_served` puts these together; a run with two tenants stands at the end.
-/
namespace ModuleHost

open Boundary

/-- How a call that is inside the entry of module `j`, with handler `h`, stands to the value of
generation `g`. -/
structure Call.Hosted (s : System) (j : Nat) (h : Handler) (c : Call) (g : Nat) : Prop where
  /-- It was built for the call's own instance. -/
  built : s.BuiltFor j c.on g
  /-- It is in the slot, which is neither fresh nor torn down. -/
  there : (s.context j).slot.value? = some g
  /-- The call comes to its dispatch without waiting for a value to be built. -/
  prompt : c.visit.stage.Prompt
  ready : ∀ p, c.visit.stage = .firstRead p → p = h.served c.visit.proxy c.visit.errand
  /-- What runs is left of what the entry runs, and runs on this value. -/
  running : ∀ g' p, c.visit.stage = .running g' p →
    g' = g ∧ (h.served c.visit.proxy c.visit.errand).Leads (ModuleOp.FromLive c.visit.proxy) p

/-- Whether a task is an opening on module `j` that has handed its instance out. -/
def Task.openedOn (j : Nat) : Task → Bool
  | .opening o (.done (.ok _)) => o.module = j
  | _ => false

theorem Context.Step.starting {c c' : Context} {σ σ' : Hold} {marks : List Event} {k : Nat}
    (h : c.Step σ marks c' σ') (begun : .startBegun k ∈ marks) : σ' = .starting := by
  cases h with
  | start => rfl
  | _ => simp at begun

namespace System

variable {s s' : System} {t j : Nat} {i : Instance} {c : Call} {handler : Handler}

/-! ## Calls -/

section
variable (straight : handler.Straight) (tended : Tended j s)
  (code : ∀ m, s.modules[j]? = some m → m.code = .handler handler)
  (ht : s.threads[t]? = some (.calling c)) (hi : s.instances[c.on]? = some i) (hj : i.module = j)
include straight tended code ht hi hj

/-- **A call inside is served by the handler of its own instance.** -/
theorem Tended.hosted (hs : c.stage = .inside) : ∃ g, c.Hosted s j handler g := by
  have hr := tended.run
  have tenancy := tended.tenancy straight code
  obtain ⟨g, built, there⟩ := tenancy.own tended code ht ⟨rfl, by simp [hs], by simp [hs]⟩ hi hj
  obtain ⟨_, journeyed⟩ := tended.onJourney straight code ht hi hj
  obtain ⟨m, hm⟩ := hr.housed hi
  have codeOf : s.CodeOf c.on (.handler handler) := ⟨i, m, hi, hm, code m (hj ▸ hm)⟩
  have guarded := hr.guarded ht codeOf straight
  refine ⟨g, built, there, tenancy.prompt t c i ht hi hj, fun p hv => journeyed.ready p hs hv,
    fun g' p hv => ⟨?_, guarded.visit.rest p (by rw [hv]; rfl)⟩⟩
  -- A reader's value is the one in the slot.
  have reads : .reading g' ∈ s.holds j := by
    refine List.mem_map.mpr ⟨.calling c, List.mem_of_getElem? ht, ?_⟩
    simp [Task.holdOn, Task.module?, Task.on?, hi, hj, Task.hold, Call.hold, hs, hv,
      VisitStage.hold]
  exact Option.some.inj (((hr.sound j).locks.reading g' reads).symm.trans there)

/-- **A call that has returned has made its journey**, on the value of its own instance. -/
theorem Tended.journeyed (hs : c.stage = .done (.ok ())) :
    ∃ g, s.BuiltFor j c.on g ∧ journey c.visit.entry g <:+ s.passagesOf t := by
  obtain ⟨g, journeyed⟩ := tended.onJourney straight code ht hi hj
  have all : c.progress = 6 := by rw [Call.progress, hs]
  have behind := journeyed.behind
  rw [all] at behind
  exact ⟨g, journeyed.own (by omega), behind⟩

end

/-! ## Starts and loads -/

/-- **Handlers are started by openings only.** -/
theorem Tended.starts (straight : handler.Straight) (tended : Tended j s)
    (code : ∀ m, s.modules[j]? = some m → m.code = .handler handler) {x : Happening} {k : Nat}
    (hx : x ∈ s.history) (hj : x.module = j) (he : x.event = .startBegun k) :
    ∃ o st, s.threads[x.thread]? = some (.opening o st) ∧ o.module = j := by
  induction tended with
  | start => cases hx
  | @move s s' tended hm allowed ih =>
    have hr := tended.run
    have before := hm.code_before hr code
    have old : x ∈ s.history →
        ∃ o st, s'.threads[x.thread]? = some (.opening o st) ∧ o.module = j := by
      intro hx
      obtain ⟨o, st, ht, ho⟩ := ih before hx
      obtain ⟨st', after, -⟩ := hm.opening_after ht
      exact ⟨o, st', after, ho⟩
    have tended' := tended.move hm allowed
    cases hm with
    | install | begin | again => exact old hx
    | step _ t hs =>
      obtain ⟨k₁, k', module, on, m, m', instances, events, rfl, work⟩ :=
        (step_cases hs).work hr.orderly
      rcases mem_turn_history.mp hx with ⟨e, new, rfl⟩ | hx
      · obtain rfl : e = .startBegun k := he
        obtain rfl : module = j := hj
        have starting : k'.hold = .starting :=
          work.step.starting (List.mem_filter.mpr ⟨new, rfl⟩)
        have home : k'.module? instances = some module := by
          rcases work.home' with home | ⟨-, free⟩
          · exact home
          · cases free.symm.trans starting
        have prompt := (tended'.tenancy straight code).prompt
        have mine := work.mine on
        have found := work.found' on
        rcases tended'.holder prompt found (code m' found) mine home (by rw [starting]; rfl) with
          ⟨o, n, h, rfl, hj⟩ | ⟨why, n, inside, h, hk⟩
        · exact ⟨o, _, mine, hj⟩
        · -- No unload starts a handler.
          have entry := Task.hook_of_shutdown hk
          obtain ⟨fits, -⟩ := work.entry tended' (before m work.found) entry
          rw [Task.hold_of_hook entry] at starting
          cases h with
          | initializing p => cases fits
          | _ => cases starting
      · exact old hx

/-- How many instances have been opened on module `j`. -/
def opened (s : System) (j : Nat) : Nat := s.threads.countP (Task.openedOn j)

/-- Where no opening is under way, the loads that came through are the instances opened. -/
theorem loads_eq_opened (settled : ∀ (t : Nat) (o : Opening) (st : OpenStage),
    s.threads[t]? = some (.opening o st) → o.module = j → ∃ r, st = .done r) :
    s.loads j = s.opened j := by
  refine List.countP_congr fun k hk => ?_
  obtain ⟨t, ht⟩ := List.mem_iff_getElem?.mp hk
  cases k with
  | opening o st =>
    by_cases on : o.module = j
    · obtain ⟨r, rfl⟩ := settled t o st ht on
      cases r <;> simp [Task.loaded?, Task.openedOn, OpenStage.loaded?, on]
    · have none : (Task.opening o st).openedOn j = false := by
        unfold Task.openedOn
        split
        · rename_i same
          cases same
          exact decide_eq_false on
        · rfl
      simp [none, Task.loaded?, on]
  | calling | shutting | dropping | hooking | visiting => rfl

/-- **A tended module serves each instance with its own handler.** In every run in which the entry
points of a handler module, which hand the handles on as they are, are called by instances only,
which export `OnLoad` and `OnUnload`, and in which a new one is opened only when every earlier one is
unloaded or has failed to open:

* a call inside the entry finds the value that `OnLoad` built for its own instance, waits for none,
  and runs its handler on this value and on no other,
* a call that has returned was admitted, came through the entry with exactly one dispatch, on that
  value, and was released,
* no handler is started but by an opening,
* where no call is in flight, the dispatches counted by the module are the calls served by all the
  instances that there ever were,
* the generation is the number of instances whose `OnLoad` came through, which are the ones opened
  when no opening is under way.

This holds through failed openings, drains, reloads, and handlers that panic. -/
theorem tenants_served (straight : handler.Straight) (tended : Tended j s)
    (code : ∀ m, s.modules[j]? = some m → m.code = .handler handler) :
    (∀ (t : Nat) (c : Call) (i : Instance), s.threads[t]? = some (.calling c) →
      s.instances[c.on]? = some i → i.module = j →
      (c.stage = .inside → ∃ g, c.Hosted s j handler g) ∧
      (c.stage = .done (.ok ()) →
        ∃ g, s.BuiltFor j c.on g ∧ journey c.visit.entry g <:+ s.passagesOf t)) ∧
    (∀ x ∈ s.history, x.module = j → ∀ k, x.event = .startBegun k →
      ∃ o st, s.threads[x.thread]? = some (.opening o st) ∧ o.module = j) ∧
    ((∀ i ∈ s.instances, i.module = j → i.gate.inFlight = 0) →
      (s.context j).calls = s.served j) ∧
    (s.context j).generation = s.loads j ∧
    ((∀ (t : Nat) (o : Opening) (st : OpenStage), s.threads[t]? = some (.opening o st) →
      o.module = j → ∃ r, st = .done r) → (s.context j).generation = s.opened j) := by
  have generation := (tended.tenancy straight code).generation
  refine ⟨fun t c i ht hi hj => ⟨fun hs => ?_, fun hs => ?_⟩, fun x hx hj k he => ?_, fun idle => ?_,
    generation, fun settled => ?_⟩
  · exact tended.hosted straight code ht hi hj hs
  · exact tended.journeyed straight code ht hi hj hs
  · exact tended.starts straight code hx hj he
  · have balanced := tended.balanced straight code
    rw [Balanced, tended.run.dispatching_none idle] at balanced
    exact balanced
  · rw [generation, loads_eq_opened settled]

/-! ## A run with two tenants -/

/-- A handler whose first start fails. -/
def sampleFrail : Handler :=
  { init := fun n => .ret (if n = 0 then .error "cold" else .ok ()), handle := fun _ => .ret () }

/-- The opening of thread 0 has failed. -/
def sampleFailed : System :=
  (((({} : System).addModule { code := .handler sampleFrail }).spawn
    (.opening sampleOpening .arriving)).steps (List.replicate 23 0)).getD {}

/-- Thread 1 has opened instance 1. -/
def sampleFirst : System :=
  ((sampleFailed.spawn (.opening sampleOpening .arriving)).steps (List.replicate 11 1)).getD {}

/-- Thread 2 has called it, and thread 3 has shut it down. -/
def sampleLeft : System :=
  (((sampleFirst.spawn (.calling (.start 1 false {} {} {}))).spawn (.shutting 1 .arriving)).steps
    (List.replicate 7 2 ++ List.replicate 12 3)).getD {}

/-- Thread 4 has opened instance 2. -/
def sampleSecond : System :=
  ((sampleLeft.spawn (.opening sampleOpening .arriving)).steps (List.replicate 11 4)).getD {}

/-- Thread 5 makes a proxy call on it, and is inside the handler. -/
def sampleInside : System :=
  ((sampleSecond.spawn (.calling (.start 2 true {} {} {}))).steps (List.replicate 3 5)).getD {}

/-- The call has returned. -/
def sampleTenants : System := (sampleInside.steps (List.replicate 4 5)).getD {}

theorem tended_sampleFailed : Tended 0 sampleFailed := by
  have installed : Tended 0 (({} : System).addModule { code := .handler sampleFrail }) :=
    Tended.start.install rfl
  have vacant : (({} : System).addModule { code := .handler sampleFrail }).Vacant 0 := by
    intro t o st ht
    cases ht
  have begun := installed.begin (k := .opening sampleOpening .arriving) rfl
    (by simp [Task.on?, OpenStage.on?]) fun _ => ⟨rfl, rfl, vacant⟩
  exact begun.steps (List.replicate 23 0) rfl

theorem tended_sampleFirst : Tended 0 sampleFirst := by
  have vacant : sampleFailed.Vacant 0 := by
    intro t o st ht hj
    have threads : sampleFailed.threads = [.opening _ (.done (.error _))] := rfl
    rw [threads] at ht
    match t, ht with
    | 0, ht =>
      cases ht
      trivial
    | n + 1, ht => cases ht
  have begun := tended_sampleFailed.begin (k := .opening sampleOpening .arriving) rfl
    (by simp [Task.on?, OpenStage.on?]) fun _ => ⟨rfl, rfl, vacant⟩
  exact begun.steps (List.replicate 11 1) rfl

theorem tended_sampleLeft : Tended 0 sampleLeft := by
  have out : sampleFirst.HandedOut 1 := ⟨sampleOpening, List.mem_of_getElem? (i := 1) rfl⟩
  have called := tended_sampleFirst.begin (k := .calling (.start 1 false {} {} {}))
    ⟨_, _, _, _, rfl⟩ (fun n hn => by cases hn; exact out) trivial
  have shut := called.begin (k := .shutting 1 .arriving) rfl
    (fun n hn => by cases hn; exact out.spawn _) trivial
  exact shut.steps (List.replicate 7 2 ++ List.replicate 12 3) rfl

theorem tended_sampleInside : Tended 0 sampleInside := by
  have vacant : sampleLeft.Vacant 0 := by
    intro t o st ht hj
    obtain ⟨o₀, e, o₁, c₁, σ, threads⟩ : ∃ o₀ e o₁ c₁ σ, sampleLeft.threads =
        [.opening o₀ (.done (.error e)), .opening o₁ (.done (.ok 1)), .calling c₁, .shutting 1 σ] :=
      ⟨_, _, _, _, _, rfl⟩
    rw [threads] at ht
    match t, ht with
    | 0, ht =>
      cases ht
      trivial
    | 1, ht =>
      cases ht
      rfl
    | 2, ht | 3, ht => cases ht
    | n + 4, ht => cases ht
  have begun := tended_sampleLeft.begin (k := .opening sampleOpening .arriving) rfl
    (by simp [Task.on?, OpenStage.on?]) fun _ => ⟨rfl, rfl, vacant⟩
  have second : Tended 0 sampleSecond := begun.steps (List.replicate 11 4) rfl
  have out : sampleSecond.HandedOut 2 := ⟨sampleOpening, List.mem_of_getElem? (i := 4) rfl⟩
  have called := second.begin (k := .calling (.start 2 true {} {} {}))
    ⟨_, _, _, _, rfl⟩ (fun n hn => by cases hn; exact out) trivial
  exact called.steps (List.replicate 3 5) rfl

theorem tenants_served_sample :
    (∃ c g, sampleInside.threads[5]? = some (.calling c) ∧
      c.Hosted sampleInside 0 sampleFrail g) ∧
    (∃ g, sampleTenants.BuiltFor 0 1 g ∧
      journey .handleRequest g <:+ sampleTenants.passagesOf 2) ∧
    (∃ g, sampleTenants.BuiltFor 0 2 g ∧
      journey .handleProxyRequest g <:+ sampleTenants.passagesOf 5) ∧
    (sampleTenants.context 0).calls = sampleTenants.served 0 ∧
    (sampleTenants.context 0).generation = sampleTenants.opened 0 ∧
    (sampleTenants.context 0).calls = 2 ∧ (sampleTenants.context 0).generation = 2 := by
  have straight : sampleFrail.Straight := fun _ _ _ => rfl
  have code : ∀ m, sampleInside.modules[0]? = some m → m.code = .handler sampleFrail := by
    intro m hm
    cases hm
    rfl
  have code' : ∀ m, sampleTenants.modules[0]? = some m → m.code = .handler sampleFrail := by
    intro m hm
    cases hm
    rfl
  have tended : Tended 0 sampleTenants := tended_sampleInside.steps (List.replicate 4 5) rfl
  obtain ⟨inside, -⟩ := tenants_served straight tended_sampleInside code
  obtain ⟨calls, -, counts, -, opened⟩ := tenants_served straight tended code'
  obtain ⟨hosted, -⟩ := inside 5 _ _ rfl rfl rfl
  obtain ⟨-, first⟩ := calls 2 _ _ rfl rfl rfl
  obtain ⟨-, second⟩ := calls 5 _ _ rfl rfl rfl
  obtain ⟨g, hosted⟩ := hosted rfl
  refine ⟨⟨_, g, rfl, hosted⟩, first rfl, second rfl, counts ?_, opened ?_, rfl, rfl⟩
  · decide +kernel
  · intro t o st ht hj
    obtain ⟨o₀, e, o₁, c₁, σ, o₂, c₂, threads⟩ : ∃ o₀ e o₁ c₁ σ o₂ c₂, sampleTenants.threads =
        [.opening o₀ (.done (.error e)), .opening o₁ (.done (.ok 1)), .calling c₁, .shutting 1 σ,
          .opening o₂ (.done (.ok 2)), .calling c₂] := ⟨_, _, _, _, _, _, _, rfl⟩
    rw [threads] at ht
    match t, ht with
    | 0, ht | 1, ht | 4, ht =>
      cases ht
      exact ⟨_, rfl⟩
    | 2, ht | 3, ht | 5, ht => cases ht
    | n + 6, ht => cases ht

end System

end ModuleHost
