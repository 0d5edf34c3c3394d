import ModuleHost.Proofs.Loader.Registry

/-!
# A load from beginning to end

`LoaderState.Loads` is one load: it is refused on the spot, or the loader waits, while others go on
(`OthersMove`), until the opening that it began has come to a result. `LoaderState.Attempt` is what holds of
that opening all the while: the account of its thread, and that whatever instance of a library there is
that was not there before is the one that it made. A step of its thread leaves all other instances as
they are, so each of those stands as it stood, unless another thread has stepped on it
(`SameUnlessDisturbed`).
-/
namespace ModuleHost

open Boundary File

/-! ## Openings -/

namespace Opening.Account

variable {s s' : System} {t : Nat} {o : Opening} {st : OpenStage} {made : Option Nat}

/-- Whatever moves, an opening keeps its account, and its instance once it has made one. -/
theorem move (h : Account s t o st made) (hr : s.Run) (ht : s.threads[t]? = some (.opening o st))
    (hm : s.Move s') : ∃ st' made', s'.threads[t]? = some (.opening o st') ∧
      Account s' t o st' made' ∧
      (made' = made ∨ made = none ∧ made' = some s.instances.length ∧ st'.on? = made') := by
  have here := (List.getElem?_eq_some_iff.mp ht).1
  -- A thread comes to a task that mentions only what is handed out.
  have strange : ∀ {k : Task} {n : Nat}, k.IsNew → (∀ n, k.on? = some n → s.HandedOut n) →
      (∀ n, st ≠ .done (.ok n)) → made = some n → ¬ k.Mentions n := fun new out busy hn mentions =>
    h.not_handedOut ht busy hn (out _ (new.mentions mentions))
  cases hm with
  | install m _ =>
    exact ⟨st, made, ht, h.still rfl rfl fun busy n hn => (h.alone busy n hn).2, .inl rfl⟩
  | begin k new out =>
    refine ⟨st, made, (List.getElem?_append_left here).trans ht,
      h.still rfl rfl fun busy n hn u k' hu mentions => ?_, .inl rfl⟩
    rcases of_getElem?_concat hu with old | ⟨rfl, -⟩
    · exact (h.alone busy n hn).2 u k' old mentions
    · exact absurd mentions (strange new out busy hn)
  | again u c d r hu done new out =>
    have other : u ≠ t := by
      rintro rfl
      cases hu.symm.trans ht
    refine ⟨st, made, (List.getElem?_set_ne other).trans ht,
      h.still rfl rfl fun busy n hn v k' hv mentions => ?_, .inl rfl⟩
    rcases of_getElem?_set hv with ⟨-, rfl⟩ | ⟨-, old⟩
    · exact absurd mentions (strange new (fun n on => by cases on; exact out) busy hn)
    · exact (h.alone busy n hn).2 v k' old mentions
  | step _ u hs =>
    by_cases same : u = t
    · subst same
      obtain ⟨st', after, -⟩ := (System.Move.step _ _ u hs).opening_after ht
      obtain ⟨st₀, before, opens⟩ := (System.step_cases hs).opens after
      cases ht.symm.trans before
      cases opens with
      | early i m m' events on hmod early =>
        refine ⟨st', _, after, h.early hr.orderly early, ?_⟩
        obtain ⟨rfl, -⟩ := h.course.early early
        cases early with
        | load | skip => exact .inr ⟨rfl, rfl, rfl⟩
        | ask | unasked | hook | told | broke | refuse => exact .inl rfl
      | late n i i' m m' events on hi hmod late =>
        exact ⟨st', made, after, h.late hr.orderly ht on hi late, .inl rfl⟩
    · obtain ⟨k, k', -, after⟩ := System.step_threads hs
      refine ⟨st, made, ?_, h.other (System.step_cases hs) same, .inl rfl⟩
      rw [after]
      exact (List.getElem?_set_ne same).trans ht

end Opening.Account

theorem System.Move.grows {s s' : System} (h : s.Move s') :
    s.instances.length ≤ s'.instances.length := by
  cases h with
  | install | begin | again => exact Nat.le_refl _
  | step _ t hs =>
    obtain ⟨k, k', module, m', instances, events, rfl, shape⟩ := (step_cases hs).shape
    exact shape.more

theorem Host.Maps.still {h h' : Host} (maps : h.Maps h') :
    h'.system.threads = h.system.threads ∧ h'.system.instances = h.system.instances ∧
      h'.system.history = h.system.history := by
  rcases maps.system with same | ⟨bytes, library, -, added⟩
  · rw [same]
    exact ⟨rfl, rfl, rfl⟩
  · rw [added]
    exact ⟨rfl, rfl, rfl⟩

namespace LoaderState

variable {canon : String → String} {name : String} {d d' : LoaderState} {n : Nat}

/-! ## Loads -/

/-- The loader does nothing more, whatever else goes on. -/
def OthersMove (canon : String → String) : LoaderState → LoaderState → Prop :=
  Relation.ReflTransGen fun d d' => Move canon d d' ∧ d'.loader = d.loader ∧ d'.doing = d.doing

theorem OthersMove.later (h : OthersMove canon d d') : Later canon d d' :=
  Relation.ReflTransGen.mono (fun _ _ step => step.1) d d' h

theorem OthersMove.loader (h : OthersMove canon d d') : d'.loader = d.loader := by
  induction h with
  | refl => rfl
  | tail _ step ih => exact step.2.1.trans ih

theorem OthersMove.doing (h : OthersMove canon d d') : d'.doing = d.doing := by
  induction h with
  | refl => rfl
  | tail _ step ih => exact step.2.2.trans ih

theorem OthersMove.system (h : OthersMove canon d d') : d.system.Later d'.system := by
  induction h with
  | refl => exact .refl _
  | tail _ step ih =>
    obtain ⟨move, -, doing⟩ := step
    cases move with
    | machine s hm _ => exact ih.trans hm.later
    | load name h todo idle => cases doing.trans idle
    | shut why e left closing => cases doing.trans closing
    | files | addSearchPath | get | refuse | loaded | failed | unload | clear | ended | finished =>
      exact ih

/-- The loader when a load has been admitted, -/
def loading (d : LoaderState) (h : Host) (todo : Loader.Load) : LoaderState :=
  { d with
    host := { h with system := h.system.spawn (.opening todo.opening .arriving) }
    doing := .loading todo.key h.system.threads.length }

/-- and when its opening has come to a result. -/
def settle (d : LoaderState) (key : String) : Except HostError Nat → LoaderState
  | .ok n => { d with
      loader := d.loader.register key n, doing := .idle, returned := d.returned ++ [n] }
  | .error _ => { d with doing := .idle }

/-- A load of `name` from its beginning to its result. -/
inductive Loads (canon : String → String) (name : String) (d : LoaderState) :
    LoaderState → Except HostError Nat → Prop
  | refused (e : HostError) :
      d.doing = .idle → d.loader.begin d.host name = .error e → Loads canon name d d (.error e)
  | opened (h : Host) (todo : Loader.Load) (d₁ : LoaderState) (o : Opening) (r : Except HostError Nat) :
      d.doing = .idle → d.loader.begin d.host name = .ok (h, todo) →
      OthersMove canon (d.loading h todo) d₁ →
      d₁.system.threads[d.system.threads.length]? = some (.opening o (.done r)) →
      Loads canon name d (d₁.settle todo.key r) r

/-- Another thread than `t` has stepped between the two states, and changed instance `n`. -/
def Disturbed (canon : String → String) (t : Nat) (d d' : LoaderState) (n : Nat) : Prop :=
  ∃ d₁ s u, Later canon d d₁ ∧ u ≠ t ∧ d₁.system.step u = some s ∧
    s.instances[n]? ≠ d₁.system.instances[n]? ∧ Later canon (d₁.withSystem s) d'

/-- Instance `n` stands as it stood, as far as it was up to thread `t`. -/
def SameUnlessDisturbed (canon : String → String) (t : Nat) (d d' : LoaderState) (n : Nat) : Prop :=
  d'.system.instances[n]? = d.system.instances[n]? ∨ d.Disturbed canon t d' n

theorem SameUnlessDisturbed.still {t : Nat} {d₁ d₂ : LoaderState}
    (stands : d.SameUnlessDisturbed canon t d₁ n)
    (h : Move canon d₁ d₂) (same : d₂.system.instances[n]? = d₁.system.instances[n]?) :
    d.SameUnlessDisturbed canon t d₂ n := by
  rcases stands with before | ⟨d₀, s, u, earlier, other, hs, changed, later⟩
  · exact .inl (same.trans before)
  · exact .inr ⟨d₀, s, u, earlier, other, hs, changed, later.tail h⟩

/-- Only a step changes an instance. -/
theorem SameUnlessDisturbed.move {t : Nat} {d₁ d₂ : LoaderState}
    (stands : d.SameUnlessDisturbed canon t d₁ n) (k : d₁.Invariant canon)
    (before : Later canon d d₁) (h : Move canon d₁ d₂)
    (own : ∀ s, d₁.system.step t = some s → s.instances[n]? = d₁.system.instances[n]?) :
    d.SameUnlessDisturbed canon t d₂ n := by
  by_cases now : d₂.system.instances[n]? = d₁.system.instances[n]?
  · exact stands.still h now
  refine .inr ?_
  cases h with
  | machine s hm _ =>
    cases hm with
    | install | begin | again => exact absurd rfl now
    | step _ u hs =>
      refine ⟨d₁, s, u, before, ?_, hs, now, .refl⟩
      rintro rfl
      exact now (own s hs)
  | load name h todo idle admitted =>
    obtain ⟨maps, -, -⟩ := Loader.begin_eq_ok k.tree admitted
    exact absurd (congrArg (·[n]?) maps.still.2.1) now
  | _ => exact absurd rfl now

/-- Instance `n` is of a library and has appeared between the two states. -/
def Appeared (d d' : LoaderState) (n : Nat) : Prop :=
  d.system.instances.length ≤ n ∧ ∃ p, d'.system.pathOf n = some p

/-- The load that has been admitted at `d`, at a later state: its thread, the instance that it has made
and what has become of the others. -/
structure Attempt (canon : String → String) (d : LoaderState) (o : Opening) (d₁ : LoaderState)
    (st : OpenStage) (made : Option Nat) : Prop where
  kept : d₁.Invariant canon
  later : Later canon d d₁
  loader : d₁.loader = d.loader
  returned : d₁.returned = d.returned
  path : ∃ p, o.path = some p ∧ d₁.doing = .loading (canon p) d.system.threads.length
  task : d₁.system.threads[d.system.threads.length]? = some (.opening o st)
  account : o.Account d₁.system d.system.threads.length st made
  grown : d.system.instances.length ≤ d₁.system.instances.length
  appeared : ∀ n, d.Appeared d₁ n ↔ made = some n
  stands : ∀ n < d.system.instances.length, d.SameUnlessDisturbed canon d.system.threads.length d₁ n

namespace Attempt

variable {d₁ : LoaderState} {o : Opening} {st : OpenStage} {made : Option Nat}

theorem begin {h : Host} {todo : Loader.Load} (k : d.Invariant canon) (idle : d.doing = .idle)
    (admitted : d.loader.begin d.host name = .ok (h, todo)) :
    Attempt canon d todo.opening (d.loading h todo) .arriving none := by
  obtain ⟨maps, ⟨p, path, key⟩, -⟩ := Loader.begin_eq_ok k.tree admitted
  obtain ⟨threads, instances, history⟩ := maps.still
  have threads : h.system.threads = d.system.threads := threads
  have instances : h.system.instances = d.system.instances := instances
  have quiet : ∀ x ∈ (d.loading h todo).system.history, x.thread ≠ d.system.threads.length := by
    intro x hx
    have old : x ∈ d.system.history := history ▸ hx
    exact Nat.ne_of_lt (k.run.accounts.threads x old)
  exact {
    kept := k.load idle admitted
    later := .single (.load d name h todo idle admitted)
    loader := rfl
    returned := rfl
    path := ⟨p, path, by rw [← threads, ← key]; rfl⟩
    task := by
      rw [← threads]
      exact List.getElem?_concat_length
    account := .begin quiet
    grown := Nat.le_of_eq (congrArg List.length instances).symm
    appeared := by
      refine fun n => ⟨fun ⟨new, p, path⟩ => ?_, fun none => by cases none⟩
      have there : n < h.system.instances.length := System.there_of_pathOf path
      rw [instances] at there
      omega
    stands := fun n _ => .inl (congrArg (·[n]?) instances) }

theorem machine (a : Attempt canon d o d₁ st made) {s : System} (hm : d₁.system.Move s)
    (own : ∀ o, s = d₁.system.spawn (.opening o .arriving) → o.path = none) :
    ∃ st' made', Attempt canon d o (d₁.withSystem s) st' made' := by
  obtain ⟨st', made', task', account', goes⟩ := a.account.move a.kept.run a.task hm
  obtain ⟨p, path, loading⟩ := a.path
  have move : Move canon d₁ (d₁.withSystem s) := .machine d₁ s hm own
  have kept' := a.kept.machine hm own
  refine ⟨st', made', {
    kept := kept'
    later := a.later.tail move
    loader := a.loader
    returned := a.returned
    path := ⟨p, path, loading⟩
    task := task'
    account := account'
    grown := Nat.le_trans a.grown hm.grows
    appeared := fun n => ⟨?appeared, ?made⟩
    stands := fun n there => ?stands }⟩
  case appeared =>
    rintro ⟨new, q, found⟩
    have found : s.pathOf n = some q := found
    rcases Nat.lt_or_ge n d₁.system.instances.length with old | newer
    · have before : made = some n := (a.appeared n).mp ⟨new, q, (hm.pathOf old).symm.trans found⟩
      rcases goes with same | ⟨none, -, -⟩
      · exact same.trans before
      · cases none.symm.trans before
    · -- Of those that open a library only the loader's own thread is not done.
      obtain ⟨u, o', v, st₁, -, judging, after, on, path'⟩ :=
        hm.makes newer (System.there_of_pathOf found)
      rcases a.kept.openings u o' _ q judging (path'.symm.trans found) with ⟨r, done⟩ | loading'
      · cases done
      · obtain ⟨-, rfl⟩ := Doing.loading.inj (loading.symm.trans loading')
        cases task'.symm.trans after
        exact account'.course.mentions (.inl on)
  case made =>
    intro born
    rcases goes with same | ⟨-, fresh, on⟩
    · obtain ⟨new, q, found⟩ := (a.appeared n).mpr (same.symm.trans born)
      exact ⟨new, q, (hm.pathOf (System.there_of_pathOf found)).trans found⟩
    · obtain rfl := Option.some.inj (fresh.symm.trans born)
      exact ⟨a.grown, p, (kept'.run.pathOf_opening task' (.inl (on.trans born))).trans path⟩
  case stands =>
    refine (a.stands n there).move a.kept a.later move fun s₁ hs => ?_
    -- A step of the opening is on the instance that it has made, if it is on any.
    cases System.step_cases hs with
    | early o' st₁ st₂ i m m' events hu on hmod early =>
      exact List.getElem?_append_left (Nat.lt_of_lt_of_le there a.grown)
    | late k k' n' i i' m m' events hu on hi hmod late =>
      cases a.task.symm.trans hu
      have mine := (a.appeared n').mpr (a.account.course.mentions (.inl on))
      have apart : n' ≠ n := fun same => absurd mine.1 (by omega)
      exact List.getElem?_set_ne apart
    | direct k k' module m m' events hu direct =>
      cases a.task.symm.trans hu
      cases direct

theorem aside (a : Attempt canon d o d₁ st made) {d₂ : LoaderState} (h : Move canon d₁ d₂)
    (same : d₂.doing = d₁.doing) : ∃ st' made', Attempt canon d o d₂ st' made' := by
  obtain ⟨p, path, loading⟩ := a.path
  cases h with
  | machine s hm own => exact a.machine hm own
  | files tree follows =>
    have move : Move canon d₁ { d₁ with host := { d₁.host with tree } } := .files d₁ tree follows
    exact ⟨st, made, { a with
      kept := a.kept.files follows
      later := a.later.tail move
      stands := fun n there => (a.stands n there).still move rfl }⟩
  | get name idle | refuse name e idle | addSearchPath dir idle | load name h todo idle
  | unload name e i idle | clear why order idle => cases loading.symm.trans idle
  | loaded | failed => cases loading.symm.trans same.symm
  | shut why e left closing | ended why e left t r closing | finished why closing =>
    cases loading.symm.trans closing

theorem meanwhile {d₀ : LoaderState} (a : Attempt canon d o d₀ st made) (h : OthersMove canon d₀ d₁) :
    ∃ st' made', Attempt canon d o d₁ st' made' := by
  induction h with
  | refl => exact ⟨st, made, a⟩
  | tail _ step ih =>
    obtain ⟨st', made', a'⟩ := ih
    exact a'.aside step.1 step.2.2

end Attempt

theorem Loads.later {r : Except HostError Nat} (k : d.Invariant canon) (h : Loads canon name d d' r) :
    Later canon d d' := by
  cases h with
  | refused => exact .refl
  | opened h todo d₁ o r idle admitted between done =>
    obtain ⟨st, made, a⟩ := (Attempt.begin k idle admitted).meanwhile between
    obtain ⟨p, path, loading⟩ := a.path
    cases r with
    | ok n =>
      have key : todo.key = canon p := (Doing.loading.inj (between.doing.symm.trans loading)).1
      rw [key]
      exact a.later.tail (.loaded d₁ _ _ _ n loading done)
    | error e => exact a.later.tail (.failed d₁ _ _ _ e loading done)

/-! ## A load by itself -/

theorem meanwhile_of_steps (ts : List Nat) : ∀ {d : LoaderState} {s : System}, d.system.steps ts = some s →
    OthersMove canon d (d.withSystem s) := by
  induction ts with
  | nil =>
    intro d s h
    cases h
    exact .refl
  | cons t ts ih =>
    intro d s h
    simp only [System.steps, List.foldlM_cons, bind, Option.bind_eq_some_iff] at h
    obtain ⟨s₁, h₁, h₂⟩ := h
    have move : Move canon d (d.withSystem s₁) :=
      .machine d s₁ (.step _ _ t h₁) fun o same => absurd same (System.step_ne_spawn h₁ _)
    exact .head ⟨move, rfl, rfl⟩ (ih (d := d.withSystem s₁) h₂)

/-- A load during which only its own thread steps, `k` times. -/
def loadAlone (d : LoaderState) (name : String) (k : Nat) : Option (LoaderState × Except HostError Nat) := do
  let (h, todo) ← (d.loader.begin d.host name).toOption
  let s ← (d.loading h todo).system.steps (List.replicate k d.system.threads.length)
  let .opening _ (.done r) ← s.threads[d.system.threads.length]? | none
  return (((d.loading h todo).withSystem s).settle todo.key r, r)

theorem loads_of_alone {r : Except HostError Nat} (k : Nat) (idle : d.doing = .idle)
    (h : d.loadAlone name k = some (d', r)) : Loads canon name d d' r := by
  simp only [loadAlone, bind, Option.bind_eq_some_iff] at h
  obtain ⟨⟨host, todo⟩, admitted, s, steps, k', ht, h⟩ := h
  have admitted : d.loader.begin d.host name = .ok (host, todo) := by
    cases result : d.loader.begin d.host name with
    | ok _ =>
      rw [result] at admitted
      exact congrArg _ (Option.some.inj admitted)
    | error e =>
      rw [result] at admitted
      cases admitted
  split at h
  · cases h
    exact .opened host todo _ _ _ idle admitted (meanwhile_of_steps _ steps) ht
  · cases h

end LoaderState

end ModuleHost
