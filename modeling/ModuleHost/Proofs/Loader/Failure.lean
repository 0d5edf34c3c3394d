import ModuleHost.Proofs.Loader.Loading

/-!
# A load that fails

Whatever a load fails for, `LoaderState.load_failed` says that the loader is as it was: the same
instances are registered under the same paths, and none of them has changed unless another thread has
stepped on it. What remains of the attempt (`Remains`) depends on how far it came: nothing at all where no library
was opened, no instance where the version was refused, and one that has ended where `OnLoad` failed.
So a later load is never refused because of it (`LoaderState.Blocked`).
-/
namespace ModuleHost

open Boundary File

/-- Whether the error comes before a library is opened. -/
def HostError.Unopened : HostError → Prop
  | .moduleNotFound _ | .alreadyLoaded _ | .load _ | .symbolNotFound .. => True
  | .incompatibleAbi .. | .initFailed .. | .shuttingDown _ | .entryPointMissing .. => False

namespace Loader

variable {l : Loader} {h : Host} {s : System} {canon : String → String} {name key : String}
  {i : Instance}

theorem of_blocking (blocked : l.blocking? s key = some i) :
    ∃ n, (key, n) ∈ l.registry ∧ s.instances[n]? = some i ∧ i.gate.state ≠ .unloaded := by
  simp only [blocking?, bind, Option.bind_eq_some_iff] at blocked
  obtain ⟨n, found, i', hi, up⟩ := blocked
  split at up
  · cases up
  · rename_i state
    cases up
    obtain ⟨before, after, whole, -⟩ := List.lookup_eq_some_iff.mp found
    exact ⟨n, whole ▸ List.mem_append_right _ List.mem_cons_self, hi, state⟩

theorem unopened_of_begin {e : HostError} (tree : h.tree.Follows canon)
    (refused : l.begin h name = .error e) : e.Unopened := by
  cases found : l.find? h.tree name with
  | none =>
    simp only [begin, found] at refused
    cases refused
    trivial
  | some path =>
    rw [begin_of_find tree found] at refused
    split at refused
    · cases refused
      trivial
    · rcases h.prepare_spec path l.requireAbi with ⟨h', o, opened, -, -⟩ | none | ⟨symbol, none⟩
      · rw [opened] at refused
        cases refused
      · rw [none] at refused
        cases refused
        trivial
      · rw [none] at refused
        cases refused
        trivial

theorem blocking_of_begin {other : String} (tree : h.tree.Follows canon)
    (refused : l.begin h name = .error (.alreadyLoaded other)) : ∃ path n i,
      l.find? h.tree name = some path ∧ (canon path, n) ∈ l.registry ∧
      h.system.instances[n]? = some i ∧ i.gate.state ≠ .unloaded ∧ i.name = other := by
  cases found : l.find? h.tree name with
  | none =>
    simp only [begin, found] at refused
    cases refused
  | some path =>
    obtain ⟨i, blocked, named⟩ := (begin_eq_alreadyLoaded tree found other).mp refused
    obtain ⟨n, filed, hi, up⟩ := of_blocking blocked
    exact ⟨path, n, i, rfl, filed, hi, up, named⟩

end Loader

namespace LoaderState

variable {canon : String → String} {name : String} {d d' : LoaderState} {e : HostError}

/-- What is registered was registered before, or a load has returned it since. -/
theorem Later.registered (h : Later canon d d') : ∃ new, d'.returned = d.returned ++ new ∧
    ∀ e ∈ d'.loader.registry, e ∈ d.loader.registry ∨ e.2 ∈ new := by
  induction h with
  | refl => exact ⟨[], (List.append_nil _).symm, fun e he => .inl he⟩
  | tail _ move ih =>
    obtain ⟨new, returned, origin⟩ := ih
    cases move with
    | loaded key t o n loading ht =>
      refine ⟨new ++ [n], by simp only [returned, List.append_assoc], fun e he => ?_⟩
      rcases Loader.mem_register.mp he with ⟨old, -⟩ | rfl
      · exact (origin e old).imp_right (List.mem_append_left _)
      · exact .inr (List.mem_append_right _ List.mem_cons_self)
    | unload name e' i idle he' =>
      exact ⟨new, returned, fun e he => origin e (Loader.mem_forget.mp he).1⟩
    | clear why order idle => exact ⟨new, returned, fun e he => by cases he⟩
    | machine | files | addSearchPath | get | refuse | load | failed | shut | ended | finished =>
      exact ⟨new, returned, origin⟩

/-- What remains of a load that has failed. -/
inductive Remains (d d' : LoaderState) : HostError → Prop
  | nothing (e : HostError) : e.Unopened → d' = d → Remains d d' e
  /-- The module has been asked for its version at most. -/
  | foreign (module : String) (expected found : UInt32) :
      (∀ n, ¬ d.Appeared d' n) →
      (∀ entry ∈ entries (d'.system.threadLog d.system.threads.length), entry = .moduleAbiVersion) →
      Remains d d' (.incompatibleAbi module expected found)
  /-- There was an instance. It has ended, and nobody has anything to do with it. -/
  | ended (module : String) (code : Int) (n : Nat) (i : Instance) :
      (∀ n', d.Appeared d' n' ↔ n' = n) → d'.system.instances[n]? = some i → i.name = module →
      d'.system.EndedOnce n →
      (∀ (u : Nat) (k : Task), d'.system.threads[u]? = some k → ¬ k.Mentions n) →
      Remains d d' (.initFailed module code)

/-- An instance that is registered now, not unloaded, and not what the failed load from `d` to `d'` has
left: it was registered before that, or a load has returned it since. -/
def Blocked (canon : String → String) (d d' now : LoaderState) (name other : String) : Prop :=
  ∃ path n i new, now.loader.find? now.host.tree name = some path ∧
    (canon path, n) ∈ now.loader.registry ∧ now.system.instances[n]? = some i ∧
    i.gate.state ≠ .unloaded ∧ i.name = other ∧ ¬ d.Appeared d' n ∧
    now.returned = d.returned ++ new ∧ ((canon path, n) ∈ d.loader.registry ∨ n ∈ new)

/-- A load that has failed. -/
structure Failed (canon : String → String) (d d' : LoaderState) (e : HostError) : Prop where
  loader : d'.loader = d.loader
  idle : d'.doing = .idle
  returned : d'.returned = d.returned
  stands : ∀ n < d.system.instances.length, d.SameUnlessDisturbed canon d.system.threads.length d' n
  remains : d.Remains d' e
  blocked : ∀ now, Later canon d' now → ∀ name other,
    now.loader.begin now.host name = .error (.alreadyLoaded other) → d.Blocked canon d' now name other

theorem Remains.unloaded {n : Nat} (h : d.Remains d' e) (appeared : d.Appeared d' n) :
    d'.system.stateOf n = some .unloaded := by
  cases h with
  | nothing e unopened same =>
    subst same
    obtain ⟨new, p, path⟩ := appeared
    exact absurd (System.there_of_pathOf path) (Nat.not_lt_of_le new)
  | foreign module expected found none => exact absurd appeared (none n)
  | ended module code n' i only hi named past =>
    obtain rfl := (only n).mp appeared
    obtain ⟨⟨i', inside, hi', down, -⟩, -⟩ := past
    rw [System.stateOf, hi', Option.map_some, down]

theorem Attempt.remains {d₁ : LoaderState} {o : Opening} {made : Option Nat}
    (a : Attempt canon d o d₁ (.done (.error e)) made) (key : String) :
    d.Remains (d₁.settle key (.error e)) e := by
  have course := a.account.course
  generalize hearly : entries (d₁.system.earlyLog d.system.threads.length) = early at course
  generalize answers (d₁.system.threadLog d.system.threads.length) = got at course
  cases course with
  | refused v asked foreign =>
    refine .foreign _ _ _ (fun n appeared => ?_) fun entry mem => ?_
    · cases (a.appeared n).mp appeared
    · -- Whatever the thread did, it did without an instance.
      obtain ⟨x, hx, mine, entered⟩ := System.mem_log.mp (mem_entries.mp mem)
      have mine : x.thread = d.system.threads.length := by simpa using mine
      have unmade : x.on = none := (a.account.own x hx mine).elim id id
      have early : entry ∈ entries (d₁.system.earlyLog d.system.threads.length) :=
        mem_entries.mpr (System.mem_log.mpr ⟨x, hx, by simp [mine, unmade], entered⟩)
      rw [hearly, Exports.probes] at early
      split at early
      · exact List.mem_singleton.mp early
      · cases early
  | made _ n v later asked known loaded =>
    cases loaded with
    | failed code onLoad bad =>
      have busy : ∀ n', OpenStage.done (.error (.initFailed o.name code)) ≠ .done (.ok n') :=
        fun n' same => by cases same
      obtain ⟨i, hi, -, named⟩ := a.account.here n rfl
      obtain ⟨i', hi', down⟩ := a.account.finished n _ rfl rfl
      refine .ended _ code n i (fun n' => ?_) hi named (a.kept.run.endedOnce ?_) fun u k hu on => ?_
      · have appeared : d.Appeared d₁ n' ↔ some n = some n' := a.appeared n'
        exact appeared.trans ⟨fun same => (Option.some.inj same).symm, fun same => same ▸ rfl⟩
      · rw [System.stateOf, hi', Option.map_some, down]
      · obtain rfl := (a.account.alone busy n rfl).2 u k hu on
        cases a.task.symm.trans hu
        rcases on with on | ⟨o', done⟩
        · cases on
        · cases done

/-- **A load that fails changes nothing.** The registry is what it was, each instance that there was
stands as it stood, unless another thread has stepped on it, what the attempt has made has ended, and no
later load is refused because of it. -/
theorem load_failed (hr : Run canon d) (h : Loads canon name d d' (.error e)) :
    Failed canon d d' e := by
  have blocked : Later canon d d' → d'.returned = d.returned → d'.loader = d.loader →
      d.Remains d' e → ∀ now, Later canon d' now → ∀ name other,
      now.loader.begin now.host name = .error (.alreadyLoaded other) →
      d.Blocked canon d' now name other := by
    intro during returned loader remains now later name other refused
    have kept' := hr.kept.later during
    obtain ⟨path, n, i, found, filed, hi, up, named⟩ :=
      Loader.blocking_of_begin (kept'.later later).tree refused
    obtain ⟨new, since, origin⟩ := later.registered
    refine ⟨path, n, i, new, found, filed, hi, up, named, fun appeared => up ?_,
      returned ▸ since, loader ▸ origin _ filed⟩
    have down := later.unloaded kept' (remains.unloaded appeared)
    rw [System.stateOf, show now.system.instances[n]? = some i from hi] at down
    exact Option.some.inj down
  cases h with
  | refused _ idle refused =>
    have remains : d.Remains d e := .nothing e (Loader.unopened_of_begin hr.kept.tree refused) rfl
    exact ⟨rfl, idle, rfl, fun n _ => .inl rfl, remains, blocked .refl rfl rfl remains⟩
  | opened h todo d₁ o _ idle admitted between done =>
    obtain ⟨st, made, a⟩ := (Attempt.begin hr.kept idle admitted).meanwhile between
    cases a.task.symm.trans done
    obtain ⟨p, path, loading⟩ := a.path
    have settled : Move canon d₁ (d₁.settle todo.key (.error e)) := .failed d₁ _ _ _ e loading done
    have remains := a.remains todo.key
    have stands : ∀ n < d.system.instances.length,
        d.SameUnlessDisturbed canon d.system.threads.length (d₁.settle todo.key (.error e)) n :=
      fun n there => (a.stands n there).still settled rfl
    exact ⟨a.loader, rfl, a.returned, stands, remains,
      blocked (a.later.tail settled) a.returned a.loader remains⟩

/-! ## A load that fails beside one that went well -/

/-- Two libraries: the module of the short run, and one that refuses to start. -/
def pairTree : Tree := { nodes := [(["m"], .file 0 []), (["n"], .file 1 [1])] }

def pairCanon (path : String) : String := (pairTree.canonical? path).getD path

def refusingModule : Module :=
  { code := .handler { init := fun _ => .ret (.error "no"), handle := fun _ => .ret () } }

def pairHost : Host :=
  { tree := pairTree, linker := fun b => some { module := if b = [] then .sample else refusingModule } }

def pairStart : LoaderState := { host := pairHost, loader := { searchPaths := [] } }

theorem start_pair : Start pairCanon pairStart := by
  refine ⟨rfl, Tree.follows_self pairTree, fun bytes library linked => ?_, rfl, rfl, rfl⟩
  cases linked
  split <;> rfl

/-- The first library is loaded, -/
def pairLoaded : LoaderState := ((pairStart.loadAlone "/m" 11).map (·.1)).getD pairStart

/-- and the second one has failed. -/
def pairFailed : LoaderState := ((pairLoaded.loadAlone "/n" 23).map (·.1)).getD pairLoaded

theorem run_pairLoaded : Run pairCanon pairLoaded := by
  have loads : Loads pairCanon "/m" pairStart pairLoaded (.ok 0) := loads_of_alone 11 rfl rfl
  exact ⟨pairStart, start_pair, loads.later start_pair.kept⟩

theorem load_failed_sample :
    Run pairCanon pairLoaded ∧
    Loads pairCanon "/n" pairLoaded pairFailed (.error (.initFailed "n" (-1))) ∧
    Failed pairCanon pairLoaded pairFailed (.initFailed "n" (-1)) ∧
    pairFailed.loader.registry = [("/m", 0)] ∧ pairFailed.system.stateOf 0 = some .live ∧
    pairFailed.system.stateOf 1 = some .unloaded := by
  have loads : Loads pairCanon "/n" pairLoaded pairFailed (.error (.initFailed "n" (-1))) :=
    loads_of_alone 23 rfl rfl
  exact ⟨run_pairLoaded, loads, load_failed run_pairLoaded loads, rfl, rfl, rfl⟩

end LoaderState

end ModuleHost
