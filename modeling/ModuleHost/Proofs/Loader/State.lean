import ModuleHost.Proofs.Loader.Paths

/-!
# A loader at work

A `LoaderState` is a host with one loader at work, among everything else that goes on. Its moves are
those of the machine and what the loader does: a load that is refused or admitted and comes to its
end, a look-up, an unload, an unload of everything, and the end of the loader. An operation is a
series of moves, with any others in between; no second one begins before it has ended. Instances that
have been taken out of the registry are shut down one after the other, each on a thread.

The registry's order is not told: an unload may take any entry that the name means, and an unload of
everything goes through the entries in any order. Others may call the instances, shut them down and
drop them whenever they like; they open no library themselves. Files may come and go, as long as a
path keeps its canonical form (`Tree.Follows`).

`LoaderState.Invariant` is what every move keeps: each instance that is not unloaded is filed under
the canonical form of its path, in the registry or among those still to be shut down, or is the one
that is being opened (`held`), and no two such instances have the same canonical path (`alone`).
-/
namespace ModuleHost

open Boundary File

/-- Why instances are shut down. -/
inductive Clearing where
  | unload
  | unloadAll
  /-- The loader is given up. -/
  | drop
  deriving DecidableEq, Repr

/-- What a loader is doing. -/
inductive Doing where
  | idle
  /-- Thread `t` opens an instance, to be filed under the key. -/
  | loading (key : String) (t : Nat)
  /-- Entries taken out of the registry are still to be shut down; thread `t`, if there is one, is
  about to do so with the first. -/
  | closing (why : Clearing) (left : List (String × Nat)) (t : Option Nat)

/-- The entries that are still to be shut down. -/
def Doing.left : Doing → List (String × Nat)
  | .closing _ left _ => left
  | .idle | .loading .. => []

structure LoaderState where
  host : Host
  loader : Loader
  doing : Doing := .idle
  /-- The instances that loads have returned, the last one last. -/
  returned : List Nat := []

namespace LoaderState

def system (d : LoaderState) : System := d.host.system

def withSystem (d : LoaderState) (s : System) : LoaderState :=
  { d with host := { d.host with system := s } }

inductive Move (canon : String → String) : LoaderState → LoaderState → Prop
  /-- The machine moves; nobody else opens a library. -/
  | machine (d : LoaderState) (s : System) :
      d.system.Move s → (∀ o, s = d.system.spawn (.opening o .arriving) → o.path = none) →
      Move canon d (d.withSystem s)
  | files (d : LoaderState) (tree : Tree) :
      tree.Follows canon → Move canon d { d with host := { d.host with tree } }
  | addSearchPath (d : LoaderState) (dir : String) :
      d.doing = .idle → Move canon d { d with loader := d.loader.addSearchPath dir }
  /-- A look-up changes nothing, -/
  | get (d : LoaderState) (name : String) : d.doing = .idle → Move canon d d
  /-- nor does a load that is refused. -/
  | refuse (d : LoaderState) (name : String) (e : HostError) :
      d.doing = .idle → d.loader.begin d.host name = .error e → Move canon d d
  | load (d : LoaderState) (name : String) (h : Host) (todo : Loader.Load) :
      d.doing = .idle → d.loader.begin d.host name = .ok (h, todo) →
      Move canon d { d with
        host := { h with system := h.system.spawn (.opening todo.opening .arriving) }
        doing := .loading todo.key h.system.threads.length }
  | loaded (d : LoaderState) (key : String) (t : Nat) (o : Opening) (n : Nat) :
      d.doing = .loading key t → d.system.threads[t]? = some (.opening o (.done (.ok n))) →
      Move canon d { d with
        loader := d.loader.register key n, doing := .idle, returned := d.returned ++ [n] }
  | failed (d : LoaderState) (key : String) (t : Nat) (o : Opening) (e : HostError) :
      d.doing = .loading key t → d.system.threads[t]? = some (.opening o (.done (.error e))) →
      Move canon d { d with doing := .idle }
  | unload (d : LoaderState) (name : String) (e : String × Nat) (i : Instance) :
      d.doing = .idle → e ∈ d.loader.registry → d.system.instances[e.2]? = some i →
      Loader.means name i = true →
      Move canon d { d with loader := d.loader.forget e.1, doing := .closing .unload [e] none }
  | clear (d : LoaderState) (why : Clearing) (order : List (String × Nat)) :
      d.doing = .idle → why ≠ .unload → order.Perm d.loader.registry →
      Move canon d { d with
        loader := { d.loader with registry := [] }, doing := .closing why order none }
  | shut (d : LoaderState) (why : Clearing) (e : String × Nat) (left : List (String × Nat)) :
      d.doing = .closing why (e :: left) none →
      Move canon d { d.withSystem (d.system.spawn (.shutting e.2 .arriving)) with
        doing := .closing why (e :: left) (some d.system.threads.length) }
  | ended (d : LoaderState) (why : Clearing) (e : String × Nat) (left : List (String × Nat)) (t : Nat)
      (r : ShutdownOutcome) :
      d.doing = .closing why (e :: left) (some t) →
      d.system.threads[t]? = some (.shutting e.2 (.done r)) →
      Move canon d { d with doing := .closing why left none }
  /-- A loader that has been given up does nothing more. -/
  | finished (d : LoaderState) (why : Clearing) :
      d.doing = .closing why [] none → why ≠ .drop → Move canon d { d with doing := .idle }

def Later (canon : String → String) : LoaderState → LoaderState → Prop :=
  Relation.ReflTransGen (Move canon)

/-- How a loader begins: nothing has run, nothing is registered, and the modules in all libraries are
untouched. -/
structure Start (canon : String → String) (d : LoaderState) : Prop where
  system : d.system = {}
  tree : d.host.tree.Follows canon
  fresh : ∀ bytes library, d.host.linker bytes = some library → library.module.context = {}
  empty : d.loader.registry = []
  idle : d.doing = .idle
  returned : d.returned = []

def Run (canon : String → String) (d : LoaderState) : Prop := ∃ d₀, Start canon d₀ ∧ Later canon d₀ d

/-- Everything that the loader answers for: what is still to be shut down, and what is registered. -/
def filed (d : LoaderState) : List (String × Nat) := d.doing.left ++ d.loader.registry

end LoaderState

namespace System

/-- Instance `n` was opened from a path with that canonical form, and is not unloaded. -/
def OpenAt (s : System) (canon : String → String) (key : String) (n : Nat) : Prop :=
  ∃ p, s.pathOf n = some p ∧ canon p = key ∧ s.stateOf n ≠ some .unloaded

theorem Move.up {s s' : System} {canon : String → String} {key : String} {n : Nat} (hr : Run s)
    (h : Move s s') (there : n < s.instances.length) (up : s'.OpenAt canon key n) :
    s.OpenAt canon key n := by
  obtain ⟨p, path, of, state⟩ := up
  rw [h.pathOf there] at path
  exact ⟨p, path, of, fun down => state (h.unloaded hr down)⟩

end System

namespace LoaderState

variable {canon : String → String} {d d' : LoaderState} {key : String} {n t : Nat}

/-- The loader is opening instance `n`, to be filed under the key. Where `OnLoad` has not come back and
never will, the opening does not tell its instance. -/
def Opens (d : LoaderState) (key : String) (n : Nat) : Prop :=
  ∃ t o st, d.doing = .loading key t ∧ d.system.threads[t]? = some (.opening o st) ∧
    ((Task.opening o st).Mentions n ∨ st = .escaped)

structure Invariant (canon : String → String) (d : LoaderState) : Prop where
  run : d.system.Run
  tree : d.host.tree.Follows canon
  fresh : ∀ bytes library, d.host.linker bytes = some library → library.module.context = {}
  unique : Loader.Unique d.filed
  keyed : ∀ e ∈ d.filed, e.2 ∈ d.returned ∧ ∃ p, d.system.pathOf e.2 = some p ∧ e.1 = canon p
  returned : ∀ n ∈ d.returned, d.system.HandedOut n ∧ ∃ p, d.system.pathOf n = some p
  openings : ∀ (t : Nat) (o : Opening) (st : OpenStage) (p : String),
    d.system.threads[t]? = some (.opening o st) → o.path = some p →
    (∃ r, st = .done r) ∨ d.doing = .loading (canon p) t
  loading : ∀ key t, d.doing = .loading key t →
    (∃ o st p, d.system.threads[t]? = some (.opening o st) ∧ o.path = some p ∧ key = canon p) ∧
    ∀ n, (key, n) ∈ d.loader.registry → d.system.stateOf n = some .unloaded
  held : ∀ key n, d.system.OpenAt canon key n → (key, n) ∈ d.filed ∨ d.Opens key n
  alone : ∀ key n n', d.system.OpenAt canon key n → d.system.OpenAt canon key n' → n = n'
  cleared : ∀ why left t, d.doing = .closing why left t → why ≠ .unload → d.loader.registry = []

theorem Start.kept (h : Start canon d) : d.Invariant canon := by
  have nothing : ∀ key n, ¬ d.system.OpenAt canon key n := by
    rintro key n ⟨p, path, -⟩
    simp [h.system, System.pathOf] at path
  refine ⟨h.system ▸ .refl {}, h.tree, h.fresh, ?_, ?_, ?_, ?_, ?_, ?_, ?_, ?_⟩
  · simp [Loader.Unique, filed, h.idle, h.empty, Doing.left]
  · simp [filed, h.idle, h.empty, Doing.left]
  · simp [h.returned]
  · simp [h.system]
  · simp [h.idle]
  · exact fun key n up => absurd up (nothing key n)
  · exact fun key n n' up => absurd up (nothing key n)
  · simp [h.idle]

theorem filed_eq (nothing : d.doing.left = []) : d.filed = d.loader.registry := by
  rw [filed, nothing, List.nil_append]

/-- An opening that has come to its end is no longer of an instance that it has not handed out. -/
theorem Opens.of_done {key' : String} {o : Opening} {r : Except HostError Nat}
    (h : d.Opens key' n) (loading : d.doing = .loading key t)
    (ht : d.system.threads[t]? = some (.opening o (.done r))) : key' = key ∧ r = .ok n := by
  obtain ⟨u, o', st, loading', hu, opens⟩ := h
  obtain ⟨rfl, rfl⟩ := Doing.loading.inj (loading.symm.trans loading')
  cases ht.symm.trans hu
  rcases opens with (on | ⟨o'', done⟩) | escaped
  · cases on
  · cases done
    exact ⟨rfl, rfl⟩
  · cases escaped

namespace Invariant

/-- Where nothing is being opened, an instance that is not unloaded is filed. -/
theorem filed_of_up (k : d.Invariant canon) (free : ∀ key t, d.doing ≠ .loading key t)
    (up : d.system.OpenAt canon key n) : (key, n) ∈ d.filed := by
  rcases k.held key n up with filed | ⟨t, o, st, loading, -⟩
  · exact filed
  · exact absurd loading (free key t)

/-! ## The moves of the machine -/

/-- When an opening makes its instance, no other one of that path is up. -/
theorem vacant_of_judging {o : Opening} {found : Option UInt32} {p : String} (k : d.Invariant canon)
    (ht : d.system.threads[t]? = some (.opening o (.judging found))) (hp : o.path = some p) (n : Nat) :
    ¬ d.system.OpenAt canon (canon p) n := by
  intro up
  have loading : d.doing = .loading (canon p) t := by
    rcases k.openings t o _ p ht hp with ⟨r, done⟩ | loading
    · cases done
    · exact loading
  rcases k.held _ n up with filed | ⟨u, o', st, loading', hu, opens⟩
  · obtain ⟨-, -, -, state⟩ := up
    rw [d.filed_eq (by rw [loading]; rfl)] at filed
    exact state ((k.loading _ t loading).2 n filed)
  · obtain ⟨-, rfl⟩ := Doing.loading.inj (loading.symm.trans loading')
    cases ht.symm.trans hu
    rcases opens with (on | ⟨o'', done⟩) | escaped
    · cases on
    · cases done
    · cases escaped

variable {s : System}

theorem opens_of_made (k : d.Invariant canon) (h : d.system.Move s)
    (new : d.system.instances.length ≤ n) (up : s.OpenAt canon key n) :
    n = d.system.instances.length ∧ (d.withSystem s).Opens key n ∧
      ∀ n', ¬ d.system.OpenAt canon key n' := by
  obtain ⟨p, path, rfl, -⟩ := up
  obtain ⟨t, o, found, st', rfl, ht, ht', on, path'⟩ :=
    h.makes new (System.there_of_pathOf path)
  have hp : o.path = some p := path'.symm.trans path
  refine ⟨rfl, ?_, k.vacant_of_judging ht hp⟩
  rcases k.openings t o _ p ht hp with ⟨r, done⟩ | loading
  · cases done
  · exact ⟨t, o, st', loading, ht', .inl (.inl on)⟩

theorem held_machine (k : d.Invariant canon) (h : d.system.Move s) (up : s.OpenAt canon key n) :
    (key, n) ∈ d.filed ∨ (d.withSystem s).Opens key n := by
  rcases Nat.lt_or_ge n d.system.instances.length with there | new
  · have up₀ := h.up k.run there up
    rcases k.held key n up₀ with filed | ⟨t, o, st, loading, ht, mentions | rfl⟩
    · exact .inl filed
    · obtain ⟨-, -, -, state⟩ := up₀
      obtain ⟨st', ht', opens⟩ := h.mentions_after k.run ht mentions state
      exact .inr ⟨t, o, st', loading, ht', opens⟩
    · obtain ⟨st', ht', rfl | opens⟩ := h.opening_after ht
      · exact .inr ⟨t, o, .escaped, loading, ht', .inr rfl⟩
      · cases opens with
        | early made m m' events hon hmod early => cases early
        | late n' i i' m m' events hon => cases hon
  · exact .inr (k.opens_of_made h new up).2.1

theorem alone_machine (k : d.Invariant canon) (h : d.system.Move s) {n' : Nat} (up : s.OpenAt canon key n)
    (up' : s.OpenAt canon key n') : n = n' := by
  rcases Nat.lt_or_ge n d.system.instances.length with there | new
  · rcases Nat.lt_or_ge n' d.system.instances.length with there' | new'
    · exact k.alone key n n' (h.up k.run there up) (h.up k.run there' up')
    · exact absurd (h.up k.run there up) ((k.opens_of_made h new' up').2.2 n)
  · rcases Nat.lt_or_ge n' d.system.instances.length with there' | new'
    · exact absurd (h.up k.run there' up') ((k.opens_of_made h new up).2.2 n')
    · exact (k.opens_of_made h new up).1.trans (k.opens_of_made h new' up').1.symm

theorem openings_machine (k : d.Invariant canon) (h : d.system.Move s)
    (own : ∀ o, s = d.system.spawn (.opening o .arriving) → o.path = none) {o : Opening}
    {st : OpenStage} {p : String} (ht : s.threads[t]? = some (.opening o st))
    (hp : o.path = some p) : (∃ r, st = .done r) ∨ d.doing = .loading (canon p) t := by
  rcases h.opening ht with old | ⟨-, new, -⟩ | ⟨st₀, old, opens⟩
  · exact k.openings t o st p old hp
  · cases (own o new).symm.trans hp
  · rcases k.openings t o st₀ p old hp with ⟨r, rfl⟩ | loading
    · exact absurd rfl (opens.stage_ne r)
    · exact .inr loading

theorem machine (k : d.Invariant canon) (h : d.system.Move s)
    (own : ∀ o, s = d.system.spawn (.opening o .arriving) → o.path = none) :
    (d.withSystem s).Invariant canon where
  run := k.run.move h
  tree := k.tree
  fresh := k.fresh
  unique := k.unique
  keyed := by
    intro e he
    obtain ⟨returned, p, path, of⟩ := k.keyed e he
    exact ⟨returned, p, (h.pathOf (System.there_of_pathOf path)).trans path, of⟩
  returned := by
    intro n hn
    obtain ⟨out, p, path⟩ := k.returned n hn
    exact ⟨h.handedOut out, p, (h.pathOf (System.there_of_pathOf path)).trans path⟩
  openings := fun t o st p ht hp => k.openings_machine h own ht hp
  loading := by
    intro key t loading
    obtain ⟨⟨o, st, p, ht, hp, of⟩, down⟩ := k.loading key t loading
    obtain ⟨st', ht', -⟩ := h.opening_after ht
    exact ⟨⟨o, st', p, ht', hp, of⟩, fun n filed => h.unloaded k.run (down n filed)⟩
  held := fun key n up => k.held_machine h up
  alone := fun key n n' up up' => k.alone_machine h up up'
  cleared := k.cleared

/-! ## The moves of the loader -/

theorem files (k : d.Invariant canon) {tree : Tree} (follows : tree.Follows canon) :
    Invariant canon { d with host := { d.host with tree } } :=
  { k with tree := follows }

theorem addSearchPath (k : d.Invariant canon) (dir : String) :
    Invariant canon { d with loader := d.loader.addSearchPath dir } :=
  { k with }

/-- While nothing is opened, openings of libraries are over. -/
theorem openings_over (k : d.Invariant canon) (free : ∀ key t, d.doing ≠ .loading key t) {o : Opening}
    {st : OpenStage} {p : String} (ht : d.system.threads[t]? = some (.opening o st))
    (hp : o.path = some p) : ∃ r, st = .done r := by
  rcases k.openings t o st p ht hp with past | loading
  · exact past
  · exact absurd loading (free _ t)

theorem openings_done (k : d.Invariant canon) {o o' : Opening} {r : Except HostError Nat} {u : Nat}
    {st : OpenStage} {p : String} (loading : d.doing = .loading key t)
    (ht : d.system.threads[t]? = some (.opening o (.done r)))
    (hu : d.system.threads[u]? = some (.opening o' st)) (hp : o'.path = some p) :
    ∃ r, st = .done r := by
  rcases k.openings u o' st p hu hp with past | loading'
  · exact past
  · obtain ⟨-, rfl⟩ := Doing.loading.inj (loading.symm.trans loading')
    cases ht.symm.trans hu
    exact ⟨r, rfl⟩

/-- What a loader that opens nothing goes on to, if that keeps its books. -/
theorem onward (k : d.Invariant canon) (free : ∀ key t, d.doing ≠ .loading key t) {loader : Loader}
    {doing : Doing} (free' : ∀ key t, doing ≠ .loading key t)
    (unique : Loader.Unique (doing.left ++ loader.registry))
    (less : ∀ e ∈ doing.left ++ loader.registry, e ∈ d.filed)
    (held : ∀ e ∈ d.filed, d.system.stateOf e.2 ≠ some .unloaded →
      e ∈ doing.left ++ loader.registry)
    (cleared : ∀ why left t, doing = .closing why left t → why ≠ .unload → loader.registry = []) :
    Invariant canon { d with loader, doing } where
  run := k.run
  tree := k.tree
  fresh := k.fresh
  unique := unique
  keyed := fun e he => k.keyed e (less e he)
  returned := k.returned
  openings := fun t o st p ht hp => .inl (k.openings_over free ht hp)
  loading := fun key t loading => absurd loading (free' key t)
  held := fun key n up => .inl (held _ (k.filed_of_up free up) (by
    obtain ⟨-, -, -, state⟩ := up
    exact state))
  alone := k.alone
  cleared := cleared

theorem maps {h : Host} (k : d.Invariant canon) (maps : d.host.Maps h) :
    Invariant canon { d with host := h } := by
  have mapped : (d.withSystem h.system).Invariant canon := by
    rcases maps.system with same | ⟨bytes, library, linked, added⟩
    · rw [same]
      exact k
    · rw [added]
      refine k.machine (.install _ _ (k.fresh bytes library linked)) fun o same => ?_
      have threads := congrArg (List.length ∘ System.threads) same
      exact absurd threads (Nat.ne_of_lt (by simp [System.addModule, System.spawn, LoaderState.system]))
  exact { mapped with tree := maps.tree ▸ k.tree, fresh := maps.linker ▸ k.fresh }

theorem spawn {o : Opening} {p : String} (k : d.Invariant canon) (idle : d.doing = .idle)
    (hp : o.path = some p)
    (free : ∀ n, (canon p, n) ∈ d.loader.registry → d.system.stateOf n = some .unloaded) :
    Invariant canon { d with
      host := { d.host with system := d.system.spawn (.opening o .arriving) }
      doing := .loading (canon p) d.system.threads.length } := by
  have calm : ∀ key t, d.doing ≠ .loading key t := fun key t loading => by
    cases idle.symm.trans loading
  have filed : d.filed = d.loader.registry := d.filed_eq (by rw [idle]; rfl)
  have unique : Loader.Unique d.loader.registry := filed ▸ k.unique
  exact {
    run := k.run.move (.begin _ _ rfl fun n on => by cases on)
    tree := k.tree
    fresh := k.fresh
    unique := unique
    keyed := fun e he => k.keyed e (filed ▸ he)
    returned := by
      intro n hn
      obtain ⟨out, path⟩ := k.returned n hn
      exact ⟨out.spawn _, path⟩
    openings := by
      intro t o' st p' ht hp'
      rcases of_getElem?_concat ht with ht | ⟨same, rfl⟩
      · exact .inl (k.openings_over calm ht hp')
      · cases same
        cases hp.symm.trans hp'
        exact .inr rfl
    loading := by
      rintro key t ⟨⟩
      refine ⟨⟨o, .arriving, p, ?_, hp, rfl⟩, free⟩
      exact List.getElem?_concat_length
    held := by
      intro key n up
      have old : (key, n) ∈ d.loader.registry := filed ▸ k.filed_of_up calm up
      exact .inl old
    alone := k.alone
    cleared := fun why left t closing => by cases closing }

theorem load {name : String} {h : Host} {todo : Loader.Load} (k : d.Invariant canon)
    (idle : d.doing = .idle) (admitted : d.loader.begin d.host name = .ok (h, todo)) :
    Invariant canon { d with
      host := { h with system := h.system.spawn (.opening todo.opening .arriving) }
      doing := .loading todo.key h.system.threads.length } := by
  obtain ⟨maps, ⟨p, hp, key⟩, free⟩ := Loader.begin_eq_ok k.tree admitted
  have filed : d.filed = d.loader.registry := d.filed_eq (by rw [idle]; rfl)
  rw [key]
  refine (k.maps maps).spawn idle hp fun n hn => ?_
  have same : h.system.stateOf n = d.system.stateOf n := by
    rcases maps.system with same | ⟨bytes, library, -, added⟩
    · rw [same]
      rfl
    · rw [added]
      rfl
  obtain ⟨-, p', path, -⟩ := k.keyed _ (filed ▸ hn)
  exact same.trans (Loader.unloaded_of_blocking (filed ▸ k.unique) (key ▸ hn)
    (System.there_of_pathOf path) free)

theorem loaded {o : Opening} (k : d.Invariant canon) (loading : d.doing = .loading key t)
    (ht : d.system.threads[t]? = some (.opening o (.done (.ok n)))) :
    Invariant canon { d with
      loader := d.loader.register key n, doing := .idle, returned := d.returned ++ [n] } := by
  have filed : d.filed = d.loader.registry := d.filed_eq (by rw [loading]; rfl)
  obtain ⟨⟨o', st, p, ht', hp, rfl⟩, down⟩ := k.loading key t loading
  cases ht.symm.trans ht'
  have path : d.system.pathOf n = some p := (k.run.pathOf_opening ht (.inr ⟨o, rfl⟩)).trans hp
  exact {
    run := k.run
    tree := k.tree
    fresh := k.fresh
    unique := Loader.unique_register (filed ▸ k.unique) _ n
    keyed := by
      intro e he
      rcases Loader.mem_register.mp he with ⟨old, -⟩ | rfl
      · obtain ⟨returned, path⟩ := k.keyed e (filed ▸ old)
        exact ⟨List.mem_append_left _ returned, path⟩
      · exact ⟨List.mem_append_right _ List.mem_cons_self, p, path, rfl⟩
    returned := by
      intro n' hn'
      rcases List.mem_append.mp hn' with old | new
      · exact k.returned n' old
      · obtain rfl := List.mem_singleton.mp new
        exact ⟨⟨o, List.mem_of_getElem? ht⟩, p, path⟩
    openings := fun u o' st p' hu hp' => .inl (k.openings_done loading ht hu hp')
    loading := fun key t loading => by cases loading
    held := by
      intro key' n' up
      refine .inl (Loader.mem_register.mpr ?_)
      rcases k.held key' n' up with old | opens
      · refine .inl ⟨filed ▸ old, ?_⟩
        rintro rfl
        obtain ⟨-, -, -, state⟩ := up
        exact state (down n' (filed ▸ old))
      · obtain ⟨rfl, same⟩ := opens.of_done loading ht
        cases same
        exact .inr rfl
    alone := k.alone
    cleared := fun why left t closing => by cases closing }

theorem failed {o : Opening} {e : HostError} (k : d.Invariant canon) (loading : d.doing = .loading key t)
    (ht : d.system.threads[t]? = some (.opening o (.done (.error e)))) :
    Invariant canon { d with doing := .idle } := by
  have filed : d.filed = d.loader.registry := d.filed_eq (by rw [loading]; rfl)
  have unique : Loader.Unique d.loader.registry := filed ▸ k.unique
  exact {
    run := k.run
    tree := k.tree
    fresh := k.fresh
    unique := unique
    keyed := fun e he => k.keyed e (filed ▸ he)
    returned := k.returned
    openings := fun u o' st p' hu hp' => .inl (k.openings_done loading ht hu hp')
    loading := fun key t loading => by cases loading
    held := by
      intro key' n' up
      rcases k.held key' n' up with old | opens
      · have old : (key', n') ∈ d.loader.registry := filed ▸ old
        exact .inl old
      · cases (opens.of_done loading ht).2
    alone := k.alone
    cleared := fun why left t closing => by cases closing }

theorem unload {e : String × Nat} (k : d.Invariant canon) (idle : d.doing = .idle)
    (he : e ∈ d.loader.registry) :
    Invariant canon { d with loader := d.loader.forget e.1, doing := .closing .unload [e] none } := by
  have filed : d.filed = d.loader.registry := d.filed_eq (by rw [idle]; rfl)
  have unique : Loader.Unique d.loader.registry := filed ▸ k.unique
  refine k.onward (by simp [idle]) (by simp) (Loader.unique_forget unique) ?_ ?_ ?_
  · intro e' he'
    rw [filed]
    rcases List.mem_append.mp he' with first | rest
    · exact List.mem_singleton.mp first ▸ he
    · exact (Loader.mem_forget.mp rest).1
  · intro e' he' _
    rw [filed] at he'
    by_cases same : e'.1 = e.1
    · obtain rfl : e' = e := Prod.ext same (unique.eq he' (by rw [same]; exact he))
      exact List.mem_append_left _ List.mem_cons_self
    · exact List.mem_append_right _ (Loader.mem_forget.mpr ⟨he', same⟩)
  · rintro why left t ⟨⟩ other
    exact absurd rfl other

theorem clear {why : Clearing} {order : List (String × Nat)} (k : d.Invariant canon)
    (idle : d.doing = .idle) (all : order.Perm d.loader.registry) :
    Invariant canon { d with
      loader := { d.loader with registry := [] }, doing := .closing why order none } := by
  have filed : d.filed = d.loader.registry := d.filed_eq (by rw [idle]; rfl)
  have unique : Loader.Unique d.loader.registry := filed ▸ k.unique
  refine k.onward (by simp [idle]) (by simp) ?_ ?_ ?_ (fun _ _ _ _ _ => rfl)
  · have ordered : Loader.Unique order := (all.map _).nodup_iff.mpr unique
    simpa [Doing.left] using ordered
  · simp [Doing.left, filed, all.mem_iff]
  · simp +contextual [Doing.left, filed, all.mem_iff]

theorem shut {why : Clearing} {e : String × Nat} {left : List (String × Nat)} (k : d.Invariant canon)
    (closing : d.doing = .closing why (e :: left) none) :
    Invariant canon { d.withSystem (d.system.spawn (.shutting e.2 .arriving)) with
      doing := .closing why (e :: left) (some d.system.threads.length) } := by
  have filed : d.filed = (e :: left) ++ d.loader.registry := by simp [LoaderState.filed, closing, Doing.left]
  have out : d.system.HandedOut e.2 := (k.returned e.2 (k.keyed e (by simp [filed])).1).1
  have begun : (d.withSystem (d.system.spawn (.shutting e.2 .arriving))).Invariant canon := by
    refine k.machine (.begin _ _ rfl fun n on => ?_) fun o same => ?_
    · cases on
      exact out
    · have threads := congrArg (fun s => s.threads[d.system.threads.length]?) same
      simp [System.spawn] at threads
  refine begun.onward (fun key t loading => ?_) (by simp) (filed ▸ k.unique) ?_ ?_ ?_
  · cases closing.symm.trans loading
  · exact fun e' he' => filed ▸ he'
  · exact fun e' he' _ => filed ▸ he'
  · rintro why' left' t' ⟨⟩ other
    exact k.cleared why _ none closing other

theorem ended {why : Clearing} {e : String × Nat} {left : List (String × Nat)} {r : ShutdownOutcome}
    (k : d.Invariant canon) (closing : d.doing = .closing why (e :: left) (some t))
    (ht : d.system.threads[t]? = some (.shutting e.2 (.done r))) :
    Invariant canon { d with doing := .closing why left none } := by
  have filed : d.filed = e :: (left ++ d.loader.registry) := by simp [LoaderState.filed, closing, Doing.left]
  have gone : d.system.stateOf e.2 = some .unloaded := by
    obtain ⟨-, p, path, -⟩ := k.keyed e (by simp [filed])
    have hi := List.getElem?_eq_getElem (System.there_of_pathOf path)
    have past : d.system.Over e.2 := ⟨t, r, .inl ht⟩
    rw [System.stateOf, hi, Option.map_some, past.unloaded k.run.orderly hi]
  refine k.onward (by simp [closing]) (by simp) ?_ ?_ ?_ ?_
  · have unique : Loader.Unique (e :: (left ++ d.loader.registry)) := filed ▸ k.unique
    exact unique.of_cons
  · exact fun e' he' => filed ▸ List.mem_cons_of_mem _ he'
  · intro e' he' up
    rcases List.mem_cons.mp (filed ▸ he') with rfl | rest
    · exact absurd gone up
    · exact rest
  · rintro why' left' t' ⟨⟩ other
    exact k.cleared why _ _ closing other

theorem finished {why : Clearing} (k : d.Invariant canon) (closing : d.doing = .closing why [] none) :
    Invariant canon { d with doing := .idle } := by
  have filed : d.filed = d.loader.registry := d.filed_eq (by rw [closing]; rfl)
  refine k.onward (by simp [closing]) (by simp) (filed ▸ k.unique) ?_ ?_ (by simp)
  · exact fun e he => filed ▸ he
  · exact fun e he _ => filed ▸ he

/-- Every move keeps the books. -/
theorem move (k : d.Invariant canon) (h : Move canon d d') : d'.Invariant canon := by
  cases h with
  | machine s hm own => exact k.machine hm own
  | files tree follows => exact k.files follows
  | addSearchPath dir idle => exact k.addSearchPath dir
  | get name idle => exact k
  | refuse name e idle refused => exact k
  | load name h todo idle admitted => exact k.load idle admitted
  | loaded key t o n loading ht => exact k.loaded loading ht
  | failed key t o e loading ht => exact k.failed loading ht
  | unload name e i idle he hi means => exact k.unload idle he
  | clear why order idle all => exact k.clear idle ‹_›
  | shut why e left closing => exact k.shut closing
  | ended why e left t r closing ht => exact k.ended closing ht
  | finished why closing => exact k.finished closing

theorem later (k : d.Invariant canon) (h : Later canon d d') : d'.Invariant canon := by
  induction h with
  | refl => exact k
  | tail _ hm ih => exact ih.move hm

end Invariant

theorem later_of_steps (ts : List Nat) : ∀ {d : LoaderState} {s : System}, d.system.steps ts = some s →
    Later canon d (d.withSystem s) := by
  induction ts with
  | nil =>
    intro d s h
    cases h
    exact .refl
  | cons t ts ih =>
    intro d s h
    simp only [System.steps, List.foldlM_cons, bind, Option.bind_eq_some_iff] at h
    obtain ⟨s₁, h₁, h₂⟩ := h
    refine .head (.machine d s₁ (.step _ _ t h₁) fun o same => ?_) (ih (d := d.withSystem s₁) h₂)
    exact absurd same (System.step_ne_spawn h₁ _)

theorem Run.later (h : Run canon d) (h' : Later canon d d') : Run canon d' := by
  obtain ⟨d₀, start, later⟩ := h
  exact ⟨d₀, start, later.trans h'⟩

theorem Run.kept (h : Run canon d) : d.Invariant canon := by
  obtain ⟨d₀, start, later⟩ := h
  exact start.kept.later later

end LoaderState

end ModuleHost
