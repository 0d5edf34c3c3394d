import Mathlib.Data.List.Nodup
import ModuleHost.Loader.Registry
import ModuleHost.Proofs.Instance.Calling
import ModuleHost.Proofs.Instance.Closing
import ModuleHost.Proofs.Tenancy.Rule

/-!
# What a loader opens

The path of an instance is that of its opening, and stays (`Run.pathOf_opening`, `Move.pathOf`).
`Loader.begin` finds a path, asks the registry about its canonical form, and opens the library there:
`Loader.begin_eq_ok` says what a load that is admitted has come to, `Loader.begin_eq_alreadyLoaded` when
the registry refuses one. No opening refuses for that reason (`Run.refusal`).
-/
namespace ModuleHost

open Boundary File

namespace System

variable {s s' : System} {t n : Nat} {o : Opening} {st : OpenStage}

/-! ## The paths of instances -/

/-- The path of the library of instance `n`. -/
def pathOf (s : System) (n : Nat) : Option String := s.instances[n]?.bind (·.path)

theorem there_of_pathOf {p : String} (h : s.pathOf n = some p) : n < s.instances.length := by
  simp only [pathOf, Option.bind_eq_some_iff] at h
  obtain ⟨i, hi, -⟩ := h
  exact (List.getElem?_eq_some_iff.mp hi).1

end System

theorem Task.stepOn_path {k k' : Task} {i i' : Instance} {m m' : Module} {events : List Event}
    (h : k.stepOn i m = some (k', i', m', events)) : i'.path = i.path := by
  cases k with
  | opening o st =>
    obtain ⟨st', -, late⟩ := opening_stepOn h
    cases late with
    | abandon n code σ σ' i' m' events hs | drop n code σ σ' i' m' events hs =>
      exact (ShutdownStage.step_cases hs).path
    | hook | loaded | failed | broke | abandoned | dropped | announce => rfl
  | calling c =>
    obtain ⟨c', -, transition⟩ := calling_stepOn h
    cases transition <;> rfl
  | shutting n σ | dropping n σ =>
    simp only [stepOn, Option.map_eq_some_iff, Prod.mk.injEq] at h
    obtain ⟨⟨σ', i₁, m₁, events₁⟩, hs, -, rfl, -⟩ := h
    exact (ShutdownStage.step_cases hs).path
  | hooking | visiting => cases h

namespace System

variable {s s' : System} {t n : Nat} {o : Opening} {st : OpenStage}

theorem Move.pathOf (h : Move s s') (there : n < s.instances.length) :
    s'.pathOf n = s.pathOf n := by
  cases h with
  | install | begin | again => rfl
  | step _ t hs =>
    obtain ⟨k, k', i', -, -, hi', sight⟩ := (step_cases hs).sight (List.getElem?_eq_getElem there)
    simp only [System.pathOf, hi', List.getElem?_eq_getElem there, Option.bind_some]
    cases sight with
    | aside => rfl
    | on i' m m' events hon hm hstep => exact Task.stepOn_path hstep

/-- How an instance comes to be: the opening of thread `t` makes it, for its own path. -/
theorem Move.makes (h : Move s s') (new : s.instances.length ≤ n)
    (here : n < s'.instances.length) : ∃ (t : Nat) (o : Opening) (found : Option UInt32)
      (st' : OpenStage), n = s.instances.length ∧
      s.threads[t]? = some (.opening o (.judging found)) ∧
      s'.threads[t]? = some (.opening o st') ∧ st'.on? = some n ∧ s'.pathOf n = o.path := by
  cases h with
  | install | begin | again => exact absurd here (Nat.not_lt_of_le new)
  | step _ t hs =>
    obtain ⟨i, hi⟩ : ∃ i, s'.instances[n]? = some i := ⟨_, List.getElem?_eq_getElem here⟩
    obtain ⟨o, st, st', m, m', events, ht, -, early, rfl, rfl⟩ :=
      (step_cases hs).newborn (List.getElem?_eq_none new) hi
    have there := (List.getElem?_eq_some_iff.mp ht).1
    cases early with
    | load found | skip found =>
      refine ⟨t, o, found, _, rfl, ht, List.getElem?_set_self there, rfl, ?_⟩
      simp [System.pathOf, Opening.toInstance]

theorem Run.pathOf_opening (hr : Run s) (ht : s.threads[t]? = some (.opening o st))
    (hm : (Task.opening o st).Mentions n) : s.pathOf n = o.path := by
  have key : ∀ (t : Nat) (o : Opening) (st : OpenStage) (n : Nat),
      s.threads[t]? = some (.opening o st) → (Task.opening o st).Mentions n →
      s.pathOf n = o.path := by
    refine hr.induction (P := fun s => ∀ (t : Nat) (o : Opening) (st : OpenStage) (n : Nat),
      s.threads[t]? = some (.opening o st) → (Task.opening o st).Mentions n →
      s.pathOf n = o.path) (by simp) fun s s' hr ih hm t o st' n ht mentions => ?_
    -- An opening that mentions the instance already.
    have kept : ∀ st, s.threads[t]? = some (.opening o st) → (Task.opening o st).Mentions n →
        s'.pathOf n = o.path := by
      intro st old mentions
      have there := hr.orderly.owned.known t _ n old mentions
      exact (hm.pathOf there).trans (ih t o st n old mentions)
    rcases hm.opening ht with old | ⟨rfl, -, -⟩ | ⟨st, old, opens⟩
    · exact kept st' old mentions
    · rcases mentions with none | ⟨o', none⟩ <;> cases none
    · cases opens with
      | early made m m' events hon hmod early =>
        obtain ⟨rfl, rfl⟩ := early.mentions mentions
        simp [System.pathOf, Opening.toInstance]
      | late n' i i' m m' events hon hi hmod late =>
        obtain rfl := late.mentions hon mentions
        exact kept st old (.inl hon)
  exact key t o st n ht hm

theorem Move.mentions_after (hr : Run s) (h : Move s s')
    (ht : s.threads[t]? = some (.opening o st)) (hm : (Task.opening o st).Mentions n)
    (up : s.stateOf n ≠ some .unloaded) :
    ∃ st', s'.threads[t]? = some (.opening o st') ∧
      ((Task.opening o st').Mentions n ∨ st' = .escaped) := by
  obtain ⟨st', after, same | opens⟩ := h.opening_after ht
  · subst same
    exact ⟨st', after, .inl hm⟩
  refine ⟨st', after, ?_⟩
  cases opens with
  | early made m m' events hon hmod early =>
    rcases hm with on | ⟨o', done⟩
    · cases on.symm.trans hon
    · cases done
      cases early
  | late n' i i' m m' events hon hi hmod late =>
    obtain rfl := Task.mentions_unique hm (.inl hon)
    cases late with
    | hook | loaded | failed | abandon | abandoned | drop => exact .inl (.inl hon)
    | announce => cases hon; exact .inl (.inr ⟨o, rfl⟩)
    | broke => exact .inr rfl
    | dropped n₁ c r =>
      cases hon
      have pos := standings_pos ht n
      rw [Task.standingTo_self rfl] at pos
      have down := (hr.orderly.books n i hi).ended pos
      exact absurd (by rw [System.stateOf, hi, Option.map_some, down]) up

theorem Move.handedOut (h : Move s s') (out : s.HandedOut n) : s'.HandedOut n := by
  obtain ⟨o, ho⟩ := out
  obtain ⟨t, ht⟩ := List.mem_iff_getElem?.mp ho
  obtain ⟨st', after, rfl | opens⟩ := h.opening_after ht
  · exact ⟨o, List.mem_of_getElem? after⟩
  · exact absurd rfl (opens.stage_ne _)

/-- **An opening never refuses because of another instance.** -/
theorem Run.refusal {e : HostError} (hr : Run s)
    (ht : s.threads[t]? = some (.opening o (.done (.error e)))) (name : String) :
    e ≠ .alreadyLoaded name := by
  have key : ∀ (t : Nat) (o : Opening) (e : HostError),
      s.threads[t]? = some (.opening o (.done (.error e))) → e ≠ .alreadyLoaded name := by
    refine hr.induction (P := fun s => ∀ (t : Nat) (o : Opening) (e : HostError),
      s.threads[t]? = some (.opening o (.done (.error e))) → e ≠ .alreadyLoaded name)
      (by simp) fun s s' hr ih hm t o e ht => ?_
    rcases hm.opening ht with old | ⟨new, -, -⟩ | ⟨st, old, opens⟩
    · exact ih t o e old
    · cases new
    · cases opens with
      | early made m m' events hon hmod early =>
        cases early with
        | refuse found _ refused =>
          unfold Opening.refusal? at refused
          split at refused
          · split at refused <;> cases refused
            exact fun same => by cases same
          · split at refused <;> cases refused
            exact fun same => by cases same
      | late n i i' m m' events hon hi hmod late =>
        cases late with
        | dropped => exact fun same => by cases same
  exact key t o e ht

end System

/-! ## Opening a library -/

namespace Host

/-- What opening a library does to a host: at most, the library's module appears. -/
structure Maps (h h' : Host) : Prop where
  tree : h'.tree = h.tree
  linker : h'.linker = h.linker
  system : h'.system = h.system ∨ ∃ bytes library, h.linker bytes = some library ∧
    h'.system = h.system.addModule library.module

theorem Maps.refl (h : Host) : h.Maps h := ⟨rfl, rfl, .inl rfl⟩

theorem maps_of_imageOf {h h' : Host} {name : String} {file : Nat} {bytes : Text.Bytes} {i : Image}
    (opened : h.imageOf? name file bytes = some (h', i)) : h.Maps h' := by
  unfold imageOf? at opened
  split at opened
  · cases opened
    exact ⟨rfl, rfl, .inl rfl⟩
  · simp only [Option.map_eq_some_iff, Prod.mk.injEq] at opened
    obtain ⟨library, linked, rfl, -⟩ := opened
    exact ⟨rfl, rfl, .inr ⟨bytes, library, linked, rfl⟩⟩

theorem openLibrary_spec (h : Host) (path : String) :
    (∃ h' i x, h.openLibrary path = .ok (h', i, x) ∧ h.Maps h') ∨
    h.openLibrary path = .error (.load path) ∨
    ∃ symbol, h.openLibrary path = .error (.symbolNotFound symbol path) := by
  unfold openLibrary
  simp only [bind, Except.bind]
  split
  · split
    -- The library is in memory under that name.
    · split
      · exact .inl ⟨h, _, _, rfl, .refl h⟩
      · exact .inr (.inr ⟨_, rfl⟩)
    -- The name is looked for in the tree.
    · split
      · exact .inr (.inr ⟨_, rfl⟩)
      · exact .inr (.inl rfl)
      · split
        · exact .inr (.inl rfl)
        · rename_i out opened
          split
          · exact .inl ⟨_, _, _, rfl, maps_of_imageOf opened⟩
          · exact .inr (.inr ⟨_, rfl⟩)
  · exact .inr (.inl rfl)

theorem prepare_spec (h : Host) (path : String) (requireAbi : Bool) :
    (∃ h' o, h.prepare path requireAbi = .ok (h', o) ∧ h.Maps h' ∧ o.path = some path) ∨
    h.prepare path requireAbi = .error (.load path) ∨
    ∃ symbol, h.prepare path requireAbi = .error (.symbolNotFound symbol path) := by
  unfold prepare
  rcases h.openLibrary_spec path with ⟨h', i, x, opened, maps⟩ | none | ⟨symbol, none⟩
  · rw [opened]
    exact .inl ⟨h', _, rfl, maps, rfl⟩
  · rw [none]
    exact .inr (.inl rfl)
  · rw [none]
    exact .inr (.inr ⟨symbol, rfl⟩)

end Host

namespace File.Tree

variable {t : Tree} {path : String}

/-- Whether the canonical form of a path is a function of the path, wherever it leads somewhere. -/
def Follows (t : Tree) (canon : String → String) : Prop :=
  ∀ path key, t.canonical? path = some key → key = canon path

theorem canonical?_of_exists (h : t.exists? path = true) : ∃ key, t.canonical? path = some key := by
  unfold exists? at h
  unfold canonical?
  split at h
  · exact ⟨_, rfl⟩
  · cases h

theorem follows_self (t : Tree) : t.Follows fun path => (t.canonical? path).getD path := by
  intro path key found
  simp [found]

end File.Tree

theorem lookup_of_mem {α : Type} {entries : List (String × α)} {key : String} {a : α}
    (distinct : (entries.map (·.1)).Nodup) (h : (key, a) ∈ entries) :
    entries.lookup key = some a := by
  cases found : entries.lookup key with
  | none =>
    have none := List.lookup_eq_none_iff.mp found (key, a) h
    simp at none
  | some b =>
    obtain ⟨before, after, rfl, -⟩ := List.lookup_eq_some_iff.mp found
    have there : (key, b) ∈ before ++ (key, b) :: after :=
      List.mem_append_right _ List.mem_cons_self
    exact congrArg (fun e => some e.2) (List.inj_on_of_nodup_map distinct there h rfl)

namespace Loader

variable {l : Loader} {h h' : Host} {s : System} {canon : String → String} {name path key : String}
  {n : Nat} {i : Instance} {todo : Load}

theorem exists_of_find {t : Tree} (found : l.find? t name = some path) : t.exists? path = true := by
  unfold find? at found
  split at found
  · rename_i there
    cases found
    exact there
  · exact List.find?_some found

/-! ## What the registry says of a path -/

/-- No two entries have the same key. -/
def Unique (entries : List (String × Nat)) : Prop := (entries.map (·.1)).Nodup

theorem Unique.eq {entries : List (String × Nat)} (h : Unique entries) {n' : Nat}
    (hn : (key, n) ∈ entries) (hn' : (key, n') ∈ entries) : n = n' :=
  congrArg Prod.snd (List.inj_on_of_nodup_map h hn hn' rfl)

theorem unique_register (h : Unique l.registry) (key : String) (n : Nat) :
    Unique (l.register key n).registry := by
  have kept : Unique (l.registry.filter (·.1 != key)) := h.sublist (List.filter_sublist.map _)
  simp only [Unique, register, List.map_append, List.map_cons, List.map_nil]
  refine List.Nodup.append kept (List.nodup_singleton key) fun other old new => ?_
  obtain rfl := List.mem_singleton.mp new
  simp at old

theorem mem_register {e : String × Nat} :
    e ∈ (l.register key n).registry ↔ e ∈ l.registry ∧ e.1 ≠ key ∨ e = (key, n) := by
  simp [register]

theorem unique_forget {e : String × Nat} (h : Unique l.registry) :
    Unique ([e] ++ (l.forget e.1).registry) := by
  have kept : Unique (l.registry.filter (·.1 != e.1)) := h.sublist (List.filter_sublist.map _)
  exact List.nodup_cons.mpr ⟨by simp [forget], kept⟩

theorem mem_forget {e : String × Nat} :
    e ∈ (l.forget key).registry ↔ e ∈ l.registry ∧ e.1 ≠ key := by
  simp [forget]

theorem blocking_eq_some (unique : Unique l.registry) (filed : (key, n) ∈ l.registry)
    (hi : s.instances[n]? = some i) (up : i.gate.state ≠ .unloaded) :
    l.blocking? s key = some i := by
  simp [blocking?, lookup_of_mem unique filed, hi, up]

theorem blocking_eq_none
    (down : ∀ n, (key, n) ∈ l.registry → s.stateOf n = some .unloaded) :
    l.blocking? s key = none := by
  cases found : l.registry.lookup key with
  | none => simp [blocking?, found]
  | some n =>
    obtain ⟨before, after, whole, -⟩ := List.lookup_eq_some_iff.mp found
    have gone := down n (whole ▸ List.mem_append_right _ List.mem_cons_self)
    simp only [System.stateOf, Option.map_eq_some_iff] at gone
    obtain ⟨i, hi, gone⟩ := gone
    simp [blocking?, found, hi, gone]

theorem unloaded_of_blocking (unique : Unique l.registry) (filed : (key, n) ∈ l.registry)
    (there : n < s.instances.length) (free : l.blocking? s key = none) :
    s.stateOf n = some .unloaded := by
  have hi := List.getElem?_eq_getElem there
  by_contra up
  rw [System.stateOf, hi, Option.map_some, Option.some.injEq] at up
  cases free.symm.trans (blocking_eq_some unique filed hi up)

/-! ## How a load begins -/

/-- What is found is looked up in the registry under its canonical path, and opened if nothing there
forbids it. -/
theorem begin_of_find (tree : h.tree.Follows canon) (found : l.find? h.tree name = some path) :
    l.begin h name = match l.blocking? h.system (canon path) with
      | some i => .error (.alreadyLoaded i.name)
      | none => (h.prepare path l.requireAbi).map fun (h, opening) =>
          (h, { key := canon path, opening }) := by
  obtain ⟨key, canonical⟩ := Tree.canonical?_of_exists (exists_of_find found)
  obtain rfl := tree path key canonical
  cases free : l.blocking? h.system (canon path) <;>
    simp only [begin, found, canonical, Option.getD_some, free]

theorem begin_eq_ok (tree : h.tree.Follows canon) (ok : l.begin h name = .ok (h', todo)) :
    h.Maps h' ∧ (∃ path, todo.opening.path = some path ∧ todo.key = canon path) ∧
      l.blocking? h.system todo.key = none := by
  cases found : l.find? h.tree name with
  | none => simp [begin, found] at ok
  | some path =>
    rw [begin_of_find tree found] at ok
    split at ok
    · cases ok
    · rename_i free
      rcases h.prepare_spec path l.requireAbi with ⟨h₁, o, opened, maps, of⟩ | none | ⟨symbol, none⟩
      · rw [opened] at ok
        cases ok
        exact ⟨maps, ⟨path, of, rfl⟩, free⟩
      · rw [none] at ok
        cases ok
      · rw [none] at ok
        cases ok

/-- **A load is refused as loaded already** exactly if the registry forbids it. -/
theorem begin_eq_alreadyLoaded (tree : h.tree.Follows canon)
    (found : l.find? h.tree name = some path) (other : String) :
    l.begin h name = .error (.alreadyLoaded other) ↔
      ∃ i, l.blocking? h.system (canon path) = some i ∧ i.name = other := by
  rw [begin_of_find tree found]
  cases l.blocking? h.system (canon path) with
  | some i => simp
  | none =>
    rcases h.prepare_spec path l.requireAbi with ⟨h₁, o, opened, -, -⟩ | none | ⟨symbol, none⟩
    · simp [opened, Except.map]
    · simp [none, Except.map]
    · simp [none, Except.map]

end Loader

end ModuleHost
