import ModuleHost.Proofs.Loader.State

/-!
# What the registry is good for

Results about every run of a loader, whoever else holds its instances and shuts them down:

* `LoaderState.Run.get_returned`: a look-up finds only what a load has returned.
* `LoaderState.registry_sound`: between operations each instance that a load has returned is registered
  under its canonical path or unloaded; at no moment are two instances of one canonical path not
  unloaded; a load is refused as loaded already exactly while the instance registered under its path
  is not unloaded; and once everything has been unloaded, or the loader has been given up, each
  instance that it ever returned has ended, and stays so.
-/
namespace ModuleHost

open Boundary File

namespace System

/-- Instance `n` has come to its end, and its `OnUnload` has been called once if it is exported, and
else never. -/
def EndedOnce (s : System) (n : Nat) : Prop :=
  s.Finished n ∧ ∃ i, s.instances[n]? = some i ∧
    (entries (s.instanceLog n)).count .onUnload = if i.exports.onUnload then 1 else 0

theorem Run.endedOnce {s : System} {n : Nat} (hr : Run s) (down : s.stateOf n = some .unloaded) :
    s.EndedOnce n := by
  simp only [stateOf, Option.map_eq_some_iff] at down
  obtain ⟨i, hi, down⟩ := down
  obtain ⟨released, inside, marks⟩ := (hr.endings n i hi).ending.gone down
  refine ⟨⟨i, inside, hi, down, released, marks⟩, i, hi, ?_⟩
  rw [(hr.orderly.books n i hi).count_onUnload]
  simp [down]

end System

/-- Whether no operation is under way: the last one, if there was any, has done all it has to do. -/
def Doing.AtRest : Doing → Prop
  | .idle | .closing _ [] none => True
  | _ => False

theorem Doing.AtRest.left {doing : Doing} (h : doing.AtRest) : doing.left = [] := by
  unfold AtRest at h
  split at h <;> first | rfl | cases h

theorem Doing.AtRest.not_loading {doing : Doing} (h : doing.AtRest) (key : String) (t : Nat) :
    doing ≠ .loading key t := by
  rintro rfl
  exact h

namespace LoaderState

variable {canon : String → String} {d d' : LoaderState} {n : Nat}

/-- Whether everything that was registered has been unloaded just now, by an unload of everything or
because the loader is given up. -/
def Cleared (d : LoaderState) : Prop := ∃ why, d.doing = .closing why [] none ∧ why ≠ .unload

theorem Move.unloaded (k : d.Invariant canon) (h : Move canon d d')
    (down : d.system.stateOf n = some .unloaded) : d'.system.stateOf n = some .unloaded := by
  cases h with
  | machine s hm => exact hm.unloaded k.run down
  | load name h todo idle admitted =>
    obtain ⟨maps, -, -⟩ := Loader.begin_eq_ok k.tree admitted
    rcases maps.system with same | ⟨bytes, library, -, added⟩
    · exact (congrArg (System.stateOf · n) same).trans down
    · exact (congrArg (System.stateOf · n) added).trans down
  | _ => exact down

theorem Later.unloaded (k : d.Invariant canon) (h : Later canon d d')
    (down : d.system.stateOf n = some .unloaded) : d'.system.stateOf n = some .unloaded := by
  induction h with
  | refl => exact down
  | tail earlier hm ih => exact hm.unloaded (k.later earlier) ih

/-- **A look-up finds only what a load has returned.** -/
theorem Run.get_returned (hr : Run canon d) (name : String)
    (found : d.loader.get? d.system name = some n) : n ∈ d.returned := by
  simp only [Loader.get?, Loader.entry?, Option.map_eq_some_iff] at found
  obtain ⟨e, found, rfl⟩ := found
  exact (hr.kept.keyed e (List.mem_append_right _ (List.mem_of_find?_eq_some found))).1

namespace Invariant

theorem filed_or_unloaded (k : d.Invariant canon) (rest : d.doing.AtRest) (hn : n ∈ d.returned) :
    d.system.stateOf n = some .unloaded ∨
      ∃ p, d.system.pathOf n = some p ∧ (canon p, n) ∈ d.loader.registry := by
  obtain ⟨-, p, path⟩ := k.returned n hn
  refine or_iff_not_imp_left.mpr fun up => ⟨p, path, ?_⟩
  exact d.filed_eq rest.left ▸ k.filed_of_up rest.not_loading ⟨p, path, rfl, up⟩

theorem unloaded_of_cleared (k : d.Invariant canon) (cleared : d.Cleared) (hn : n ∈ d.returned) :
    d.system.stateOf n = some .unloaded := by
  obtain ⟨why, doing, other⟩ := cleared
  rcases k.filed_or_unloaded (by simp [doing, Doing.AtRest]) hn with down | ⟨p, -, filed⟩
  · exact down
  · simp [k.cleared why [] none doing other] at filed

end Invariant

/-- What holds of a loader's registry. -/
structure Sound (canon : String → String) (d : LoaderState) : Prop where
  /-- Between operations, what has been returned is registered under its canonical path, or unloaded. -/
  filed : d.doing.AtRest → ∀ n ∈ d.returned, d.system.stateOf n = some .unloaded ∨
    ∃ p, d.system.pathOf n = some p ∧ (canon p, n) ∈ d.loader.registry
  /-- At every moment, of the instances of one canonical path at most one is not unloaded. -/
  alone : ∀ n n' p p', d.system.pathOf n = some p → d.system.pathOf n' = some p' →
    canon p = canon p' → d.system.stateOf n ≠ some .unloaded →
    d.system.stateOf n' ≠ some .unloaded → n = n'
  /-- A load of a path whose registered instance is not unloaded is refused, by that one's name, -/
  refuses : d.doing = .idle → ∀ name path n i,
    d.loader.find? d.host.tree name = some path → (canon path, n) ∈ d.loader.registry →
    d.system.instances[n]? = some i → i.gate.state ≠ .unloaded →
    d.loader.begin d.host name = .error (.alreadyLoaded i.name)
  /-- and any other goes on to open the library, -/
  admits : d.doing = .idle → ∀ name path, d.loader.find? d.host.tree name = some path →
    (∀ n, (canon path, n) ∈ d.loader.registry → d.system.stateOf n = some .unloaded) →
    d.loader.begin d.host name =
        (d.host.prepare path d.loader.requireAbi).map (fun (h, opening) =>
          (h, { key := canon path, opening })) ∧
      ∀ other, d.loader.begin d.host name ≠ .error (.alreadyLoaded other)
  /-- which is not refused for that reason later. -/
  opened : ∀ (t : Nat) (o : Opening) (e : HostError) (other : String),
    d.system.threads[t]? = some (.opening o (.done (.error e))) → e ≠ .alreadyLoaded other
  /-- Once everything has been unloaded, whatever was returned until then has ended for good. -/
  ended : d.Cleared → ∀ d', Later canon d d' → ∀ n ∈ d.returned, d'.system.EndedOnce n

/-- **The registry of a loader** loses no instance, keeps instances of one path apart, and refuses a
load exactly where it has to. -/
theorem registry_sound (hr : Run canon d) : d.Sound canon where
  filed := fun rest n hn => hr.kept.filed_or_unloaded rest hn
  alone := fun n n' p p' path path' same up up' =>
    hr.kept.alone (canon p) n n' ⟨p, path, rfl, up⟩ ⟨p', path', same.symm, up'⟩
  refuses := by
    intro idle name path n i found filed hi up
    have unique : Loader.Unique d.loader.registry :=
      d.filed_eq (by rw [idle]; rfl) ▸ hr.kept.unique
    exact (Loader.begin_eq_alreadyLoaded hr.kept.tree found i.name).mpr
      ⟨i, Loader.blocking_eq_some unique filed hi up, rfl⟩
  admits := by
    intro idle name path found down
    have free := Loader.blocking_eq_none down
    constructor
    · rw [Loader.begin_of_find hr.kept.tree found]
      have free : d.loader.blocking? d.host.system (canon path) = none := free
      rw [free]
    · intro other refused
      obtain ⟨i, blocking, -⟩ :=
        (Loader.begin_eq_alreadyLoaded hr.kept.tree found other).mp refused
      cases free.symm.trans blocking
  opened := fun t o e other ht => hr.kept.run.refusal ht other
  ended := fun cleared d' later n hn => (hr.kept.later later).run.endedOnce
    (later.unloaded hr.kept (hr.kept.unloaded_of_cleared cleared hn))

/-! ## A loader at work -/

/-- One file, whose library has the module of the short run. -/
def sampleTree : Tree := { nodes := [(["m"], .file 0 [])] }

def sampleHost : Host := { tree := sampleTree, linker := fun _ => some { module := .sample } }

/-- The canonical form of a path in that tree. -/
def sampleCanon (path : String) : String := (sampleTree.canonical? path).getD path

def sampleStart : LoaderState := { host := sampleHost, loader := { searchPaths := [] } }

theorem start_sample : Start sampleCanon sampleStart :=
  ⟨rfl, Tree.follows_self sampleTree, fun bytes library linked => by cases linked; rfl, rfl, rfl, rfl⟩

/-- The library has appeared, -/
def sampleMapped : Host :=
  { sampleHost with
    system := ({} : System).addModule .sample
    images := [{ names := ["/m"], file := 0, library := { module := .sample }, module := 0 }] }

def sampleTodo : Loader.Load :=
  { key := "/m", opening := { name := "m", path := some "/m", module := 0, exports := {} } }

theorem begin_sample : sampleStart.loader.begin sampleHost "/m" = .ok (sampleMapped, sampleTodo) :=
  rfl

/-- and thread 0 is about to open it. -/
def sampleLoading : LoaderState :=
  { sampleStart with
    host := { sampleMapped with
      system := sampleMapped.system.spawn (.opening sampleTodo.opening .arriving) }
    doing := .loading "/m" 0 }

def sampleOpened : System := (sampleLoading.system.steps (List.replicate 11 0)).getD {}

/-- It has opened instance 0, which is registered. -/
def sampleLoaded : LoaderState :=
  { sampleLoading.withSystem sampleOpened with
    loader := { searchPaths := [], registry := [("/m", 0)] }, doing := .idle, returned := [0] }

theorem run_sampleLoaded : Run sampleCanon sampleLoaded := by
  have loading : Run sampleCanon sampleLoading :=
    ⟨sampleStart, start_sample, .single (.load sampleStart "/m" _ _ rfl begin_sample)⟩
  have opened : Run sampleCanon (sampleLoading.withSystem sampleOpened) :=
    loading.later (later_of_steps (List.replicate 11 0) rfl)
  exact opened.later (.single (.loaded _ "/m" 0 sampleTodo.opening 0 rfl rfl))

/-- Everything is unloaded: instance 0 is shut down on thread 1. -/
def sampleClosing : LoaderState :=
  { sampleLoaded.withSystem (sampleLoaded.system.spawn (.shutting 0 .arriving)) with
    loader := { searchPaths := [] }, doing := .closing .unloadAll [("/m", 0)] (some 1) }

def sampleClosed : System := (sampleClosing.system.steps (List.replicate 12 1)).getD {}

def sampleCleared : LoaderState :=
  { sampleClosing.withSystem sampleClosed with doing := .closing .unloadAll [] none }

theorem run_sampleCleared : Run sampleCanon sampleCleared := by
  have cleared := run_sampleLoaded.later
    (.single (.clear _ .unloadAll [("/m", 0)] rfl (by decide) .rfl))
  have closing : Run sampleCanon sampleClosing :=
    cleared.later (.single (.shut _ .unloadAll ("/m", 0) [] rfl))
  have closed : Run sampleCanon (sampleClosing.withSystem sampleClosed) :=
    closing.later (later_of_steps (List.replicate 12 1) rfl)
  exact closed.later
    (.single (.ended _ .unloadAll ("/m", 0) [] 1 (.completed 0 true) rfl rfl))

/-- At work: a second load is refused, and after an unload of everything the instance has ended. -/
theorem registry_sound_sample :
    sampleLoaded.loader.begin sampleLoaded.host "/m" = .error (.alreadyLoaded "m") ∧
      sampleCleared.returned = [0] ∧ sampleCleared.system.EndedOnce 0 := by
  have loaded := registry_sound run_sampleLoaded
  have cleared := registry_sound run_sampleCleared
  have registered : (sampleCanon "/m", 0) ∈ sampleLoaded.loader.registry :=
    List.mem_singleton.mpr rfl
  refine ⟨loaded.refuses rfl "/m" "/m" 0 _ rfl registered rfl (by decide), rfl, ?_⟩
  exact cleared.ended ⟨.unloadAll, rfl, by decide⟩ _ .refl 0 List.mem_cons_self

end LoaderState

end ModuleHost
