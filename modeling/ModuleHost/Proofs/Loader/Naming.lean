import ModuleHost.Proofs.File.Names
import ModuleHost.Proofs.Loader.Loading

/-!
# Looking up what was loaded

A load follows the file system, the search paths and the rule for the names of libraries; a look-up
and an unload compare a name with what is registered. `LoaderState.reaches_iff` says when the two
agree: the name spells a path or is bare, and no other registered instance has it. A name that is
already that of a library's file is loaded from a search path, but not found again
(`LoaderState.decorated_name_lost`).
-/
namespace ModuleHost

open Boundary File

namespace System

variable {s s' : System} {t n : Nat} {σ : ShutdownStage}

theorem Move.spawns (h : Move s s') : s.threads.length ≤ s'.threads.length := by
  cases h with
  | install => exact Nat.le_refl _
  | begin => simp [spawn]
  | again => simp [assign]
  | step _ t hs =>
    obtain ⟨k, k', -, after⟩ := step_threads hs
    simp [after]

theorem Later.spawns (h : Later s s') : s.threads.length ≤ s'.threads.length :=
  h.induction (P := fun s₁ => s.threads.length ≤ s₁.threads.length) (Nat.le_refl _)
    fun _ _ _ before hm => Nat.le_trans before hm.spawns

/-- A step of a thread that shuts an instance down: it goes on with that, and changes no other. -/
theorem step_ends (ht : s.threads[t]? = some (.shutting n σ)) (hs : s.step t = some s') :
    (∃ σ', s'.threads[t]? = some (.shutting n σ')) ∧
      ∀ k, k ≠ n → s'.instances[k]? = s.instances[k]? := by
  have here := (List.getElem?_eq_some_iff.mp ht).1
  cases step_cases hs with
  | early o st st' made m m' events hk => cases ht.symm.trans hk
  | direct k k' j m m' events hk hd =>
    cases ht.symm.trans hk
    cases hd
  | late k k' n' i i' m m' events hk hon hi hm hstep =>
    obtain rfl := Option.some.inj (ht.symm.trans hk)
    obtain rfl := Option.some.inj hon
    refine ⟨?_, fun k other => List.getElem?_set_ne (Ne.symm other)⟩
    simp only [Task.stepOn, Option.map_eq_some_iff, Prod.mk.injEq] at hstep
    obtain ⟨⟨σ', i₁, m₁, events₁⟩, -, rfl, -⟩ := hstep
    exact ⟨σ', List.getElem?_set_self here⟩

theorem Later.shutting (h : Later s s') (ht : s.threads[t]? = some (.shutting n σ)) :
    ∃ σ', s'.threads[t]? = some (.shutting n σ') := by
  refine h.induction (P := fun s₁ => ∃ σ', s₁.threads[t]? = some (.shutting n σ')) ⟨σ, ht⟩
    fun s₁ s₂ _ ⟨σ₁, ht⟩ hm => ?_
  rcases hm.task_before ht with same | ⟨c, r, isCall, -⟩ | hs
  · exact ⟨σ₁, same⟩
  · cases isCall
  · exact (step_ends ht hs).1

theorem Later.labels (h : Later s s') {i : Instance} (hi : s.instances[n]? = some i) :
    ∃ i', s'.instances[n]? = some i' ∧ i'.name = i.name ∧ i'.path = i.path := by
  refine h.induction (P := fun s₁ => ∃ i', s₁.instances[n]? = some i' ∧ i'.name = i.name ∧
    i'.path = i.path) ⟨i, hi, rfl, rfl⟩ fun s₁ s₂ _ ⟨i₁, hi₁, name, path⟩ hm => ?_
  obtain ⟨i₂, -, -, -, hi₂, make, -⟩ := hm.gate hi₁
  have there := (List.getElem?_eq_some_iff.mp hi₁).1
  have same : i₂.path = i₁.path := by
    simpa only [pathOf, hi₁, hi₂, Option.bind_some] using hm.pathOf there
  exact ⟨i₂, hi₂, make.name.trans name, same.trans path⟩

end System

namespace Loader

variable {l : Loader} {h h' : Host} {name path : String} {i : Instance} {todo : Load}

theorem opening_of_begin (ok : l.begin h name = .ok (h', todo)) : ∃ path,
    l.find? h.tree name = some path ∧ todo.opening.path = some path ∧
      todo.opening.name = moduleName path := by
  cases found : l.find? h.tree name with
  | none => simp [begin, found] at ok
  | some path =>
    simp only [begin, found] at ok
    split at ok
    · cases ok
    · simp only [Host.prepare, bind, Except.bind] at ok
      split at ok
      · cases ok
      · cases ok
        exact ⟨path, rfl, rfl, rfl⟩

theorem means_found (found : l.find? h.tree name = some path) (of : i.path = some path)
    (named : i.name = moduleName path) :
    means name i = true ↔ h.tree.exists? name = true ∨ IsBare name := by
  simp only [means, of, named, Option.any_some, Bool.or_eq_true, beq_iff_eq]
  by_cases there : h.tree.exists? name = true
  · simp only [find?, there, if_true, Option.some.injEq] at found
    simp only [found] at there ⊢
    simp only [there, or_true, true_or]
  · have elsewhere := exists_of_find found
    simp only [find?, there, Bool.false_eq_true, if_false] at found
    obtain ⟨dir, -, rfl⟩ := List.mem_map.mp (List.mem_of_find?_eq_some found)
    have moved : join dir (libraryFilename name) ≠ name := fun same => there (same ▸ elsewhere)
    rw [moduleName_eq_iff]
    simp only [there, Bool.false_eq_true, false_or]
    refine ⟨fun either => ?_, .inl⟩
    by_contra other
    exact either.elim other (ofText_join_ne moved other)

end Loader

namespace LoaderState

variable {canon : String → String} {name : String} {d d' d₁ d₂ : LoaderState} {n t : Nat}

/-- The name means instance `n`. -/
def Means (d : LoaderState) (name : String) (n : Nat) : Prop :=
  ∃ i, d.system.instances[n]? = some i ∧ Loader.means name i = true

/-! ## Unloads -/

/-- The loader when an entry has been taken out of the registry, -/
def taken (d : LoaderState) (e : String × Nat) : LoaderState :=
  { d with loader := d.loader.forget e.1, doing := .closing .unload [e] none }

/-- and when the shutdown of its instance has begun. -/
def shutting (d : LoaderState) (e : String × Nat) : LoaderState :=
  { d.withSystem (d.system.spawn (.shutting e.2 .arriving)) with
    doing := .closing .unload [e] (some d.system.threads.length) }

/-- An unload of `name` from its beginning to its end: instance `n` has been shut down on thread `t`. -/
inductive Unloads (canon : String → String) (name : String) (d : LoaderState) :
    LoaderState → Nat → Nat → Prop
  | mk (e : String × Nat) (i : Instance) (d₁ d₂ : LoaderState) (r : ShutdownOutcome) :
      d.doing = .idle → e ∈ d.loader.registry → d.system.instances[e.2]? = some i →
      Loader.means name i = true → OthersMove canon (d.taken e) d₁ →
      OthersMove canon (d₁.shutting e) d₂ →
      d₂.system.threads[d₁.system.threads.length]? = some (.shutting e.2 (.done r)) →
      Unloads canon name d { d₂ with doing := .idle } e.2 d₁.system.threads.length

theorem SameUnlessDisturbed.meanwhile (stands : d.SameUnlessDisturbed canon t d₁ n) (k : d₁.Invariant canon)
    (before : Later canon d d₁) (h : OthersMove canon d₁ d₂)
    (own : ∀ d', OthersMove canon d₁ d' → OthersMove canon d' d₂ → ∀ s, d'.system.step t = some s →
      s.instances[n]? = d'.system.instances[n]?) : d.SameUnlessDisturbed canon t d₂ n := by
  induction h with
  | refl => exact stands
  | tail earlier step ih =>
    have earlier : OthersMove canon d₁ _ := earlier
    refine (ih fun d' h h' => own d' h (h'.tail step)).move (k.later earlier.later)
      (before.trans earlier.later) step.1 (own _ earlier (.single step))

theorem Invariant.entry_eq (k : d.Invariant canon) {key key' : String} (idle : d.doing = .idle)
    (h : (key, n) ∈ d.loader.registry) (h' : (key', n) ∈ d.loader.registry) : key = key' := by
  have filed : d.filed = d.loader.registry := d.filed_eq (by rw [idle]; rfl)
  obtain ⟨-, p, path, rfl⟩ := k.keyed _ (filed ▸ h)
  obtain ⟨-, p', path', rfl⟩ := k.keyed _ (filed ▸ h')
  cases path.symm.trans path'
  rfl

/-- **An unload** takes out one instance that the name means, and shuts down no other. -/
theorem Unloads.spec (k : d.Invariant canon) (h : Unloads canon name d d' n t) :
    (∃ e ∈ d.loader.registry, e.2 = n) ∧ d.Means name n ∧ d'.system.EndedOnce n ∧
      (∀ e, e ∈ d'.loader.registry ↔ e ∈ d.loader.registry ∧ e.2 ≠ n) ∧
      ∀ m < d.system.instances.length, m ≠ n → d.SameUnlessDisturbed canon t d' m := by
  cases h with
  | mk e i d₁ d₂ r idle he hi means first second ended =>
    have filed : d.filed = d.loader.registry := d.filed_eq (by rw [idle]; rfl)
    have unique : Loader.Unique d.loader.registry := filed ▸ k.unique
    have take : Move canon d (d.taken e) := .unload d name e i idle he hi means
    have k₁ := (k.move take).later first.later
    have shut : Move canon d₁ (d₁.shutting e) := .shut d₁ .unload e [] first.doing
    have k₂ := (k₁.move shut).later second.later
    have end_ : Move canon d₂ { d₂ with doing := .closing .unload [] none } :=
      .ended d₂ .unload e [] _ r second.doing ended
    have finish : Move canon { d₂ with doing := .closing .unload [] none }
        { d₂ with doing := .idle } := .finished _ .unload rfl (by decide)
    obtain ⟨i₁, hi₁, -⟩ := first.system.labels hi
    obtain ⟨i₂, hi₂, -⟩ := second.system.labels hi₁
    have down : d₂.system.stateOf e.2 = some .unloaded := by
      have past : d₂.system.Over e.2 := ⟨_, r, .inl ended⟩
      rw [System.stateOf, hi₂, Option.map_some, past.unloaded k₂.run.orderly hi₂]
    refine ⟨⟨e, he, rfl⟩, ⟨i, hi, means⟩, k₂.run.endedOnce down, fun e' => ?_, fun m there other => ?_⟩
    · have left : d₂.loader = d.loader.forget e.1 := second.loader.trans first.loader
      rw [show ({ d₂ with doing := .idle } : LoaderState).loader = d.loader.forget e.1 from left,
        Loader.mem_forget]
      refine and_congr_right fun he' => not_congr ⟨fun key => ?_, fun same => ?_⟩
      · have mine : (e.1, e'.2) ∈ d.loader.registry := key ▸ he'
        exact unique.eq mine he
      · have mine : (e'.1, e.2) ∈ d.loader.registry := same ▸ he'
        exact k.entry_eq idle mine he
    · have k₀ := k.move take
      have early : d.SameUnlessDisturbed canon d₁.system.threads.length d₁ m := by
        have same : d.SameUnlessDisturbed canon d₁.system.threads.length (d.taken e) m := .inl rfl
        refine same.meanwhile k₀ (.single take) first fun d' _ before s hs => ?_
        -- The thread that is to shut the instance down is not there yet.
        obtain ⟨k', k'', ht, -⟩ := System.step_threads hs
        have := (List.getElem?_eq_some_iff.mp ht).1
        have := before.system.spawns
        omega
      have begun := early.still shut rfl
      have before : Later canon d (d₁.shutting e) := ((Relation.ReflTransGen.single take).trans
        first.later).tail shut
      have late : d.SameUnlessDisturbed canon d₁.system.threads.length d₂ m := by
        refine begun.meanwhile (k₁.move shut) before second fun d' since _ s hs => ?_
        have spawned : (d₁.shutting e).system.threads[d₁.system.threads.length]? =
            some (.shutting e.2 .arriving) := List.getElem?_concat_length
        obtain ⟨σ, ht⟩ := since.system.shutting spawned
        exact (System.step_ends ht hs).2 m other
      exact (late.still end_ rfl).still finish rfl

/-! ## Look-ups -/

theorem get_eq_some {order : List (String × Nat)} (all : order.Perm d.loader.registry)
    (found : { d.loader with registry := order }.get? d.system name = some n) :
    (∃ e ∈ d.loader.registry, e.2 = n) ∧ d.Means name n := by
  simp only [Loader.get?, Loader.entry?, Option.map_eq_some_iff] at found
  obtain ⟨e, found, rfl⟩ := found
  have meant := List.find?_some found
  obtain ⟨i, hi, means⟩ := (Option.any_eq_true _ _).mp meant
  exact ⟨⟨e, all.mem_iff.mp (List.mem_of_find?_eq_some found), rfl⟩, i, hi, means⟩

/-- A look-up finds an instance in whatever order the registry is kept, exactly if that is registered
and the only one that the name means. -/
theorem get_iff : (∀ order, order.Perm d.loader.registry →
      { d.loader with registry := order }.get? d.system name = some n) ↔
    (∃ e ∈ d.loader.registry, e.2 = n) ∧ d.Means name n ∧
      ∀ e ∈ d.loader.registry, d.Means name e.2 → e.2 = n := by
  constructor
  · intro found
    obtain ⟨filed, means⟩ := get_eq_some .rfl (found _ .rfl)
    refine ⟨filed, means, fun e he ⟨i, hi, meant⟩ => ?_⟩
    -- In some order this one comes first.
    have first := found (e :: d.loader.registry.erase e) (List.perm_cons_erase he).symm
    have here : (d.system.instances[e.2]?).any (Loader.means name) = true :=
      (Option.any_eq_true _ _).mpr ⟨i, hi, meant⟩
    simpa only [Loader.get?, Loader.entry?, List.find?_cons, here, Option.map_some,
      Option.some.injEq] using first
  · rintro ⟨⟨e, he, rfl⟩, ⟨i, hi, means⟩, only⟩ order all
    have some : ({ d.loader with registry := order }.get? d.system name).isSome := by
      simp only [Loader.get?, Loader.entry?, Option.isSome_map, List.find?_isSome]
      exact ⟨e, all.mem_iff.mpr he, (Option.any_eq_true _ _).mpr ⟨i, hi, means⟩⟩
    obtain ⟨n', found⟩ := Option.isSome_iff_exists.mp some
    obtain ⟨⟨e', he', rfl⟩, meant⟩ := get_eq_some all found
    rw [found, only e' he' meant]

/-! ## After a load -/

theorem Loads.found (k : d.Invariant canon) (h : Loads canon name d d' (.ok n)) :
    d'.doing = .idle ∧ ∃ path i, d.loader.find? d.host.tree name = some path ∧
      (canon path, n) ∈ d'.loader.registry ∧ d'.system.instances[n]? = some i ∧
      i.path = some path ∧ i.name = moduleName path := by
  cases h with
  | opened host todo d₁ o _ idle admitted between done =>
    obtain ⟨path, found, of, named⟩ := Loader.opening_of_begin admitted
    obtain ⟨st, made, a⟩ := (Attempt.begin k idle admitted).meanwhile between
    cases a.task.symm.trans done
    obtain ⟨i, hi, -, name_eq⟩ := a.account.here n (a.account.course.mentions (.inr ⟨_, rfl⟩))
    have path_eq : d₁.system.pathOf n = todo.opening.path :=
      a.kept.run.pathOf_opening a.task (.inr ⟨_, rfl⟩)
    have key : todo.key = canon path := by
      obtain ⟨-, ⟨p, hp, key⟩, -⟩ := Loader.begin_eq_ok k.tree admitted
      rw [key, Option.some.inj (hp.symm.trans of)]
    refine ⟨rfl, path, i, found, ?_, hi, ?_, name_eq.trans named⟩
    · exact Loader.mem_register.mpr (.inr (by rw [key]))
    · rw [← of, ← path_eq, System.pathOf, hi, Option.bind_some]

/-- **The name reaches instance `n`**: a look-up finds it, in whatever order the registry is kept, and
an unload takes it out, shuts it down, and does nothing to any other instance. -/
structure Reaches (canon : String → String) (d : LoaderState) (name : String) (n : Nat) : Prop where
  get : ∀ order, order.Perm d.loader.registry →
    { d.loader with registry := order }.get? d.system name = some n
  registered : ∃ e ∈ d.loader.registry, e.2 = n ∧ d.Means name n
  unload : ∀ d' n' t, Unloads canon name d d' n' t → n' = n ∧ d'.system.EndedOnce n ∧
    (∀ e, e ∈ d'.loader.registry ↔ e ∈ d.loader.registry ∧ e.2 ≠ n) ∧
    ∀ m < d.system.instances.length, m ≠ n → d.SameUnlessDisturbed canon t d' m

/-- **A name that was loaded reaches what the load has returned** exactly if it spelled a path or is
bare, and means no other registered instance. -/
theorem reaches_iff (hr : Run canon d) (loads : Loads canon name d d₁ (.ok n))
    (between : OthersMove canon d₁ d₂) : d₂.Reaches canon name n ↔
      (d.host.tree.exists? name = true ∨ IsBare name) ∧
        ∀ e ∈ d₂.loader.registry, d₂.Means name e.2 → e.2 = n := by
  obtain ⟨idle, path, i, found, filed, hi, of, named⟩ := loads.found hr.kept
  obtain ⟨i', hi', same, path'⟩ := between.system.labels hi
  have k₂ := ((hr.kept.later (loads.later hr.kept)).later between.later)
  have means : d₂.Means name n ↔ d.host.tree.exists? name = true ∨ IsBare name := by
    have meant := Loader.means_found found (path'.trans of) (same.trans named)
    refine ⟨fun ⟨i₂, hi₂, means⟩ => meant.mp ?_, fun either => ⟨i', hi', meant.mpr either⟩⟩
    rw [Option.some.inj (hi'.symm.trans hi₂)]
    exact means
  rw [← means]
  constructor
  · intro reaches
    exact (get_iff.mp reaches.get).2
  · rintro ⟨means, only⟩
    have filed : (canon path, n) ∈ d₂.loader.registry := between.loader ▸ filed
    refine ⟨get_iff.mpr ⟨⟨_, filed, rfl⟩, means, only⟩, ⟨_, filed, rfl, means⟩,
      fun d' n' t unloads => ?_⟩
    obtain ⟨⟨e, he, rfl⟩, meant, past, left, stands⟩ := unloads.spec k₂
    obtain rfl := only e he meant
    exact ⟨rfl, past, left, stands⟩

/-! ## A library in a directory of modules -/

def shelfTree : Tree :=
  { nodes := [(["mods"], .directory), (["mods", "libdemo.so"], .file 0 [])] }

def shelfCanon (path : String) : String := (shelfTree.canonical? path).getD path

def shelfStart : LoaderState :=
  { host := { tree := shelfTree, linker := fun _ => some { module := .sample } }
    loader := { searchPaths := ["/mods"] } }

theorem start_shelf : Start shelfCanon shelfStart :=
  ⟨rfl, Tree.follows_self shelfTree, fun bytes library linked => by cases linked; rfl, rfl, rfl, rfl⟩

def shelfImage : Image :=
  { names := ["/mods/libdemo.so"], file := 0, library := { module := .sample }, module := 0 }

/-- The library has appeared, -/
def shelfMapped : Host :=
  { shelfStart.host with system := ({} : System).addModule .sample, images := [shelfImage] }

def shelfTodo : Loader.Load :=
  { key := "/mods/libdemo.so"
    opening := { name := "demo", path := some "/mods/libdemo.so", module := 0, exports := {} } }

theorem open_shelf :
    shelfStart.host.openLibrary "/mods/libdemo.so" = .ok (shelfMapped, shelfImage, {}) := by
  have named : Linker.name? "/mods/libdemo.so" = some "/mods/libdemo.so" := rfl
  have unmapped : shelfStart.host.mappedImage? (·.names.contains "/mods/libdemo.so") = none := rfl
  have source : Linker.source shelfStart.host.tree shelfStart.host.linkerPaths "/mods/libdemo.so" =
      .file 0 [] := by decide +kernel
  simp only [Host.openLibrary, named, unmapped, source, bind, Except.bind]
  rfl

/-- and once thread 0 has opened it, it has been loaded. -/
def shelfLoaded : LoaderState :=
  let loading := shelfStart.loading shelfMapped shelfTodo
  (loading.withSystem ((loading.system.steps (List.replicate 11 0)).getD {})).settle
    "/mods/libdemo.so" (.ok 0)

theorem loads_shelf {name : String}
    (found : shelfStart.loader.find? shelfStart.host.tree name = some "/mods/libdemo.so") :
    Loads shelfCanon name shelfStart shelfLoaded (.ok 0) := by
  have canonical : shelfStart.host.tree.canonical? "/mods/libdemo.so" = some "/mods/libdemo.so" := rfl
  have admitted : shelfStart.loader.begin shelfStart.host name = .ok (shelfMapped, shelfTodo) := by
    simp only [Loader.begin, found, canonical, Option.getD_some, Host.prepare, open_shelf]
    rfl
  exact .opened shelfMapped shelfTodo _ shelfTodo.opening (.ok 0) rfl admitted
    (meanwhile_of_steps (List.replicate 11 0) rfl) rfl

/-- By its bare name, which reaches it. -/
theorem reaches_iff_sample : Run shelfCanon shelfStart ∧
    Loads shelfCanon "demo" shelfStart shelfLoaded (.ok 0) ∧
    shelfLoaded.Reaches shelfCanon "demo" 0 := by
  have run : Run shelfCanon shelfStart := ⟨shelfStart, start_shelf, .refl⟩
  have loads : Loads shelfCanon "demo" shelfStart shelfLoaded (.ok 0) := loads_shelf rfl
  refine ⟨run, loads, (reaches_iff run loads .refl).mpr ⟨.inr (by unfold IsBare; decide), ?_⟩⟩
  intro e he _
  have only : shelfLoaded.loader.registry = [("/mods/libdemo.so", 0)] := rfl
  rw [only] at he
  exact congrArg Prod.snd (List.mem_singleton.mp he)

/-- By the name of its file: it is loaded, and then neither found nor unloaded by that name. -/
theorem decorated_name_lost : Run shelfCanon shelfStart ∧
    Loads shelfCanon "libdemo.so" shelfStart shelfLoaded (.ok 0) ∧
    shelfLoaded.loader.registry = [("/mods/libdemo.so", 0)] ∧
    shelfLoaded.loader.get? shelfLoaded.system "libdemo.so" = none ∧
    ∀ d' n t, ¬ Unloads shelfCanon "libdemo.so" shelfLoaded d' n t := by
  have run : Run shelfCanon shelfStart := ⟨shelfStart, start_shelf, .refl⟩
  have loads : Loads shelfCanon "libdemo.so" shelfStart shelfLoaded (.ok 0) := loads_shelf rfl
  have only : shelfLoaded.loader.registry = [("/mods/libdemo.so", 0)] := rfl
  have kept := run.kept.later (loads.later run.kept)
  -- The name is not of a path, and the load has taken the name of the module from its file.
  have unmeant : ¬ shelfLoaded.Means "libdemo.so" 0 := by
    rintro ⟨i, hi, means⟩
    obtain ⟨-, path, i', found, -, hi', of, named⟩ := loads.found run.kept
    cases hi.symm.trans hi'
    rcases (Loader.means_found found of named).mp means with there | ⟨-, bare⟩
    · cases there
    · cases bare
  have nothing : ∀ n, (∃ e ∈ shelfLoaded.loader.registry, e.2 = n) →
      ¬ shelfLoaded.Means "libdemo.so" n := by
    rintro n ⟨e, he, rfl⟩
    rw [only] at he
    obtain rfl := List.mem_singleton.mp he
    exact unmeant
  refine ⟨run, loads, only, ?_, fun d' n t unloads => ?_⟩
  · refine Option.eq_none_iff_forall_ne_some.mpr fun n found => ?_
    obtain ⟨filed, means⟩ := get_eq_some .rfl found
    exact nothing n filed means
  · obtain ⟨filed, means, -⟩ := unloads.spec kept
    exact nothing n filed means

end LoaderState

end ModuleHost
