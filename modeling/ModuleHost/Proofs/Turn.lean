import Mathlib.Algebra.Group.Basic
import ModuleHost.Proofs.Run

/-!
# What one step of a thread changes

`System.step` has a branch for each kind of task, and all of them write the machine back in the same
way. `turn` is that way, with the field lemmas that the invariants need, and `step_cases` says once
which turns there are:

* `early`: an opening whose instance does not exist yet, and which may make it,
* `late`: a task that works on an instance, through `Task.stepOn`,
* `direct`: an entry point called past any instance, through `Task.stepIn`.
-/
namespace ModuleHost

open Boundary

namespace Task

/-- The step of a task that works on an instance. -/
def stepOn (i : Instance) (m : Module) : Task → Option (Task × Instance × Module × List Event)
  | .opening o s =>
    (Opening.stepLate i m s).map fun (s, i, m, events) => (.opening o s, i, m, events)
  | .calling c => (c.step i m).map fun (c, i, m, events) => (.calling c, i, m, events)
  | .shutting on s => (s.step i m).map fun (s, i, m, events) => (.shutting on s, i, m, events)
  | .dropping on s => (s.step i m).map fun (s, i, m, events) => (.dropping on s, i, m, events)
  | .hooking .. | .visiting .. => none

/-- The module of a task that calls an entry point past any instance. -/
def direct? : Task → Option Nat
  | .hooking module _ _ | .visiting module _ => some module
  | _ => none

/-- The step of a task that calls an entry point past any instance. -/
def stepIn (m : Module) : Task → Option (Task × Module × List Event)
  | .hooking module h s => (s.step h m).map fun (s, m, events) => (.hooking module h s, m, events)
  | .visiting module v => (v.step m).map fun (v, m, events) => (.visiting module v, m, events)
  | _ => none

end Task

theorem set_same {α : Type} {l : List α} {t : Nat} {a : α} (h : l[t]? = some a) : l.set t a = l := by
  obtain ⟨hlt, rfl⟩ := List.getElem?_eq_some_iff.mp h
  exact List.set_getElem_self hlt

theorem of_getElem?_set {α : Type} {l : List α} {t u : Nat} {a b : α}
    (h : (l.set t b)[u]? = some a) : u = t ∧ a = b ∨ u ≠ t ∧ l[u]? = some a := by
  rw [List.getElem?_set] at h
  split at h
  · rename_i htu
    split at h
    · exact .inl ⟨htu.symm, (Option.some.inj h).symm⟩
    · cases h
  · rename_i htu
    exact .inr ⟨Ne.symm htu, h⟩

theorem of_getElem?_concat {α : Type} {l : List α} {u : Nat} {a b : α}
    (h : (l ++ [b])[u]? = some a) : l[u]? = some a ∨ a = b ∧ u = l.length := by
  rw [List.getElem?_append] at h
  split at h
  · exact .inl h
  · rename_i past
    have last : u - l.length < 1 := (List.getElem?_eq_some_iff.mp h).1
    exact .inr ⟨List.mem_singleton.mp (List.mem_of_getElem? h), by omega⟩

theorem countP_set_add {α : Type} {l : List α} {t : Nat} {a : α} (h : l[t]? = some a) (b : α)
    (p : α → Bool) :
    (l.set t b).countP p + (if p a then 1 else 0) = l.countP p + (if p b then 1 else 0) := by
  obtain ⟨hlt, rfl⟩ := List.getElem?_eq_some_iff.mp h
  have hpos : (if p l[t] then 1 else 0) ≤ l.countP p := by
    split
    · rename_i hp
      exact List.countP_pos_iff.mpr ⟨l[t], List.getElem_mem hlt, hp⟩
    · exact Nat.zero_le _
  rw [List.countP_set hlt]
  omega

theorem sum_map_set {α M : Type} [AddCommMonoid M] (f : α → M) {a : α} :
    ∀ {l : List α} {n : Nat}, l[n]? = some a →
      ∀ b, ((l.set n b).map f).sum + f a = (l.map f).sum + f b
  | [], n, h => by cases h
  | x :: l, 0, h => by
    cases h
    intro b
    simp only [List.set_cons_zero, List.map_cons, List.sum_cons]
    rw [add_right_comm, add_comm (f b), add_right_comm]
  | x :: l, n + 1, h => by
    intro b
    have rest := sum_map_set f (l := l) (n := n) h b
    simp only [List.set_cons_succ, List.map_cons, List.sum_cons]
    rw [add_assoc, rest, add_assoc]

namespace System

/-- The machine after a step of thread `t` to task `k`, in `module`, which is now `m`. -/
def turn (s : System) (t module : Nat) (on : Option Nat) (k : Task) (m : Module)
    (instances : List Instance) (events : List Event) : System :=
  { s with modules := s.modules.set module m, instances,
           threads := s.threads.set t k }.record t module on events

section
variable (s : System) (t module : Nat) (on : Option Nat) (k : Task) (m : Module)
  (instances : List Instance) (events : List Event)

@[simp] theorem turn_modules :
    (s.turn t module on k m instances events).modules = s.modules.set module m := rfl

@[simp] theorem turn_instances :
    (s.turn t module on k m instances events).instances = instances := rfl

@[simp] theorem turn_threads :
    (s.turn t module on k m instances events).threads = s.threads.set t k := rfl

theorem history_record :
    (s.record t module on events).history =
      (events.map fun e => ⟨t, module, on, e⟩).reverse ++ s.history := by
  simp only [record]
  generalize s.history = old
  induction events generalizing old with
  | nil => rfl
  | cons e events ih => simp only [List.foldl_cons, ih, List.map_cons, List.reverse_cons,
      List.append_assoc, List.singleton_append]

@[simp] theorem turn_history :
    (s.turn t module on k m instances events).history =
      (events.map fun e => ⟨t, module, on, e⟩).reverse ++ s.history :=
  history_record _ t module on events

end

/-- The steps that there are. -/
inductive Turn (s : System) (t : Nat) : System → Prop
  | early (o : Opening) (st st' : OpenStage) (made : Option Instance) (m m' : Module)
      (events : List Event) :
      s.threads[t]? = some (.opening o st) → st.on? = none → s.modules[o.module]? = some m →
      o.stepEarly s.instances.length m st = some (st', made, m', events) →
      Turn s t (s.turn t o.module none (.opening o st') m' (s.instances ++ made.toList) events)
  | late (k k' : Task) (n : Nat) (i i' : Instance) (m m' : Module) (events : List Event) :
      s.threads[t]? = some k → k.on? = some n → s.instances[n]? = some i →
      s.modules[i.module]? = some m → k.stepOn i m = some (k', i', m', events) →
      Turn s t (s.turn t i.module (some n) k' m' (s.instances.set n i') events)
  | direct (k k' : Task) (module : Nat) (m m' : Module) (events : List Event) :
      s.threads[t]? = some k → k.direct? = some module → s.modules[module]? = some m →
      k.stepIn m = some (k', m', events) →
      Turn s t (s.turn t module none k' m' s.instances events)

theorem stepInstance_cases {s s' : System} {t n : Nat} {k : Task}
    {f : Instance → Module → Option (Task × Instance × Module × List Event)}
    (hk : s.threads[t]? = some k) (hon : k.on? = some n) (hf : ∀ i m, k.stepOn i m = f i m)
    (h : s.stepInstance t n f = some s') : s.Turn t s' := by
  simp only [stepInstance, bind, pure, Option.bind_eq_some_iff, Option.some.injEq] at h
  obtain ⟨i, hi, m, hm, ⟨k', i', m', events⟩, hstep, rfl⟩ := h
  exact .late k k' n i i' m m' events hk hon hi hm ((hf i m).trans hstep)

theorem stepModule_cases {s s' : System} {t module : Nat} {k : Task}
    {f : Module → Option (Task × Module × List Event)}
    (hk : s.threads[t]? = some k) (hd : k.direct? = some module) (hf : ∀ m, k.stepIn m = f m)
    (h : s.stepModule t module f = some s') : s.Turn t s' := by
  simp only [stepModule, bind, pure, Option.bind_eq_some_iff, Option.some.injEq] at h
  obtain ⟨m, hm, ⟨k', m', events⟩, hstep, rfl⟩ := h
  exact .direct k k' module m m' events hk hd hm ((hf m).trans hstep)

theorem step_cases {s s' : System} {t : Nat} (h : s.step t = some s') : s.Turn t s' := by
  simp only [step, bind, Option.bind_eq_some_iff] at h
  obtain ⟨k, hk, h⟩ := h
  cases k with
  | opening o st =>
    simp only at h
    split at h
    · rename_i n hn
      exact stepInstance_cases hk hn (fun i m => rfl) h
    · rename_i hn
      simp only [pure, Option.bind_eq_some_iff, Option.some.injEq] at h
      obtain ⟨m, hm, ⟨st', made, m', events⟩, hstep, rfl⟩ := h
      exact .early o st st' made m m' events hk hn hm hstep
  | calling c => exact stepInstance_cases hk rfl (fun i m => rfl) h
  | shutting n st => exact stepInstance_cases hk rfl (fun i m => rfl) h
  | dropping n st => exact stepInstance_cases hk rfl (fun i m => rfl) h
  | hooking module hook st => exact stepModule_cases hk rfl (fun m => rfl) h
  | visiting module v => exact stepModule_cases hk rfl (fun m => rfl) h

theorem step_late {s : System} {t n : Nat} {k k' : Task} {i i' : Instance} {m m' : Module}
    {events : List Event} (ht : s.threads[t]? = some k) (hon : k.on? = some n)
    (hi : s.instances[n]? = some i) (hm : s.modules[i.module]? = some m)
    (h : k.stepOn i m = some (k', i', m', events)) :
    s.step t = some (s.turn t i.module (some n) k' m' (s.instances.set n i') events) := by
  have step : ∀ f : Instance → Module → Option (Task × Instance × Module × List Event),
      f i m = k.stepOn i m → s.stepInstance t n f =
        some (s.turn t i.module (some n) k' m' (s.instances.set n i') events) := by
    intro f hf
    simp only [stepInstance, hi, hm, hf, h, bind, pure, Option.bind_some]
    rfl
  simp only [System.step, ht, bind, Option.bind_some]
  cases k with
  | opening o st =>
    have hst : st.on? = some n := hon
    simp only [hst]
    exact step _ rfl
  | calling c =>
    cases hon
    exact step _ rfl
  | shutting n' st | dropping n' st =>
    cases hon
    exact step _ rfl
  | hooking | visiting => cases hon

theorem step_direct {s : System} {t module : Nat} {k k' : Task} {m m' : Module}
    {events : List Event} (ht : s.threads[t]? = some k) (hd : k.direct? = some module)
    (hm : s.modules[module]? = some m) (h : k.stepIn m = some (k', m', events)) :
    s.step t = some (s.turn t module none k' m' s.instances events) := by
  have step : ∀ f : Module → Option (Task × Module × List Event), f m = k.stepIn m →
      s.stepModule t module f = some (s.turn t module none k' m' s.instances events) := by
    intro f hf
    simp only [stepModule, hm, hf, h, bind, pure, Option.bind_some]
    rfl
  simp only [System.step, ht, bind, Option.bind_some]
  cases k with
  | hooking module' hook st | visiting module' v =>
    cases hd
    exact step _ rfl
  | opening | calling | shutting | dropping => cases hd

theorem step_early {s : System} {t : Nat} {o : Opening} {st st' : OpenStage}
    {made : Option Instance} {m m' : Module} {events : List Event}
    (ht : s.threads[t]? = some (.opening o st)) (hon : st.on? = none)
    (hm : s.modules[o.module]? = some m)
    (h : o.stepEarly s.instances.length m st = some (st', made, m', events)) :
    s.step t =
      some (s.turn t o.module none (.opening o st') m' (s.instances ++ made.toList) events) := by
  simp only [System.step, ht, hon, hm, h, bind, pure, Option.bind_some]
  rfl

/-- A step changes the task of one thread. -/
theorem step_threads {s s' : System} {t : Nat} (h : s.step t = some s') :
    ∃ k k', s.threads[t]? = some k ∧ s'.threads = s.threads.set t k' := by
  cases step_cases h with
  | early o st st' made m m' events ht | late k k' n i i' m m' events ht
  | direct k k' module m m' events ht => exact ⟨_, _, ht, rfl⟩

theorem step_ne_spawn {s s' : System} {t : Nat} (h : s.step t = some s') (k : Task) :
    s' ≠ s.spawn k := by
  rintro rfl
  obtain ⟨k₀, k', -, after⟩ := step_threads h
  have length := congrArg List.length after
  simp [spawn] at length

namespace Move

variable {s s' : System} {t : Nat}

/-- A thread that does not step goes on with its task, unless it makes another call. -/
theorem task_before {k : Task} (h : Move s s') (ht : s.threads[t]? = some k) :
    s'.threads[t]? = some k ∨ (∃ c r, k = .calling c ∧ c.stage = .done r) ∨
      s.step t = some s' := by
  cases h with
  | install m _ => exact .inl ht
  | begin k₀ _ _ =>
    have old := (List.getElem?_eq_some_iff.mp ht).1
    exact .inl ((List.getElem?_append_left old).trans ht)
  | again u c d r hu hdone _ _ =>
    by_cases hut : u = t
    · subst hut
      exact .inr (.inl ⟨c, r, Option.some.inj (ht.symm.trans hu), hdone⟩)
    · exact .inl ((List.getElem?_set_ne hut).trans ht)
  | step _ u hs =>
    by_cases hut : u = t
    · subst hut
      exact .inr (.inr hs)
    · obtain ⟨k₁, k', -, after⟩ := step_threads hs
      rw [after]
      exact .inl ((List.getElem?_set_ne hut).trans ht)

/-- Where a task comes from: it was there, or it is new, or its thread has stepped. -/
theorem task_after {k' : Task} (h : Move s s') (ht : s'.threads[t]? = some k') :
    s.threads[t]? = some k' ∨ k'.IsNew ∨ s.step t = some s' := by
  cases h with
  | install m _ => exact .inl ht
  | begin k₀ hnew _ =>
    rcases of_getElem?_concat ht with ht | ⟨rfl, -⟩
    · exact .inl ht
    · exact .inr (.inl hnew)
  | again u c d r hu _ hnew _ =>
    rcases of_getElem?_set ht with ⟨-, rfl⟩ | ⟨-, ht⟩
    · exact .inr (.inl hnew)
    · exact .inl ht
  | step _ u hs =>
    by_cases hut : u = t
    · subst hut
      exact .inr (.inr hs)
    · obtain ⟨k₁, k₂, -, after⟩ := step_threads hs
      rw [after] at ht
      exact .inl ((List.getElem?_set_ne hut).symm.trans ht)

end Move

end System

end ModuleHost
