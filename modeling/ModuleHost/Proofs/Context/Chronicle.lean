import ModuleHost.Proofs.Context.Inside

/-!
# The dispatches of a run

The history says that a handler was dispatched to, but not for which call. A chronicle of a module
keeps that beside a run: one record for each dispatch to the module's handler, with the host data as
the handler found them (`Chronicle`). Every run has one (`Run.chronicle`), and it has as many records
of a generation as the history has dispatches to it (`Chronicle.counted`).

`Touches` says what a move is to one module: nothing, one more thread, or a step of one thread's post in
the module's code. What is kept by all moves of a chronicle is shown for these.
-/
namespace ModuleHost

open Boundary

/-- A dispatch to a handler: of which generation, through which entry point, and on which data. -/
structure Dispatch where
  generation : Nat
  proxy : Bool
  data : CallData
  deriving DecidableEq, Repr

/-- The dispatch that an event tells of, where the thread has just come to this post. -/
def Post.dispatch? : Post → Event → Option Dispatch
  | .visit v, .handlerBegun g => some ⟨g, v.proxy, v.data⟩
  | _, _ => none

theorem Post.begun_eq_nil {σ : Post} {events : List Event}
    (h : ∀ e ∈ events, e.isDispatch = false) : events.filterMap σ.dispatch? = [] := by
  refine List.filterMap_eq_nil_iff.mpr fun e he => ?_
  have other := h e he
  cases σ <;> cases e <;> first | rfl | cases other

namespace System

variable {s s' : System} {j t : Nat} {ds : List Dispatch}

/-- What is new in the history after a move, oldest first. -/
def news (s s' : System) : List Happening :=
  (s'.history.take (s'.history.length - s.history.length)).reverse

/-- The dispatches to the handler of module `j` that begin in a move. -/
def begun (s s' : System) (j : Nat) : List Dispatch :=
  (s.news s').filterMap fun x =>
    if x.module = j then s'.threads[x.thread]?.bind fun k => k.post.dispatch? x.event else none

/-- A run and its dispatches to the handler of module `j`, in the order in which they begin. -/
inductive Chronicle (j : Nat) : System → List Dispatch → Prop
  | start : Chronicle j {} []
  | move {s s' : System} {ds : List Dispatch} :
      Chronicle j s ds → Move s s' → Chronicle j s' (ds ++ s.begun s' j)

theorem Chronicle.run (h : Chronicle j s ds) : Run s := by
  induction h with
  | start => exact .refl _
  | move _ hm ih => exact ih.move hm

theorem Run.chronicle (hr : Run s) (j : Nat) : ∃ ds, Chronicle j s ds :=
  hr.induction (P := fun s => ∃ ds, Chronicle j s ds) ⟨[], .start⟩
    fun _ _ _ ⟨_, chronicle⟩ hm => ⟨_, chronicle.move hm⟩

/-! ## Moves -/

theorem begun_same (same : s'.history = s.history) : s.begun s' j = [] := by
  simp [begun, news, same]

theorem begun_turn {module : Nat} {on : Option Nat} {k : Task} {m : Module}
    {instances : List Instance} {events : List Event} (here : t < s.threads.length) :
    s.begun (s.turn t module on k m instances events) j =
      if module = j then events.filterMap k.post.dispatch? else [] := by
  have news : s.news (s.turn t module on k m instances events) =
      events.map fun e => ⟨t, module, on, e⟩ := by
    simp only [System.news, turn_history, List.length_append, Nat.add_sub_cancel]
    rw [List.take_left, List.reverse_reverse]
  simp only [begun, news, turn_threads, List.filterMap_map, Function.comp_def,
    List.getElem?_set_self here, Option.bind_some]
  split
  · rfl
  · exact List.filterMap_none events

/-- What a move is to module `j`. -/
inductive Touches (s s' : System) (j : Nat) : Prop
  | aside (more : List Post) :
      (∀ σ ∈ more, σ.IsNew) → s'.posts j = s.posts j ++ more →
      s'.moduleLog j = s.moduleLog j → s.begun s' j = [] → s'.context j = s.context j →
      Touches s s' j
  | work (t : Nat) (σ σ' : Post) (m m' : Module) (events : List Event) :
      (s.posts j)[t]? = some σ → s.modules[j]? = some m → s'.modules[j]? = some m' →
      Post.Step m m' events σ σ' →
      m.context.Step σ.hold (contextMarks events) m'.context σ'.hold →
      s'.posts j = (s.posts j).set t σ' → s'.moduleLog j = s.moduleLog j ++ events →
      s.begun s' j = events.filterMap σ'.dispatch? → Touches s s' j

theorem posts_turn {module : Nat} {on : Option Nat} {k : Task} {m : Module}
    {instances : List Instance} {events : List Event}
    (others : ∀ k₁ ∈ s.threads, k₁.module? instances = k₁.module? s.instances) :
    (s.turn t module on k m instances events).posts j =
      (s.posts j).set t (k.postOn instances j) := by
  have same : s.threads.map (Task.postOn instances j) = s.posts j := by
    refine List.map_congr_left fun k₁ hk => ?_
    simp only [Task.postOn, others k₁ hk]
  rw [← same]
  simp [posts, List.map_set]

theorem Turn.touches (orderly : s.Orderly) (h : s.Turn t s') (j : Nat) : s.Touches s' j := by
  obtain ⟨k, k', module, on, m, m', instances, events, rfl, work, step, home'⟩ := h.post orderly
  have here := (List.getElem?_eq_some_iff.mp work.before).1
  have before : k.postOn s.instances j = if module = j then k.post else .outside := by
    simp [Task.postOn, work.home]
  have after : k'.postOn instances j = if module = j then k'.post else .outside := by
    rcases home' with home' | out
    · simp [Task.postOn, home']
    · simp [Task.postOn, out]
  have found : (s.posts j)[t]? = some (k.postOn s.instances j) := by simp [posts, work.before]
  have posts : (s.turn t module on k' m' instances events).posts j =
      (s.posts j).set t (k'.postOn instances j) := posts_turn work.others
  by_cases hj : module = j
  · subst hj
    rw [if_pos rfl] at before after
    rw [before] at found
    rw [after] at posts
    refine .work t k.post k'.post m m' events found work.found (work.found' on) step ?_ posts ?_ ?_
    · rw [k.hold_post, k'.hold_post]
      exact work.step
    · rw [moduleLog_turn, if_pos rfl]
    · rw [begun_turn here, if_pos rfl]
  · rw [if_neg hj] at before after
    rw [before] at found
    refine .aside [] (by simp) ?_ ?_ ?_ ?_
    · rw [posts, after, set_same found, List.append_nil]
    · rw [moduleLog_turn, if_neg hj, List.append_nil]
    · rw [begun_turn here, if_neg hj]
    · rw [context_turn work.found, if_neg hj]

theorem Move.touches (orderly : s.Orderly) (hm : Move s s') (j : Nat) : s.Touches s' j := by
  cases hm with
  | install m untouched =>
    exact .aside [] (by simp) (List.append_nil _).symm rfl (begun_same rfl)
      (context_addModule untouched j)
  | begin k new _ =>
    refine .aside [k.postOn s.instances j] ?_ (by simp [posts, spawn]) rfl (begun_same rfl) rfl
    intro σ hσ
    obtain rfl := List.mem_singleton.mp hσ
    unfold Task.postOn
    split
    · exact new.post
    · trivial
  | again t c d r ht done new _ =>
    have out {c : Call} (h : c.stage ≠ .inside) :
        (Task.calling c).postOn s.instances j = .outside := by
      unfold Task.postOn
      split
      · cases hs : c.stage <;> first
          | exact absurd hs h
          | simp only [Task.post, Task.hook?, Task.visit?, hs]
      · rfl
    have after : d.stage ≠ .inside := by
      obtain ⟨proxy, request, response, errand, hd⟩ := new
      rw [hd]
      simp [Call.start]
    have found : (s.posts j)[t]? = some .outside := by
      simp [posts, ht, out (c := c) (by simp [done])]
    refine .aside [] (by simp) ?_ rfl (begun_same rfl) rfl
    rw [List.append_nil]
    simp only [posts, assign, List.map_set, out after]
    exact set_same found
  | step _ t hs => exact (step_cases hs).touches orderly j

/-! ## Counting -/

theorem visit_of_handlerBegun {c c' : Context} {σ : Hold} {σ' : Post} {events : List Event} {g : Nat}
    (h : c.Step σ (contextMarks events) c' σ'.hold) (begins : .handlerBegun g ∈ events) :
    ∃ v, σ' = .visit v := by
  have mark : .handlerBegun g ∈ contextMarks events := List.mem_filter.mpr ⟨begins, rfl⟩
  generalize hmarks : contextMarks events = marks at h mark
  generalize hhold : σ'.hold = held at h
  cases h with
  | enter l v =>
    cases σ' with
    | visit v => exact ⟨v, rfl⟩
    | outside => cases hhold
    | hook hook h => cases h <;> cases hhold
  | _ => simp at mark

theorem countP_dispatch? (v : Visit) (g : Nat) (events : List Event) :
    (events.filterMap (Post.visit v).dispatch?).countP (·.generation == g) =
      events.count (.handlerBegun g) := by
  induction events with
  | nil => rfl
  | cons e events ih =>
    rw [List.count_cons, ← ih, List.filterMap_cons]
    cases e with
    | handlerBegun g' => simp [Post.dispatch?, List.countP_cons]
    | _ => simp [Post.dispatch?]

/-- **A chronicle misses no dispatch**, and has none twice. -/
theorem Chronicle.counted (h : Chronicle j s ds) (g : Nat) :
    ds.countP (·.generation == g) = (s.moduleLog j).count (.handlerBegun g) := by
  induction h with
  | start => rfl
  | @move s s' ds before hm ih =>
    rw [List.countP_append, ih]
    rcases hm.touches before.run.orderly j with
      ⟨more, -, -, log, none, -⟩ | ⟨t, σ, σ', m, m', events, -, -, -, -, step, -, log, begun⟩
    · rw [none, log]
      rfl
    · rw [begun, log, List.count_append]
      congr 1
      by_cases begins : .handlerBegun g ∈ events
      · obtain ⟨v, rfl⟩ := visit_of_handlerBegun step begins
        exact countP_dispatch? v g events
      · rw [List.count_eq_zero.mpr begins, List.countP_eq_zero]
        intro d mem same
        obtain ⟨e, he, hd⟩ := List.mem_filterMap.mp mem
        cases σ' with
        | visit v =>
          cases e <;> cases hd
          obtain rfl := beq_iff_eq.mp same
          exact begins he
        | outside | hook => cases hd

end System

end ModuleHost
