import Mathlib.Algebra.BigOperators.Group.List.Basic
import Mathlib.Data.List.TakeWhile
import ModuleHost.Proofs.Context.Chronicle

/-!
# What is written while a value is there

A handler value has a lifetime in its module, from where it is built to where it is dropped;
`written` are the pieces of text printed in that time. They come from the handlers that run on the
value (`Post.serves` is what one still puts out) and from the thread that shuts it down and drops it
(`Post.closes?`). An `OutputState` is what is seen of one module at one point of a chronicle, and
`OutputState.Sound` what is in order there whatever the module's code: the value in the slot is built and
not dropped, whoever shuts a value down is alone, and where no reader is counted no handler is left
that puts anything out.
-/
namespace ModuleHost

open Text Boundary

/-! ## Posts -/

namespace Post

/-- What the handler that runs there still puts out. -/
def serves : Post → Output
  | .visit v =>
    match v.stage with
    | .running _ p => p.output v.data
    | _ => 0
  | .outside | .hook .. => 0

/-- The generation of the value that is shut down or dropped there, and what is still printed. -/
def closes? : Post → Option (Nat × List String)
  | .hook _ (.closing v p) => some (v.generation, p.texts)
  | .hook _ (.dropping v p) => some (v.generation, p.texts)
  | _ => none

/-- Whether nothing is put out there. -/
structure Idle (σ : Post) : Prop where
  serves : σ.serves = 0
  closes : σ.closes? = none
  reads : σ.hold.reads = false

theorem serves_of_reads {σ : Post} (reads : σ.hold.reads = false) : σ.serves = 0 := by
  cases σ with
  | visit v =>
    cases hv : v.stage with
    | running g p =>
      simp only [hold, hv, VisitStage.hold] at reads
      cases reads
    | _ => simp only [serves, hv]
  | outside | hook => rfl

theorem idle_of_hold {σ : Post} (reads : σ.hold.reads = false)
    (closes : ∀ g, σ.hold.tearsDown g = false) : σ.Idle := by
  refine ⟨serves_of_reads reads, ?_, reads⟩
  cases σ with
  | hook hook h =>
    cases h with
    | closing v p | dropping v p =>
      have none := closes v.generation
      simp [hold, HookStage.hold, Hold.tearsDown] at none
    | _ => rfl
  | outside | visit => rfl

theorem idle_of_free {σ : Post} (free : σ.hold = .free) : σ.Idle :=
  idle_of_hold (by rw [free]; rfl) fun g => by rw [free]; rfl

/-- A request entry point puts something out only while its handler runs. -/
theorem idle_visit {v : Visit} (reads : v.stage.hold.reads = false) : (Post.visit v).Idle := by
  refine idle_of_hold reads fun g => ?_
  cases hv : v.stage <;> simp only [hold, hv, VisitStage.hold, Hold.tearsDown]

theorem hold_of_closes {σ : Post} {g : Nat} {rest : List String}
    (h : σ.closes? = some (g, rest)) :
    σ.hold = .closing g ∨ σ.hold = .dropping g := by
  unfold closes? at h
  split at h
  · cases h
    exact .inl rfl
  · cases h
    exact .inr rfl
  · cases h

end Post

/-! ## What is written -/

/-- What happened in a module while it had the value of a generation: from where that was built to
where it was dropped. -/
def lifetime (g : Nat) (log : List Event) : List Event :=
  (log.takeWhile (· != .dropped g)).dropWhile (· != .built g)

/-- What was printed in that time. -/
def written (g : Nat) (log : List Event) : List String := pieces (lifetime g log)

section
variable {g : Nat} {log more : List Event}

theorem bne_of_not_mem {e : Event} (h : e ∉ log) : ∀ e' ∈ log, (e' != e) = true :=
  fun _ mem => bne_iff_ne.mpr fun same => h (same ▸ mem)

theorem lifetime_of_not_mem (there : .dropped g ∉ log) :
    lifetime g log = log.dropWhile (· != .built g) := by
  rw [lifetime, List.takeWhile_eq_self_iff.mpr (bne_of_not_mem there)]

/-- Nothing is written for a value after it was dropped. -/
theorem written_dropped (gone : .dropped g ∈ log) : written g (log ++ more) = written g log := by
  have cut : (log ++ more).takeWhile (· != .dropped g) = log.takeWhile (· != .dropped g) := by
    rw [List.takeWhile_append, if_neg]
    intro whole
    have all := (List.takeWhile_prefix (l := log) (· != .dropped g)).eq_of_length whole
    exact absurd (List.takeWhile_eq_self_iff.mp all _ gone) (by simp)
  rw [written, written, lifetime, lifetime, cut]

theorem written_append (born : .built g ∈ log) (there : .dropped g ∉ log)
    (still : .dropped g ∉ more) : written g (log ++ more) = written g log ++ pieces more := by
  have both : Event.dropped g ∉ log ++ more := fun mem => (List.mem_append.mp mem).elim there still
  rw [written, written, lifetime_of_not_mem both, lifetime_of_not_mem there, List.dropWhile_append,
    if_neg, pieces_append]
  intro none
  have unborn := List.dropWhile_eq_nil_iff.mp (List.isEmpty_iff.mp none) _ born
  simp at unborn

theorem written_drop (there : .dropped g ∉ log) :
    written g (log ++ [.dropped g]) = written g log := by
  have cut : (log ++ [Event.dropped g]).takeWhile (· != .dropped g) = log := by
    rw [List.takeWhile_append_of_pos (bne_of_not_mem there), List.takeWhile_cons_of_neg (by simp),
      List.append_nil]
  rw [written, written, lifetime_of_not_mem there, lifetime, cut]

theorem written_built (unborn : .built g ∉ log) (there : .dropped g ∉ log)
    (still : .dropped g ∉ more) : written g (log ++ .built g :: more) = pieces more := by
  have both : Event.dropped g ∉ log ++ .built g :: more := by simp [there, still]
  have before : log.dropWhile (· != .built g) = [] :=
    List.dropWhile_eq_nil_iff.mpr (bne_of_not_mem unborn)
  rw [written, lifetime_of_not_mem both, List.dropWhile_append, before,
    List.dropWhile_cons_of_neg (by simp)]
  rfl

end

/-! ## The state of the output -/

/-- One module in a chronicle: its context, what the threads do in its code, what happened there, and
the dispatches so far. -/
structure OutputState where
  context : Context
  posts : List Post
  log : List Event
  dispatches : List Dispatch

namespace OutputState

variable {b : OutputState} {t u g : Nat} {σ τ : Post} {v : HandlerValue} {rest rest' : List String}

/-- What is in order in every chronicle, whatever the module's code. -/
structure Sound (b : OutputState) : Prop where
  locks : Locks b.context.lock.claimed b.context.lock.readers b.context.slot.value?
    (b.posts.map Post.hold)
  page : ∀ g, Page g b.context.slot.value? b.context.lock.readers b.context.generation
    (b.posts.map Post.hold) b.log
  counted : ∀ g, b.dispatches.countP (·.generation == g) = b.log.count (.handlerBegun g)

theorem Sound.live (sound : b.Sound) (slot : b.context.slot = .live v) :
    .built v.generation ∈ b.log ∧ .dropped v.generation ∉ b.log := by
  have page := sound.page v.generation
  rw [slot] at page
  obtain ⟨built, -, dropped⟩ := page.held
  exact ⟨List.count_pos_iff.mp (by omega), List.count_eq_zero.mp dropped⟩

theorem hold_mem (mem : σ ∈ b.posts) : σ.hold ∈ b.posts.map Post.hold := List.mem_map_of_mem mem

theorem hold_getElem? (found : b.posts[t]? = some σ) :
    (b.posts.map Post.hold)[t]? = some σ.hold := by
  rw [List.getElem?_map, found]
  rfl

theorem Sound.closing_slot (sound : b.Sound) (mem : σ ∈ b.posts)
    (closes : σ.closes? = some (g, rest)) : b.context.slot.value? = none := by
  have writes : σ.hold.writes = true := by
    rcases Post.hold_of_closes closes with h | h <;> rw [h] <;> rfl
  exact (sound.locks.writer (List.countP_pos_iff.mpr ⟨_, hold_mem mem, writes⟩)).2

theorem Sound.closing (sound : b.Sound) (mem : σ ∈ b.posts)
    (closes : σ.closes? = some (g, rest)) : .built g ∈ b.log ∧ .dropped g ∉ b.log := by
  have tears : σ.hold.tearsDown g = true := by
    rcases Post.hold_of_closes closes with h | h <;> simp [h, Hold.tearsDown]
  have one : 0 < (b.posts.map Post.hold).countP (Hold.tearsDown g) :=
    List.countP_pos_iff.mpr ⟨_, hold_mem mem, tears⟩
  obtain ⟨-, built, closed, dropped, -, -⟩ := sound.page g
  rw [sound.closing_slot mem closes, if_neg (by simp)] at closed
  split at built
  · exact ⟨List.count_pos_iff.mp (by omega), List.count_eq_zero.mp (by omega)⟩
  · omega

/-- Whoever shuts a value down is the only one who has claimed the lock. -/
theorem Sound.alone (sound : b.Sound) (ht : b.posts[t]? = some σ) (claims : σ.hold.claims = true)
    (hu : b.posts[u]? = some τ) (closes : τ.closes? = some (g, rest)) : u = t := by
  have claims' : τ.hold.claims = true := by
    rcases Post.hold_of_closes closes with h | h <;> rw [h] <;> rfl
  exact sound.locks.claimant_unique (hold_getElem? ht) claims (hold_getElem? hu) claims'

theorem Sound.unborn (sound : b.Sound) (later : b.context.generation < g) :
    .built g ∉ b.log ∧ .dropped g ∉ b.log ∧ ∀ d ∈ b.dispatches, d.generation ≠ g := by
  obtain ⟨-, built, closed, dropped, -, unborn⟩ := sound.page g
  rw [if_neg (by omega)] at built
  refine ⟨List.count_eq_zero.mp built, List.count_eq_zero.mp (by omega), fun d mem same => ?_⟩
  have some : 0 < b.dispatches.countP (·.generation == g) :=
    List.countP_pos_iff.mpr ⟨d, mem, beq_iff_eq.mpr same⟩
  rw [sound.counted g, unborn later] at some
  exact Nat.lt_irrefl 0 some

theorem Sound.readers (sound : b.Sound) :
    b.posts.countP (·.hold.reads) ≤ b.context.lock.readers := by
  have counted := sound.locks.counted
  rwa [List.countP_map] at counted

/-- Where no reader is counted, no handler puts anything out. -/
theorem Sound.silent (sound : b.Sound) (none : b.context.lock.readers = 0) :
    (b.posts.map Post.serves).sum = 0 := by
  refine List.sum_eq_zero fun o mem => ?_
  obtain ⟨σ, hσ, rfl⟩ := List.mem_map.mp mem
  have locks := sound.locks
  rw [none] at locks
  cases reads : σ.hold.reads with
  | false => exact Post.serves_of_reads reads
  | true =>
    have one : 0 < (b.posts.map Post.hold).countP Hold.reads :=
      List.countP_pos_iff.mpr ⟨_, hold_mem hσ, reads⟩
    have counted := locks.counted
    omega

/-- The state of the output after a step of thread `t`. -/
def after (b : OutputState) (t : Nat) (σ' : Post) (c' : Context) (events : List Event) : OutputState :=
  ⟨c', b.posts.set t σ', b.log ++ events, b.dispatches ++ events.filterMap σ'.dispatch?⟩

end OutputState

namespace System

/-- Module `j` in a chronicle. -/
def outputState (s : System) (j : Nat) (ds : List Dispatch) : OutputState :=
  ⟨s.context j, s.posts j, s.moduleLog j, ds⟩

theorem Chronicle.sound {s : System} {j : Nat} {ds : List Dispatch} (h : Chronicle j s ds) :
    (s.outputState j ds).Sound := by
  have locks := (h.run.sound j).locks
  have page := h.run.page j
  simp only [contextState, holds_eq_posts] at locks page
  exact ⟨locks, page, h.counted⟩

end System

end ModuleHost
