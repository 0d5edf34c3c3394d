import ModuleHost.Proofs.Context.Locks

/-!
# The ledger of a module

A `Page` of the ledger is about one generation `g`: how often its value was built, shut down and
dropped, and how many dispatches it began and ended, against the value in the slot, the lock's
readers and the threads that tear the value down. `Totals` adds up over all generations. Both are
kept by every step of a thread that keeps the lock discipline.
-/
namespace ModuleHost

namespace Event

/-- The generation that a context mark is about. -/
def generation? : Event → Option Nat
  | .built g | .handlerBegun g | .handlerEnded g | .shutdownBegun g | .dropped g => some g
  | _ => none

def isBuilt : Event → Bool
  | .built _ => true
  | _ => false

def isShutdown : Event → Bool
  | .shutdownBegun _ => true
  | _ => false

def isDispatch : Event → Bool
  | .handlerBegun _ => true
  | _ => false

end Event

theorem count_append_of_ne {marks more : List Event} {g : Nat} {e : Event}
    (he : e.generation? = some g) (quiet : ∀ e' ∈ more, e'.generation? ≠ some g) :
    (marks ++ more).count e = marks.count e := by
  rw [List.count_append, List.count_eq_zero.mpr fun mem => quiet e mem he, Nat.add_zero]

theorem count_snoc (marks : List Event) (e : Event) :
    (marks ++ [e]).count e = marks.count e + 1 := by
  rw [List.count_append, List.count_singleton_self]

theorem count_snoc_of_ne {marks : List Event} {e e' : Event} (h : e' ≠ e) :
    (marks ++ [e']).count e = marks.count e := by
  rw [List.count_append, List.count_singleton, if_neg (by simpa using h), Nat.add_zero]

structure Page (g : Nat) (value : Option Nat) (readers generation : Nat) (holds : List Hold)
    (marks : List Event) : Prop where
  current : value = some g → g = generation
  built : marks.count (.built g) = if 1 ≤ g ∧ g ≤ generation then 1 else 0
  closed : marks.count (.shutdownBegun g) + (if value = some g then 1 else 0) =
    marks.count (.built g)
  dropped : marks.count (.dropped g) + holds.countP (Hold.tearsDown g) =
    marks.count (.shutdownBegun g)
  served : marks.count (.handlerBegun g) =
    marks.count (.handlerEnded g) + if value = some g then readers else 0
  unborn : generation < g → marks.count (.handlerBegun g) = 0

namespace Page

variable {g readers generation : Nat} {value : Option Nat} {holds holds' : List Hold}
  {marks more : List Event}

theorem still (p : Page g value readers generation holds marks)
    (same : holds'.countP (Hold.tearsDown g) = holds.countP (Hold.tearsDown g))
    (quiet : ∀ e ∈ more, e.generation? ≠ some g) :
    Page g value readers generation holds' (marks ++ more) := by
  have count : ∀ e : Event, e.generation? = some g → (marks ++ more).count e = marks.count e :=
    fun e he => count_append_of_ne he quiet
  obtain ⟨current, built, closed, dropped, served, unborn⟩ := p
  refine ⟨current, ?_, ?_, ?_, ?_, ?_⟩
  · rw [count _ rfl, built]
  · rw [count _ rfl, count _ rfl, closed]
  · rw [count _ rfl, count _ rfl, same, dropped]
  · rw [count _ rfl, count _ rfl, served]
  · rw [count _ rfl]
    exact unborn

theorem built_of_mem (p : Page g value readers generation holds marks)
    (h : .built g ∈ marks) : marks.count (.built g) = 1 := by
  have pos := List.count_pos_iff.mpr h
  have built := p.built
  split at built <;> omega

/-- The value in the slot was built once, and is neither shut down nor dropped. -/
theorem held (p : Page g (some g) readers generation holds marks) :
    marks.count (.built g) = 1 ∧ marks.count (.shutdownBegun g) = 0 ∧
      marks.count (.dropped g) = 0 := by
  have built := p.built
  have closed := p.closed
  have dropped := p.dropped
  rw [if_pos rfl] at closed
  split at built <;> omega

/-- A page that the slot is not about says the same of any slot, lock and generation that are not
about it. -/
theorem elsewhere {value' : Option Nat} {readers' generation' : Nat}
    (p : Page g value readers generation holds marks) (hv : value ≠ some g) (hv' : value' ≠ some g)
    (hgen : g ≤ generation' ↔ g ≤ generation) :
    Page g value' readers' generation' holds marks := by
  obtain ⟨-, built, closed, dropped, served, unborn⟩ := p
  rw [if_neg hv] at closed served
  refine ⟨fun h => absurd h hv', by simp only [built, hgen], by rw [if_neg hv', closed], dropped,
    by rw [if_neg hv', served], fun h => unborn ?_⟩
  omega

theorem build (p : Page g none 0 generation holds marks)
    (same : holds'.countP (Hold.tearsDown g) = holds.countP (Hold.tearsDown g)) :
    Page g (some (generation + 1)) 0 (generation + 1) holds'
      (marks ++ [.built (generation + 1)]) := by
  by_cases hg : g = generation + 1
  · subst hg
    obtain ⟨-, built, closed, dropped, served, unborn⟩ := p
    have none := unborn (by omega)
    rw [if_neg (by omega)] at built
    rw [if_neg (by simp)] at closed served
    refine ⟨fun _ => rfl, ?_, ?_, ?_, ?_, fun h => by omega⟩
    · rw [count_snoc, if_pos (by omega)]
      omega
    · rw [count_snoc_of_ne (by simp), count_snoc, if_pos rfl]
      omega
    · rw [count_snoc_of_ne (by simp), count_snoc_of_ne (by simp), same]
      omega
    · rw [count_snoc_of_ne (by simp), count_snoc_of_ne (by simp), if_pos rfl]
      omega
  · have other : some (generation + 1) ≠ some g := by simpa using Ne.symm hg
    refine (p.elsewhere (by simp) other (by omega)).still same ?_
    simpa [Event.generation?] using Ne.symm hg

theorem close {g' : Nat} (p : Page g (some g') 0 generation holds marks)
    (more : holds'.countP (Hold.tearsDown g) =
      holds.countP (Hold.tearsDown g) + if g' = g then 1 else 0) :
    Page g none 0 generation holds' (marks ++ [.shutdownBegun g']) := by
  by_cases hg : g' = g
  · subst hg
    obtain ⟨-, built, closed, dropped, served, unborn⟩ := p
    rw [if_pos rfl] at closed served more
    refine ⟨by simp, ?_, ?_, ?_, ?_, ?_⟩
    · rw [count_snoc_of_ne (by simp)]
      exact built
    · rw [count_snoc, count_snoc_of_ne (by simp), if_neg (by simp)]
      omega
    · rw [count_snoc_of_ne (by simp), count_snoc, more]
      omega
    · rw [count_snoc_of_ne (by simp), count_snoc_of_ne (by simp), if_neg (by simp)]
      omega
    · rw [count_snoc_of_ne (by simp)]
      exact unborn
  · rw [if_neg hg] at more
    refine (p.elsewhere (by simpa using hg) (by simp) Iff.rfl).still more ?_
    simpa [Event.generation?] using hg

theorem finish {g' : Nat} (p : Page g value readers generation holds marks)
    (less : holds'.countP (Hold.tearsDown g) + (if g' = g then 1 else 0) =
      holds.countP (Hold.tearsDown g)) :
    Page g value readers generation holds' (marks ++ [.dropped g']) := by
  by_cases hg : g' = g
  · subst hg
    obtain ⟨current, built, closed, dropped, served, unborn⟩ := p
    rw [if_pos rfl] at less
    refine ⟨current, ?_, ?_, ?_, ?_, ?_⟩
    · rw [count_snoc_of_ne (by simp)]
      exact built
    · rw [count_snoc_of_ne (by simp), count_snoc_of_ne (by simp)]
      exact closed
    · rw [count_snoc, count_snoc_of_ne (by simp)]
      omega
    · rw [count_snoc_of_ne (by simp), count_snoc_of_ne (by simp)]
      exact served
    · rw [count_snoc_of_ne (by simp)]
      exact unborn
  · rw [if_neg hg] at less
    exact p.still less (by simpa [Event.generation?] using hg)

theorem enter {g' : Nat} (p : Page g (some g') readers generation holds marks)
    (same : holds'.countP (Hold.tearsDown g) = holds.countP (Hold.tearsDown g)) :
    Page g (some g') (readers + 1) generation holds' (marks ++ [.handlerBegun g']) := by
  by_cases hg : g' = g
  · subst hg
    obtain ⟨current, built, closed, dropped, served, unborn⟩ := p
    have now := current rfl
    rw [if_pos rfl] at closed served
    refine ⟨current, ?_, ?_, ?_, ?_, fun h => by omega⟩
    · rw [count_snoc_of_ne (by simp)]
      exact built
    · rw [count_snoc_of_ne (by simp), count_snoc_of_ne (by simp), if_pos rfl]
      exact closed
    · rw [count_snoc_of_ne (by simp), count_snoc_of_ne (by simp), same]
      exact dropped
    · rw [count_snoc, count_snoc_of_ne (by simp), if_pos rfl]
      omega
  · have other : some g' ≠ some g := by simpa using hg
    refine (p.elsewhere other other Iff.rfl).still same ?_
    simpa [Event.generation?] using hg

theorem leave {g' : Nat} (p : Page g (some g') readers generation holds marks)
    (counted : 0 < readers)
    (same : holds'.countP (Hold.tearsDown g) = holds.countP (Hold.tearsDown g)) :
    Page g (some g') (readers - 1) generation holds' (marks ++ [.handlerEnded g']) := by
  by_cases hg : g' = g
  · subst hg
    obtain ⟨current, built, closed, dropped, served, unborn⟩ := p
    rw [if_pos rfl] at closed served
    refine ⟨current, ?_, ?_, ?_, ?_, ?_⟩
    · rw [count_snoc_of_ne (by simp)]
      exact built
    · rw [count_snoc_of_ne (by simp), count_snoc_of_ne (by simp), if_pos rfl]
      exact closed
    · rw [count_snoc_of_ne (by simp), count_snoc_of_ne (by simp), same]
      exact dropped
    · rw [count_snoc_of_ne (by simp), count_snoc, if_pos rfl]
      omega
    · rw [count_snoc_of_ne (by simp)]
      exact unborn
  · have other : some g' ≠ some g := by simpa using hg
    refine (p.elsewhere other other Iff.rfl).still same ?_
    simpa [Event.generation?] using hg

theorem step {c c' : Context} {t : Nat} {σ σ' : Hold}
    (p : Page g c.slot.value? c.lock.readers c.generation holds marks)
    (locks : Locks c.lock.claimed c.lock.readers c.slot.value? holds) (found : holds[t]? = some σ)
    (hs : c.Step σ more c' σ') :
    Page g c'.slot.value? c'.lock.readers c'.generation (holds.set t σ') (marks ++ more) := by
  have tears := countP_set_add found σ' (Hold.tearsDown g)
  have mine := List.mem_of_getElem? found
  cases hs with
  | stay slot _ hphase hvalue =>
    rw [set_same found]
    show Page g slot.value? c.lock.readers c.generation holds _
    rw [hvalue]
    exact p.still rfl (by simp)
  | claim l hl =>
    obtain ⟨-, rfl⟩ := Lock.claim?_eq_some hl
    exact p.still (by simpa [Hold.tearsDown] using tears) (by simp)
  | start hzero hnone =>
    exact p.still (by simpa [Hold.tearsDown] using tears) (by simp [Event.generation?])
  | built =>
    obtain ⟨hzero, hnone⟩ := locks.writer (List.countP_pos_iff.mpr ⟨_, mine, rfl⟩)
    rw [hnone, hzero] at p
    show Page g (some (c.generation + 1)) c.lock.readers (c.generation + 1) _ _
    rw [hzero]
    exact p.build (by simpa [Hold.tearsDown] using tears)
  | failed =>
    obtain ⟨hzero, hnone⟩ := locks.writer (List.countP_pos_iff.mpr ⟨_, mine, rfl⟩)
    rw [hnone] at p
    exact p.still (by simpa [Hold.tearsDown] using tears) (by simp [Event.generation?])
  | pass slot hzero hslot =>
    have hvalue : slot.value? = c.slot.value? := by
      rcases hslot with rfl | ⟨fresh, rfl⟩
      · rfl
      · rw [fresh]
        rfl
    show Page g slot.value? c.lock.readers c.generation _ _
    rw [hvalue]
    exact p.still (by simpa [Hold.tearsDown] using tears) (by simp)
  | close v hzero hv =>
    rw [show c.slot.value? = some v.generation by rw [hv]; rfl, hzero] at p
    show Page g none c.lock.readers c.generation _ _
    rw [hzero]
    exact p.close (by simpa [Hold.tearsDown] using tears)
  | drop g' =>
    exact p.still (by simpa [Hold.tearsDown] using tears) (by simp)
  | finish g' =>
    exact p.finish (by simpa [Hold.tearsDown] using tears)
  | enter l v hl hv =>
    obtain ⟨-, rfl⟩ := Lock.acquireRead?_eq_some hl
    have hvalue : c.slot.value? = some v.generation := by rw [hv]; rfl
    show Page g c.slot.value? (c.lock.readers + 1) c.generation _ _
    rw [hvalue] at p ⊢
    exact p.enter (by simpa [Hold.tearsDown] using tears)
  | leave g' =>
    have hvalue := locks.reading g' mine
    have counted : 0 < c.lock.readers :=
      Nat.lt_of_lt_of_le (countP_reads_pos mine) locks.counted
    show Page g c.slot.value? (c.lock.readers - 1) c.generation _ _
    rw [hvalue] at p ⊢
    exact p.leave counted (by simpa [Hold.tearsDown] using tears)
  | broke | abandon =>
    exact p.still (by simpa [Hold.tearsDown] using tears) (by simp)

end Page

/-- All generations together. -/
structure Totals (value : Option Nat) (generation calls : Nat) (marks : List Event) : Prop where
  builds : marks.countP Event.isBuilt = generation
  closes : marks.countP Event.isShutdown + (if value.isSome then 1 else 0) = generation
  dispatches : marks.countP Event.isDispatch = calls

theorem Totals.step {c c' : Context} {holds : List Hold} {marks more : List Event} {t : Nat}
    {σ σ' : Hold} (h : Totals c.slot.value? c.generation c.calls marks)
    (locks : Locks c.lock.claimed c.lock.readers c.slot.value? holds) (found : holds[t]? = some σ)
    (hs : c.Step σ more c' σ') :
    Totals c'.slot.value? c'.generation c'.calls (marks ++ more) := by
  obtain ⟨builds, closes, dispatches⟩ := h
  have mine := List.mem_of_getElem? found
  -- A mark of no kind that is added up, where the slot keeps its value.
  have still : ∀ more : List Event, more.countP Event.isBuilt = 0 →
      more.countP Event.isShutdown = 0 → more.countP Event.isDispatch = 0 →
      Totals c.slot.value? c.generation c.calls (marks ++ more) := by
    intro more h₁ h₂ h₃
    refine ⟨?_, ?_, ?_⟩ <;> rw [List.countP_append]
    · rw [h₁, builds, Nat.add_zero]
    · rw [h₂, Nat.add_zero, closes]
    · rw [h₃, dispatches, Nat.add_zero]
  cases hs with
  | stay slot _ hphase hvalue =>
    have kept := still [] rfl rfl rfl
    rwa [← hvalue] at kept
  | claim | start | broke | drop | finish | leave | abandon => exact still _ rfl rfl rfl
  | built =>
    obtain ⟨-, none⟩ := locks.writer (List.countP_pos_iff.mpr ⟨_, mine, rfl⟩)
    rw [none] at closes
    have closes : marks.countP Event.isShutdown = c.generation := closes
    refine ⟨?_, ?_, ?_⟩ <;> rw [List.countP_append]
    · rw [builds]
      rfl
    · rw [closes]
      rfl
    · rw [dispatches]
      rfl
  | failed =>
    obtain ⟨-, none⟩ := locks.writer (List.countP_pos_iff.mpr ⟨_, mine, rfl⟩)
    have kept := still [.startFailed] rfl rfl rfl
    rwa [none] at kept
  | pass slot hzero hslot =>
    rcases hslot with rfl | ⟨fresh, rfl⟩
    · exact still _ rfl rfl rfl
    · have kept := still [] rfl rfl rfl
      rwa [fresh] at kept
  | close v hzero hv =>
    rw [hv] at closes
    have closes : marks.countP Event.isShutdown + 1 = c.generation := closes
    refine ⟨?_, ?_, ?_⟩ <;> rw [List.countP_append]
    · rw [builds]
      rfl
    · exact closes
    · rw [dispatches]
      rfl
  | enter l v hl hv =>
    refine ⟨?_, ?_, ?_⟩ <;> rw [List.countP_append]
    · rw [builds]
      rfl
    · exact closes
    · rw [dispatches]
      rfl

/-- What holds of every module of a run. -/
structure ContextState.Sound (b : ContextState) : Prop where
  locks : Locks b.context.lock.claimed b.context.lock.readers b.context.slot.value? b.holds
  page : ∀ g,
    Page g b.context.slot.value? b.context.lock.readers b.context.generation b.holds b.marks
  totals : Totals b.context.slot.value? b.context.generation b.context.calls b.marks

theorem ContextState.Step.sound {b b' : ContextState} (hs : b.Step b') (h : b.Sound) : b'.Sound := by
  refine ⟨hs.locks h.locks, fun g => ?_, ?_⟩
  · cases hs with
    | act t σ σ' c' marks found hstep => exact (h.page g).step h.locks found hstep
    | join =>
      have same : (b.holds ++ [Hold.free]).countP (Hold.tearsDown g) =
          b.holds.countP (Hold.tearsDown g) := by
        simp [List.countP_append, Hold.tearsDown]
      have still : Page g b.context.slot.value? b.context.lock.readers b.context.generation
        (b.holds ++ [.free]) (b.marks ++ []) := (h.page g).still same (by simp)
      rwa [List.append_nil] at still
  · cases hs with
    | act t σ σ' c' marks found hstep => exact h.totals.step h.locks found hstep
    | join => exact h.totals

theorem ContextState.sound_start : ({} : ContextState).Sound := by
  refine ⟨⟨rfl, Nat.le_refl _, by simp, by simp⟩, fun g => ?_, ⟨rfl, rfl, rfl⟩⟩
  have none : ({} : ContextState).context.slot.value? ≠ some g := by simp [Slot.value?]
  have before : ¬ (1 ≤ g ∧ g ≤ ({} : ContextState).context.generation) := by
    rintro ⟨pos, le⟩
    exact absurd (Nat.le_trans pos le) (by decide)
  refine ⟨fun h => absurd h none, ?_, ?_, rfl, ?_, fun _ => rfl⟩
  · rw [if_neg before]
    rfl
  · rw [if_neg none]
    rfl
  · rw [if_neg none]
    rfl

/-! ## Runs -/

theorem countP_contextMarks {p : Event → Bool} (h : ∀ e, p e = true → e.ofContext = true)
    (events : List Event) : (contextMarks events).countP p = events.countP p := by
  rw [contextMarks, List.countP_filter]
  refine List.countP_congr fun e _ => ?_
  rw [Bool.and_eq_true]
  exact ⟨And.left, fun he => ⟨he, h e he⟩⟩

theorem count_contextMarks {e : Event} (h : e.ofContext = true) (events : List Event) :
    (contextMarks events).count e = events.count e :=
  List.count_filter h

namespace System

/-- **Every module is kept in order** in every run, whichever threads come to it and how. -/
theorem Run.sound {s : System} (h : Run s) (j : Nat) : (s.contextState j).Sound := by
  refine h.induction (P := fun s => (s.contextState j).Sound) ContextState.sound_start
    fun s s' hr sound hm => ?_
  rcases hm.contextState hr.orderly j with same | step
  · rw [same]
    exact sound
  · exact step.sound sound

theorem Run.page {s : System} (h : Run s) (j g : Nat) :
    Page g (s.context j).slot.value? (s.context j).lock.readers (s.context j).generation (s.holds j)
      (s.moduleLog j) := by
  have count : ∀ e : Event, e.ofContext = true →
      (s.contextState j).marks.count e = (s.moduleLog j).count e :=
    fun e he => count_contextMarks he (s.moduleLog j)
  obtain ⟨current, built, closed, dropped, served, unborn⟩ := (h.sound j).page g
  rw [count _ rfl] at built
  rw [count _ rfl, count _ rfl] at closed dropped served
  rw [count _ rfl] at unborn
  exact ⟨current, built, closed, dropped, served, unborn⟩

theorem Run.totals {s : System} (h : Run s) (j : Nat) :
    Totals (s.context j).slot.value? (s.context j).generation (s.context j).calls
      (s.moduleLog j) := by
  have count : ∀ p : Event → Bool, (∀ e, p e = true → e.ofContext = true) →
      (s.contextState j).marks.countP p = (s.moduleLog j).countP p :=
    fun p hp => countP_contextMarks hp (s.moduleLog j)
  obtain ⟨builds, closes, dispatches⟩ := (h.sound j).totals
  rw [count _ fun e he => by cases e <;> first | rfl | cases he] at builds closes dispatches
  exact ⟨builds, closes, dispatches⟩

end System

end ModuleHost
