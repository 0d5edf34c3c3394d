import ModuleHost.Proofs.Context.State

/-!
# The lock discipline

`Locks` ties what the threads hold of a module to its lock and its slot:

* `claims`: the lock is claimed by one thread, or by none,
* `counted`: every thread that runs the handler is counted as a reader,
* `writer`: while a thread has the lock for itself, no reader is counted and the slot has no value,
* `reading`: a thread runs only the handler whose value is in the slot.

A reader whose module code broke off stays counted for ever, so `counted` is no equality.
-/
namespace ModuleHost

theorem countP_writes_le (l : List Hold) : l.countP Hold.writes ≤ l.countP Hold.claims := by
  refine List.countP_mono_left fun σ _ h => ?_
  cases σ <;> first | rfl | cases h

theorem countP_reads_pos {l : List Hold} {g : Nat} (h : Hold.reading g ∈ l) :
    0 < l.countP Hold.reads :=
  List.countP_pos_iff.mpr ⟨_, h, rfl⟩

/-- Whether a writer has claimed the lock, its readers, the generation of the value in the slot, and
what the threads hold. -/
structure Locks (claimed : Bool) (readers : Nat) (value : Option Nat) (holds : List Hold) :
    Prop where
  claims : holds.countP Hold.claims = if claimed then 1 else 0
  counted : holds.countP Hold.reads ≤ readers
  writer : 0 < holds.countP Hold.writes → readers = 0 ∧ value = none
  reading : ∀ g, .reading g ∈ holds → value = some g

namespace Lock

theorem claim?_eq_some {l l' : Lock} (h : l.claim? = some l') :
    l.claimed = false ∧ l' = { l with claimed := true } := by
  unfold claim? at h
  split at h
  · cases h
  · rename_i free
    cases h
    exact ⟨by simpa using free, rfl⟩

theorem acquireRead?_eq_some {l l' : Lock} (h : l.acquireRead? = some l') :
    l.claimed = false ∧ l' = { l with readers := l.readers + 1 } := by
  unfold acquireRead? at h
  split at h
  · cases h
  · rename_i free
    cases h
    exact ⟨by simpa using free, rfl⟩

end Lock

namespace Locks

variable {claimed : Bool} {readers : Nat} {value : Option Nat} {holds : List Hold}

theorem no_writer (h : Locks false readers value holds) : holds.countP Hold.writes = 0 := by
  have none : holds.countP Hold.claims = 0 := h.claims
  have := countP_writes_le holds
  omega

theorem no_reading (h : Locks claimed 0 value holds) (g : Nat) : .reading g ∉ holds := by
  intro mem
  have := countP_reads_pos mem
  have := h.counted
  omega

/-- Whoever claims the lock claims it alone. -/
theorem lone_claim (h : Locks claimed readers value holds) {σ : Hold} (mem : σ ∈ holds)
    (hσ : σ.claims = true) : claimed = true ∧ holds.countP Hold.claims = 1 := by
  have pos : 0 < holds.countP Hold.claims := List.countP_pos_iff.mpr ⟨σ, mem, hσ⟩
  have one := h.claims
  split at one
  · rename_i hc
    exact ⟨hc, one⟩
  · omega

theorem claimant_unique (h : Locks claimed readers value holds) {t u : Nat} {σ τ : Hold}
    (ht : holds[t]? = some σ) (hσ : σ.claims = true) (hu : holds[u]? = some τ)
    (hτ : τ.claims = true) : u = t := by
  refine Classical.byContradiction fun ne => ?_
  have other : (holds.set t .free)[u]? = some τ := (List.getElem?_set_ne (Ne.symm ne)).trans hu
  have pos : 0 < (holds.set t .free).countP Hold.claims :=
    List.countP_pos_iff.mpr ⟨τ, List.mem_of_getElem? other, hτ⟩
  have counts := countP_set_add ht .free Hold.claims
  have one := (h.lone_claim (List.mem_of_getElem? ht) hσ).2
  rw [if_pos hσ] at counts
  simp only [Hold.claims, Bool.false_eq_true, if_false] at counts
  omega

/-- Whoever has claimed the lock gives it back, and leaves the handlers that run in place. -/
theorem release {t : Nat} {σ : Hold} {value' : Option Nat} (h : Locks claimed readers value holds)
    (found : holds[t]? = some σ) (hσ : σ.claims = true)
    (running : ∀ g, .reading g ∈ holds → value' = some g) :
    Locks false readers value' (holds.set t .free) := by
  have claims := countP_set_add found .free Hold.claims
  have reads := countP_set_add found .free Hold.reads
  have le := countP_writes_le (holds.set t .free)
  obtain ⟨-, one⟩ := h.lone_claim (List.mem_of_getElem? found) hσ
  have counted := h.counted
  rw [if_pos hσ] at claims
  simp only [Hold.claims, Hold.reads, Bool.false_eq_true, if_false] at claims reads
  refine ⟨?_, by omega, fun pos => by omega, fun g mem => running g ?_⟩
  · rw [if_neg Bool.false_ne_true]
    omega
  · exact (List.mem_or_eq_of_mem_set mem).resolve_right (by simp)

/-- A step of one thread keeps the discipline. -/
theorem step {c c' : Context} {t : Nat} {σ σ' : Hold} {marks : List Event}
    (h : Locks c.lock.claimed c.lock.readers c.slot.value? holds) (found : holds[t]? = some σ)
    (hs : c.Step σ marks c' σ') :
    Locks c'.lock.claimed c'.lock.readers c'.slot.value? (holds.set t σ') := by
  have claims := countP_set_add found σ' Hold.claims
  have reads := countP_set_add found σ' Hold.reads
  have writes := countP_set_add found σ' Hold.writes
  have le := countP_writes_le (holds.set t σ')
  have mine := List.mem_of_getElem? found
  have others : ∀ g, Hold.reading g ∈ holds.set t σ' → σ' ≠ .reading g → .reading g ∈ holds :=
    fun g mem hne => (List.mem_or_eq_of_mem_set mem).resolve_right (Ne.symm hne)
  have hclaimed := h.claims
  have hreaders := h.counted
  cases hs with
  | stay slot _ hphase hvalue =>
    rw [set_same found]
    show Locks c.lock.claimed c.lock.readers slot.value? holds
    rw [hvalue]
    exact h
  | claim l hl =>
    obtain ⟨free, rfl⟩ := Lock.claim?_eq_some hl
    rw [free] at h hclaimed
    have none := h.no_writer
    simp only [Hold.claims, Hold.reads, Hold.writes, Bool.false_eq_true, if_false, if_true]
      at claims reads writes hclaimed
    show Locks true c.lock.readers c.slot.value? _
    refine ⟨?_, by omega, fun pos => by omega, fun g mem => h.reading g (others g mem (by simp))⟩
    rw [if_pos rfl]
    omega
  | start hzero hnone =>
    simp only [Hold.claims, Hold.reads, Hold.writes, Bool.false_eq_true, if_false, if_true]
      at claims reads writes
    show Locks c.lock.claimed c.lock.readers c.slot.value? _
    refine ⟨by omega, by omega, fun _ => ⟨hzero, hnone⟩, fun g mem => ?_⟩
    exact h.reading g (others g mem (by simp))
  | built | failed =>
    obtain ⟨hzero, -⟩ := h.writer (List.countP_pos_iff.mpr ⟨_, mine, rfl⟩)
    rw [hzero] at h
    show Locks false c.lock.readers _ _
    rw [hzero]
    exact h.release found rfl fun g mem => absurd mem (h.no_reading g)
  | pass slot hzero _ =>
    rw [hzero] at h
    show Locks false c.lock.readers slot.value? _
    rw [hzero]
    exact h.release found rfl fun g mem => absurd mem (h.no_reading g)
  | close v hzero hv =>
    simp only [Hold.claims, Hold.reads, Hold.writes, Bool.false_eq_true, if_false, if_true]
      at claims reads writes
    show Locks c.lock.claimed c.lock.readers none _
    refine ⟨by omega, by omega, fun _ => ⟨hzero, rfl⟩, fun g mem => ?_⟩
    rw [hzero] at h
    exact absurd (others g mem (by simp)) (h.no_reading g)
  | drop g' =>
    simp only [Hold.claims, Hold.reads, Hold.writes, Bool.false_eq_true, if_false, if_true]
      at claims reads writes
    refine ⟨by omega, by omega, fun pos => h.writer (by omega), fun g mem => ?_⟩
    exact h.reading g (others g mem (by simp))
  | finish g' | broke => exact h.release found rfl h.reading
  | enter l v hl hv =>
    obtain ⟨free, rfl⟩ := Lock.acquireRead?_eq_some hl
    rw [free] at h hclaimed
    have none := h.no_writer
    simp only [Hold.claims, Hold.reads, Hold.writes, Bool.false_eq_true, if_false, if_true]
      at claims reads writes hclaimed
    show Locks c.lock.claimed (c.lock.readers + 1) c.slot.value? _
    rw [free]
    refine ⟨?_, by omega, fun pos => by omega, fun g mem => ?_⟩
    · rw [if_neg Bool.false_ne_true]
      omega
    · by_cases hg : g = v.generation
      · rw [hv, hg]
        rfl
      · exact h.reading g (others g mem (by simpa using Ne.symm hg))
  | leave g' =>
    have counted := countP_reads_pos mine
    have nobody : ¬ 0 < holds.countP Hold.writes := fun pos => by
      have := (h.writer pos).1
      omega
    simp only [Hold.claims, Hold.reads, Hold.writes, Bool.false_eq_true, if_false, if_true]
      at claims reads writes
    show Locks c.lock.claimed (c.lock.readers - 1) c.slot.value? _
    refine ⟨by omega, by omega, fun pos => absurd (by omega) nobody, fun g mem => ?_⟩
    exact h.reading g (others g mem (by simp))
  | abandon g' =>
    simp only [Hold.claims, Hold.reads, Hold.writes, Bool.false_eq_true, if_false, if_true]
      at claims reads writes
    refine ⟨by omega, by omega, fun pos => h.writer (by omega), fun g mem => ?_⟩
    exact h.reading g (others g mem (by simp))

end Locks

theorem ContextState.Step.locks {b b' : ContextState} (hs : b.Step b')
    (h : Locks b.context.lock.claimed b.context.lock.readers b.context.slot.value? b.holds) :
    Locks b'.context.lock.claimed b'.context.lock.readers b'.context.slot.value? b'.holds := by
  cases hs with
  | act t σ σ' c' marks found hstep => exact h.step found hstep
  | join =>
    obtain ⟨claims, counted, writer, reading⟩ := h
    refine ⟨?_, ?_, ?_, ?_⟩
    · simpa [List.countP_append, Hold.claims] using claims
    · simpa [List.countP_append, Hold.reads] using counted
    · simpa [List.countP_append, Hold.writes] using writer
    · simpa using reading

end ModuleHost
