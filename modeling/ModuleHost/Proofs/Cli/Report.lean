import Mathlib.Algebra.BigOperators.Group.List.Lemmas
import Mathlib.Algebra.GroupWithZero.Nat
import Mathlib.Data.List.Count
import ModuleHost.Main
import ModuleHost.Proofs.Loader.Paths

/-!
# What a summary says

A summary in JSON is an object whose entries stand in the order of their keys; it is read by these keys
(`Json.field?`). Its statuses are counted, each once, so that the counts add up to the number of the
calls (`Summary.sum_tally`).
-/
namespace ModuleHost

namespace Text.Json

/-- The value under a key of an object. -/
def field? (key : String) : Json → Option Json
  | object entries => entries.lookup key
  | null | number _ | string _ => none

end Text.Json

theorem nodup_eraseDups {α : Type} [BEq α] [LawfulBEq α] : (l : List α) → l.eraseDups.Nodup
  | [] => List.nodup_nil
  | a :: l => by
    rw [List.eraseDups_cons, List.nodup_cons]
    exact ⟨by simp [List.mem_eraseDups], nodup_eraseDups (l.filter fun b => !b == a)⟩
termination_by l => l.length
decreasing_by exact Nat.lt_succ_of_le (List.length_filter_le _ _)

theorem toString_injective : Function.Injective (toString : Nat → String) := by
  intro m n same
  have digits : Nat.toDigits 10 m = Nat.toDigits 10 n := String.ofList_injective same
  rw [← Nat.ofDigitChars_toDigits (b := 10) (n := m) (by decide) (by decide), digits,
    Nat.ofDigitChars_toDigits (by decide) (by decide)]

namespace Cli.Summary

open Text

variable {entries : List (String × Json)} {key : String} {v : Json}

theorem field?_sorted (distinct : (entries.map (·.1)).Nodup) (h : (key, v) ∈ entries) :
    (sorted entries).field? key = some v := by
  have perm := entries.mergeSort_perm fun a b => decide (a.1 ≤ b.1)
  exact lookup_of_mem ((perm.map _).nodup_iff.mpr distinct) (perm.mem_iff.mpr h)

variable (statuses : List UInt16)

/-- **The counts add up.** -/
theorem sum_tally : ((tally statuses).map (·.2)).sum = statuses.length := by
  let numbers := statuses.map UInt16.toNat
  have perm : (numbers.eraseDups.mergeSort fun a b => decide (a ≤ b)).Perm numbers.dedup :=
    (List.mergeSort_perm _ _).trans
      ((List.perm_ext_iff_of_nodup (nodup_eraseDups numbers) (List.nodup_dedup _)).mpr fun n => by
        rw [List.mem_eraseDups, List.mem_dedup])
  calc ((tally statuses).map (·.2)).sum
      = ((numbers.eraseDups.mergeSort fun a b => decide (a ≤ b)).map fun s => numbers.count s).sum := by
        simp [tally, numbers, List.map_map, Function.comp_def]
    _ = (numbers.dedup.map fun s => numbers.count s).sum := (perm.map _).sum_eq
    _ = numbers.length := List.sum_map_count_dedup_eq_length numbers
    _ = statuses.length := List.length_map _

theorem mem_tally {e : Nat × Nat} (h : e ∈ tally statuses) :
    ∃ status ∈ statuses, e = (status.toNat, statuses.count status) := by
  simp only [tally, List.mem_map, List.mem_mergeSort, List.mem_eraseDups] at h
  obtain ⟨n, ⟨status, there, rfl⟩, rfl⟩ := h
  exact ⟨status, there, by rw [List.count_map_of_injective _ _ fun _ _ => UInt16.toNat_inj.mp]⟩

theorem nodup_tally : ((tally statuses).map (·.1)).Nodup := by
  simp only [tally, List.map_map, Function.comp_def, List.map_id']
  exact (List.mergeSort_perm _ _).nodup_iff.mpr (nodup_eraseDups _)

/-- What a summary in JSON says of the statuses: each that occurs, and how often. -/
structure Counted (counts : List (String × Nat)) : Prop where
  once : (counts.map (·.1)).Nodup
  sum : (counts.map (·.2)).sum = statuses.length
  each : ∀ c ∈ counts, ∃ status ∈ statuses, c = (toString status.toNat, statuses.count status)

variable (r : Summary) (f : Figures)

theorem field?_json (h : (key, v) ∈
    [("module", .string r.module), ("requests", .number r.statuses.length),
      ("concurrency", .number r.workers), ("peak_concurrency", .number f.peakCount)]) :
    (r.json f).field? key = some v := by
  refine field?_sorted (by simp) ?_
  simp only [List.mem_cons, List.not_mem_nil, or_false] at h ⊢
  tauto

theorem statuses_json : ∃ counts, Counted r.statuses counts ∧
    (r.json f).field? "statuses" = some (.object (counts.map fun c => (c.1, .number c.2))) := by
  let written := fun e : Nat × Nat => (toString e.1, e.2)
  let byKey := fun a b : Nat × Nat => decide ((written a).1 ≤ (written b).1)
  have perm := (tally r.statuses).mergeSort_perm byKey
  refine ⟨((tally r.statuses).mergeSort byKey).map written, ⟨?_, ?_, ?_⟩, ?_⟩
  · rw [List.map_map, (perm.map _).nodup_iff]
    have distinct := (nodup_tally r.statuses).map toString_injective
    rwa [List.map_map] at distinct
  · rw [List.map_map, (perm.map _).sum_eq]
    exact sum_tally r.statuses
  · intro c hc
    obtain ⟨e, he, rfl⟩ := List.mem_map.mp hc
    obtain ⟨status, there, rfl⟩ := mem_tally r.statuses (perm.mem_iff.mp he)
    exact ⟨status, there, rfl⟩
  · have ordered : ((tally r.statuses).mergeSort byKey).map
          (fun e => ((toString e.1, .number e.2) : String × Json)) =
        ((tally r.statuses).map fun e => (toString e.1, .number e.2)).mergeSort
          fun a b => decide (a.1 ≤ b.1) := List.map_mergeSort fun _ _ _ _ => rfl
    rw [List.map_map]
    exact field?_sorted (by simp) (by simpa [sorted, written, Function.comp_def] using ordered)

end Cli.Summary

end ModuleHost
