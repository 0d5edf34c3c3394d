import Mathlib.Data.List.TakeWhile
import ModuleHost.Message.Request

/-!
# The path and the query of a URI

A piece in front of a URI belongs to the path as long as it has no question mark (`path_append`,
`query_append`). With the first question mark the query begins, and all that stands behind belongs to it
(`query_behind`).
-/
namespace ModuleHost

theorem Text.bne_of_notMem {c : Char} {cs : List Char} (h : c ∉ cs) : ∀ d ∈ cs, (d != c) = true :=
  fun _ hd => bne_iff_ne.mpr fun e => h (e ▸ hd)

namespace Request

open Text

variable {r r' : Request} {lead tail q : String}

theorem uri_eq_path (r : Request) : ∃ rest, r.uri = r.path ++ rest := by
  refine ⟨.ofList (r.uri.toList.dropWhile (· != '?')), String.toList_injective ?_⟩
  simp only [path, String.toList_append, String.toList_ofList, List.takeWhile_append_dropWhile]

theorem path_append (whole : r.uri = lead ++ r'.uri) (plain : '?' ∉ lead.toList) :
    r.path = lead ++ r'.path := by
  simp only [path, whole, String.toList_append, List.takeWhile_append_of_pos (bne_of_notMem plain),
    String.ofList_append, String.ofList_toList]

theorem query_append (whole : r.uri = lead ++ r'.uri) (plain : '?' ∉ lead.toList) :
    r.query = r'.query := by
  simp only [query, whole, String.toList_append, List.dropWhile_append_of_pos (bne_of_notMem plain)]

theorem query_behind (whole : r.uri = lead ++ tail) (marked : '?' ∈ lead.toList) :
    ∃ more, r.query = some (more ++ tail) := by
  obtain ⟨before, after, cut, first⟩ := List.eq_append_cons_of_mem marked
  refine ⟨.ofList after, ?_⟩
  simp [query, whole, cut, List.dropWhile_append_of_pos (bne_of_notMem first)]

theorem query_shorter (h : r.query = some q) : q.length < r.uri.length := by
  simp only [query] at h
  split at h
  · cases h
  · rename_i c rest dropped
    cases h
    have bound := (r.uri.toList.dropWhile_sublist (· != '?')).length_le
    rw [dropped, List.length_cons] at bound
    rw [String.length_ofList, ← String.length_toList]
    omega

end Request

end ModuleHost
