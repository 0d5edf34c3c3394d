import ModuleHost.Demo.Routing
import ModuleHost.Proofs.Message.Query

/-!
# The addresses a URI names

A URI names an upstream when it is `/address` or `/address/…` with an address that is not empty and
has no slash (`Names`). `route` reads this grammar behind whatever stands before the first slash: it
drops that piece without a look at it (`route_eq_some_iff`), so on a URI that starts with its slash
it reads exactly the grammar (`route_slash_iff`), and on any other it may name an upstream too.

What `route` hands on is shorter than what it was given, so the upstreams that one URI names after
another (`Hops`) come to an end, which is the same however far one looks (`Hops.complete`).
-/
namespace ModuleHost.Demo

/-- No slash stands in the text. -/
def Flat (s : String) : Prop := '/' ∉ s.toList

instance (s : String) : Decidable (Flat s) := inferInstanceAs (Decidable ('/' ∉ s.toList))

/-- A text that can stand between two slashes of a URI and be an address. -/
structure Segment (s : String) : Prop where
  nonempty : s ≠ ""
  flat : Flat s

/-- The URI is `/address`, with `/` left to forward, or `/address` and what is left to forward. -/
structure Names (uri address rest : String) : Prop where
  segment : Segment address
  shape : uri = "/" ++ address ∧ rest = "/" ∨
    uri = "/" ++ address ++ rest ∧ ∃ tail, rest = "/" ++ tail

variable {uri address rest lead tail s : String}

theorem Flat.ne (h : Flat s) : ∀ c ∈ s.toList, (c != '/') = true := Text.bne_of_notMem h

theorem Segment.toList_ne (h : Segment s) : s.toList ≠ [] :=
  fun e => h.nonempty (String.toList_eq_nil_iff.mp e)

theorem Names.split (h : Names uri address rest) : ∃ left, uri = "/" ++ address ++ left ∧
    (left = "" ∧ rest = "/" ∨ left = rest ∧ ∃ tail, rest = "/" ++ tail) := by
  obtain ⟨rfl, rfl⟩ | ⟨rfl, slash⟩ := h.shape
  · exact ⟨"", by simp, .inl ⟨rfl, rfl⟩⟩
  · exact ⟨rest, rfl, .inr ⟨rfl, slash⟩⟩

theorem Flat.eq_empty (h : Flat lead) (cut : "/" ++ s = lead ++ tail) :
    lead = "" := by
  have chars := congrArg String.toList cut
  simp only [String.toList_append] at chars
  cases first : lead.toList with
  | nil => exact String.toList_eq_nil_iff.mp first
  | cons c cs =>
    rw [first] at chars
    obtain ⟨rfl, -⟩ := List.cons.inj chars
    exact absurd (first ▸ List.mem_cons_self) h

theorem flat_or_cut (s : String) :
    Flat s ∨ ∃ lead tail, Flat lead ∧ s = lead ++ "/" ++ tail := by
  by_cases h : '/' ∈ s.toList
  · obtain ⟨before, after, cut, first⟩ := List.eq_append_cons_of_mem h
    refine .inr ⟨.ofList before, .ofList after, by simpa [Flat] using first, ?_⟩
    apply String.toList_injective
    simp [cut]
  · exact .inl h

/-! ## One hop -/

/-- The slash at which the first piece ends is all that is looked for in it. -/
theorem route_lead (h : Flat lead) : route (lead ++ "/" ++ s) = route ("/" ++ s) := by
  simp only [route, String.toList_append, List.append_assoc,
    List.dropWhile_append_of_pos h.ne]

theorem route_flat (h : Flat uri) : route uri = none := by
  have none_left : uri.toList.dropWhile (· != '/') = [] := List.dropWhile_eq_nil_iff.mpr h.ne
  simp only [route, none_left]

theorem route_last (h : Segment address) : route ("/" ++ address) = some (address, "/") := by
  have whole : address.toList.takeWhile (· != '/') = address.toList :=
    List.takeWhile_eq_self_iff.mpr h.flat.ne
  have nothing : address.toList.dropWhile (· != '/') = [] :=
    List.dropWhile_eq_nil_iff.mpr h.flat.ne
  simp [route, whole, nothing, h.toList_ne]

theorem route_more (h : Segment address) :
    route ("/" ++ address ++ "/" ++ tail) = some (address, "/" ++ tail) := by
  have whole : (address.toList ++ '/' :: tail.toList).takeWhile (· != '/') = address.toList := by
    simp [List.takeWhile_append_of_pos h.flat.ne]
  have left : (address.toList ++ '/' :: tail.toList).dropWhile (· != '/') = '/' :: tail.toList := by
    simp [List.dropWhile_append_of_pos h.flat.ne]
  simp [route, whole, left, h.nonempty]

theorem route_empty : route "/" = none := by decide

theorem route_blank : route ("//" ++ tail) = none := by
  simp [route]

theorem Names.routed (h : Names uri address rest) : route uri = some (address, rest) := by
  obtain ⟨rfl, rfl⟩ | ⟨rfl, tail, rfl⟩ := h.shape
  · exact route_last h.segment
  · rw [← String.append_assoc]
    exact route_more h.segment

theorem names_of_route (h : route ("/" ++ s) = some (address, rest)) :
    Names ("/" ++ s) address rest := by
  obtain flat | ⟨piece, tail, flat, rfl⟩ := flat_or_cut s
  · by_cases empty : s = ""
    · subst empty
      exact absurd h (by simp [route_empty])
    · rw [route_last ⟨empty, flat⟩] at h
      cases h
      exact ⟨⟨empty, flat⟩, .inl ⟨rfl, rfl⟩⟩
  · by_cases empty : piece = ""
    · have cut : "/" ++ (piece ++ "/" ++ tail) = "//" ++ tail := by
        simp [empty, ← String.append_assoc]
      rw [cut, route_blank] at h
      exact absurd h nofun
    · have cut : "/" ++ (piece ++ "/" ++ tail) = "/" ++ piece ++ "/" ++ tail := by
        simp only [String.append_assoc]
      rw [cut, route_more ⟨empty, flat⟩] at h
      cases h
      exact ⟨⟨empty, flat⟩, .inr ⟨by simp only [String.append_assoc], tail, rfl⟩⟩

/-- On a URI that starts with a slash, `route` reads the grammar and nothing else. -/
theorem route_slash_iff :
    route ("/" ++ s) = some (address, rest) ↔ Names ("/" ++ s) address rest :=
  ⟨names_of_route, Names.routed⟩

/-- What is left to forward may begin with an empty piece, which names no upstream then. -/
example : route "/a//b" = some ("a", "//b") ∧ route "//b" = none := by decide

theorem Names.slash (h : Names uri address rest) : ∃ s, uri = "/" ++ s := by
  obtain ⟨rfl, -⟩ | ⟨rfl, -⟩ := h.shape
  · exact ⟨address, rfl⟩
  · exact ⟨address ++ rest, String.append_assoc ..⟩

/-- On any URI, it reads the grammar behind the piece that the first slash ends. -/
theorem route_eq_some_iff : route uri = some (address, rest) ↔
    ∃ lead tail, Flat lead ∧ uri = lead ++ tail ∧ Names tail address rest := by
  constructor
  · intro h
    obtain flat | ⟨lead, s, flat, rfl⟩ := flat_or_cut uri
    · exact absurd h (by simp [route_flat flat])
    · rw [route_lead flat] at h
      exact ⟨lead, "/" ++ s, flat, String.append_assoc .., names_of_route h⟩
  · rintro ⟨lead, tail, flat, rfl, names⟩
    obtain ⟨s, rfl⟩ := names.slash
    rw [← String.append_assoc, route_lead flat]
    exact names.routed

/-- On a URI, `route` reads the grammar and nothing else just where nothing stands in front of what it
reads. -/
theorem route_reads_iff :
    (∀ address rest, route uri = some (address, rest) ↔ Names uri address rest) ↔
      ∀ lead tail address rest, Flat lead → uri = lead ++ tail → Names tail address rest →
        lead = "" := by
  constructor
  · rintro reads lead tail address rest flat rfl names
    obtain ⟨s, slash⟩ := ((reads address rest).mp
      (route_eq_some_iff.mpr ⟨lead, tail, flat, rfl, names⟩)).slash
    exact flat.eq_empty slash.symm
  · refine fun nothing address rest => ⟨fun routed => ?_, Names.routed⟩
    obtain ⟨lead, tail, flat, cut, names⟩ := route_eq_some_iff.mp routed
    have empty := nothing lead tail address rest flat cut names
    rwa [cut, empty, String.empty_append]

/-- What is left to forward is shorter than the URI, by the address and a slash at least. -/
theorem Names.shorter (h : Names uri address rest) : rest.length < uri.length := by
  have some_char : 0 < address.length :=
    Nat.pos_of_ne_zero fun e => h.segment.nonempty (String.length_eq_zero_iff.mp e)
  have slash : ("/" : String).length = 1 := by decide
  obtain ⟨rfl, rfl⟩ | ⟨rfl, -⟩ := h.shape <;> simp only [String.length_append] <;> omega

theorem route_shorter (h : route uri = some (address, rest)) : rest.length < uri.length := by
  obtain ⟨lead, tail, -, rfl, names⟩ := route_eq_some_iff.mp h
  have := names.shorter
  simp only [String.length_append]
  omega

/-! ## Hop after hop -/

/-- From `uri`, forwarding passes these upstreams one after another and is at `last` then. -/
inductive Hops : String → List String → String → Prop where
  | stay (uri : String) : Hops uri [] uri
  | hop {uri address rest last : String} {addresses : List String}
      (first : route uri = some (address, rest)) (more : Hops rest addresses last) :
      Hops uri (address :: addresses) last

variable {last mid : String} {addresses seen : List String}

theorem Hops.length (h : Hops uri addresses last) :
    addresses.length + last.length ≤ uri.length := by
  induction h with
  | stay => simp
  | hop first _ ih =>
    have := route_shorter first
    simp only [List.length_cons]
    omega

theorem exists_hops (uri : String) : ∃ addresses last, Hops uri addresses last ∧ route last = none := by
  match h : route uri with
  | none => exact ⟨[], uri, .stay uri, h⟩
  | some (address, rest) =>
    have := route_shorter h
    obtain ⟨addresses, last, hops, ended⟩ := exists_hops rest
    exact ⟨address :: addresses, last, .hop h hops, ended⟩
termination_by uri.length

/-- What has been passed so far is the beginning of all that is passed, and the way goes on from
there to the same end. -/
theorem Hops.complete (h : Hops uri addresses last) (ended : route last = none)
    (g : Hops uri seen mid) : ∃ left, addresses = seen ++ left ∧ Hops mid left last := by
  induction g generalizing addresses with
  | stay => exact ⟨addresses, rfl, h⟩
  | hop first _ ih =>
    cases h with
    | stay => exact absurd (first.symm.trans ended) nofun
    | hop first' more =>
      obtain ⟨rfl, rfl⟩ : _ ∧ _ := by simpa using first.symm.trans first'
      obtain ⟨left, rfl, rest⟩ := ih more
      exact ⟨left, rfl, rest⟩

theorem Hops.at_end (h : Hops uri addresses last) (ended : route uri = none) :
    addresses = [] ∧ last = uri := by
  cases h with
  | stay => exact ⟨rfl, rfl⟩
  | hop first => exact absurd (first.symm.trans ended) nofun

/-- The way to the end is one way. -/
theorem Hops.unique (h : Hops uri addresses last) (ended : route last = none)
    (g : Hops uri seen mid) (done : route mid = none) : addresses = seen ∧ last = mid := by
  obtain ⟨left, rfl, rest⟩ := h.complete ended g
  obtain ⟨rfl, rfl⟩ := rest.at_end done
  exact ⟨List.append_nil _, rfl⟩

/-! ## Paths -/

/-- The path `/s₁/…/sₖ`. -/
def path : List String → String
  | [] => ""
  | s :: segments => "/" ++ s ++ path segments

variable {segments : List String}

theorem path_slash (segments : List String) : ∃ s, path segments ++ "/" = "/" ++ s := by
  cases segments with
  | nil => exact ⟨"", by decide⟩
  | cons s segments => exact ⟨s ++ path segments ++ "/", by simp only [path, String.append_assoc]⟩

/-- With a trailing slash, what is left behind the last segment is that slash. -/
theorem hops_path_slash (h : ∀ s ∈ segments, Segment s) :
    Hops (path segments ++ "/") segments "/" := by
  induction segments with
  | nil => exact .stay "/"
  | cons s segments ih =>
    have names : Names (path (s :: segments) ++ "/") s (path segments ++ "/") :=
      ⟨h s List.mem_cons_self, .inr ⟨by simp only [path, String.append_assoc], path_slash segments⟩⟩
    exact .hop names.routed (ih fun s hs => h s (List.mem_cons_of_mem _ hs))

theorem hops_path (h : ∀ s ∈ segments, Segment s) :
    Hops (path segments) segments (if segments = [] then "" else "/") := by
  induction segments with
  | nil => exact .stay ""
  | cons s segments ih =>
    have segment := h s List.mem_cons_self
    have rest := ih fun s hs => h s (List.mem_cons_of_mem _ hs)
    simp only [List.cons_ne_nil, if_false]
    -- Only behind the last segment there is no slash to go on from.
    cases segments with
    | nil =>
      have names : Names (path [s]) s "/" := ⟨segment, .inl ⟨by simp [path], rfl⟩⟩
      exact .hop names.routed (.stay "/")
    | cons s' segments =>
      have names : Names (path (s :: s' :: segments)) s (path (s' :: segments)) :=
        ⟨segment, .inr ⟨rfl, s' ++ path segments, by simp only [path, String.append_assoc]⟩⟩
      exact .hop names.routed (by simpa using rest)

/-- Hop after hop, every URI comes to an end that is the same for all: each hop shortens the URI, so
there are at most as many hops as it has characters. The path of the segments, with a trailing slash
or without one, names the segments one after another, and what is left then is a slash, which names
no upstream; only the path of no segment, without the trailing slash, has no hop that could leave
one. -/
theorem forwarding_ends :
    (∀ uri address rest, route uri = some (address, rest) → rest.length < uri.length) ∧
    (∀ uri, ∃ addresses last, Hops uri addresses last ∧ route last = none ∧
      addresses.length ≤ uri.length ∧
      ∀ seen mid, Hops uri seen mid → ∃ left, addresses = seen ++ left ∧ Hops mid left last) ∧
    ∀ segments : List String, (∀ s ∈ segments, Segment s) → ∀ addresses last,
      (Hops (path segments ++ "/") addresses last ∧ route last = none ↔
        addresses = segments ∧ last = "/") ∧
      (Hops (path segments) addresses last ∧ route last = none ↔
        addresses = segments ∧ last = if segments = [] then "" else "/") := by
  refine ⟨fun _ _ _ => route_shorter, fun uri => ?_, fun segments h addresses last => ?_⟩
  · obtain ⟨addresses, last, hops, ended⟩ := exists_hops uri
    have bound := hops.length
    exact ⟨addresses, last, hops, ended, by omega, fun _ _ => hops.complete ended⟩
  · have root_ends : route "/" = none := route_empty
    have none_ends : route (if segments = [] then "" else "/") = none := by
      split
      · exact route_flat (by decide)
      · exact root_ends
    constructor <;> constructor
    · exact fun ⟨hops, ended⟩ => hops.unique ended (hops_path_slash h) root_ends
    · rintro ⟨rfl, rfl⟩
      exact ⟨hops_path_slash h, root_ends⟩
    · exact fun ⟨hops, ended⟩ => hops.unique ended (hops_path h) none_ends
    · rintro ⟨rfl, rfl⟩
      exact ⟨hops_path h, none_ends⟩

/-- Two segments, the second with a port. -/
theorem forwarding_ends_sample :
    route "/a/b:80" = some ("a", "/b:80") ∧ (∀ s ∈ ["a", "b:80"], Segment s) ∧
    ("/b:80" : String).length < ("/a/b:80" : String).length ∧
    (Hops (path ["a", "b:80"]) ["a", "b:80"] "/" ∧ route "/" = none) := by
  have hop : route "/a/b:80" = some ("a", "/b:80") := by decide
  have segments : ∀ s ∈ ["a", "b:80"], Segment s := by
    simp only [List.forall_mem_cons, List.not_mem_nil, false_implies, implies_true, and_true]
    exact ⟨⟨by decide, by decide⟩, by decide, by decide⟩
  have ⟨shorter, _, paths⟩ := forwarding_ends
  exact ⟨hop, segments, shorter _ _ _ hop, (paths _ segments _ _).2.mpr ⟨rfl, rfl⟩⟩

end ModuleHost.Demo
