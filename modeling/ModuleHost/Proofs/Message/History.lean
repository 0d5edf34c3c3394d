import Mathlib
import ModuleHost.Message.Request
import ModuleHost.Message.Response
import ModuleHost.Proofs.Message.Headers

/-!
# Headers as a map

What the headers of a message hold after any run of edits. A key is what is left of a name once
trimmed and lowered, and taking the key of a key changes nothing (`key_key`), so whoever sets, reads
and removes a header agrees on where it stands.

* `HeaderEdit.recorded`: what the last edit under a key leaves there.
* `Headers.Records`: a map and its listing say the same, each key once.
* `records_apply`: a run of edits on an empty map is what was recorded of it.
* `header_history`: the same of a request, whose values are trimmed, and of a response, which may
  refuse an edit and then says why.
-/
namespace ModuleHost

open Text

/-! ## Keys -/

namespace Text

theorem isBlank_toLower (c : Char) : isBlank c.toLower = isBlank c := by
  by_cases upper : c.isUpper = true
  · have range : 65 ≤ c.toNat ∧ c.toNat ≤ 90 := by
      simp only [Char.isUpper, decide_eq_true_eq, ge_iff_le, UInt32.le_iff_toNat_le] at upper
      exact upper
    have lowered : c.toLower.toNat = c.toNat + 32 := by
      rw [Char.toLower_eq_of_isUpper upper, Char.toNat_ofNat, if_pos (.inl (by omega))]
    -- neither the letter nor what it is lowered to is near a blank
    have blank : ∀ n, 65 ≤ n → n ≤ 122 → ∀ d : Char, d.toNat = n → isBlank d = false := by
      intro n low high d hd
      simp only [isBlank, hd, Bool.or_eq_false_iff, Bool.and_eq_false_iff, decide_eq_false_iff_not,
        beq_eq_false_iff_ne]
      omega
    rw [blank _ (by omega) (by omega) c.toLower lowered, blank _ range.1 (by omega) c rfl]
  · rw [Char.toLower_eq_of_not_isUpper upper]

theorem trimChars_map_toLower (cs : List Char) :
    trimChars (cs.map Char.toLower) = (trimChars cs).map Char.toLower := by
  have same : isBlank ∘ Char.toLower = isBlank := funext isBlank_toLower
  simp only [trimChars, List.dropWhile_map, same, ← List.map_reverse]

theorem trimChars_trimChars (cs : List Char) : trimChars (trimChars cs) = trimChars cs := by
  have front : (trimChars cs).dropWhile isBlank = trimChars cs := by
    refine List.dropWhile_eq_self_iff.mpr fun some => ?_
    -- cutting the end off leaves the first character where it is
    obtain ⟨rest, cut⟩ : trimChars cs <+: cs.dropWhile isBlank := List.rdropWhile_prefix isBlank _
    have longer : 0 < (cs.dropWhile isBlank).length := by
      rw [← cut, List.length_append]
      omega
    have first : (cs.dropWhile isBlank)[0] = (trimChars cs)[0] := by
      simp only [← cut, List.getElem_append_left some]
    rw [← first]
    exact List.dropWhile_get_zero_not isBlank cs longer
  have back : List.rdropWhile isBlank (trimChars cs) = trimChars cs :=
    List.rdropWhile_idempotent isBlank _
  calc trimChars (trimChars cs)
      = List.rdropWhile isBlank ((trimChars cs).dropWhile isBlank) := rfl
    _ = trimChars cs := by rw [front, back]

end Text

/-- **The key of a key is that key.** -/
theorem Header.key_key (name : String) : key (key name) = key name := by
  simp only [key, lowerAscii, trim, String.toList_ofList, trimChars_map_toLower,
    trimChars_trimChars, List.map_map]
  congr 2
  exact funext Char.toLower_toLower_eq_toLower

/-! ## Refusals -/

namespace Header

instance (name : String) : Decidable (IsToken name) :=
  inferInstanceAs (Decidable (name ≠ "" ∧ ∀ b ∈ encode name, isTokenByte b = true))

instance (value : String) : Decidable (Unbroken value) :=
  inferInstanceAs (Decidable (∀ b ∈ encode value, b ≠ 0x0D ∧ b ≠ 0x0A ∧ b ≠ 0x00))

/-- Why a header is refused: its key is looked at before its value, and an empty key is said to be
empty. -/
inductive Refused (name value : String) : HeaderError → Prop where
  | emptyName (empty : key name = "") : Refused name value .emptyName
  | invalidName (full : key name ≠ "") (other : ∃ b ∈ encode (key name), isTokenByte b = false) :
    Refused name value (.invalidName (key name))
  | invalidValue (token : IsToken (key name)) (broken : ¬ Unbroken value) :
    Refused name value (.invalidValue (key name))

theorem all_isTokenChar {k : String} :
    k.toList.all isTokenChar = true ↔ ∀ b ∈ encode k, isTokenByte b = true := by
  rw [List.all_eq_true, forall_isTokenByte]

theorem any_breaksLine {value : String} :
    value.toList.any breaksLine = true ↔ ¬ Unbroken value := by
  rw [unbroken_iff, List.any_eq_true]
  push Not
  simp only [Bool.not_eq_false]

theorem refused_iff {name value : String} {e : HeaderError} :
    validate (key name) value = .error e ↔ Refused name value e := by
  have empty_iff : (key name).isEmpty = true ↔ key name = "" := String.isEmpty_iff
  constructor
  · intro refusal
    unfold validate at refusal
    split at refusal
    · rename_i empty
      cases refusal
      exact .emptyName (empty_iff.mp empty)
    rename_i full
    have named : key name ≠ "" := fun empty => full (empty_iff.mpr empty)
    split at refusal
    · rename_i other
      cases refusal
      rw [Bool.not_eq_true', ← Bool.not_eq_true, all_isTokenChar] at other
      push Not at other
      exact .invalidName named (by simpa only [Bool.not_eq_true] using other)
    rename_i good
    have token : IsToken (key name) := ⟨named, all_isTokenChar.mp (by simpa using good)⟩
    split at refusal
    · rename_i breaks
      cases refusal
      exact .invalidValue token (any_breaksLine.mp breaks)
    · cases refusal
  · rintro (empty | ⟨full, b, hb, other⟩ | ⟨token, broken⟩)
    · simp only [validate, empty_iff.mpr empty, ↓reduceIte]
    · have bad : (key name).toList.all isTokenChar = false := by
        refine Bool.eq_false_iff.mpr fun all => ?_
        rw [all_isTokenChar.mp all b hb] at other
        cases other
      simp only [validate, mt empty_iff.mp full, bad, Bool.not_false, Bool.false_eq_true,
        ↓reduceIte]
    · simp only [validate, mt empty_iff.mp token.1, all_isTokenChar.mpr token.2,
        any_breaksLine.mpr broken, Bool.not_true, Bool.false_eq_true, ↓reduceIte]

end Header

/-! ## Edits -/

/-- What may be done to a header. -/
inductive HeaderEdit where
  | set (name value : String)
  | remove (name : String)
  deriving DecidableEq, Repr

namespace HeaderEdit

def name : HeaderEdit → String
  | set name _ => name
  | remove name => name

/-- What the edit leaves under its key. -/
def leaves : HeaderEdit → Option String
  | set _ value => some value
  | remove _ => none

/-- Whether a response takes the edit. -/
def Accepted : HeaderEdit → Prop
  | set name value => Header.IsToken (Header.key name) ∧ Header.Unbroken value
  | remove _ => True

instance : DecidablePred Accepted
  | set name value =>
    inferInstanceAs (Decidable (Header.IsToken (Header.key name) ∧ Header.Unbroken value))
  | remove _ => inferInstanceAs (Decidable True)

/-- What the last of the edits under the key `k` leaves there; none where there is no such edit. -/
def recorded (edits : List HeaderEdit) (k : String) : Option String :=
  (edits.reverse.find? fun edit => Header.key edit.name = k).bind leaves

theorem recorded_concat (edits : List HeaderEdit) (edit : HeaderEdit) (k : String) :
    recorded (edits ++ [edit]) k =
      if Header.key edit.name = k then edit.leaves else recorded edits k := by
  simp only [recorded, List.reverse_append, List.reverse_singleton, List.singleton_append,
    List.find?_cons]
  by_cases same : Header.key edit.name = k
  · simp only [same, decide_true, ↓reduceIte, Option.bind_some]
  · simp only [same, decide_false, ↓reduceIte]

theorem key_of_recorded {edits : List HeaderEdit} {k value : String}
    (found : recorded edits k = some value) : Header.key k = k := by
  obtain ⟨edit, last, -⟩ := Option.bind_eq_some_iff.mp found
  have same : Header.key edit.name = k := by simpa using List.find?_some last
  rw [← same, Header.key_key]

end HeaderEdit

namespace Headers

variable {l : List (String × String)} {k k' value : String}

theorem lookup_put : lookup k' (put k value l) = if k = k' then some value else lookup k' l := by
  induction l with
  | nil => simp only [put, lookup]
  | cons first rest ih =>
    simp only [put]
    split
    · rename_i same
      subst same
      simp only [lookup]
      split <;> rfl
    split
    · simp only [lookup]
    · rename_i other _
      simp only [lookup, ih]
      -- the key of the first entry is not the one put in
      by_cases here : first.1 = k'
      · subst here
        simp only [other, ↓reduceIte]
      · simp only [here, ↓reduceIte]

theorem lookup_filter : lookup k' (l.filter fun e => e.1 != k) =
    if k = k' then none else lookup k' l := by
  induction l with
  | nil => simp only [List.filter_nil, lookup, ite_self]
  | cons first rest ih =>
    by_cases gone : first.1 = k
    · subst gone
      simp only [List.filter_cons, bne_self_eq_false, Bool.false_eq_true, ↓reduceIte, ih, lookup]
      split <;> rfl
    · have stays : (first.1 != k) = true := bne_iff_ne.mpr gone
      simp only [List.filter_cons, stays, ↓reduceIte, lookup, ih]
      by_cases here : first.1 = k'
      · subst here
        simp only [↓reduceIte, Ne.symm gone]
      · simp only [here, ↓reduceIte]

theorem Ascending.mem_iff (ascending : Ascending l) : (k, value) ∈ l ↔ lookup k l = some value := by
  induction l with
  | nil => simp only [List.not_mem_nil, lookup, reduceCtorEq]
  | cons first rest ih =>
    obtain ⟨above, ascending'⟩ := List.pairwise_cons.mp ascending
    obtain ⟨name, old⟩ := first
    simp only [List.mem_cons, Prod.mk.injEq, lookup, ih ascending']
    by_cases here : name = k
    · subst here
      have absent : lookup name rest ≠ some value := by
        intro later
        exact lt_irrefl name (above _ ((ih ascending').mpr later))
      simp only [absent, or_false, ↓reduceIte, true_and, Option.some.injEq, eq_comm]
    · simp only [Ne.symm here, false_and, false_or, here, ↓reduceIte]

def apply (h : Headers) : HeaderEdit → Headers
  | .set name value => h.insert name value
  | .remove name => h.erase name

theorem lookup_apply (h : Headers) (edit : HeaderEdit) (k : String) :
    lookup k (h.apply edit).entries =
      if Header.key edit.name = k then edit.leaves else lookup k h.entries := by
  cases edit with
  | set name value => exact lookup_put
  | remove name => exact lookup_filter

theorem ascending_apply {h : Headers} (ascending : Ascending h.entries) (edit : HeaderEdit) :
    Ascending (h.apply edit).entries := by
  cases edit with
  | set name value => exact ascending.put
  | remove name => exact ascending.filter _

/-- The headers hold, under every key, what `recorded` says of it. -/
structure Records (h : Headers) (recorded : String → Option String) : Prop where
  found : ∀ name, h.get? name = recorded (Header.key name)
  once : (h.toList.map Prod.fst).Nodup
  listed : ∀ k value, (k, value) ∈ h.toList ↔ recorded k = some value
  key : ∀ e ∈ h.toList, Header.key e.1 = e.1

/-- **Edits made to an empty map leave what was recorded of them.** -/
theorem records_apply (edits : List HeaderEdit) :
    Records (edits.foldl apply {}) (HeaderEdit.recorded edits) := by
  have kept : Ascending (edits.foldl apply {}).entries ∧
      ∀ k, lookup k (edits.foldl apply {}).entries = HeaderEdit.recorded edits k := by
    induction edits using List.reverseRecOn with
    | nil => exact ⟨.nil, fun k => rfl⟩
    | append_singleton edits edit ih =>
      obtain ⟨ascending, found⟩ := ih
      rw [List.foldl_concat]
      refine ⟨ascending_apply ascending edit, fun k => ?_⟩
      rw [lookup_apply, HeaderEdit.recorded_concat, found k]
  obtain ⟨ascending, found⟩ := kept
  have listed : ∀ k value, (k, value) ∈ (edits.foldl apply {}).toList ↔
      HeaderEdit.recorded edits k = some value := fun k value => by
    rw [toList, ascending.mem_iff, found k]
  exact ⟨fun name => found _, ascending.nodup, listed,
    fun e he => HeaderEdit.key_of_recorded ((listed e.1 e.2).mp he)⟩

end Headers

/-! ## Messages -/

namespace Request

/-- The request after its headers are set, in order. -/
def setHeaders (r : Request) (sets : List (String × String)) : Request :=
  sets.foldl (fun r set => r.setHeader set.1 set.2) r

/-- A request takes every header, with its value trimmed. -/
def edits (sets : List (String × String)) : List HeaderEdit :=
  sets.map fun set => .set set.1 (trim set.2)

theorem setHeaders_eq (r : Request) (sets : List (String × String)) :
    r.setHeaders sets = { r with headers := (edits sets).foldl Headers.apply r.headers } := by
  induction sets generalizing r with
  | nil => rfl
  | cons set sets ih => exact ih (r.setHeader set.1 set.2)

end Request

namespace Response

/-- The response after an edit, which leaves it alone where it is refused. -/
def edit (r : Response) : HeaderEdit → Response
  | .set name value =>
    match r.setHeader name value with
    | .ok (_, r') => r'
    | .error _ => r
  | .remove name => (r.removeHeader name).2

theorem edit_eq (r : Response) (change : HeaderEdit) :
    r.edit change =
      if change.Accepted then { r with headers := r.headers.apply change } else r := by
  cases change with
  | set name value =>
    simp only [edit, setHeader, HeaderEdit.Accepted, ← Header.validate_eq_ok_iff]
    cases Header.validate (Header.key name) value with
    | ok u => rfl
    | error e => rfl
  | remove name => rfl

theorem foldl_edit_eq (r : Response) (edits : List HeaderEdit) :
    edits.foldl edit r =
      { r with headers := (edits.filter (·.Accepted)).foldl Headers.apply r.headers } := by
  induction edits generalizing r with
  | nil => rfl
  | cons change edits ih =>
    rw [List.foldl_cons, ih, edit_eq, List.filter_cons]
    by_cases accepted : change.Accepted
    · simp only [accepted, decide_true, ↓reduceIte, List.foldl_cons]
    · simp only [accepted, decide_false, ↓reduceIte, Bool.false_eq_true]

theorem setHeader_iff (r : Response) (name value : String) :
    (∀ old r', r.setHeader name value = .ok (old, r') ↔ (HeaderEdit.set name value).Accepted ∧
      old = r.header name ∧ r' = r.edit (.set name value)) ∧
    ∀ e, r.setHeader name value = .error e ↔ Header.Refused name value e := by
  simp only [← Header.refused_iff, HeaderEdit.Accepted, ← Header.validate_eq_ok_iff, edit,
    setHeader]
  cases Header.validate (Header.key name) value with
  | ok u =>
    refine ⟨fun old r' => ?_, fun e => by simp only [reduceCtorEq]⟩
    simp only [Except.ok.injEq, Prod.mk.injEq, true_and, header, eq_comm]
  | error e' =>
    exact ⟨fun old r' => by simp only [reduceCtorEq, false_and], fun e => by
      simp only [Except.error.injEq]⟩

end Response

/-- **The headers of a message are the map that its edits describe.** A request takes every edit and
trims the values. A response takes the edits it accepts as they are and answers the value that was
there before; the others it refuses, for their name before their value, and stays as it is. Nothing
else of the message changes. -/
theorem header_history :
    (∀ (r : Request) (sets : List (String × String)),
      let after := { r with headers := {} }.setHeaders sets
      after.headers.Records (HeaderEdit.recorded (Request.edits sets)) ∧
      (∀ name, after.header name = HeaderEdit.recorded (Request.edits sets) (Header.key name)) ∧
      { after with headers := r.headers } = r) ∧
    ∀ (r : Response) (edits : List HeaderEdit),
      let after := edits.foldl Response.edit { r with headers := {} }
      let accepted := edits.filter (·.Accepted)
      after.headers.Records (HeaderEdit.recorded accepted) ∧
      (∀ name, after.header name = HeaderEdit.recorded accepted (Header.key name)) ∧
      { after with headers := r.headers } = r ∧
      ∀ name value,
        (∀ old next, after.setHeader name value = .ok (old, next) ↔
          (HeaderEdit.set name value).Accepted ∧ old = after.header name ∧
            next = after.edit (.set name value)) ∧
        (∀ e, after.setHeader name value = .error e ↔ Header.Refused name value e) ∧
        after.removeHeader name = (after.header name, after.edit (.remove name)) := by
  refine ⟨fun r sets => ?_, fun r edits => ?_⟩
  · have records := Headers.records_apply (Request.edits sets)
    simp only [Request.setHeaders_eq, Request.header]
    exact ⟨records, records.found, trivial⟩
  · have records := Headers.records_apply (edits.filter (·.Accepted))
    intro after accepted
    have same : after = { r with headers := accepted.foldl Headers.apply {} } :=
      Response.foldl_edit_eq _ edits
    refine ⟨?_, ?_, ?_, fun name value => ?_⟩
    · rw [same]
      exact records
    · rw [same]
      exact records.found
    · rw [same]
    · obtain ⟨taken, refused⟩ := after.setHeader_iff name value
      exact ⟨taken, refused, rfl⟩

end ModuleHost
