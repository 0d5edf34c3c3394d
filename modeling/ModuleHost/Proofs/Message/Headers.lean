import Mathlib
import ModuleHost.Message.Response
import ModuleHost.Proofs.Text.Utf8

/-!
# Headers that may be sent

What a response accepts, said of bytes: a name is a token of lower case, a value breaks no line.
`validate_eq_ok_iff` says that the check lets through exactly that, under the key that it is stored
with, and `Headers.Clean` that a map holds nothing else, each name once. What a response does to its
headers keeps them clean.
-/
namespace ModuleHost

open Text

namespace Header

/-! ## Names and values as bytes -/

/-- The bytes of a name: digits, letters and fifteen marks. -/
def isTokenByte (b : UInt8) : Bool :=
  (0x30 ≤ b && b ≤ 0x39) || (0x41 ≤ b && b ≤ 0x5A) || (0x61 ≤ b && b ≤ 0x7A) ||
    [0x21, 0x23, 0x24, 0x25, 0x26, 0x27, 0x2A, 0x2B, 0x2D, 0x2E, 0x5E, 0x5F, 0x60, 0x7C, 0x7E].contains b

def IsToken (name : String) : Prop := name ≠ "" ∧ ∀ b ∈ encode name, isTokenByte b = true

/-- Whether there is no letter A to Z among the bytes. -/
def IsLower (name : String) : Prop := ∀ b ∈ encode name, b < 0x41 ∨ 0x5A < b

/-- Whether there is no CR, LF or NUL among the bytes. -/
def Unbroken (value : String) : Prop := ∀ b ∈ encode value, b ≠ 0x0D ∧ b ≠ 0x0A ∧ b ≠ 0x00

theorem toNat_of_mem_marks {c : Char}
    (h : c ∈ ['!', '#', '$', '%', '&', '\'', '*', '+', '-', '.', '^', '_', '\x60', '|', '~']) :
    c.toNat < 0x80 := by
  simp only [List.mem_cons, List.not_mem_nil, or_false] at h
  rcases h with rfl | rfl | rfl | rfl | rfl | rfl | rfl | rfl | rfl | rfl | rfl | rfl | rfl | rfl | rfl
    <;> decide

theorem isTokenChar_wide {c : Char} (wide : 0x80 ≤ c.toNat) : ¬ isTokenChar c = true := by
  intro token
  simp only [isTokenChar, Bool.or_eq_true, List.contains_iff_mem] at token
  rcases token with alnum | mark
  · simp only [Char.isAlphanum, Char.isAlpha, Char.isUpper, Char.isLower, Char.isDigit,
      Bool.or_eq_true, Bool.and_eq_true, decide_eq_true_eq, UInt32.le_iff_toNat_le] at alnum
    change ((65 ≤ c.toNat ∧ c.toNat ≤ 90) ∨ 97 ≤ c.toNat ∧ c.toNat ≤ 122) ∨
      48 ≤ c.toNat ∧ c.toNat ≤ 57 at alnum
    omega
  · have := toNat_of_mem_marks mark
    omega

theorem isTokenByte_wide {b : UInt8} (wide : 0x80 ≤ b.toNat) : ¬ isTokenByte b = true := by
  simp only [isTokenByte, Bool.or_eq_true, Bool.and_eq_true, decide_eq_true_eq,
    List.contains_iff_mem, List.mem_cons, List.not_mem_nil, or_false, UInt8.le_iff_toNat_le,
    ← UInt8.toNat_inj, UInt8.reduceToNat]
  omega

theorem forall_isTokenByte (s : String) :
    (∀ b ∈ encode s, isTokenByte b = true) ↔ ∀ c ∈ s.toList, isTokenChar c = true :=
  forall_mem_encode (w := False) (by decide) (fun c wide => iff_false_intro (isTokenChar_wide wide))
    (fun b wide => iff_false_intro (isTokenByte_wide wide)) s

theorem unbroken_iff (s : String) : Unbroken s ↔ ∀ c ∈ s.toList, breaksLine c = false := by
  refine forall_mem_encode (w := True) (by decide) (fun c wide => iff_true_intro ?_)
    (fun b wide => iff_true_intro ?_) s
  · simp only [breaksLine, Bool.or_eq_false_iff, beq_eq_false_iff_ne]
    refine ⟨⟨?_, ?_⟩, ?_⟩ <;> rintro rfl <;> exact absurd wide (by decide)
  · refine ⟨?_, ?_, ?_⟩ <;> rintro rfl <;> exact absurd wide (by decide)

theorem isLower_iff (s : String) : IsLower s ↔ ∀ c ∈ s.toList, c.isUpper = false := by
  refine forall_mem_encode (w := True) (by decide) (fun c wide => iff_true_intro ?_)
    (fun b wide => iff_true_intro ?_) s
  · simp only [Char.isUpper, decide_eq_false_iff_not]
    change ¬ (65 ≤ c.val ∧ c.val ≤ 90)
    have number : c.val.toNat = c.toNat := rfl
    simp only [UInt32.le_iff_toNat_le, number, UInt32.reduceToNat]
    omega
  · refine .inr ?_
    simp only [UInt8.lt_iff_toNat_lt, UInt8.reduceToNat]
    omega

theorem isLower_key (name : String) : IsLower (key name) := by
  refine (isLower_iff _).mpr fun c hc => ?_
  simp only [key, lowerAscii, String.toList_ofList, List.mem_map] at hc
  obtain ⟨d, -, rfl⟩ := hc
  exact d.isUpper_toLower_eq_false

/-- **The check lets through what may be sent, and nothing else.** -/
theorem validate_eq_ok_iff (k value : String) :
    validate k value = .ok () ↔ IsToken k ∧ Unbroken value := by
  simp only [validate, IsToken, forall_isTokenByte, unbroken_iff]
  split
  · rename_i empty
    simp [String.isEmpty_iff.mp empty]
  · rename_i full
    have named : k ≠ "" := fun empty => full (String.isEmpty_iff.mpr empty)
    split
    · rename_i bad
      simp only [Bool.not_eq_true', List.all_eq_false] at bad
      obtain ⟨c, hc, other⟩ := bad
      simp only [reduceCtorEq, false_iff]
      exact fun h => other (h.1.2 c hc)
    · rename_i good
      simp only [Bool.not_eq_true, Bool.not_eq_false', List.all_eq_true] at good
      split
      · rename_i breaks
        obtain ⟨c, hc, broken⟩ := List.any_eq_true.mp breaks
        simp only [reduceCtorEq, false_iff]
        intro h
        simp [h.2 c hc] at broken
      · rename_i unbroken
        simp only [Bool.not_eq_true, List.any_eq_false] at unbroken
        simp only [true_iff]
        exact ⟨⟨named, good⟩, unbroken⟩

end Header

/-! ## Maps -/

namespace Headers

variable {l : List (String × String)} {k value : String}

theorem mem_put {e : String × String} (h : e ∈ put k value l) : e = (k, value) ∨ e ∈ l := by
  induction l with
  | nil => exact .inl (List.mem_singleton.mp h)
  | cons first rest ih =>
    simp only [put] at h
    split at h
    · rcases List.mem_cons.mp h with new | old
      · exact .inl new
      · exact .inr (List.mem_cons_of_mem _ old)
    split at h
    · exact List.mem_cons.mp h
    · rcases List.mem_cons.mp h with rfl | later
      · exact .inr List.mem_cons_self
      · exact (ih later).imp_right (List.mem_cons_of_mem _)

/-- Keys in ascending order, and so each of them once. -/
def Ascending (l : List (String × String)) : Prop := l.Pairwise fun e e' => e.1 < e'.1

theorem Ascending.put (h : Ascending l) : Ascending (put k value l) := by
  induction l with
  | nil => exact List.pairwise_singleton _ _
  | cons first rest ih =>
    obtain ⟨above, rest'⟩ := List.pairwise_cons.mp h
    simp only [Headers.put]
    split
    · rename_i same
      exact List.pairwise_cons.mpr ⟨fun e he => same ▸ above e he, rest'⟩
    split
    · rename_i less
      refine List.pairwise_cons.mpr ⟨fun e he => ?_, h⟩
      rcases List.mem_cons.mp he with rfl | later
      · exact less
      · exact less.trans (above e later)
    · rename_i other notLess
      refine List.pairwise_cons.mpr ⟨fun e he => ?_, ih rest'⟩
      rcases mem_put he with rfl | later
      · exact lt_of_le_of_ne (not_lt.mp notLess) (Ne.symm other)
      · exact above e later

theorem Ascending.nodup (h : Ascending l) : (l.map Prod.fst).Nodup :=
  List.pairwise_map.mpr (h.imp fun less => ne_of_lt less)

/-- What a response keeps of its headers. -/
structure Clean (h : Headers) : Prop where
  ascending : Ascending h.entries
  token : ∀ e ∈ h.toList, Header.IsToken e.1 ∧ Header.IsLower e.1
  unbroken : ∀ e ∈ h.toList, Header.Unbroken e.2

theorem clean_empty : Clean {} := ⟨.nil, by simp [toList], by simp [toList]⟩

theorem Clean.insert {h : Headers} {name : String} (clean : h.Clean)
    (token : Header.IsToken (Header.key name)) (unbroken : Header.Unbroken value) :
    (h.insert name value).Clean := by
  refine ⟨clean.ascending.put, fun e he => ?_, fun e he => ?_⟩
  · rcases mem_put he with rfl | old
    · exact ⟨token, Header.isLower_key name⟩
    · exact clean.token e old
  · rcases mem_put he with rfl | old
    · exact unbroken
    · exact clean.unbroken e old

theorem Clean.erase {h : Headers} (clean : h.Clean) (name : String) : (h.erase name).Clean := by
  have old : ∀ e ∈ (h.erase name).toList, e ∈ h.toList := fun e he => (List.mem_filter.mp he).1
  exact ⟨clean.ascending.filter _, fun e he => clean.token e (old e he),
    fun e he => clean.unbroken e (old e he)⟩

end Headers

/-! ## Responses -/

namespace Response

variable {r r' : Response} {name value : String}

/-- A header is stored where it may be sent; otherwise the response is left alone. -/
theorem setHeader_ok_iff : (∃ old r', r.setHeader name value = .ok (old, r')) ↔
    Header.IsToken (Header.key name) ∧ Header.Unbroken value := by
  rw [← Header.validate_eq_ok_iff, setHeader]
  cases Header.validate (Header.key name) value with
  | ok u => simp
  | error e => simp

theorem clean_setHeader {old : Option String} (clean : r.headers.Clean)
    (h : r.setHeader name value = .ok (old, r')) : r'.headers.Clean := by
  obtain ⟨token, unbroken⟩ := setHeader_ok_iff.mp ⟨old, r', h⟩
  simp only [setHeader, (Header.validate_eq_ok_iff _ _).mpr ⟨token, unbroken⟩, Except.ok.injEq,
    Prod.mk.injEq] at h
  rw [← h.2]
  exact clean.insert token unbroken

theorem headers_finalize (r : Response) (status : UInt16) :
    (r.finalize status).headers = r.headers := by
  unfold finalize
  split <;> rfl

end Response

end ModuleHost
