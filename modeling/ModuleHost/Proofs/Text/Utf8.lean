import Mathlib.Data.String.Basic
import ModuleHost.Text.Utf8

/-!
# UTF-8 written and read

The bytes of a text read as that text, strictly and leniently (`decode?_encode`,
`decodeLossy_encode`): the reader takes the bytes of one character at a time (`unitsFrom_char`), with
a case for each length that `String.utf8EncodeChar` writes.

A character below 0x80 is its own one byte, and every byte of any other character is 0x80 or above,
so what is asked of all bytes of a text can be asked of its characters (`forall_mem_encode`).
-/
namespace ModuleHost.Text

namespace Utf8

theorem toNat_ofNat {n : Nat} (h : n < 256) : (UInt8.ofNat n).toNat = n := by
  rw [UInt8.toNat_ofNat']
  exact Nat.mod_eq_of_lt h

/-! ## The reader inside a character -/

variable {low high : UInt8} {bits n : Nat} {rest : Bytes}

theorem unitsFrom_more {count : Nat} (h : n < 256) (hl : low.toNat ≤ n) (hh : n ≤ high.toNat) :
    unitsFrom (.owed (count + 2) low high bits) (UInt8.ofNat n :: rest) =
      unitsFrom (.owed (count + 1) 0x80 0xBF (bits * 64 + n % 64)) rest := by
  have within : low ≤ UInt8.ofNat n ∧ UInt8.ofNat n ≤ high := by
    simp only [UInt8.le_iff_toNat_le, toNat_ofNat h]
    exact ⟨hl, hh⟩
  have more : ¬ count + 2 ≤ 1 := by omega
  simp only [unitsFrom, step, within, and_self, if_true, more, if_false, toNat_ofNat h,
    List.nil_append]
  rfl

theorem unitsFrom_last :
    unitsFrom (.owed 1 0x80 0xBF bits) (UInt8.ofNat (n % 64 + 128) :: rest) =
      some (Char.ofNat (bits * 64 + n % 64)) :: unitsFrom .start rest := by
  have h : n % 64 + 128 < 256 := by omega
  have within : 0x80 ≤ UInt8.ofNat (n % 64 + 128) ∧ UInt8.ofNat (n % 64 + 128) ≤ 0xBF := by
    simp only [UInt8.le_iff_toNat_le, toNat_ofNat h]
    exact ⟨Nat.le_add_left _ _, show n % 64 + 128 ≤ 0xBF by omega⟩
  have value : (n % 64 + 128) % 64 = n % 64 := by omega
  simp only [unitsFrom, step, within, and_self, if_true, Nat.le_refl, toNat_ofNat h, value,
    List.singleton_append]

theorem unitsFrom_lead {p : Pending} (h : n < 256) (past : 0x80 ≤ n)
    (lead : lead? (UInt8.ofNat n) = some p) :
    unitsFrom .start (UInt8.ofNat n :: rest) = unitsFrom p rest := by
  have wide : ¬ UInt8.ofNat n < 0x80 := by
    rw [UInt8.lt_iff_toNat_lt, toNat_ofNat h]
    exact Nat.not_lt.mpr past
  simp only [unitsFrom, step, first, wide, if_false, lead, List.nil_append]

theorem unitsFrom_ascii (h : n < 0x80) :
    unitsFrom .start (UInt8.ofNat n :: rest) = some (Char.ofNat n) :: unitsFrom .start rest := by
  have narrow : UInt8.ofNat n < 0x80 := by
    rw [UInt8.lt_iff_toNat_lt, toNat_ofNat (by omega)]
    exact h
  simp only [unitsFrom, step, first, narrow, if_true, toNat_ofNat (show n < 256 by omega),
    List.singleton_append]

/-! ## The bytes that lead -/

theorem eq_ofNat_iff {k : Nat} (h : n < 256) (hk : k < 256) :
    UInt8.ofNat n = UInt8.ofNat k ↔ n = k := by
  rw [← UInt8.toNat_inj, toNat_ofNat h, toNat_ofNat hk]

theorem lead_ofNat (h : n < 256) : lead? (UInt8.ofNat n) =
    if 0xC2 ≤ n ∧ n ≤ 0xDF then some (.owed 1 0x80 0xBF (n % 0x20))
    else if n = 0xE0 then some (.owed 2 0xA0 0xBF 0)
    else if n = 0xED then some (.owed 2 0x80 0x9F 0xD)
    else if 0xE1 ≤ n ∧ n ≤ 0xEF then some (.owed 2 0x80 0xBF (n % 0x10))
    else if n = 0xF0 then some (.owed 3 0x90 0xBF 0)
    else if 0xF1 ≤ n ∧ n ≤ 0xF3 then some (.owed 3 0x80 0xBF (n % 0x8))
    else if n = 0xF4 then some (.owed 3 0x80 0x8F 4)
    else none := by
  have eq (k : Nat) (hk : k < 256) : UInt8.ofNat n = UInt8.ofNat k ↔ n = k := eq_ofNat_iff h hk
  have e0 := eq 0xE0 (by decide)
  have ed := eq 0xED (by decide)
  have f0 := eq 0xF0 (by decide)
  have f4 := eq 0xF4 (by decide)
  simp only [lead?, UInt8.le_iff_toNat_le, toNat_ofNat h]
  simp only [UInt8.reduceOfNat] at e0 ed f0 f4
  simp only [e0, ed, f0, f4]
  rfl

/-- **The bytes of a character read as that character.** -/
theorem unitsFrom_char (c : Char) (rest : Bytes) :
    unitsFrom .start (String.utf8EncodeChar c ++ rest) = some c :: unitsFrom .start rest := by
  have valid : c.toNat < 0xD800 ∨ 0xDFFF < c.toNat ∧ c.toNat < 0x110000 := c.valid
  have same : Char.ofNat c.toNat = c := Char.ofNat_toNat c
  have number : c.val.toNat = c.toNat := rfl
  simp only [String.utf8EncodeChar, number]
  generalize c.toNat = n at valid same
  split
  · rw [List.singleton_append, unitsFrom_ascii (by omega), same]
  split
  · -- Two bytes.
    have value : n / 64 % 32 + 192 = n / 64 + 192 := by omega
    simp only [List.cons_append, List.nil_append, value]
    have lead : lead? (UInt8.ofNat (n / 64 + 192)) = some (.owed 1 0x80 0xBF (n / 64)) := by
      rw [lead_ofNat (by omega), if_pos (by omega)]
      congr 2
      omega
    rw [unitsFrom_lead (by omega) (by omega) lead, unitsFrom_last, ← same]
    congr 3
    omega
  split
  · -- Three bytes; the second is bounded after 0xE0, and after 0xED by what is no character.
    have value : n / 4096 % 16 + 224 = n / 4096 + 224 := by omega
    have lead : ∃ low high, lead? (UInt8.ofNat (n / 4096 + 224)) =
          some (.owed 2 low high (n / 4096)) ∧
        low.toNat ≤ n / 64 % 64 + 128 ∧ n / 64 % 64 + 128 ≤ high.toNat := by
      rw [lead_ofNat (by omega), if_neg (by omega)]
      split
      · exact ⟨0xA0, 0xBF, by congr 2; omega, by show 0xA0 ≤ _; omega, by show _ ≤ 0xBF; omega⟩
      split
      · exact ⟨0x80, 0x9F, by congr 2; omega, by show 0x80 ≤ _; omega, by show _ ≤ 0x9F; omega⟩
      rw [if_pos (by omega)]
      exact ⟨0x80, 0xBF, by congr 2; omega, by show 0x80 ≤ _; omega, by show _ ≤ 0xBF; omega⟩
    obtain ⟨low, high, lead, hl, hh⟩ := lead
    simp only [List.cons_append, List.nil_append, value]
    rw [unitsFrom_lead (by omega) (by omega) lead, unitsFrom_more (by omega) hl hh, unitsFrom_last,
      ← same]
    congr 3
    omega
  · -- Four bytes; the second is bounded after 0xF0 and after 0xF4.
    have value : n / 262144 % 8 + 240 = n / 262144 + 240 := by omega
    have lead : ∃ low high, lead? (UInt8.ofNat (n / 262144 + 240)) =
          some (.owed 3 low high (n / 262144)) ∧
        low.toNat ≤ n / 4096 % 64 + 128 ∧ n / 4096 % 64 + 128 ≤ high.toNat := by
      rw [lead_ofNat (by omega), if_neg (by omega), if_neg (by omega), if_neg (by omega),
        if_neg (by omega)]
      split
      · exact ⟨0x90, 0xBF, by congr 2; omega, by show 0x90 ≤ _; omega, by show _ ≤ 0xBF; omega⟩
      split
      · exact ⟨0x80, 0xBF, by congr 2; omega, by show 0x80 ≤ _; omega, by show _ ≤ 0xBF; omega⟩
      rw [if_pos (by omega)]
      exact ⟨0x80, 0x8F, by congr 2; omega, by show 0x80 ≤ _; omega, by show _ ≤ 0x8F; omega⟩
    obtain ⟨low, high, lead, hl, hh⟩ := lead
    simp only [List.cons_append, List.nil_append, value]
    have third : (0x80 : UInt8).toNat ≤ n / 64 % 64 + 128 ∧
        n / 64 % 64 + 128 ≤ (0xBF : UInt8).toNat :=
      ⟨Nat.le_add_left _ _, show n / 64 % 64 + 128 ≤ 0xBF by omega⟩
    rw [unitsFrom_lead (by omega) (by omega) lead, unitsFrom_more (by omega) hl hh,
      unitsFrom_more (by omega) third.1 third.2, unitsFrom_last, ← same]
    congr 3
    omega

theorem units_flatMap (cs : List Char) :
    units (cs.flatMap String.utf8EncodeChar) = cs.map some := by
  induction cs with
  | nil => rfl
  | cons c cs ih =>
    rw [List.flatMap_cons, units, unitsFrom_char, List.map_cons]
    exact congrArg _ ih

theorem units_encode (s : String) : units (encode s) = s.toList.map some := units_flatMap s.toList

end Utf8

@[simp] theorem decode?_encode (s : String) : decode? (encode s) = some s := by
  simp only [decode?, Utf8.units_encode, List.all_map, Function.comp_def, Option.isSome_some,
    List.all_eq_true, implies_true, if_true, List.filterMap_map, id, List.filterMap_some,
    String.ofList_toList]

@[simp] theorem decodeLossy_encode (s : String) : decodeLossy (encode s) = s := by
  simp only [decodeLossy, Utf8.units_encode, List.map_map, Function.comp_def, Option.getD_some,
    List.map_id', String.ofList_toList]

/-! ## Bytes and characters -/

theorem Utf8.wide_char {c : Char} (wide : 0x80 ≤ c.toNat) :
    (∃ b, b ∈ String.utf8EncodeChar c) ∧ ∀ b ∈ String.utf8EncodeChar c, 0x80 ≤ b.toNat := by
  have number : c.val.toNat = c.toNat := rfl
  have high : ∀ {b : UInt8} {k : Nat}, 0x80 ≤ k → k < 256 → b = UInt8.ofNat k → 0x80 ≤ b.toNat := by
    rintro b k low high rfl
    rwa [toNat_ofNat high]
  have there : ∀ {b : UInt8} {l : Bytes}, (∀ x ∈ b :: l, 0x80 ≤ x.toNat) →
      (∃ x, x ∈ b :: l) ∧ ∀ x ∈ b :: l, 0x80 ≤ x.toNat :=
    fun h => ⟨⟨_, List.mem_cons_self⟩, h⟩
  simp only [String.utf8EncodeChar, number]
  rw [if_neg (by omega)]
  split
  · refine there fun b hb => ?_
    simp only [List.mem_cons, List.not_mem_nil, or_false] at hb
    rcases hb with hb | hb <;> exact high (by omega) (by omega) hb
  split <;> refine there fun b hb => ?_ <;>
    simp only [List.mem_cons, List.not_mem_nil, or_false] at hb
  · rcases hb with hb | hb | hb <;> exact high (by omega) (by omega) hb
  · rcases hb with hb | hb | hb | hb <;> exact high (by omega) (by omega) hb

/-- A property of bytes and one of characters that agree on ASCII, and are both the same for all that
is not ASCII, agree on texts. -/
theorem forall_mem_encode {p : Char → Prop} {q : UInt8 → Prop} {w : Prop}
    (ascii : ∀ n < 0x80, q (UInt8.ofNat n) ↔ p (Char.ofNat n))
    (char : ∀ c : Char, 0x80 ≤ c.toNat → (p c ↔ w))
    (byte : ∀ b : UInt8, 0x80 ≤ b.toNat → (q b ↔ w)) (s : String) :
    (∀ b ∈ encode s, q b) ↔ ∀ c ∈ s.toList, p c := by
  have one (c : Char) : (∀ b ∈ String.utf8EncodeChar c, q b) ↔ p c := by
    by_cases wide : 0x80 ≤ c.toNat
    · obtain ⟨⟨b, hb⟩, high⟩ := Utf8.wide_char wide
      rw [char c wide]
      exact ⟨fun h => (byte b (high b hb)).mp (h b hb), fun h b hb => (byte b (high b hb)).mpr h⟩
    · have number : c.val.toNat = c.toNat := rfl
      have single : String.utf8EncodeChar c = [UInt8.ofNat c.toNat] := by
        simp only [String.utf8EncodeChar, number]
        rw [if_pos (by omega)]
      have same := ascii c.toNat (by omega)
      rw [Char.ofNat_toNat] at same
      rw [single, List.forall_mem_singleton, same]
  rw [encode, List.forall_mem_flatMap]
  exact forall_congr' fun c => imp_congr_right fun _ => one c

end ModuleHost.Text
