import ModuleHost.Text.Quoted

/-!
# Quoted texts stand on one line

Whatever a text holds, what `quote` makes of it is printable: an unprintable character is written by
a name or by its number, in digits and signs that are printable themselves (`quote_printable`). All
line breaks are unprintable (`Printable.no_break`), and so are all controls, so that a printable text
stays on one line (`Printable.oneLine`), and printable texts, each closed by a newline, can be told apart
again (`split_lines`).
-/
namespace ModuleHost.Text

/-- Whether every character has a shape of its own. -/
def Printable (cs : List Char) : Prop := ∀ c ∈ cs, isUnprintable c = false

instance (cs : List Char) : Decidable (Printable cs) :=
  List.decidableBAll _ cs

/-- The characters that end a line somewhere: line feed, vertical tab, form feed, carriage return,
next line, and the separators of lines and of paragraphs. -/
def lineBreaks : List Char := ['\n', '\x0B', '\x0C', '\r', '\u0085', '\u2028', '\u2029']

theorem Printable.no_break {cs : List Char} (h : Printable cs) : ∀ c ∈ lineBreaks, c ∉ cs := by
  intro c break_ mem
  have broken : lineBreaks.all isUnprintable = true := by decide +kernel
  have printable := h c mem
  rw [List.all_eq_true.mp broken c break_] at printable
  cases printable

/-- The controls (the general category Cc). -/
def isControl (c : Char) : Bool := c.toNat < 0x20 || (0x7F ≤ c.toNat && c.toNat < 0xA0)

theorem isUnprintable_of_isControl {c : Char} (h : isControl c = true) : isUnprintable c = true := by
  have table : ∀ n < 0xA0, (n < 0x20 || (0x7F ≤ n && n < 0xA0)) = true →
      inRanges n unprintableRanges = true := by decide +kernel
  have low : c.toNat < 0xA0 := by
    simp only [isControl, Bool.or_eq_true, Bool.and_eq_true, decide_eq_true_eq] at h
    omega
  exact table c.toNat low h

/-- Whether a text stays on one line wherever it is shown. -/
def OneLine (line : String) : Prop := ∀ c ∈ line.toList, isControl c = false ∧ c ∉ lineBreaks

theorem Printable.oneLine {line : String} (h : Printable line.toList) : OneLine line := by
  intro c mem
  refine ⟨Bool.eq_false_iff.mpr fun control => ?_, fun break_ => h.no_break c break_ mem⟩
  have printable := h c mem
  rw [isUnprintable_of_isControl control] at printable
  cases printable

theorem printable_append {as bs : List Char} :
    Printable (as ++ bs) ↔ Printable as ∧ Printable bs := by
  simp only [Printable, List.mem_append, or_imp, forall_and]

/-! ## Digits -/

theorem mem_toDigits {b n : Nat} (hb : 1 < b) {c : Char} (h : c ∈ b.toDigits n) :
    ∃ d, d < b ∧ c = d.digitChar := by
  induction n using Nat.strongRecOn with
  | _ n ih =>
    rw [Nat.toDigits_eq_if hb] at h
    split at h
    · rename_i small
      exact ⟨n, small, List.mem_singleton.mp h⟩
    · rename_i large
      rcases List.mem_append.mp h with high | low
      · exact ih (n / b) (Nat.div_lt_self (by omega) hb) high
      · exact ⟨n % b, Nat.mod_lt _ (by omega), List.mem_singleton.mp low⟩

theorem toDigits_printable {b : Nat} (hb : 1 < b) (le : b ≤ 16) (n : Nat) :
    Printable (b.toDigits n) := by
  intro c mem
  obtain ⟨d, lt, rfl⟩ := mem_toDigits hb mem
  have digits : ∀ d < 16, isUnprintable (Nat.digitChar d) = false := by decide
  exact digits d (Nat.lt_of_lt_of_le lt le)

theorem toString_printable (n : Nat) : Printable (toString n).toList := by
  show Printable n.repr.toList
  rw [Nat.toList_repr]
  exact toDigits_printable (by decide) (by decide) n

/-! ## Quotes -/

theorem quoteChar_printable (c : Char) : Printable (quoteChar c) := by
  unfold quoteChar
  split
  · decide
  split
  · decide
  split
  · decide
  split
  · decide
  split
  · decide
  split
  · decide
  split
  · have sign : Printable ['\\', 'u', '\x7b'] ∧ Printable ['\x7d'] := by decide
    have digits : Printable (hexDigits c.toNat) := toDigits_printable (by decide) (by decide) _
    exact printable_append.mpr ⟨printable_append.mpr ⟨sign.1, digits⟩, sign.2⟩
  · rename_i shape
    intro x mem
    obtain rfl := List.mem_singleton.mp mem
    simpa using shape

/-- **A quoted text is printable**, whatever the text holds. -/
theorem quote_printable (s : String) : Printable (quote s).toList := by
  have quotes : Printable ['"'] := by decide
  have inside : Printable (s.toList.flatMap quoteChar) := by
    intro x mem
    obtain ⟨c, -, hx⟩ := List.mem_flatMap.mp mem
    exact quoteChar_printable c x hx
  rw [quote, String.toList_ofList]
  exact printable_append.mpr ⟨printable_append.mpr ⟨quotes, inside⟩, quotes⟩

/-! ## Lines -/

/-- Lines in a row, each closed by a newline. -/
def joinLines (lines : List String) : String := String.join (lines.map (· ++ "\n"))

/-- **Splitting at newlines gives the lines back**, and nothing behind the last newline. -/
theorem split_lines {lines : List String} (h : ∀ line ∈ lines, Printable line.toList) :
    (joinLines lines).toList.splitOn '\n' = lines.map String.toList ++ [[]] := by
  induction lines with
  | nil => rfl
  | cons line rest ih =>
    have unbroken : ∀ c ∈ line.toList, (c == '\n') = false := by
      intro c mem
      refine beq_eq_false_iff_ne.mpr fun same => ?_
      exact (h line List.mem_cons_self).no_break '\n' (by decide) (same ▸ mem)
    have split := ih fun line' mem => h line' (List.mem_cons_of_mem _ mem)
    have first : (joinLines (line :: rest)).toList =
        line.toList ++ '\n' :: (joinLines rest).toList := by
      simp [joinLines, String.toList_join]
    rw [first, List.splitOn, List.splitOnP_append_cons_of_forall_mem unbroken '\n' rfl]
    exact congrArg (line.toList :: ·) split

end ModuleHost.Text
