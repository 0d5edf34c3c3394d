import ModuleHost.Proofs.Text.Quoted
import ModuleHost.Text.Digits

/-!
# Quoted texts read back

`unquote?` reads the quoted text at the front of a line, and gives what follows it. The reader knows
at each character where it stands: between two characters, behind a backslash, or in the number of a
character. What `quoteChar` writes brings it from one place between characters to the next
(`unquoteFrom_written`), whatever comes behind, so that no written form can be taken for the
beginning of another, and the first quote that no backslash stands before is the closing one. So a
quoted text is read as what was quoted (`unquote?_quoteChars`).
-/
namespace ModuleHost.Text

/-- Where a reader of a quoted text stands: between characters, behind a backslash, behind the letter
that announces a number, or among its digits, which have made `n` so far. -/
inductive Quoting where
  | between
  | escaped
  | announced
  | number (n : Nat)
  deriving DecidableEq, Repr

/-- The character that stands behind a backslash under this name. -/
def named? (c : Char) : Option Char :=
  [('"', '"'), ('\\', '\\'), ('0', '\x00'), ('t', '\t'), ('n', '\n'), ('r', '\r')].lookup c

/-- The text up to the closing quote, and what follows it. -/
def unquoteFrom : Quoting → List Char → Option (List Char × List Char)
  | _, [] => none
  | .between, c :: rest =>
    if c = '"' then some ([], rest)
    else if c = '\\' then unquoteFrom .escaped rest
    else (unquoteFrom .between rest).map fun r => (c :: r.1, r.2)
  | .escaped, c :: rest =>
    if c = 'u' then unquoteFrom .announced rest
    else (named? c).bind fun d => (unquoteFrom .between rest).map fun r => (d :: r.1, r.2)
  | .announced, c :: rest => if c = '\x7b' then unquoteFrom (.number 0) rest else none
  | .number n, c :: rest =>
    if c = '\x7d' then (unquoteFrom .between rest).map fun r => (Char.ofNat n :: r.1, r.2)
    else (hexValue? c).bind fun d => unquoteFrom (.number (n * 16 + d)) rest

/-- The quoted text at the front, and what follows it. -/
def unquote? : List Char → Option (List Char × List Char)
  | '"' :: rest => unquoteFrom .between rest
  | _ => none

/-! ## Numbers -/

variable {n d : Nat} {rest : List Char}

theorem hexValue?_digitChar (h : d < 16) : hexValue? d.digitChar = some d := by
  have digits : ∀ d < 16, hexValue? (Nat.digitChar d) = some d := by decide
  exact digits d h

theorem unquoteFrom_digit (h : d < 16) :
    unquoteFrom (.number n) (d.digitChar :: rest) = unquoteFrom (.number (n * 16 + d)) rest := by
  have inside : ∀ d < 16, Nat.digitChar d ≠ '\x7d' := by decide
  simp only [unquoteFrom, inside d h, if_false, hexValue?_digitChar h, Option.bind_some]

theorem unquoteFrom_hexDigits (n : Nat) (rest : List Char) :
    unquoteFrom (.number 0) (hexDigits n ++ rest) = unquoteFrom (.number n) rest := by
  induction n using Nat.strongRecOn generalizing rest with
  | _ n ih =>
    rw [hexDigits, Nat.toDigits_eq_if (by decide)]
    split
    · rename_i small
      rw [List.singleton_append, unquoteFrom_digit small, Nat.zero_mul, Nat.zero_add]
    · rename_i large
      have high := ih (n / 16) (Nat.div_lt_self (by omega) (by decide))
        ((n % 16).digitChar :: rest)
      rw [hexDigits] at high
      have value : n / 16 * 16 + n % 16 = n := by omega
      rw [List.append_assoc, List.singleton_append, high,
        unquoteFrom_digit (Nat.mod_lt _ (by decide)), value]

/-! ## Characters and texts -/

/-- The forms in which a character is written: under a name, by its number, or as it stands. -/
inductive Written (c : Char) : List Char → Prop
  | named (x : Char) : x ≠ 'u' → named? x = some c → Written c ['\\', x]
  | number : Written c ('\\' :: 'u' :: '\x7b' :: hexDigits c.toNat ++ ['\x7d'])
  | plain : c ≠ '"' → c ≠ '\\' → Written c [c]

theorem written_quoteChar (c : Char) : Written c (quoteChar c) := by
  unfold quoteChar
  by_cases quote : c = '"'
  · subst quote
    exact .named '"' (by decide) rfl
  by_cases backslash : c = '\\'
  · subst backslash
    exact .named '\\' (by decide) rfl
  rw [if_neg quote, if_neg backslash]
  split
  · rename_i same
    exact .named '0' (by decide) (same ▸ rfl)
  split
  · rename_i same
    exact .named 't' (by decide) (same ▸ rfl)
  split
  · rename_i same
    exact .named 'n' (by decide) (same ▸ rfl)
  split
  · rename_i same
    exact .named 'r' (by decide) (same ▸ rfl)
  split
  · exact .number
  · exact .plain quote backslash

/-- **What is written for a character is read as this character**, whatever follows. -/
theorem unquoteFrom_written {c : Char} {text : List Char} (written : Written c text)
    (rest : List Char) : unquoteFrom .between (text ++ rest) =
      (unquoteFrom .between rest).map fun r => (c :: r.1, r.2) := by
  cases written with
  | named x other name =>
    have escaped : unquoteFrom .between (['\\', x] ++ rest) = unquoteFrom .escaped (x :: rest) := rfl
    rw [escaped, unquoteFrom, if_neg other, name, Option.bind_some]
  | number =>
    have announced : unquoteFrom .between
        ('\\' :: 'u' :: '\x7b' :: hexDigits c.toNat ++ ['\x7d'] ++ rest) =
        unquoteFrom (.number 0) (hexDigits c.toNat ++ '\x7d' :: rest) := by
      rw [List.append_assoc]
      rfl
    rw [announced, unquoteFrom_hexDigits, unquoteFrom, if_pos rfl, Char.ofNat_toNat]
  | plain quote backslash =>
    rw [List.singleton_append, unquoteFrom, if_neg quote, if_neg backslash]

/-- **A quoted text is read as what was quoted**, whatever follows. -/
theorem unquote?_quoteChars (cs rest : List Char) :
    unquote? (quoteChars cs ++ rest) = some (cs, rest) := by
  have inside : unquoteFrom .between (cs.flatMap quoteChar ++ '"' :: rest) = some (cs, rest) := by
    induction cs with
    | nil => rfl
    | cons c cs ih =>
      rw [List.flatMap_cons, List.append_assoc, unquoteFrom_written (written_quoteChar c), ih,
        Option.map_some]
  have opened : quoteChars cs ++ rest = '"' :: (cs.flatMap quoteChar ++ '"' :: rest) := by
    simp only [quoteChars, List.cons_append, List.append_assoc, List.nil_append]
  rw [opened]
  exact inside

end ModuleHost.Text
