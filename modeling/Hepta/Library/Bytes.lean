import Mathlib

/-!
# Byte strings

Texts of a program whose strings are bytes: hexadecimal and decimal digits, lines and fields.
-/

abbrev Bytes := List UInt8

def ascii (s : String) : Bytes := s.toList.map fun c => UInt8.ofNat c.toNat

def decimal (n : ℕ) : Bytes := (Nat.toDigits 10 n).map fun c => UInt8.ofNat c.toNat

namespace Bytes

open List

def newline : UInt8 := 10

def tab : UInt8 := 9

/-! ### Hexadecimal digits -/

def hexDigit (n : ℕ) : UInt8 := if n < 10 then UInt8.ofNat (48 + n) else UInt8.ofNat (87 + n)

/-- The value of a lower-case digit. -/
def hexValue (c : UInt8) : Option ℕ :=
  if 48 ≤ c.toNat ∧ c.toNat ≤ 57 then some (c.toNat - 48)
  else if 97 ≤ c.toNat ∧ c.toNat ≤ 102 then some (c.toNat - 87)
  else none

def hexEncode : Bytes → Bytes
  | [] => []
  | c :: rest => hexDigit (c.toNat / 16) :: hexDigit (c.toNat % 16) :: hexEncode rest

def hexDecode : Bytes → Option Bytes
  | [] => some []
  | [_] => none
  | high :: low :: rest =>
    match hexValue high, hexValue low, hexDecode rest with
    | some high, some low, some decoded => some (UInt8.ofNat (16 * high + low) :: decoded)
    | _, _, _ => none

/-! ### Lines and fields -/

/-- The lines, as they are read one after the other: what follows the last newline is a line if it is
not empty. -/
def lines : Bytes → List Bytes
  | [] => []
  | c :: rest =>
    if c = newline then [] :: lines rest
    else match lines rest with
      | [] => [[c]]
      | line :: more => (c :: line) :: more

/-- The fields between the separators, of which there is always one. -/
def fields (separator : UInt8) : Bytes → List Bytes
  | [] => [[]]
  | c :: rest =>
    if c = separator then [] :: fields separator rest
    else match fields separator rest with
      | [] => [[c]]
      | field :: more => (c :: field) :: more

variable (s : Bytes)

/-- Every byte is a digit, there is one, and none in front is zero. -/
def digitsValue : Option ℕ :=
  if s = [] ∨ (1 < s.length ∧ s.head? = some 48) then none
  else s.foldl (fun value c =>
    value.bind fun n => if 48 ≤ c.toNat ∧ c.toNat ≤ 57 then some (10 * n + (c.toNat - 48)) else none)
    (some 0)

/-- The number that the digits of a string give, with any zeros in front. -/
def digitsNat : ℕ := s.foldl (fun n c => 10 * n + (c.toNat - 48)) 0

def isDigit (c : UInt8) : Bool := 48 ≤ c.toNat && c.toNat ≤ 57

/-- The order of the strings, byte by byte. -/
def le : Bytes → Bytes → Bool
  | [], _ => true
  | _ :: _, [] => false
  | a :: s, b :: t => a < b || (a = b && le s t)

/-- A line and its newline are read off the front. -/
lemma lines_append {body rest : Bytes} (h : newline ∉ body) :
    lines (body ++ newline :: rest) = body :: lines rest := by
  induction body with
  | nil => simp [lines]
  | cons c body ih =>
    simp only [mem_cons, not_or] at h
    have hc : c ≠ newline := fun heq => h.1 heq.symm
    simp only [cons_append, lines, hc, ↓reduceIte]
    rw [ih h.2]

variable {bodies : List Bytes}

lemma lines_flatten (h : ∀ body ∈ bodies, newline ∉ body) :
    lines ((bodies.map (· ++ [newline])).flatten) = bodies := by
  induction bodies with
  | nil => rfl
  | cons body bodies ih =>
    have hr := ih fun body' hm => h body' (mem_cons_of_mem _ hm)
    simp only [map_cons, flatten_cons, append_assoc, singleton_append]
    rw [lines_append (h body (by simp)), hr]

variable {separator : UInt8} {n : ℕ}

lemma fields_append {body rest : Bytes} (h : separator ∉ body) :
    fields separator (body ++ separator :: rest) = body :: fields separator rest := by
  induction body with
  | nil => simp [fields]
  | cons c body ih =>
    simp only [mem_cons, not_or] at h
    have hc : c ≠ separator := fun heq => h.1 heq.symm
    simp only [cons_append, fields, hc, ↓reduceIte]
    rw [ih h.2]

lemma fields_self {body : Bytes} (h : separator ∉ body) : fields separator body = [body] := by
  induction body with
  | nil => rfl
  | cons c body ih =>
    simp only [mem_cons, not_or] at h
    have hc : c ≠ separator := fun heq => h.1 heq.symm
    simp only [fields, hc, ↓reduceIte]
    rw [ih h.2]

/-- The fields are read back from between the separators. -/
lemma fields_intercalate (he : bodies ≠ []) (h : ∀ body ∈ bodies, separator ∉ body) : fields
    separator ([separator].intercalate bodies) = bodies := by
  induction bodies with
  | nil => exact absurd rfl he
  | cons body bodies ih =>
    cases bodies with
    | nil => simpa using fields_self (h body (by simp))
    | cons =>
      have hr := ih (by simp) fun body' hm => h body' (mem_cons_of_mem _ hm)
      rw [intercalate_cons_cons, append_assoc, singleton_append,
        fields_append (h body (by simp)), hr]

/-! ### Digits -/

lemma hexValue_newline : hexValue newline = none := by decide

lemma hexDigit_ne_newline (h : n < 16) : hexDigit n ≠ newline := by
  revert n
  decide

@[simp] lemma length_hexEncode : (hexEncode s).length = 2 * s.length := by
  induction s with
  | nil => rfl
  | cons c s ih =>
    simp only [hexEncode, length_cons, ih]
    omega

lemma hexEncode_no_newline : newline ∉ hexEncode s := by
  induction s with
  | nil => simp [hexEncode]
  | cons c s ih =>
    have hb := c.toNat_lt
    simp only [hexEncode, mem_cons, not_or]
    exact ⟨(hexDigit_ne_newline (by omega)).symm, (hexDigit_ne_newline (by omega)).symm, ih⟩

lemma hexDigit_ne_tab (h : n < 16) : hexDigit n ≠ tab := by
  revert n
  decide

lemma hexEncode_no_tab : tab ∉ hexEncode s := by
  induction s with
  | nil => simp [hexEncode]
  | cons c s ih =>
    have hb := c.toNat_lt
    simp only [hexEncode, mem_cons, not_or]
    exact ⟨(hexDigit_ne_tab (by omega)).symm, (hexDigit_ne_tab (by omega)).symm, ih⟩

lemma hexValue_hexDigit (h : n < 16) : hexValue (hexDigit n) = some n := by
  revert n
  decide

/-- Every string is read back from its hexadecimal digits. -/
@[simp] lemma hexDecode_hexEncode : hexDecode (hexEncode s) = some s := by
  induction s with
  | nil => rfl
  | cons c s ih =>
    have hb := c.toNat_lt
    have hv : 16 * (c.toNat / 16) + c.toNat % 16 = c.toNat := Nat.div_add_mod _ _
    have hh : c.toNat / 16 < 16 := by omega
    have hl : c.toNat % 16 < 16 := by omega
    simp [hexEncode, hexDecode, hexValue_hexDigit hh, hexValue_hexDigit hl, ih, hv]

lemma le_total (s t : Bytes) : le s t = true ∨ le t s = true := by
  induction s generalizing t with
  | nil => exact .inl rfl
  | cons a s ih =>
    cases t with
    | nil => exact .inr rfl
    | cons b t =>
      simp only [le, Bool.or_eq_true, decide_eq_true_eq, Bool.and_eq_true]
      by_cases ht : a < b
      · exact .inl (.inl ht)
      by_cases heq : a = b
      · subst heq
        rcases ih t with hl | hl
        · exact .inl (.inr ⟨rfl, hl⟩)
        · exact .inr (.inr ⟨rfl, hl⟩)
      · exact .inr (.inl (UInt8.lt_of_le_of_ne (UInt8.not_lt.mp ht) (Ne.symm heq)))

lemma le_antisymm {s t : Bytes} (hs : le s t = true) (ht : le t s = true) : s = t := by
  induction s generalizing t with
  | nil =>
    cases t with
    | nil => rfl
    | cons => cases ht
  | cons a s ih =>
    cases t with
    | nil => cases hs
    | cons =>
      simp only [le, Bool.or_eq_true, decide_eq_true_eq, Bool.and_eq_true] at hs ht
      rcases hs with hl | ⟨rfl, hs⟩
      · rcases ht with hg | ⟨rfl, -⟩
        · exact absurd hg (UInt8.lt_asymm hl)
        · exact absurd hl (UInt8.lt_irrefl _)
      · rcases ht with hg | ⟨-, ht⟩
        · exact absurd hg (UInt8.lt_irrefl _)
        · rw [ih hs ht]

lemma le_trans {s t u : Bytes} (hs : le s t = true) (ht : le t u = true) : le s u = true := by
  induction s generalizing t u with
  | nil => rfl
  | cons a s ih =>
    cases t with
    | nil => cases hs
    | cons =>
      cases u with
      | nil => cases ht
      | cons =>
        simp only [le, Bool.or_eq_true, decide_eq_true_eq, Bool.and_eq_true] at hs ht ⊢
        rcases hs with ha | ⟨rfl, hs⟩
        · rcases ht with hb | ⟨rfl, -⟩
          · exact .inl (UInt8.lt_trans ha hb)
          · exact .inl ha
        · rcases ht with hb | ⟨rfl, ht⟩
          · exact .inl hb
          · exact .inr ⟨rfl, ih hs ht⟩

end Bytes

/-! ### Decimal numbers -/

lemma toNat_digit {c : Char} (h : c.isDigit = true) :
    (UInt8.ofNat c.toNat).toNat = c.toNat ∧ 48 ≤ c.toNat ∧ c.toNat ≤ 57 := by
  simp only [Char.isDigit, Bool.and_eq_true, decide_eq_true_eq] at h
  have hl : 48 ≤ c.toNat := h.1
  have hh : c.toNat ≤ 57 := h.2
  refine ⟨?_, hl, hh⟩
  rw [UInt8.toNat_ofNat']
  omega

lemma isDigit_of_mem_decimal {n : ℕ} {c : UInt8} (h : c ∈ decimal n) : Bytes.isDigit c = true := by
  obtain ⟨d, hd, rfl⟩ := List.mem_map.mp h
  have hg := toNat_digit (Nat.isDigit_of_mem_toDigits (by decide) (by decide) hd)
  simp only [Bytes.isDigit, hg.1, Bool.and_eq_true, decide_eq_true_eq]
  exact hg.2

lemma decimal_no_newline (n : ℕ) : Bytes.newline ∉ decimal n :=
  fun h => absurd (isDigit_of_mem_decimal h) (by decide)

lemma decimal_no_tab (n : ℕ) : Bytes.tab ∉ decimal n :=
  fun h => absurd (isDigit_of_mem_decimal h) (by decide)

lemma decimal_ne_nil (n : ℕ) : decimal n ≠ [] := by
  simp [decimal]

/-- A number is read back from its digits. -/
lemma digitsNat_decimal (n : ℕ) : Bytes.digitsNat (decimal n) = n := by
  have hh : ∀ (l : List Char) (start : ℕ), (∀ c ∈ l, c.isDigit = true) →
      (l.map fun c => UInt8.ofNat c.toNat).foldl (fun m c => 10 * m + (c.toNat - 48)) start =
        Nat.ofDigitChars 10 l start := by
    intro l
    induction l with
    | nil => intro start _; rfl
    | cons c l ih =>
      intro start h
      have hg := toNat_digit (h c (by simp))
      rw [List.map_cons, List.foldl_cons, hg.1, ih _ fun d hd => h d (by simp [hd])]
      rfl
  rw [Bytes.digitsNat, decimal,
    hh _ 0 fun c hc => Nat.isDigit_of_mem_toDigits (by decide) (by decide) hc,
    Nat.ofDigitChars_toDigits (by decide) (by decide)]
