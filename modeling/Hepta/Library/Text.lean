import Mathlib.Data.List.Basic
import Mathlib.Data.Nat.Digits.Defs

/-!
# Texts of numbers and bytes

Decimal texts of numbers, the bytes of ASCII texts, and texts of lines.
-/

namespace Nat

/-- Only the text of zero starts with a zero. -/
lemma head?_toDigits {n : Nat} (h : (toDigits 10 n).head? = some '0') : n = 0 := by
  induction n using Nat.strongRecOn with
  | ind n ih =>
    rcases Nat.lt_or_ge n 10 with hn | hn
    · rw [toDigits_of_lt_base hn, List.head?_cons, Option.some.injEq] at h
      exact digitChar_eq_zero.mp h
    · rw [toDigits_of_base_le (by decide) hn, List.head?_append,
        List.head?_eq_some_head toDigits_ne_nil, Option.some_or] at h
      have := ih (n / 10) (by omega) ((List.head?_eq_some_head toDigits_ne_nil).trans h)
      omega

lemma isDigit_of_mem_toString {n : Nat} {c : Char} (h : c ∈ (toString n).toList) :
    c.isDigit = true := by
  rw [toString_eq_ofList_toDigits, String.toList_ofList] at h
  exact isDigit_of_mem_toDigits (by decide) (by decide) h

end Nat

namespace ByteArray

lemma toList_loop_eq (bytes : ByteArray) (i : Nat) (front : List UInt8) :
    toList.loop bytes i front = front.reverse ++ bytes.data.toList.drop i := by
  induction i, front using toList.loop.induct bytes with
  | case1 i front hl ih =>
    have hi : i < bytes.data.toList.length := by simpa using hl
    have hg : bytes.get! i = bytes.data.toList.get ⟨i, hi⟩ := by
      simp only [get!, List.get_eq_getElem, Array.getElem_toList]
      exact getElem!_pos bytes.data i (by simpa using hl)
    rw [toList.loop, if_pos hl, ih, List.drop_eq_getElem_cons hi, hg]
    simp
  | case2 i front he =>
    have hi : bytes.data.toList.length ≤ i := by simpa using he
    rw [toList.loop, if_neg he, List.drop_eq_nil_of_le hi]
    simp

lemma toList_eq_data (bytes : ByteArray) : bytes.toList = bytes.data.toList := by
  rw [toList, toList_loop_eq]
  simp

end ByteArray

namespace List

/-- The first separator ends the front of a list. -/
lemma append_cons_inj_of_notMem_left {α : Type*} {sep : α} {front front' back back' : List α}
    (h : sep ∉ front) (h' : sep ∉ front') (heq : front ++ sep :: back = front' ++ sep :: back') :
    front = front' ∧ back = back' := by
  induction front generalizing front' with
  | nil =>
    cases front' with
    | nil => simpa using heq
    | cons =>
      simp only [nil_append, cons_append, cons.injEq] at heq
      exact absurd (mem_cons.mpr (.inl heq.1)) h'
  | cons a front ih =>
    rw [mem_cons, not_or] at h
    cases front' with
    | nil =>
      simp only [nil_append, cons_append, cons.injEq] at heq
      exact absurd heq.1.symm h.1
    | cons =>
      rw [mem_cons, not_or] at h'
      simp only [cons_append, cons.injEq] at heq
      obtain ⟨hf, hb⟩ := ih h.2 h'.2 heq.2
      exact ⟨by rw [heq.1, hf], hb⟩

end List

namespace String

lemma toByteArray_toList_of_ascii {text : String} (h : ∀ c ∈ text.toList, c.toNat ≤ 127) :
    text.toByteArray.toList = text.toList.map fun c => UInt8.ofNat c.toNat := by
  have hb : text.toByteArray = text.toList.utf8Encode := by
    rw [← toByteArray_ofList, ofList_toList]
  rw [ByteArray.toList_eq_data, hb, List.utf8Encode, List.toList_data_toByteArray]
  generalize text.toList = chars at h
  induction chars with
  | nil => rfl
  | cons c chars ih =>
    obtain ⟨hc, hh⟩ := List.forall_mem_cons.mp h
    rw [List.flatMap_cons, List.map_cons, ih hh]
    have ho : utf8EncodeChar c = [UInt8.ofNat c.toNat] := by
      have hv : c.val.toNat ≤ 127 := hc
      rw [utf8EncodeChar, if_pos hv]
      rfl
    rw [ho, List.singleton_append]

def sized (text : String) : String := toString text.utf8ByteSize ++ ":" ++ text

/-- Texts of the same size at the front of a text are equal. -/
lemma append_inj_of_size {a b x y : String} (h : a ++ x = b ++ y)
    (hs : a.utf8ByteSize = b.utf8ByteSize) : a = b ∧ x = y := by
  have hb := congrArg (fun text => text.toByteArray.data.toList) h
  simp only [toByteArray_append, ByteArray.data_append, Array.toList_append] at hb
  have hl : a.toByteArray.data.toList.length = b.toByteArray.data.toList.length := by
    simpa using hs
  have key : ∀ {s t : String}, s.toByteArray.data.toList = t.toByteArray.data.toList → s = t := by
    intro s t ht
    apply String.toByteArray_inj.mp
    apply ByteArray.ext
    exact Array.toList_inj.mp ht
  obtain ⟨ha, hx⟩ := List.append_inj hb hl
  exact ⟨key ha, key hx⟩

/-- The size of a text says where it ends. -/
lemma sized_append_inj {a b x y : String} (h : sized a ++ x = sized b ++ y) : a = b ∧ x = y := by
  have hc : ∀ n : Nat, ':' ∉ (toString n).toList := by
    intro n hm
    exact absurd (Nat.isDigit_of_mem_toString hm) (by decide)
  have hl := congrArg toList h
  simp only [sized, toList_append, List.append_assoc] at hl
  have ho : (":" : String).toList = [':'] := rfl
  rw [ho, List.singleton_append, List.singleton_append] at hl
  obtain ⟨hd, hr⟩ := List.append_cons_inj_of_notMem_left (hc _) (hc _) hl
  have hs : a.utf8ByteSize = b.utf8ByteSize := by
    rw [Nat.toString_eq_ofList_toDigits, Nat.toString_eq_ofList_toDigits, toList_ofList,
      toList_ofList] at hd
    have hv := congrArg (Nat.ofDigitChars 10 · 0) hd
    simpa only [Nat.ofDigitChars_ten_toDigits] using hv
  apply append_inj_of_size ?_ hs
  apply String.toList_inj.mp
  simpa using hr

end String

namespace List

variable {α : Type*} [BEq α] [LawfulBEq α]

/-- A text of lines, each closed by the separator, splits into its lines and an empty rest. -/
lemma splitOn_flatMap_concat {sep : α} {lines : List (List α)} (h : ∀ line ∈ lines, sep ∉ line) :
    (lines.flatMap (· ++ [sep])).splitOn sep = lines ++ [[]] := by
  induction lines with
  | nil => simp [splitOn]
  | cons line lines ih =>
    obtain ⟨hln, hl⟩ := List.forall_mem_cons.mp h
    have hf : ∀ x ∈ line, (x == sep) = false := by
      intro x hx
      rw [beq_eq_false_iff_ne]
      rintro rfl
      exact hln hx
    rw [flatMap_cons, append_assoc, singleton_append, splitOn,
      splitOnP_append_cons_of_forall_mem hf sep (by simp)]
    rw [← splitOn, ih hl]
    rfl

end List
