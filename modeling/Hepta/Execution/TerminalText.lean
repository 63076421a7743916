import Hepta.Library.Text
import Hepta.Execution.Recovery

/-!
# Reading back what the fences write

The numbers in the status of a fence record and the binding of the terminal fence come back as
they were written.
-/

namespace Hepta

open String List

/-! ### Numbers -/

lemma decimalValue_toString (n : Nat) : decimalValue (toString n).toList = some n := by
  have hf : ∀ (dgs : List Char) (k : Nat), (∀ c ∈ dgs, c.isDigit = true) →
      dgs.foldl (fun value c => value.bind fun n =>
        if '0' ≤ c ∧ c ≤ '9' then some (10 * n + (c.toNat - '0'.toNat)) else none) (some k) =
      some (Nat.ofDigitChars 10 dgs k) := by
    intro dgs
    induction dgs with
    | nil => exact fun _ _ => rfl
    | cons c dgs ih =>
      intro k hd
      obtain ⟨hc, hs⟩ := List.forall_mem_cons.mp hd
      have hr : '0' ≤ c ∧ c ≤ '9' := by
        simp only [Char.isDigit, Bool.and_eq_true, decide_eq_true_eq] at hc
        exact hc
      rw [foldl_cons, Nat.ofDigitChars_cons, Option.bind_some, if_pos hr]
      exact ih _ hs
  rw [Nat.toString_eq_ofList_toDigits, toList_ofList, decimalValue,
    if_neg Nat.toDigits_ne_nil, hf _ 0 fun c hc =>
      Nat.isDigit_of_mem_toDigits (by decide) (by decide) hc, Nat.ofDigitChars_ten_toDigits]

lemma toNat_of_isDigit {c : Char} (h : c.isDigit = true) : 48 ≤ c.toNat ∧ c.toNat ≤ 57 := by
  simpa [Char.isDigit, UInt32.le_iff_toNat_le] using h

lemma toString_ne_nil (n : Nat) : (toString n).toList ≠ [] := by
  rw [Nat.toString_eq_ofList_toDigits, toList_ofList]
  exact Nat.toDigits_ne_nil

@[simp] lemma strtoull_toString (n : UInt64) : strtoull (toString n.toNat) = some n := by
  have hd : ∀ c ∈ (toString n.toNat).toList, 48 ≤ c.toNat ∧ c.toNat ≤ 57 := fun c hc =>
    toNat_of_isDigit (Nat.isDigit_of_mem_toString hc)
  have hv := decimalValue_toString n.toNat
  have hl : n.toNat < 2 ^ 64 := n.toNat_lt
  unfold strtoull
  have hnl : (toString n.toNat).toList.takeWhile (·.toNat ≠ 0) = (toString n.toNat).toList := by
    rw [takeWhile_eq_self_iff]
    intro c hc
    have := hd c hc
    simp only [ne_eq, decide_not, Bool.not_eq_true', decide_eq_false_iff_not]
    omega
  rw [hnl]
  obtain ⟨c, rest, ht⟩ := exists_cons_of_ne_nil (toString_ne_nil n.toNat)
  rw [ht] at hd hv ⊢
  have hc := hd c mem_cons_self
  have hs : isSpace c = false := by
    simp only [isSpace, Bool.or_eq_false_iff, decide_eq_false_iff_not, Bool.and_eq_false_iff]
    omega
  have hm : c ≠ '-' := by
    rintro rfl
    simp at hc
  have hp : c ≠ '+' := by
    rintro rfl
    simp at hc
  simpa [hs, hm, hp, hv] using hl

lemma parseUnsigned_repr (n : UInt64) : parseUnsigned n.toNat.repr = some n := by
  change parseUnsigned (toString n.toNat) = some n
  have ht : n.toNat < 2 ^ 64 := n.toNat_lt
  unfold parseUnsigned
  rw [if_neg, decimalValue_toString]
  · simpa using ht
  · rintro ⟨hl, hh⟩
    rw [Nat.toString_eq_ofList_toDigits, toList_ofList] at hl hh
    rw [Nat.head?_toDigits hh] at hl
    simp [Nat.toDigits_zero] at hl

@[simp] lemma userRecoveryFence_released : userRecoveryFence "released" = none := by
  decide +kernel

@[simp] lemma userRecoveryFence_userRecoveryRelease {fence : UInt64} (h : fence ≠ 0) :
    userRecoveryFence (userRecoveryRelease fence) = some (some fence) := by
  unfold userRecoveryFence userRecoveryRelease
  generalize "released-user-recovery:" = released
  have hs : released.toList.isPrefixOf (released ++ toString fence.toNat).toList = true := by
    rw [List.isPrefixOf_iff_prefix, toList_append]
    exact prefix_append _ _
  have hr : String.ofList ((released ++ toString fence.toNat).toList.drop
      released.toList.length) = toString fence.toNat := by
    rw [toList_append, drop_left, ofList_toList]
  simp only [hs, if_true, hr, strtoull_toString]
  simp [h]

/-! ### Hexadecimal text -/

lemma hexValue_hexDigit {n : Nat} (h : n < 16) : hexValue (hexDigit n) = some n := by
  have ha : ∀ n < 16, hexValue (hexDigit n) = some n := by decide
  exact ha n h

variable {value : String} {maximum : Nat}

lemma ascii_of_isText (h : isText value maximum = true) :
    value ≠ "" ∧ ∀ c ∈ value.toList, 0x21 ≤ c.toNat ∧ c.toNat ≤ 0x7e := by
  simp only [isText, Bool.and_eq_true, decide_eq_true_eq, all_eq_true] at h
  exact ⟨h.1.1, h.2⟩

lemma hexText_toList (h : ∀ c ∈ value.toList, c.toNat ≤ 127) :
    (hexText value).toList =
      value.toList.flatMap fun c => [hexDigit (c.toNat / 16), hexDigit (c.toNat % 16)] := by
  rw [hexText, toList_ofList, toByteArray_toList_of_ascii h, flatMap_map]
  refine flatMap_congr fun c hc => ?_
  have hb : (UInt8.ofNat c.toNat).toNat = c.toNat := by
    have := h c hc
    simp only [UInt8.toNat_ofNat']
    omega
  rw [hb]

lemma decodeHexChars_flatMap {chars : List Char} (h : ∀ c ∈ chars, c.toNat ≤ 127) :
    decodeHexChars (chars.flatMap fun c => [hexDigit (c.toNat / 16), hexDigit (c.toNat % 16)]) =
      some chars := by
  induction chars with
  | nil => rfl
  | cons c chars ih =>
    obtain ⟨hc, hr⟩ := List.forall_mem_cons.mp h
    have hb : 16 * (c.toNat / 16) + c.toNat % 16 = c.toNat := Nat.div_add_mod c.toNat 16
    rw [flatMap_cons]
    simp only [cons_append, nil_append, decodeHexChars,
      hexValue_hexDigit (show c.toNat / 16 < 16 by omega),
      hexValue_hexDigit (show c.toNat % 16 < 16 by omega), ih hr]
    change some (Char.ofNat (16 * (c.toNat / 16) + c.toNat % 16) :: chars) = _
    rw [hb, Char.ofNat_toNat]

lemma decodeHex_hexText (h : isText value maximum = true) :
    decodeHex (hexText value) = some value := by
  obtain ⟨hne, hch⟩ := ascii_of_isText h
  have ha : ∀ c ∈ value.toList, c.toNat ≤ 127 := fun c hc => by
    have := (hch c hc).2
    omega
  have hh : hexText value ≠ "" := by
    intro he
    have hl := hexText_toList ha
    rw [he] at hl
    cases hv : value.toList with
    | nil => exact hne (String.toList_eq_nil_iff.mp hv)
    | cons => simp [hv] at hl
  rw [decodeHex, if_neg hh, hexText_toList ha, decodeHexChars_flatMap ha, Option.map_some,
    ofList_toList]

/-! ### The binding -/

/-- A value that fits on a line of the journaled text. -/
def IsValue (value : String) : Prop := value ≠ "" ∧ '\n' ∉ value.toList

lemma isValue_of_isText (h : isText value maximum = true) : IsValue value := by
  obtain ⟨he, hc⟩ := ascii_of_isText h
  refine ⟨he, fun hm => ?_⟩
  have := hc _ hm
  simp at this

lemma isValue_toString (n : Nat) : IsValue (toString n) := by
  refine ⟨fun h => toString_ne_nil n (by rw [h]; rfl), fun hm => ?_⟩
  have := toNat_of_isDigit (Nat.isDigit_of_mem_toString hm)
  simp at this

lemma isValue_hexText (h : isText value maximum = true) : IsValue (hexText value) := by
  have hdc := decodeHex_hexText h
  refine ⟨fun he => by simp [he, decodeHex] at hdc, fun hm => ?_⟩
  obtain ⟨-, hh⟩ := ascii_of_isText h
  rw [hexText_toList fun c hc => by have := (hh c hc).2; omega] at hm
  obtain ⟨c, hc, hm⟩ := List.mem_flatMap.mp hm
  have hd : ∀ n < 16, '\n' ≠ hexDigit n := by decide
  have := hh c hc
  simp only [mem_cons, not_mem_nil, or_false] at hm
  rcases hm with hm | hm
  · exact hd _ (by omega) hm
  · exact hd _ (by omega) hm

lemma isValue_of_isSha256Value (h : isSha256Value value = true) : IsValue value := by
  simp only [isSha256Value, Bool.and_eq_true, decide_eq_true_eq, all_eq_true] at h
  obtain ⟨⟨hs, hnm⟩, hd⟩ := h
  refine ⟨fun he => by simp [he] at hs, fun hm => ?_⟩
  rw [← take_append_drop 7 value.toList, mem_append] at hm
  rcases hm with hm | hm
  · rw [hnm] at hm
    exact absurd hm (by decide)
  · exact absurd (hd _ hm) (by decide)

namespace PaperTerminalFenceBinding

def line (field : String × String) : List Char := field.1.toList ++ '=' :: field.2.toList

lemma parseField_line {field : String × String} (hm : field.1 ≠ "" ∧ '=' ∉ field.1.toList)
    (hv : field.2 ≠ "") : parseField (line field) = some field := by
  obtain ⟨name, value⟩ := field
  have ht : (line (name, value)).takeWhile (· ≠ '=') = name.toList := by
    rw [line, takeWhile_append_of_pos]
    · simp
    intro c hc
    have : c ≠ '=' := by
      rintro rfl
      exact hm.2 hc
    simpa using this
  have hm' : name.toList ≠ [] := fun h => hm.1 (String.toList_eq_nil_iff.mp h)
  have hv' : value.toList ≠ [] := fun h => hv (String.toList_eq_nil_iff.mp h)
  have hr : (line (name, value)).drop (name.toList.length + 1) = value.toList := by
    simp [line]
  have hl : name.toList ≠ line (name, value) := by
    intro h
    simpa [line] using congrArg List.length h
  simp only [parseField, ht, hr]
  rw [if_neg (by simp [hl, hm', hv']), ofList_toList, ofList_toList]

lemma parseFields_lines {fields : List (String × String)}
    (hf : ∀ field ∈ fields, (field.1 ≠ "" ∧ '=' ∉ field.1.toList) ∧ field.2 ≠ "")
    (hd : (fields.map Prod.fst).Nodup) :
    parseFields (fields.map line ++ [[]]) = some fields := by
  induction fields with
  | nil => rfl
  | cons field fields ih =>
    obtain ⟨⟨hm, hv⟩, hr⟩ := List.forall_mem_cons.mp hf
    rw [map_cons, nodup_cons] at hd
    have hl : line field ≠ [] := by simp [line]
    have hw : (fields.lookup field.1).isSome = false := by
      rw [Option.isSome_eq_false_iff, Option.isNone_iff_eq_none, lookup_eq_none_iff]
      intro other ho
      have : field.1 ≠ other.1 := by
        intro h
        exact hd.1 (h ▸ mem_map_of_mem ho)
      simpa using this
    rw [map_cons, cons_append, parseFields, if_neg hl, parseField_line hm hv, ih hr hd.2]
    change (if (fields.lookup field.1).isSome = true then none else some (field :: fields)) = _
    rw [hw]
    rfl

variable {binding : PaperTerminalFenceBinding}

lemma encode_toList (h : binding.valid = true) : binding.encode.toList =
      ("HPTF2".toList :: binding.fields.map line).flatMap (· ++ ['\n']) := by
  have hf : ∀ (fields : List (String × String)) (out : String),
      (fields.foldl (fun out field => out ++ field.1 ++ "=" ++ field.2 ++ "\n") out).toList =
        out.toList ++ (fields.map line).flatMap (· ++ ['\n']) := by
    intro fields
    induction fields with
    | nil => simp
    | cons field fields ih =>
      intro out
      rw [foldl_cons, ih, map_cons, flatMap_cons]
      simp [line, toList_append]
  rw [encode, if_pos h, hf]
  rfl

lemma isValue_of_valid (h : binding.valid = true) : ∀ field ∈ binding.fields, IsValue field.2 := by
  simp only [valid, Bool.and_eq_true, decide_eq_true_eq] at h
  obtain ⟨⟨⟨⟨⟨⟨⟨⟨⟨⟨⟨⟨hg, hs⟩, ha⟩, hd⟩, hf⟩, hr⟩, -⟩, he⟩, -⟩, -⟩, -⟩, -⟩, hc⟩ := h
  simp only [fields, forall_mem_cons]
  exact ⟨isValue_hexText hg, isValue_hexText hs, isValue_hexText ha,
    isValue_hexText hd, isValue_of_isText hf, isValue_of_isSha256Value hr,
    isValue_toString _, isValue_hexText he, isValue_toString _, isValue_toString _,
    isValue_toString _, isValue_toString _, isValue_of_isSha256Value hc, by simp⟩

/-- The binding with no more of its owner than the text keeps. -/
def journaled (binding : PaperTerminalFenceBinding) : PaperTerminalFenceBinding :=
  { binding with
    owner := {
      agentId := binding.owner.agentId
      sessionId := binding.owner.sessionId
      account := binding.owner.account
      executionDomain := binding.owner.executionDomain } }

lemma ofFields_fields (h : binding.valid = true) :
    ofFields binding.fields = some binding.journaled := by
  simp only [valid, Bool.and_eq_true, decide_eq_true_eq] at h
  obtain ⟨⟨⟨⟨⟨⟨⟨⟨⟨⟨⟨⟨hg, hs⟩, ha⟩, hd⟩, -⟩, -⟩, -⟩, he⟩, -⟩, -⟩, -⟩, -⟩, -⟩ := h
  simp [ofFields, fields, journaled, List.lookup, decodeHex_hexText hg,
    decodeHex_hexText hs, decodeHex_hexText ha, decodeHex_hexText hd,
    decodeHex_hexText he, parseUnsigned_repr]

/-- The journaled text of a valid binding reads back. -/
theorem decode_encode (h : binding.valid = true) :
    decode binding.encode = .ok binding.journaled := by
  have hm : binding.fields.map Prod.fst = fieldNames := rfl
  have hfl : ∀ field ∈ binding.fields,
      (field.1 ≠ "" ∧ '=' ∉ field.1.toList) ∧ field.2 ≠ "" := by
    intro field hf
    have hna : field.1 ∈ fieldNames := hm ▸ mem_map_of_mem hf
    have ha : ∀ name ∈ fieldNames, name ≠ "" ∧ '=' ∉ name.toList := by decide
    exact ⟨ha _ hna, (isValue_of_valid h field hf).1⟩
  have hl : ∀ chars ∈ "HPTF2".toList :: binding.fields.map line, '\n' ∉ chars := by
    refine List.forall_mem_cons.mpr ⟨by decide, fun chars hc => ?_⟩
    obtain ⟨field, hf, rfl⟩ := List.mem_map.mp hc
    have hna : field.1 ∈ fieldNames := hm ▸ mem_map_of_mem hf
    have ha : ∀ name ∈ fieldNames, '\n' ∉ name.toList := by decide
    simp [line, ha _ hna, (isValue_of_valid h field hf).2]
  have hcm : ¬ (binding.fields.length ≠ fieldNames.length ∨
      ¬ ∀ name ∈ fieldNames, (binding.fields.lookup name).isSome) := by
    simp [fields, fieldNames, List.lookup]
  have hv : binding.journaled.valid = true := h
  rw [decode, encode_toList h, splitOn_flatMap_concat hl]
  simp only [cons_append, ne_eq, not_true_eq_false, if_false,
    parseFields_lines hfl (hm ▸ by decide)]
  rw [if_neg hcm, ofFields_fields h]
  simp only [hv, if_true]

lemma decode_error {text rs : String} (h : decode text = .error rs) :
    rs = "IB_PAPER_TERMINAL_FENCE_V2_REQUIRED" ∨
      rs = "IB_PAPER_TERMINAL_FENCE_BINDING_INVALID" := by
  unfold decode at h
  split at h
  · exact .inl (Except.error.inj h).symm
  split_ifs at h
  · exact .inl (Except.error.inj h).symm
  split at h
  · exact .inr (Except.error.inj h).symm
  split_ifs at h
  · exact .inr (Except.error.inj h).symm
  split at h
  · exact .inr (Except.error.inj h).symm
  split_ifs at h
  exact .inr (Except.error.inj h).symm

end PaperTerminalFenceBinding

end Hepta
