import Mathlib.Data.List.GetD
import Mathlib.Tactic.IntervalCases
import Hepta.Adapter.Correlation

/-!
# Order references are read back

Three bytes make four letters, so the 32 bytes of a digest end in three letters, and the last of them
has two bits to spare. The encoder leaves these clear and the decoder refuses a reference in which one
is set, so a correlation has one reference and a reference one correlation.
-/

namespace Hepta

open List

namespace IbVenueCorrelationCodec

variable {c : Char} {v : ℕ} {bytes values : List ℕ} {correlationId orderRef : String}

/-! ### Letters -/

lemma hexValue_eq_some_iff : hexValue c = some v ↔ v < 16 ∧ hexDigits.getD v '0' = c := by
  constructor
  · intro h
    have hc : Char.ofNat c.toNat = c := Char.ofNat_toNat c
    unfold hexValue at h
    rw [← hc]
    generalize hn : c.toNat = n at *
    split_ifs at h with hd ht
    · have hl : 48 ≤ c.toNat := hd.1
      have hh : c.toNat ≤ 57 := hd.2
      rw [hn] at hl hh
      obtain rfl := Option.some_inj.mp h
      interval_cases n <;> decide
    · have hl : 97 ≤ c.toNat := ht.1
      have hh : c.toNat ≤ 102 := ht.2
      rw [hn] at hl hh
      obtain rfl := Option.some_inj.mp h
      interval_cases n <;> decide
  · rintro ⟨hv, rfl⟩
    revert v
    decide

lemma base64Value_eq_some_iff :
    base64Value c = some v ↔ v < 64 ∧ kAlphabet.getD v 'A' = c := by
  constructor
  · intro h
    simp only [base64Value] at h
    split_ifs at h with hl
    obtain rfl := Option.some_inj.mp h
    have hm : kAlphabet.idxOf c < kAlphabet.length := hl
    exact ⟨hl, by rw [getD_eq_getElem _ _ hm, getElem_idxOf]⟩
  · rintro ⟨hv, rfl⟩
    revert v
    decide +kernel

lemma hexBytes_eq_some_iff {text : List Char} :
    hexBytes text = some bytes ↔ (∀ b ∈ bytes, b < 256) ∧ hex bytes = text := by
  constructor
  · intro h
    induction text using hexBytes.induct generalizing bytes with
    | case1 => simp_all [hexBytes, hex]
    | case2 => simp [hexBytes] at h
    | case3 hi low rest ih =>
      simp only [hexBytes, Option.bind_eq_bind, Option.bind_eq_some_iff, Option.some.injEq] at h
      obtain ⟨x, hx, y, hy, tail, ht, rfl⟩ := h
      obtain ⟨hx, rfl⟩ := hexValue_eq_some_iff.mp hx
      obtain ⟨hy, rfl⟩ := hexValue_eq_some_iff.mp hy
      obtain ⟨ha, rfl⟩ := ih ht
      have hh : (x * 16 + y) / 16 % 16 = x := by omega
      have hl : (x * 16 + y) % 16 = y := by omega
      exact ⟨forall_mem_cons.mpr ⟨by omega, ha⟩, by simp [hex, hh, hl]⟩
  · rintro ⟨ha, rfl⟩
    induction bytes with
    | nil => rfl
    | cons b bytes ih =>
      obtain ⟨hb, ha⟩ := forall_mem_cons.mp ha
      have hh := hexValue_eq_some_iff.mpr ⟨Nat.mod_lt (b / 16) (by decide : 0 < 16), rfl⟩
      have hl := hexValue_eq_some_iff.mpr ⟨Nat.mod_lt b (by decide : 0 < 16), rfl⟩
      have hby : b / 16 % 16 * 16 + b % 16 = b := by omega
      change hexBytes (_ :: _ :: hex bytes) = _
      simp only [hexBytes, hh, hl, ih ha]
      exact congrArg (fun b => some (b :: bytes)) hby

lemma length_hex (bytes : List ℕ) : (hex bytes).length = 2 * bytes.length := by
  simp [hex, List.map_const', Nat.mul_comm]

lemma mapM_base64Value_iff {letters : List Char} : letters.mapM base64Value = some values ↔
      (∀ v ∈ values, v < 64) ∧ values.map (fun v => kAlphabet.getD v 'A') = letters := by
  induction letters generalizing values with
  | nil => cases values <;> simp
  | cons c letters ih =>
    cases values with
    | nil => simp [mapM_cons, Option.bind_eq_some_iff]
    | cons v values =>
      simp only [mapM_cons, Option.bind_eq_bind, Option.bind_eq_some_iff, Option.pure_def,
        Option.some.injEq, List.cons.injEq, base64Value_eq_some_iff, ih, forall_mem_cons,
        map_cons]
      grind

/-! ### Three bytes and four letters -/

/-- The bytes of a digest and the values of its letters. -/
inductive Groups : List ℕ → List ℕ → Prop
  | tail {x y u v w : ℕ} : x < 256 → y < 256 → u = x / 4 → v = x % 4 * 16 + y / 16 →
      w = y % 16 * 4 → Groups [x, y] [u, v, w]
  | block {x y z u v w t : ℕ} {bytes values : List ℕ} : x < 256 → y < 256 → z < 256 →
      u = x / 4 → v = x % 4 * 16 + y / 16 → w = y % 16 * 4 + z / 64 → t = z % 64 →
      Groups bytes values → Groups (x :: y :: z :: bytes) (u :: v :: w :: t :: values)

lemma Groups.encode (h : Groups bytes values) (acc : ℕ) : encodeSextets acc 0 bytes = values := by
  induction h generalizing acc with
  | tail =>
    simp [encodeSextets]
    omega
  | block hx hy hz hu hv hw ht _ ih =>
    simp [encodeSextets, ih]
    omega

lemma Groups.decode (h : Groups bytes values) (acc : ℕ) :
    ∃ last, decodeSextets acc 0 values = (bytes, last, 2) ∧ last % 4 = 0 := by
  induction h generalizing acc with
  | tail =>
    simp [decodeSextets]
    omega
  | block hx hy hz hu hv hw ht _ ih =>
    choose last hlast hr using ih
    simp [decodeSextets, hlast, hr]
    omega

lemma Groups.length (h : Groups bytes values) : 3 * values.length = 4 * bytes.length + 1 := by
  induction h with
  | tail => rfl
  | block _ _ _ _ _ _ _ _ ih =>
    simp only [length_cons]
    omega

lemma Groups.bounds (h : Groups bytes values) : (∀ b ∈ bytes, b < 256) ∧ ∀ v ∈ values, v < 64 := by
  induction h with
  | tail => simp; omega
  | block _ _ _ _ _ _ _ _ ih =>
    simp only [forall_mem_cons]
    exact ⟨⟨by omega, by omega, by omega, ih.1⟩, by omega, by omega, by omega, by omega, ih.2⟩

/-- Bytes of which two are left over have letters. -/
lemma exists_groups_of_bytes :
    ∀ bytes : List ℕ, (∀ b ∈ bytes, b < 256) → bytes.length % 3 = 2 → ∃ values, Groups bytes values
  | [], _, h => by simp at h
  | [_], _, h => by simp at h
  | [x, y], ha, _ => by
    simp only [forall_mem_cons] at ha
    exact ⟨_, .tail ha.1 ha.2.1 rfl rfl rfl⟩
  | x :: y :: z :: bytes, ha, hl => by
    simp only [forall_mem_cons] at ha
    obtain ⟨values, h⟩ := exists_groups_of_bytes bytes ha.2.2.2 (by simp at hl; omega)
    exact ⟨_, .block ha.1 ha.2.1 ha.2.2.1 rfl rfl rfl rfl h⟩

/-- Letters of which three are left over have bytes, if the spare bits are clear. -/
lemma groups_of_values :
    ∀ (values : List ℕ) (accumulator : ℕ), (∀ v ∈ values, v < 64) → values.length % 4 = 3 →
      (decodeSextets accumulator 0 values).2.1 % 4 = 0 →
      Groups (decodeSextets accumulator 0 values).1 values
  | [], _, _, h, _ => by simp at h
  | [_], _, _, h, _ => by simp at h
  | [_, _], _, _, h, _ => by simp at h
  | [u, v, w], accumulator, ha, _, hz => by
    simp only [forall_mem_cons] at ha
    simp [decodeSextets] at hz ⊢
    exact .tail (by omega) (by omega) (by omega) (by omega) (by omega)
  | u :: v :: w :: t :: values, accumulator, ha, hl, hz => by
    simp only [forall_mem_cons] at ha
    simp [decodeSextets] at hz ⊢
    exact .block (by omega) (by omega) (by omega) (by omega) (by omega) (by omega) (by omega)
      (groups_of_values values _ ha.2.2.2.2 (by simp at hl; omega) hz)

/-! ### References -/

/-- The correlation and the reference of a digest. -/
def Refers (correlationId orderRef : String) : Prop :=
  ∃ bytes values, Groups bytes values ∧ bytes.length = 32 ∧
    correlationId = kPrefix ++ String.ofList (hex bytes) ∧
    orderRef = String.ofList ('H' :: '1' :: values.map fun v => kAlphabet.getD v 'A')

lemma encodeOrderRef_iff :
    encodeOrderRef correlationId = .ok orderRef ↔ Refers correlationId orderRef := by
  constructor
  · intro h
    simp only [encodeOrderRef] at h
    split_ifs at h with hf
    rw [not_or, not_ne_iff, not_ne_iff] at hf
    split at h
    next => simp at h
    next bytes hb =>
      obtain ⟨ha, hh⟩ := hexBytes_eq_some_iff.mp hb
      have hl : bytes.length = 32 := by
        have := congrArg List.length hh
        simp only [length_hex, length_drop] at this
        omega
      obtain ⟨values, hv⟩ := exists_groups_of_bytes bytes ha (by omega)
      split_ifs at h
      simp only [Except.ok.injEq] at h
      refine ⟨bytes, values, hv, hl, ?_, ?_⟩
      · rw [← String.toList_inj, String.toList_append, String.toList_ofList, hh, ← hf.2,
          take_append_drop]
      · rw [← h, hv.encode]
  · rintro ⟨bytes, values, h, hl, rfl, rfl⟩
    have hh : hexBytes (hex bytes) = some bytes := hexBytes_eq_some_iff.mpr ⟨h.bounds.1, rfl⟩
    have ht : values.length = 43 := by
      have := h.length
      omega
    have hp : kPrefix.length = kPrefix.toList.length := rfl
    simp [encodeOrderRef, hp, length_hex, hl, hh, h.encode, ht]

lemma decodeOrderRef_iff :
    decodeOrderRef orderRef = .ok correlationId ↔ Refers correlationId orderRef := by
  constructor
  · intro h
    simp only [decodeOrderRef] at h
    split_ifs at h with hf
    rw [not_or, not_ne_iff, not_ne_iff] at hf
    split at h
    next => simp at h
    next values hv =>
      obtain ⟨ha, hm⟩ := mapM_base64Value_iff.mp hv
      have hl : values.length = 43 := by
        have := congrArg List.length hm
        simp only [length_map, length_drop] at this
        omega
      split_ifs at h with he
      simp only [Except.ok.injEq, not_or, not_ne_iff] at h he
      refine ⟨_, values, groups_of_values values 0 ha (by omega) he.2.2, he.1, h.symm, ?_⟩
      rw [← String.toList_inj, String.toList_ofList, hm]
      exact (take_append_drop 2 _).symm.trans (by rw [hf.2]; rfl)
  · rintro ⟨bytes, values, h, hl, rfl, rfl⟩
    have ht : values.length = 43 := by
      have := h.length
      omega
    obtain ⟨last, hd, hz⟩ := h.decode 0
    have hm := mapM_base64Value_iff.mpr ⟨h.bounds.2, rfl⟩
    have hf : (values.map fun v => kAlphabet.getD v 'A').length + 1 + 1 = 45 := by
      simp [ht]
    simp only [decodeOrderRef, String.toList_ofList, length_cons, hf, drop_succ_cons,
      drop_zero, hm, hd]
    simp [hl, hz]

/-- A correlation has one reference and a reference one correlation. -/
theorem orderRef_codec (correlationId orderRef : String) :
    (encodeOrderRef correlationId = .ok orderRef ↔ decodeOrderRef orderRef = .ok correlationId) ∧
      ((∃ orderRef, encodeOrderRef correlationId = .ok orderRef) ↔
        ∃ digest : List ℕ, digest.length = 32 ∧ (∀ b ∈ digest, b < 256) ∧
          correlationId = kPrefix ++ String.ofList (hex digest)) ∧
      ∀ other, encodeOrderRef correlationId = .ok orderRef → encodeOrderRef other = .ok orderRef →
        correlationId = other := by
  refine ⟨encodeOrderRef_iff.trans decodeOrderRef_iff.symm, ⟨?_, ?_⟩, ?_⟩
  · rintro ⟨orderRef, h⟩
    obtain ⟨bytes, values, h, hl, hi, -⟩ := encodeOrderRef_iff.mp h
    exact ⟨bytes, hl, h.bounds.1, hi⟩
  · rintro ⟨digest, hl, ha, rfl⟩
    obtain ⟨values, h⟩ := exists_groups_of_bytes digest ha (by omega)
    exact ⟨_, encodeOrderRef_iff.mpr ⟨digest, values, h, hl, rfl, rfl⟩⟩
  · intro other h h'
    rw [encodeOrderRef_iff, ← decodeOrderRef_iff] at h h'
    simpa using h.symm.trans h'

end IbVenueCorrelationCodec

end Hepta
