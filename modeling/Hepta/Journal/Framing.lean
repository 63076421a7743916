import Mathlib.Data.List.Basic

/-!
# Framing of journal records

Three readers cut the bytes of a journal into records: the collector of `OmsJournal::Replay`,
`GenerationReplayRange` and `_strict_records` of the offline tool. Each sees the bytes in blocks and
keeps an unfinished line from one block to the next in its own way. All three are compared with one
machine that takes a byte at a time.
-/

namespace Hepta.OmsFraming

open List

abbrev Bytes := List UInt8

def newline : UInt8 := 10

structure ReplayLimits where
  maxBytes : Nat
  maxRecords : Nat
  maxRecordBytes : Nat
deriving DecidableEq, Repr

/-- The lines read so far and the unfinished one. -/
structure Frames where
  lines : List Bytes := []
  pending : Bytes := []
deriving DecidableEq, Repr

variable (lim : ReplayLimits) (valid : Bytes → Bool)

lemma length_after_newline {bytes : Bytes} {found : Nat}
    (h : bytes.findIdx? (· == newline) = some found) :
    (bytes.drop (found + 1)).length < bytes.length := by
  have hl := (findIdx?_eq_some_iff_getElem.1 h).1
  simp only [length_drop]
  omega

/-! ## The readers -/

/-- The loop of `collect` over one block: `fragment` is what lies between `begin` and `i`.
`pending` stays within the limit (`Framing.short`), so the unsigned difference does not wrap. -/
def collect (fragment : Bytes) : Bytes → Frames → Except String Frames
  | [], s =>
    if fragment.length > lim.maxRecordBytes - s.pending.length then
      .error "OMS_REPLAY_RECORD_BYTE_LIMIT"
    else .ok { s with pending := s.pending ++ fragment }
  | byte :: rest, s =>
    if byte ≠ newline then collect (fragment ++ [byte]) rest s
    else if fragment.length > lim.maxRecordBytes - s.pending.length then
      .error "OMS_REPLAY_RECORD_BYTE_LIMIT"
    else
      let pending := s.pending ++ fragment
      if s.lines.length = lim.maxRecords then .error "OMS_REPLAY_RECORD_COUNT_LIMIT"
      else if pending.isEmpty || !valid pending then .error "OMS_REPLAY_INVALID_RECORD"
      else collect [] rest { lines := s.lines ++ [pending], pending := [] }

/-- `ReadSnapshot` hands every block to the collector, within the budget of logical bytes. -/
def readSnapshot : List Bytes → Nat → Frames → Except String Frames
  | [], _, s => .ok s
  | block :: blocks, logicalBytes, s =>
    if block.length > lim.maxBytes - logicalBytes then .error "OMS_REPLAY_BYTE_LIMIT"
    else if block.length = 0 then readSnapshot blocks logicalBytes s
    else (collect lim valid [] block s).bind (readSnapshot blocks (logicalBytes + block.length))

/-- A line that has not ended when the bytes do is torn. -/
def finish (s : Frames) : Except String (List Bytes) :=
  if s.pending.isEmpty then .ok s.lines else .error "OMS_REPLAY_TORN_RECORD"

def replay (blocks : List Bytes) : Except String (List Bytes) :=
  (readSnapshot lim valid blocks 0 {}).bind finish

/-- The inner loop of `GenerationReplayRange`: every complete line of `pending` is taken off. -/
def takeLines (s : Frames) : Option Frames :=
  match _h : s.pending.findIdx? (· == newline) with
  | none => some s
  | some found =>
    if found = 0 ∨ found > lim.maxRecordBytes ∨ s.lines.length ≥ lim.maxRecords then none
    else
      let line := s.pending.take found
      if !valid line then none
      else takeLines { lines := s.lines ++ [line], pending := s.pending.drop (found + 1) }
termination_by s.pending.length
decreasing_by exact length_after_newline ‹_›

/-- The outer loop: a read that returns nothing before the end of the range is a failure. -/
def replayBlocks : List Bytes → Frames → Option Frames
  | [], s => some s
  | block :: blocks, s =>
    if block.isEmpty then none
    else (takeLines lim valid { s with pending := s.pending ++ block }).bind fun s =>
      if s.pending.length > lim.maxRecordBytes then none else replayBlocks blocks s

def generationReplayRange (blocks : List Bytes) : Option (List Bytes) :=
  if blocks.flatten.length > lim.maxBytes then none
  else (replayBlocks lim valid blocks {}).bind fun s =>
    if s.pending.isEmpty then some s.lines else none

/-- The inner loop of `_strict_records`: `chunk` is what is left of the chunk from `cursor`. -/
def scanChunk (chunk : Bytes) (s : Frames) : Except String Frames :=
  if chunk.isEmpty then .ok s
  else
    match h : chunk.findIdx? (· == newline) with
    | none =>
      if chunk.length > lim.maxRecordBytes - s.pending.length then
        .error "OMS_REPLAY_RECORD_BYTE_LIMIT"
      else .ok { s with pending := s.pending ++ chunk }
    | some found =>
      let fragment := chunk.take found
      if fragment.length > lim.maxRecordBytes - s.pending.length then
        .error "OMS_REPLAY_RECORD_BYTE_LIMIT"
      else
        let pending := s.pending ++ fragment
        if pending.isEmpty then .error "OMS_REPLAY_EMPTY_RECORD"
        else if s.lines.length ≥ lim.maxRecords then .error "OMS_REPLAY_RECORD_COUNT_LIMIT"
        else if !valid pending then .error "OMS_REPLAY_INVALID_RECORD"
        else scanChunk (chunk.drop (found + 1)) { lines := s.lines ++ [pending], pending := [] }
termination_by chunk.length
decreasing_by exact length_after_newline h

def scanChunks : List Bytes → Frames → Except String Frames
  | [], s => .ok s
  | chunk :: chunks, s =>
    if chunk.isEmpty then .error "OMS_REPLAY_IO_FAILURE"
    else (scanChunk lim valid chunk s).bind (scanChunks chunks)

def strictRecords (chunks : List Bytes) : Except String (List Bytes) :=
  if chunks.flatten.length > lim.maxBytes then .error "OMS_REPLAY_BYTE_LIMIT"
  else (scanChunks lim valid chunks {}).bind finish

/-! ## One byte at a time -/

/-- The common machine: a newline ends the pending line, any other byte extends it. -/
def frameStep (s : Frames) (byte : UInt8) : Option Frames :=
  if byte = newline then
    if s.pending ≠ [] ∧ s.lines.length < lim.maxRecords ∧ valid s.pending then
      some { lines := s.lines ++ [s.pending], pending := [] }
    else none
  else if s.pending.length < lim.maxRecordBytes then
    some { s with pending := s.pending ++ [byte] }
  else none

def frame (s : Frames) (bytes : Bytes) : Option Frames :=
  bytes.foldlM (frameStep lim valid) s

/-- A line that is a record: complete, not empty, within the limit and valid. -/
def WellFormed (line : Bytes) : Prop :=
  newline ∉ line ∧ line ≠ [] ∧ line.length ≤ lim.maxRecordBytes ∧ valid line

/-- A newline after `fragment` ends a record. -/
abbrev Ends (s : Frames) (fragment : Bytes) : Prop :=
  fragment.length ≤ lim.maxRecordBytes - s.pending.length ∧ s.pending ++ fragment ≠ [] ∧
    s.lines.length < lim.maxRecords ∧ valid (s.pending ++ fragment)

/-- The machine has read `stream` and is in `s`. -/
structure Framing (stream : Bytes) (s : Frames) : Prop where
  bytes : stream = (s.lines.map (· ++ [newline])).flatten ++ s.pending
  few : s.lines.length ≤ lim.maxRecords
  wellFormed : ∀ line ∈ s.lines, WellFormed lim valid line
  short : s.pending.length ≤ lim.maxRecordBytes
  unfinished : newline ∉ s.pending

variable {lim valid} {s s' : Frames} {byte : UInt8} {bytes fragment rest stream : Bytes}
  {blocks lines : List Bytes}

lemma framing_start : Framing lim valid [] {} :=
  ⟨rfl, Nat.zero_le _, by simp, Nat.zero_le _, not_mem_nil⟩

lemma frame_cons (s : Frames) (byte : UInt8) (rest : Bytes) :
    frame lim valid s (byte :: rest) = (frameStep lim valid s byte).bind (frame lim valid · rest) :=
  rfl

lemma frame_append (s : Frames) (xs ys : Bytes) :
    frame lim valid s (xs ++ ys) = (frame lim valid s xs).bind (frame lim valid · ys) :=
  foldlM_append

lemma frameStep_framing (hs : Framing lim valid stream s) (h : frameStep lim valid s byte = some s')
    : Framing lim valid (stream ++ [byte]) s' := by
  unfold frameStep at h
  split at h
  · rename_i hb
    split at h
    · rename_i hn
      obtain rfl := Option.some.inj h
      refine ⟨by simp [hs.bytes, hb], ?_, fun line hm => ?_, Nat.zero_le _, not_mem_nil⟩
      · simpa [Nat.succ_le_iff] using hn.2.1
      · rcases mem_append.1 hm with hm | hm
        · exact hs.wellFormed line hm
        · obtain rfl := mem_singleton.1 hm
          exact ⟨hs.unfinished, hn.1, hs.short, hn.2.2⟩
    · cases h
  · rename_i hb
    split at h
    · rename_i hl
      obtain rfl := Option.some.inj h
      refine ⟨by simp [hs.bytes], hs.few, hs.wellFormed, ?_, ?_⟩
      · simpa [Nat.succ_le_iff] using hl
      · simpa using ⟨hs.unfinished, Ne.symm hb⟩
    · cases h

lemma frame_framing (hs : Framing lim valid stream s) (h : frame lim valid s bytes = some s') :
    Framing lim valid (stream ++ bytes) s' := by
  induction bytes generalizing s stream with
  | nil =>
    obtain rfl := Option.some.inj h
    rwa [append_nil]
  | cons byte rest ih =>
    obtain ⟨t, ht, h⟩ := Option.bind_eq_some_iff.1 (frame_cons .. ▸ h)
    simpa using ih (frameStep_framing hs ht) h

lemma frame_fragment (hs : s.pending.length ≤ lim.maxRecordBytes) (hf : newline ∉ fragment) :
    frame lim valid s fragment =
      if fragment.length ≤ lim.maxRecordBytes - s.pending.length then
        some { s with pending := s.pending ++ fragment }
      else none := by
  induction fragment generalizing s with
  | nil => simp [frame]
  | cons byte rest ih =>
    obtain ⟨hb, hr⟩ := not_or.1 (mt mem_cons.2 hf)
    rw [frame_cons, frameStep, if_neg (Ne.symm hb)]
    by_cases hl : s.pending.length < lim.maxRecordBytes
    · rw [if_pos hl, Option.bind_some, ih (by simpa [Nat.succ_le_iff] using hl) hr]
      simp only [length_append, length_cons, length_nil, append_assoc,
        singleton_append]
      congr 1
      exact propext (by omega)
    · rw [if_neg hl, if_neg (by simp only [length_cons]; omega), Option.bind_none]

lemma frame_line (hs : s.pending.length ≤ lim.maxRecordBytes) (hf : newline ∉ fragment) :
    frame lim valid s (fragment ++ newline :: rest) =
      if Ends lim valid s fragment then
        frame lim valid { lines := s.lines ++ [s.pending ++ fragment] } rest
      else none := by
  rw [frame_append, frame_fragment hs hf]
  by_cases hl : fragment.length ≤ lim.maxRecordBytes - s.pending.length
  · rw [if_pos hl, Option.bind_some, frame_cons, frameStep, if_pos rfl]
    by_cases hg : Ends lim valid s fragment
    · rw [if_pos hg.2, if_pos hg, Option.bind_some]
    · rw [if_neg fun h => hg ⟨hl, h⟩, if_neg hg, Option.bind_none]
  · rw [if_neg hl, if_neg fun h => hl h.1, Option.bind_none]

/-! ## Every reader runs the machine -/

lemma collect_eq_frame (hc : s.lines.length ≤ lim.maxRecords)
    (hs : s.pending.length ≤ lim.maxRecordBytes) (hf : newline ∉ fragment) :
    (collect lim valid fragment rest s).toOption = frame lim valid s (fragment ++ rest) := by
  induction rest generalizing fragment s with
  | nil =>
    rw [append_nil, frame_fragment hs hf, collect]
    split <;> rename_i hl
    · rw [if_neg (by omega)]; rfl
    · rw [if_pos (by omega)]; rfl
  | cons byte rest ih =>
    rw [collect]
    by_cases hb : byte = newline
    · subst hb
      rw [if_neg (not_not.2 rfl), frame_line hs hf]
      by_cases hl : fragment.length > lim.maxRecordBytes - s.pending.length
      · rw [if_pos hl, if_neg fun h => by omega]; rfl
      rw [if_neg hl]
      by_cases hm : s.lines.length = lim.maxRecords
      · rw [if_pos hm, if_neg fun h => by omega]; rfl
      rw [if_neg hm]
      by_cases hv : (s.pending ++ fragment).isEmpty || !valid (s.pending ++ fragment)
      · rw [if_pos hv, if_neg]
        · rfl
        · rintro ⟨-, hne, -, hvl⟩
          simp_all
      · have ht := Nat.lt_of_le_of_ne hc hm
        have hg : Ends lim valid s fragment := ⟨Nat.not_lt.1 hl, by simp_all, ht, by simp_all⟩
        rw [if_neg hv, if_pos hg]
        exact ih (by simpa [Nat.succ_le_iff] using ht) (Nat.zero_le _) not_mem_nil
    · rw [if_pos hb, ih hc hs (by simpa using ⟨hf, Ne.symm hb⟩), append_assoc,
        singleton_append]

lemma split_newline {found : Nat} (h : bytes.findIdx? (· == newline) = some found) :
    found < bytes.length ∧ newline ∉ bytes.take found ∧
      bytes = bytes.take found ++ newline :: bytes.drop (found + 1) := by
  obtain ⟨hl, ha, hb⟩ := findIdx?_eq_some_iff_getElem.1 h
  refine ⟨hl, fun hm => ?_, ?_⟩
  · obtain ⟨i, hi, he⟩ := getElem_of_mem hm
    rw [getElem_take] at he
    have := hb i (by simp at hi; omega)
    simp [he] at this
  · have hnl : bytes[found] = newline := by simpa using ha
    rw [← hnl, getElem_cons_drop, take_append_drop]

lemma no_newline (h : bytes.findIdx? (· == newline) = none) : newline ∉ bytes := by
  intro hm
  have := findIdx?_eq_none_iff.1 h newline hm
  simp at this

lemma takeLines_eq_frame (s : Frames) :
    (takeLines lim valid s).bind
        (fun s => if s.pending.length > lim.maxRecordBytes then none else some s) =
      frame lim valid { lines := s.lines } s.pending := by
  fun_induction takeLines lim valid s with
  | case1 s h =>
    rw [frame_fragment (Nat.zero_le _) (no_newline h)]
    simp only [Option.bind_some, length_nil, Nat.sub_zero, nil_append]
    split <;> rename_i hl
    · rw [if_neg (by omega)]
    · rw [if_pos (by omega)]
  | case2 s found h hr =>
    obtain ⟨ht, hn, he⟩ := split_newline h
    rw [he, frame_line (Nat.zero_le _) hn, if_neg]
    · rfl
    · rintro ⟨hl, hne, hc, -⟩
      simp at hl hne
      grind
  | case3 s found h hr line hv =>
    obtain ⟨-, hn, he⟩ := split_newline h
    have hi : valid line = false := by simpa using hv
    rw [he, frame_line (Nat.zero_le _) hn, if_neg]
    · rfl
    · rintro ⟨-, -, -, hvl⟩
      exact absurd (hi.symm.trans hvl) Bool.false_ne_true
  | case4 s found h hr line hv ih =>
    obtain ⟨ht, hn, he⟩ := split_newline h
    have hi : valid line = true := by simpa using hv
    obtain ⟨h0, hm, hc⟩ : found ≠ 0 ∧ found ≤ lim.maxRecordBytes ∧
        s.lines.length < lim.maxRecords := by omega
    have hln : line.length = found := length_take_of_le (Nat.le_of_lt ht)
    have hne : line ≠ [] := fun hn => h0 (hln.symm.trans (congrArg List.length hn))
    rw [ih]
    conv_rhs => rw [he]
    rw [frame_line (Nat.zero_le _) hn, if_pos ⟨Nat.le_trans (Nat.le_of_eq hln) hm, hne, hc, hi⟩]
    rfl

lemma scanChunk_eq_frame (hs : s.pending.length ≤ lim.maxRecordBytes) :
    (scanChunk lim valid rest s).toOption = frame lim valid s rest := by
  fun_induction scanChunk lim valid rest s with
  | case1 chunk s he =>
    rw [isEmpty_iff.1 he]
    rfl
  | case2 chunk s he h hl =>
    rw [frame_fragment hs (no_newline h), if_neg (by omega)]
    rfl
  | case3 chunk s he h hl =>
    rw [frame_fragment hs (no_newline h), if_pos (by omega)]
    rfl
  | case4 chunk s he found h fragment hl =>
    obtain ⟨-, hn, hsp⟩ := split_newline h
    rw [hsp, frame_line hs hn, if_neg fun hg => Nat.not_lt.2 hg.1 hl]
    rfl
  | case5 chunk s he found h fragment hl pending hp =>
    obtain ⟨-, hn, hsp⟩ := split_newline h
    rw [hsp, frame_line hs hn, if_neg fun hg => hg.2.1 (isEmpty_iff.1 hp)]
    rfl
  | case6 chunk s he found h fragment hl pending hp hc =>
    obtain ⟨-, hn, hsp⟩ := split_newline h
    rw [hsp, frame_line hs hn, if_neg fun hg => by omega]
    rfl
  | case7 chunk s he found h fragment hl pending hp hc hv =>
    obtain ⟨-, hn, hsp⟩ := split_newline h
    have hi : valid pending = false := by simpa using hv
    rw [hsp, frame_line hs hn, if_neg fun hg => absurd (hi.symm.trans hg.2.2.2) Bool.false_ne_true]
    rfl
  | case8 chunk s he found h fragment hl pending hp hc hv ih =>
    obtain ⟨-, hn, hsp⟩ := split_newline h
    have hi : valid pending = true := by simpa using hv
    have ht : s.lines.length < lim.maxRecords := by omega
    have hne : pending ≠ [] := fun h0 => hp (isEmpty_iff.2 h0)
    have hg : Ends lim valid s _ := ⟨Nat.not_lt.1 hl, hne, ht, hi⟩
    rw [ih (Nat.zero_le _)]
    conv_rhs => rw [hsp, frame_line hs hn, if_pos hg]

/-! ## Whole streams -/

lemma toOption_bind {α β : Type} (r : Except String α) (f : α → Except String β) :
    (r.bind f).toOption = r.toOption.bind fun a => (f a).toOption := by
  cases r <;> rfl

lemma readSnapshot_eq_frame {logicalBytes : Nat} (hs : Framing lim valid stream s)
    (hb : logicalBytes ≤ lim.maxBytes) :
    (readSnapshot lim valid blocks logicalBytes s).toOption =
      if logicalBytes + blocks.flatten.length ≤ lim.maxBytes then
        frame lim valid s blocks.flatten
      else none := by
  induction blocks generalizing logicalBytes s stream with
  | nil =>
    rw [if_pos (by simpa using hb)]
    rfl
  | cons block blocks ih =>
    rw [readSnapshot, flatten_cons, length_append, frame_append]
    by_cases hl : block.length > lim.maxBytes - logicalBytes
    · rw [if_pos hl, if_neg (by omega)]
      rfl
    rw [if_neg hl]
    by_cases h0 : block.length = 0
    · rw [if_pos h0, ih hs hb, eq_nil_of_length_eq_zero h0]
      simp [frame]
    rw [if_neg h0, toOption_bind, collect_eq_frame hs.few hs.short not_mem_nil, nil_append,
      Option.bind_congr fun t ht => ih (frame_framing hs ht) (by omega), Nat.add_assoc]
    split
    · rfl
    · exact Option.bind_fun_none _

lemma replayBlocks_eq_frame (hs : Framing lim valid stream s) (hb : [] ∉ blocks) :
    replayBlocks lim valid blocks s = frame lim valid s blocks.flatten := by
  induction blocks generalizing s stream with
  | nil => rfl
  | cons block blocks ih =>
    obtain ⟨h0, hr⟩ := not_or.1 (mt mem_cons.2 hb)
    -- the pending line is read again from its start
    have hd : frame lim valid { lines := s.lines } (s.pending ++ block) =
        frame lim valid s block := by
      have hl : s.pending.length ≤ lim.maxRecordBytes - ([] : Bytes).length := hs.short
      rw [frame_append, frame_fragment (Nat.zero_le _) hs.unfinished, if_pos hl]
      rfl
    have ht : _ = frame lim valid _ _ := takeLines_eq_frame { s with pending := s.pending ++ block }
    rw [replayBlocks, if_neg (by simpa using Ne.symm h0), flatten_cons, frame_append,
      ← Option.bind_congr fun t ht => ih (frame_framing hs ht) hr, ← hd, ← ht,
      Option.bind_assoc]
    congr 1
    funext t
    split <;> rfl

lemma scanChunks_eq_frame (hs : Framing lim valid stream s) (hb : [] ∉ blocks) :
    (scanChunks lim valid blocks s).toOption = frame lim valid s blocks.flatten := by
  induction blocks generalizing s stream with
  | nil => rfl
  | cons chunk chunks ih =>
    obtain ⟨h0, hr⟩ := not_or.1 (mt mem_cons.2 hb)
    rw [scanChunks, if_neg (by simpa using Ne.symm h0), flatten_cons, frame_append,
      toOption_bind, scanChunk_eq_frame hs.short]
    exact Option.bind_congr fun t ht => ih (frame_framing hs ht) hr

variable (lim valid) in
/-- What all three readers return for the bytes of a stream, however it was cut. -/
def records (stream : Bytes) : Option (List Bytes) :=
  if stream.length ≤ lim.maxBytes then
    (frame lim valid {} stream).bind fun s => if s.pending.isEmpty then some s.lines else none
  else none

lemma finish_toOption (s : Frames) :
    (finish s).toOption = if s.pending.isEmpty then some s.lines else none := by
  unfold finish
  cases s.pending.isEmpty <;> rfl

lemma replay_eq_records :
    (replay lim valid blocks).toOption = records lim valid blocks.flatten := by
  rw [replay, toOption_bind, readSnapshot_eq_frame framing_start (Nat.zero_le _), Nat.zero_add,
    records, funext finish_toOption]
  split
  · rfl
  · exact Option.bind_none _

lemma generationReplayRange_eq_records (hb : [] ∉ blocks) :
    generationReplayRange lim valid blocks = records lim valid blocks.flatten := by
  rw [generationReplayRange, replayBlocks_eq_frame framing_start hb, records]
  by_cases hl : blocks.flatten.length ≤ lim.maxBytes
  · rw [if_neg (Nat.not_lt.2 hl), if_pos hl]
  · rw [if_pos (Nat.not_le.1 hl), if_neg hl]

lemma strictRecords_eq_records (hb : [] ∉ blocks) :
    (strictRecords lim valid blocks).toOption = records lim valid blocks.flatten := by
  unfold strictRecords records
  by_cases hl : blocks.flatten.length ≤ lim.maxBytes
  · rw [if_neg (Nat.not_lt.2 hl), if_pos hl, toOption_bind, scanChunks_eq_frame framing_start hb,
      funext finish_toOption]
  · rw [if_pos (Nat.not_le.1 hl), if_neg hl]
    rfl

/-! ## What is accepted -/

variable (lim valid) in
/-- The stream is exactly these lines, each ended by a newline, within every limit. -/
structure Framed (stream : Bytes) (lines : List Bytes) : Prop where
  bytes : stream = (lines.map (· ++ [newline])).flatten
  fits : stream.length ≤ lim.maxBytes
  few : lines.length ≤ lim.maxRecords
  wellFormed : ∀ line ∈ lines, WellFormed lim valid line

lemma frame_lines (bf : List Bytes) (hw : ∀ line ∈ lines, WellFormed lim valid line)
    (hc : bf.length + lines.length ≤ lim.maxRecords) :
    frame lim valid { lines := bf } (lines.map (· ++ [newline])).flatten =
      some { lines := bf ++ lines } := by
  induction lines generalizing bf with
  | nil => simp [frame]
  | cons line lines ih =>
    obtain ⟨hn, hne, hl, hv⟩ := hw line mem_cons_self
    have ht : bf.length < lim.maxRecords := by
      simp only [length_cons] at hc
      omega
    rw [map_cons, flatten_cons, append_assoc, singleton_append,
      frame_line (Nat.zero_le _) hn, if_pos ⟨hl, hne, ht, hv⟩, nil_append,
      ih _ (fun l hm => hw l (mem_cons_of_mem _ hm)) (by simp_all; omega), append_assoc,
      singleton_append]

lemma records_eq_some_iff :
    records lim valid stream = some lines ↔ Framed lim valid stream lines := by
  constructor
  · intro h
    unfold records at h
    split at h
    · rename_i hl
      obtain ⟨s, hs, h⟩ := Option.bind_eq_some_iff.1 h
      split at h
      · rename_i hp
        obtain rfl := Option.some.inj h
        have hf := frame_framing framing_start hs
        refine ⟨?_, hl, hf.few, hf.wellFormed⟩
        simpa [isEmpty_iff.1 hp] using hf.bytes
      · cases h
    · cases h
  · intro h
    have hf := frame_lines [] h.wellFormed (by simpa using h.few)
    rw [← h.bytes] at hf
    rw [records, if_pos h.fits, hf]
    rfl

/-- The three readers return the same lines, or all refuse, wherever their reads cut the
stream; and what they return is the stream. -/
theorem framing_agrees {snapshot range chunks : List Bytes}
    (hs : snapshot.flatten = stream) (hr : range.flatten = stream ∧ [] ∉ range)
    (hc : chunks.flatten = stream ∧ [] ∉ chunks) :
    (replay lim valid snapshot).toOption = generationReplayRange lim valid range ∧
      (strictRecords lim valid chunks).toOption = generationReplayRange lim valid range ∧
      ∀ lines, generationReplayRange lim valid range = some lines ↔
        Framed lim valid stream lines := by
  obtain ⟨rfl, hr⟩ := hr
  have hg : generationReplayRange lim valid range = _ := generationReplayRange_eq_records hr
  refine ⟨?_, ?_, fun lines => ?_⟩
  · rw [replay_eq_records, hs, hg]
  · rw [strictRecords_eq_records hc.2, hc.1, hg]
  · rw [hg]
    exact records_eq_some_iff

/-- A record cut in two different places. -/
theorem framing_agrees_cut :
    (replay ⟨8, 1, 4⟩ (fun _ => true) [[97, 98], [10]]).toOption =
        generationReplayRange ⟨8, 1, 4⟩ (fun _ => true) [[97], [98, 10]] ∧
      (strictRecords ⟨8, 1, 4⟩ (fun _ => true) [[97, 98, 10]]).toOption =
        generationReplayRange ⟨8, 1, 4⟩ (fun _ => true) [[97], [98, 10]] ∧
      ∀ lines, generationReplayRange ⟨8, 1, 4⟩ (fun _ => true) [[97], [98, 10]] = some lines ↔
        Framed ⟨8, 1, 4⟩ (fun _ => true) [97, 98, 10] lines :=
  framing_agrees rfl ⟨rfl, by decide⟩ ⟨rfl, by decide⟩

end Hepta.OmsFraming
