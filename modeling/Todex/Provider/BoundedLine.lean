import Todex.Lib.Lines

/-!
# The lines of a provider

The output of a process comes in chunks. A call reads up to the next newline; what it has read of a line stays with
the process, so that a call may be dropped between two chunks and the next one goes on. A line that is too long is
counted and not kept.
-/

namespace Todex

open Bytes

inductive BoundedLine
  /-- With its newline, if it has one. -/
  | line (bytes : Bytes)
  /-- Without its newline. -/
  | oversized (bytes : Nat)
  deriving DecidableEq

/-- What the process keeps of the line that is being read. -/
structure LineBuffers where
  output : Bytes
  discarding : Option Nat
  deriving DecidableEq

namespace LineBuffers

variable (self : LineBuffers)

def add (maxBytes : Nat) (bytes : Bytes) : LineBuffers :=
  match self.discarding with
  | some skipped => { self with discarding := some (skipped + bytes.length) }
  | none =>
    if self.output.length + bytes.length > maxBytes + 1 then
      { output := [], discarding := some (self.output.length + bytes.length) }
    else { self with output := self.output ++ bytes }

/-- What is returned behind a newline. -/
def atNewline : BoundedLine × LineBuffers :=
  match self.discarding with
  | some skipped => (.oversized (skipped - 1), { self with discarding := none })
  | none => (.line self.output, { self with output := [] })

/-- What is returned when there are no more bytes. -/
def atEnd : Option BoundedLine × LineBuffers :=
  match self.discarding with
  | some bytes => (some (.oversized bytes), { self with discarding := none })
  | none => if self.output = [] then (none, self) else (some (.line self.output), { self with output := [] })

end LineBuffers

/-- A process whose output is read. -/
structure LineReader where
  /-- What is still to be read. -/
  rest : Bytes
  buffers : LineBuffers
  /-- A call of `read_bounded_line` waits for a chunk. -/
  reading : Bool
  results : List BoundedLine
  /-- A call has returned that there are no more lines. -/
  ended : Bool

namespace LineReader

def start (stream : Bytes) : LineReader where
  rest := stream
  buffers := { output := [], discarding := none }
  reading := false
  results := []
  ended := false

variable (self : LineReader)

/-- The loop of `read_bounded_line` on the bytes that `fill_buf` has. -/
def onChunk (maxBytes : Nat) (available : Bytes) : LineReader :=
  let consumed := (available.findIdx? (· = newline)).elim available.length (· + 1)
  let buffers := self.buffers.add maxBytes (available.take consumed)
  let rest := self.rest.drop consumed
  if available[consumed - 1]? = some newline then
    { self with
      rest
      buffers := buffers.atNewline.2
      reading := false
      results := self.results ++ [buffers.atNewline.1] }
  else { self with rest, buffers }

/-- The loop of `read_bounded_line` when `fill_buf` has no bytes. -/
def onEnd : LineReader :=
  { self with
    buffers := self.buffers.atEnd.2
    reading := false
    results := self.results ++ self.buffers.atEnd.1.toList
    ended := self.buffers.atEnd.1.isNone }

end LineReader

inductive ReadStep (maxBytes : Nat) (s : LineReader) : LineReader → Prop
  | call (idle : s.reading = false) : ReadStep maxBytes s { s with reading := true }
  /-- The call is dropped while it waits. -/
  | cancel : ReadStep maxBytes s { s with reading := false }
  | chunk {available later : Bytes} (reading : s.reading = true) (nonempty : available ≠ [])
      (rest : s.rest = available ++ later) : ReadStep maxBytes s (s.onChunk maxBytes available)
  | eof (reading : s.reading = true) (rest : s.rest = []) : ReadStep maxBytes s s.onEnd

/-- What is to be returned for a line. -/
def boundedLine (maxBytes : Nat) (line : Bytes) : BoundedLine :=
  if line.chomp.length ≤ maxBytes then .line line else .oversized line.chomp.length

/-- What is to be returned for a stream. -/
def boundedLines (maxBytes : Nat) (stream : Bytes) : List BoundedLine := (cutLines stream).map (boundedLine maxBytes)

/-- The last line has its newline, or it is not just one byte too long. -/
def EndsWithin (maxBytes : Nat) (stream : Bytes) : Prop :=
  ∀ line ∈ cutLines stream, newline ∉ line → line.length ≠ maxBytes + 1

variable {maxBytes : Nat} {stream before pending bytes : Bytes} {s t : LineReader}

/-! ### The buffers -/

/-- The buffers behind a part of a line. -/
def buffersOf (maxBytes : Nat) (pending : Bytes) : LineBuffers :=
  if pending.length ≤ maxBytes + 1 then { output := pending, discarding := none }
  else { output := [], discarding := some pending.length }

lemma add_buffersOf : (buffersOf maxBytes pending).add maxBytes bytes = buffersOf maxBytes (pending ++ bytes) := by
  unfold buffersOf
  rw [List.length_append]
  by_cases hs : pending.length ≤ maxBytes + 1
  · rw [if_pos hs, LineBuffers.add]
    by_cases hl : pending.length + bytes.length ≤ maxBytes + 1
    · rw [if_neg (Nat.not_lt.mpr hl), if_pos hl]
    · rw [if_pos (Nat.not_le.mp hl), if_neg hl]
  · rw [if_neg hs, if_neg (by omega), LineBuffers.add]

lemma atNewline_buffersOf : (buffersOf maxBytes (pending ++ [newline])).atNewline =
    (boundedLine maxBytes (pending ++ [newline]), buffersOf maxBytes []) := by
  have hl : (pending ++ [newline]).length = pending.length + 1 := by simp
  rw [buffersOf, boundedLine, chomp_append_newline, hl]
  by_cases hs : pending.length ≤ maxBytes
  · rw [if_pos (Nat.succ_le_succ hs), if_pos hs]
    rfl
  · rw [if_neg (fun h => hs (Nat.le_of_succ_le_succ h)), if_neg hs]
    rfl

lemma atEnd_buffersOf (hp : newline ∉ pending) (hw : pending.length ≠ maxBytes + 1) :
    (buffersOf maxBytes pending).atEnd =
      (if pending = [] then none else some (boundedLine maxBytes pending), buffersOf maxBytes []) := by
  rw [buffersOf, boundedLine, chomp_of_notMem hp]
  by_cases hs : pending.length ≤ maxBytes
  · rw [if_pos (Nat.le_succ_of_le hs), if_pos hs, LineBuffers.atEnd]
    by_cases he : pending = []
    · rw [if_pos he, if_pos he, he]
      rfl
    · rw [if_neg he, if_neg he]
      rfl
  · have hne : pending ≠ [] := by
      rintro rfl
      exact hs (Nat.zero_le _)
    rw [if_neg (by omega), if_neg hs, if_neg hne]
    rfl

/-! ### The invariant -/

/-- The results are those of the lines so far, and the buffers hold the part of the next one. -/
structure ReaderOk (maxBytes : Nat) (stream : Bytes) (s : LineReader) (before pending : Bytes) : Prop where
  stream_eq : stream = before ++ (pending ++ s.rest)
  whole : Terminated before ∨ pending = [] ∧ s.rest = []
  part : newline ∉ pending
  buffers : s.buffers = buffersOf maxBytes pending
  results : s.results = boundedLines maxBytes before
  ended : s.ended = true → pending = [] ∧ s.rest = []

lemma boundedLines_append (h : Terminated before) :
    boundedLines maxBytes (before ++ bytes) = boundedLines maxBytes before ++ boundedLines maxBytes bytes := by
  rw [boundedLines, cutLines_append h, List.map_append]
  rfl

namespace ReaderOk

variable (h : ReaderOk maxBytes stream s before pending)

include h

lemma onChunk (hn : available ≠ []) (hr : s.rest = available ++ later) :
    ∃ before pending, Terminated before ∧
      ReaderOk maxBytes stream (s.onChunk maxBytes available) before pending := by
  have hm : s.rest ≠ [] := by simp [hr, hn]
  have he : s.ended = true → False := fun he => hm (h.ended he).2
  have hb := h.whole.resolve_right fun hd => hm hd.2
  have hi {line : Bytes} (hli : newline ∉ line) : line.findIdx? (· = newline) = none := by
    simp only [List.findIdx?_eq_none_iff, decide_eq_false_iff_not]
    rintro _ hme rfl
    exact hli hme
  unfold LineReader.onChunk
  by_cases hme : newline ∈ available
  · obtain ⟨line, m, rfl, hno⟩ := List.eq_append_cons_of_mem hme
    have hli : newline ∉ pending ++ line := by simp [h.part, hno]
    have hl : boundedLines maxBytes (pending ++ line ++ [newline]) =
        [boundedLine maxBytes (pending ++ line ++ [newline])] := by
      rw [boundedLines, cutLines_append_newline hli]
      rfl
    have hf : (line ++ newline :: m).findIdx? (· = newline) = some line.length := by
      simp [List.findIdx?_append, hi hno, List.findIdx?_cons]
    have ht : (line ++ newline :: m).take (line.length + 1) = line ++ [newline] :=
      List.take_length_add_append ..
    have hdr : s.rest.drop (line.length + 1) = m ++ later := by simp [hr]
    rw [hf]
    dsimp only [Option.elim]
    rw [ht, hdr, if_pos (by simp), h.buffers, add_buffersOf, ← List.append_assoc, atNewline_buffersOf]
    have hnext := hb.append (terminated_append_newline (pending ++ line))
    refine ⟨before ++ (pending ++ line ++ [newline]), [], hnext, ?_, .inl hnext, by simp, rfl, ?_,
      fun h => (he h).elim⟩
    · simp [h.stream_eq, hr]
    · dsimp only
      rw [h.results, boundedLines_append hb, hl]
  · -- the whole chunk belongs to the line
    have hla : available[available.length - 1]? ≠ some newline := fun hla => hme (List.mem_of_getElem? hla)
    rw [hi hme]
    dsimp only [Option.elim]
    rw [if_neg hla, List.take_length, hr, List.drop_left, h.buffers, add_buffersOf]
    refine ⟨before, pending ++ available, hb, ?_, .inl hb, ?_, rfl, h.results, fun h => (he h).elim⟩
    · simp [h.stream_eq, hr]
    · simp [h.part, hme]

lemma onEnd (hw : EndsWithin maxBytes stream) (hr : s.rest = []) :
    ReaderOk maxBytes stream s.onEnd (before ++ pending) [] := by
  have hs : stream = before ++ pending := by rw [h.stream_eq, hr, List.append_nil]
  have hl : pending.length ≠ maxBytes + 1 := by
    by_cases he : pending = []
    · simp [he]
    · have hb := h.whole.resolve_right fun hd => he hd.1
      refine hw pending ?_ h.part
      rw [hs, cutLines_append hb, cutLines_of_notMem h.part he]
      exact List.mem_append_right _ List.mem_cons_self
  unfold LineReader.onEnd
  rw [h.buffers, atEnd_buffersOf h.part hl]
  refine ⟨?_, .inr ⟨rfl, hr⟩, by simp, rfl, ?_, fun _ => ⟨rfl, hr⟩⟩
  · dsimp only
    rw [hs, hr, List.append_nil, List.append_nil]
  · dsimp only
    by_cases he : pending = []
    · simp [he, h.results]
    · have hb := h.whole.resolve_right fun hd => he hd.1
      rw [if_neg he, h.results, boundedLines_append hb]
      simp [boundedLines, cutLines_of_notMem h.part he]

lemma step (hw : EndsWithin maxBytes stream) (hs : ReadStep maxBytes s t) :
    ∃ before pending, ReaderOk maxBytes stream t before pending := by
  cases hs with
  | call | cancel => exact ⟨before, pending, { __ := h }⟩
  | chunk r n rest =>
    obtain ⟨before, pending, -, hok⟩ := h.onChunk n rest
    exact ⟨before, pending, hok⟩
  | eof r rest => exact ⟨_, _, h.onEnd hw rest⟩

end ReaderOk

lemma readerOk_run (hw : EndsWithin maxBytes stream)
    (hr : Relation.ReflTransGen (ReadStep maxBytes) (.start stream) s) :
    ∃ before pending, ReaderOk maxBytes stream s before pending := by
  induction hr with
  | refl => exact ⟨[], [], rfl, .inl terminated_nil, by simp, rfl, rfl, nofun⟩
  | tail _ hs ih =>
    obtain ⟨before, pending, hok⟩ := ih
    exact hok.step hw hs

/-! ### The end of the output -/

lemma length_onChunk_lt (hn : available ≠ []) (hr : s.rest ≠ []) :
    (s.onChunk maxBytes available).rest.length < s.rest.length := by
  have hc : 0 < (available.findIdx? (· = newline)).elim available.length (· + 1) := by
    cases available.findIdx? (· = newline) with
    | none => exact List.length_pos_of_ne_nil hn
    | some i => exact Nat.succ_pos i
  have hl := List.length_pos_of_ne_nil hr
  unfold LineReader.onChunk
  dsimp only
  split_ifs
  all_goals
    rw [List.length_drop]
    omega

lemma reaches_reading (maxBytes : Nat) (s : LineReader) :
    Relation.ReflTransGen (ReadStep maxBytes) s { s with reading := true } := by
  cases hr : s.reading with
  | true => rw [← hr]
  | false => exact .single (.call hr)

/-- Calls that are not dropped read the rest, and one more waits for the end. -/
lemma ReaderOk.reaches_rest (h : ReaderOk maxBytes stream s before pending) :
    ∃ t before' pending', Relation.ReflTransGen (ReadStep maxBytes) s t ∧ t.reading = true ∧ t.rest = [] ∧
      (Terminated before → Terminated before') ∧ ReaderOk maxBytes stream t before' pending' := by
  induction hn : s.rest.length using Nat.strong_induction_on generalizing s before pending with
  | h n ih =>
    have hre : ReaderOk maxBytes stream { s with reading := true } before pending := { __ := h }
    by_cases hr : s.rest = []
    · exact ⟨_, before, pending, reaches_reading maxBytes s, rfl, hr, id, hre⟩
    · have ha : s.rest = s.rest ++ [] := (List.append_nil _).symm
      have hru := (reaches_reading maxBytes s).tail (.chunk rfl hr ha)
      obtain ⟨_, _, hb, hok⟩ := hre.onChunk hr ha
      obtain ⟨t, before', pending', hru', hre', hr', hb', hok'⟩ := ih _ (hn ▸ length_onChunk_lt hr hr) hok rfl
      exact ⟨t, before', pending', hru.trans hru', hre', hr', fun _ => hb' hb, hok'⟩

lemma ReaderOk.reaches_end (hw : EndsWithin maxBytes stream) (h : ReaderOk maxBytes stream s before pending) :
    ∃ t, Relation.ReflTransGen (ReadStep maxBytes) s t ∧ t.ended = true := by
  obtain ⟨t, _, _, hru, hre, hr, -, hok⟩ := h.reaches_rest
  have hen := hok.onEnd hw hr
  -- another call finds nothing
  refine ⟨_, ((hru.tail (.eof hre hr)).trans (reaches_reading maxBytes _)).tail (.eof rfl hr), ?_⟩
  change (LineBuffers.atEnd _).1.isNone = true
  rw [hen.buffers]
  rfl

/-- A last line without a newline that is one byte too long is returned. -/
lemma endsWithin_of_split (h : ∀ s, Relation.ReflTransGen (ReadStep maxBytes) (.start stream) s →
    s.results <+: boundedLines maxBytes stream) : EndsWithin maxBytes stream := by
  intro line hline hnew hlong
  have hok : ReaderOk maxBytes stream (.start stream) [] [] :=
    ⟨rfl, .inl terminated_nil, by simp, rfl, rfl, nofun⟩
  obtain ⟨t, before, pending, hru, hre, hr, hb, hok⟩ := hok.reaches_rest
  have hb := hb terminated_nil
  have hs : stream = before ++ pending := by rw [hok.stream_eq, hr, List.append_nil]
  rw [hs, cutLines_append hb] at hline
  have hmem := (List.mem_append.mp hline).resolve_left fun hmem => hnew (hb.mem_of_mem_cutLines hmem)
  have hne : pending ≠ [] := by
    rintro rfl
    cases hmem
  rw [cutLines_of_notMem hok.part hne, List.mem_singleton] at hmem
  subst hmem
  have hresults := h _ (hru.tail (.eof hre hr))
  rw [hs, boundedLines_append hb, LineReader.onEnd, hok.buffers, buffersOf, if_pos hlong.le, LineBuffers.atEnd,
    if_neg hne, hok.results, List.prefix_append_right_inj, boundedLines, cutLines_of_notMem hok.part hne,
    List.map_singleton, boundedLine, chomp_of_notMem hok.part, if_neg (by omega)] at hresults
  cases List.cons_prefix_cons.mp hresults |>.1

/-- Exactly if the output does not end in a line without a newline that is one byte too long, then however it comes in
chunks and whichever calls are dropped, the results are its lines, and the calls reach its end. -/
theorem output_split_into_lines : EndsWithin maxBytes stream ↔
    ∀ s, Relation.ReflTransGen (ReadStep maxBytes) (.start stream) s →
      s.results <+: boundedLines maxBytes stream ∧ (s.ended = true → s.results = boundedLines maxBytes stream) ∧
        ∃ t, Relation.ReflTransGen (ReadStep maxBytes) s t ∧ t.ended = true := by
  refine ⟨fun hwithin s hrun => ?_, fun h => endsWithin_of_split fun s hrun => (h s hrun).1⟩
  obtain ⟨before, pending, hok⟩ := readerOk_run hwithin hrun
  refine ⟨?_, ?_, hok.reaches_end hwithin⟩
  · rw [hok.results, hok.stream_eq]
    rcases hok.whole with hb | ⟨hp, hrest⟩
    · rw [boundedLines_append hb]
      exact List.prefix_append _ _
    · rw [hp, hrest, List.append_nil, List.append_nil]
  · intro he
    obtain ⟨hp, hrest⟩ := hok.ended he
    rw [hok.results, hok.stream_eq, hp, hrest, List.append_nil, List.append_nil]

/-- A call is dropped behind the first chunk of a line that is too long. -/
theorem output_split_into_lines_dropped :
    ∃ s, Relation.ReflTransGen (ReadStep 1) (.start (Bytes.ofString "abc\nd")) s ∧ s.ended = true ∧
      s.results = [.oversized 3, .line (Bytes.ofString "d")] := by
  have run : Relation.ReflTransGen (ReadStep 1) (.start (Bytes.ofString "abc\nd")) _ := .refl
  have run := run.tail (.call rfl)
  have run := run.tail (@ReadStep.chunk _ _ (Bytes.ofString "ab") (Bytes.ofString "c\nd") rfl (by decide) (by decide))
  have run := run.tail .cancel
  have run := run.tail (.call rfl)
  have run := run.tail (@ReadStep.chunk _ _ (Bytes.ofString "c\nd") [] (by decide) (by decide) (by decide))
  have run := run.tail (.call (by decide))
  have run := run.tail (@ReadStep.chunk _ _ (Bytes.ofString "d") [] (by decide) (by decide) (by decide))
  have run := run.tail (.eof (by decide) (by decide))
  have run := run.tail (.call (by decide))
  have run := run.tail (.eof (by decide) (by decide))
  have hw : EndsWithin 1 (Bytes.ofString "abc\nd") := by
    unfold EndsWithin
    decide
  refine ⟨_, run, by decide, ?_⟩
  rw [(output_split_into_lines.mp hw _ run).2.1 (by decide)]
  decide

/-- A last line of two bytes is returned where one byte is allowed. -/
theorem unterminated_line_too_long :
    ∃ s, Relation.ReflTransGen (ReadStep 1) (.start (Bytes.ofString "ab")) s ∧ s.ended = true ∧
      s.results = [.line (Bytes.ofString "ab")] ∧ boundedLines 1 (Bytes.ofString "ab") = [.oversized 2] := by
  have run : Relation.ReflTransGen (ReadStep 1) (.start (Bytes.ofString "ab")) _ := .refl
  have run := run.tail (.call rfl)
  have run := run.tail (@ReadStep.chunk _ _ (Bytes.ofString "ab") [] rfl (by decide) (by decide))
  have run := run.tail (.eof (by decide) (by decide))
  have run := run.tail (.call (by decide))
  have run := run.tail (.eof (by decide) (by decide))
  exact ⟨_, run, by decide, by decide, by decide⟩

/-! ### The memory of the reader -/

/-- A line that was kept is at most one byte longer than allowed, one that was not is longer than allowed. -/
def BoundedLine.Fits (maxBytes : Nat) : BoundedLine → Prop
  | line bytes => bytes.length ≤ maxBytes + 1
  | oversized bytes => maxBytes < bytes

/-- The buffer is small, and empty while a line is discarded. -/
structure LineBuffers.Fits (maxBytes : Nat) (b : LineBuffers) : Prop where
  output : b.output.length ≤ maxBytes + 1
  discarding : ∀ skipped ∈ b.discarding, maxBytes + 1 < skipped ∧ b.output = []

namespace LineBuffers.Fits

variable {b : LineBuffers} (h : b.Fits maxBytes)

include h

lemma add : (b.add maxBytes bytes).Fits maxBytes := by
  unfold LineBuffers.add
  split
  · next skipped hd =>
    obtain ⟨hlt, he⟩ := h.discarding skipped hd
    refine ⟨h.output, ?_⟩
    rintro _ ⟨⟩
    exact ⟨by omega, he⟩
  · next hd =>
    split_ifs with hl
    · refine ⟨Nat.zero_le _, ?_⟩
      rintro _ ⟨⟩
      exact ⟨hl, rfl⟩
    · refine ⟨?_, by simp [hd]⟩
      rw [List.length_append]
      exact Nat.not_lt.mp hl

lemma atNewline : b.atNewline.1.Fits maxBytes ∧ b.atNewline.2.Fits maxBytes := by
  unfold LineBuffers.atNewline
  split
  · next skipped hd =>
    have hlt := (h.discarding skipped hd).1
    exact ⟨by simp only [BoundedLine.Fits]; omega, h.output, nofun⟩
  · next hd => exact ⟨h.output, Nat.zero_le _, by simp [hd]⟩

lemma atEnd : (∀ r ∈ b.atEnd.1, r.Fits maxBytes) ∧ b.atEnd.2.Fits maxBytes := by
  unfold LineBuffers.atEnd
  split
  · next skipped hd =>
    refine ⟨?_, h.output, nofun⟩
    rintro _ ⟨⟩
    exact (Nat.lt_succ_self _).trans (h.discarding skipped hd).1
  · next hd =>
    split_ifs
    · exact ⟨nofun, h⟩
    · refine ⟨?_, Nat.zero_le _, by simp [hd]⟩
      rintro _ ⟨⟩
      exact h.output

end LineBuffers.Fits

lemma fits_step (hb : s.buffers.Fits maxBytes) (hr : ∀ r ∈ s.results, r.Fits maxBytes)
    (hs : ReadStep maxBytes s t) : t.buffers.Fits maxBytes ∧ ∀ r ∈ t.results, r.Fits maxBytes := by
  cases hs with
  | call | cancel => exact ⟨hb, hr⟩
  | chunk re n rest =>
    unfold LineReader.onChunk
    dsimp only
    split_ifs
    · obtain ⟨hl, hb⟩ := hb.add.atNewline
      exact ⟨hb, List.forall_mem_append.mpr ⟨hr, List.forall_mem_singleton.mpr hl⟩⟩
    · exact ⟨hb.add, hr⟩
  | eof re rest =>
    obtain ⟨hl, hb⟩ := hb.atEnd
    exact ⟨hb, List.forall_mem_append.mpr ⟨hr, fun r hm => hl r (Option.mem_toList.mp hm)⟩⟩

/-- Whatever a provider writes, however it comes in chunks and whichever calls are dropped: at most `maxBytes + 1`
bytes are kept of a line, none while it is discarded, a line that is returned is not longer, and one that is
reported as too long was. -/
theorem reader_memory_bounded
    (hrun : Relation.ReflTransGen (ReadStep maxBytes) (.start stream) s) :
    s.buffers.output.length ≤ maxBytes + 1 ∧ (s.buffers.discarding.isSome → s.buffers.output = []) ∧
      (∀ bytes, .line bytes ∈ s.results → bytes.length ≤ maxBytes + 1) ∧
      ∀ count, .oversized count ∈ s.results → maxBytes < count := by
  have hfits : s.buffers.Fits maxBytes ∧ ∀ r ∈ s.results, r.Fits maxBytes := by
    induction hrun with
    | refl => exact ⟨⟨Nat.zero_le _, nofun⟩, nofun⟩
    | tail _ hs ih => exact fits_step ih.1 ih.2 hs
  obtain ⟨hb, hr⟩ := hfits
  refine ⟨hb.output, fun hsome => ?_, fun bytes => hr _, fun count => hr _⟩
  obtain ⟨skipped, hd⟩ := Option.isSome_iff_exists.mp hsome
  exact (hb.discarding skipped hd).2

/-- Behind the first chunk of a line that is too long nothing of it is kept. -/
theorem reader_memory_bounded_discarding :
    ∃ s, Relation.ReflTransGen (ReadStep 1) (.start (Bytes.ofString "abcd")) s ∧
      s.buffers.discarding = some 3 ∧ s.buffers.output = [] := by
  have run : Relation.ReflTransGen (ReadStep 1) (.start (Bytes.ofString "abcd")) _ := .single (.call rfl)
  have run := run.tail (@ReadStep.chunk _ _ (Bytes.ofString "abc") (Bytes.ofString "d") rfl (by decide) (by decide))
  exact ⟨_, run, by decide, (reader_memory_bounded run).2.1 (by decide)⟩

end Todex
