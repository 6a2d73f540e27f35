import PipeShell.Proofs.Run.Flow

/-!
# The history of a channel

A channel is used through its two halves: the writing half writes, flushes and is dropped at last, and so is the
reading half, after any number of reads.  `Channel.perform?` does one of these operations, and `Channel.History` is
any sequence of them on a fresh channel, with what came of each.

The reader starts with an empty chunk in hand.  Together with it the written chunks are at any time those that are
behind the reader, the one it is in, and those that are waiting (`Position`).  This is kept by every operation as long
as there is a reader, and all that a channel promises can be read off it (`History.promises`).
-/

namespace PipeShell

namespace Channel

/-! ### Operations and histories -/

/-- What can be done with the halves of a channel. -/
inductive Operation
  | write (data : Bytes)
  | flush
  | read (limit : Nat)
  | dropWriter
  | dropReader
  deriving DecidableEq

/-- What comes of an operation. -/
inductive Result
  | wrote (count : Nat)
  | failed (fault : Fault)
  | got (data : Bytes)
  | done
  deriving DecidableEq

/-- Does an operation; there is nothing to be done with a half that is gone, nor in a read that would wait. -/
def perform? (c : Channel) : Operation → Option (Result × Channel)
  | .write data =>
    if c.hasWriter then
      match c.write data with
      | .ok c' => some (.wrote data.length, c')
      | .error fault => some (.failed fault, c)
    else none
  | .flush => if c.hasWriter then some (.done, c) else none
  | .read limit => if c.hasReader then (c.read? limit).map fun (data, c') => (.got data, c') else none
  | .dropWriter => if c.hasWriter then some (.done, c.dropWriter) else none
  | .dropReader => if c.hasReader then some (.done, c.dropReader) else none

/-- Operations in order, each with what came of it. -/
abbrev Log := List (Operation × Result)

namespace Log

/-- The data of the successful writes. -/
def written (log : Log) : List Bytes :=
  log.filterMap fun
    | (.write data, .wrote _) => some data
    | _ => none

/-- The written chunks; an empty write makes none. -/
def chunks (log : Log) : List Bytes := log.written.filter (· ≠ [])

/-- The bytes that all reads gave. -/
def bytesRead (log : Log) : Bytes :=
  log.flatMap fun
    | (.read _, .got data) => data
    | _ => []

/-- What is read after `log` comes from one written chunk, and begins where the reads before it stopped. -/
def OfOneChunk (log : Log) (data : Bytes) : Prop :=
  ∃ before chunk after front rest, log.chunks = before ++ chunk :: after ∧ chunk = front ++ data ++ rest ∧
    log.bytesRead = before.flatten ++ front

@[simp] theorem written_append (log more : Log) : (log ++ more).written = log.written ++ more.written :=
  List.filterMap_append

@[simp] theorem chunks_append (log more : Log) : (log ++ more).chunks = log.chunks ++ more.chunks := by
  simp [chunks]

@[simp] theorem bytesRead_append (log more : Log) : (log ++ more).bytesRead = log.bytesRead ++ more.bytesRead :=
  List.flatMap_append

@[simp] theorem flatten_chunks (log : Log) : log.chunks.flatten = log.written.flatten := List.flatten_filter_ne_nil

end Log

/-- What has been done with a channel since it was made, and what it is by now. -/
inductive History : Log → Channel → Prop
  | start : History [] {}
  | next {log : Log} {c c' : Channel} {op : Operation} {result : Result} (before : History log c)
      (step : c.perform? op = some (result, c')) : History (log ++ [(op, result)]) c'

/-! ### What one operation does -/

variable {c c' : Channel} {op : Operation} {result : Result} {data : Bytes} {limit : Nat} {log : Log}

theorem write_empty (c : Channel) : c.write [] = .ok c := rfl

theorem write_of_hasReader (some_data : data ≠ []) (reader : c.hasReader = true) :
    c.write data = .ok { c with chunks := c.chunks ++ [data] } := by
  simp [write, some_data, reader]

theorem write_of_no_reader (some_data : data ≠ []) (gone : c.hasReader = false) :
    c.write data = .error .brokenPipe := by
  simp [write, some_data, gone]

/-- All that an operation can do. -/
theorem perform?_cases (h : c.perform? op = some (result, c')) :
    (op = .write [] ∧ result = .wrote 0 ∧ c' = c) ∨
    (∃ data, op = .write data ∧ data ≠ [] ∧ result = .wrote data.length ∧
      c' = { c with chunks := c.chunks ++ [data] } ∧ c.hasReader = true) ∨
    (∃ data, op = .write data ∧ result = .failed .brokenPipe ∧ c.hasReader = false ∧ c' = c) ∨
    (op = .flush ∧ result = .done ∧ c' = c) ∨
    (∃ limit data, op = .read limit ∧ result = .got data ∧ c.hasReader = true ∧ c.read? limit = some (data, c')) ∨
    (op = .dropWriter ∧ result = .done ∧ c' = c.dropWriter) ∨
    (op = .dropReader ∧ result = .done ∧ c' = c.dropReader) := by
  cases op with
  | write data =>
    obtain ⟨-, h⟩ := Option.ite_none_right_eq_some.1 h
    by_cases empty : data = []
    · subst empty
      cases h
      exact .inl ⟨rfl, rfl, rfl⟩
    · cases reader : c.hasReader with
      | true =>
        rw [write_of_hasReader empty reader] at h
        cases h
        exact .inr (.inl ⟨data, rfl, empty, rfl, by simp [reader], rfl⟩)
      | false =>
        rw [write_of_no_reader empty reader] at h
        cases h
        exact .inr (.inr (.inl ⟨data, rfl, rfl, rfl, rfl⟩))
  | flush =>
    obtain ⟨-, h⟩ := Option.ite_none_right_eq_some.1 h
    cases h
    simp
  | read limit =>
    obtain ⟨reader, h⟩ := Option.ite_none_right_eq_some.1 h
    obtain ⟨⟨data, c'⟩, given, same⟩ := Option.map_eq_some_iff.1 h
    cases same
    simp [reader, given]
  | dropWriter =>
    obtain ⟨-, h⟩ := Option.ite_none_right_eq_some.1 h
    cases h
    simp
  | dropReader =>
    obtain ⟨-, h⟩ := Option.ite_none_right_eq_some.1 h
    cases h
    simp

/-! ### Where the reader is -/

/-- The chunks behind the reader, the part of its own chunk that is read, and what is left. -/
def Position (log : Log) (c : Channel) (behind : List Bytes) (part : Bytes) : Prop :=
  [] :: log.chunks = behind ++ (part ++ c.current) :: c.chunks ∧ log.bytesRead = behind.flatten ++ part

/-- Going on to the next chunk leaves the reader where it is among the bytes. -/
theorem exists_advance (behind : List Bytes) (part current : Bytes) (chunks : List Bytes) :
    ∃ behind' part', behind ++ (part ++ current) :: chunks =
        behind' ++ (part' ++ (advance current chunks).1) :: (advance current chunks).2 ∧
      behind'.flatten ++ part' = behind.flatten ++ part := by
  induction chunks generalizing behind part current with
  | nil => exact ⟨behind, part, rfl, rfl⟩
  | cons c cs ih =>
    by_cases empty : current = []
    · subst empty
      obtain ⟨behind', part', split, read⟩ := ih (behind ++ [part]) [] c
      refine ⟨behind', part', ?_, by simpa using read⟩
      simpa [advance] using split
    · exact ⟨behind, part, by simp [advance, empty], rfl⟩

/-- What a read gives stands behind the part that is read, in the chunk that the reader is in by then. -/
theorem Position.of_read? {behind : List Bytes} {part : Bytes} (position : Position log c behind part)
    (h : c.read? limit = some (data, c')) :
    ∃ behind' part', [] :: log.chunks = behind' ++ (part' ++ data ++ c'.current) :: c'.chunks ∧
      log.bytesRead = behind'.flatten ++ part' := by
  obtain ⟨split, read⟩ := position
  unfold read? at h
  split at h
  · cases h
    exact ⟨behind, part, by simpa using split, read⟩
  · dsimp only at h
    split at h
    · cases h
    · cases h
      obtain ⟨behind', part', split', read'⟩ := exists_advance behind part c.current c.chunks
      refine ⟨behind', part', ?_, read.trans read'.symm⟩
      rw [split, split', List.append_assoc, List.take_append_drop]

/-- Entries that neither bring a chunk nor give bytes leave the reader where it is. -/
theorem Position.append {behind : List Bytes} {part : Bytes} {more : Log} (position : Position log c behind part)
    (no_chunk : more.chunks = []) (no_bytes : more.bytesRead = []) : Position (log ++ more) c behind part := by
  simpa [Position, no_chunk, no_bytes] using position

/-- As long as there is a reader, it is somewhere among the written chunks. -/
theorem History.exists_position (history : History log c) (reader : c.hasReader = true) :
    ∃ behind part, Position log c behind part := by
  induction history with
  | start => exact ⟨[], [], rfl, rfl⟩
  | @next log c c' op result _ step ih =>
    rcases perform?_cases step with ⟨rfl, rfl, rfl⟩ | ⟨data, rfl, some_data, rfl, rfl, -⟩ | ⟨data, rfl, rfl, -, rfl⟩ |
      ⟨rfl, rfl, rfl⟩ | ⟨limit, data, rfl, rfl, there, given⟩ | ⟨rfl, rfl, rfl⟩ | ⟨rfl, rfl, rfl⟩
    · obtain ⟨behind, part, position⟩ := ih reader
      exact ⟨behind, part, position.append rfl rfl⟩
    · obtain ⟨behind, part, split, read⟩ := ih reader
      refine ⟨behind, part, ?_, by simpa [Log.bytesRead] using read⟩
      have new : Log.chunks [(.write data, .wrote data.length)] = [data] := by simp [Log.chunks, Log.written, some_data]
      rw [Log.chunks_append, new, ← List.cons_append, split]
      simp
    · obtain ⟨behind, part, position⟩ := ih reader
      exact ⟨behind, part, position.append rfl rfl⟩
    · obtain ⟨behind, part, position⟩ := ih reader
      exact ⟨behind, part, position.append rfl rfl⟩
    · obtain ⟨behind, part, position⟩ := ih there
      obtain ⟨behind', part', split, read⟩ := position.of_read? given
      refine ⟨behind', part' ++ data, by simpa [Log.chunks, Log.written] using split, ?_⟩
      rw [Log.bytesRead_append, read]
      simp [Log.bytesRead]
    · obtain ⟨behind, part, position⟩ := ih reader
      exact ⟨behind, part, position.append rfl rfl⟩
    · cases reader

/-- A half is there until it is dropped. -/
theorem History.halves (history : History log c) :
    (c.hasWriter = true ↔ (.dropWriter, .done) ∉ log) ∧ (c.hasReader = true ↔ (.dropReader, .done) ∉ log) := by
  induction history with
  | start => simp
  | next _ step ih =>
    rcases perform?_cases step with ⟨rfl, rfl, rfl⟩ | ⟨data, rfl, -, rfl, rfl, -⟩ | ⟨data, rfl, rfl, -, rfl⟩ |
      ⟨rfl, rfl, rfl⟩ | ⟨limit, data, rfl, rfl, -, given⟩ | ⟨rfl, rfl, rfl⟩ | ⟨rfl, rfl, rfl⟩
    · simpa using ih
    · simpa using ih
    · simpa using ih
    · simpa using ih
    · obtain ⟨writer, reader⟩ := ends_of_read? given
      simpa [writer, reader] using ih
    · simpa [dropWriter] using ih.2
    · simpa [dropReader] using ih.1

/-! ### What a channel promises -/

/-- A read of something gives at least one byte where there is any, and no more than it asks for. -/
theorem exists_read? (wanted : limit ≠ 0) (unread : c.unread ≠ []) :
    ∃ data c', c.read? limit = some (data, c') ∧ data ≠ [] ∧ data.length ≤ limit := by
  cases h : c.read? limit with
  | none => exact absurd (empty_of_read?_none h).1 unread
  | some answer =>
    obtain ⟨data, c'⟩ := answer
    refine ⟨data, c', rfl, ?_, ?_⟩
    · rintro rfl
      exact unread (empty_of_read? h wanted).1
    · simp only [read?, if_neg wanted] at h
      split at h
      · cases h
      · cases h
        exact List.length_take_le _ _

theorem read?_of_end (gone : c.hasWriter = false) (empty : c.unread = []) :
    ∃ c', c.read? limit = some ([], c') ∧ c'.unread = [] := by
  cases h : c.read? limit with
  | none =>
    have there := (empty_of_read?_none h).2
    simp [gone] at there
  | some answer =>
    obtain ⟨data, c'⟩ := answer
    have nothing := (unread_of_read? h).trans empty
    rw [List.append_eq_nil_iff] at nothing
    exact ⟨c', by rw [nothing.1], nothing.2⟩

theorem read?_of_waiting (wanted : limit ≠ 0) (empty : c.unread = []) (writer : c.hasWriter = true) :
    c.read? limit = none := by
  cases h : c.read? limit with
  | none => rfl
  | some answer =>
    obtain ⟨data, c'⟩ := answer
    have nothing := (unread_of_read? h).trans empty
    rw [List.append_eq_nil_iff] at nothing
    have gone := (empty_of_read? (nothing.1 ▸ h) wanted).2
    simp [writer] at gone

theorem History.conserved (history : History log c) (reader : c.hasReader = true) :
    log.bytesRead ++ c.unread = log.written.flatten := by
  obtain ⟨behind, part, split, read⟩ := history.exists_position reader
  have all := congrArg List.flatten split
  rw [List.flatten_cons, List.nil_append, Log.flatten_chunks] at all
  rw [all, read]
  simp [unread]

theorem History.ofOneChunk (history : History log c) (reader : c.hasReader = true)
    (h : c.read? limit = some (data, c')) (some_data : data ≠ []) : log.OfOneChunk data := by
  obtain ⟨_, _, position⟩ := history.exists_position reader
  obtain ⟨behind, part, split, read⟩ := position.of_read? h
  cases behind with
  | nil =>
    -- The reader would still be in the empty chunk that it started with.
    simp [some_data] at split
  | cons first behind =>
    simp only [List.cons_append, List.cons.injEq] at split
    obtain ⟨rfl, split⟩ := split
    exact ⟨behind, _, _, part, _, split, rfl, by simpa using read⟩

/-- What a channel promises about its contents and about each operation that can come next. -/
structure Promises (log : Log) (c : Channel) : Prop where
  writer : c.hasWriter = true ↔ (.dropWriter, .done) ∉ log
  reader : c.hasReader = true ↔ (.dropReader, .done) ∉ log
  /-- No byte is lost, doubled or moved. -/
  conserved : c.hasReader = true → log.bytesRead ++ c.unread = log.written.flatten
  write : c.hasWriter = true → c.hasReader = true → ∀ data, data ≠ [] →
    ∃ c', c.perform? (.write data) = some (.wrote data.length, c') ∧ c'.unread = c.unread ++ data
  /-- Without a reader a write fails, and nothing changes. -/
  broken : c.hasWriter = true → c.hasReader = false → ∀ data, data ≠ [] →
    c.perform? (.write data) = some (.failed .brokenPipe, c)
  /-- An empty write succeeds, and the reader cannot know of it. -/
  empty : c.hasWriter = true → c.perform? (.write []) = some (.wrote 0, c)
  flush : c.hasWriter = true → c.perform? .flush = some (.done, c)
  /-- Where bytes are unread, a read gives some of them, with or without a writer. -/
  read : c.hasReader = true → c.unread ≠ [] → ∀ limit, limit ≠ 0 →
    ∃ data c', c.perform? (.read limit) = some (.got data, c') ∧ 1 ≤ data.length ∧ data.length ≤ limit ∧
      log.OfOneChunk data ∧ data ++ c'.unread = c.unread
  /-- A read of something gives nothing at the end of the input, and only there. -/
  ending : ∀ limit, limit ≠ 0 → ((∃ c', c.perform? (.read limit) = some (.got [], c')) ↔
    c.hasReader = true ∧ c.unread = [] ∧ c.hasWriter = false)
  /-- A read would wait only where nothing is unread and there is a writer. -/
  waiting : c.hasReader = true → ∀ limit, (c.perform? (.read limit) = none ↔
    limit ≠ 0 ∧ c.unread = [] ∧ c.hasWriter = true)
  nothing : c.hasReader = true → c.perform? (.read 0) = some (.got [], c)

/-- Whatever has been done with a channel, it keeps its promises. -/
theorem History.promises (history : History log c) : Promises log c where
  writer := history.halves.1
  reader := history.halves.2
  conserved := history.conserved
  write writer reader data some_data := by
    refine ⟨_, by rw [perform?, if_pos writer, write_of_hasReader some_data reader], ?_⟩
    simp [unread]
  broken writer gone data some_data := by rw [perform?, if_pos writer, write_of_no_reader some_data gone]
  empty writer := by rw [perform?, if_pos writer, write_empty]; rfl
  flush writer := by rw [perform?, if_pos writer]
  read reader some_unread limit wanted := by
    obtain ⟨data, c', given, some_data, fits⟩ := exists_read? wanted some_unread
    exact ⟨data, c', by rw [perform?, if_pos reader, given]; rfl, List.length_pos_iff.2 some_data, fits,
      history.ofOneChunk reader given some_data, unread_of_read? given⟩
  ending limit wanted := by
    constructor
    · rintro ⟨c', h⟩
      obtain ⟨reader, h⟩ := Option.ite_none_right_eq_some.1 h
      obtain ⟨⟨data, c'⟩, given, same⟩ := Option.map_eq_some_iff.1 h
      cases same
      exact ⟨reader, empty_of_read? given wanted⟩
    · rintro ⟨reader, empty, gone⟩
      obtain ⟨c', given, -⟩ := read?_of_end gone empty
      exact ⟨c', by rw [perform?, if_pos reader, given]; rfl⟩
  waiting reader limit := by
    rw [perform?, if_pos reader, Option.map_eq_none_iff]
    constructor
    · intro waits
      refine ⟨?_, empty_of_read?_none waits⟩
      rintro rfl
      cases waits
    · rintro ⟨wanted, empty, writer⟩
      exact read?_of_waiting wanted empty writer
  nothing reader := by rw [perform?, if_pos reader]; rfl

/-- A reader that takes two chunks in small bites, the last one after the writer is gone. -/
theorem promises_of_bites :
    History [(.write [1, 2, 3], .wrote 3), (.write [], .wrote 0), (.write [4], .wrote 1), (.read 2, .got [1, 2]),
      (.dropWriter, .done), (.read 2, .got [3]), (.read 0, .got [])] ⟨[], [[4]], false, true⟩ ∧
    Promises [(.write [1, 2, 3], .wrote 3), (.write [], .wrote 0), (.write [4], .wrote 1), (.read 2, .got [1, 2]),
      (.dropWriter, .done), (.read 2, .got [3]), (.read 0, .got [])] ⟨[], [[4]], false, true⟩ := by
  have history : History [(.write [1, 2, 3], .wrote 3), (.write [], .wrote 0), (.write [4], .wrote 1),
      (.read 2, .got [1, 2]), (.dropWriter, .done), (.read 2, .got [3]), (.read 0, .got [])] ⟨[], [[4]], false, true⟩ :=
    ((((((History.start.next rfl).next rfl).next rfl).next rfl).next rfl).next rfl).next rfl
  exact ⟨history, history.promises⟩

end Channel

end PipeShell
