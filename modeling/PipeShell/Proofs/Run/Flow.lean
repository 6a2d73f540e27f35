import PipeShell.Proofs.Run.Ownership

/-!
# What goes through a join

Whatever happens to a join, no byte in it is lost, doubled or moved.  `Join.Moves` lists what can happen, each with the
bytes that are read from the join and the bytes that it takes, and `Join.inFlight` is what it holds, from the reading
end back to the writing end.  As long as the join is read, all that has been read and all that is in flight are
together what it has taken: `Join.Carries`, which every move keeps (`Join.Carries.moves`).

The end of the input is seen when nothing is in flight and nobody will write any more (`Join.Carries.at_end`).  A relay
cannot bring it about earlier, for it lets go of its outer half only when the inner one is empty and has no writer.
-/

namespace PipeShell

/-! ### Channels and pipes -/

namespace Channel

variable {c c' : Channel} {limit : Nat} {data : Bytes}

@[simp] theorem unread_dropReader (c : Channel) : c.dropReader.unread = [] := rfl

@[simp] theorem unread_dropWriter (c : Channel) : c.dropWriter.unread = c.unread := rfl

/-- Going on to the next chunk keeps the bytes, and finds one if there is any. -/
theorem advance_append (current : Bytes) (chunks : List Bytes) :
    (advance current chunks).1 ++ (advance current chunks).2.flatten = current ++ chunks.flatten := by
  induction chunks generalizing current with
  | nil => rfl
  | cons c cs ih =>
    by_cases h : current = []
    · simp [advance, h, ih]
    · simp [advance, h]

theorem advance_snd_of_fst (current : Bytes) (chunks : List Bytes) (h : (advance current chunks).1 = []) :
    (advance current chunks).2 = [] := by
  induction chunks generalizing current with
  | nil => rfl
  | cons c cs ih =>
    by_cases hc : current = []
    · simp only [advance, hc, if_true] at h ⊢
      exact ih c h
    · simp [advance, hc] at h

/-- What is read comes off the front of the bytes that were unread. -/
theorem unread_of_read? (h : c.read? limit = some (data, c')) : data ++ c'.unread = c.unread := by
  unfold read? at h
  split at h
  · cases h; rfl
  · dsimp only at h
    split at h
    · cases h
    · cases h
      rw [unread, unread, ← List.append_assoc, List.take_append_drop]
      exact advance_append _ _

/-- A read gives nothing only when everything is read and nobody will write any more. -/
theorem empty_of_read? (h : c.read? limit = some ([], c')) (wanted : limit ≠ 0) :
    c.unread = [] ∧ c.hasWriter = false := by
  have unread := unread_of_read? h
  simp only [read?, if_neg wanted] at h
  split at h
  · cases h
  · rename_i waits
    simp only [Option.some.injEq, Prod.mk.injEq, List.take_eq_nil_iff, wanted, false_or] at h
    obtain ⟨front, rfl⟩ := h
    have back := advance_snd_of_fst _ _ front
    refine ⟨?_, by simpa [front] using waits⟩
    rw [← unread]
    simp [Channel.unread, front, back]

/-- A read waits only when everything is read and there is a writer. -/
theorem empty_of_read?_none (h : c.read? limit = none) : c.unread = [] ∧ c.hasWriter = true := by
  unfold read? at h
  split at h
  · cases h
  · dsimp only at h
    split at h
    · rename_i waits
      refine ⟨?_, waits.2⟩
      rw [unread, ← advance_append, waits.1, advance_snd_of_fst _ _ waits.1]
      rfl
    · cases h

/-- What is written comes behind the bytes that were unread. -/
theorem unread_of_write (h : c.write data = .ok c') : c'.unread = c.unread ++ data := by
  unfold write at h
  split at h
  · rename_i hdata
    cases h; simp [hdata]
  · split at h
    · cases h; simp [unread]
    · cases h

/-- A join takes what its channel takes, and all of it. -/
theorem of_map_write {f : Channel → Join} {rest : Bytes} {j : Join}
    (h : some ((c.write data).map fun c => ([], f c)) = some (.ok (rest, j))) :
    ∃ c', c.write data = .ok c' ∧ rest = [] ∧ j = f c' := by
  cases hc : c.write data with
  | error fault => simp [hc, Except.map] at h
  | ok c' =>
    simp only [hc, Except.map, Option.some.injEq, Except.ok.injEq, Prod.mk.injEq] at h
    exact ⟨c', rfl, h.1.symm, h.2.symm⟩

/-- A join gives what its channel gives. -/
theorem of_map_read? {f : Channel → Join} {j : Join}
    (h : (c.read? limit).map (fun (b, c) => (b, f c)) = some (data, j)) :
    ∃ c', c.read? limit = some (data, c') ∧ j = f c' := by
  simp only [Option.map_eq_some_iff, Prod.mk.injEq] at h
  obtain ⟨⟨b, c'⟩, hc, rfl, rfl⟩ := h
  exact ⟨c', hc, rfl⟩

/-- A write fails only where there is no reader. -/
theorem hasReader_of_write_error {fault : Fault} (h : c.write data = .error fault) : c.hasReader = false := by
  unfold write at h
  split at h
  · cases h
  · split at h
    · cases h
    · rename_i closed
      simpa using closed

/-- Without its reader a channel takes nothing. -/
theorem eq_nil_of_write (h : c.write data = .ok c') (closed : c.hasReader = false) : data = [] ∧ c' = c := by
  unfold write at h
  split at h
  · rename_i hdata
    cases h; exact ⟨hdata, rfl⟩
  · simp [closed] at h

end Channel

namespace Pipe

variable {p p' : Pipe} {limit : Nat} {data rest : Bytes}

theorem buffer_of_read? (h : p.read? limit = some (data, p')) : data ++ p'.buffer = p.buffer := by
  unfold read? at h
  split at h
  · cases h; rfl
  · split at h
    · cases h
    · cases h; exact List.take_append_drop _ _

theorem empty_of_read? (h : p.read? limit = some ([], p')) (wanted : limit ≠ 0) :
    p.buffer = [] ∧ p.hasWriter = false := by
  simp only [read?, if_neg wanted] at h
  split at h
  · cases h
  · rename_i waits
    simp only [Option.some.injEq, Prod.mk.injEq, List.take_eq_nil_iff, wanted, false_or] at h
    exact ⟨h.1, by simpa [h.1] using waits⟩

theorem empty_of_read?_none (h : p.read? limit = none) : p.buffer = [] ∧ p.hasWriter = true := by
  unfold read? at h
  split at h
  · cases h
  · split at h
    · assumption
    · cases h

/-- A pipe takes the front of what is written, and gives back the rest. -/
theorem buffer_of_write? (h : p.write? data = some (.ok (rest, p'))) :
    ∃ taken, data = taken ++ rest ∧ p'.buffer = p.buffer ++ taken := by
  unfold write? at h
  split at h
  · rename_i hdata
    cases h; exact ⟨[], by simp [hdata], by simp⟩
  · split at h
    · cases h
    · dsimp only at h
      split at h
      · cases h
      · cases h
        exact ⟨_, (List.take_append_drop _ _).symm, rfl⟩

/-- A join takes what its pipe takes. -/
theorem of_map_write? {f : Pipe → Join} {j : Join}
    (h : (p.write? data).map (·.map fun (rest, p) => (rest, f p)) = some (.ok (rest, j))) :
    ∃ p', p.write? data = some (.ok (rest, p')) ∧ j = f p' := by
  simp only [Option.map_eq_some_iff] at h
  obtain ⟨outcome, hp, h⟩ := h
  cases outcome with
  | error fault => cases h
  | ok result =>
    simp only [Except.map, Except.ok.injEq, Prod.mk.injEq] at h
    obtain ⟨rfl, rfl⟩ := h
    exact ⟨_, hp, rfl⟩

/-- A join gives what its pipe gives. -/
theorem of_map_read? {f : Pipe → Join} {j : Join}
    (h : (p.read? limit).map (fun (b, p) => (b, f p)) = some (data, j)) :
    ∃ p', p.read? limit = some (data, p') ∧ j = f p' := by
  simp only [Option.map_eq_some_iff, Prod.mk.injEq] at h
  obtain ⟨⟨b, p'⟩, hp, rfl, rfl⟩ := h
  exact ⟨p', hp, rfl⟩

/-- Without its reader a pipe takes nothing. -/
theorem eq_nil_of_write? (h : p.write? data = some (.ok (rest, p'))) (closed : p.hasReader = false) :
    data = [] ∧ rest = [] ∧ p' = p := by
  unfold write? at h
  split at h
  · rename_i hdata
    cases h; exact ⟨hdata, rfl, rfl⟩
  · simp [closed] at h

/-- A write fails only where there is no reader. -/
theorem hasReader_of_write?_error {fault : Fault} (h : p.write? data = some (.error fault)) : p.hasReader = false := by
  unfold write? at h
  split at h
  · cases h
  · split at h
    · rename_i closed
      simpa using closed
    · dsimp only at h
      split at h <;> cases h

end Pipe

namespace Join

/-- The bytes in a join, from the reading end back to the writing end. -/
def inFlight : Join → Bytes
  | .absent => []
  | .channel c => c.unread
  | .pipe p => p.buffer
  | .feeding c r p => p.buffer ++ r.held ++ c.unread
  | .collecting p r c => c.unread ++ r.held ++ p.buffer
  | .draining c _ => c.unread

/-- A join that leads from one stage to the next. -/
def leadsOn : Join → Bool
  | .absent | .draining _ _ => false
  | _ => true

/-- The later stage holds the reading end. -/
def isRead : Join → Bool
  | .absent | .draining _ _ => false
  | .channel c => c.hasReader
  | .pipe p => p.hasReader
  | .feeding _ _ p => p.hasReader
  | .collecting _ _ c => c.hasReader

/-- The relay copies, or nothing is left on its inner side and nothing will come. -/
def Through : Join → Prop
  | .feeding c r _ => r.state = .copying ∨ r.held = [] ∧ c.unread = [] ∧ c.hasWriter = false ∧ c.hasReader = false
  | .collecting p r _ => r.state = .copying ∨ r.held = [] ∧ p.buffer = [] ∧ p.hasWriter = false ∧ p.hasReader = false
  | _ => True

/-- What can happen to a join, with the bytes that are read from it and the bytes that it takes. -/
inductive Moves (j : Join) : Bytes → Bytes → Join → Prop
  | same : Moves j [] [] j
  | relay {j' : Join} (copied : j.stepRelay? = some j') : Moves j [] [] j'
  /-- Only a join that is read gives any bytes. -/
  | read {limit : Nat} {data : Bytes} {j' : Join} (given : j.read? limit = some (data, j'))
      (reads : j.leadsOn = true → j.isRead = true) : Moves j data [] j'
  | write {taken rest : Bytes} {j' : Join} (accepted : j.write? (taken ++ rest) = some (.ok (rest, j'))) :
      Moves j [] taken j'
  | closeReader : Moves j [] [] j.closeReader
  | closeWriter : Moves j [] [] j.closeWriter

/-- What a join has given and taken: `got` has been read from it and `sent` has been written to it. -/
structure Carries (j : Join) (got sent : Bytes) : Prop where
  begins : got <+: sent
  flow : j.isRead = true → got ++ j.inFlight = sent
  through : j.isRead = true → j.Through

variable {j j' : Join} {got sent data rest : Bytes} {limit : Nat}

/-- A join takes the front of what is written, and gives back the rest. -/
theorem exists_taken (h : j.write? data = some (.ok (rest, j'))) : ∃ taken, data = taken ++ rest := by
  cases j with
  | absent =>
    simp only [write?, Option.some.injEq, Except.ok.injEq, Prod.mk.injEq] at h
    exact ⟨data, by simp [← h.1]⟩
  | channel c | feeding c r p | draining c r =>
    obtain ⟨c', -, rfl, -⟩ := Channel.of_map_write h
    exact ⟨data, by simp⟩
  | pipe p =>
    obtain ⟨p', hp, -⟩ := Pipe.of_map_write? h
    obtain ⟨taken, htaken, -⟩ := Pipe.buffer_of_write? hp
    exact ⟨taken, htaken⟩
  | collecting p r c =>
    obtain ⟨p', hp, -⟩ := Pipe.of_map_write? (f := fun p => .collecting p r c) h
    obtain ⟨taken, htaken, -⟩ := Pipe.buffer_of_write? hp
    exact ⟨taken, htaken⟩

/-- A join that leads nowhere gives nothing, and stays as it is. -/
theorem of_read?_apart (h : j.read? limit = some (data, j')) (apart : j.leadsOn = false) : data = [] ∧ j' = j := by
  cases j with
  | absent | draining =>
    simp only [read?, Option.some.injEq, Prod.mk.injEq] at h
    exact ⟨h.1.symm, h.2.symm⟩
  | channel | pipe | feeding | collecting => cases apart

/-- A join is read as long as the later stage runs. -/
theorem HeldBy.isRead_eq {writes reads : Bool} (held : j.HeldBy writes reads) (leads : j.leadsOn = true) :
    j.isRead = reads := by
  cases j with
  | absent | draining => cases leads
  | channel | pipe => exact held.2
  | feeding | collecting => exact held.2.1

/-- What is read from a join that leads on comes off the front of what is in flight. -/
theorem inFlight_of_read? (h : j.read? limit = some (data, j')) (leads : j.leadsOn = true) :
    data ++ j'.inFlight = j.inFlight ∧ j'.isRead = j.isRead ∧ (j.Through → j'.Through) := by
  cases j with
  | absent | draining => cases leads
  | channel c =>
    obtain ⟨c', hc, rfl⟩ := Channel.of_map_read? h
    exact ⟨Channel.unread_of_read? hc, (Channel.ends_of_read? hc).2, id⟩
  | pipe p =>
    obtain ⟨p', hp, rfl⟩ := Pipe.of_map_read? h
    exact ⟨Pipe.buffer_of_read? hp, (Pipe.ends_of_read? hp).2, id⟩
  | feeding c r p =>
    obtain ⟨p', hp, rfl⟩ := Pipe.of_map_read? h
    refine ⟨?_, (Pipe.ends_of_read? hp).2, id⟩
    simp only [inFlight, ← List.append_assoc, Pipe.buffer_of_read? hp]
  | collecting p r c =>
    obtain ⟨c', hc, rfl⟩ := Channel.of_map_read? h
    refine ⟨?_, (Channel.ends_of_read? hc).2, id⟩
    simp only [inFlight, ← List.append_assoc, Channel.unread_of_read? hc]

/-- What a join takes that is read comes behind all that is in flight. -/
theorem inFlight_of_write? {taken : Bytes} (h : j.write? (taken ++ rest) = some (.ok (rest, j')))
    (reads : j'.isRead = true) :
    j.isRead = true ∧ (j.Through → j'.inFlight = j.inFlight ++ taken ∧ j'.Through) := by
  cases j with
  | absent =>
    simp only [write?, Option.some.injEq, Except.ok.injEq, Prod.mk.injEq] at h
    rw [← h.2] at reads
    cases reads
  | channel c =>
    obtain ⟨c', hc, rfl, rfl⟩ := Channel.of_map_write h
    rw [List.append_nil] at hc
    exact ⟨by rw [← reads]; exact (Channel.ends_of_write hc).2.symm, fun _ => ⟨Channel.unread_of_write hc, trivial⟩⟩
  | pipe p =>
    obtain ⟨p', hp, rfl⟩ := Pipe.of_map_write? h
    obtain ⟨taken', split, buffer⟩ := Pipe.buffer_of_write? hp
    obtain rfl := List.append_cancel_right split
    exact ⟨by rw [← reads]; exact (Pipe.ends_of_write? hp).2.symm, fun _ => ⟨buffer, trivial⟩⟩
  | feeding c r p =>
    obtain ⟨c', hc, rfl, rfl⟩ := Channel.of_map_write h
    rw [List.append_nil] at hc
    refine ⟨reads, fun through => ⟨by simp [inFlight, Channel.unread_of_write hc], ?_⟩⟩
    rcases through with copying | ⟨held, empty, writer, closed⟩
    · exact .inl copying
    · obtain ⟨-, rfl⟩ := Channel.eq_nil_of_write hc closed
      exact .inr ⟨held, empty, writer, closed⟩
  | collecting p r c =>
    obtain ⟨p', hp, rfl⟩ := Pipe.of_map_write? (f := fun p => .collecting p r c) h
    obtain ⟨taken', split, buffer⟩ := Pipe.buffer_of_write? hp
    obtain rfl := List.append_cancel_right split
    refine ⟨reads, fun through => ⟨by simp [inFlight, buffer], ?_⟩⟩
    rcases through with copying | ⟨held, empty, writer, closed⟩
    · exact .inl copying
    · obtain ⟨-, -, rfl⟩ := Pipe.eq_nil_of_write? hp closed
      exact .inr ⟨held, empty, writer, closed⟩
  | draining c r =>
    obtain ⟨c', -, rfl, rfl⟩ := Channel.of_map_write h
    cases reads

/-- A relay moves bytes on, and gives up nothing as long as its outer half is read. -/
theorem inFlight_of_stepRelay? (h : j.stepRelay? = some j') (reads : j'.isRead = true) :
    j.isRead = true ∧ (j.Through → j'.inFlight = j.inFlight ∧ j'.Through) := by
  cases relays_of_stepRelay? h with
  | feedRead copying idle given more =>
    exact ⟨reads, fun _ => ⟨by simp [inFlight, idle, ← Channel.unread_of_read? given], .inl copying⟩⟩
  | feedEnd copying idle given =>
    obtain ⟨empty, writer⟩ := Channel.empty_of_read? given (by decide)
    refine ⟨reads, fun _ => ⟨?_, .inr ⟨idle, rfl, (Channel.ends_of_read? given).1.trans writer, rfl⟩⟩⟩
    simp [inFlight, idle, empty, Pipe.dropWriter]
  | feedWrite copying busy taken =>
    obtain ⟨front, split, buffer⟩ := Pipe.buffer_of_write? taken
    refine ⟨by rw [← reads]; exact (Pipe.ends_of_write? taken).2.symm, fun _ => ⟨?_, .inl copying⟩⟩
    simp [inFlight, buffer, split]
  | @feedBroken _ _ p _ copying busy failed =>
    -- The program behind it is gone, so that nobody reads.
    have closed : p.hasReader = true := reads
    rw [Pipe.hasReader_of_write?_error failed] at closed
    cases closed
  | collectRead copying idle given more =>
    exact ⟨reads, fun _ => ⟨by simp [inFlight, idle, ← Pipe.buffer_of_read? given], .inl copying⟩⟩
  | collectEnd copying idle given =>
    obtain ⟨empty, writer⟩ := Pipe.empty_of_read? given (by decide)
    refine ⟨reads, fun _ => ⟨?_, .inr ⟨idle, rfl, (Pipe.ends_of_read? given).1.trans writer, rfl⟩⟩⟩
    simp [inFlight, idle, empty, Pipe.dropReader]
  | collectWrite copying busy taken =>
    refine ⟨by rw [← reads]; exact (Channel.ends_of_write taken).2.symm, fun _ => ⟨?_, .inl copying⟩⟩
    simp [inFlight, Channel.unread_of_write taken]
  | @collectBroken _ _ c _ copying busy failed =>
    have closed : c.hasReader = true := reads
    rw [Channel.hasReader_of_write_error failed] at closed
    cases closed
  | drainRead | drainEnd => cases reads

/-- What has been read and what is in flight stay together what has been taken, whatever happens to the join. -/
theorem Carries.moves {given taken : Bytes} (h : j.Carries got sent) (moves : j.Moves given taken j') :
    j'.Carries (got ++ given) (sent ++ taken) := by
  cases moves with
  | same => simpa using h
  | relay copied =>
    simp only [List.append_nil]
    exact
      { begins := h.begins
        flow := fun reads => by
          obtain ⟨reads, kept⟩ := inFlight_of_stepRelay? copied reads
          rw [(kept (h.through reads)).1, h.flow reads]
        through := fun reads => by
          obtain ⟨reads, kept⟩ := inFlight_of_stepRelay? copied reads
          exact (kept (h.through reads)).2 }
  | read hread reads =>
    rw [List.append_nil]
    cases leads : j.leadsOn with
    | false =>
      obtain ⟨rfl, rfl⟩ := of_read?_apart hread leads
      simpa using h
    | true =>
      obtain ⟨flow, isRead, through⟩ := inFlight_of_read? hread leads
      have sum := h.flow (reads leads)
      rw [← flow, ← List.append_assoc] at sum
      exact
        { begins := ⟨_, sum⟩
          flow := fun _ => sum
          through := fun _ => through (h.through (reads leads)) }
  | write accepted =>
    rw [List.append_nil]
    exact
      { begins := h.begins.trans (List.prefix_append _ _)
        flow := fun reads => by
          obtain ⟨reads, kept⟩ := inFlight_of_write? accepted reads
          rw [(kept (h.through reads)).1, ← List.append_assoc, h.flow reads]
        through := fun reads => by
          obtain ⟨reads, kept⟩ := inFlight_of_write? accepted reads
          exact (kept (h.through reads)).2 }
  | closeReader =>
    simp only [List.append_nil]
    have closed : j.closeReader.isRead = false := by cases j <;> rfl
    exact ⟨h.begins, fun reads => by simp [closed] at reads, fun reads => by simp [closed] at reads⟩
  | closeWriter =>
    simp only [List.append_nil]
    have isRead : j.closeWriter.isRead = j.isRead := by cases j <;> rfl
    have inFlight : j.closeWriter.inFlight = j.inFlight := by cases j <;> rfl
    refine ⟨h.begins, fun reads => by rw [inFlight, h.flow (isRead ▸ reads)], fun reads => ?_⟩
    have through := h.through (isRead ▸ reads)
    cases j with
    | absent | channel | pipe | draining => trivial
    | feeding | collecting => exact through.imp_right fun ⟨held, empty, _, closed⟩ => ⟨held, empty, rfl, closed⟩

/-- The end of the input is seen only when the earlier stage has ended and nothing is in flight. -/
theorem Carries.at_end {writes reads : Bool} (h : j.Carries got sent) (held : j.HeldBy writes reads)
    (leads : j.leadsOn = true) (isRead : j.isRead = true) (seen : j.read? limit = some ([], j')) (wanted : limit ≠ 0) :
    writes = false ∧ j.inFlight = [] := by
  have through := h.through isRead
  cases j with
  | absent | draining => cases leads
  | channel c =>
    obtain ⟨c', hc, -⟩ := Channel.of_map_read? seen
    obtain ⟨empty, writer⟩ := Channel.empty_of_read? hc wanted
    exact ⟨held.1.symm.trans writer, empty⟩
  | pipe p =>
    obtain ⟨p', hp, -⟩ := Pipe.of_map_read? seen
    obtain ⟨empty, writer⟩ := Pipe.empty_of_read? hp wanted
    exact ⟨held.1.symm.trans writer, empty⟩
  | feeding c r p =>
    obtain ⟨p', hp, -⟩ := Pipe.of_map_read? seen
    obtain ⟨empty, writer⟩ := Pipe.empty_of_read? hp wanted
    -- The relay has let go of the pipe, so that it has ended.
    rcases through with copying | ⟨hheld, hempty, hwriter, -⟩
    · have copies := held.2.2.2
      simp [writer, Relay.copies, copying] at copies
    · exact ⟨held.1.symm.trans hwriter, by simp [inFlight, empty, hheld, hempty]⟩
  | collecting p r c =>
    obtain ⟨c', hc, -⟩ := Channel.of_map_read? seen
    obtain ⟨empty, writer⟩ := Channel.empty_of_read? hc wanted
    rcases through with copying | ⟨hheld, hempty, hwriter, -⟩
    · have copies := held.2.2.2
      simp [writer, Relay.copies, copying] at copies
    · exact ⟨held.1.symm.trans hwriter, by simp [inFlight, empty, hheld, hempty]⟩

end Join

end PipeShell
