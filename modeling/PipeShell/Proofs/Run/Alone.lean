import PipeShell.Proofs.Run.InOrder

/-!
# Programs that run alone

What a program does that runs alone (`Act.runAlone`) does not depend on what its outlet has taken before
(`Act.runAlone_behind`), so that a program may be looked at in the middle of its run as if it had just been started.
Its steps can be counted beforehand (`Act.steps`).
-/

namespace PipeShell

/-- The number of requests that a program makes when it runs alone, and one for its end. -/
def Act.steps {ρ : Type} : Act ρ → Surroundings → Nat
  | .done _, _ => 1
  | .read n next, w =>
    match w.input.read? n with
    | some (data, input) => (next data).steps { w with input } + 1
    | none => (next []).steps w + 1
  | .write s b next, w =>
    match w.write s b with
    | .ok w' => (next none).steps w' + 1
    | .error e => (next (some e)).steps w + 1
  | .call change next, w => (next w.host).steps { w with host := change w.host } + 1

section Requests

variable {ρ : Type} {w v : Surroundings} {limit : Nat} {data : Bytes} {input : Channel} {stream : StdStream}
  {fault : Fault}

theorem Act.runAlone_read (given : w.input.read? limit = some (data, input)) (goOn : Bytes → Act ρ) :
    (Act.read limit goOn).runAlone w = (goOn data).runAlone { w with input } ∧
      (Act.read limit goOn).steps w = (goOn data).steps { w with input } + 1 := by
  simp [runAlone, steps, given]

theorem Act.runAlone_write (taken : w.write stream data = .ok v) (goOn : Option Fault → Act ρ) :
    (Act.write stream data goOn).runAlone w = (goOn none).runAlone v ∧
      (Act.write stream data goOn).steps w = (goOn none).steps v + 1 := by
  simp [runAlone, steps, taken]

theorem Act.runAlone_refused (failed : w.write stream data = .error fault) (goOn : Option Fault → Act ρ) :
    (Act.write stream data goOn).runAlone w = (goOn (some fault)).runAlone w ∧
      (Act.write stream data goOn).steps w = (goOn (some fault)).steps w + 1 := by
  simp [runAlone, steps, failed]

end Requests

/-- An outlet that has taken more before. -/
def Outlet.behind (before : List Bytes) : Outlet → Outlet
  | .channel c => .channel { c with chunks := before ++ c.chunks }
  | .to d => .to d

def Surroundings.behind (before : List Bytes) (w : Surroundings) : Surroundings := { w with out := w.out.behind before }

theorem Surroundings.behind_nil (w : Surroundings) : w.behind [] = w := by
  obtain ⟨host, input, out, err⟩ := w
  cases out <;> rfl

theorem Outlet.write_behind (before : List Bytes) (o : Outlet) (h : Host) (data : Bytes) :
    (o.behind before).write h data = (o.write h data).map fun (o, h) => (o.behind before, h) := by
  cases o with
  | «to» d => cases hw : h.write d data <;> simp [behind, write, hw, Except.map]
  | channel c =>
    simp only [behind, write, Channel.write]
    split
    · rfl
    · split <;> simp [Except.map]

theorem Surroundings.write_behind (before : List Bytes) (w : Surroundings) (s : StdStream) (data : Bytes) :
    (w.behind before).write s data = (w.write s data).map (·.behind before) := by
  cases s with
  | out =>
    simp only [write, behind, Outlet.write_behind]
    cases w.out.write w.host data <;> rfl
  | err =>
    simp only [write, behind]
    cases w.err.write w.host data <;> rfl

/-- What the outlet of a program has taken before does not matter to it. -/
theorem Act.runAlone_behind {ρ : Type} (before : List Bytes) (act : Act ρ) (w : Surroundings) :
    act.runAlone (w.behind before) = ((act.runAlone w).1, (act.runAlone w).2.behind before) ∧
      act.steps (w.behind before) = act.steps w := by
  induction act generalizing w with
  | done r => exact ⟨rfl, rfl⟩
  | read n next ih =>
    simp only [runAlone, steps]
    rw [show (w.behind before).input = w.input from rfl]
    cases w.input.read? n with
    | none => exact ⟨(ih [] w).1, congrArg (· + 1) (ih [] w).2⟩
    | some given =>
      obtain ⟨data, input⟩ := given
      exact ⟨(ih data { w with input }).1, congrArg (· + 1) (ih data { w with input }).2⟩
  | write s data next ih =>
    simp only [runAlone, steps, Surroundings.write_behind]
    cases w.write s data with
    | error fault => exact ⟨(ih (some fault) w).1, congrArg (· + 1) (ih (some fault) w).2⟩
    | ok v => exact ⟨(ih none v).1, congrArg (· + 1) (ih none v).2⟩
  | call change next ih =>
    exact ⟨(ih w.host { w with host := change w.host }).1,
      congrArg (· + 1) (ih w.host { w with host := change w.host }).2⟩

theorem Outlet.passed_behind (before : List Bytes) (o : Outlet) :
    (o.behind before).passed = o.passed.map (before ++ ·) := by cases o <;> rfl

theorem Outlet.isSome_passed_of_write {o o' : Outlet} {h h' : Host} {data : Bytes}
    (taken : o.write h data = .ok (o', h')) : o'.passed.isSome = o.passed.isSome := by
  cases o with
  | «to» d =>
    cases hw : h.write d data with
    | error fault => simp [write, hw, Except.map] at taken
    | ok host =>
      simp only [write, hw, Except.map, Except.ok.injEq, Prod.mk.injEq] at taken
      rw [← taken.1]
  | channel c =>
    cases hw : c.write data with
    | error fault => simp [write, hw, Except.map] at taken
    | ok c' =>
      simp only [write, hw, Except.map, Except.ok.injEq, Prod.mk.injEq] at taken
      rw [← taken.1]
      rfl

/-- Whether a program passes its output on does not change while it runs. -/
theorem Act.isSome_passed_runAlone {ρ : Type} (act : Act ρ) (w : Surroundings) :
    (act.runAlone w).2.out.passed.isSome = w.out.passed.isSome := by
  induction act generalizing w with
  | done r => rfl
  | read n next ih =>
    simp only [runAlone]
    split
    · exact ih _ _
    · exact ih _ _
  | write s data next ih =>
    simp only [runAlone]
    split
    · rename_i v taken
      rw [ih]
      cases s with
      | err =>
        simp only [Surroundings.write] at taken
        cases hw : w.err.write w.host data with
        | error fault => simp [hw, Except.map] at taken
        | ok result =>
          simp only [hw, Except.map, Except.ok.injEq] at taken
          rw [← taken]
      | out =>
        simp only [Surroundings.write] at taken
        cases hw : w.out.write w.host data with
        | error fault => simp [hw, Except.map] at taken
        | ok result =>
          simp only [hw, Except.map, Except.ok.injEq] at taken
          rw [← taken]
          exact Outlet.isSome_passed_of_write hw
    · exact ih _ _
  | call change next ih => exact ih _ _

namespace Channel

/-- What is written, as a list of chunks. -/
def chunk (data : Bytes) : List Bytes := if data = [] then [] else [data]

theorem flatten_chunk (data : Bytes) : (chunk data).flatten = data := by
  unfold chunk
  split
  · rename_i h
    simp [h]
  · simp

theorem write_eq {c c' : Channel} {data : Bytes} (h : c.write data = .ok c') :
    c' = { c with chunks := c.chunks ++ chunk data } := by
  unfold write at h
  unfold chunk
  split at h
  · rename_i hdata
    cases h
    simp [hdata]
  · rename_i hdata
    split at h
    · cases h
      simp [hdata]
    · cases h

end Channel

end PipeShell
