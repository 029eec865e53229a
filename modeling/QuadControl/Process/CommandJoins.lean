import QuadControl.Process.CommandTimeouts

/-! # When the joins end

The joins of the four loops end, and leave no child behind, as long as no descendant keeps a pipe
beyond the end of the child. One that does, such as the server that `adb` starts, holds the
loop up at the next join, timeout or not; and a poll that fails makes one of the loops return
with the child still running.
-/

namespace QuadControl.Process

open Lib Lib.Utf8 Lib.Reaping Android Wireless Probe Ios

variable {terms : Terms Pipe} {waited : Bool}

/-! ### Each loop -/

theorem wp_collectChild {lossy : Bytes → Text} (reads : ∀ pipe, terms.reads pipe = true)
    {post : Bool → Except WirelessError (Output Text) → Prop}
    (holds : ∀ result, post true result) : (collectChild lossy).wp terms post waited := by
  simp only [collectChild, Program.wp_bind, wp_tryWait]
  refine ⟨fun _ error => ?_, fun status => ?_, ?_⟩
  · simp [holds, reads]
  · simp only [wp_join, reads, true_and]
    intro out
    split
    · exact holds _
    · simp only [Program.wp_bind, wp_join, reads, true_and]
      intro err
      split
      · exact holds _
      · exact holds _
  · simp only [wp_elapsed]
    intro late
    split
    · simp only [Program.wp_bind, wp_kill, wp_wait, wp_join, reads, true_and]
      intro _ waited _ _
      split
      · exact holds _
      · exact holds _
    · exact Program.wp_again

theorem wp_run {lossy : Bytes → Text} {command : AdbCommand}
    (reads : ∀ pipe, terms.reads pipe = true)
    {post : Bool → Except ExecutionError CommandOutput → Prop}
    (holds : ∀ result, post true result) :
    (SystemRunner.run lossy command).wp terms post waited := by
  simp only [SystemRunner.run, Program.wp_bind, wp_tryWait]
  refine ⟨fun _ error => ?_, fun status => ?_, ?_⟩
  · simp [holds, reads]
  · simp only [wp_join, reads, true_and]
    intro stdout
    split
    · exact holds _
    · simp only [Program.wp_bind, wp_join, reads, true_and]
      intro stderr
      split
      · exact holds _
      · split
        · exact holds _
        · exact holds _
  · simp only [wp_elapsed]
    intro late
    split
    · simp [holds, reads]
    · exact Program.wp_again

/-- `try_wait` fails into a return of its own here, before the child was waited for. -/
theorem wp_runCaptureStdout {terms : Terms Unit} (sure : terms.fails = false)
    (reads : terms.reads () = true)
    {post : Bool → Except IoError (Bool × ExitStatus × Bytes) → Prop}
    (holds : ∀ result, post true result) : runCaptureStdout.wp terms post waited := by
  simp only [runCaptureStdout, Program.wp_bind, wp_tryWait]
  refine ⟨fun fails => ?_, fun status => ?_, ?_⟩
  · cases sure.symm.trans fails
  · simp [holds, reads]
  · simp only [wp_elapsed]
    intro late
    split
    · simp only [Program.wp_bind, wp_kill, wp_wait]
      intro _ ended
      split
      · exact holds _
      · simp [holds, reads]
    · exact Program.wp_again

section

variable {readers : PairProcess.Readers} (reads : terms.reads = readers.has)

include reads

/-- Once the child was waited for, the readers that are left may be joined. -/
theorem wp_joinReaders {post : Bool → Unit → Prop} (holds : post true ()) :
    (PairProcess.joinReaders readers).wp terms post true := by
  obtain ⟨stdout, stderr⟩ := readers
  cases stdout <;> cases stderr <;>
    simp [PairProcess.joinReaders, holds, reads, PairProcess.Readers.has]

theorem wp_killReap {post : Bool → Except WirelessError Unit → Prop}
    (holds : ∀ result, post true result) :
    (PairProcess.killReap readers).wp terms post waited := by
  simp only [PairProcess.killReap, Program.wp_bind, wp_kill, wp_wait]
  intro killed waited
  apply wp_joinReaders reads
  split
  · exact holds _
  · split
    · exact holds _
    · exact holds _
  · exact holds _

theorem wp_drop {post : Bool → Unit → Prop} (holds : post true ()) :
    (PairProcess.drop readers).wp terms post waited := by
  simp only [PairProcess.drop, Program.wp_bind, wp_tryWait, wp_kill, wp_wait]
  exact ⟨fun _ _ _ _ => wp_joinReaders reads holds, fun _ => wp_joinReaders reads holds,
    fun _ _ => wp_joinReaders reads holds⟩

theorem wp_finish {lossy : Bytes → Text} (status : Int)
    {post : Bool → Option (Except WirelessError (Output Text)) → Prop}
    (holds : ∀ result, post true result) :
    (PairProcess.finish lossy readers status).wp terms post true := by
  simp only [PairProcess.finish]
  split
  · exact holds _
  · rename_i first
    have first' : terms.reads .stdout = true := by
      simpa [reads, PairProcess.Readers.has] using first
    simp only [Program.wp_bind, wp_join, first', true_and]
    intro stdout
    split
    · exact holds _
    · split
      · exact holds _
      · rename_i second
        have second' : terms.reads .stderr = true := by
          simpa [reads, PairProcess.Readers.has] using second
        simp only [Program.wp_bind, wp_join, second', true_and]
        intro stderr
        split
        · exact holds _
        · exact holds _

end

/-- What `poll` returns but for a child that is still running, and for errors of the system: an
    output, that it is too large, that the time is up, or nothing at all since it panics. -/
def Conclusive : Option (Except WirelessError (Option (Output Text))) → Prop
  | some (.ok none) | some (.error (.io _)) => False
  | some (.ok (some _)) | some (.error _) | none => True

theorem wp_poll {readers : PairProcess.Readers} (reads : terms.reads = readers.has)
    (lossy : Bytes → Text) :
    (PairProcess.poll lossy readers).wp terms
      (fun waited result => Conclusive result → waited = true) waited := by
  simp only [PairProcess.poll, Program.wp_bind, wp_tryWait]
  refine ⟨fun _ error => ?_, fun status => ?_, ?_⟩
  · exact False.elim
  · exact wp_finish reads _ fun _ _ => rfl
  · simp only [wp_elapsed]
    intro late
    split
    · rw [Program.wp_bind]
      apply wp_killReap reads
      intro reaped
      split
      · exact fun _ => rfl
      · exact fun _ => rfl
    · exact False.elim

/-! ### All of them -/

/-- In every run where no descendant holds a pipe with a reader when the end of the child is
    reported, where a wait fails only once the child has ended and, for the last of them, no poll
    fails, no loop blocks at a join or returns before the child was waited for. -/
theorem timely (lossy : Bytes → Text) (readers : PairProcess.Readers) (command : AdbCommand) :
    Timely ⟨true, fun _ => true⟩ (fun _ => True) (collectChild lossy) ∧
      Timely ⟨true, readers.has⟩ Conclusive (PairProcess.poll lossy readers) ∧
      Timely ⟨true, readers.has⟩ (fun _ => True) (PairProcess.killReap readers) ∧
      Timely ⟨true, readers.has⟩ (fun _ => True) (PairProcess.drop readers) ∧
      Timely ⟨true, fun _ => true⟩ (fun _ => True) (SystemRunner.run lossy command) ∧
      Timely ⟨false, fun _ => true⟩ (fun _ => True) runCaptureStdout :=
  ⟨timely_of_wp fun _ => wp_collectChild (fun _ => rfl) fun _ _ => rfl,
    timely_of_wp fun _ => wp_poll rfl lossy,
    timely_of_wp fun _ => wp_killReap rfl fun _ _ => rfl,
    timely_of_wp fun _ => wp_drop rfl fun _ => rfl,
    timely_of_wp fun _ => wp_run (fun _ => rfl) fun _ _ => rfl,
    timely_of_wp fun _ => wp_runCaptureStdout rfl rfl fun _ _ => rfl⟩

/-- A child with its pipes, alone. -/
def spawned (π : Type) : Processes π :=
  ⟨.running, fun _ => true, fun _ => 0, fun ended => absurd rfl ended⟩

/-- The run of a command that exits at once. -/
def exitingRun : List (Reaping.Input Pipe IoError ExitStatus (Joined Captured)) :=
  [.happens .exits, .tryWait (.ok (some ⟨some 0⟩)), .join (some (.ok ⟨[], false⟩)),
    .join (some (.ok ⟨[], false⟩))]

theorem timely_exiting :
    Machine.Throughout (step (collectChild fun _ => [])) (Prompt fun _ => True)
      (start (spawned Pipe) (collectChild fun _ => [])) exitingRun := by
  have meets : Machine.Meets (step (collectChild fun _ => [])) (Released ⟨true, fun _ => true⟩)
      (start (spawned Pipe) (collectChild fun _ => [])) exitingRun := by
    refine ⟨trivial, ?_⟩
    rintro _ ⟨⟩
    refine ⟨fun _ _ => rfl, ?_⟩
    rintro _ ⟨⟩
    refine ⟨trivial, ?_⟩
    rintro _ ⟨⟩
    exact ⟨trivial, fun _ _ => trivial⟩
  exact (timely (fun _ => []) ⟨true, true⟩ .version).1 (spawned Pipe) exitingRun meets

/-- The run of a command that leaves a descendant behind, with its standard output. -/
def outlivedRun : List (Reaping.Input Pipe IoError ExitStatus (Joined Captured)) :=
  [.happens (.inherits .stdout), .happens .exits, .tryWait (.ok (some ⟨some 0⟩)),
    .join (some (.ok ⟨[], false⟩))]

theorem timely_outlived :
    ¬ Machine.Throughout (step (collectChild fun _ => [])) (Prompt fun _ => True)
        (start (spawned Pipe) (collectChild fun _ => [])) outlivedRun ∧
      ¬ Machine.Throughout (step runCaptureStdout) (Prompt fun _ => True)
        (start (spawned Unit) runCaptureStdout) [.tryWait (.error ⟨.other, []⟩)] := by
  refine ⟨fun prompt => ?_, fun prompt => ?_⟩
  · have blocked := (prompt outlivedRun _ (List.prefix_refl _) rfl).free
    cases blocked
  · have waited := (prompt _ _ (List.prefix_refl _) rfl).waited _ rfl trivial
    cases waited

/-- Each loop that polls blocks once a descendant outlives the report with the standard output. -/
theorem outlived_blocks (lossy : Bytes → Text) (command : AdbCommand) :
    Blocks .stdout (collectChild lossy) ∧
      Blocks .stdout (PairProcess.poll lossy ⟨true, true⟩) ∧
      Blocks .stdout (PairProcess.drop ⟨true, true⟩) ∧
      Blocks .stdout (SystemRunner.run lossy command) ∧
      Blocks () runCaptureStdout :=
  ⟨blocks_of_join rfl fun _ => rfl, blocks_of_join rfl fun _ => rfl,
    blocks_of_join rfl fun _ => rfl, blocks_of_join rfl fun _ => rfl,
    blocks_of_join rfl fun _ => rfl⟩

end QuadControl.Process
