import QuadControl.Ios.MjpegPump

/-! # How the pump ends

The pump fails at the first thing that is wrong with the stream, and at nothing else. At
the end of the stream nothing is buffered any more: what it still publishes is the frame
it was gathering, if the functions that read take that for a whole one.
-/

namespace QuadControl.Ios.Mjpeg

open Lib Lib.Utf8
open Lib.Text (dashes)

namespace Pump

/-- The line that an answer completes. -/
def completes (pump : Pump) : PumpInput → Option Bytes
  | .go => (splitLine pump.buffered).map fun parts => pump.line ++ parts.1
  | .read (.ok []) => if pump.line = [] then none else some pump.line
  | .read (.ok (_ :: _)) | .read (.error _) | .requested _ | .looked _ => none

/-- What can be wrong with a line, where it is read. -/
inductive BadLine (stage : PumpStage) (bytes : Bytes) : Prop
  /-- It is not text, which the reader reports as an error of the stream. -/
  | text (invalid : decode? bytes = none) : BadLine stage bytes
  /-- It closes a response head that has no boundary. -/
  | head (line contentType) (within : stage = .head contentType)
      (valid : decode? bytes = some line) (blank : Text.trim line = [])
      (malformed : contentType.bind boundaryParameter = none) : BadLine stage bytes
  /-- It closes the header of a part that announces a frame beyond the limit. -/
  | header (line boundary value length) (within : stage = .header boundary value)
      (valid : decode? bytes = some line) (blank : Text.trim line = [])
      (parsed : value.bind Text.parseUsize = some length) (large : maxFrameBytes < length) :
      BadLine stage bytes

/-- What can be wrong with the stream. -/
inductive Defect (pump : Pump) : PumpInput → Prop
  /-- It does not take the request. -/
  | request (reason) : Defect pump (.requested (.error reason))
  /-- It breaks off. -/
  | read (error) : Defect pump (.read (.error error))
  /-- The response head is cut short. -/
  | headCut (contentType) (within : pump.stage = .head contentType) (nothing : pump.line = []) :
      Defect pump (.read (.ok []))
  | line (input bytes) (lines : pump.stage.readsLines = true)
      (completed : pump.completes input = some bytes) (bad : BadLine pump.stage bytes) :
      Defect pump input
  /-- A frame has reached the limit and goes on. -/
  | scanned (boundary frame) (within : pump.stage = .scanning boundary frame)
      (large : maxFrameBytes ≤ frame.length) : Defect pump .go

/-- The other ends: the pump is stopped, or the stream ends behind its head with nothing
    that counts as a line or a frame. -/
inductive Finished (pump : Pump) : PumpInput → Prop
  | stopped : Finished pump (.looked true)
  | streamEnded (past : ∀ contentType, pump.stage ≠ .head contentType)
      (noLine : pump.line = [])
      (noFrame : ∀ boundary frame, pump.stage = .scanning boundary frame → frame = []) :
      Finished pump (.read (.ok []))

def Running (pump : Pump) : Prop := pump.stage ≠ .ended ∧ pump.outcome.failure = none

def Failed (pump : Pump) : Prop := pump.stage = .ended ∧ pump.outcome.failure ≠ none

def Closed (pump : Pump) : Prop := pump.stage = .ended ∧ pump.outcome.failure = none

section

variable {pump next : Pump} {input : PumpInput}

theorem failed_fail (pump : Pump) (reason : String) : (pump.fail reason).Failed :=
  ⟨rfl, by simp [fail]⟩

theorem Running.goTo (running : pump.Running) {stage : PumpStage} (other : stage ≠ .ended) :
    (pump.goTo stage).Running :=
  ⟨other, running.2⟩

theorem Running.close (running : pump.Running) : pump.close.Closed := ⟨rfl, running.2⟩

theorem Running.publish (running : pump.Running) (boundary : Text) (frame : Bytes) :
    (pump.publish boundary frame).Running :=
  ⟨nofun, running.2⟩

/-- A line fails the pump just when it is bad. -/
theorem Running.takeLine (running : pump.Running) (lines : pump.stage.readsLines = true)
    (bytes : Bytes) :
    (pump.takeLine bytes).Running ∧ ¬ BadLine pump.stage bytes ∨
      (pump.takeLine bytes).Failed ∧ BadLine pump.stage bytes := by
  unfold Pump.takeLine decodeLine
  cases decoded : decode? bytes with
  | none => exact .inr ⟨failed_fail _ _, .text decoded⟩
  | some line =>
      dsimp only
      unfold onLine
      cases stage : pump.stage with
      | head contentType =>
          dsimp only
          split
          · rename_i blank
            unfold endHead
            cases contentType with
            | none => exact .inr ⟨failed_fail _ _, .head line none rfl decoded blank rfl⟩
            | some contentType =>
                cases parameter : boundaryParameter contentType with
                | none =>
                    refine .inr ⟨?_, .head line _ rfl decoded blank parameter⟩
                    simp only [parameter]
                    exact failed_fail _ _
                | some boundary =>
                    simp only [parameter]
                    refine .inl ⟨running.goTo nofun, fun bad => ?_⟩
                    cases bad <;> simp_all
          · rename_i more
            refine .inl ⟨running.goTo nofun, fun bad => ?_⟩
            cases bad <;> simp_all
      | delimiter boundary =>
          refine .inl ⟨running.goTo (by split <;> nofun), fun bad => ?_⟩
          cases bad <;> simp_all
      | header boundary value =>
          dsimp only
          split
          · rename_i blank
            unfold endHeader
            cases parsed : value.bind Text.parseUsize with
            | none =>
                refine .inl ⟨running.goTo nofun, fun bad => ?_⟩
                cases bad with
                | header _ _ _ _ within _ _ parsed' =>
                    cases within
                    simp [parsed] at parsed'
                | text | head => simp_all
            | some length =>
                dsimp only
                split
                · rename_i large
                  exact .inr ⟨failed_fail _ _,
                    .header line boundary value length rfl decoded blank parsed large⟩
                · rename_i within
                  refine .inl ⟨running.goTo nofun, fun bad => ?_⟩
                  cases bad with
                  | header _ _ _ _ same _ _ parsed' large =>
                      cases same
                      obtain rfl := Option.some.inj (parsed.symm.trans parsed')
                      exact within large
                  | text | head => simp_all
          · rename_i more
            refine .inl ⟨running.goTo nofun, fun bad => ?_⟩
            cases bad <;> simp_all
      | _ => simp [stage, PumpStage.readsLines] at lines

/-- A buffer that is gathered is wrong just when it completes a bad line. -/
theorem Running.gather (running : pump.Running) (lines : pump.stage.readsLines = true) :
    pump.gather.Running ∧ ¬ pump.Defect .go ∨ pump.gather.Failed ∧ pump.Defect .go := by
  have defect : pump.Defect .go ↔
      ∃ bytes, pump.completes .go = some bytes ∧ BadLine pump.stage bytes := by
    constructor
    · intro defect
      cases defect with
      | line _ bytes _ completed bad => exact ⟨bytes, completed, bad⟩
      | scanned boundary frame within =>
          rw [within] at lines
          cases lines
    · rintro ⟨bytes, completed, bad⟩
      exact .line .go bytes lines completed bad
  rw [defect]
  rcases pump.gather_cases with ⟨line, rest, split, same⟩ | ⟨unsplit, same⟩
  · have completed : pump.completes .go = some (pump.line ++ line) := by
      simp [completes, split]
    have rested : ({ pump with buffered := rest } : Pump).Running := running
    rw [same, completed]
    simpa using rested.takeLine lines (pump.line ++ line)
  · have completed : pump.completes .go = none := by simp [completes, unsplit]
    rw [same, completed]
    exact .inl ⟨running, by simp⟩

/-- The three ways a step can go, by what it meets. -/
inductive Settles (pump : Pump) (input : PumpInput) (next : Pump) : Prop
  | goesOn (running : next.Running) (fine : ¬ pump.Defect input) (more : ¬ pump.Finished input)
  | fails (failed : next.Failed) (wrong : pump.Defect input)
  | closes (closed : next.Closed) (fine : ¬ pump.Defect input) (finished : pump.Finished input)

theorem settles_of_line (last : ¬ pump.Finished input)
    (settled : next.Running ∧ ¬ pump.Defect input ∨ next.Failed ∧ pump.Defect input) :
    Settles pump input next := by
  rcases settled with ⟨running, fine⟩ | ⟨failed, wrong⟩
  · exact .goesOn running fine last
  · exact .fails failed wrong

/-- Behind the lines nothing is wrong with the end of the stream. -/
theorem fine_of_idle (other : pump.stage.readsLines = false) : ¬ pump.Defect (.read (.ok [])) := by
  intro defect
  cases defect with
  | headCut contentType within => simp [within, PumpStage.readsLines] at other
  | line _ _ lines => simp [lines] at other

/-- The end of the stream where a line begins. -/
theorem Running.noLine (running : pump.Running) (lines : pump.stage.readsLines = true)
    (nothing : pump.line = []) : Settles pump (.read (.ok [])) pump.noLine := by
  have incomplete : pump.completes (.read (.ok [])) = none := by simp [completes, nothing]
  unfold Pump.noLine
  cases stage : pump.stage with
  | head contentType => exact .fails (failed_fail _ _) (.headCut contentType stage nothing)
  | delimiter | header =>
      have past : ∀ contentType, pump.stage ≠ .head contentType := by simp [stage]
      refine .closes running.close (fun defect => ?_) (.streamEnded past nothing (by simp [stage]))
      cases defect with
      | headCut contentType within => exact past contentType within
      | line _ _ _ completed => simp [incomplete] at completed
  | _ => simp [stage, PumpStage.readsLines] at lines

/-- The end of the stream within a line. -/
theorem Running.lastLine (running : pump.Running) (lines : pump.stage.readsLines = true)
    (some : pump.line ≠ []) : Settles pump (.read (.ok [])) (pump.takeLine pump.line) := by
  have completed : pump.completes (.read (.ok [])) = .some pump.line := by
    simp [completes, some]
  have last : ¬ pump.Finished (.read (.ok [])) := by
    intro finished
    cases finished with
    | streamEnded _ noLine => exact some noLine
  have defect : pump.Defect (.read (.ok [])) ↔ BadLine pump.stage pump.line := by
    constructor
    · intro defect
      cases defect with
      | headCut _ _ nothing => exact absurd nothing some
      | line _ bytes _ completed' bad =>
          obtain rfl := Option.some.inj (completed.symm.trans completed')
          exact bad
    · exact fun bad => .line _ pump.line lines completed bad
  refine settles_of_line last ?_
  rw [defect]
  exact running.takeLine lines pump.line

theorem Running.finish (running : pump.Running) (sound : pump.Sound) :
    Settles pump (.read (.ok [])) pump.finish := by
  have finished := pump.finish_cases
  generalize pump.finish = next at finished ⊢
  cases finished with
  | noLine lines nothing => exact running.noLine lines nothing
  | line lines some => exact running.lastLine lines some
  | frame boundary frame stage some =>
      have other : pump.stage.readsLines = false := by simp [stage, PumpStage.readsLines]
      refine .goesOn (running.publish boundary frame) (fine_of_idle other) fun finished => ?_
      cases finished with
      | streamEnded _ _ noFrame => exact some (noFrame boundary frame stage)
  | close other nothing =>
      refine .closes running.close (fine_of_idle other)
        (.streamEnded (fun contentType stage => ?_) (sound.idle other) nothing)
      simp [stage, PumpStage.readsLines] at other

theorem Settles.of_closed {closed : Bool}
    (settles : Settles { pump with closed := closed } input next) : Settles pump input next := by
  have defect : ({ pump with closed := closed } : Pump).Defect input ↔ pump.Defect input := by
    constructor <;> intro defect <;> cases defect with
    | request reason => exact .request reason
    | read error => exact .read error
    | headCut contentType within nothing => exact .headCut contentType within nothing
    | line _ bytes lines completed bad => exact .line input bytes lines completed bad
    | scanned boundary frame within large => exact .scanned boundary frame within large
  have finished : ({ pump with closed := closed } : Pump).Finished input ↔ pump.Finished input := by
    constructor <;> intro finished <;> cases finished with
    | stopped => exact .stopped
    | streamEnded past noLine noFrame => exact .streamEnded past noLine noFrame
  cases settles with
  | goesOn running fine more => exact .goesOn running (defect.not.mp fine) (finished.not.mp more)
  | fails failed wrong => exact .fails failed (defect.mp wrong)
  | closes closed fine ended => exact .closes closed (defect.not.mp fine) (finished.mp ended)

theorem Sound.isRunning (sound : pump.Sound) (other : pump.stage ≠ .ended) : pump.Running :=
  ⟨other, sound.running other⟩

theorem running_of_wants (wants : pump.wants = true) : pump.stage ≠ .ended := by
  intro ended
  simp [Pump.wants, ended] at wants

theorem Sound.settles (sound : pump.Sound) (step : Step pump input next) :
    Settles pump input next := by
  cases step with
  | refuse reason => exact .fails (failed_fail pump reason) (.request reason)
  | accept stage =>
      have running := sound.isRunning (by simp [stage])
      refine .goesOn (running.goTo (by rintro ⟨⟩)) (fun defect => ?_) (by rintro ⟨⟩)
      cases defect with
      | line _ _ _ completed => cases completed
  | stop boundary stage =>
      have running := sound.isRunning (by simp [stage])
      refine .closes running.close (fun defect => ?_) .stopped
      cases defect with
      | line _ _ _ completed => cases completed
  | proceed boundary stage =>
      have running := sound.isRunning (by simp [stage])
      refine .goesOn (running.goTo (by rintro ⟨⟩)) (fun defect => ?_) (by rintro ⟨⟩)
      cases defect with
      | line _ _ _ completed => cases completed
  | fill bytes wants empty more isOpen =>
      have running := sound.isRunning (running_of_wants wants)
      cases bytes with
      | nil => exact absurd rfl more
      | cons b bytes =>
          refine .goesOn running (fun defect => ?_) (by rintro ⟨⟩)
          cases defect with
          | line _ _ _ completed => cases completed
  | lose error wants empty => exact .fails (failed_fail pump _) (.read error)
  | finish wants empty =>
      have closed : { pump with closed := true }.Sound := { sound with closed := fun _ => empty }
      have running := closed.isRunning (running_of_wants wants)
      exact (running.finish closed).of_closed
  | gather lines full =>
      exact settles_of_line (by rintro ⟨⟩) ((sound.isRunning (running_of_lines lines)).gather lines)
  | publish boundary length frame stage whole =>
      have running := sound.isRunning (by simp [stage])
      refine .goesOn (running.publish boundary frame) (fun defect => ?_) (by rintro ⟨⟩)
      cases defect with
      | line _ _ lines => simp [stage, PumpStage.readsLines] at lines
      | scanned _ _ within => simp [stage] at within
  | copy boundary length frame stage part full =>
      have running := sound.isRunning (by simp [stage])
      refine .goesOn ⟨(by rintro ⟨⟩), running.2⟩ (fun defect => ?_) (by rintro ⟨⟩)
      cases defect with
      | line _ _ lines => simp [stage, PumpStage.readsLines] at lines
      | scanned _ _ within => simp [stage] at within
  | scan boundary frame b rest stage full =>
      have running := sound.isRunning (by simp [stage])
      have rested : ({ pump with buffered := rest } : Pump).Running := running
      have defect : pump.Defect .go ↔ maxFrameBytes ≤ frame.length := by
        constructor
        · intro defect
          cases defect with
          | line _ _ lines => simp [stage, PumpStage.readsLines] at lines
          | scanned _ _ within large =>
              rw [stage] at within
              cases within
              exact large
        · exact .scanned boundary frame stage
      refine settles_of_line (by rintro ⟨⟩) ?_
      rw [defect]
      unfold Pump.scan
      simp only [List.length_append, List.length_singleton]
      split
      · exact .inr ⟨failed_fail _ _, by omega⟩
      · split
        · exact .inl ⟨rested.publish _ _, by omega⟩
        · exact .inl ⟨⟨(by rintro ⟨⟩), running.2⟩, by omega⟩

/-! ### Behind the end of the stream -/

/-- The frame that is still published when the stream ends here: what a scan has gathered,
    or the empty frame of a header that the end of the stream closes. -/
def due (pump : Pump) : Option Bytes :=
  match pump.stage with
  | .header _ value =>
      if pump.line ≠ [] ∧ (decode? pump.line).map Text.trim = some [] ∧
        value.bind Text.parseUsize = some 0 then some [] else none
  | .body _ length frame => if length ≤ frame.length then some frame else none
  | .scanning _ frame => if frame = [] then none else some frame
  | .requesting | .head _ | .checking _ | .delimiter _ | .ended => none

/-- All that is published when the stream ends here. -/
def allPublished (pump : Pump) : List Bytes := pump.outcome.published ++ pump.due.toList

@[simp] theorem allPublished_fail (reason : String) :
    (pump.fail reason).allPublished = pump.outcome.published := by
  simp [allPublished, due, fail, goTo]

@[simp] theorem allPublished_close : pump.close.allPublished = pump.outcome.published := by
  simp [allPublished, due, close, goTo]

@[simp] theorem allPublished_publish (boundary : Text) (frame : Bytes) :
    (pump.publish boundary frame).allPublished = pump.outcome.published ++ [frame] := by
  simp [allPublished, due, publish, goTo]

@[simp] theorem allPublished_goTo (stage : PumpStage) :
    (pump.goTo stage).allPublished = pump.outcome.published ++
      match stage with
      | .body _ length frame => if length ≤ frame.length then [frame] else []
      | .scanning _ frame => if frame = [] then [] else [frame]
      | _ => [] := by
  cases stage with
  | body | scanning =>
      simp only [allPublished, due, goTo]
      split <;> rfl
  | _ => simp [allPublished, due, goTo]

theorem allPublished_of_due (pump : Pump) (nothing : pump.due = none) :
    pump.allPublished = pump.outcome.published := by
  simp [allPublished, nothing]

/-- The last line of the stream. -/
theorem allPublished_takeLine (lines : pump.stage.readsLines = true) (some : pump.line ≠ []) :
    (pump.takeLine pump.line).allPublished = pump.allPublished := by
  unfold takeLine decodeLine
  cases decoded : decode? pump.line with
  | none =>
      have nothing : pump.due = none := by
        unfold due
        split <;> simp_all [PumpStage.readsLines]
      rw [allPublished_of_due pump nothing]
      exact allPublished_fail _
  | some line =>
      dsimp only
      unfold onLine
      cases stage : pump.stage with
      | head contentType =>
          rw [allPublished_of_due pump (by simp [due, stage])]
          dsimp only
          split
          · unfold endHead
            split
            · exact allPublished_fail _
            · split
              · exact allPublished_fail _
              · simp
          · simp
      | delimiter boundary =>
          rw [allPublished_of_due pump (by simp [due, stage])]
          dsimp only
          split <;> simp
      | header boundary value =>
          dsimp only
          split
          · rename_i blank
            unfold endHeader
            cases parsed : value.bind Text.parseUsize with
            | none =>
                rw [allPublished_of_due pump (by simp [due, stage, decoded, parsed])]
                simp
            | some length =>
                have due : pump.due = if length = 0 then .some [] else none := by
                  simp [due, stage, decoded, blank, parsed, some]
                dsimp only
                split
                · rename_i large
                  have positive : length ≠ 0 := by omega
                  rw [allPublished_fail, allPublished, due, if_neg positive]
                  simp
                · rw [allPublished_goTo, allPublished, due]
                  by_cases empty : length = 0 <;> simp [empty]
          · rename_i more
            rw [allPublished_of_due pump (by simp [due, stage, decoded, more])]
            simp
      | requesting | checking | body | scanning | ended => rfl

theorem allPublished_finish (wants : pump.wants = true) :
    pump.finish.allPublished = pump.allPublished := by
  have finished := pump.finish_cases
  generalize pump.finish = next at finished ⊢
  cases finished with
  | noLine lines nothing =>
      have quiet : pump.due = none := by
        unfold due
        split <;> simp_all [PumpStage.readsLines]
      rw [allPublished_of_due pump quiet]
      rcases pump.noLine_cases with ⟨reason, same⟩ | same
      · rw [same, allPublished_fail]
      · rw [same, allPublished_close]
  | line lines some => exact allPublished_takeLine lines some
  | frame boundary frame stage some =>
      rw [allPublished_publish, allPublished]
      simp [due, stage, some]
  | close other nothing =>
      have quiet : pump.due = none := by
        unfold due
        split <;> simp_all [PumpStage.readsLines, Pump.wants]
      rw [allPublished_of_due pump quiet]
      exact allPublished_close

/-- The end of the stream leaves the reader as it is. -/
theorem finish_reader (pump : Pump) :
    pump.finish.buffered = pump.buffered ∧ pump.finish.closed = pump.closed := by
  have finished := pump.finish_cases
  generalize pump.finish = next at finished ⊢
  cases finished with
  | noLine =>
      rcases pump.noLine_cases with ⟨reason, same⟩ | same
      · rw [same]
        exact ⟨rfl, rfl⟩
      · rw [same]
        exact ⟨rfl, rfl⟩
  | line lines =>
      rcases takeLine_cases lines pump.line with ⟨reason, same⟩ | ⟨stage, same, -⟩
      · rw [same]
        exact ⟨rfl, rfl⟩
      · rw [same]
        exact ⟨rfl, rfl⟩
  | frame | close => exact ⟨rfl, rfl⟩

/-- A step with the stream at its end adds nothing to what is due. -/
theorem allPublished_step (empty : pump.buffered = [])
    (last : pump.closed = true ∨ input = .read (.ok [])) (step : Step pump input next) :
    next.allPublished = pump.allPublished ∧ next.buffered = [] ∧ next.closed = true := by
  have stays (other : input ≠ .read (.ok [])) : pump.closed = true := last.resolve_right other
  cases step with
  | refuse reason stage =>
      rw [allPublished_of_due pump (by simp [due, stage])]
      exact ⟨allPublished_fail reason, empty, stays nofun⟩
  | accept stage =>
      rw [allPublished_of_due pump (by simp [due, stage])]
      exact ⟨by simp, empty, stays nofun⟩
  | stop boundary stage =>
      rw [allPublished_of_due pump (by simp [due, stage])]
      exact ⟨allPublished_close, empty, stays nofun⟩
  | proceed boundary stage =>
      rw [allPublished_of_due pump (by simp [due, stage])]
      exact ⟨by simp, empty, stays nofun⟩
  | fill bytes wants _ more isOpen =>
      rcases last with closed | same
      · simp [isOpen] at closed
      · exact absurd (by simpa using same) more
  | lose error wants _ isOpen =>
      rcases last with closed | same
      · simp [isOpen] at closed
      · simp at same
  | finish wants _ =>
      have ended : ({ pump with closed := true } : Pump).wants = true := wants
      obtain ⟨kept, closed⟩ := finish_reader { pump with closed := true }
      have due := allPublished_finish ended
      exact ⟨due, kept.trans empty, closed⟩
  | gather lines full => exact absurd empty full
  | publish boundary length frame stage whole =>
      refine ⟨?_, empty, stays nofun⟩
      rw [allPublished_publish, allPublished]
      simp [due, stage, whole]
  | copy boundary length frame stage part full => exact absurd empty full
  | scan boundary frame b rest stage full => simp [full] at empty

/-! ### The end is reached -/

/-- How far a stage is from the next line or frame. -/
def rank : PumpStage → Nat
  | .ended => 0
  | .head _ | .delimiter _ | .header _ _ | .scanning _ _ => 1
  | .requesting | .checking _ => 2
  | .body _ _ _ => 3

/-- What is left to do behind the end of the stream. -/
def leftover (pump : Pump) : Nat :=
  let gathered := match pump.stage with
    | .scanning _ frame => frame.length
    | _ => 0
  4 * (pump.line.length + gathered) + rank pump.stage

theorem rank_le (stage : PumpStage) : rank stage ≤ 3 := by
  cases stage <;> simp [rank]

theorem leftover_goTo {stage : PumpStage} (fresh : stage.Fresh) :
    (pump.goTo stage).leftover = rank stage := by
  cases stage with
  | scanning boundary frame =>
      obtain rfl : frame = [] := fresh
      simp [leftover, goTo]
  | _ => simp [leftover, goTo]

@[simp] theorem leftover_fail (reason : String) : (pump.fail reason).leftover = 0 := rfl

@[simp] theorem leftover_close : pump.close.leftover = 0 := rfl

@[simp] theorem leftover_publish (boundary : Text) (frame : Bytes) :
    (pump.publish boundary frame).leftover = 2 := rfl

theorem rank_le_leftover (pump : Pump) : rank pump.stage ≤ pump.leftover := Nat.le_add_left _ _

theorem leftover_finish (wants : pump.wants = true) : pump.finish.leftover < pump.leftover := by
  have least := pump.rank_le_leftover
  have positive : 0 < rank pump.stage := by
    cases stage : pump.stage with
    | ended => simp [Pump.wants, stage] at wants
    | _ => simp [rank]
  have finished := pump.finish_cases
  generalize pump.finish = next at finished ⊢
  cases finished with
  | noLine =>
      rcases pump.noLine_cases with ⟨reason, same⟩ | same
      · rw [same, leftover_fail]
        omega
      · rw [same, leftover_close]
        omega
  | line lines some =>
      have gathered := List.length_pos_iff.mpr some
      have long : 4 < pump.leftover := by
        simp only [leftover]
        omega
      rcases takeLine_cases lines pump.line with ⟨reason, same⟩ | ⟨next, same, fresh⟩
      · rw [same, leftover_fail]
        omega
      · have := rank_le next
        rw [same, leftover_goTo fresh]
        omega
  | frame boundary frame stage some =>
      have gathered := List.length_pos_iff.mpr some
      have long : 4 < pump.leftover := by
        simp only [leftover, stage, rank]
        omega
      rw [leftover_publish]
      omega
  | close =>
      rw [leftover_close]
      omega

/-- And what is left to do with what is buffered. -/
def work (pump : Pump) : Nat := 8 * pump.buffered.length + pump.leftover

theorem leftover_takeLine (lines : pump.stage.readsLines = true) (bytes : Bytes) :
    (pump.takeLine bytes).leftover ≤ 3 ∧ (pump.takeLine bytes).buffered = pump.buffered := by
  rcases takeLine_cases lines bytes with ⟨reason, same⟩ | ⟨stage, same, fresh⟩
  · rw [same]
    exact ⟨Nat.zero_le _, rfl⟩
  · rw [same]
    exact ⟨(leftover_goTo fresh).trans_le (rank_le stage), rfl⟩

theorem work_gather (lines : pump.stage.readsLines = true) (full : pump.buffered ≠ []) :
    pump.gather.work < pump.work := by
  have some := List.length_pos_iff.mpr full
  rcases pump.gather_cases with ⟨line, rest, split, same⟩ | ⟨-, same⟩
  · obtain ⟨body, -, shape, -⟩ := splitLine_eq_some split
    have shorter : rest.length + 1 ≤ pump.buffered.length := by simp [shape]
    have taken := @leftover_takeLine { pump with buffered := rest } lines (pump.line ++ line)
    simp only [work, same, taken.2]
    omega
  · rw [same]
    simp only [work, leftover, List.length_append, List.length_nil]
    omega

theorem work_scan {boundary : Text} {frame rest : Bytes} {b : UInt8}
    (stage : pump.stage = .scanning boundary frame) (full : pump.buffered = b :: rest) :
    ({ pump with buffered := rest }.scan boundary (frame ++ [b])).work < pump.work := by
  have before : pump.work = 8 * (rest.length + 1) + (4 * (pump.line.length + frame.length) + 1) := by
    simp [work, leftover, stage, full, rank]
  unfold Pump.scan
  dsimp only
  rw [before]
  split
  · simp only [work, leftover, fail, goTo, rank, List.length_nil]
    omega
  · split
    · simp only [work, leftover, publish, goTo, rank, List.length_nil]
      omega
    · simp only [work, leftover, rank, List.length_append, List.length_singleton]
      omega

/-- But for those that bring more of the stream, every step is one towards the end of the pump. -/
theorem Step.work_step (step : Step pump input next)
    (noMore : ∀ bytes, input = .read (.ok bytes) → bytes = []) : next.work < pump.work := by
  have least := pump.rank_le_leftover
  have less : ∀ {after : Pump}, after.buffered.length ≤ pump.buffered.length →
      after.leftover < pump.leftover → after.work < pump.work := by
    intro after buffered leftover
    unfold work
    omega
  cases step with
  | refuse reason stage | stop boundary stage =>
      rw [stage] at least
      exact less le_rfl (Nat.lt_of_lt_of_le (Nat.succ_pos 1) least)
  | accept stage =>
      have fresh : (PumpStage.head none).Fresh := trivial
      rw [stage] at least
      exact less le_rfl ((leftover_goTo fresh).trans_lt (Nat.lt_of_lt_of_le (Nat.lt_succ_self 1) least))
  | proceed boundary stage =>
      have fresh : (PumpStage.delimiter boundary).Fresh := trivial
      rw [stage] at least
      exact less le_rfl ((leftover_goTo fresh).trans_lt (Nat.lt_of_lt_of_le (Nat.lt_succ_self 1) least))
  | fill bytes wants _ more isOpen => exact absurd (noMore bytes rfl) more
  | lose error wants _ isOpen =>
      refine less le_rfl ?_
      have ended : pump.stage ≠ .ended := running_of_wants wants
      cases stage : pump.stage with
      | ended => exact absurd stage ended
      | _ =>
          rw [stage] at least
          exact Nat.lt_of_lt_of_le (Nat.succ_pos _) least
  | finish wants _ =>
      have ended : ({ pump with closed := true } : Pump).wants = true := wants
      exact less (le_of_eq (congrArg List.length (finish_reader _).1)) (leftover_finish ended)
  | gather lines full => exact work_gather lines full
  | publish boundary length frame stage whole =>
      rw [stage] at least
      exact less le_rfl ((leftover_publish boundary frame).trans_lt
        (Nat.lt_of_lt_of_le (Nat.lt_succ_self 2) least))
  | copy boundary length frame stage part full =>
      have some := List.length_pos_iff.mpr full
      simp only [work, leftover, stage, rank, List.length_drop]
      omega
  | scan boundary frame b rest stage full => exact work_scan stage full

end

/-- The pump goes on, whatever the answer is to what it asks for: its request, the stop
    flag, a read. -/
def Answered (pump : Pump) : Prop :=
  (∀ outcome, (pump.step (.requested outcome)).isSome = true) ∨
    (∀ stop, (pump.step (.looked stop)).isSome = true) ∨
    (pump.step (.read (.ok []))).isSome = true ∧
      (pump.closed = false → ∀ answer, (pump.step (.read answer)).isSome = true) ∨
    (pump.step .go).isSome = true

theorem receive_isSome (pump : Pump) :
    (pump.receive (.ok [])).isSome = true ∧
      (pump.closed = false → ∀ answer, (pump.receive answer).isSome = true) := by
  refine ⟨rfl, fun isOpen answer => ?_⟩
  unfold receive
  split
  · rfl
  · simp [isOpen]
  · simp [isOpen]

theorem answered_of_wants {pump : Pump} (wants : pump.wants = true) (empty : pump.buffered = []) :
    pump.Answered := by
  have reads : ∀ answer, pump.step (.read answer) = pump.receive answer := by
    intro answer
    unfold step
    split <;> simp_all [Pump.wants]
  obtain ⟨last, every⟩ := pump.receive_isSome
  refine .inr (.inr (.inl ⟨?_, fun isOpen answer => ?_⟩))
  · rw [reads]
    exact last
  · rw [reads]
    exact every isOpen answer

theorem answered {pump : Pump} (running : pump.stage ≠ .ended) : pump.Answered := by
  cases stage : pump.stage with
  | ended => exact absurd stage running
  | requesting =>
      refine .inl fun outcome => ?_
      cases outcome <;> simp [step, stage]
  | checking boundary => exact .inr (.inl fun stop => by simp [step, stage])
  | head | delimiter | header =>
      by_cases empty : pump.buffered = []
      · exact answered_of_wants (by simp [wants, stage]) empty
      · exact .inr (.inr (.inr (by simp [step, stage, empty])))
  | body boundary length frame =>
      by_cases whole : length ≤ frame.length
      · exact .inr (.inr (.inr (by simp [step, stage, whole])))
      · by_cases empty : pump.buffered = []
        · exact answered_of_wants (by simp [wants, stage]; omega) empty
        · exact .inr (.inr (.inr (by simp [step, stage, whole, empty])))
  | scanning boundary frame =>
      cases full : pump.buffered with
      | nil => exact answered_of_wants (by simp [wants, stage]) full
      | cons b rest => exact .inr (.inr (.inr (by simp [step, stage, full])))

theorem step_of_ended {pump : Pump} (ended : pump.stage = .ended) (input : PumpInput) :
    pump.step input = none := by
  unfold step
  split <;> simp_all [wants]

/-- What is published in all when the stream ends is settled there. -/
theorem allPublished_of_run {pump later : Pump} {inputs : List PumpInput}
    (empty : pump.buffered = []) (closed : pump.closed = true)
    (ran : Machine.run Pump.step pump inputs = some later) :
    later.allPublished = pump.allPublished := by
  let kept (next : Pump) : Prop :=
    next.allPublished = pump.allPublished ∧ next.buffered = [] ∧ next.closed = true
  have preserved : ∀ before input after, kept before → Pump.step before input = some after →
      kept after := by
    rintro before input after ⟨same, empty, closed⟩ stepped
    obtain ⟨same', empty', closed'⟩ :=
      allPublished_step empty (.inl closed) (.of_step stepped)
    exact ⟨same'.trans same, empty', closed'⟩
  exact (Machine.run_preserves preserved (⟨rfl, empty, closed⟩ : kept pump) ran).1

theorem published_takeLine (pump : Pump) (lines : pump.stage.readsLines = true) (bytes : Bytes) :
    (pump.takeLine bytes).outcome.published = pump.outcome.published := by
  rcases takeLine_cases lines bytes with ⟨reason, same⟩ | ⟨stage, same, -⟩
  · rw [same]
    rfl
  · rw [same]
    rfl

theorem finish_grows (pump : Pump) :
    pump.outcome.published <+: pump.finish.outcome.published := by
  have finished := pump.finish_cases
  generalize pump.finish = next at finished ⊢
  cases finished with
  | noLine =>
      rcases pump.noLine_cases with ⟨reason, same⟩ | same
      · rw [same]
        exact List.prefix_rfl
      · rw [same]
        exact List.prefix_rfl
  | line lines => rw [published_takeLine pump lines]
  | frame => exact List.prefix_append _ _
  | close => exact List.prefix_rfl

/-- What is published stays so. -/
theorem Step.grows {pump next : Pump} {input : PumpInput} (step : Step pump input next) :
    pump.outcome.published <+: next.outcome.published := by
  cases step with
  | refuse | accept | stop | proceed | fill | lose | copy => exact List.prefix_rfl
  | publish => exact List.prefix_append _ _
  | finish => exact finish_grows { pump with closed := true }
  | gather lines full =>
      rcases pump.gather_cases with ⟨line, rest, split, same⟩ | ⟨-, same⟩
      · rw [same, published_takeLine { pump with buffered := rest } lines]
      · rw [same]
  | scan =>
      unfold Pump.scan
      dsimp only
      split
      · exact List.prefix_rfl
      · split
        · exact List.prefix_append _ _
        · exact List.prefix_rfl

/-- Behind the end of the stream at most the frame that is due is published. -/
theorem published_of_run {pump later : Pump} {inputs : List PumpInput} {past : List Bytes}
    {due : Option Bytes} (grown : past <+: pump.outcome.published)
    (whole : pump.allPublished = past ++ due.toList) (empty : pump.buffered = [])
    (closed : pump.closed = true) (ran : Machine.run Pump.step pump inputs = some later) :
    later.outcome.published = past ∨
      ∃ frame, due = some frame ∧ later.outcome.published = past ++ [frame] := by
  have same := allPublished_of_run empty closed ran
  let behind (next : Pump) : Prop := past <+: next.outcome.published
  have grows : behind later := Machine.run_preserves
    (fun _ _ _ before stepped => before.trans (Step.of_step stepped).grows) grown ran
  obtain ⟨more, shape⟩ := grows
  rw [whole, allPublished, ← shape, List.append_assoc] at same
  have rest := List.append_cancel_left same
  cases more with
  | nil => exact .inl (by rw [← shape, List.append_nil])
  | cons frame more =>
      cases due with
      | none => cases rest
      | some last =>
          simp only [Option.toList_some, List.cons_append, List.cons.injEq,
            List.append_eq_nil_iff] at rest
          obtain ⟨rfl, rfl, -⟩ := rest
          exact .inr ⟨frame, rfl, shape.symm⟩

theorem Sound.length_add_leftover_le {pump later : Pump} {inputs : List PumpInput}
    (sound : pump.Sound) (closed : pump.closed = true)
    (ran : Machine.run Pump.step pump inputs = some later) :
    inputs.length + later.leftover ≤ pump.leftover := by
  let spent (pump : Pump) : Prop := pump.Sound ∧ pump.closed = true
  have preserved : ∀ before input after, spent before → Pump.step before input = some after →
      spent after := by
    rintro before input after ⟨sound, closed⟩ stepped
    have step := Step.of_step stepped
    exact ⟨sound.step step, (allPublished_step (sound.closed closed) (.inl closed) step).2.2⟩
  have lowers : ∀ before input after, spent before → Pump.step before input = some after →
      after.work < before.work := by
    rintro before input after ⟨sound, closed⟩ stepped
    have step := Step.of_step stepped
    refine step.work_step fun bytes more => ?_
    cases step with
    | fill _ _ _ _ isOpen => cases isOpen.symm.trans closed
    | finish => exact (PumpInput.read.inj more |> Except.ok.inj).symm
    | _ => cases more
  have bound := Machine.length_add_measure_le preserved lowers ⟨sound, closed⟩ ran
  simp only [work, sound.closed closed, List.length_nil] at bound
  omega

/-- Whatever the upstream sends and wherever its reads fall: no frame is beyond the limit,
    a step fails just when something is wrong with the stream, and ends the pump with it or
    when it is stopped or the stream is at its end; then the pump does nothing more, and it
    comes there once the stream has ended, behind which it publishes the frame that is due
    there at most. -/
theorem ends_with_stream {inputs : List PumpInput} {pump : Pump}
    (ran : Machine.run Pump.step start inputs = some pump) :
    (∀ frame ∈ pump.outcome.published, frame.length ≤ maxFrameBytes) ∧
    (pump.stage = .ended → pump.outcome.stopping = true ∧ ∀ input, pump.step input = none) ∧
    (∀ input next, pump.step input = some next →
      (next.stage = .ended ↔ pump.Defect input ∨ pump.Finished input) ∧
      (next.outcome.failure ≠ none ↔ pump.Defect input)) ∧
    (∀ next later rest, pump.step (.read (.ok [])) = some next →
      Machine.run Pump.step next rest = some later →
      later.outcome.published = pump.outcome.published ∨
        ∃ frame, pump.due = some frame ∧
          later.outcome.published = pump.outcome.published ++ [frame]) ∧
    (pump.stage ≠ .ended → pump.Answered) ∧
    (pump.closed = true → ∀ rest later, Machine.run Pump.step pump rest = some later →
      rest.length ≤ pump.leftover) := by
  have sound := sound_of_run ran
  refine ⟨sound.published, fun ended => ⟨sound.ended ended, step_of_ended ended⟩, ?_, ?_,
    answered, ?_⟩
  · intro input next stepped
    cases sound.settles (.of_step stepped) with
    | goesOn running fine more => simp [running.1, running.2, fine, more]
    | fails failed wrong => simp [failed.1, failed.2, wrong]
    | closes closed fine finished => simp [closed.1, closed.2, fine, finished]
  · intro next later rest stepped ran'
    have step := Step.of_step stepped
    have empty : pump.buffered = [] := by
      cases step with
      | fill _ _ empty => exact empty
      | finish _ empty => exact empty
    obtain ⟨same, empty', closed⟩ := allPublished_step empty (.inr rfl) step
    exact published_of_run step.grows same empty' closed ran'
  · intro closed rest later ran'
    have bound := sound.length_add_leftover_le closed ran'
    omega

/-- A part without its length, of which a byte has been scanned. -/
def scannedByte : List PumpInput :=
  [.requested (.ok ()), .read (.ok (encode "content-type: x; boun".toList)), .go,
    .read (.ok (encode "dary=b\n\n--b\n\nA".toList)), .go, .go, .looked false, .go, .go, .go]

def afterByte : Pump := ⟨.scanning ['b'] [65], [], [], false, ⟨[], none, false⟩⟩

theorem run_scannedByte : Machine.run Pump.step start scannedByte = some afterByte := by
  decide

theorem ends_with_stream_scannedByte :
    Machine.run Pump.step start scannedByte = some afterByte ∧ afterByte.due = some [65] ∧
    (∀ next later rest, afterByte.step (.read (.ok [])) = some next →
      Machine.run Pump.step next rest = some later →
      later.outcome.published = [] ∨
        ∃ frame, afterByte.due = some frame ∧ later.outcome.published = [frame]) := by
  obtain ⟨-, -, -, behind, -, -⟩ := ends_with_stream run_scannedByte
  exact ⟨run_scannedByte, rfl, behind⟩

/-- The end of the stream publishes the byte, and a request that is not taken is a failure
    of no header, frame or read. -/
theorem publishes_at_end :
    (Machine.run Pump.step start scannedByte).map (fun pump => pump.outcome.published) = some [] ∧
    (Machine.run Pump.step start (scannedByte ++ [PumpInput.read (.ok [])])).map
      (fun pump => pump.outcome.published) = some [[65]] ∧
    (Machine.run Pump.step start [.requested (.error "refused")]).map Pump.outcome =
      some ⟨[], some "refused", true⟩ := by
  decide

end Pump

end QuadControl.Ios.Mjpeg
