import DeskCalculator.CommandLine.Terminal
import DeskCalculator.Proofs.Chat.Lines

/-!
# Transcripts

A terminal that keeps what it shows has in the end the outcome of the program in its transcript
(`run_program`), so what holds of outcomes holds of a program that reads and shows step by step.
For a conversation this is a matter of its turns: a line is read up to its line feed
(`run_readLine`), what is shown for it stands behind what was shown before, and the conversation
goes on with the lines that are left (`run_repeatM_takeTurn`).
-/

namespace DeskCalculator.CommandLine

/-! ### Loops -/

section Loops

variable {σ α β : Type} {s s' : σ} {a a' : α} {b : β}

/-- A program goes on with the result and the state of its first part. -/
theorem run_bind_of_eq {first : StateM σ α} (h : first.run s = (a, s'))
    (next : α → StateM σ β) :
  (first >>= next).run s = (next a).run s'
  := by
  rw [StateT.run_bind, h]
  rfl

variable [Nonempty σ] [Nonempty β] {step : α → StateM σ (α ⊕ β)}

/-- A loop goes on after a step that does not end it. -/
theorem run_repeatM_of_inl (h : (step a).run s = (.inl a', s')) :
  (repeatM step a).run s = (repeatM step a').run s'
  := by
  rw [repeatM_eq_of_monadTail, repeatM.body, run_bind_of_eq h]

/-- A loop has the result of the step that ends it. -/
theorem run_repeatM_of_inr (h : (step a).run s = (.inr b, s')) :
  (repeatM step a).run s = (b, s')
  := by
  rw [repeatM_eq_of_monadTail, repeatM.body, run_bind_of_eq h]
  rfl

end Loops

/-- The input that is still to be read, and the texts that have been shown. -/
structure Transcript where
  input : List UInt8
  output : String
  errors : String
deriving Inhabited

namespace Transcript

/-- The terminal that reads a given input and keeps what it shows. -/
def terminal : Terminal (StateM Transcript) where
  readByte transcript :=
    match transcript.input with
    | [] => (none, transcript)
    | byte :: rest => (some byte, { transcript with input := rest })
  putOutput text transcript := ((), { transcript with output := transcript.output ++ text })
  putErrors text transcript := ((), { transcript with errors := transcript.errors ++ text })

/-- The exit code and the transcript of a program that ends with an outcome and leaves some
input. -/
def final (outcome : Outcome) (rest : List UInt8) : Nat × Transcript :=
  (outcome.exitCode, ⟨rest, outcome.output, outcome.errors⟩)

variable {style : ChatStyle} {calculator : Calculator} {output errors : String}
  {input line held : List UInt8} {later : List (List UInt8)}

/-! ### Reading a line -/

theorem run_readNext_nil (held : List UInt8) (output errors : String) :
  (terminal.readNext held).run ⟨[], output, errors⟩ = (.inr held.reverse, ⟨[], output, errors⟩)
  := rfl

theorem run_readNext_cons (held rest : List UInt8) (byte : UInt8) (output errors : String) :
  (terminal.readNext held).run ⟨byte :: rest, output, errors⟩
    = (if byte = 10 then .inr (byte :: held).reverse else .inl (byte :: held),
      ⟨rest, output, errors⟩)
  := rfl

/-- What is read next is read behind the bytes that are held: the first line of the input, so
that the other lines are left. -/
theorem run_repeatM_readNext (hlines : inputLines input = line :: later) :
  ∃ rest, inputLines rest = later
    ∧ (repeatM terminal.readNext held).run ⟨input, output, errors⟩
      = (held.reverse ++ line, ⟨rest, output, errors⟩)
  := by
  -- on the input: a byte that does not end the line is held when the next one is read
  induction input generalizing held line with
  | nil => cases hlines
  | cons byte rest ih =>
    have hstep := run_readNext_cons held rest byte output errors
    by_cases hbyte : byte = 10
    · rw [if_pos hbyte] at hstep
      subst hbyte
      rw [inputLines_lineFeed_cons] at hlines
      obtain ⟨rfl, rfl⟩ := List.cons.inj hlines
      use rest, rfl
      rw [run_repeatM_of_inr hstep, List.reverse_cons]
    · rw [if_neg hbyte] at hstep
      rw [inputLines_cons_of_ne hbyte] at hlines
      rw [run_repeatM_of_inl hstep]
      cases hrest : inputLines rest with
      | nil =>
        rw [hrest] at hlines
        obtain ⟨rfl, rfl⟩ := List.cons.inj hlines
        obtain rfl := eq_nil_of_inputLines_eq_nil hrest
        use [], hrest
        rw [run_repeatM_of_inr (run_readNext_nil _ _ _), List.reverse_cons]
      | cons line' later' =>
        rw [hrest] at hlines
        obtain ⟨rfl, rfl⟩ := List.cons.inj hlines
        obtain ⟨rest', hlater, hrun⟩ := @ih line' (byte :: held) hrest
        use rest', hlater
        rw [hrun, List.reverse_cons, List.append_assoc]

/-- A line is read up to its line feed, and the other lines are left. -/
theorem run_readLine (hlines : inputLines input = line :: later) :
  ∃ rest, inputLines rest = later
    ∧ terminal.readLine.run ⟨input, output, errors⟩ = (line, ⟨rest, output, errors⟩)
  := run_repeatM_readNext hlines

/-- At the end of the input an empty line is read. -/
theorem run_readLine_nil (output errors : String) :
  terminal.readLine.run ⟨[], output, errors⟩ = ([], ⟨[], output, errors⟩)
  := run_repeatM_of_inr (run_readNext_nil [] output errors)

/-! ### Turns -/

/-- A turn shows the prompt and what the line that is read calls for. -/
theorem run_takeTurn_of_readLine {rest : List UInt8}
    (hline : terminal.readLine.run ⟨input, output ++ style.prompt, errors⟩
      = (line, ⟨rest, output ++ style.prompt, errors⟩)) {shown : Turn}
    (hshown : (if line.isEmpty then lastTurn else turn style calculator line) = shown) :
  (terminal.takeTurn style calculator).run ⟨input, output, errors⟩
    = (shown.sequel.toSum,
      ⟨rest, output ++ (style.prompt ++ shown.output), errors ++ shown.errors⟩)
  := by
  have hprompt : (terminal.putOutput style.prompt).run ⟨input, output, errors⟩
      = ((), ⟨input, output ++ style.prompt, errors⟩) := rfl
  rw [Terminal.takeTurn, run_bind_of_eq hprompt, run_bind_of_eq hline, hshown,
    ← String.append_assoc]
  rfl

/-- At the end of the input the conversation ends. -/
theorem run_takeTurn_nil (style : ChatStyle) (calculator : Calculator) (output errors : String) :
  (terminal.takeTurn style calculator).run ⟨[], output, errors⟩
    = (.inr Outcome.success,
      ⟨[], output ++ (style.prompt ++ lastTurn.output), errors ++ lastTurn.errors⟩)
  := run_takeTurn_of_readLine (run_readLine_nil _ _) rfl

/-- The first line of the input is answered, and the other lines are left. -/
theorem run_takeTurn (hlines : inputLines input = line :: later) (style : ChatStyle)
    (calculator : Calculator) (output errors : String) :
  ∃ rest, inputLines rest = later
    ∧ (terminal.takeTurn style calculator).run ⟨input, output, errors⟩
      = ((turn style calculator line).sequel.toSum,
        ⟨rest, output ++ (style.prompt ++ (turn style calculator line).output),
          errors ++ (turn style calculator line).errors⟩)
  := by
  obtain ⟨rest, hlater, hline⟩ := @run_readLine (output ++ style.prompt) errors _ _ _ hlines
  have hnil : line ≠ [] := by
    apply ne_nil_of_mem_inputLines
    rw [hlines]
    apply List.mem_cons_self
  have hempty : ¬ line.isEmpty := by simpa using hnil
  exact ⟨rest, hlater, run_takeTurn_of_readLine hline (if_neg hempty)⟩

/-! ### Conversations -/

/-- From a prompt on, the conversation ends as the conversation with the lines that are left. -/
theorem run_repeatM_takeTurn {lines : List (List UInt8)} (hlines : inputLines input = lines) :
  ∃ rest, (repeatM (terminal.takeTurn style) calculator).run ⟨input, output, errors⟩
    = final (Outcome.after output errors (converse style calculator lines)) rest
  := by
  -- on the lines: each turn reads one and leaves the others
  induction lines generalizing input output errors calculator with
  | nil =>
    obtain rfl := eq_nil_of_inputLines_eq_nil hlines
    use []
    apply run_repeatM_of_inr (run_takeTurn_nil style calculator output errors)
  | cons line later ih =>
    obtain ⟨rest, hlater, hturn⟩ := run_takeTurn hlines style calculator output errors
    rw [converse]
    generalize turn style calculator line = turn at hturn
    cases hsequel : turn.sequel with
    | finished exitCode =>
      rw [hsequel] at hturn
      use rest
      rw [run_repeatM_of_inr hturn]
      simp only [final, Outcome.after, String.append_empty]
    | next calculator' =>
      rw [hsequel] at hturn
      obtain ⟨rest', hrun⟩ := ih hlater
      use rest'
      rw [run_repeatM_of_inl hturn, hrun]
      simp only [Outcome.after, String.append_assoc]

/-- A conversation at a terminal ends as the conversation with the whole input. -/
theorem run_chat (style : ChatStyle) (strict : Bool) (input : List UInt8) :
  ∃ rest, (terminal.chat style strict).run ⟨input, "", ""⟩ = final (chat style strict input) rest
  := by
  have hopening : (terminal.putOutput style.opening).run ⟨input, "", ""⟩
      = ((), ⟨input, "" ++ style.opening, ""⟩) := rfl
  rw [Terminal.chat, run_bind_of_eq hopening, String.empty_append]
  apply run_repeatM_takeTurn rfl

/-! ### The program -/

theorem run_finish (input : List UInt8) (outcome : Outcome) :
  (terminal.finish outcome).run ⟨input, "", ""⟩ = final outcome input
  := by
  have hrun : (terminal.finish outcome).run ⟨input, "", ""⟩
      = (outcome.exitCode, ⟨input, "" ++ outcome.output, "" ++ outcome.errors⟩) := rfl
  rw [hrun, String.empty_append, String.empty_append, final]

/-- The program at a terminal ends as the program with the input of the terminal. -/
theorem run_program (surroundings : Surroundings) (arguments : List String)
    (input : List UInt8) :
  ∃ rest, (terminal.program surroundings arguments).run ⟨input, "", ""⟩
    = final (program { surroundings with input } arguments) rest
  := by
  rw [program, Terminal.program]
  rcases parse surroundings.strictVariable arguments with error | request
  · exact ⟨input, run_finish input _⟩
  · rcases request with ⟨settings, command⟩ | _ | _
    · cases command with
      | eval message strict json => exact ⟨input, run_finish input _⟩
      | chat strict => apply run_chat
      | batch file strict json => exact ⟨input, run_finish input _⟩
    · exact ⟨input, run_finish input _⟩
    · exact ⟨input, run_finish input _⟩

end Transcript

end DeskCalculator.CommandLine
