import DeskCalculator.Proofs.Calculator
import DeskCalculator.Session
import Mathlib.Data.List.Induction

/-!
# What a session remembers

The past of a session is the list of its steps with their replies, the latest first.  The
lineage of a calculator is the part of the past that concerns it: its own steps, and before it
was copied the steps of the calculator that it is a copy of.

A calculator remembers the latest result in its lineage that no clearing follows, and is
otherwise the calculator at the root of its lineage (`getElem?_run`).  What it remembers does
not show in its replies: each reply is the one of a calculator built anew
(`run_by_lineage`).
-/

namespace DeskCalculator.Session

/-- A step and its reply, if it had one. -/
abbrev Entry := Step × Option Reply

/-- The steps of a run with their replies, the latest first. -/
def past (session : Session) (steps : List Step) : List Entry :=
  (steps.zip (session.run steps).1).reverse

/-! ### Lineages -/

namespace Step

/-- Where the calculator at a place stands before a step in a session of `count` calculators:
a copy is one with its original, and any other calculator stays in its place. -/
def origin (count place : Nat) : Step → Nat
  | copy original => if place = count then original else place
  | _ => place

/-- The number of calculators that a step adds to `count` calculators: a copy, if there is an
original. -/
def added (count : Nat) : Step → Nat
  | copy original => if original < count then 1 else 0
  | _ => 0

/-- Whether a step makes a calculator forget its last result. -/
def isClear : Step → Bool
  | clear _ => true
  | _ => false

/-- What a step makes of the calculator that it concerns. -/
def effect (calculator : Calculator) : Step → Calculator
  | respond _ message => calculator.remember (calculator.reply message)
  | clear _ => calculator.clear
  | copy _ => calculator

end Step

/-- The number of calculators after a past that has started with `count` of them. -/
def size (count : Nat) : List Entry → Nat
  | [] => count
  | (step, _) :: past => size count past + step.added (size count past)

/-- The place at the start of the calculator from which the one at a place descends. -/
def root (count : Nat) : List Entry → Nat → Nat
  | [], place => place
  | (step, _) :: past, place => root count past (step.origin (size count past) place)

/-- The steps of the calculator at a place and, before it was copied, of the calculator that it
is a copy of, the latest first. -/
def lineage (count : Nat) : List Entry → Nat → List Entry
  | [], _ => []
  | (step, reply) :: past, place =>
    let before := lineage count past (step.origin (size count past) place)
    if step.place = place then (step, reply) :: before else before

/-- The value of the latest result that no clearing follows. -/
def latestResult (entries : List Entry) : Option Float :=
  (entries.takeWhile fun entry => !entry.1.isClear).findSome? fun entry =>
    entry.2.bind Reply.value?

theorem latestResult_cons (step : Step) (reply : Option Reply) (entries : List Entry) :
  latestResult ((step, reply) :: entries)
    = if step.isClear then none else (reply.bind Reply.value?).or (latestResult entries)
  := by
  cases hclear : step.isClear with
  | true => simp [latestResult, hclear]
  | false =>
    cases hvalue : reply.bind Reply.value? <;> simp [latestResult, hclear, hvalue]

/-! ### Steps -/

variable (session : Session) (step : Step) (steps : List Step) (place : Nat)

/-- A step concerns one calculator only, and a copy is the calculator it is a copy of. -/
theorem getElem?_step :
  (session.step step).2[place]?
    = session[step.origin session.length place]?.map fun calculator =>
        if step.place = place then step.effect calculator else calculator
  := by
  cases step with
  | respond target message =>
    simp only [Session.step, Step.origin, Step.place, Step.effect]
    cases htarget : session[target]? with
    | none =>
      by_cases hplace : target = place
      · subst hplace
        simp [htarget]
      · simp [hplace]
    | some calculator =>
      by_cases hplace : target = place
      · subst hplace
        simp [htarget, Calculator.respond, List.getElem?_set_self']
      · simp [hplace, List.getElem?_set_ne]
  | clear target =>
    simp only [Session.step, Step.origin, Step.place, Step.effect]
    rw [List.getElem?_modify]
    by_cases hplace : target = place <;> simp [hplace]
  | copy original =>
    have heffect : (fun calculator => if (Step.copy original).place = place
        then (Step.copy original).effect calculator else calculator) = id := by
      funext calculator
      apply ite_self
    rw [heffect, Option.map_id, id, Session.step, Step.origin]
    by_cases hplace : place = session.length
    · subst hplace
      rw [if_pos rfl, List.getElem?_append_right (Nat.le_refl _), Nat.sub_self]
      cases session[original]? <;> rfl
    · rw [if_neg hplace]
      obtain hlt | hgt := Nat.lt_or_gt_of_ne hplace
      · apply List.getElem?_append_left hlt
      · have hlength : (session ++ session[original]?.toList).length ≤ place := by
          cases session[original]? <;> simp <;> omega
        rw [List.getElem?_eq_none (Nat.le_of_lt hgt), List.getElem?_eq_none hlength]

/-- A message has a reply if there is a calculator for it. -/
theorem reply_respond (message : String) :
  (session.step (.respond place message)).1
    = session[place]?.map fun calculator => calculator.reply message
  := by
  rw [Session.step]
  cases session[place]? <;> rfl

theorem length_step :
  (session.step step).2.length = session.length + step.added session.length
  := by
  cases step with
  | respond target message =>
    rw [Session.step]
    cases session[target]? <;> simp [Step.added]
  | clear target => apply List.length_modify
  | copy original =>
    rw [Session.step, Step.added, List.length_append]
    split
    · next hlt => simp [hlt]
    · next hge => simp [List.getElem?_eq_none (Nat.le_of_not_lt hge)]

/-- A step leaves a calculator that it concerns as it is, but for the last result. -/
theorem effect_eq {calculator : Calculator} (h : session[step.place]? = some calculator) :
  step.effect calculator
    = { calculator with
        lastResult :=
          if step.isClear then none
          else ((session.step step).1.bind Reply.value?).or calculator.lastResult }
  := by
  cases step with
  | respond target message =>
    rw [Step.place] at h
    rw [reply_respond, h]
    apply Calculator.remember_eq
  | clear target => rfl
  | copy original => rfl

/-- The calculator that a step concerns stays in its place. -/
theorem Step.origin_place (count : Nat) (step : Step) :
  step.origin count step.place = step.place
  := by
  cases step with
  | respond target message => rfl
  | clear target => rfl
  | copy original => apply ite_self

/-! ### Runs -/

theorem run_cons (rest : List Step) :
  session.run (step :: rest)
    = ((session.step step).1 :: ((session.step step).2.run rest).1,
        ((session.step step).2.run rest).2)
  := rfl

theorem run_append (before after : List Step) :
  session.run (before ++ after)
    = ((session.run before).1 ++ ((session.run before).2.run after).1,
        ((session.run before).2.run after).2)
  := by
  induction before generalizing session with
  | nil => rfl
  | cons step rest ih =>
    rw [List.cons_append, run_cons, ih, run_cons, List.cons_append]

theorem length_replies_run :
  (session.run steps).1.length = steps.length
  := by
  induction steps generalizing session with
  | nil => rfl
  | cons step rest ih => rw [run_cons, List.length_cons, ih, List.length_cons]

/-- The last step of a run is the first entry of the past. -/
theorem past_concat :
  session.past (steps ++ [step])
    = (step, ((session.run steps).2.step step).1) :: session.past steps
  := by
  rw [past, run_append, List.zip_append (length_replies_run session steps).symm,
    List.reverse_append]
  rfl

theorem length_run :
  (session.run steps).2.length = size session.length (session.past steps)
  := by
  induction steps using List.reverseRecOn with
  | nil => rfl
  | append_singleton steps step ih =>
    rw [past_concat, size, ← ih, run_append]
    apply length_step

/-- After a run of calculators that have remembered nothing at first, each calculator is the one
at the root of its lineage, and remembers the latest result in its lineage. -/
theorem getElem?_run (hnew : ∀ calculator ∈ session, calculator.lastResult = none) :
  (session.run steps).2[place]?
    = session[root session.length (session.past steps) place]?.map fun calculator =>
        { calculator with
          lastResult := latestResult (lineage session.length (session.past steps) place) }
  := by
  induction steps using List.reverseRecOn generalizing place with
  | nil =>
    change session[place]? = session[place]?.map fun calculator =>
      { calculator with lastResult := none }
    cases hplace : session[place]? with
    | none => rfl
    | some calculator =>
      have hlast := hnew calculator (List.mem_of_getElem? hplace)
      rw [Option.map_some, ← hlast]
  | append_singleton steps step ih =>
    have hstep : (session.run (steps ++ [step])).2 = ((session.run steps).2.step step).2 := by
      rw [run_append]
      rfl
    rw [hstep, getElem?_step, past_concat, root, lineage, ← length_run]
    by_cases hplace : step.place = place
    · subst hplace
      have hbefore := ih step.place
      rw [Step.origin_place]
      simp only [if_true]
      cases hfirst : session[root session.length (session.past steps) step.place]? with
      | none =>
        rw [hfirst] at hbefore
        rw [hbefore]
        rfl
      | some first =>
        rw [hfirst] at hbefore
        rw [hbefore, Option.map_some, Option.map_some, Option.map_some, effect_eq _ _ hbefore,
          latestResult_cons]
    · simp only [if_neg hplace, Option.map_id']
      apply ih

/-- The reply to a step of a run is the one that the session before the step gives. -/
theorem getElem?_replies_run (before after : List Step) :
  (session.run (before ++ step :: after)).1[before.length]?
    = some ((session.run before).2.step step).1
  := by
  rw [run_append, run_cons, ← length_replies_run session before,
    List.getElem?_append_right (Nat.le_refl _), Nat.sub_self]
  rfl

/-- A calculator after one step of its session: it has the same words and the same way of
reading, and is the same but for being cleared or for replying with a result. -/
structure Follows (step : Step) (place : Nat) (calculator later : Calculator) : Prop where
  greetings_eq : later.greetings = calculator.greetings
  farewells_eq : later.farewells = calculator.farewells
  strict_eq : later.strict = calculator.strict
  eq_or : later = calculator ∨ step = .clear place
    ∨ ∃ message x, step = .respond place message ∧ calculator.reply message = .result x

theorem follows_effect (calculator : Calculator) :
  Follows step step.place calculator (step.effect calculator)
  := by
  cases step with
  | respond target message =>
    rw [Step.effect, Calculator.remember_eq]
    refine ⟨rfl, rfl, rfl, ?_⟩
    cases hreply : calculator.reply message with
    | result x => exact Or.inr (Or.inr ⟨message, x, rfl, hreply⟩)
    | greeting => exact Or.inl rfl
    | farewell => exact Or.inl rfl
    | error fault => exact Or.inl rfl
  | clear target => exact ⟨rfl, rfl, rfl, Or.inr (Or.inl rfl)⟩
  | copy original => exact ⟨rfl, rfl, rfl, Or.inl rfl⟩

/-- After a step there is a calculator at every place where there was one, and it follows the
one before. -/
theorem exists_follows {calculator : Calculator} (h : session[place]? = some calculator) :
  ∃ later, (session.step step).2[place]? = some later ∧ Follows step place calculator later
  := by
  have horigin : step.origin session.length place = place := by
    cases step with
    | respond target message => rfl
    | clear target => rfl
    | copy original => apply if_neg (Nat.ne_of_lt (List.getElem?_eq_some_iff.mp h).1)
  rw [getElem?_step, horigin, h]
  refine ⟨_, rfl, ?_⟩
  split
  · next hplace =>
    subst hplace
    apply follows_effect
  · exact ⟨rfl, rfl, rfl, Or.inl rfl⟩

/-- In a run of newly built calculators, every reply to a message is the one of a calculator
built anew with the same words and the same way of reading.  After the run each calculator is
the one at the root of its lineage, and remembers the latest result in its lineage that no
clearing follows.  So a further step leaves a calculator as it is, unless it clears the
calculator or the calculator replies with a result. -/
theorem run_by_lineage (initial : Session)
    (hnew : ∀ calculator ∈ initial, calculator.lastResult = none) (steps : List Step) :
  (∀ before place message after calculator, steps = before ++ .respond place message :: after →
      (initial.run before).2[place]? = some calculator →
      (initial.run steps).1[before.length]?
        = some (some (Calculator.respond
            { greetings := calculator.greetings
              farewells := calculator.farewells
              strict := calculator.strict } message).1))
    ∧ (∀ place, (initial.run steps).2[place]?
      = initial[root initial.length (initial.past steps) place]?.map fun calculator =>
          { calculator with
            lastResult := latestResult (lineage initial.length (initial.past steps) place) })
    ∧ ∀ step place calculator, (initial.run steps).2[place]? = some calculator →
      ∃ later, (initial.run (steps ++ [step])).2[place]? = some later
        ∧ Follows step place calculator later
  := by
  refine ⟨?_, fun place => getElem?_run initial steps place hnew, ?_⟩
  · rintro before place message after calculator rfl hplace
    rw [getElem?_replies_run, reply_respond, hplace]
    rfl
  · intro step place calculator hplace
    rw [run_append]
    apply exists_follows _ _ _ hplace

/-- Steps in which a calculator is copied after its first result, and is cleared later. -/
def copiedThenCleared : List Step :=
  [.respond 0 "2 + 3", .copy 0, .respond 0 "2 * 3", .respond 1 "Hi", .clear 0, .respond 0 "4 / 0"]

/-- The copy remembers the result from before it was copied, and its original nothing; the
message to the copy is greeted. -/
theorem run_by_lineage_of_copy :
  (∀ calculator ∈ [({} : Calculator)], calculator.lastResult = none)
    ∧ (run [{}] copiedThenCleared).2[0]? = some ({} : Calculator)
    ∧ (run [{}] copiedThenCleared).2[1]? = some ({ lastResult := some 5 } : Calculator)
    ∧ (run [{}] copiedThenCleared).1[3]? = some (some .greeting)
    ∧ ∃ later, (run [{}] (copiedThenCleared ++ [.clear 0])).2[1]? = some later
      ∧ Follows (.clear 0) 1 { lastResult := some 5 } later
  := by
  have hnew : ∀ calculator ∈ [({} : Calculator)], calculator.lastResult = none :=
    List.forall_mem_singleton.mpr rfl
  obtain ⟨hreplies, hcalculators, hfollows⟩ := run_by_lineage [{}] hnew copiedThenCleared
  have horiginal : (run [{}] copiedThenCleared).2[0]? = some ({} : Calculator) := by
    rw [hcalculators]
    decide +kernel
  have hcopy : (run [{}] copiedThenCleared).2[1]?
      = some ({ lastResult := some 5 } : Calculator) := by
    rw [hcalculators]
    decide +kernel
  have hcopied : (run [{}] (copiedThenCleared.take 3)).2[1]?
      = some ({ lastResult := some 5 } : Calculator) := by
    decide +kernel
  have hgreeted := hreplies (copiedThenCleared.take 3) 1 "Hi" (copiedThenCleared.drop 4) _ rfl
    hcopied
  refine ⟨hnew, horiginal, hcopy, hgreeted.trans ?_, hfollows (.clear 0) 1 _ hcopy⟩
  decide +kernel

end DeskCalculator.Session
