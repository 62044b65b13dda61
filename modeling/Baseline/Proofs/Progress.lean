import Baseline.Progress
import Mathlib.Algebra.Order.Group.Int
import Mathlib.Algebra.Order.Group.Unbundled.Basic
import Mathlib.Data.List.Chain

/-!
# When progress is reported

The files of a piece of work are done one after the other, each at a reading of the clock, which may
stand still or go back. A line is written for a file exactly if a period has passed since the last
line, or since the work began. So lines are at least a period apart, and there are no more of them
than there is time for.
-/

namespace Baseline.Progress

variable {τ : Type}

/-- The readings of the calls for which a line was written. -/
def readingsOf (calls : List (τ × String)) (lines : List (Option String)) : List τ :=
  (calls.zip lines).filterMap fun (call, line) => line.map fun _ => call.1

theorem readingsOf_cons_none (call : τ × String) (calls : List (τ × String))
    (lines : List (Option String)) :
    readingsOf (call :: calls) (none :: lines) = readingsOf calls lines := rfl

theorem readingsOf_cons_some (call : τ × String) (calls : List (τ × String)) (line : String)
    (lines : List (Option String)) :
    readingsOf (call :: calls) (some line :: lines) = call.1 :: readingsOf calls lines := rfl

/-- A line that shows how many files are done and which one is the last of them. -/
def lineText (title : String) (total : Int) (done : Nat) (path : String) : String :=
  s!"{title}: {done}/{total} files analyzed, current file: {path}"

/-! ## One file after the other -/

section Runs

variable [Sub τ] [LT τ] [DecidableLT τ]

/-- How far the work has come after some files, each done at a reading, and the line that is written
for each of them, if one is. -/
def advanceAll (progress : Progress τ) : List (τ × String) → Progress τ × List (Option String)
  | [] => (progress, [])
  | (reading, path) :: calls =>
    let (next, line) := progress.advance reading path
    let (final, lines) := next.advanceAll calls
    (final, line :: lines)

variable {progress : Progress τ} {reading : τ} {path : String} {calls : List (τ × String)}

theorem advance_of_early (early : reading - progress.last < progress.period) :
    progress.advance reading path = ({ progress with done := progress.done + 1 }, none) := by
  rw [advance, if_pos early]

theorem advance_of_due (due : ¬reading - progress.last < progress.period) :
    progress.advance reading path =
      ({ progress with done := progress.done + 1, last := reading },
        some (lineText progress.title progress.total (progress.done + 1) path)) := by
  rw [advance, if_neg due]
  rfl

theorem advanceAll_cons (progress : Progress τ) (call : τ × String) (calls : List (τ × String)) :
    progress.advanceAll (call :: calls) =
      (((progress.advance call.1 call.2).1.advanceAll calls).1,
        (progress.advance call.1 call.2).2 ::
          ((progress.advance call.1 call.2).1.advanceAll calls).2) := rfl

theorem length_advanceAll (progress : Progress τ) (calls : List (τ × String)) :
    (progress.advanceAll calls).2.length = calls.length := by
  induction calls generalizing progress with
  | nil => rfl
  | cons call calls induction => simp [advanceAll_cons, induction]

theorem advanceAll_append (progress : Progress τ) (calls more : List (τ × String)) :
    progress.advanceAll (calls ++ more) =
      (((progress.advanceAll calls).1.advanceAll more).1,
        (progress.advanceAll calls).2 ++ ((progress.advanceAll calls).1.advanceAll more).2) := by
  induction calls generalizing progress with
  | nil => rfl
  | cons call calls induction => simp [advanceAll_cons, induction]

/-- After some files all of them are counted, and the last reading that is remembered is that of the
last line. -/
theorem advanceAll_eq (progress : Progress τ) (calls : List (τ × String)) :
    (progress.advanceAll calls).1 =
      { progress with
        done := progress.done + calls.length
        last := (readingsOf calls (progress.advanceAll calls).2).getLastD progress.last } := by
  induction calls generalizing progress with
  | nil => rfl
  | cons call calls induction =>
      by_cases early : call.1 - progress.last < progress.period
      · rw [advanceAll_cons, advance_of_early early, readingsOf_cons_none, induction,
          List.length_cons]
        simp only [Nat.add_assoc, Nat.add_comm 1]
      · rw [advanceAll_cons, advance_of_due early, readingsOf_cons_some, List.getLastD_cons,
          induction, List.length_cons]
        simp only [Nat.add_assoc, Nat.add_comm 1]

end Runs

/-! ## Lines and the time between them -/

section Elapsed

variable [AddCommGroup τ] [LinearOrder τ] {period start : τ} {readings : List τ}

/-- What is written for a file when some are done already. -/
theorem getElem?_advanceAll (progress : Progress τ) (calls : List (τ × String)) {i : Nat}
    (inside : i < calls.length) :
    (progress.advanceAll calls).2[i]? = some
      (if progress.period ≤ calls[i].1 - (readingsOf (calls.take i)
          ((progress.advanceAll calls).2.take i)).getLastD progress.last then
        some (lineText progress.title progress.total (progress.done + i + 1) calls[i].2)
      else none) := by
  have split : calls = calls.take i ++ calls[i] :: calls.drop (i + 1) := by
    rw [List.getElem_cons_drop, List.take_append_drop]
  have whole := advanceAll_append progress (calls.take i) (calls[i] :: calls.drop (i + 1))
  rw [← split] at whole
  have length : (progress.advanceAll (calls.take i)).2.length = i := by
    rw [length_advanceAll, List.length_take_of_le inside.le]
  have before : (progress.advanceAll calls).2.take i = (progress.advanceAll (calls.take i)).2 := by
    rw [whole, List.take_left' length]
  have state := advanceAll_eq progress (calls.take i)
  rw [List.length_take_of_le inside.le] at state
  have here : (progress.advanceAll calls).2[i]? =
      some ((progress.advanceAll (calls.take i)).1.advance calls[i].1 calls[i].2).2 := by
    rw [whole, List.getElem?_append_right length.le, length, Nat.sub_self]
    rfl
  rw [here, before, state]
  split_ifs with due
  · rw [advance_of_due (not_lt.mpr due)]
  · rw [advance_of_early (not_le.mp due)]

variable [IsOrderedAddMonoid τ]

/-- Each line comes at least a period after the one before it. -/
theorem isChain_readingsOf (progress : Progress τ) (calls : List (τ × String)) :
    (progress.last :: readingsOf calls (progress.advanceAll calls).2).IsChain
      fun earlier later => earlier + progress.period ≤ later := by
  induction calls generalizing progress with
  | nil => exact .singleton _
  | cons call calls induction =>
      by_cases early : call.1 - progress.last < progress.period
      · rw [advanceAll_cons, advance_of_early early, readingsOf_cons_none]
        exact induction { progress with done := progress.done + 1 }
      · rw [advanceAll_cons, advance_of_due early, readingsOf_cons_some, List.isChain_cons_cons]
        exact ⟨le_sub_iff_add_le'.mp (not_lt.mp early),
          induction { progress with done := progress.done + 1, last := call.1 }⟩

/-- Readings that are each a period after the one before them take that many periods. -/
theorem nsmul_le_of_isChain
    (apart : (start :: readings).IsChain fun earlier later => earlier + period ≤ later) :
    readings.length • period ≤ readings.getLastD start - start := by
  induction readings generalizing start with
  | nil => simp
  | cons reading readings induction =>
      rw [List.isChain_cons_cons] at apart
      have rest := induction apart.2
      rw [List.length_cons, List.getLastD_cons, succ_nsmul]
      calc
        readings.length • period + period
            ≤ (readings.getLastD reading - reading) + (reading - start) :=
          add_le_add rest (le_sub_iff_add_le'.mpr apart.1)
        _ = readings.getLastD reading - start := sub_add_sub_cancel _ _ _

/-- For each file a line is written exactly if its reading is a period or more after that of the line
before it, or after the start, and the line shows how many files are done and the path. So each line
is at least a period after every one before it, as many periods as there are lines fit in the time
up to the last one, and in the end all files are counted. -/
theorem advanceAll_throttled (title : String) (total : Int) (start : τ) (positive : 0 < period)
    (calls : List (τ × String)) :
    let run := (ofReading title total period start).advanceAll calls
    let readings := readingsOf calls run.2
    run.2.length = calls.length ∧
      (∀ i (inside : i < calls.length), run.2[i]? = some
        (if period ≤ calls[i].1 - (readingsOf (calls.take i) (run.2.take i)).getLastD start then
          some (lineText title total (i + 1) calls[i].2)
        else none)) ∧
      (start :: readings).Pairwise (fun earlier later => earlier + period ≤ later) ∧
      readings.length • period ≤ readings.getLastD start - start ∧
      run.1.stopMessage =
        s!"{title}: {calls.length}/{total} source file(s) have been analyzed" := by
  intro run readings
  have apart := isChain_readingsOf (ofReading title total period start) calls
  have longer : IsTrans τ fun earlier later => earlier + period ≤ later := by
    refine ⟨fun first second third before after => ?_⟩
    calc
      first + period ≤ second := before
      _ ≤ second + period := le_add_of_nonneg_right positive.le
      _ ≤ third := after
  refine ⟨length_advanceAll _ calls, ?_, List.isChain_iff_pairwise.mp apart,
    nsmul_le_of_isChain apart, ?_⟩
  · intro i inside
    have line := getElem?_advanceAll (ofReading title total period start) calls inside
    rwa [ofReading, Nat.zero_add] at line
  · rw [advanceAll_eq, stopMessage, ofReading, Nat.zero_add]

theorem advanceAll_throttled_turnedBack :
    let calls : List (Int × String) := [(12, "/a.yml"), (5, "/b.yml"), (22, "/c.yml")]
    let run := (ofReading "Analysis" 3 10 0).advanceAll calls
    (0 : Int) < 10 ∧ readingsOf calls run.2 = [12, 22] ∧
      run.2[2]? = some (some (lineText "Analysis" 3 3 "/c.yml")) ∧ 2 • (10 : Int) ≤ 22 - 0 ∧
      run.1.stopMessage = "Analysis: 3/3 source file(s) have been analyzed" := by
  intro calls run
  have positive : (0 : Int) < 10 := by decide
  obtain ⟨-, lines, -, few, stop⟩ := advanceAll_throttled "Analysis" 3 0 positive calls
  exact ⟨positive, rfl, lines 2 (by decide), few, stop.trans (by decide)⟩

end Elapsed

end Baseline.Progress
