/-!
# Running a step until it is blocked

A party takes one step at a time, and a step is a function that gives nothing when
the party is blocked.  A run repeats the step; the number of repetitions is bounded
by a potential of the state, which every step uses up.
-/

namespace CompileWatch

/-- Repeats a step until it is blocked, at most the given number of times. -/
def untilBlocked {State : Type} (step? : State → Option State) : Nat → State → State
  | 0, state => state
  | potential + 1, state =>
    match step? state with
    | none => state
    | some next => untilBlocked step? potential next

end CompileWatch
