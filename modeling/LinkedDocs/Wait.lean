import LinkedDocs.Revision

/-!
# Waiting for work

The results of the work on entities are collected one after another. If there is a limit, the wait
for a result ends so many seconds after the work has begun. The clock counts nanoseconds and cannot
wait for more than it can count.
-/

namespace LinkedDocs

/-- How the work on an entity stands when its result is asked for. -/
inductive Standing where
  | over
  /-- The work began when the clock said `started`, and goes on while it says `now`. It may be over
  when the wait for it is. -/
  | underWay (started now : Double) (inTime : Bool)

namespace Standing

/-- The most nanoseconds that the clock can wait for. -/
def longestWait : Nat := Nat.pow 2 63 - 1

/-- Whether so many seconds, in nanoseconds and rounded up, are more than the clock can wait for. -/
def isTooLong (seconds : Double) : Bool :=
  match seconds.mul (.ofInt 1000000000) with
  | .finite false m e =>
    let (num, den) := Double.ratio m e
    longestWait * den < num
  | .infinite false => true
  | _ => false

/-- The seconds that are left of a limit. -/
def left (limit started now : Double) : Double :=
  (started.add limit).add now.neg

/-- Whether the wait for work is refused. Work that is over is not waited for. -/
def isRefused (timeout : Option Double) (standing : Standing) : Bool :=
  match timeout, standing with
  | some limit, .underWay started now _ => isTooLong (left limit started now)
  | _, _ => false

/-- Whether work takes longer than the limit, if there is one. -/
def isLate (timeout : Option Double) (standing : Standing) : Bool :=
  match timeout, standing with
  | some _, .underWay _ _ inTime => !inTime
  | _, _ => false

end Standing

/-- What the wait for some work comes to. -/
def Work.collect (work : Work) (timeout : Option Double) (standing : Standing) : Work :=
  if standing.isRefused timeout then { work with outcome := .failed .longWait }
  else if standing.isLate timeout then { work with outcome := .timedOut }
  else work

end LinkedDocs
