import SocketApi.Lib.Monitor
import Mathlib.Data.List.Sort

/-!
# `Condition`

The class with its parents, between which threads run at every access. A condition that is fired
fires its parents, while it is locked itself; `timedWait` takes the fired state. The calls are code
of `Monitor`: `synchronized` and `unsynchronized` lock and unlock the condition, and the condition
variable of pthreads goes with the same mutex.
-/

namespace SocketApi

open Monitor

/-- A `Condition*`. -/
abbrev ConditionPtr := Nat

/-- The conditions, and the answer of the last call of each thread that has one. -/
structure Conditions (ι : Type) where
  parentSet : ConditionPtr → List ConditionPtr := fun _ => []
  fired : ConditionPtr → Bool := fun _ => false
  result : ι → Bool := fun _ => false

namespace Threads.Condition

/-- What a call does with the data between two steps of others. -/
inductive Access where
  | insertParent (c p : ConditionPtr)
  | broadcastIfFired (c p : ConditionPtr)
  | eraseParent (c p : ConditionPtr)
  | setFired (c : ConditionPtr)
  | fireParents (all : Bool) (c : ConditionPtr)
  | readFired (c : ConditionPtr)
  | resetFired (c : ConditionPtr)
  | testFired (c : ConditionPtr)
  | takeFired (c : ConditionPtr)
  | timedOut (c : ConditionPtr)
  | testAgain (c : ConditionPtr)
  | waitAgain (c : ConditionPtr)
  deriving DecidableEq

abbrev Steps := Code ConditionPtr Access

/-- `ParentSet` is a `std::set`: its iterators go in the order of the pointers. -/
def insertSorted (p : ConditionPtr) (set : List ConditionPtr) : List ConditionPtr :=
  if p ∈ set then set else set.orderedInsert (· ≤ ·) p

/-- `broadcast`, or `signal`. -/
def fire (all : Bool) (c : ConditionPtr) : Steps := [
  .lock c,
  .access (.setFired c),
  if all then .broadcast c else .signal c,
  .access (.fireParents all c),
  .unlock c]

def addParent (c : ConditionPtr) (parentCondition : Option ConditionPtr) : Steps :=
  match parentCondition with
  | some p => [.lock c, .access (.insertParent c p), .access (.broadcastIfFired c p), .unlock c]
  | none => []

def removeParent (c : ConditionPtr) (parentCondition : Option ConditionPtr) : Steps :=
  match parentCondition with
  | some p => [.lock c, .access (.eraseParent c p), .unlock c]
  | none => []

def fired (c : ConditionPtr) : Steps := [.lock c, .access (.readFired c), .access (.resetFired c), .unlock c]

def peekFired (c : ConditionPtr) : Steps := [.lock c, .access (.readFired c), .unlock c]

def timedWait (c : ConditionPtr) : Steps := [.lock c, .access (.testFired c), .unlock c]

/-- `while(!timedWait(3600000000ULL)) { sched_yield(); }` -/
def wait (c : ConditionPtr) : Steps := timedWait c ++ [.access (.waitAgain c)]

/-- A call, with the condition it is made for. -/
inductive Call where
  | addParent (c : ConditionPtr) (parentCondition : Option ConditionPtr)
  | removeParent (c : ConditionPtr) (parentCondition : Option ConditionPtr)
  | signal (c : ConditionPtr)
  | broadcast (c : ConditionPtr)
  | fired (c : ConditionPtr)
  | peekFired (c : ConditionPtr)
  | timedWait (c : ConditionPtr)
  | wait (c : ConditionPtr)

def Call.code : Call → Steps
  | .addParent c p => Condition.addParent c p
  | .removeParent c p => Condition.removeParent c p
  | .signal c => fire false c
  | .broadcast c => fire true c
  | .fired c => Condition.fired c
  | .peekFired c => Condition.peekFired c
  | .timedWait c => Condition.timedWait c
  | .wait c => Condition.wait c

variable {ι : Type} [DecidableEq ι]

/-- An access, and what is done next. `pthread_cond_timedwait` answers 0, `ETIMEDOUT` or `EINTR`. -/
def exec (i : ι) : Access → Conditions ι → Conditions ι × Steps
  | .insertParent c p, d => ({ d with parentSet := Function.update d.parentSet c (insertSorted p (d.parentSet c)) }, [])
  | .broadcastIfFired c p, d => (d, if d.fired c then fire true p else [])
  | .eraseParent c p, d => ({ d with parentSet := Function.update d.parentSet c ((d.parentSet c).erase p) }, [])
  | .setFired c, d => ({ d with fired := Function.update d.fired c true }, [])
  | .fireParents all c, d => (d, (d.parentSet c).flatMap (fire all))
  | .readFired c, d => ({ d with result := Function.update d.result i (d.fired c) }, [])
  | .resetFired c, d => ({ d with fired := Function.update d.fired c false }, [])
  | .testFired c, d =>
    (d, if d.fired c then [.access (.takeFired c)] else [.wait c (.takeFired c) (.timedOut c) (.testAgain c)])
  | .takeFired c, d =>
    ({ d with fired := Function.update d.fired c false, result := Function.update d.result i true }, [])
  | .timedOut _, d => ({ d with result := Function.update d.result i false }, [])
  | .testAgain c, d => (d, [.unlock c, .lock c, .access (.testFired c)])
  | .waitAgain c, d => (d, if d.result i then [] else wait c)

/-- Any number of threads that use conditions. -/
def machine (ι : Type) [DecidableEq ι] : Machine ι ConditionPtr Access (Conditions ι) Call where
  exec := exec
  program := Call.code

/-- No condition has been fired, and no thread has begun a call. -/
def initial (ι : Type) : State ι ConditionPtr Access (Conditions ι) where
  data := {}
  held _ := unlocked
  code _ := []

/-! ## The rules of the calls -/

section

variable (below : ConditionPtr → ConditionPtr → Prop)

/-- The condition is locked, and it is the last of those that are. -/
def Last (c : ConditionPtr) (h : ConditionPtr → Nat) : Prop := 0 < h c ∧ ∀ m, 0 < h m → m = c ∨ below m c

/-- A condition is locked behind those below it. The fired state and the parents are used with the lock of
their condition, and waiting threads are told of a fired condition. -/
def rules : Rules ConditionPtr Access where
  admits h m := ∀ m', 0 < h m' → below m' m
  needs
    | .insertParent c p, h, _ => 0 < h c ∧ below c p
    | .broadcastIfFired c p, h, _ => Last below c h ∧ below c p
    | .eraseParent c _, h, _ | .readFired c, h, _ | .resetFired c, h, _ | .takeFired c, h, _ => 0 < h c
    | .setFired c, h, k => 0 < h c ∧ ∃ k', k = .signal c :: k' ∨ k = .broadcast c :: k'
    | .fireParents _ c, h, _ => Last below c h
    | .testFired c, h, _ | .testAgain c, h, _ => h = bump unlocked c
    | .timedOut _, _, _ => True
    | .waitAgain _, h, _ => h = unlocked

/-- Every condition is below its parents. -/
def Ordered (d : Conditions ι) : Prop := ∀ c p, p ∈ d.parentSet c → below c p

/-- Only parents above the condition are added. -/
def Call.Upward : Call → Prop
  | .addParent c (some p) => below c p
  | _ => True

end

end Threads.Condition

end SocketApi
