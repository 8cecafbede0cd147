import TiledStream.Prelude

/-! Faults stop a computation outright: a broken promise of the caller or a value beyond its
machine word. Errors of the streaming domain are values of their own and never faults. -/

namespace TiledStream

inductive Fault where
  | overflow
  | outOfRange
  | zeroDivision
  | outsideGrid (x y columns rows : Nat)
  | zeroCapacity
  | collaborator
  deriving DecidableEq

def Fault.message : Fault → String
  | .overflow => "value outside its word"
  | .outOfRange => "position outside the list"
  | .zeroDivision => "division by zero"
  | .outsideGrid x y columns rows => s!"tile ({x}, {y}) outside grid {columns}x{rows}"
  | .zeroCapacity => "queue capacity must be positive"
  | .collaborator => "a collaborator gave up"

def fitWord (bits value : Nat) : Except Fault Nat :=
  if value < 2 ^ bits then .ok value else .error .overflow

theorem fitWord_eq_ok_iff (bits value result : Nat) :
    fitWord bits value = .ok result ↔ value < 2 ^ bits ∧ result = value := by
  by_cases small : value < 2 ^ bits
  · simp [fitWord, small, eq_comm]
  · simp [fitWord, small]

theorem fitWord_bind {Result : Type} (bits value : Nat) (following : Nat → Except Fault Result) :
    (fitWord bits value >>= following) =
      if value < 2 ^ bits then following value else .error .overflow := by
  unfold fitWord
  split
  · rfl
  · rfl

def elementAt {α : Type} (items : List α) (index : Nat) : Except Fault α :=
  match items[index]? with
  | some item => .ok item
  | none => .error .outOfRange

end TiledStream
