import TiledStream.Json.Token

/-! Passing over a JSON value of any shape and depth, with the containers that enclose the place
kept in a list. -/

namespace TiledStream.Json

inductive Container where
  | list
  | object
  deriving DecidableEq

mutual

def skipValue (enclosing : List Container) : List Token → Except Problem (List Token)
  | [] => .error .ended
  | .openList :: .closeList :: rest => skipAfter enclosing rest
  | .openList :: rest => skipValue (.list :: enclosing) rest
  | .openObject :: .closeObject :: rest => skipAfter enclosing rest
  | .openObject :: rest => skipKey (.object :: enclosing) rest
  | .word :: rest => skipAfter enclosing rest
  | .number _ :: rest => skipAfter enclosing rest
  | .text _ :: rest => skipAfter enclosing rest
  | .brokenText _ passing :: _ => .error passing
  | .broken _ passing :: _ => .error passing
  | _ => .error .malformed

def skipAfter (enclosing : List Container) (tokens : List Token) : Except Problem (List Token) :=
  match enclosing, tokens with
  | [], tokens => .ok tokens
  | _ :: _, [] => .error .ended
  | .list :: outer, .comma :: rest => skipValue (.list :: outer) rest
  | .list :: outer, .closeList :: rest => skipAfter outer rest
  | .object :: outer, .comma :: rest => skipKey (.object :: outer) rest
  | .object :: outer, .closeObject :: rest => skipAfter outer rest
  | _, _ => .error .malformed

def skipKey (enclosing : List Container) : List Token → Except Problem (List Token)
  | [] => .error .ended
  | [.text _] => .error .ended
  | .text _ :: .colon :: rest => skipValue enclosing rest
  | .brokenText _ passing :: _ => .error passing
  | _ => .error .malformed

end

theorem skip_shorter :
    (∀ enclosing tokens rest, skipValue enclosing tokens = .ok rest →
      rest.length < tokens.length) ∧
    (∀ enclosing tokens rest, skipKey enclosing tokens = .ok rest →
      rest.length < tokens.length) ∧
    (∀ enclosing tokens rest, skipAfter enclosing tokens = .ok rest →
      rest.length ≤ tokens.length) := by
  apply skipValue.mutual_induct
  all_goals intros
  all_goals simp_all [skipValue, skipKey, skipAfter]
  all_goals omega

end TiledStream.Json
