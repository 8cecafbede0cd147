import TiledStream.Json.Skipping
import TiledStream.Settings.Basic

/-! Settings files: a JSON object with a key for each setting, or a JSON list of settings in order.
Unknown keys are passed over; no setting stands twice. -/

namespace TiledStream

open Json (Token Problem)

inductive Setting where
  | manifestUrl
  | fetchThreads
  | decoderConcurrency
  | writeMilliseconds
  | degradeFactor
  deriving DecidableEq

def Setting.all : List Setting :=
  [.manifestUrl, .fetchThreads, .decoderConcurrency, .writeMilliseconds, .degradeFactor]

/-- The keys of a setting; the second one is found in older files. -/
def Setting.keys : Setting → List String
  | .manifestUrl => ["manifest_url"]
  | .fetchThreads => ["fetch_threads"]
  | .decoderConcurrency => ["decoder_concurrency", "DecodeCapacity"]
  | .writeMilliseconds => ["write_timeout_ms"]
  | .degradeFactor => ["predict_degrade_factor", "PredictFactor"]

def Setting.ofKey? (key : String) : Option Setting :=
  Setting.all.find? fun setting => setting.keys.contains key

namespace Given

def has (given : Given) : Setting → Bool
  | .manifestUrl => given.manifestUrl.isSome
  | .fetchThreads => given.fetchThreads.isSome
  | .decoderConcurrency => given.decoderConcurrency.isSome
  | .writeMilliseconds => given.writeMilliseconds.isSome
  | .degradeFactor => given.degradeFactor.isSome

def mistyped : Token → Problem
  | .brokenText problem _ => problem
  | .broken problem _ => problem
  | .text none => .malformed
  | .number numeral => if numeral.value?.isSome then .unsuitable else .malformed
  | .text (some _) | .word | .openList | .openObject => .unsuitable
  | .closeList | .closeObject | .comma | .colon | .stray => .malformed

def set (given : Given) (setting : Setting) (token : Token) : Except Problem Given :=
  let counted (update : Nat → Given) : Except Problem Given :=
    match token with
    | .number numeral =>
      match numeral.natural? with
      | some count => .ok (update count)
      | none => .error (mistyped token)
    | token => .error (mistyped token)
  match setting with
  | .manifestUrl =>
    match token with
    | .text (some url) => .ok { given with manifestUrl := some url }
    | token => .error (mistyped token)
  | .fetchThreads => counted fun count => { given with fetchThreads := some count }
  | .decoderConcurrency => counted fun count => { given with decoderConcurrency := some count }
  | .writeMilliseconds => counted fun count => { given with writeMilliseconds := some count }
  | .degradeFactor =>
    match token with
    | .number numeral =>
      match numeral.value? with
      | some factor => .ok { given with degradeFactor := some factor }
      | none => .error (mistyped token)
    | token => .error (mistyped token)

def readEntry (given : Given) (tokens : List Token) : Except Problem (Given × List Token) :=
  match tokens with
  | [] => .error .ended
  | .brokenText problem _ :: _ => .error problem
  | .text (some key) :: rest =>
    match Setting.ofKey? key with
    | none =>
      match rest with
      | [] => .error .ended
      | .colon :: rest =>
        match Json.skipValue [] rest with
        | .ok rest => .ok (given, rest)
        | .error problem => .error problem
      | _ => .error .malformed
    | some setting =>
      if given.has setting then .error .unsuitable
      else
        match rest with
        | [] | [.colon] => .error .ended
        | .colon :: value :: rest =>
          match given.set setting value with
          | .ok given => .ok (given, rest)
          | .error problem => .error problem
        | _ => .error .malformed
  | _ => .error .malformed

theorem readEntry_shorter {given found : Given} {tokens rest : List Token}
    (read : given.readEntry tokens = .ok (found, rest)) : rest.length < tokens.length := by
  unfold readEntry at read
  split at read
  · simp at read
  · simp at read
  · split at read
    · split at read
      · simp at read
      · split at read
        · rename_i skipped
          simp only [Except.ok.injEq, Prod.mk.injEq] at read
          have shorter := Json.skip_shorter.1 _ _ _ skipped
          simp only [← read.2, List.length_cons]
          omega
        · simp at read
      · simp at read
    · split at read
      · simp at read
      · split at read
        · simp at read
        · simp at read
        · split at read
          · simp only [Except.ok.injEq, Prod.mk.injEq] at read
            simp only [← read.2, List.length_cons]
            omega
          · simp at read
        · simp at read
  · simp at read

def readEntries (given : Given) (tokens : List Token) : Except Problem (Given × List Token) :=
  match _read : given.readEntry tokens with
  | .error problem => .error problem
  | .ok (_, []) => .error .ended
  | .ok (given, .closeObject :: rest) => .ok (given, rest)
  | .ok (given, .comma :: rest) => readEntries given rest
  | .ok _ => .error .malformed
  termination_by tokens.length
  decreasing_by
    have shorter := readEntry_shorter _read
    simp only [List.length_cons] at shorter
    omega

def readElements (given : Given) (settings : List Setting) (tokens : List Token) :
    Except Problem (Given × List Token) :=
  match settings, tokens with
  | _, [] => .error .ended
  | _, .closeList :: rest => .ok (given, rest)
  | setting :: settings, .comma :: tokens =>
    match tokens with
    | [] => .error .ended
    | value :: rest =>
      match given.set setting value with
      | .ok given => given.readElements settings rest
      | .error problem => .error problem
  | _, _ => .error .malformed

def readDocument (tokens : List Token) : Except Problem (Given × List Token) :=
  match tokens with
  | [] => .error .ended
  | .openList :: .closeList :: rest => .ok (nothing, rest)
  | .openList :: rest => nothing.readElements Setting.all (.comma :: rest)
  | .openObject :: .closeObject :: rest => .ok (nothing, rest)
  | .openObject :: rest => nothing.readEntries rest
  | token :: _ => .error (mistyped token)

def read (text : String) : Except Problem Given :=
  match readDocument (Json.tokens text.toList) with
  | .ok (given, []) => .ok given
  | .ok _ => .error .malformed
  | .error problem => .error problem

end Given

end TiledStream
