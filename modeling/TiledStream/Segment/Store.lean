import TiledStream.Manifest.Layout
import TiledStream.Text.Utf8

/-! Resources kept in memory and served by address. A failure hides the body at its address. -/

namespace TiledStream

structure Store where
  bodies : List (String × Bytes)
  failures : List (String × StreamError)
  /-- Every address asked for, the latest first. -/
  requests : List String
  deriving DecidableEq

namespace Store

def empty : Store := { bodies := [], failures := [], requests := [] }

def insert (store : Store) (url : String) (body : Bytes) : Store :=
  { store with bodies := (url, body) :: store.bodies }

def fail (store : Store) (url : String) (error : StreamError) : Store :=
  { store with failures := (url, error) :: store.failures }

def answer (store : Store) (url : String) : Except StreamError Bytes :=
  match store.failures.lookup url, store.bodies.lookup url with
  | some error, _ => .error error
  | none, some body => .ok body
  | none, none => .error (.badStatus url 404)

def request (store : Store) (url : String) : Store :=
  { store with requests := url :: store.requests }

def count (store : Store) (url : String) : Nat := store.requests.count url

end Store

def Manifest.ofAnswer (url : String) (answer : Except StreamError Bytes) :
    Except Failure Manifest :=
  match answer with
  | .error error => .error (.error error)
  | .ok body =>
    match Utf8.decode body with
    | .ok document => Manifest.parse document
    | .error malformed =>
      .error (.error (.badResponse (url ++ ": manifest is not UTF-8: " ++ malformed.message)))

end TiledStream
