import TiledStream.Number.Binary64

/-! A moving average of download rates in bits per second. -/

namespace TiledStream

structure Bandwidth where
  weight : Float
  average : Option Float

namespace Bandwidth

def defaultWeight : Float := 0.25

def defaultEstimate : Float := 50000000.0

def leastSeconds : Float := 1e-6

def start (weight : Float) : Bandwidth := { weight, average := none }

def sample (bytes : Nat) (seconds : Float) : Float :=
  Number.floatOfNat bytes * 8.0 / (if leastSeconds < seconds then seconds else leastSeconds)

def record (bandwidth : Bandwidth) (bytes : Nat) (seconds : Float) : Bandwidth :=
  let fresh := sample bytes seconds
  { bandwidth with
    average := some (match bandwidth.average with
      | some average => bandwidth.weight * fresh + (1.0 - bandwidth.weight) * average
      | none => fresh) }

def estimate (bandwidth : Bandwidth) : Float := bandwidth.average.getD defaultEstimate

end Bandwidth

end TiledStream
