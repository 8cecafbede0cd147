import TiledStream.Duration

/-! Settings of a session, and what a source of settings says about them. -/

namespace TiledStream

structure Settings where
  manifestUrl : String
  /-- Threads that fetch segments; without a number there is one for each core. -/
  fetchThreads : Option Nat
  /-- Threads of each decoder; zero spreads the cores over the tiles. -/
  decoderConcurrency : Nat
  /-- How long a tile waits on its full queue before it looks for a cancellation. -/
  writeMilliseconds : Nat
  /-- Loss of quality for each tile of distance from the one in view. -/
  degradeFactor : Float

structure Given where
  manifestUrl : Option String
  fetchThreads : Option Nat
  decoderConcurrency : Option Nat
  writeMilliseconds : Option Nat
  degradeFactor : Option Float

def Given.nothing : Given :=
  { manifestUrl := none, fetchThreads := none, decoderConcurrency := none,
    writeMilliseconds := none, degradeFactor := none }

namespace Settings

def standard : Settings :=
  { manifestUrl := "", fetchThreads := none, decoderConcurrency := 0, writeMilliseconds := 80,
    degradeFactor := 1.0 }

def ofUrl (url : String) : Settings := { standard with manifestUrl := url }

def override (settings : Settings) (given : Given) : Settings :=
  { manifestUrl := given.manifestUrl.getD settings.manifestUrl
    fetchThreads := given.fetchThreads <|> settings.fetchThreads
    decoderConcurrency := given.decoderConcurrency.getD settings.decoderConcurrency
    writeMilliseconds := given.writeMilliseconds.getD settings.writeMilliseconds
    degradeFactor := given.degradeFactor.getD settings.degradeFactor }

def writeTimeout (settings : Settings) : Duration :=
  Duration.ofMilliseconds (max settings.writeMilliseconds 1)

def threads (settings : Settings) (cores : Nat) : Nat := max (settings.fetchThreads.getD cores) 1

def concurrency (settings : Settings) (cores tiles : Nat) : Nat :=
  if settings.decoderConcurrency = 0 then max (cores / max tiles 1) 1
  else settings.decoderConcurrency

end Settings

end TiledStream
