import TiledStream.Settings.CommandLine

/-! The program: shows the session settings that a command line selects. -/

namespace TiledStream

def helpText : String :=
  "Shows the settings of a session that streams a tiled presentation.\n\n" ++
    "  -m, --manifest-url URL\n" ++
    "  -c, --config FILE\n" ++
    "      --fetch-threads COUNT\n" ++
    "      --decoder-concurrency COUNT\n" ++
    "      --write-timeout-ms COUNT\n" ++
    "      --predict-degrade-factor NUMBER\n" ++
    "  -q, --quality viewport|lowest|highest\n" ++
    "  -f, --fps COUNT\n" ++
    "  -d, --duration SECONDS\n" ++
    "  -l, --log-level trace|debug|info|warn|error\n" ++
    "  -h, --help\n" ++
    "  -V, --version"

def versionText : String := "tiled-stream 0.1.0"

def fileText? (path : String) : IO (Option String) := do
  try
    return some (← IO.FS.readFile path)
  catch _ => return none

def showSettings (line : CommandLine) (settings : Settings) : IO Unit := do
  let threads := match settings.fetchThreads with
    | some count => toString (max count 1)
    | none => "one for each core"
  IO.println ("manifest url: " ++ settings.manifestUrl)
  IO.println ("fetch threads: " ++ threads)
  IO.println ("decoder concurrency: " ++ toString settings.decoderConcurrency)
  IO.println ("write timeout: " ++ String.ofList settings.writeTimeout.write)
  IO.println ("degrade factor: " ++ toString settings.degradeFactor)
  IO.println ("quality: " ++ line.pickingOrDefault.name)
  IO.println ("frames per second: " ++ toString line.frameRateOrDefault)
  IO.println ("log level: " ++ line.logLevelOrDefault.name)

def run (arguments : List String) : IO UInt32 := do
  match CommandLine.read arguments with
  | .error .help =>
    IO.println helpText
    return 0
  | .error .version =>
    IO.println versionText
    return 0
  | .error usage =>
    IO.eprintln ("error: " ++ usage.message)
    return 2
  | .ok line =>
    let file ← match line.config with
      | some path => fileText? path
      | none => pure none
    match line.settings fun _ => file with
    | .ok settings =>
      showSettings line settings
      return 0
    | .error error =>
      IO.eprintln ("error: " ++ error.message)
      return 1

end TiledStream

def main (arguments : List String) : IO UInt32 := TiledStream.run arguments
