import TiledStream.Settings.File

/-! The command line: flags with values, and the session settings that they select together with a
settings file. An argument that fits nothing is found before the value of the flag ahead of it is
looked at. -/

namespace TiledStream

inductive Flag where
  | manifestUrl
  | config
  | fetchThreads
  | decoderConcurrency
  | writeMilliseconds
  | degradeFactor
  | quality
  | frameRate
  | duration
  | logLevel
  | help
  | version
  deriving DecidableEq

namespace Flag

def all : List Flag :=
  [.manifestUrl, .config, .fetchThreads, .decoderConcurrency, .writeMilliseconds, .degradeFactor,
    .quality, .frameRate, .duration, .logLevel, .help, .version]

def long : Flag → String
  | .manifestUrl => "manifest-url"
  | .config => "config"
  | .fetchThreads => "fetch-threads"
  | .decoderConcurrency => "decoder-concurrency"
  | .writeMilliseconds => "write-timeout-ms"
  | .degradeFactor => "predict-degrade-factor"
  | .quality => "quality"
  | .frameRate => "fps"
  | .duration => "duration"
  | .logLevel => "log-level"
  | .help => "help"
  | .version => "version"

def short? : Flag → Option Char
  | .manifestUrl => some 'm'
  | .config => some 'c'
  | .quality => some 'q'
  | .frameRate => some 'f'
  | .duration => some 'd'
  | .logLevel => some 'l'
  | .help => some 'h'
  | .version => some 'V'
  | _ => none

def ofLong? (name : List Char) : Option Flag := all.find? fun flag => flag.long.toList == name

def ofShort? (c : Char) : Option Flag := all.find? fun flag => flag.short? == some c

end Flag

inductive Picking where
  | viewport
  | lowest
  | highest
  deriving DecidableEq

def Picking.name : Picking → String
  | .viewport => "viewport"
  | .lowest => "lowest"
  | .highest => "highest"

def Picking.ofName? (name : String) : Option Picking :=
  [Picking.viewport, .lowest, .highest].find? fun picking => picking.name == name

inductive LogLevel where
  | trace
  | debug
  | info
  | warn
  | error
  deriving DecidableEq

def LogLevel.name : LogLevel → String
  | .trace => "trace"
  | .debug => "debug"
  | .info => "info"
  | .warn => "warn"
  | .error => "error"

def LogLevel.ofName? (name : String) : Option LogLevel :=
  [LogLevel.trace, .debug, .info, .warn, .error].find? fun level => level.name == name

/-- Why a command line is not followed: a mistake, or a question that ends the reading. -/
inductive Usage where
  | unknownArgument
  | missingValue
  | unknownChoice
  | badNumber
  | repeated
  | surplusValue
  | help
  | version
  deriving DecidableEq

def Usage.message : Usage → String
  | .unknownArgument => "unexpected argument"
  | .missingValue => "a flag lacks its value"
  | .unknownChoice => "a flag does not take this value"
  | .badNumber => "a flag needs a number within its bounds"
  | .repeated => "a flag stands twice"
  | .surplusValue => "a flag takes no value"
  | .help => "help was asked for"
  | .version => "the version was asked for"

structure CommandLine where
  given : Given
  config : Option String
  picking : Option Picking
  frameRate : Option Nat
  duration : Option Nat
  logLevel : Option LogLevel

/-- A flag and its value, or nothing where a value should have stood. -/
structure Occurrence where
  flag : Flag
  value : Option String
  deriving DecidableEq

inductive Argument where
  /-- Two dashes, after which nothing is a flag. -/
  | divider
  | long (name : List Char) (value : Option String)
  /-- What follows the letter is its value, which an equals sign may introduce. -/
  | short (letter : Char) (value : Option String)
  | plain (text : String)
  deriving DecidableEq

def Argument.ofText (text : String) : Argument :=
  match text.toList with
  | ['-', '-'] => .divider
  | '-' :: '-' :: rest =>
    match rest.dropWhile (· != '=') with
    | _ :: value => .long (rest.takeWhile (· != '=')) (some (String.ofList value))
    | [] => .long rest none
  | ['-', letter] => .short letter none
  | '-' :: letter :: '=' :: value => .short letter (some (String.ofList value))
  | '-' :: letter :: value => .short letter (some (String.ofList value))
  | _ => .plain text

namespace CommandLine

def empty : CommandLine :=
  { given := .nothing, config := none, picking := none, frameRate := none, duration := none,
    logLevel := none }

/-- The flags in order, and why reading stops before the end. The flag that waits may still find its
value; an unknown argument takes it along, unread. -/
def occurrences (waiting : Option Occurrence) : List String → List Occurrence × Option Usage
  | [] => (waiting.toList, none)
  | text :: rest =>
    let found (flag : Flag) (value : Option String) : List Occurrence × Option Usage :=
      match flag with
      | .help => (waiting.toList, some .help)
      | .version => (waiting.toList, some .version)
      | flag =>
        match value with
        | none => occurrences (some { flag, value := none }) rest |>.map (waiting.toList ++ ·) id
        | some value =>
          occurrences none rest |>.map (waiting.toList ++ { flag, value := some value } :: ·) id
    match Argument.ofText text with
    | .divider => if rest.isEmpty then (waiting.toList, none) else ([], some .unknownArgument)
    | .long name value =>
      match Flag.ofLong? name with
      | none => ([], some .unknownArgument)
      | some flag =>
        if (flag = .help ∨ flag = .version) ∧ value.isSome then ([], some .surplusValue)
        else found flag value
    | .short letter value =>
      match Flag.ofShort? letter with
      | none => ([], some .unknownArgument)
      | some flag => found flag value
    | .plain text =>
      match waiting with
      | some { flag, value := none } => occurrences (some { flag, value := some text }) rest
      | _ => ([], some .unknownArgument)

def has (line : CommandLine) : Flag → Bool
  | .manifestUrl => line.given.manifestUrl.isSome
  | .config => line.config.isSome
  | .fetchThreads => line.given.fetchThreads.isSome
  | .decoderConcurrency => line.given.decoderConcurrency.isSome
  | .writeMilliseconds => line.given.writeMilliseconds.isSome
  | .degradeFactor => line.given.degradeFactor.isSome
  | .quality => line.picking.isSome
  | .frameRate => line.frameRate.isSome
  | .duration => line.duration.isSome
  | .logLevel => line.logLevel.isSome
  | .help | .version => false

/-- A number of frames is read with either sign, though none is below zero. -/
def readFrameRate? (text : List Char) : Option Nat :=
  (Number.readInteger? text).bind fun number =>
    if 0 ≤ number ∧ number < 2 ^ 32 then some number.toNat else none

def set (line : CommandLine) (flag : Flag) (value : String) : Except Usage CommandLine :=
  let orElse (problem : Usage) (update : Option CommandLine) : Except Usage CommandLine :=
    match update with
    | some line => .ok line
    | none => .error problem
  let count := Text.readUnsigned? 64 value.toList
  let given := line.given
  match flag with
  | .manifestUrl => .ok { line with given := { given with manifestUrl := some value } }
  | .config =>
    if value.isEmpty then .error .unknownChoice else .ok { line with config := some value }
  | .fetchThreads => orElse .badNumber (count.map fun count =>
      { line with given := { given with fetchThreads := some count } })
  | .decoderConcurrency => orElse .badNumber (count.map fun count =>
      { line with given := { given with decoderConcurrency := some count } })
  | .writeMilliseconds => orElse .badNumber (count.map fun count =>
      { line with given := { given with writeMilliseconds := some count } })
  | .degradeFactor => orElse .badNumber ((Number.readFloat? value.toList).map fun factor =>
      { line with given := { given with degradeFactor := some factor } })
  | .quality => orElse .unknownChoice ((Picking.ofName? value).map fun picking =>
      { line with picking := some picking })
  | .frameRate => orElse .badNumber ((readFrameRate? value.toList).map fun rate =>
      { line with frameRate := some rate })
  | .duration => orElse .badNumber (count.map fun count => { line with duration := some count })
  | .logLevel => orElse .unknownChoice ((LogLevel.ofName? value).map fun level =>
      { line with logLevel := some level })
  | .help => .error .help
  | .version => .error .version

def store (line : CommandLine) (occurrence : Occurrence) : Except Usage CommandLine :=
  match occurrence.value with
  | none => .error .missingValue
  | some value =>
    if line.has occurrence.flag then .error .repeated else line.set occurrence.flag value

def read (arguments : List String) : Except Usage CommandLine :=
  let (found, stop) := occurrences none arguments
  match found.foldlM store empty, stop with
  | .ok line, none => .ok line
  | .ok _, some usage => .error usage
  | .error usage, _ => .error usage

def defaultUrl : String := "http://localhost:3001/dash/tiled.mpd"

def url (line : CommandLine) : String := line.given.manifestUrl.getD defaultUrl

def pickingOrDefault (line : CommandLine) : Picking := line.picking.getD .viewport

def frameRateOrDefault (line : CommandLine) : Nat := line.frameRate.getD 30

def logLevelOrDefault (line : CommandLine) : LogLevel := line.logLevel.getD .info

/-- The settings of a file, overlaid with the flags. The address of the file gives way to any but
the default one. -/
def overlay (line : CommandLine) (file : Given) : Settings :=
  let settings := (Settings.standard.override file).override line.given
  let stored := file.manifestUrl.getD ""
  { settings with
    manifestUrl := if stored = "" ∨ line.url ≠ defaultUrl then line.url else stored }

end CommandLine

inductive SettingsError where
  | unreadable
  | text (problem : Json.Problem)
  deriving DecidableEq

def SettingsError.message : SettingsError → String
  | .unreadable => "cannot read config file"
  | .text .ended => "invalid config: the text ends early"
  | .text .malformed => "invalid config: the text is no JSON"
  | .text .unsuitable => "invalid config: a value of the wrong kind, or a setting given twice"

def CommandLine.settings (line : CommandLine) (readFile : String → Option String) :
    Except SettingsError Settings :=
  match line.config with
  | none => .ok (line.overlay .nothing)
  | some path =>
    match readFile path with
    | none => .error .unreadable
    | some text =>
      match Given.read text with
      | .ok given => .ok (line.overlay given)
      | .error problem => .error (.text problem)

end TiledStream
