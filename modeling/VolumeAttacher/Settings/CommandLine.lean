import VolumeAttacher.Net.Endpoint
import VolumeAttacher.Number.Single
import VolumeAttacher.Settings.Attaching
import VolumeAttacher.Settings.LeaderElection
import VolumeAttacher.Time.Spelled

/-!
# The command line

The options of the program, their values, and the reading of arguments. Arguments are read from left
to right. The value of an option follows an equals sign or is the next argument; in the latter case
it is looked at only when the next option comes, or at the end. Every option may be given once.
-/

namespace VolumeAttacher

/-- How log messages are written. -/
inductive LogFormat where
  | text
  | json
deriving DecidableEq, Repr

/-- All settings. -/
structure CommandLine where
  attaching : AttachingSettings := {}
  leaderElection : LeaderElectionSettings := {}
  kubeconfig : Option String := none
  httpEndpoint : Option Endpoint := none
  metricsPath : String := "/metrics"
  /-- How many requests are made to the cluster in a second. -/
  kubeApiQps : Single := .finite false ⟨5 * 0x200000, -21⟩
  kubeApiBurst : Nat := 10
  logFormat : LogFormat := .text
deriving DecidableEq, Repr

def healthPath : String := "/healthz"

namespace CommandLine

/-- What is wrong with the settings first, if anything. -/
def fault? (settings : CommandLine) : Option SettingsFault :=
  settings.attaching.fault? <|> settings.leaderElection.fault? <|>
    if !settings.kubeApiQps.isPositive then some (.rate settings.kubeApiQps.text)
    else if settings.kubeApiBurst = 0 then some .noBurst
    else if settings.metricsPath.toList.head? ≠ some '/' ∨ settings.metricsPath = healthPath then
      some (.metricsPath settings.metricsPath)
    else none

def validate (settings : CommandLine) : Except Failure Unit :=
  match settings.fault? with
  | some fault => .error (.settings fault)
  | none => .ok ()

end CommandLine

/-- An option of the command line. -/
inductive CommandOption where
  | csiAddress
  | workerThreads
  | timeout
  | resync
  | reconcileSync
  /-- The first delay between attempts. -/
  | retryIntervalStart
  | retryIntervalMax
  | maxEntries
  /-- The greatest length of a logged message. -/
  | maxLogLength
  /-- The file system for volumes that name none. -/
  | defaultFsType
  | leaderElection
  | leaseNamespace
  | leaseDuration
  /-- How long after a renewal the lease is renewed. -/
  | renewDeadline
  /-- How long to wait before setting up the lease again. -/
  | retryPeriod
  | kubeconfig
  | httpEndpoint
  | metricsPath
  | kubeApiQps
  | kubeApiBurst
  | logFormat
  | help
  | version
deriving DecidableEq, Repr

/-- Why the arguments cannot be used. -/
inductive UsageError where
  | help
  | version
  /-- A word is no option; it is empty if the argument is. -/
  | unknown (word : String)
  /-- An option has no value, or one that is not among those allowed. -/
  | missingValue (option : CommandOption)
  | malformedValue (option : CommandOption)
  | repeated (option : CommandOption)
  /-- An option that takes no value is given one. -/
  | superfluousValue (option : CommandOption)
deriving DecidableEq, Repr

namespace CommandOption

def all : List CommandOption :=
  [csiAddress, workerThreads, timeout, resync, reconcileSync, retryIntervalStart,
    retryIntervalMax, maxEntries, maxLogLength, defaultFsType, leaderElection, leaseNamespace,
    leaseDuration, renewDeadline, retryPeriod, kubeconfig, httpEndpoint, metricsPath, kubeApiQps,
    kubeApiBurst, logFormat, help, version]

/-- The name of an option, without the two hyphens in front of it. -/
def name : CommandOption → String
  | csiAddress => "csi-address"
  | workerThreads => "worker-threads"
  | timeout => "timeout"
  | resync => "resync"
  | reconcileSync => "reconcile-sync"
  | retryIntervalStart => "retry-interval-start"
  | retryIntervalMax => "retry-interval-max"
  | maxEntries => "max-entries"
  | maxLogLength => "max-grpc-log-length"
  | defaultFsType => "default-fstype"
  | leaderElection => "leader-election"
  | leaseNamespace => "leader-election-namespace"
  | leaseDuration => "leader-election-lease-duration"
  | renewDeadline => "leader-election-renew-deadline"
  | retryPeriod => "leader-election-retry-period"
  | kubeconfig => "kubeconfig"
  | httpEndpoint => "http-endpoint"
  | metricsPath => "metrics-path"
  | kubeApiQps => "kube-api-qps"
  | kubeApiBurst => "kube-api-burst"
  | logFormat => "log-format"
  | help => "help"
  | version => "version"

def flag (option : CommandOption) : String :=
  "--" ++ option.name

/-- Whether the settings for attaching hold the value of an option. Such an option has a second
name, so that several programs can share one command line. -/
def isAttaching : CommandOption → Bool
  | csiAddress | workerThreads | timeout | resync | reconcileSync | retryIntervalStart
  | retryIntervalMax | maxEntries | maxLogLength | defaultFsType => true
  | _ => false

def names (option : CommandOption) : List String :=
  if option.isAttaching then [option.name, "attacher-" ++ option.name] else [option.name]

def ofName? (name : String) : Option CommandOption :=
  all.find? fun option => option.names.contains name

def ofLetter? : Char → Option CommandOption
  | 'h' => some help
  | 'V' => some version
  | _ => none

def takesValue : CommandOption → Bool
  | leaderElection | help | version => false
  | _ => true

/-- Whether the value of an option may be a negative number that is an argument of its own. -/
def takesNegative : CommandOption → Bool
  | maxLogLength => true
  | _ => false

end CommandOption

namespace CommandLine

def withAttaching (settings : CommandLine) (change : AttachingSettings → AttachingSettings) :
    CommandLine :=
  { settings with attaching := change settings.attaching }

def withLeaderElection (settings : CommandLine)
    (change : LeaderElectionSettings → LeaderElectionSettings) : CommandLine :=
  { settings with leaderElection := change settings.leaderElection }

/-- Reads the value of an option and stores it. Options without a value keep the settings. -/
def store? (settings : CommandLine) (option : CommandOption) (value : String) :
    Option CommandLine :=
  match option with
  | .csiAddress => some (settings.withAttaching ({ · with csiAddress := value }))
  | .workerThreads => (Numeral.integerWithin? 0 0xFFFFFFFFFFFFFFFF value).bind fun workers =>
      if value.toList.head? = some '-' then none
      else some (settings.withAttaching ({ · with workers := workers.toNat }))
  | .timeout => (Duration.ofSpelled? value).map fun timeout =>
      settings.withAttaching ({ · with timeout })
  | .resync => (Duration.ofSpelled? value).map fun resync =>
      settings.withAttaching ({ · with resync })
  | .reconcileSync => (Duration.ofSpelled? value).map fun reconcile =>
      settings.withAttaching ({ · with reconcile })
  | .retryIntervalStart => (Duration.ofSpelled? value).map fun retryStart =>
      settings.withAttaching ({ · with retryStart })
  | .retryIntervalMax => (Duration.ofSpelled? value).map fun retryMax =>
      settings.withAttaching ({ · with retryMax })
  | .maxEntries => (Numeral.integerWithin? (-0x80000000) 0x7FFFFFFF value).map fun maxEntries =>
      settings.withAttaching ({ · with maxEntries })
  | .maxLogLength => (Numeral.integerWithin? (-0x8000000000000000) 0x7FFFFFFFFFFFFFFF value).map
    fun maxLogLength => settings.withAttaching ({ · with maxLogLength })
  | .defaultFsType => some (settings.withAttaching ({ · with defaultFileSystem := value }))
  | .leaderElection => some (settings.withLeaderElection ({ · with enabled := true }))
  | .leaseNamespace => some (settings.withLeaderElection ({ · with space := some value }))
  | .leaseDuration => (Duration.ofSpelled? value).map fun leaseDuration =>
      settings.withLeaderElection ({ · with leaseDuration })
  | .renewDeadline => (Duration.ofSpelled? value).map fun renewDeadline =>
      settings.withLeaderElection ({ · with renewDeadline })
  | .retryPeriod => (Duration.ofSpelled? value).map fun retryPeriod =>
      settings.withLeaderElection ({ · with retryPeriod })
  | .kubeconfig => some { settings with kubeconfig := some value }
  | .httpEndpoint => (Endpoint.ofText? value).map fun endpoint =>
      { settings with httpEndpoint := some endpoint }
  | .metricsPath => some { settings with metricsPath := value }
  | .kubeApiQps => (Single.ofText? value).map fun kubeApiQps => { settings with kubeApiQps }
  | .kubeApiBurst => (Numeral.integerWithin? 0 0xFFFFFFFF value).map fun burst =>
      { settings with kubeApiBurst := burst.toNat }
  | .logFormat =>
      if value = "json" then some { settings with logFormat := .json }
      else if value = "text" then some { settings with logFormat := .text }
      else none
  | .help | .version => some settings

/-- Whether a value is refused before it is read: no empty file name is taken, and a format has to
be one of those that there are. -/
def isRefused (option : CommandOption) (value : String) : Bool :=
  match option with
  | .kubeconfig => value.isEmpty
  | .logFormat => value ≠ "json" && value ≠ "text"
  | _ => false

end CommandLine

/-- How far the arguments have been read. -/
structure ArgumentState where
  settings : CommandLine := {}
  given : List CommandOption := []
  /-- An option whose value may still come, and its value if it has come. -/
  pending : Option (CommandOption × Option String) := none

namespace ArgumentState

/-- Takes an option with its value; options without a value have an empty one. -/
def take (state : ArgumentState) (option : CommandOption) (value : String) :
    Except UsageError ArgumentState :=
  if state.given.contains option then .error (.repeated option)
  else if CommandLine.isRefused option value then .error (.missingValue option)
  else
    match state.settings.store? option value with
    | some settings => .ok { state with settings, given := option :: state.given }
    | none => .error (.malformedValue option)

def settle (state : ArgumentState) : Except UsageError ArgumentState :=
  match state.pending with
  | none => .ok state
  | some (option, none) => .error (.missingValue option)
  | some (option, some value) => { state with pending := none }.take option value

/-- Takes an option that has no value. -/
def takeSwitch (state : ArgumentState) (option : CommandOption) :
    Except UsageError ArgumentState := do
  let state ← state.settle
  match option with
  | .help => .error .help
  | .version => .error .version
  | option => state.take option ""

/-- Splits an argument behind two hyphens into the name of an option and the value given to it. -/
def splitLong (argument : List Char) : String × Option String :=
  match argument.span (· ≠ '=') with
  | (name, _ :: value) => (String.ofList name, some (String.ofList value))
  | (name, []) => (String.ofList name, none)

def readLong (state : ArgumentState) (argument : List Char) :
    Except UsageError ArgumentState := do
  let (name, value) := splitLong argument
  match CommandOption.ofName? name, value with
  | none, _ => throw (.unknown ("--" ++ name))
  | some option, some value =>
      if option.takesValue then (← state.settle).take option value
      else throw (.superfluousValue option)
  | some option, none =>
      if option.takesValue then return { ← state.settle with pending := some (option, none) }
      else state.takeSwitch option

/-- Reads an argument behind one hyphen, of which only the first letter matters: it is no option, or
one that ends the reading. -/
def readShort (state : ArgumentState) (letter : Char) : Except UsageError ArgumentState :=
  match CommandOption.ofLetter? letter with
  | some option => state.takeSwitch option
  | none => .error (.unknown (String.ofList ['-', letter]))

/-- Whether the text behind a hyphen looks like a number: digits, with at most one point, not at the
start, and at most one exponent, neither at the start nor at the end. -/
def looksNumeric (text : List Char) : Bool :=
  let (whole, rest) := text.span fun c => c ≠ 'e' && c ≠ 'E'
  let isMantissa : Bool :=
    whole.all (fun c => c.isDigit || c = '.') && (whole.filter (· = '.')).length ≤ 1
      && whole.head? ≠ some '.'
  match rest with
  | [] => isMantissa
  | _ :: exponent => isMantissa && !whole.isEmpty && !exponent.isEmpty && exponent.all Char.isDigit

def awaitsValue (state : ArgumentState) : Option CommandOption :=
  match state.pending with
  | some (option, none) => some option
  | _ => none

/-- Reads an argument that is no option: the value that an option waits for. -/
def readWord (state : ArgumentState) (word : String) : Except UsageError ArgumentState :=
  match state.awaitsValue with
  | some option => .ok { state with pending := some (option, some word) }
  | none => .error (.unknown word)

def read (state : ArgumentState) (argument : String) : Except UsageError ArgumentState :=
  match argument.toList with
  | '-' :: '-' :: long => state.readLong long
  | '-' :: letter :: rest =>
      if state.awaitsValue.any CommandOption.takesNegative && looksNumeric (letter :: rest) then
        state.readWord argument
      else state.readShort letter
  | _ => state.readWord argument

/-- Reads arguments. Two hyphens alone end the options, and nothing may follow them. -/
def readAll (state : ArgumentState) : List String → Except UsageError ArgumentState
  | [] => state.settle
  | "--" :: [] => state.settle
  | "--" :: word :: _ => .error (.unknown word)
  | argument :: arguments => do (← state.read argument).readAll arguments

end ArgumentState

def CommandLine.ofArguments (arguments : List String) : Except UsageError CommandLine :=
  (({} : ArgumentState).readAll arguments).map ArgumentState.settings

end VolumeAttacher
