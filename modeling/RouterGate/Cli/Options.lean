import RouterGate.Cli.Misuse
import RouterGate.Text.Cut
import RouterGate.Text.Similarity
/-!
Reading a command line. Arguments are read from left to right, and the first thing that is wrong
ends the reading. A value that stands apart from its flag is settled only when the next flag
comes, or in the end.
-/
namespace RouterGate.Cli

structure Options where
  addr : Option String
  config : String
  debug : Bool
  logJson : Bool
  logFile : Option String
  deriving DecidableEq, Repr

inductive Stop where
  | help
  | version
  | misuse (cause : Misuse)
  deriving DecidableEq, Repr

/-- The flags that are settled, with their values, and one that is not, which may still lack its
value. -/
structure Progress where
  settled : List (Flag × String)
  pending : Option (Flag × Option String)
  deriving DecidableEq, Repr

/-- Whether arguments are flags, or all come after two dashes. -/
inductive Stage where
  | flags
  | rest
  deriving DecidableEq, Repr

namespace Progress

def start : Progress := ⟨[], none⟩

def value? (progress : Progress) (flag : Flag) : Option String :=
  progress.settled.lookup flag

def used (progress : Progress) : List Flag :=
  progress.settled.map (·.1)

def give (progress : Progress) (flag : Flag) (value : String) : Except Stop Progress :=
  if (progress.value? flag).isSome then .error (.misuse (.repeated flag))
  else if flag.takesPath && value.isEmpty then .error (.misuse (.missingValue flag))
  else .ok { progress with settled := progress.settled ++ [(flag, value)] }

def settle (progress : Progress) : Except Stop Progress :=
  match progress.pending with
  | none => .ok progress
  | some (flag, none) => .error (.misuse (.missingValue flag))
  | some (flag, some value) => ({ progress with pending := none } : Progress).give flag value

def turnOn (progress : Progress) (flag : Flag) : Except Stop Progress := do
  let settled ← progress.settle
  match flag with
  | .help => .error .help
  | .version => .error .version
  | flag => settled.give flag ""

def unknownWord (progress : Progress) (word : List Char) : Stop :=
  let meant := Text.Similarity.closest? word (Flag.all.map (·.word.toList))
  .misuse (.unexpected ("--" ++ String.ofList word)
    (meant.bind fun closest => Flag.ofWord? (String.ofList closest)) progress.used)

def await (progress : Progress) (flag : Flag) : Except Stop Progress := do
  let settled ← progress.settle
  return { settled with pending := some (flag, none) }

def attach (progress : Progress) (flag : Flag) (value : String) : Except Stop Progress := do
  let settled ← progress.settle
  settled.give flag value

def readWord (progress : Progress) (text : List Char) : Except Stop Progress :=
  let (word, attached) :=
    match Text.cut? '=' text with
    | none => (text, none)
    | some (word, value) => (word, some (String.ofList value))
  match Flag.ofWord? (String.ofList word), attached with
  | none, _ => .error (progress.unknownWord word)
  | some flag, none => if flag.takesValue then progress.await flag else progress.turnOn flag
  | some flag, some value =>
      if flag.takesValue then progress.attach flag value
      else .error (.misuse (.unexpectedValue value flag progress.used))

def readLetters (progress : Progress) : List Char → Except Stop Progress
  | [] => .ok progress
  | letter :: rest =>
      match Flag.ofLetter? letter with
      | none => .error (.misuse (.unexpected ("-" ++ letter.toString) none []))
      | some flag => do
          let next ← progress.turnOn flag
          next.readLetters rest

def readPlain (progress : Progress) (argument : String) : Except Stop Progress :=
  match progress.pending with
  | some (flag, none) => .ok { progress with pending := some (flag, some argument) }
  | _ => .error (.misuse (.unexpected argument none []))

def read (progress : Progress) (argument : String) : Except Stop Progress :=
  match argument.toList with
  | '-' :: '-' :: word => progress.readWord word
  | '-' :: letter :: letters => progress.readLetters (letter :: letters)
  | _ => progress.readPlain argument

def readAll (progress : Progress) : Stage → List String → Except Stop Progress
  | _, [] => progress.settle
  | .rest, argument :: _ => .error (.misuse (.unexpected argument none []))
  | .flags, argument :: arguments =>
      if argument = "--" then progress.readAll .rest arguments
      else do
        let next ← progress.read argument
        next.readAll .flags arguments

def readVariable (environment : List (String × String)) (progress : Progress) (flag : Flag) :
    Except Stop Progress :=
  match progress.value? flag, flag.environmentName?.bind fun name => environment.lookup name with
  | none, some value => progress.give flag value
  | _, _ => .ok progress

end Progress

def Options.read (arguments : List String) (environment : List (String × String)) :
    Except Stop Options := do
  let given ← Progress.start.readAll .flags arguments
  let all ← Flag.all.foldlM (Progress.readVariable environment) given
  return {
    addr := all.value? .addr
    config := (all.value? .config).getD Flag.usualConfig
    debug := (all.value? .debug).isSome
    logJson := (all.value? .logJson).isSome
    logFile := all.value? .logFile }

end RouterGate.Cli
