import RouterGate.Cli.Flag
/-!
What can be wrong with a command line, and the texts that help.
-/
namespace RouterGate.Cli

inductive Misuse where
  | unexpected (argument : String) (meant : Option Flag) (used : List Flag)
  | unexpectedValue (value : String) (flag : Flag) (used : List Flag)
  | missingValue (flag : Flag)
  | repeated (flag : Flag)
  deriving DecidableEq, Repr

def usage (used : List Flag) : String :=
  "Usage: " ++ Program.name ++ " " ++
    (if used.isEmpty then "[OPTIONS]" else " ".intercalate (used.eraseDups.map Flag.shown))

namespace Misuse

def message : Misuse → String
  | .unexpected argument _ _ => "unexpected argument '" ++ argument ++ "' found"
  | .unexpectedValue value flag _ =>
      "unexpected value '" ++ value ++ "' for '" ++ flag.shown ++
        "' found; no more were expected"
  | .missingValue flag =>
      "a value is required for '" ++ flag.shown ++ "' but none was supplied"
  | .repeated flag => "the argument '" ++ flag.shown ++ "' cannot be used multiple times"

def tips : Misuse → List String
  | .unexpected _ (some flag) _ =>
      ["", "  tip: a similar argument exists: '--" ++ flag.word ++ "'"]
  | _ => []

def usageLines : Misuse → List String
  | .unexpected _ meant used => ["", usage (used ++ meant.toList)]
  | .unexpectedValue _ flag used => ["", usage (used ++ [flag])]
  | .missingValue _ => []
  | .repeated _ => ["", usage []]

def lines (misuse : Misuse) : List String :=
  ("error: " ++ misuse.message) :: misuse.tips ++ misuse.usageLines ++
    ["", "For more information, try '--help'."]

end Misuse

def flagColumn (flag : Flag) : String :=
  (match flag.letter? with
  | none => "      "
  | some letter => "  -" ++ letter.toString ++ ", ") ++ flag.shown

def padded (width : Nat) (s : String) : String :=
  s ++ String.ofList (List.replicate (width - s.length) ' ')

def columnWidth : Nat :=
  (Flag.all.map fun flag => (flagColumn flag).length).foldl max 0 + 2

def sources (environment : List (String × String)) (flag : Flag) : String :=
  (match flag.environmentName? with
  | none => ""
  | some name => " [env: " ++ name ++ "=" ++ (environment.lookup name).getD "" ++ "]") ++
  (match flag.default? with
  | none => ""
  | some value => " [default: " ++ value ++ "]")

def helpLine (environment : List (String × String)) (flag : Flag) : String :=
  padded columnWidth (flagColumn flag) ++ flag.purpose ++ sources environment flag

def helpLines (environment : List (String × String)) : List String :=
  ["Local management API for the TrustTunnel VPN client", "", usage [], "", "Options:"] ++
    Flag.all.map (helpLine environment)

def versionLine : String :=
  Program.name ++ " " ++ Program.version

end RouterGate.Cli
