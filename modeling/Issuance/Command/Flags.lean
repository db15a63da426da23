import Issuance.Text.Duration
import Issuance.Text.Quoted
import Issuance.Text.Time
/-! # Command-line flags

Text or duration flags read as `-name value` or `-name=value`, stopping at
the first non-flag and after `--`. An unknown flag, a missing or unreadable
value prints the reason and the usage. -/
namespace Issuance.Command

inductive FlagValue
  | text (s : String)
  | span (nanos : Int)
  deriving DecidableEq, Repr

/-- A flag: its name, its default (which fixes its kind) and its help. -/
structure Flag where
  name : String
  default : FlagValue
  help : String
  deriving DecidableEq, Repr

/-- How the command line was read: every flag's value, a request for help,
or a stop with its reason. -/
inductive Reading
  | values (vs : List (String × FlagValue))
  | help
  | stopped (reason : String)
  deriving DecidableEq, Repr

namespace Flag

def kindWord (f : Flag) : String :=
  match f.default with
  | .text _ => "string"
  | .span _ => "duration"

def read (f : Flag) (s : String) : Option FlagValue :=
  match f.default with
  | .text _ => some (.text s)
  | .span _ => (Text.parseDuration s).map FlagValue.span

/-- The usage note of a default, or nothing for the zero value. -/
def defaultNote (f : Flag) : String :=
  match f.default with
  | .text "" | .span 0 => ""
  | .text s => " (default " ++ Text.quoted s ++ ")"
  | .span n => " (default " ++ Text.durationNanos n ++ ")"

def usageLines (f : Flag) : List String :=
  let help := (f.help ++ f.defaultNote).splitOn "\n"
  ("  -" ++ f.name ++ " " ++ f.kindWord) :: help.map ("    \t" ++ ·)

end Flag

def insertByName (f : Flag) : List Flag → List Flag
  | [] => [f]
  | g :: gs => if f.name ≤ g.name then f :: g :: gs else g :: insertByName f gs

def usageLines (program : String) (flags : List Flag) : List String :=
  ("Usage of " ++ program ++ ":") :: ((flags.foldr insertByName []).flatMap Flag.usageLines)

/-- A flag's name and value as written after its dashes: split at the first
`=` that is not the first character. -/
def splitAssignment (body : String) : String × Option String :=
  match body.toList with
  | [] => ("", none)
  | c :: rest =>
    let name := rest.takeWhile (· ≠ '=')
    let after := rest.drop name.length
    match after with
    | '=' :: v => (String.ofList (c :: name), some (String.ofList v))
    | _ => (body, none)

def setValue (name : String) (v : FlagValue) (vs : List (String × FlagValue)) : List (String × FlagValue) :=
  vs.map fun (k, old) => if k = name then (k, v) else (k, old)

def invalidValue (name v : String) : Reading :=
  .stopped ("invalid value " ++ Text.quoted v ++ " for flag -" ++ name ++ ": parse error")

def readArgs (flags : List Flag) : List (String × FlagValue) → List String → Reading
  | vs, [] => .values vs
  | vs, a :: rest =>
    if a.length < 2 || !a.startsWith "-" then .values vs
    else if a = "--" then .values vs
    else
      let body := (if a.startsWith "--" then a.drop 2 else a.drop 1).toString
      if body.isEmpty || body.startsWith "-" || body.startsWith "=" then .stopped ("bad flag syntax: " ++ a)
      else
        let (name, given) := splitAssignment body
        match flags.find? (·.name = name) with
        | none =>
          if name = "help" || name = "h" then .help
          else .stopped ("flag provided but not defined: -" ++ name)
        | some f =>
          match given with
          | some v =>
            match f.read v with
            | none => invalidValue name v
            | some x => readArgs flags (setValue name x vs) rest
          | none =>
            match rest with
            | v :: rest' =>
              match f.read v with
              | none => invalidValue name v
              | some x => readArgs flags (setValue name x vs) rest'
            | [] => .stopped ("flag needs an argument: -" ++ name)

/-- Read a command line against the flags, every flag at its default first. -/
def readCommandLine (flags : List Flag) (args : List String) : Reading :=
  readArgs flags (flags.map fun f => (f.name, f.default)) args

/-- The text value of a flag among the values read, or the empty text. -/
def textValue (vs : List (String × FlagValue)) (name : String) : String :=
  match vs.lookup name with
  | some (.text s) => s
  | _ => ""

/-- The span value of a flag among the values read, or zero. -/
def spanValue (vs : List (String × FlagValue)) (name : String) : Int :=
  match vs.lookup name with
  | some (.span n) => n
  | _ => 0

end Issuance.Command
