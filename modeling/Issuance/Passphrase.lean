import Issuance.Text.Blank
/-! # The custody passphrase

From an environment variable when set, and then not blank; else asked on
the terminal, twice for a new key, the answers agreeing. Without a terminal
there is none. -/
namespace Issuance.Passphrase

inductive Failure where
  | blankVariable (name : String)
  | noTerminalFor (name : String)
  | noTerminal
  | blankAnswer
  | unreadable (reason : String)
  | mismatch
  deriving DecidableEq, Repr

def Failure.message : Failure → String
  | .blankVariable n => n ++ " is set but empty"
  | .noTerminalFor n => "custody keystore passphrase required; set " ++ n ++ " or run interactively"
  | .noTerminal => "custody keystore passphrase required and no terminal available"
  | .blankAnswer => "custody keystore passphrase cannot be empty"
  | .unreadable r => "read passphrase: " ++ r
  | .mismatch => "custody passphrases do not match"

/-- A terminal: whether there is one, the answers typed in order, and why a
read past them fails (`EOF` when nothing else is said). -/
structure Terminal where
  present : Bool
  answers : List String
  failure : String

/-- Where a passphrase is looked for: a variable name (trimmed; empty for
none) and whether the answer is asked twice. -/
structure Source where
  varName : String
  confirm : Bool

structure Transcript where
  prompts : String := ""
  reads : Nat := 0

def enterPrompt : String := "Enter custody keystore passphrase: "

def repeatPrompt : String := "Repeat custody keystore passphrase: "

def ask (t : Terminal) (tr : Transcript) (label : String) : Except Failure String × Transcript :=
  let tr' := { prompts := tr.prompts ++ label ++ "\n", reads := tr.reads + 1 }
  match t.answers[tr.reads]? with
  | some a => (.ok a, tr')
  | none => (.error (.unreadable (if t.failure.isEmpty then "EOF" else t.failure)), tr')

/-- The passphrase of a source, given the variable's value (none when
unset) and the terminal, with what the terminal showed. -/
def resolve (s : Source) (value : Option String) (t : Terminal) : Except Failure String × Transcript :=
  let fromVariable := if s.varName.isEmpty then none else value
  match fromVariable with
  | some v => (if Text.isBlankText v then .error (.blankVariable s.varName) else .ok v, {})
  | none =>
    if !t.present then
      (.error (if s.varName.isEmpty then .noTerminal else .noTerminalFor s.varName), {})
    else
      match ask t {} enterPrompt with
      | (.error e, tr) => (.error e, tr)
      | (.ok first, tr) =>
        if Text.isBlankText first then (.error .blankAnswer, tr)
        else if !s.confirm then (.ok first, tr)
        else
          match ask t tr repeatPrompt with
          | (.error e, tr) => (.error e, tr)
          | (.ok second, tr) => (if second = first then .ok first else .error .mismatch, tr)

theorem resolve_variable (s : Source) (v : String) (t : Terminal) (h : s.varName ≠ "")
    (hv : Text.isBlankText v = false) : (resolve s (some v) t).1 = .ok v := by
  simp [resolve, h, hv]

end Issuance.Passphrase
