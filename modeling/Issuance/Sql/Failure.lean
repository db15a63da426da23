/-! # Why a statement fails

`Failure.message` writes a cause as the driver reports it: the code's text,
the message, the code in brackets (1555 primary key, 2067 unique, 2579
rowid, 1299 `NOT NULL`, 275 `CHECK`, 3091 strict, 1811 `RAISE`). -/
namespace Issuance.Sql

inductive Failure
  | near (token : String)
  | incomplete
  | unrecognized (token : String)
  | noTable (name : String)
  | noColumn (name : String)
  | noColumnNamed (table name : String)
  | valueCount (given expected : Nat)
  | tableArity (table : String) (columns given : Nat)
  | noFunction (name : String)
  | argumentCount (name : String)
  | misuse (name : String)
  | logic (text : String)
  | unique (columns : String) (code : Nat)
  | constraint (text : String) (code : Nat)
  | mismatch
  | tooBig
  | full
  | binding (text : String)
  | raised (kind : String) (text : String)
  deriving DecidableEq, Repr, Inhabited

def Failure.text : Failure → String
  | .near t => "near \"" ++ t ++ "\": syntax error"
  | .incomplete => "incomplete input"
  | .unrecognized t => "unrecognized token: \"" ++ t ++ "\""
  | .noTable n => "no such table: " ++ n
  | .noColumn n => "no such column: " ++ n
  | .noColumnNamed t n => "table " ++ t ++ " has no column named " ++ n
  | .valueCount g e => toString g ++ " values for " ++ toString e ++ " columns"
  | .tableArity t c g => "table " ++ t ++ " has " ++ toString c ++ " columns but " ++ toString g ++ " values were supplied"
  | .noFunction n => "no such function: " ++ n
  | .argumentCount n => "wrong number of arguments to function " ++ n ++ "()"
  | .misuse n => "misuse of aggregate function " ++ n ++ "()"
  | .logic t => t
  | .unique c _ => "UNIQUE constraint failed: " ++ c
  | .constraint t _ => t
  | .mismatch => "datatype mismatch"
  | .tooBig => "string or blob too big"
  | .full => "database or disk is full"
  | .binding t => t
  | .raised _ t => t

def Failure.code : Failure → Nat
  | .unique _ c => c
  | .constraint _ c => c
  | .raised _ _ => 1811
  | .mismatch => 20
  | .tooBig => 18
  | .full => 13
  | _ => 1

def codeText : Nat → String
  | 19 | 275 | 1299 | 1555 | 1811 | 2067 | 2579 | 3091 => "constraint failed"
  | 13 => "database or disk is full"
  | 20 => "datatype mismatch"
  | 18 => "string or blob too big"
  | _ => "SQL logic error"

def Failure.message (f : Failure) : String :=
  match f with
  | .binding t => t
  | _ =>
    let head := if f.text = codeText f.code then f.text else codeText f.code ++ ": " ++ f.text
    head ++ " (" ++ toString f.code ++ ")"

end Issuance.Sql
