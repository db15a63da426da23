import Issuance.Sql.Value
import Issuance.Elementary.Hyperbolic
/-! # Mathematical functions on values

Integers, reals or text reading as one; anything else, and not-a-number,
gives no value. `mod` keeps the dividend's sign; `pow` is the library
power. -/
namespace Issuance.Sql

open Decimal Elementary

/-- The number a value stands for in a mathematical function: an integer or
a real, text read wholly as a number; none for other text, bytes and no
value. -/
def numberArg : Value → Option Value
  | .int i => some (.int i)
  | .real r => some (.real r)
  | .text s =>
    match numericText false s with
    | .text _ => none
    | v => some v
  | _ => none

def realResult (r : Binary64) : Value := if r.isNaN then .null else .real r

def mathOne (f : Binary64 → Binary64) (a : Value) : Value :=
  match numberArg a with
  | some v => realResult (f v.toReal)
  | none => .null

def mathTwo (f : Binary64 → Binary64 → Binary64) (a b : Value) : Value :=
  match numberArg a, numberArg b with
  | some x, some y => realResult (f x.toReal y.toReal)
  | _, _ => .null

def wholeOf (f : Binary64 → Binary64) (a : Value) : Value :=
  match numberArg a with
  | some (.int i) => .int i
  | some v => realResult (f v.toReal)
  | none => .null

def ln10 : Binary64 := 2.302585092994046

def lnTwo : Binary64 := 0.6931471805599453

def degree : Binary64 := Elementary.pi / 180

def radian : Binary64 := 180 / Elementary.pi

def logOne (base : Option Binary64) (a : Value) : Value :=
  match numberArg a with
  | some v =>
    let x := v.toReal
    if x ≤ 0 then .null else
    let l := Elementary.log x
    realResult (match base with | some b => l / b | none => l)
  | none => .null

def logTwo (b x : Value) : Value :=
  match numberArg b with
  | some bv =>
    let bb := bv.toReal
    if bb ≤ 0 then .null else
    let lb := Elementary.log bb
    if lb ≤ 0 then .null else
    let xx := x.toReal
    if xx ≤ 0 then .null else realResult (Elementary.log xx / lb)
  | none => .null

def libraryPow (x y : Binary64) : Binary64 :=
  let r := Elementary.pow x y
  if 0 < x && r.eq 1 && (-1.0000000000000000715e-18 : Binary64) ≤ y && y < -1e-30 then 0.9999999999999999
  else r

def mathFunction? (name : String) (args : List Value) : Option Value :=
  let a0 := args.headD .null
  let a1 := args.getD 1 .null
  match name with
  | "exp" => some (mathOne exp a0)
  | "sqrt" => some (mathOne Binary64.sqrt a0)
  | "sin" => some (mathOne sin a0)
  | "cos" => some (mathOne cos a0)
  | "tan" => some (mathOne tan a0)
  | "asin" => some (mathOne asin a0)
  | "acos" => some (mathOne acos a0)
  | "atan" => some (mathOne atan a0)
  | "sinh" => some (mathOne sinh a0)
  | "cosh" => some (mathOne cosh a0)
  | "tanh" => some (mathOne tanh a0)
  | "asinh" => some (mathOne asinh a0)
  | "acosh" => some (mathOne acosh a0)
  | "atanh" => some (mathOne atanh a0)
  | "degrees" => some (mathOne (· * radian) a0)
  | "radians" => some (mathOne (· * degree) a0)
  | "atan2" => some (mathTwo atan2 a0 a1)
  | "pow" | "power" => some (mathTwo libraryPow a0 a1)
  | "mod" => some (mathTwo Binary64.fmod a0 a1)
  | "ceil" | "ceiling" => some (wholeOf Binary64.ceil a0)
  | "floor" => some (wholeOf Binary64.floor a0)
  | "trunc" => some (wholeOf Binary64.trunc a0)
  | "ln" => some (logOne none a0)
  | "log" => some (if args.length = 2 then logTwo a0 a1 else logOne (some ln10) a0)
  | "log10" => some (logOne (some ln10) a0)
  | "log2" => some (logOne (some lnTwo) a0)
  | "pi" => some (.real Elementary.pi)
  | _ => none

end Issuance.Sql
