import Issuance.Sql.Function
/-! # Aggregate functions

`sum` adds integers exactly until it leaves 64 bits (an error) and turns
approximate at the first real; `total` and `avg` add reals; `min` and `max`
skip missing values; `group_concat` joins with per-row separators. -/
namespace Issuance.Sql

open Decimal

structure Sum where
  count : Nat := 0
  intSum : Int := 0
  realSum : Binary64 := Binary64.zero false
  approx : Bool := false
  overflow : Bool := false

def Sum.add (s : Sum) (v : Value) : Sum :=
  let v := match v with
    | .text t => numericText false t
    | w => w
  match v with
  | .null => s
  | .int i =>
    let s := { s with count := s.count + 1, realSum := s.realSum.add (toReal i) }
    if s.approx || s.overflow then s
    else if fits (s.intSum + i) then { s with intSum := s.intSum + i }
    else { s with approx := true, overflow := true }
  | w => { s with count := s.count + 1, realSum := s.realSum.add w.toReal, approx := true }

def groupConcat (rows : List (List Value)) : Value :=
  let step := fun (acc : Option Bytes) (r : List Value) =>
    match r with
    | .null :: _ => acc
    | v :: rest =>
      let sep := match rest with
        | s :: _ => s.text?
        | [] => some [44]
      match acc with
      | none => some v.textBytes
      | some t => some (t ++ (sep.getD []) ++ v.textBytes)
    | [] => acc
  match rows.foldl step none with
  | some t => .text t
  | none => .null

def aggregateValue (name : String) (star : Bool) (rows : List (List Value)) : Except Failure Value :=
  let key := String.ofList (name.toList.map foldAscii)
  let firsts := rows.map fun r => r.headD .null
  match key with
  | "count" =>
    if star || rows.all List.isEmpty then .ok (.int rows.length)
    else .ok (.int (firsts.filter (· != .null)).length)
  | "sum" =>
    let s := firsts.foldl Sum.add {}
    if s.count = 0 then .ok .null
    else if s.overflow then .error overflow
    else if s.approx then .ok (.real s.realSum)
    else .ok (.int s.intSum)
  | "total" => .ok (.real (firsts.foldl Sum.add {}).realSum)
  | "avg" =>
    let s := firsts.foldl Sum.add {}
    if s.count = 0 then .ok .null else .ok (.real (s.realSum.div (toReal s.count)))
  | "min" | "max" =>
    let vals := firsts.filter (· != .null)
    match vals with
    | [] => .ok .null
    | v :: vs =>
      .ok (vs.foldl (fun best w =>
        let o := w.compare .binary best
        if (key = "max" && o = .gt) || (key = "min" && o = .lt) then w else best) v)
  | "group_concat" => .ok (groupConcat rows)
  | _ => .ok .null

theorem aggregateValue_count_star (rows : List (List Value)) :
    aggregateValue "count" true rows = .ok (.int rows.length) := by
  simp [aggregateValue, foldAscii]

end Issuance.Sql
