import Issuance.Sql.Aggregate
import Issuance.Sql.Json
import Issuance.Sql.Order
/-! # The values of window calls

Each row gets a value from its partition in order-term order, peers being
rows equal in every term; ranking reads the partition, `lag`/`lead` an
offset row, the rest the frame. Calls are worked last to first. -/
namespace Issuance.Sql

open Decimal

structure WindowCall where
  id : Nat
  name : String
  args : List Expr
  star : Bool
  filter : Option Expr
  partition : List Expr
  orderBy : List (Expr × Bool)
  unit : FrameUnit
  start : FrameBound
  finish : FrameBound
  exclude : FrameExclude

def lowerName (f : String) : String := String.ofList (f.toList.map foldAscii)

def Expr.windowCalls : Nat → Expr → List WindowCall
  | 0, _ => []
  | n + 1, e =>
    let all := fun (xs : List Expr) => xs.flatMap (Expr.windowCalls n)
    match e with
    | .applied k f args _ star filter (some (.spec _ partition orderBy (some (.mk unit start finish x)))) =>
      [⟨k, lowerName f, args, star, filter, partition, orderBy, unit, start, finish, x⟩]
    | .unary _ a | .isNull a _ | .cast a _ | .collate a _ | .field a _ | .truth a _ _ | .inQuery a _ _
    | .inTable a _ _ => all [a]
    | .binary _ a b => all [a, b]
    | .inList a items _ => all (a :: items)
    | .between a lo hi _ => all [a, lo, hi]
    | .pattern _ a p esc _ => all ([a, p] ++ esc.toList)
    | .call _ args _ _ | .vector args => all args
    | .case base arms other => all (base.toList ++ arms.flatMap (fun (c, v) => [c, v]) ++ other.toList)
    | _ => []

def windowCallsOf (es : List Expr) : List WindowCall :=
  (es.flatMap (Expr.windowCalls 2048)).foldl
    (fun acc c => if acc.any (·.id == c.id) then acc else acc ++ [c]) []

inductive FrameEnd
  | unboundedPreceding
  | preceding (offset : Value)
  | currentRow
  | following (offset : Value)
  | unboundedFollowing

def frameOffset (unit : FrameUnit) (isStart : Bool) (v : Value) : Except Failure Value :=
  let which := if isStart then "starting" else "ending"
  let v := match v with
    | .text s => numericText true s
    | w => w
  match unit with
  | .range =>
    let fail := Failure.logic ("frame " ++ which ++ " offset must be a non-negative number")
    match v with
    | .int i => if i < 0 then .error fail else .ok v
    | .real r => if (Value.real r).compare .binary (.int 0) = .lt then .error fail else .ok v
    | _ => .error fail
  | _ =>
    let fail := Failure.logic ("frame " ++ which ++ " offset must be a non-negative integer")
    match v with
    | .int i => if i < 0 then .error fail else .ok v
    | .real r =>
      match wholeReal? r with
      | some i => if i < 0 then .error fail else .ok (.int i)
      | none => .error fail
    | _ => .error fail

def peerRuns (terms : List (Expr × Bool)) (keys : List (List Value)) : List (Nat × Nat) :=
  let step := fun (acc : List (Nat × Nat) × Option (List Value)) (ki : List Value × Nat) =>
    let (k, i) := ki
    match acc with
    | ((first, _) :: rest, some p) =>
      if compareKeys terms p k = .eq then ((first, i) :: rest, some k) else ((i, i) :: acc.1, some k)
    | _ => ((i, i) :: acc.1, some k)
  (keys.zipIdx.foldl step ([], none)).1.reverse

def placesBetween (size : Nat) (lo hi : Int) : List Nat :=
  (List.range size).filter fun p => lo ≤ p && p ≤ hi

def shiftValue (v offset : Value) (up : Bool) : Value :=
  match v with
  | .text _ | .blob _ => v
  | _ => arith (if up then .add else .sub) v offset

def framePlaces (unit : FrameUnit) (start finish : FrameEnd) (size place : Nat) (runs : List (Nat × Nat))
    (g : Nat) (vals : List Value) (desc : Bool) (coll : Collation) : List Nat :=
  let q := runs.length
  let firstOf (h : Int) : Int :=
    if h < 0 then 0 else if h ≥ q then size else ((runs[h.toNat]?).map (·.1)).getD size
  let lastOf (h : Int) : Int :=
    if h < 0 then -1 else if h ≥ q then (size : Int) - 1 else ((runs[h.toNat]?).map (·.2)).getD 0
  let cur := vals.getD place .null
  let firstFrom (target : Value) : Int :=
    ((List.range size).find? fun j =>
      let o := (vals.getD j .null).compare coll target
      if desc then o != .gt else o != .lt).map (Int.ofNat) |>.getD size
  let lastUpTo (target : Value) : Int :=
    ((List.range size).reverse.find? fun j =>
      let o := (vals.getD j .null).compare coll target
      if desc then o != .lt else o != .gt).map (Int.ofNat) |>.getD (-1)
  let lo : Int := match unit, start with
    | _, .unboundedPreceding => 0
    | _, .unboundedFollowing => size
    | .rows, .preceding k => place - k.toInt
    | .rows, .currentRow => place
    | .rows, .following k => place + k.toInt
    | .groups, .preceding k => firstOf (g - k.toInt)
    | .groups, .currentRow => firstOf g
    | .groups, .following k => firstOf (g + k.toInt)
    | .range, .preceding k => firstFrom (shiftValue cur k desc)
    | .range, .currentRow => firstOf g
    | .range, .following k => firstFrom (shiftValue cur k !desc)
  let hi : Int := match unit, finish with
    | _, .unboundedPreceding => -1
    | _, .unboundedFollowing => (size : Int) - 1
    | .rows, .preceding k => place - k.toInt
    | .rows, .currentRow => place
    | .rows, .following k => place + k.toInt
    | .groups, .preceding k => lastOf (g - k.toInt)
    | .groups, .currentRow => lastOf g
    | .groups, .following k => lastOf (g + k.toInt)
    | .range, .preceding k => lastUpTo (shiftValue cur k desc)
    | .range, .currentRow => lastOf g
    | .range, .following k => lastUpTo (shiftValue cur k !desc)
  placesBetween size lo hi

def excludePlaces (x : FrameExclude) (place first last : Nat) (places : List Nat) : List Nat :=
  let peer := fun (j : Nat) => first ≤ j && j ≤ last
  match x with
  | .noOthers => places
  | .currentRow => places.filter (· ≠ place)
  | .group => places.filter fun j => !peer j
  | .ties => places.filter fun j => j = place || !peer j

def splitRuns (same : α → α → Bool) : List α → List (List α)
  | [] => []
  | x :: xs =>
    match splitRuns same xs with
    | (y :: ys) :: rest => if same x y then (x :: y :: ys) :: rest else [x] :: (y :: ys) :: rest
    | _ => [[x]]

def countRatio (a b : Nat) : Value := .real ((toReal a).div (toReal b))

def offsetPlace (size place : Nat) (offset : Value) (forward : Bool) : Option Nat :=
  let target := arith (if forward then .add else .sub) (.int (place + 1)) offset
  let t? : Option Int := match target with
    | .int t => some t
    | .real r => wholeReal? r
    | _ => none
  match t? with
  | some t => if 1 ≤ t && t ≤ size then some (t.toNat - 1) else none
  | none => none

section

variable {σ : Type}

def evalFrameEnd (value : σ → Expr → Except Failure (Value × Bool)) (unit : FrameUnit) (isStart : Bool)
    (r : σ) : FrameBound → Except Failure FrameEnd
  | .unboundedPreceding => .ok .unboundedPreceding
  | .currentRow => .ok .currentRow
  | .unboundedFollowing => .ok .unboundedFollowing
  | .preceding e => do
    let (v, _) ← value r e
    let v ← frameOffset unit isStart v
    pure (.preceding v)
  | .following e => do
    let (v, _) ← value r e
    let v ← frameOffset unit isStart v
    pure (.following v)

def frameAggregate (name : String) (star : Bool) (rows : List (List (Value × Bool))) : Except Failure Value :=
  let none_ : Value × Bool := (.null, false)
  if name = "json_group_array" then jsonGroupArray (rows.map (·.headD none_))
  else if name = "json_group_object" then jsonGroupObject (rows.map fun r => (r.headD none_, r.getD 1 none_))
  else aggregateValue name star (rows.map (·.map (·.1)))

def partitionValues (value : σ → Expr → Except Failure (Value × Bool)) (holds : σ → Expr → Except Failure Bool)
    (c : WindowCall) (part : List (σ × List Value)) : Except Failure (List Value) := do
  let size := part.length
  let runs := peerRuns c.orderBy (part.map (·.2))
  let args ← part.mapM fun (r, _) => c.args.mapM (value r)
  let kept ← match c.filter with
    | some f => part.mapM fun (r, _) => holds r f
    | none => pure (part.map fun _ => true)
  let (startEnd, finishEnd) ← match part.head? with
    | some (r, _) => do
      let s ← evalFrameEnd value c.unit true r c.start
      let e ← evalFrameEnd value c.unit false r c.finish
      pure (s, e)
    | none => pure (FrameEnd.currentRow, FrameEnd.currentRow)
  let firstArg := fun (j : Nat) => ((args[j]?).bind (·.head?)).map (·.1) |>.getD .null
  let (desc, coll) := match c.orderBy with
    | (t, d) :: _ => (d, (t.collation?).getD .binary)
    | [] => (false, Collation.binary)
  let vals := part.map fun (_, ks) => ks.headD .null
  let ntile ← match c.name with
    | "ntile" =>
      let k := (firstArg 0).toInt
      if size > 0 && k ≤ 0 then throw (.logic "argument of ntile must be a positive integer") else pure k
    | _ => pure 0
  (List.range size).mapM fun place => do
    let g := runs.findIdx fun (a, b) => a ≤ place && place ≤ b
    let (first, last) := runs.getD g (place, place)
    let frame := fun (_ : Unit) =>
      excludePlaces c.exclude place first last
        (framePlaces c.unit startEnd finishEnd size place runs g vals desc coll)
    match c.name with
    | "row_number" => pure (.int (place + 1))
    | "rank" => pure (.int (first + 1))
    | "dense_rank" => pure (.int (g + 1))
    | "percent_rank" => pure (if size > 1 then countRatio first (size - 1) else .real (toReal 0))
    | "cume_dist" => pure (countRatio (last + 1) size)
    | "ntile" =>
      let total : Int := size
      let nSize := total / ntile
      if nSize = 0 then pure (.int (place + 1))
      else
        let nLarge := total - ntile * nSize
        let iSmall := nLarge * (nSize + 1)
        let iRow : Int := place
        pure (.int (if iRow < iSmall then 1 + iRow / (nSize + 1) else 1 + nLarge + (iRow - iSmall) / nSize))
    | "lag" | "lead" =>
      let mine := args.getD place []
      let fallback := ((mine[2]?).map (·.1)).getD .null
      let offset := ((mine[1]?).map (·.1)).getD (.int 1)
      match offsetPlace size place offset (c.name = "lead") with
      | some j => pure (firstArg j)
      | none => pure fallback
    | "first_value" => pure (((frame ()).head?.map firstArg).getD .null)
    | "last_value" => pure (((frame ()).getLast?.map firstArg).getD .null)
    | "nth_value" =>
      let rows := frame ()
      let step := fun (acc : Nat × Value) (j : Nat) => do
        let (count, found) := acc
        let nth := (((args[j]?).bind (·[1]?)).map (·.1)).getD .null
        let k? : Option Int := match (match nth with | .text s => numericText true s | w => w) with
          | .int i => some i
          | .real r => wholeReal? r
          | _ => none
        match k? with
        | some k =>
          if k ≤ 0 then throw (.logic "second argument to nth_value must be a positive integer")
          else pure (count + 1, if k = count + 1 then firstArg j else found)
        | none => throw (.logic "second argument to nth_value must be a positive integer")
      let (_, v) ← rows.foldlM step (0, Value.null)
      pure v
    | _ =>
      let rows := (frame ()).filter fun j => kept.getD j false
      frameAggregate c.name c.star (rows.map fun j => args.getD j [])

def windowValues (value : σ → Expr → Except Failure (Value × Bool)) (holds : σ → Expr → Except Failure Bool)
    (calls : List WindowCall) (rows : List σ) : Except Failure (List (Nat × List (Nat × Value))) := do
  let step := fun (acc : List (Nat × σ) × List (Nat × Nat × Value)) (c : WindowCall) => do
    let (order, found) := acc
    let terms := c.partition.map (·, false) ++ c.orderBy
    let keyed ← order.mapM fun (i, r) => do
      let ks ← (terms.map (·.1)).mapM fun t => do
        let (v, _) ← value r t
        pure v
      pure ((i, r), ks)
    let sorted := keyed.mergeSort fun a b => compareKeys terms a.2 b.2 != .gt
    let np := c.partition.length
    let parts := splitRuns (fun a b => compareKeys (terms.take np) (a.2.take np) (b.2.take np) = .eq) sorted
    let made ← parts.mapM fun part => do
      let vs ← partitionValues value holds c (part.map fun ((_, r), ks) => (r, ks.drop np))
      pure ((part.map (·.1.1)).zip vs)
    pure (sorted.map (·.1), found ++ (made.flatten.map fun (i, v) => (i, c.id, v)))
  let (order, found) ← calls.reverse.foldlM step (rows.zipIdx.map fun (r, i) => (i, r), [])
  pure (order.map fun (i, _) => (i, (found.filter (·.1 == i)).map (·.2)))

end

end Issuance.Sql
