import Issuance.Decimal.Binary
import Issuance.Text.Quoted
/-! # TOML values and tables

A table of named values in first-given order: strings, integers, floats,
booleans, dates, arrays, tables and arrays of tables. A key is written bare
when it can be, else quoted. -/
namespace Issuance.Toml

open Decimal

abbrev Key := List String

inductive Value where
  | str (s : String)
  | int (n : Int)
  | float (x : Binary64)
  | bool (b : Bool)
  | datetime (text : String)
  | array (items : List Value)
  | table (fields : List (String × Value))
  | tables (items : List (List (String × Value)))

abbrev Table := List (String × Value)

def isBareKeyChar (c : Char) : Bool :=
  ('a' ≤ c && c ≤ 'z') || ('A' ≤ c && c ≤ 'Z') || ('0' ≤ c && c ≤ '9') || c = '_' || c = '-'

def keyEscape (c : Char) : String :=
  if c = '"' then "\\\""
  else if c = '\\' then "\\\\"
  else if c = '\x08' then "\\b"
  else if c = '\t' then "\\t"
  else if c = '\n' then "\\n"
  else if c = '\x0c' then "\\f"
  else if c = '\r' then "\\r"
  else if c.toNat < 0x20 || c.toNat = 0x7f then "\\u00" ++ Text.hexDigits 2 c.toNat
  else c.toString

def keyPart (k : String) : String :=
  if k.isEmpty then "\"\""
  else if k.toList.all isBareKeyChar then k
  else "\"" ++ String.join (k.toList.map keyEscape) ++ "\""

def Key.text (k : Key) : String := ".".intercalate (k.map keyPart)

def Value.typeName : Value → String
  | .str _ => "string"
  | .int _ => "int64"
  | .float _ => "float64"
  | .bool _ => "bool"
  | .datetime _ => "time.Time"
  | .array _ => "[]any"
  | .table _ => "map[string]any"
  | .tables _ => "[]map[string]any"

namespace Table

def get? (t : Table) (k : String) : Option Value := t.lookup k

def put (t : Table) (k : String) (v : Value) : Table :=
  if t.any (·.1 = k) then t.map (fun p => if p.1 = k then (k, v) else p) else t ++ [(k, v)]

end Table

theorem lookup_map_put (k : String) (v : Value) (t : Table) (h : t.any (·.1 = k) = true) :
    (t.map (fun p => if p.1 = k then (k, v) else p)).lookup k = some v := by
  induction t with
  | nil => simp at h
  | cons p rest ih =>
    obtain ⟨a, b⟩ := p
    by_cases hp : a = k
    · simp [hp]
    · have hb : (k == a) = false := beq_false_of_ne (fun e => hp e.symm)
      have hr : rest.any (·.1 = k) = true := by simp_all
      simp only [List.map_cons, hp, if_false, List.lookup_cons, hb]
      exact ih hr

theorem lookup_append_absent (k : String) (v : Value) (t : Table) (h : ¬ t.any (·.1 = k) = true) :
    (t ++ [(k, v)]).lookup k = some v := by
  induction t with
  | nil => simp
  | cons p rest ih =>
    obtain ⟨a, b⟩ := p
    have hp : a ≠ k := by intro e; simp_all
    have hb : (k == a) = false := beq_false_of_ne (fun e => hp e.symm)
    have hr : ¬ rest.any (·.1 = k) = true := by simp_all
    simp only [List.cons_append, List.lookup_cons, hb]
    exact ih hr

theorem Table.get?_put_self (t : Table) (k : String) (v : Value) : (t.put k v).get? k = some v := by
  unfold Table.put Table.get?
  split
  · exact lookup_map_put k v t (by assumption)
  · exact lookup_append_absent k v t (by assumption)

end Issuance.Toml
