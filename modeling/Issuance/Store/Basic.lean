import Issuance.Text.Hex
/-! # Committed key-value stores

A store maps byte-string keys to byte-string values. It is kept as a list of
entries in strictly ascending key order, so listing the keys under a prefix
gives them sorted without further work. -/
namespace Issuance.Store

structure Store where
  entries : List (Bytes × Bytes) := []
  deriving Inhabited

namespace Store

def get? (s : Store) (k : Bytes) : Option Bytes := (s.entries.find? (·.1 == k)).map (·.2)

/-- Entries with `k` set to `v`, order kept. -/
def insertSorted (k v : Bytes) : List (Bytes × Bytes) → List (Bytes × Bytes)
  | [] => [(k, v)]
  | (k', v') :: rest =>
    if k' == k then (k, v) :: rest
    else if Bytes.lt k k' then (k, v) :: (k', v') :: rest
    else (k', v') :: insertSorted k v rest

def put (s : Store) (k v : Bytes) : Store := ⟨insertSorted k v s.entries⟩

def erase (s : Store) (k : Bytes) : Store := ⟨s.entries.filter (·.1 != k)⟩

def keys (s : Store) (p : Bytes) : List Bytes := (s.entries.filter (Bytes.startsWith ·.1 p)).map (·.1)

/-- One write of a batch: a value, or `none` to erase. -/
abbrev Write := Bytes × Option Bytes

def apply (s : Store) (ws : List Write) : Store :=
  ws.foldl (fun s w => match w.2 with
    | some v => s.put w.1 v
    | none => s.erase w.1) s

theorem get?_put_self (s : Store) (k v : Bytes) : (s.put k v).get? k = some v := by
  unfold put get?
  induction s.entries with
  | nil => simp [insertSorted]
  | cons e rest ih =>
    obtain ⟨k', v'⟩ := e
    simp only [insertSorted]
    split
    · simp
    · split
      · simp
      · rename_i h _
        simp_all

end Store

end Issuance.Store
