import Issuance.Text.Blank
/-! # Listen addresses

A host and a port joined by the last colon. The port is a number or service
name from 0 to 65535, empty meaning 0; a numeric IPv4 host must be
unspecified or loopback. A blank address stands for `:7080`. -/
namespace Issuance.Service

def addressError (addr why : String) : String := "address " ++ addr ++ ": " ++ why

def firstIndex (c : Char) (cs : List Char) : Option Nat := cs.findIdx? (· = c)

def lastIndex (c : Char) (cs : List Char) : Option Nat :=
  (firstIndex c cs.reverse).map fun i => cs.length - 1 - i

def splitHostPort (addr : String) : Except String (String × String) :=
  let cs := addr.toList
  let bad {α : Type} (why : String) : Except String α := .error (addressError addr why)
  match lastIndex ':' cs with
  | none => bad "missing port in address"
  | some i =>
    let split : Except String (List Char × Nat × Nat) :=
      if cs.head? = some '[' then
        match firstIndex ']' cs with
        | none => bad "missing ']' in address"
        | some e =>
          if e + 1 = cs.length then bad "missing port in address"
          else if e + 1 = i then .ok ((cs.drop 1).take (e - 1), 1, e + 1)
          else if cs[e + 1]? = some ':' then bad "too many colons in address"
          else bad "missing port in address"
      else if (cs.take i).contains ':' then bad "too many colons in address"
      else .ok (cs.take i, 0, 0)
    match split with
    | .error m => .error m
    | .ok (host, j, k) =>
      if (cs.drop j).contains '[' then bad "unexpected '[' in address"
      else if (cs.drop k).contains ']' then bad "unexpected ']' in address"
      else .ok (String.ofList host, String.ofList (cs.drop (i + 1)))

def servicePorts : List (String × Nat) :=
  [("ftp", 21), ("ftps", 990), ("gopher", 70), ("http", 80), ("https", 443), ("imap2", 143),
    ("imap3", 220), ("imaps", 993), ("pop3", 110), ("pop3s", 995), ("smtp", 25),
    ("submissions", 465), ("ssh", 22), ("telnet", 23)]

/-- A decimal port with an optional sign, or `none` when it is not one.
Values past a billion are all read as one value past the range. -/
def decimalPort? (s : String) : Option Int :=
  let (neg, ds) := match s.toList with
    | '+' :: r => (false, r)
    | '-' :: r => (true, r)
    | r => (false, r)
  if !ds.all Char.isDigit then none else
  let n := min (ds.foldl (fun acc c => min (acc * 10 + (c.toNat - 48)) (Nat.pow 2 31)) 0) (Nat.pow 2 30)
  some (if neg then -(n : Int) else n)

def portOf (port : String) : Except String Nat :=
  if port.isEmpty then .ok 0 else
  match decimalPort? port with
  | some n =>
    if 0 ≤ n ∧ n ≤ 65535 then .ok n.toNat else .error (addressError port "invalid port")
  | none =>
    match servicePorts.lookup (String.map Char.toLower port) with
    | some n => .ok n
    | none => .error ("lookup tcp/" ++ port ++ ": unknown port")

/-- The four parts of a numeric IPv4 address: each decimal, without a
leading zero, at most 255. -/
def ipv4Parts? (host : String) : Option (List Nat) :=
  let parts := host.splitOn "."
  if parts.length ≠ 4 then none else
  parts.mapM fun p =>
    let cs := p.toList
    if cs.isEmpty || cs.length > 3 || !cs.all Char.isDigit || (cs.length > 1 && cs.head? = some '0') then none
    else
      let n := cs.foldl (fun acc c => acc * 10 + (c.toNat - 48)) 0
      if n ≤ 255 then some n else none

def isOwnAddress : List Nat → Bool
  | [0, 0, 0, 0] => true
  | 127 :: _ => true
  | _ => false

def listenError (addr : String) : Option String :=
  let addr := if Text.isBlankText addr then ":7080" else addr
  match splitHostPort addr with
  | .error m => some ("listen tcp: " ++ m)
  | .ok (host, port) =>
    match portOf port with
    | .error m => some ("listen tcp: " ++ m)
    | .ok n =>
      match ipv4Parts? host with
      | some parts =>
        if isOwnAddress parts then none
        else some ("listen tcp " ++ host ++ ":" ++ toString n ++ ": bind: cannot assign requested address")
      | none => none

end Issuance.Service
