/-! # IP address text

IPv4: four dotted fields up to 255 without leading zeros. IPv6: eight hex
groups, one `::` for zeros, an IPv4 tail allowed, and an optional zone
after `%`. -/
namespace Issuance.Text.Ip

def isHexDigit (c : Char) : Bool :=
  c.isDigit || ('a' ≤ c && c ≤ 'f') || ('A' ≤ c && c ≤ 'F')

/-- Whether a field of an IPv4 address is one: digits without a leading zero,
at most 255. -/
def isOctet (f : List Char) : Bool :=
  !f.isEmpty && f.all Char.isDigit && (f.length = 1 || f.head? ≠ some '0') &&
    f.foldl (fun acc c => acc * 10 + (c.toNat - 48)) 0 ≤ 255

def isIPv4 (cs : List Char) : Bool :=
  let fields := cs.splitOn '.'
  fields.length = 4 && fields.all isOctet

def isGroup (g : List Char) : Bool := !g.isEmpty && g.length ≤ 4 && g.all isHexDigit

/-- How many groups colon-separated texts stand for, a final IPv4
address counting two when `v4`; none on a bad group. -/
def groupCount (gs : List (List Char)) (v4 : Bool) : Option Nat :=
  match gs.getLast? with
  | none => some 0
  | some last =>
    if !gs.dropLast.all isGroup then none
    else if isGroup last then some gs.length
    else if v4 && isIPv4 last then some (gs.length + 1)
    else none

/-- The texts between the colons of a text, none for the empty text. -/
def colonFields (t : String) : List (List Char) :=
  if t.isEmpty then [] else (t.splitOn ":").map String.toList

/-- Whether text is an IPv6 address without a zone: eight groups, or fewer
around one `::` that stands for at least one. -/
def isIPv6Body (cs : List Char) : Bool :=
  match (String.ofList cs).splitOn "::" with
  | [whole] => groupCount (colonFields whole) true == some 8
  | [before, after] =>
    match groupCount (colonFields before) false, groupCount (colonFields after) true with
    | some m, some n => m + n ≤ 7
    | _, _ => false
  | _ => false

def isIPv6 (cs : List Char) : Bool :=
  let zone := cs.dropWhile (· ≠ '%')
  zone.length ≠ 1 && isIPv6Body (cs.takeWhile (· ≠ '%'))

end Issuance.Text.Ip
