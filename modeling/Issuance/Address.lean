import Issuance.Text.Bech32
import Issuance.Text.Blank
/-! # Account addresses

An address is twenty bytes. It is written in bech32 under the human-readable
part `sfx`, the bytes regrouped into 5-bit values; reading checks the bech32
text, the regrouping, the length and the prefix, in that order. -/
namespace Issuance

structure Address where
  bytes : Bytes
  size : bytes.length = 20
  deriving DecidableEq

namespace Address

def accountPrefix : String := "sfx"

/-- The address of twenty zero bytes, which names nobody. -/
def zero : Address := ⟨List.replicate 20 0, by simp⟩

instance : Inhabited Address := ⟨zero⟩

def isZero (a : Address) : Bool := a.bytes.all (· = 0)

def ofBytes? (b : Bytes) : Option Address :=
  if h : b.length = 20 then some ⟨b, h⟩ else none

def bech32Of (hrp : String) (b : Bytes) : String := Text.Bech32.encode hrp (Text.Bech32.toFive b)

def toText (a : Address) : String := bech32Of accountPrefix a.bytes

/-- How an address is shown among event attributes: nothing for the zero address. -/
def shown (a : Address) : String := if a.isZero then "" else a.toText

def toHex (a : Address) : String := Bytes.toHex a.bytes

def decode (s : String) : Except String (String × Bytes) :=
  match Text.Bech32.decode s with
  | .error e => .error ("invalid bech32 string: " ++ e.message)
  | .ok (hrp, data) =>
    match Text.Bech32.toEight data with
    | none => .error "error converting bits: invalid incomplete group"
    | some b =>
      if b.length = 20 then .ok (hrp, b)
      else .error ("address must be 20 bytes, got " ++ toString b.length)

/-- The address written as account text, surrounding blanks ignored. -/
def parse (s : String) : Except String Address :=
  match decode (Text.trim s) with
  | .error e => .error e
  | .ok (hrp, b) =>
    if hrp = accountPrefix then
      match ofBytes? b with
      | some a => .ok a
      | none => .error ("address must be 20 bytes, got " ++ toString b.length)
    else .error ("unexpected address prefix " ++ Text.quoted hrp)

end Address

end Issuance
