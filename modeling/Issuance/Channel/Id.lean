import Issuance.Fault
import Issuance.Hash.Blake3
import Issuance.Text.Base58
import Issuance.Text.Blank
/-! # Channel identifiers

A channel is named by 32 bytes: the BLAKE3 digest of its kind followed by its
path. An identifier is written in base58; reading trims the text and accepts
exactly the texts that decode to 32 bytes. -/
namespace Issuance

inductive Kind
  | mint
  | burn
  deriving DecidableEq, Repr

def Kind.word : Kind → String
  | .mint => "mint"
  | .burn => "burn"

structure ChannelId where
  bytes : Bytes
  size : bytes.length = 32
  deriving DecidableEq

namespace ChannelId

def zero : ChannelId := ⟨List.replicate 32 0, by simp⟩

instance : Inhabited ChannelId := ⟨zero⟩

def isZero (c : ChannelId) : Bool := c.bytes.all (· = 0)

def ofBytes? (b : Bytes) : Option ChannelId :=
  if h : b.length = 32 then some ⟨b, h⟩ else none

def derive (kind : Kind) (path : String) : ChannelId :=
  ⟨Hash.Blake3.digest (Bytes.ofString (kind.word ++ path)), Hash.Blake3.length_digest _⟩

def toText (c : ChannelId) : String := Text.Base58.encode c.bytes

/-- The identifier written as `raw`; the failure quotes `raw` untrimmed. -/
def parse (raw : String) : Except Fault ChannelId :=
  match ofBytes? (Text.Base58.decode (Text.trim raw)) with
  | some c => .ok c
  | none => .error (Fault.raise .invalidInput ("malformed channel id " ++ Text.quoted raw))

end ChannelId

end Issuance
