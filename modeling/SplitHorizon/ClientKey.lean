/-
Who a set of answers is for: one client, told by its address, or everybody
else.

Addresses are folded before they become keys, so a client reached over IPv4 and
one reached over the IPv6 form of the same address share a key, and no address
can collide with the default key.
-/
import SplitHorizon.Address.Ip

namespace SplitHorizon

inductive ClientKey where
  | default
  | client (ip : Ip)
deriving DecidableEq, Repr

namespace ClientKey

def ofIp (ip : Ip) : ClientKey :=
  .client ip.fold

def defaultText : String := "default"

/-- Reads `default` or an address in any of its spellings. -/
def parse? (s : String) : Option ClientKey :=
  if s = defaultText then some .default else (Ip.parse? s).map ofIp

def text : ClientKey → String
  | .default => defaultText
  | .client ip => ip.text

def isDefault : ClientKey → Bool
  | .default => true
  | .client _ => false

end ClientKey
end SplitHorizon
