/-
The address to listen on.

The bind address and the port make one text, which is then read as a socket
address.  An address with colons gets the brackets it needs, unless it already
starts with one.
-/
import SplitHorizon.Settings.Basic
import SplitHorizon.Text.Numeral

namespace SplitHorizon
namespace ListenSettings

def listenChars (bindAddress : List Char) (dnsPort : UInt16) : List Char :=
  let port := ':' :: Text.decimalChars dnsPort.toNat
  if bindAddress.contains ':' && bindAddress.head? ≠ some '[' then
    '[' :: (bindAddress ++ ']' :: port)
  else bindAddress ++ port

def listenAddress (settings : ListenSettings) : String :=
  String.ofList (listenChars settings.bindAddress.toList settings.dnsPort)

end ListenSettings
end SplitHorizon
