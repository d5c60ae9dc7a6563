/-!
# Fingerprints of texts

The 64-bit FNV-1a hash: starting from an offset, each byte is mixed in by an exclusive or followed by
a multiplication with a prime.
-/
namespace Telemetry

def fingerprintBytes (bytes : List UInt8) : UInt64 :=
  bytes.foldl (fun h b => (h ^^^ b.toUInt64) * 0x100000001b3) 0xcbf29ce484222325

/-- The fingerprint of the bytes of a text in UTF-8. -/
def fingerprint (s : String) : Nat := (fingerprintBytes s.toUTF8.toList).toNat

end Telemetry
