import FeatureFlags.Hash.Sha1
import FeatureFlags.Text.Utf8

namespace FeatureFlags

/-! Identifiers of sixteen bytes that a name has within a namespace. -/

namespace NameUuid

/-- The namespace of addresses. -/
def addresses : List UInt8 :=
  [0x6b, 0xa7, 0xb8, 0x11, 0x9d, 0xad, 0x11, 0xd1, 0x80, 0xb4, 0x00, 0xc0, 0x4f, 0xd4, 0x30, 0xc8]

/-- Digest of the namespace and the name, cut to sixteen bytes and marked as version 5 of the
standard variant. -/
def named (space : List UInt8) (name : String) : List UInt8 :=
  ((Sha1.digest (space ++ Text.utf8Bytes name.toList)).take 16).zipIdx.map fun (b, i) =>
    if i = 6 then (b &&& 0x0f) ||| 0x50
    else if i = 8 then (b &&& 0x3f) ||| 0x80
    else b

/-- Two upper-case hexadecimal digits for each byte, without dashes. -/
def text (uuid : List UInt8) : String :=
  String.ofList (uuid.flatMap fun b => [digit (b.toNat / 16), digit (b.toNat % 16)])
where
  digit (n : Nat) : Char := (Nat.digitChar n).toUpper

/-- The name under which a user appears in the lists of an account, when lists hold no plain user
ids: each step names within the result of the step before. -/
def listedUser (user : String) (account : UInt64) : String :=
  let root := named addresses "https://vwo.com"
  text (named (named root (toString account.toNat)) user)

end NameUuid

end FeatureFlags
