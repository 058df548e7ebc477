import Mailroom.Digest.Blake2
import Mailroom.Digest.Md5
import Mailroom.Digest.Ripemd
import Mailroom.Digest.Sha1
import Mailroom.Digest.Sha2
import Mailroom.Digest.Sha3
import Mailroom.Digest.Sm3

/-!
# Digest algorithms

The algorithms a message can be digested with, their names, and the running digest of a message
that arrives in pieces (`Hasher`). Names are looked up in two ways. A catalogue name is an
algorithm's own name in lower case. A stage also accepts two aliases as they stand, and in any
letter case the classic names, the dashed spellings of the standards, and the object identifiers.
Extendable functions have names too, but no fixed size, and are refused.
-/

namespace Mailroom

/-- A digest algorithm of fixed size. -/
inductive Algorithm where
  /-- BLAKE2b, 64 bytes. -/
  | blake2b
  /-- BLAKE2s, 32 bytes. -/
  | blake2s
  /-- MD5, 16 bytes. -/
  | md5
  /-- MD5 followed by SHA-1, 36 bytes. -/
  | md5Sha1
  /-- RIPEMD-160, 20 bytes. -/
  | ripemd160
  /-- SHA-1, 20 bytes. -/
  | sha1
  /-- SHA-224, 28 bytes. -/
  | sha224
  /-- SHA-256, 32 bytes. -/
  | sha256
  /-- SHA-384, 48 bytes. -/
  | sha384
  /-- SHA3-224, 28 bytes. -/
  | sha3Of224
  /-- SHA3-256, 32 bytes. -/
  | sha3Of256
  /-- SHA3-384, 48 bytes. -/
  | sha3Of384
  /-- SHA3-512, 64 bytes. -/
  | sha3Of512
  /-- SHA-512, 64 bytes. -/
  | sha512
  /-- SHA-512/224, 28 bytes. -/
  | sha512Short224
  /-- SHA-512/256, 32 bytes. -/
  | sha512Short256
  /-- SM3, 32 bytes. -/
  | sm3
  deriving DecidableEq, Repr

namespace Algorithm

/-- Every algorithm. -/
def all : List Algorithm :=
  [blake2b, blake2s, md5, md5Sha1, ripemd160, sha1, sha224, sha256, sha384, sha3Of224, sha3Of256,
    sha3Of384, sha3Of512, sha512, sha512Short224, sha512Short256, sm3]

/-- The catalogue name of an algorithm. -/
def name : Algorithm → String
  | blake2b => "blake2b"
  | blake2s => "blake2s"
  | md5 => "md5"
  | md5Sha1 => "md5-sha1"
  | ripemd160 => "ripemd160"
  | sha1 => "sha1"
  | sha224 => "sha224"
  | sha256 => "sha256"
  | sha384 => "sha384"
  | sha3Of224 => "sha3_224"
  | sha3Of256 => "sha3_256"
  | sha3Of384 => "sha3_384"
  | sha3Of512 => "sha3_512"
  | sha512 => "sha512"
  | sha512Short224 => "sha512_224"
  | sha512Short256 => "sha512_256"
  | sm3 => "sm3"

/-- The digest of a whole message. -/
def hash : Algorithm → Bytes → Bytes
  | blake2b => Digest.Blake2.blake2b
  | blake2s => Digest.Blake2.blake2s
  | md5 => Digest.Md5.digest
  | md5Sha1 => fun b => Digest.Md5.digest b ++ Digest.Sha1.digest b
  | ripemd160 => Digest.Ripemd.digest
  | sha1 => Digest.Sha1.digest
  | sha224 => Digest.Sha2.sha224
  | sha256 => Digest.Sha2.sha256
  | sha384 => Digest.Sha2.sha384
  | sha3Of224 => Digest.Sha3.digest 28
  | sha3Of256 => Digest.Sha3.digest 32
  | sha3Of384 => Digest.Sha3.digest 48
  | sha3Of512 => Digest.Sha3.digest 64
  | sha512 => Digest.Sha2.sha512
  | sha512Short224 => Digest.Sha2.sha512Short224
  | sha512Short256 => Digest.Sha2.sha512Short256
  | sm3 => Digest.Sm3.digest

/-! ### Looking up names -/

/-- What a name can stand for. -/
inductive Entry where
  /-- An algorithm of fixed size. -/
  | fixed (algorithm : Algorithm)
  /-- A function whose output has no size of its own, as that of an extendable one. -/
  | extendable
  deriving DecidableEq, Repr

/-- Why a name gives no algorithm. -/
inductive NameError where
  /-- No algorithm has the name. -/
  | unknown (name : String)
  /-- The name is that of an extendable function. -/
  | extendable (name : String)
  deriving DecidableEq, Repr

/-- The wording of a name that a stage refuses. -/
def NameError.message : NameError → String
  | .unknown name => "unsupported hash type " ++ name
  | .extendable name => "digest algorithm " ++ name ++ " has no fixed digest size"

/-- The catalogue: every algorithm under its own name, and the extendable functions. -/
def catalogue : List (String × Entry) :=
  all.map (fun a => (a.name, .fixed a)) ++
    [("shake_128", .extendable), ("shake_256", .extendable)]

/-- More names of algorithms, known as they stand. -/
def aliases : List (String × Entry) :=
  [("SHA512_224", .fixed sha512Short224), ("SHA512_256", .fixed sha512Short256)]

/-- Object identifiers. -/
def identifiers : List (String × Entry) :=
  [("2.16.840.1.101.3.4.2.1", .fixed sha256), ("2.16.840.1.101.3.4.2.2", .fixed sha384),
    ("2.16.840.1.101.3.4.2.3", .fixed sha512), ("2.16.840.1.101.3.4.2.4", .fixed sha224),
    ("2.16.840.1.101.3.4.2.5", .fixed sha512Short224),
    ("2.16.840.1.101.3.4.2.6", .fixed sha512Short256),
    ("2.16.840.1.101.3.4.2.7", .fixed sha3Of224), ("2.16.840.1.101.3.4.2.8", .fixed sha3Of256),
    ("2.16.840.1.101.3.4.2.9", .fixed sha3Of384), ("2.16.840.1.101.3.4.2.10", .fixed sha3Of512),
    ("2.16.840.1.101.3.4.2.11", .extendable), ("2.16.840.1.101.3.4.2.12", .extendable),
    ("1.2.840.113549.2.5", .fixed md5), ("1.3.14.3.2.26", .fixed sha1),
    ("1.3.36.3.2.1", .fixed ripemd160), ("1.2.156.10197.1.401", .fixed sm3),
    ("1.3.6.1.4.1.1722.12.2.1.16", .fixed blake2b), ("1.3.6.1.4.1.1722.12.2.2.8", .fixed blake2s)]

/-- Names that are known in any letter case. -/
def spellings : List (String × Entry) :=
  [md5, md5Sha1, ripemd160, sha1, sha224, sha256, sha384, sha512, sm3].map
    (fun a => (a.name, .fixed a)) ++
  [("ssl3-md5", .fixed md5), ("sha-1", .fixed sha1), ("ssl3-sha1", .fixed sha1),
    ("sha-224", .fixed sha224), ("sha2-224", .fixed sha224),
    ("sha-256", .fixed sha256), ("sha2-256", .fixed sha256),
    ("sha-384", .fixed sha384), ("sha2-384", .fixed sha384),
    ("sha-512", .fixed sha512), ("sha2-512", .fixed sha512),
    ("sha512-224", .fixed sha512Short224), ("sha-512/224", .fixed sha512Short224),
    ("sha2-512/224", .fixed sha512Short224),
    ("sha512-256", .fixed sha512Short256), ("sha-512/256", .fixed sha512Short256),
    ("sha2-512/256", .fixed sha512Short256),
    ("sha3-224", .fixed sha3Of224), ("sha3-256", .fixed sha3Of256),
    ("sha3-384", .fixed sha3Of384), ("sha3-512", .fixed sha3Of512),
    ("blake2b512", .fixed blake2b), ("blake2b-512", .fixed blake2b),
    ("blake2s256", .fixed blake2s), ("blake2s-256", .fixed blake2s),
    ("ripemd-160", .fixed ripemd160), ("ripemd", .fixed ripemd160), ("rmd160", .fixed ripemd160),
    ("shake128", .extendable), ("shake-128", .extendable),
    ("shake256", .extendable), ("shake-256", .extendable),
    ("keccak-kmac128", .extendable), ("keccak-kmac-128", .extendable),
    ("keccak-kmac256", .extendable), ("keccak-kmac-256", .extendable), ("null", .extendable)] ++
  identifiers

/-- ASCII lower case. -/
def foldAscii (name : String) : String := name.map Char.toLower

/-- The entry a stage finds under a name. -/
def entry? (name : String) : Option Entry :=
  match (catalogue ++ aliases).lookup name with
  | some e => some e
  | none => spellings.lookup (foldAscii name)

/-- The algorithm a stage uses for a name. -/
def ofName (name : String) : Except NameError Algorithm :=
  match entry? name with
  | some (.fixed a) => .ok a
  | some .extendable => .error (.extendable name)
  | none => .error (.unknown name)

end Algorithm

/-! ### Digesting in pieces -/

/-- The running digest of a message that arrives in pieces. -/
structure Hasher where
  /-- The algorithm in use. -/
  algorithm : Algorithm
  /-- Everything fed in so far. -/
  fed : Bytes

namespace Hasher

/-- A running digest that has seen nothing. -/
def new (algorithm : Algorithm) : Hasher := ⟨algorithm, ByteArray.empty⟩

/-- Feed in one more piece. -/
def update (h : Hasher) (piece : Bytes) : Hasher := { h with fed := h.fed ++ piece }

/-- The digest of everything fed in. -/
def digest (h : Hasher) : Bytes := h.algorithm.hash h.fed

end Hasher

end Mailroom
