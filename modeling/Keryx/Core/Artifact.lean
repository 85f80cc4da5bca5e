import Keryx.Core.Limits

/-! Artifact descriptors, content digests and origin-owned artifact identities. SHA-256 is a parameter. -/

namespace Keryx.Core

abbrev Bytes := List UInt8

def maxInlineArtifactBytes : Nat := 64 * 1024

def maxCrossNodeResultArtifactBytes : Nat := 4 * 1024 * 1024

def isLowerHexdigit (ch : Char) : Bool := ch.isDigit || ('a' ≤ ch && ch ≤ 'f')

@[ext] structure Digest where
  value : String
  sized : value.toList.length = 64
  hex : value.toList.all isLowerHexdigit = true
deriving DecidableEq

instance : Inhabited Digest where
  default := ⟨"0000000000000000000000000000000000000000000000000000000000000000", by decide, by decide⟩

/-- The hash function behind every content digest. -/
class Sha256 where
  digest : Bytes → Digest

instance : Inhabited Sha256 where
  default := ⟨fun _ => default⟩

def Digest.compute [Sha256] (bytes : Bytes) : Digest := Sha256.digest bytes

/-- Trims, turns to lower case, and checks for 64 hexadecimal digits. -/
def Digest.new (value : String) : Except ValidationError Digest :=
  let normalized := (trimChars value.toList).map Char.toLower
  if valid : normalized.length = 64 ∧ normalized.all isLowerHexdigit = true then
    .ok
      { value := String.ofList normalized
        sized := by rw [String.toList_ofList]; exact valid.1
        hex := by rw [String.toList_ofList]; exact valid.2 }
  else .error (.invalidDigest value)

theorem isAllowedIdChar_of_hex {ch : Char} (hex : isLowerHexdigit ch = true) : isAllowedIdChar ch = true := by
  simp only [isLowerHexdigit, Bool.or_eq_true, Bool.and_eq_true, decide_eq_true_eq] at hex
  delta isAllowedIdChar Char.isAlphanum Char.isAlpha Char.isLower
  simp only [Bool.or_eq_true, Bool.and_eq_true,
    decide_eq_true_eq, ge_iff_le]
  rcases hex with digit | ⟨low, high⟩
  · simp [digit]
  · have lower : 97 ≤ ch.val ∧ ch.val ≤ 122 := ⟨low, UInt32.le_trans high (show 'f'.val ≤ 122 by decide)⟩
    simp [lower]

theorem toLower_of_hex {ch : Char} (hex : isLowerHexdigit ch = true) : ch.toLower = ch := by
  simp only [isLowerHexdigit, Char.isDigit, Bool.or_eq_true, Bool.and_eq_true, decide_eq_true_eq] at hex
  unfold Char.toLower
  have small : ¬(65 ≤ ch.val ∧ ch.val ≤ 90) := by
    rintro ⟨above, below⟩
    rcases hex with ⟨_, digit⟩ | ⟨letter, _⟩
    · exact absurd (UInt32.le_trans above digit) (by decide)
    · exact absurd (UInt32.le_trans letter below) (by decide)
  split
  · rename_i upper
    exact absurd upper small
  · rfl

theorem Digest.new_value (digest : Digest) : Digest.new digest.value = .ok digest := by
  have allowed : digest.value.toList.all isAllowedIdChar = true :=
    List.all_eq_true.mpr fun ch member => isAllowedIdChar_of_hex (List.all_eq_true.mp digest.hex ch member)
  have lower : digest.value.toList.map Char.toLower = digest.value.toList := by
    rw [List.map_congr_left (fun ch member => toLower_of_hex (List.all_eq_true.mp digest.hex ch member))]
    exact List.map_id _
  have normal : (trimChars digest.value.toList).map Char.toLower = digest.value.toList := by
    rw [trimChars_of_allowed allowed, lower]
  unfold Digest.new
  simp only [normal, digest.sized, digest.hex, and_self, dite_true, String.ofList_toList]

def beBytesU32 (value : Nat) : Bytes :=
  [UInt8.ofNat (value / 2 ^ 24), UInt8.ofNat (value / 2 ^ 16), UInt8.ofNat (value / 2 ^ 8), UInt8.ofNat value]

/-- The bytes of an identifier: its characters are ASCII. -/
def Identifier.asBytes {kind : IdKind} (id : Identifier kind) : Bytes :=
  id.value.toList.map (fun ch => UInt8.ofNat ch.toNat)

def originResultArtifactId [Sha256] (taskId : TaskId) (ordinal : Nat) : ArtifactId :=
  let digest := Sha256.digest (taskId.asBytes ++ [0] ++ beBytesU32 ordinal)
  { value := "origin-result-" ++ digest.value
    present := by rw [String.toList_append]; simp
    bounded := by rw [String.toList_append, List.length_append, digest.sized]; decide
    allowed := by
      rw [String.toList_append, List.all_append, Bool.and_eq_true]
      refine ⟨by decide, List.all_eq_true.mpr ?_⟩
      intro ch member
      exact isAllowedIdChar_of_hex (List.all_eq_true.mp digest.hex ch member) }

def defaultMediaType : String := "application/octet-stream"

/-- Trims and turns to lower case; a blank text is the default media type. -/
def normalizeMediaType (value : String) : String :=
  let normalized := (trimChars value.toList).map Char.toLower
  if normalized = [] then defaultMediaType else String.ofList normalized

structure ArtifactMeta where
  artifactId : ArtifactId
  taskId : TaskId
  digest : Digest
  mediaType : String
  byteLen : Nat
  inlined : Bool
  createdAt : String
deriving DecidableEq

def shouldInline (byteLen : Nat) : Bool := byteLen ≤ maxInlineArtifactBytes

end Keryx.Core
