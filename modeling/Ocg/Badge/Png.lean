import Ocg.Binary.Bytes
import Ocg.Relational.Transaction

/-!
# Credentials in PNG files

A badge credential travels inside its artwork, as one uncompressed text chunk before the terminator
of the PNG stream. Chunks are written by `encode_chunk` and `insert_credential_chunk`, and read back
by `read_chunk` and the scan of `extract`, which work on the bytes with offsets of their own.

The checksum of a chunk and the decoding of the image are parameters. Bytes are lists; no offset of
an accepted file comes near the range of a machine word.
-/

namespace Ocg.Png

open Relational Binary

inductive PngError
  | invalidPng
  | pngLimitExceeded
  deriving DecidableEq, Repr

/-! ## Constants -/

/-- `CREDENTIAL_KEYWORD`, `openbadgecredential`. -/
def credentialKeyword : List UInt8 :=
  [111, 112, 101, 110, 98, 97, 100, 103, 101, 99, 114, 101, 100, 101, 110, 116, 105, 97, 108]

/-- `IEND`. -/
def iend : List UInt8 := [73, 69, 78, 68]

/-- `ITXT`, `iTXt`. -/
def itxt : List UInt8 := [105, 84, 88, 116]

def maxCredentialSize : ℕ := 256 * 1024

def maxPngChunks : ℕ := 4096

def maxPngSize : ℕ := 12 * 1024 * 1024

/-- `PNG_SIGNATURE`. -/
def pngSignature : List UInt8 := [137, 80, 78, 71, 13, 10, 26, 10]

section Functions

variable (crc : List UInt8 → UInt32)

/-! ## Writing -/

/-- `encode_chunk`. -/
def encodeChunk (kind data : List UInt8) : Except PngError (List UInt8) := do
  require (data.length < 2 ^ 32) .pngLimitExceeded
  .ok (toBigEndian 4 data.length ++ kind ++ data ++ toBigEndian 4 (crc (kind ++ data)).toNat)

/-- `read_chunk`: the kind and the data of the chunk at the offset, and the offset behind it. -/
def readChunk (png : List UInt8) (offset : ℕ) : Except PngError (List UInt8 × List UInt8 × ℕ) :=
  match slice png offset (offset + 8) with
  | none => .error .invalidPng
  | some header => do
    let length := ofBigEndian (header.take 4)
    require (length ≤ maxPngSize) .pngLimitExceeded
    let stop := offset + 12 + length
    match slice png offset stop with
    | none => .error .invalidPng
    | some chunk => do
      let kind := (chunk.drop 4).take 4
      let data := (chunk.drop 8).take length
      let expectedCrc := ofBigEndian ((chunk.drop (8 + length)).take 4)
      require ((crc (kind ++ data)).toNat = expectedCrc) .invalidPng
      .ok (kind, data, stop)

/-- The loop of `insert_credential_chunk` that looks for the terminator. Every turn moves on by a
chunk at least, so that the length of the file bounds the turns. -/
def findIend (png : List UInt8) : ℕ → ℕ → Except PngError (Option ℕ)
  | 0, _ => .ok none
  | turns + 1, cursor =>
    if cursor < png.length then do
      let (kind, _, next) ← readChunk crc png cursor
      if kind = iend then .ok (some cursor) else findIend png turns next
    else .ok none

/-- The data of the chunk that carries a credential. -/
def credentialData (credential : List UInt8) : List UInt8 :=
  credentialKeyword ++ [0, 0, 0, 0, 0] ++ credential

/-- `insert_credential_chunk`. -/
def insertCredentialChunk (png credential : List UInt8) : Except PngError (List UInt8) := do
  match ← findIend crc png png.length pngSignature.length with
  | none => .error .invalidPng
  | some iendOffset => do
    let chunk ← encodeChunk crc itxt (credentialData credential)
    .ok (png.take iendOffset ++ chunk ++ png.drop iendOffset)

/-! ## Reading -/

/-- `parse_credential_itxt`. -/
def parseCredentialItxt (data : List UInt8) : Except PngError (List UInt8) := do
  let prefixLength := credentialKeyword.length + 5
  require (data.length ≤ prefixLength + maxCredentialSize
      ∧ slice data 0 credentialKeyword.length = some credentialKeyword
      ∧ slice data credentialKeyword.length prefixLength = some [0, 0, 0, 0, 0]) .invalidPng
  .ok (data.drop prefixLength)

/-- The loop of `extract`, with the number of chunks that may still be parsed. -/
def scan (png : List UInt8) : ℕ → ℕ → Option (List UInt8) → Except PngError (Option (List UInt8))
  | chunksLeft, cursor, credential =>
    if cursor < png.length then
      match chunksLeft with
      | 0 => .error .pngLimitExceeded
      | chunksLeft + 1 => do
        let (kind, data, next) ← readChunk crc png cursor
        let credential ←
          if kind = itxt ∧ credentialKeyword <+: data then do
            let text ← parseCredentialItxt data
            require (credential = none) .invalidPng
            .ok (some text)
          else .ok credential
        if kind = iend then do
          require (next = png.length) .invalidPng
          .ok credential
        else scan png chunksLeft next credential
    else .error .invalidPng

/-- `extract`. -/
def extract (decodes : List UInt8 → Bool) (png : List UInt8) : Except PngError (List UInt8) := do
  require (png.length ≤ maxPngSize ∧ pngSignature <+: png) .invalidPng
  require (decodes png = true) .invalidPng
  match ← scan crc png maxPngChunks pngSignature.length none with
  | none => .error .invalidPng
  | some credential => .ok credential

end Functions

end Ocg.Png
