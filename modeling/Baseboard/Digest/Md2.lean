import Baseboard.Field

/-! The MD2 message digest. -/
namespace Baseboard.Digest.Md2

/-- The substitution: a permutation of the bytes drawn from the digits of pi. -/
def substitutions : Array UInt8 := #[
  41, 46, 67, 201, 162, 216, 124, 1, 61, 54, 84, 161, 236, 240, 6, 19,
  98, 167, 5, 243, 192, 199, 115, 140, 152, 147, 43, 217, 188, 76, 130, 202,
  30, 155, 87, 60, 253, 212, 224, 22, 103, 66, 111, 24, 138, 23, 229, 18,
  190, 78, 196, 214, 218, 158, 222, 73, 160, 251, 245, 142, 187, 47, 238, 122,
  169, 104, 121, 145, 21, 178, 7, 63, 148, 194, 16, 137, 11, 34, 95, 33,
  128, 127, 93, 154, 90, 144, 50, 39, 53, 62, 204, 231, 191, 247, 151, 3,
  255, 25, 48, 179, 72, 165, 181, 209, 215, 94, 146, 42, 172, 86, 170, 198,
  79, 184, 56, 210, 150, 164, 125, 182, 118, 252, 107, 226, 156, 116, 4, 241,
  69, 157, 112, 89, 100, 113, 135, 32, 134, 91, 207, 101, 230, 45, 168, 2,
  27, 96, 37, 173, 174, 176, 185, 246, 28, 70, 97, 105, 52, 64, 126, 15,
  85, 71, 163, 35, 221, 81, 175, 58, 195, 92, 249, 206, 186, 197, 234, 38,
  44, 83, 13, 110, 133, 40, 132, 9, 211, 223, 205, 244, 65, 129, 77, 82,
  106, 220, 55, 200, 108, 193, 171, 250, 36, 225, 123, 8, 12, 189, 177, 74,
  120, 136, 149, 139, 227, 99, 232, 109, 233, 203, 213, 254, 59, 0, 29, 57,
  242, 239, 183, 14, 102, 88, 208, 228, 166, 119, 114, 248, 235, 117, 75, 10,
  49, 68, 80, 180, 143, 237, 31, 26, 219, 153, 141, 51, 159, 17, 131, 20]

def substitute (x : UInt8) : UInt8 := substitutions.getD x.toNat 0

/-- The message filled up to whole blocks of sixteen bytes, each added byte
being the number of bytes added. -/
def pad (message : Bytes) : Bytes :=
  let missing := 16 - message.length % 16
  message ++ List.replicate missing (UInt8.ofNat missing)

def blocks (padded : Bytes) : List Bytes :=
  (List.range (padded.length / 16)).map fun i => (padded.drop (16 * i)).take 16

/-- One block added to the checksum, given the last byte written to it. -/
def addToChecksum : UInt8 → Bytes → Bytes → Bytes
  | last, sum :: sums, x :: block =>
    let y := sum ^^^ substitute (x ^^^ last)
    y :: addToChecksum y sums block
  | _, _, _ => []

def checksumBlock (padded : Bytes) : Bytes :=
  (blocks padded).foldl (fun sums block => addToChecksum (sums.getLastD 0) sums block)
    (List.replicate 16 0)

/-- One pass over the buffer, each byte chained to the one before it: the last
byte and the new buffer. -/
def pass : UInt8 → Bytes → UInt8 × Bytes
  | t, [] => (t, [])
  | t, x :: rest =>
    let y := x ^^^ substitute t
    let (last, out) := pass y rest
    (last, y :: out)

def passes (buffer : Bytes) : Bytes :=
  ((List.range 18).foldl (fun (t, b) i =>
    let (last, out) := pass t b
    (last + UInt8.ofNat i, out)) (0, buffer)).2

def compress (state block : Bytes) : Bytes :=
  (passes (state ++ block ++ List.zipWith (· ^^^ ·) block state)).take 16

def digest (message : Bytes) : Field :=
  let padded := pad message
  Field.fit ((blocks (padded ++ checksumBlock padded)).foldl compress (List.replicate 16 0))

end Baseboard.Digest.Md2
