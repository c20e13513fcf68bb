import Mathlib.Algebra.Group.Nat.Defs
import Mathlib.Data.List.Basic

/-!
# Frames that tell their length

A frame is the length of its data in four bytes, the highest first, and the
data.  A frame of length zero ends a stream of frames.
-/

namespace Aiphabee.Frames

/-- A number below `2 ^ 32` in four bytes. -/
def bigEndian32 (n : Nat) : List UInt8 :=
  [UInt8.ofNat (n / 2 ^ 24), UInt8.ofNat (n / 2 ^ 16), UInt8.ofNat (n / 2 ^ 8), UInt8.ofNat n]

/-- The number that four bytes stand for. -/
def valueOf (a b c d : UInt8) : Nat :=
  a.toNat * 2 ^ 24 + b.toNat * 2 ^ 16 + c.toNat * 2 ^ 8 + d.toNat

def encodeFrame (data : List UInt8) : List UInt8 :=
  bigEndian32 data.length ++ data

def endFrame : List UInt8 := [0, 0, 0, 0]

def encodeFrames (chunks : List (List UInt8)) : List UInt8 :=
  chunks.flatMap encodeFrame

def decodeFrames : List UInt8 → Option (List UInt8 × List UInt8)
  | a :: b :: c :: d :: rest =>
    let length := valueOf a b c d
    if length = 0 then
      some ([], rest)
    else if length ≤ rest.length then
      (decodeFrames (rest.drop length)).map fun (data, behind) =>
        (rest.take length ++ data, behind)
    else
      none
  | _ => none
termination_by bytes => bytes.length
decreasing_by
  simp only [List.length_drop, List.length_cons]
  omega

theorem valueOf_bigEndian32 {n : Nat} (h : n < 2 ^ 32) :
    valueOf (UInt8.ofNat (n / 2 ^ 24)) (UInt8.ofNat (n / 2 ^ 16)) (UInt8.ofNat (n / 2 ^ 8))
      (UInt8.ofNat n) = n := by
  simp only [valueOf, UInt8.toNat_ofNat']
  omega

theorem decodeFrames_cons (a b c d : UInt8) (rest : List UInt8) :
    decodeFrames (a :: b :: c :: d :: rest) =
      if valueOf a b c d = 0 then
        some ([], rest)
      else if valueOf a b c d ≤ rest.length then
        (decodeFrames (rest.drop (valueOf a b c d))).map fun (data, behind) =>
          (rest.take (valueOf a b c d) ++ data, behind)
      else
        none := by
  rw [decodeFrames]

theorem decodeFrames_frame {data : List UInt8} (hsome : data ≠ []) (hsize : data.length < 2 ^ 32)
    (bytes : List UInt8) :
    decodeFrames (encodeFrame data ++ bytes) =
      (decodeFrames bytes).map fun (rest, behind) => (data ++ rest, behind) := by
  have hpositive : data.length ≠ 0 := fun h => hsome (List.length_eq_zero_iff.mp h)
  have hlength : data.length ≤ (data ++ bytes).length := by simp
  have hframe := decodeFrames_cons (UInt8.ofNat (data.length / 2 ^ 24))
    (UInt8.ofNat (data.length / 2 ^ 16)) (UInt8.ofNat (data.length / 2 ^ 8))
    (UInt8.ofNat data.length) (data ++ bytes)
  rw [valueOf_bigEndian32 hsize, if_neg hpositive, if_pos hlength, List.drop_left,
    List.take_left] at hframe
  simpa [encodeFrame, bigEndian32] using hframe

theorem decodeFrames_encodeFrames (chunks : List (List UInt8))
    (h : ∀ chunk ∈ chunks, chunk ≠ [] ∧ chunk.length < 2 ^ 32) (behind : List UInt8) :
    decodeFrames (encodeFrames chunks ++ endFrame ++ behind) = some (chunks.flatten, behind) := by
  induction chunks with
  | nil =>
    change decodeFrames (0 :: 0 :: 0 :: 0 :: behind) = _
    rw [decodeFrames_cons, if_pos (by decide), List.flatten_nil]
  | cons chunk rest ih =>
    obtain ⟨⟨hsome, hsize⟩, hrest⟩ := List.forall_mem_cons.mp h
    have hcons : encodeFrames (chunk :: rest) ++ endFrame ++ behind =
        encodeFrame chunk ++ (encodeFrames rest ++ endFrame ++ behind) := by
      simp [encodeFrames]
    rw [hcons, decodeFrames_frame hsome hsize, ih hrest]
    rfl

end Aiphabee.Frames
