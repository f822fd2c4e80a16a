import PixelScan.Text.Bytes

namespace PixelScan

/-- A place in a source: the line, with the line feed that ends it, the line's number, counted from
one, and the bytes of the line before the place. -/
structure SourceLine where
  number : Nat
  text : List Char
  column : Nat
deriving DecidableEq, Repr

def lines : List Char → List (List Char)
  | [] => [[]]
  | c :: cs =>
    if c = '\n' then [c] :: lines cs
    else
      match lines cs with
      | [] => [[c]]
      | line :: rest => (c :: line) :: rest

namespace SourceLine

/-- A place at a line feed belongs to the line that it ends; the place after the last character
belongs to the last line. -/
def locate? (number : Nat) : List (List Char) → Nat → Option SourceLine
  | [], _ => none
  | [line], offset => if offset ≤ byteLength line then some ⟨number, line, offset⟩ else none
  | line :: rest, offset =>
    if offset < byteLength line then some ⟨number, line, offset⟩
    else locate? (number + 1) rest (offset - byteLength line)

def at? (source : List Char) (offset : Nat) : Option SourceLine :=
  locate? 1 (lines source) offset

end SourceLine

theorem lines_ne_nil (cs : List Char) : lines cs ≠ [] := by
  cases cs with
  | nil => simp [lines]
  | cons c cs =>
      rw [lines]
      split
      · simp
      · split <;> simp

theorem flatten_lines (cs : List Char) : (lines cs).flatten = cs := by
  induction cs with
  | nil => rfl
  | cons c cs ih =>
      rw [lines]
      split
      · simp [ih]
      · cases h : lines cs with
        | nil => exact absurd h (lines_ne_nil cs)
        | cons line rest => simpa [h] using ih

theorem SourceLine.locate?_isSome_iff {lines : List (List Char)} (number offset : Nat)
    (h : lines ≠ []) :
    (locate? number lines offset).isSome ↔ offset ≤ byteLength lines.flatten := by
  fun_induction locate? number lines offset with
  | case1 => exact absurd rfl h
  | case2 number line offset hle => simpa using hle
  | case3 number line offset hle => simpa using hle
  | case4 number line offset rest hne hlt => simp; omega
  | case5 number line offset rest hne hlt ih =>
      rw [ih (by simpa using hne)]
      simp
      omega

theorem SourceLine.at?_eq_none_iff (source : List Char) (offset : Nat) :
    at? source offset = none ↔ byteLength source < offset := by
  have h := locate?_isSome_iff 1 offset (lines_ne_nil source)
  rw [flatten_lines] at h
  rw [← Option.not_isSome_iff_eq_none, at?, h]
  omega

end PixelScan
