namespace PixelScan

/-- A quotient by a power of ten in decimals, without the zeros that would end it. -/
def decimals (n unit : Nat) : String :=
  let places := (Nat.toDigits 10 unit).length - 1
  let fraction := Nat.toDigits 10 (n % unit)
  let padded := List.replicate (places - fraction.length) '0' ++ fraction
  let kept := (padded.reverse.dropWhile (· == '0')).reverse
  let whole := toString (n / unit)
  if kept.isEmpty then whole else whole ++ "." ++ String.ofList kept

def durationText (nanoseconds : Nat) : String :=
  if nanoseconds < 1000 then toString nanoseconds ++ "ns"
  else if nanoseconds < 1000000 then decimals nanoseconds 1000 ++ "µs"
  else if nanoseconds < 1000000000 then decimals nanoseconds 1000000 ++ "ms"
  else decimals nanoseconds 1000000000 ++ "s"

end PixelScan
