import VoiceDebugger.Number.Text

/-!
How loud a sound is.
-/

namespace VoiceDebugger

/-- The sum of numbers, added from left to right. -/
def sumInOrder (start : Float) (xs : List Float) : Float :=
  xs.foldl (· + ·) start

/-- Add a row of eight to eight running sums. -/
def addRow (sums row : List Float) : List Float :=
  List.zipWith (· + ·) sums row

/-- Eight running sums over rows of eight, and what is left when no full row is. -/
def sumRows (sums : List Float) : List Float → List Float × List Float
  | a :: b :: c :: d :: e :: f :: g :: h :: rest =>
    sumRows (addRow sums [a, b, c, d, e, f, g, h]) rest
  | rest => (sums, rest)

/-- The sum of a block: by eight running sums that are added in pairs, then what is left. -/
def sumBlock (xs : List Float) : Float :=
  match xs with
  | a :: b :: c :: d :: e :: f :: g :: h :: rest =>
    match sumRows [a, b, c, d, e, f, g, h] rest with
    | ([a, b, c, d, e, f, g, h], left) =>
      sumInOrder (((a + b) + (c + d)) + ((e + f) + (g + h))) left
    | (_, left) => sumInOrder 0 left
  | _ => sumInOrder 0 xs

/-- The longest block that is summed at once. -/
def blockLength : Nat := 128

/-- The sum of a list by halves, down to blocks; halves are made of whole rows of eight. -/
def sumByHalves (xs : List Float) : Float :=
  if xs.length ≤ blockLength then sumBlock xs
  else
    let half := xs.length / 2 - xs.length / 2 % 8
    sumByHalves (xs.take half) + sumByHalves (xs.drop half)
termination_by xs.length
decreasing_by
  · simp only [List.length_take, blockLength] at *
    omega
  · simp only [List.length_drop, blockLength] at *
    omega

/-- The greater of two numbers; one that is no number wins. -/
def louder (a b : Float) : Float :=
  if a.isNaN then a else if b > a || b.isNaN then b else a

/-- The greatest deflection of a sound; an empty sound has none. -/
def peak? : List Float → Option Float
  | [] => none
  | x :: rest => some ((rest.map Float.abs).foldl louder x.abs)

def meanLevel (xs : List Float) : Float :=
  sumByHalves (xs.map Float.abs) / Float.ofNat xs.length

/-- The loudness of a chunk of sound: ten times its length as a vector. -/
def loudness (xs : List Float) : Float :=
  (sumInOrder 0 (xs.map fun x => x * x)).sqrt * 10

def loudnessMark (volume : Float) : Char :=
  if volume < 1 then '░'
  else if volume < 3 then '▒'
  else if volume < 6 then '▓'
  else '█'

/-- The most marks that are drawn. -/
def barLength : Nat := 20

/-- A text filled with spaces to a width. -/
def padTo (width : Nat) (s : String) : String :=
  s ++ String.ofList (List.replicate (width - s.length) ' ')

def loudnessBar (volume : Float) : String :=
  let count := if volume > Float.ofNat barLength then barLength else volume.toUInt64.toNat
  let bar := padTo barLength (String.ofList (List.replicate count (loudnessMark volume)))
  s!"\r   🎤 {bar} {Number.fixed 1 volume}"

end VoiceDebugger
