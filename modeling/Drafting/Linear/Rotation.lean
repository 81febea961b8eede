import Drafting.Linear.Equation

/-!
# Orthogonal directions by rotation

Vectors are turned pairwise in their common plane until they are orthogonal. They go on spanning the
same space, and their lengths tell how much room the vectors take in each direction: a direction
whose length is lost beside the greatest one cannot be told apart from none.
-/

namespace Drafting.Linear

variable {α : Type} [Scalar α]

/-- The sum of two vectors with factors. -/
def combine (a : α) (xs : List α) (b : α) (ys : List α) : List α :=
  List.zipWith (fun x y => a * x + b * y) xs ys

/-- The greatest size of a number in a list. -/
def peak (xs : List α) : α := xs.foldl (fun most x => Scalar.greater most (Scalar.abs x)) 0

/-- How far from orthogonal two vectors may stay, relative to their lengths. -/
def turnTolerance : α := 1e-15

/-- Two vectors turned in their plane so that they are orthogonal. -/
def turn (xs ys : List α) : List α × List α :=
  let p := dot xs xs
  let q := dot ys ys
  let r := dot xs ys
  if Scalar.abs r ≤ turnTolerance * Scalar.sqrt (p * q) then (xs, ys)
  else
    let z := (q - p) / (2.0 * r)
    let size := 1 / (Scalar.abs z + Scalar.sqrt (1 + z * z))
    let tangent := if z < 0 then -size else size
    let cosine := 1 / Scalar.sqrt (1 + tangent * tangent)
    let sine := cosine * tangent
    (combine cosine xs (-sine) ys, combine sine xs cosine ys)

/-- A vector turned with each of others in turn. -/
def turnAll (xs : List α) : List (List α) → List α × List (List α)
  | [] => (xs, [])
  | ys :: rest =>
    let (xs, ys) := turn xs ys
    let (xs, rest) := turnAll xs rest
    (xs, ys :: rest)

/-- Every pair among the first `count` vectors turned once. -/
def sweep (count : Nat) (vectors : List (List α)) : List (List α) :=
  match count, vectors with
  | count + 1, xs :: rest =>
    let (xs, rest) := turnAll xs rest
    xs :: sweep count rest
  | _, vectors => vectors

/-- How often every pair is turned. -/
def sweepCount : Nat := 30

/-- Orthogonal vectors that span what the given ones span, all divided by their greatest number. -/
def orthogonalized (vectors : List (List α)) : List (List α) :=
  let most := peak (vectors.map peak)
  let scaled := if Scalar.isZero most then vectors else vectors.map fun v => v.map (· / most)
  (List.range sweepCount).foldl (fun vectors _ => sweep vectors.length vectors) scaled

/-- The orthogonal directions of vectors that are longer than a share of the longest. -/
def resolved (resolution : α) (vectors : List (List α)) : List (List α) :=
  let turned := orthogonalized vectors
  let longest := peak (turned.map norm)
  turned.filter fun v => decide (resolution * longest < norm v)

end Drafting.Linear
