import JsonSchema.Unicode.Ranges

/-!
# `JsonSchema.Unicode.Folding` — letters that differ in case alone

Simple case folding sends a code point to one code point. Two code points are alike when they fold
to the same.

## Contents
- **Tables.** `Folding.rising` and `Folding.falling`: runs of code points that fold upwards or
  downwards by a fixed distance.
- **Folding.** `Folding.fold`, and `Folding.alike`: all code points that fold to the same.
-/

namespace JsonSchema.Unicode.Folding

/-- Code points that fold by one distance: the first, how many, and the step between them. -/
structure Run where
  first : Nat
  count : Nat
  step : Nat
  distance : Nat

/-- Runs from a table of gaps between first code points, counts, steps and distances. -/
def runs : Nat → List Nat → List Run
  | start, gap :: count :: step :: distance :: rest =>
    ⟨start + gap, count, step, distance⟩ :: runs (start + gap) rest
  | _, _ => []

/-- Runs whose code points fold to larger ones. -/
def rising : List Run := runs 0 (numbers
    "65 26 1 32 116 1 1 775 11 23 1 32 24 7 1 32 40 24 2 1 50 3 2 1 7 8 2 1 17 23 2 1 47 3 2 1 8
    1 1 210 1 2 2 1 4 1 1 206 1 1 1 1 2 2 1 205 2 1 1 1 3 1 1 79 1 1 1 202 1 1 1 203 1 1 1 1 2
    1 1 205 1 1 1 207 2 1 1 211 1 1 1 209 1 1 1 1 4 1 1 211 1 1 1 213 2 1 1 214 1 3 2 1 6 1 1
    218 1 1 1 1 2 1 1 218 3 1 1 1 2 1 1 218 1 1 1 1 2 2 1 217 2 2 2 1 4 1 1 219 1 1 1 1 4 1 1 1
    8 1 1 2 1 1 1 1 2 1 1 2 1 1 1 1 2 1 1 2 1 9 2 1 19 9 2 1 19 1 1 2 1 2 2 1 6 20 2 1 42 9 2 1
    24 1 1 10795 1 1 1 1 3 1 1 10792 3 1 1 1 3 1 1 69 1 1 1 71 1 5 2 1 255 1 1 116 43 2 2 1 6 1
    1 1 9 1 1 116 7 1 1 38 2 3 1 37 4 1 1 64 2 2 1 63 3 17 1 32 18 9 1 32 31 1 1 1 13 1 1 8 9
    12 2 1 31 1 1 1 3 1 1 1 6 16 1 80 16 32 1 32 80 17 2 1 42 27 2 1 54 1 1 15 1 7 2 1 15 48 2
    1 97 38 1 48 2927 38 1 7264 39 1 1 7264 6 1 1 7264 3003 1 1 35267 376 75 2 1 160 48 2 1 658
    1 1 28 46 16 1 16 35 1 1 1 819 26 1 26 1866 48 1 48 96 1 1 1 7 3 2 1 11 1 1 1 3 1 1 1 11 50
    2 1 107 2 2 1 7 1 1 1 31054 23 2 1 64 14 2 1 162 7 2 1 16 31 2 1 71 2 2 1 5 5 2 1 13 1 1 1
    5 2 2 1 6 10 2 1 29 1 1 928 1 8 2 1 19 2 2 1 9 1 1 1 6 2 2 1 31 1 1 1 22316 26 1 32 1247 40
    1 40 176 36 1 40 192 11 1 39 12 15 1 39 16 7 1 39 8 2 1 39 1772 51 1 64 3104 32 1 32 21920
    32 1 32 31424 34 1 34")

/-- Runs whose code points fold to smaller ones. -/
def falling : List Run := runs 0 (numbers
    "376 1 1 121 7 1 1 268 119 1 1 97 1 1 1 56 41 1 1 130 29 1 1 163 6 1 1 195 397 1 1 30 1 1 1
    25 4 1 1 15 1 1 1 22 26 1 1 54 1 1 1 48 3 1 1 60 1 1 1 64 4 1 1 7 4 3 1 130 4091 6 1 8 2184
    1 1 6222 1 1 1 6221 1 1 1 6212 1 2 1 6210 2 1 1 6211 1 1 1 6204 1 1 1 6180 9 43 1 3008 45 3
    1 3008 478 1 1 58 3 1 1 7615 106 8 1 8 16 6 1 8 16 8 1 8 16 8 1 8 16 6 1 8 17 4 2 8 15 8 1
    8 32 8 1 8 16 8 1 8 16 8 1 8 16 2 1 8 2 2 1 74 2 1 1 9 2 1 1 7173 10 4 1 86 4 1 1 9 12 2 1
    8 2 2 1 100 14 2 1 8 2 2 1 112 2 1 1 7 12 2 1 128 2 2 1 126 2 1 1 9 298 1 1 7517 4 1 1 8383
    1 1 1 8262 2871 1 1 10743 1 1 1 3814 1 1 1 10727 9 1 1 10780 1 1 1 10749 1 1 1 10783 1 1 1
    10782 14 2 1 10815 31487 1 1 35332 16 1 1 42280 29 1 1 42308 1 1 1 42319 1 1 1 42315 1 1 1
    42305 1 1 1 42308 2 1 1 42258 1 1 1 42282 1 1 1 42261 18 1 1 48 1 1 1 42307 1 1 1 35384 938
    80 1 38864")

/-- Whether a run holds a code point. -/
def Run.holds (r : Run) (n : Nat) : Bool :=
  r.first ≤ n && n < r.first + r.count * r.step && (n - r.first) % r.step == 0

/-- The code point that a code point folds to. -/
def fold (n : Nat) : Nat :=
  match rising.find? (·.holds n) with
  | some r => n + r.distance
  | none =>
    match falling.find? (·.holds n) with
    | some r => n - r.distance
    | none => n

/-- All code points that fold to the same as this one, itself among them. -/
def alike (n : Nat) : List Nat :=
  let target := fold n
  let below := rising.filterMap fun r =>
    if r.distance ≤ target ∧ r.holds (target - r.distance) then some (target - r.distance) else none
  let above := falling.filterMap fun r =>
    if r.holds (target + r.distance) then some (target + r.distance) else none
  target :: (below ++ above)

end JsonSchema.Unicode.Folding
