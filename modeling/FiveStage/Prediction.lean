import FiveStage.Bits

/-!
# Branch prediction

Four heuristics: two that always say the same, and two that learn. Learning is kept in buckets
chosen by the address of the branch. A two-bit counter moves with the outcome of its own prediction;
the bimodal heuristic has one counter a bucket, the adaptive one chooses among sixteen by the last
four outcomes of the bucket.

## Main definitions

* `Heuristic`, `Heuristic.ofCode?`: the heuristics and the codes that name them
* `Counter`: two-bit counters
* `Predictor.predict`, `Predictor.update`: a prediction, and what is learnt from the outcome
-/

namespace FiveStage

/-- How the direction of a branch is guessed. -/
inductive Heuristic
  | alwaysTaken
  | alwaysNotTaken
  | bimodal
  | adaptive
deriving DecidableEq, Repr

namespace Heuristic

/-- The heuristic that is used if none is named. -/
def default : Heuristic := .alwaysNotTaken

instance : Inhabited Heuristic := ⟨default⟩

/-- All heuristics. -/
def all : List Heuristic := [.alwaysTaken, .alwaysNotTaken, .bimodal, .adaptive]

/-- The name in reports. -/
def name : Heuristic → String
  | alwaysTaken => "Always Taken"
  | alwaysNotTaken => "Always Not Taken"
  | bimodal => "Bimodal"
  | adaptive => "Self Adjustment"

/-- The short name on the command line. -/
def code : Heuristic → String
  | alwaysTaken => "AT"
  | alwaysNotTaken => "ANT"
  | bimodal => "BI"
  | adaptive => "SA"

/-- The capital of a character as far as codes are concerned: besides the letters of the alphabet,
the dotless i and the long s have capitals among them. -/
def capital (c : Char) : Char :=
  if c = 'ı' then 'I' else if c = 'ſ' then 'S' else c.toUpper

/-- The heuristic with a code, in capitals or not. -/
def ofCode? (text : String) : Option Heuristic :=
  all.find? fun h => h.code.toList == text.toList.map capital

/-- The wording of a refused code. -/
def refusal (text : String) : String :=
  s!"Invalid branch prediction heuristic: '{text}'. Expected AT, ANT, BI or SA."

end Heuristic

/-! ### Counters -/

/-- A two-bit counter; its upper half predicts that a branch is taken. -/
abbrev Counter := Fin 4

namespace Counter

/-- Whether the counter predicts a taken branch. -/
def predict (c : Counter) : Bool := 2 ≤ c.val

/-- The counter after its prediction came true or not. A strong counter stays strong or weakens, a
weak one becomes strong or changes sides. -/
def next (c : Counter) (success : Bool) : Counter :=
  match c, success with
  | 0, true => 0
  | 0, false => 1
  | 1, true => 0
  | 1, false => 2
  | 2, true => 3
  | 2, false => 1
  | 3, true => 3
  | 3, false => 2

/-- The counter after the outcome of a branch was seen. -/
def learn (c : Counter) (taken : Bool) : Counter := c.next (c.predict == taken)

/-- Seen from its value, a counter steps towards the outcome and saturates at both ends. -/
theorem val_learn (c : Counter) (taken : Bool) :
    (c.learn taken).val = if taken then min (c.val + 1) 3 else c.val - 1 := by
  revert c taken
  decide

end Counter

/-! ### Predictors -/

/-- What is learnt about the branches of one bucket: one counter, the last four outcomes, latest in
the lowest bit, and a counter for each of their patterns. -/
structure Bucket where
  counter : Counter := 0
  history : BitVec 4 := 0
  patterns : Vector Counter 16 := Vector.replicate 16 0
deriving DecidableEq, Repr

namespace Bucket

/-- The counter of the pattern that the last outcomes form. -/
def pattern (bucket : Bucket) : Counter := bucket.patterns[bucket.history.toFin]

/-- The bucket after one more outcome, as the adaptive heuristic learns it. -/
def learn (bucket : Bucket) (taken : Bool) : Bucket :=
  { bucket with
    patterns := bucket.patterns.set bucket.history.toFin (bucket.pattern.learn taken)
    history := bucket.history <<< 1 ||| (BitVec.ofBool taken).setWidth 4 }

end Bucket

/-- A heuristic with what it has learnt. -/
structure Predictor where
  heuristic : Heuristic
  buckets : Vector Bucket 16 := Vector.replicate 16 {}
deriving DecidableEq, Repr

namespace Predictor

/-- A predictor that has learnt nothing. -/
def start (heuristic : Heuristic) : Predictor := { heuristic }

/-- The number of the bucket of a branch: four bits of its address above the lowest two. -/
def bucketOf (pc : Word) : Fin 16 := (pc.extractLsb' 2 4).toFin

/-- The bucket of a branch. -/
def bucket (predictor : Predictor) (pc : Word) : Bucket := predictor.buckets[bucketOf pc]

/-- The counter consulted for the branch at an address. -/
def counter (predictor : Predictor) (pc : Word) : Counter :=
  match predictor.heuristic with
  | .adaptive => (predictor.bucket pc).pattern
  | _ => (predictor.bucket pc).counter

/-- Whether the branch at an address is expected to be taken. -/
def predict (predictor : Predictor) (pc : Word) : Bool :=
  match predictor.heuristic with
  | .alwaysTaken => true
  | .alwaysNotTaken => false
  | .bimodal | .adaptive => (predictor.counter pc).predict

/-- The predictor with the bucket of a branch changed. -/
def modifyBucket (predictor : Predictor) (pc : Word) (change : Bucket → Bucket) : Predictor :=
  { predictor with
    buckets := predictor.buckets.set (bucketOf pc) (change (predictor.bucket pc)) }

/-- The predictor after the outcome of the branch at an address was seen. -/
def update (predictor : Predictor) (pc : Word) (taken : Bool) : Predictor :=
  match predictor.heuristic with
  | .alwaysTaken | .alwaysNotTaken => predictor
  | .bimodal => predictor.modifyBucket pc fun b => { b with counter := b.counter.learn taken }
  | .adaptive => predictor.modifyBucket pc (·.learn taken)

end Predictor

end FiveStage
