import FiveStage.Proofs.Cache.Flatness
import FiveStage.Proofs.Cache.Likeness

/-!
# Storages do not look at data

Two runs may write different bytes to memories with different contents. As long as they ask for the
same addresses, in the same direction and for as many bytes, nothing tells them apart but the bytes:
not the outcomes with their cycles, not a counter, and not which blocks the caches hold, how long
ago they were used and whether they are dirty.

## Main definitions

* `Likeness.shapes`: bytes may differ, times may not
* `Request.SameShape`: requests that differ at most in the bytes they bring
* `Chain.SameRecords`: chains that differ at most in the bytes they hold

## Main results

* `Chain.oblivious`: what a chain does is determined by the shapes of the requests
-/

namespace FiveStage

/-- Bytes may differ in any way, times may not differ. -/
def Likeness.shapes : Likeness where
  bytes _ _ := True
  time := Eq
  bytes_refl _ := trivial
  time_refl _ := rfl
  time_add same same' := congrArg₂ (· + ·) same same'

/-- Strings of one length are alike if bytes may differ. -/
theorem Likeness.strings_shapes {bytes bytes' : Bytes} (same : bytes.length = bytes'.length) :
    shapes.strings bytes bytes' := by
  induction bytes generalizing bytes' with
  | nil =>
    obtain rfl := List.eq_nil_of_length_eq_zero same.symm
    exact .nil
  | cons b rest ih =>
    cases bytes' with
    | nil => cases same
    | cons b' rest' => exact .cons trivial (ih (Nat.succ.inj same))

/-- The same address, as many bytes, and the same direction. -/
structure Request.SameShape (request twin : Request) : Prop where
  address : request.address = twin.address
  length : request.length = twin.length
  kind : request.kind = twin.kind

theorem Request.SameShape.alike {request twin : Request} (same : request.SameShape twin) :
    request.Alike .shapes twin := by
  obtain ⟨address, length, kind⟩ := same
  cases request with
  | read a n =>
    cases twin with
    | read a' n' =>
      obtain rfl : a = a' := address
      obtain rfl : n = n' := length
      exact .read a n
    | write a' bytes => cases kind
  | write a bytes =>
    cases twin with
    | read a' n => cases kind
    | write a' bytes' =>
      obtain rfl : a = a' := address
      exact .write a (Likeness.strings_shapes length)

theorem Reply.Alike.outcome_eq {reply twin : Reply} (same : reply.Alike .shapes twin) :
    reply.outcome = twin.outcome := by
  have outcomes := same.outcome
  generalize reply.outcome = outcome, twin.outcome = outcome' at outcomes ⊢
  cases outcomes with
  | ok accesses =>
    obtain ⟨hit, total⟩ := accesses
    exact congrArg Except.ok (congrArg₂ Access.mk hit total)
  | error fault => rfl

/-- What a line keeps about its block, apart from the bytes. -/
def Line.record (line : Line) : Bool × Bool × Nat × Nat :=
  (line.valid, line.dirty, line.tag, line.age)

theorem Line.Alike.record_eq {like : Likeness} {line twin : Line} (same : line.Alike like twin) :
    line.record = twin.record := by
  have entry := same.entry
  simp only [Line.entry, Prod.mk.injEq] at entry
  simp only [record, entry, same.dirty]

namespace Cache

variable {σ : Type} {cache twin : Cache σ} {like : Likeness}

/-- The records of all lines. -/
def records (cache : Cache σ) : Array (Bool × Bool × Nat × Nat) := cache.lines.map Line.record

theorem Alike.records_eq (same : cache.Alike like twin) : cache.records = twin.records := by
  apply Array.ext
  · simpa [records] using same.size
  · intro i inside inside'
    simp only [records, Array.size_map] at inside inside'
    have line := (same.line i).record_eq
    simpa [records, Cache.line, inside, inside'] using line

end Cache

namespace Chain

variable {σ : Type} {n : Nat} {chain twin : Chain σ n}

/-- The levels have counted the same, and their lines differ at most in their bytes. -/
structure SameRecords (chain twin : Chain σ n) : Prop where
  statistics : ∀ depth : Nat, chain.statisticsAt depth = twin.statisticsAt depth
  records : chain.caches.map Cache.records = twin.caches.map Cache.records

theorem Alike.records_eq {like : Likeness} (same : chain.Alike like twin) :
    chain.caches.map Cache.records = twin.caches.map Cache.records := by
  induction n with
  | zero =>
    cases chain; cases twin
    rfl
  | succ n ih =>
    cases chain; cases twin
    exact congrArg₂ List.cons same.1.records_eq (ih same.2)

theorem Alike.sameRecords (same : chain.Alike .shapes twin) : chain.SameRecords twin where
  statistics depth := by
    obtain ⟨counts, time⟩ := same.statisticsAt depth
    have both : ∀ s : Statistics, { s.untimed with time := s.time } = s := fun _ => rfl
    rw [← both (chain.statisticsAt depth), ← both (twin.statisticsAt depth), counts]
    exact congrArg (fun time => { (twin.statisticsAt depth).untimed with time }) time
  records := same.records_eq

/-- The same new chain over memories with different contents. -/
theorem alike_ofCaches (memory : Memory) (bytes : Std.TreeMap Nat UInt8) (caches : List (Cache σ)) :
    (ofCaches memory caches).Alike .shapes (ofCaches { memory with bytes } caches) := by
  induction caches with
  | nil => exact ⟨rfl, fun _ => trivial, ⟨rfl, rfl⟩, rfl, rfl⟩
  | cons cache rest ih =>
    refine ⟨⟨rfl, rfl, rfl, rfl, fun i => .refl _, ⟨rfl, rfl⟩, rfl, rfl⟩, ih⟩

/-- Chains do not look at data. In two runs of the same caches whose requests agree in address,
length and direction, but bring any bytes to memories of any contents, each request has the same
outcome, and after it the levels have the same counters and the same records about their lines. -/
theorem oblivious (memory : Memory) (bytes : Std.TreeMap Nat UInt8) (caches : List (Cache σ))
    {requests requests' : List Request} (same : List.Forall₂ Request.SameShape requests requests')
    {request request' : Request} (shape : request.SameShape request') :
    let chain := Storage.after serve requests (ofCaches memory caches)
    let twin := Storage.after serve requests' (ofCaches { memory with bytes } caches)
    (chain.serve request).1.outcome = (twin.serve request').1.outcome ∧
      (chain.serve request).2.SameRecords (twin.serve request').2 := by
  intro chain twin
  have alike : chain.Alike .shapes twin :=
    (serve_alike _).after (same.imp fun _ _ shape => shape.alike)
      (alike_ofCaches memory bytes caches)
  obtain ⟨replies, alike'⟩ := serve_alike _ request request' chain twin shape.alike alike
  exact ⟨replies.outcome_eq, alike'.sameRecords⟩

/-- Different bytes are written, pushed out by other ones, and read again. -/
theorem oblivious_twoLevels :
    let chain := Storage.after serve [.write 3 [7, 8], .read 130 2]
      (ofCaches { size := 256 } twoLevels)
    let twin := Storage.after serve [.write 3 [0, 9], .read 130 2]
      (ofCaches { size := 256, bytes := .ofList [(130, (77 : UInt8))] } twoLevels)
    ((chain.serve (.read 3 2)).1.outcome = (twin.serve (.read 3 2)).1.outcome ∧
      (chain.serve (.read 3 2)).2.SameRecords (twin.serve (.read 3 2)).2) ∧
      (chain.serve (.read 3 2)).1.delivered = some [7, 8] ∧
        (twin.serve (.read 3 2)).1.delivered = some [0, 9] := by
  refine ⟨?_, by decide +kernel, by decide +kernel⟩
  have shapes : List.Forall₂ Request.SameShape [.write 3 [7, 8], .read 130 2]
      [.write 3 [0, 9], .read 130 2] := .cons ⟨rfl, rfl, rfl⟩ (.cons ⟨rfl, rfl, rfl⟩ .nil)
  have shape : (Request.read 3 2).SameShape (.read 3 2) := ⟨rfl, rfl, rfl⟩
  exact oblivious { size := 256 } _ twoLevels shapes shape

end Chain

end FiveStage
