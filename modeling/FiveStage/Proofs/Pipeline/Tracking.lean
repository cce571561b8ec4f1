import FiveStage.Proofs.Pipeline.Cycle

/-!
# The pipeline follows the sequential platform

A machine tracks a platform that has executed the instructions whose data have been moved, and no
more. The instruction behind the fourth stage still has to write its registers. The ones in front of
it are those that the platform will execute next, as long as it does not fail: each latch holds what
the platform issues after the instructions before it, unless fetching will be redirected.

## Main definitions

* `FlatPlatform.Past`: the platform after the instruction in a latch
* `FlatMachine.Fetching`, `FlatMachine.Issuing`, `FlatMachine.Tracks`: the machine follows a
  platform
* `FlatMachine.lag`: the number of cycles until the platform has to move
* `FlatMachine.Stepped`, `FlatMachine.Failed`: what a cycle is to the platform, and how it fails

## Main results

* `FlatMachine.Tracks.step`: a cycle is one instruction of the platform, or none but a smaller lag
* `FlatMachine.Tracks.failure`: if a cycle fails, so does the platform, now or after one more
  instruction
-/

namespace FiveStage

/-- The platform after the instruction in the latch, if there is one. -/
def FlatPlatform.Past (latch : Latch) (p q : FlatPlatform) : Prop :=
  if latch.isLive then p.executeNext = .ok q else q = p

/-- The platform with the results that the fifth stage has yet to write. -/
def Latch.settle (latch : Latch) (platform : FlatPlatform) : FlatPlatform :=
  if latch.isLive && !latch.instruction.isEcall then platform.onHart latch.retire else platform

namespace FlatMachine

variable {m m' : FlatMachine} {p q start : FlatPlatform}

/-- What the platform is about to execute has been fetched, or will be fetched next. -/
structure Fetching (p : FlatPlatform) (m : FlatMachine) : Prop where
  decode : m.row.decode.isLive = true →
    ∃ predictor, m.row.decode = p.memory.fetched predictor p.hart.pc
  fetch : m.row.fetch.predictedPc = if m.row.decode.isLive then m.row.decode.next else p.hart.pc

/-- What the platform is about to execute stands in front of the third stage, if anything does. What
is behind it is right if it does not send fetching elsewhere. -/
structure Issuing (p : FlatPlatform) (m : FlatMachine) : Prop where
  execute : m.row.execute.isLive = true → ∃ predictor, m.row.execute = p.issued predictor
  behind : ∀ q, p.Past m.row.execute q →
    (m.row.execute.isLive = true → q.hart.pc = m.row.execute.next) →
    Fetching q m

/-- The oldest instruction that the platform has not executed, if it has passed the third stage. An
environment call takes effect in the fifth stage and other instructions in the fourth. -/
def oldest (m : FlatMachine) : Latch :=
  if m.row.writeback.instruction.isEcall then m.row.writeback else m.row.memory

/-- The machine follows the platform. -/
structure Tracks (p : FlatPlatform) (m : FlatMachine) : Prop where
  settled : m.Settled
  essential : (m.row.writeback.settle m.platform).essential = p.essential
  calling : m.row.writeback.instruction.isEcall = true →
    ∃ predictor, (p.issued predictor).fault = none ∧ (p.issued predictor).instruction.isEcall = true
  memory : m.row.memory.isLive = true →
    ∃ predictor, (p.issued predictor).fault = none ∧
      m.row.memory = Machine.computeResults (p.issued predictor)
  behind : ∀ q, p.Past m.oldest q → Issuing q m

/-- The number of cycles until the platform has to move. -/
def lag (m : FlatMachine) : Nat :=
  if m.row.writeback.instruction.isEcall then 0
  else if m.row.memory.isLive then 1
  else if m.row.execute.isLive then 2
  else if m.row.decode.isLive then 3
  else 4

/-! ### Behind the third stage -/

theorem oldest_of_not_ecall (other : m.row.writeback.instruction.isEcall = false) :
    m.oldest = m.row.memory := by
  rw [oldest, other, if_neg Bool.false_ne_true]

theorem past_of_isLive {latch : Latch} (live : latch.isLive = true) :
    p.Past latch q ↔ p.executeNext = .ok q := by
  rw [FlatPlatform.Past, if_pos live]

theorem past_of_not_isLive {latch : Latch} (idle : latch.isLive = false) :
    p.Past latch q ↔ q = p := by
  rw [FlatPlatform.Past, idle, if_neg Bool.false_ne_true]

/-! ### Operands -/

/-- An instruction that reads its operands behind another one that is not finished gets what the
other computes, unless it has to wait for it. -/
theorem register_past (directed : m.row.execute.WellDirected) (issuing : Issuing p m)
    (free : ¬ HoldsBack m.row.execute.executed m.decoded) (past : p.Past m.row.execute q)
    (live : m.decoded.bubble = false) {r : Reg} (reads : m.decoded.reads r.toNat = true) :
    q.hart.register r =
      (Results.value? [(m.row.execute.executed.computedTo, m.row.execute.executed.computed)]
        r.toNat).getD (p.hart.register r) := by
  cases going : m.row.execute.isLive with
  | false =>
    rw [past_of_not_isLive going] at past
    have nothing : m.row.execute.executed = Latch.empty := by
      rw [Latch.executed, going, if_neg Bool.false_ne_true]
    rw [past, nothing, Results.value?_singleton]
    simp [Latch.empty]
  | true =>
    rw [past_of_isLive going] at past
    have output : m.row.execute.executed = Machine.computeResults m.row.execute := by
      rw [Latch.executed, going, if_pos rfl]
    obtain ⟨predictor, issued⟩ := issuing.execute going
    have other : (p.issued predictor).instruction.isEcall = false := by
      rw [← issued]
      refine Bool.eq_false_iff.mpr fun ecall => free (.inl ?_)
      rw [output]
      exact ecall
    rw [FlatPlatform.executeNext_of_issued
      (FlatPlatform.fine_of_executeNext predictor past) other rfl] at past
    obtain ⟨⟨loaded, memory⟩, -, past⟩ := bind_eq_ok_iff.mp past
    cases past
    rw [← issued, ← output]
    have directed' : ({ m.row.execute.executed with
        loaded := loaded.getD m.row.execute.executed.loaded } : Latch).WellDirected :=
      ⟨directed.executed.computedTo, directed.executed.loadedTo, directed.executed.single⟩
    have apart : m.row.execute.executed.loadedTo ≠ some r.toNat := fun loads =>
      free (.inr ⟨r.toNat, loads, live, reads⟩)
    refine (Latch.register_retire directed' p.hart r).trans ?_
    rw [Latch.results, Results.value?_cons, Results.value?_singleton, Results.value?_singleton]
    simp [apart]

/-- What is decoded has the operands that it finds on the platform that issues it. -/
theorem supplied_eq (cycled : Cycled m m') (settled : m.Settled) (issuing : Issuing p m)
    (free : ¬ HoldsBack m.row.execute.executed m.decoded) (past : p.Past m.row.execute q)
    (written : ∀ r, p.hart.register r =
      (m'.row.writeback.results.value? r.toNat).getD (m'.platform.hart.register r)) :
    (m.row.decode.decoded m'.platform.hart).supply
        ((m'.row.memory.computedTo, m'.row.memory.computed) :: m'.row.writeback.results) =
      m.row.decode.decoded q.hart := by
  cases going : m.row.decode.isLive with
  | false =>
    rw [Latch.decoded_of_not_isLive going, Latch.decoded_of_not_isLive going]
    rfl
  | true =>
    have live : m.decoded.bubble = false := (Latch.isLive_iff.mp (Latch.isLive_decoded going)).1
    rw [← List.nil_append (_ :: _)]
    -- the results on their way are those that the machine has not written yet
    refine (Latch.supply_decoded fun r reads => ?_).trans Latch.supply_nil
    rw [Latch.reads_decoded _ m.platform.hart] at reads
    rw [register_past settled.executeDirected issuing free past live reads, written r,
      ← cycled.memory, Results.value?_cons _ m'.row.writeback.results]
    cases Results.value? [(m'.row.memory.computedTo, m'.row.memory.computed)] r.toNat <;> rfl

/-! ### In front of the third stage -/

theorem fetching_of_straight (issuing : Issuing p m) (past : p.Past m.row.execute q)
    (straight : m.row.execute.executed.redirection = none) : Fetching q m := by
  apply issuing.behind q past
  intro live
  obtain ⟨predictor, issued⟩ := issuing.execute live
  have output : m.row.execute.executed = Machine.computeResults (p.issued predictor) := by
    rw [Latch.executed, live, if_pos rfl, issued]
  rw [output] at straight
  rw [FlatPlatform.pc_of_executeNext predictor ((past_of_isLive live).mp past), straight, issued]
  rfl

theorem pc_of_redirected (issuing : Issuing p m) (past : p.Past m.row.execute q) {target : Word}
    (leads : m.row.execute.executed.redirection = some target) : q.hart.pc = target := by
  cases live : m.row.execute.isLive with
  | false =>
    rw [Latch.executed, live, if_neg Bool.false_ne_true] at leads
    cases leads
  | true =>
    obtain ⟨predictor, issued⟩ := issuing.execute live
    rw [Latch.executed, live, if_pos rfl, issued] at leads
    rw [FlatPlatform.pc_of_executeNext predictor ((past_of_isLive live).mp past), leads]
    rfl

/-- An instruction other than an environment call keeps the program running. -/
theorem reaches_of_past (issuing : Issuing p m) (past : p.Past m.row.execute q)
    (other : m.row.execute.executed.instruction.isEcall = false)
    (running : p.hart.exitCode = none) :
    p.Reaches q ∧ q.hart.exitCode = none := by
  cases live : m.row.execute.isLive with
  | false =>
    obtain rfl := (past_of_not_isLive live).mp past
    exact ⟨.refl, running⟩
  | true =>
    obtain ⟨predictor, issued⟩ := issuing.execute live
    rw [past_of_isLive live] at past
    rw [Latch.isEcall_executed, live, Bool.true_and, issued] at other
    exact ⟨.single ⟨running, past⟩,
      (FlatPlatform.exitCode_of_executeNext predictor past other).trans running⟩

/-- What has just been fetched is what the platform fetches. -/
theorem fetching_of_fetched (here : m.row.fetch.predictedPc = p.hart.pc)
    (same : p.memory.fetch p.hart.pc = m.platform.memory.fetch p.hart.pc)
    (decode : m'.row.decode = m.fetched)
    (fetch : m'.row.fetch.predictedPc = m.fetched.next) : Fetching p m' := by
  have fetched : m.fetched = p.memory.fetched m.predictor p.hart.pc := by
    rw [FlatMachine.fetched, here]
    exact (FlatMemory.fetched_congr same).symm
  have live : m'.row.decode.isLive = true := by
    rw [decode]
    exact FlatMemory.fetched_isLive
  refine ⟨fun _ => ⟨m.predictor, decode.trans fetched⟩, ?_⟩
  rw [fetch, live, if_pos rfl, decode]

/-- Where nothing stands in front of the third stage, what is right behind it is right. -/
theorem issuing_of_fetching (execute : m.row.execute = Latch.empty) (fetching : Fetching p m) :
    Issuing p m := by
  have idle : m.row.execute.isLive = false := by rw [execute]; rfl
  constructor
  · exact fun live => by cases idle.symm.trans live
  · intro q past _
    rw [past_of_not_isLive idle] at past
    exact past ▸ fetching

/-- Where nothing has been fetched, fetching goes on at the place of the platform. -/
theorem fetching_of_empty (decode : m.row.decode = Latch.empty)
    (fetch : m.row.fetch.predictedPc = p.hart.pc) :
    Fetching p m := by
  have idle : m.row.decode.isLive = false := by rw [decode]; rfl
  constructor
  · exact fun live => by cases idle.symm.trans live
  · rw [idle, if_neg Bool.false_ne_true, fetch]

/-- What is held back stays right. -/
theorem issuing_of_held (fetching : Fetching p m)
    (fetch : m'.row.fetch.predictedPc = m.row.fetch.predictedPc)
    (decode : m'.row.decode = m.row.decode) (execute : m'.row.execute = Latch.empty) :
    Issuing p m' := by
  refine issuing_of_fetching execute ⟨?_, ?_⟩
  · rw [decode]
    exact fetching.decode
  · rw [decode, fetch]
    exact fetching.fetch

/-- What was fetched is issued, and what comes behind it has been fetched from the right place,
unless nothing comes behind it. -/
theorem issuing_of_decoded (fetching : Fetching q m) (decoding : m.row.decode.isLive = true)
    (execute : m'.row.execute = m.row.decode.decoded q.hart)
    (fetch : m'.row.fetch.predictedPc =
      if m.decoded.instruction.isEcall then m.row.fetch.predictedPc else m.fetched.next)
    (decode : m'.row.decode = if m.decoded.instruction.isEcall then Latch.empty else m.fetched)
    (running : q.hart.exitCode = none)
    (early : ∀ r, q.Reaches r → r.hart.exitCode = none →
      r.memory.fetch r.hart.pc = m.platform.memory.fetch r.hart.pc) : Issuing q m' := by
  obtain ⟨predictor, fetched⟩ := fetching.decode decoding
  have here := fetching.fetch
  rw [decoding, if_pos rfl] at here
  have issued : m'.row.execute = q.issued predictor := by rw [execute, fetched]; rfl
  refine ⟨fun _ => ⟨predictor, issued⟩, fun r past goesOn => ?_⟩
  have live : m'.row.execute.isLive = true := by rw [issued]; exact FlatPlatform.issued_isLive
  rw [past_of_isLive live] at past
  have fine := FlatPlatform.fine_of_executeNext predictor past
  have place : r.hart.pc = m.row.fetch.predictedPc := by
    rw [goesOn live, issued, here, fetched]
    exact Latch.next_decoded_fetched fine
  have calls : m.decoded.instruction = (q.issued predictor).instruction := by
    rw [← issued, execute]
    exact Latch.instruction_decoded _ _
  rw [calls] at fetch decode
  -- behind a call nothing has been fetched, behind anything else the next instruction has
  cases ecall : (q.issued predictor).instruction.isEcall with
  | true =>
    rw [ecall, if_pos rfl] at fetch decode
    exact fetching_of_empty decode (fetch.trans place.symm)
  | false =>
    rw [ecall, if_neg Bool.false_ne_true] at fetch decode
    have running' := (FlatPlatform.exitCode_of_executeNext predictor past ecall).trans running
    have same := early r (.single ⟨running, past⟩) running'
    exact fetching_of_fetched place.symm same decode fetch

/-- A cycle moves the right instructions to the right places, for the platform behind the
instruction in the third stage. -/
theorem Issuing.next (issuing : Issuing p m) (settled : m.Settled) (cycled : Cycled m m')
    (past : p.Past m'.row.memory q) (running : p.hart.exitCode = none)
    (early : ∀ r, p.Reaches r → r.hart.exitCode = none →
      r.memory.fetch r.hart.pc = m.platform.memory.fetch r.hart.pc)
    (written : ∀ r, p.hart.register r =
      (m'.row.writeback.results.value? r.toNat).getD (m'.platform.hart.register r)) :
    Issuing q m' := by
  rw [cycled.memory, FlatPlatform.Past, Latch.isLive_executed, ← FlatPlatform.Past] at past
  cases cycled.advanced with
  | redirected target leads fetch decode execute =>
    have place := pc_of_redirected issuing past leads
    exact issuing_of_fetching execute (fetching_of_empty decode (fetch.trans place.symm))
  | held straight holds fetch decode execute =>
    exact issuing_of_held (fetching_of_straight issuing past straight) fetch decode execute
  | moved straight free calm fetch decode execute =>
    have fetching := fetching_of_straight issuing past straight
    have other : m.row.execute.executed.instruction.isEcall = false :=
      Bool.eq_false_iff.mpr fun ecall => free (.inl ecall)
    obtain ⟨reached, running'⟩ := reaches_of_past issuing past other running
    rw [supplied_eq cycled settled issuing free past written] at execute
    cases decoding : m.row.decode.isLive with
    | true =>
      exact issuing_of_decoded fetching decoding execute fetch decode running' fun r later =>
        early r (reached.trans later)
    | false =>
      have nothing : m.decoded = Latch.empty := Latch.decoded_of_not_isLive decoding
      have here := fetching.fetch
      rw [decoding, if_neg Bool.false_ne_true] at here
      rw [nothing] at fetch decode
      refine issuing_of_fetching (execute.trans (Latch.decoded_of_not_isLive decoding)) ?_
      exact fetching_of_fetched here (early q reached running') decode fetch

/-! ### Cycles -/

theorem settle_empty {platform : FlatPlatform} : Latch.empty.settle platform = platform := rfl

theorem memory_settle {latch : Latch} {platform : FlatPlatform} :
    (latch.settle platform).memory = platform.memory := by
  unfold Latch.settle
  split <;> rfl

theorem finish_of_not_ecall {latch : Latch} {platform : FlatPlatform}
    (other : latch.instruction.isEcall = false) :
    latch.finish platform = .ok (latch.settle platform) := by
  unfold Latch.finish Latch.settle
  rw [other]
  cases latch.isLive <;> rfl

theorem Tracks.memory_eq (tracks : Tracks p m) : m.platform.memory = p.memory :=
  memory_settle.symm.trans (congrArg (·.memory) tracks.essential)

/-- The registers of the platform are those of the machine with the results that are still to be
written. -/
theorem register_of_settle (settled : m.Settled)
    (other : m.row.writeback.instruction.isEcall = false)
    (essential : (m.row.writeback.settle m.platform).essential = p.essential) (r : Reg) :
    p.hart.register r =
      (m.row.writeback.results.value? r.toNat).getD (m.platform.hart.register r) := by
  have same : (m.row.writeback.settle m.platform).hart.register r = p.hart.register r :=
    congrArg (·.hart.register r) essential
  rw [← same]
  rcases settled.writeback with live | nothing
  · rw [Latch.settle, live, other]
    exact Latch.register_retire settled.writebackDirected m.platform.hart r
  · rw [nothing, settle_empty, Latch.results, Results.value?_cons, Results.value?_singleton,
      Results.value?_singleton]
    simp [Latch.empty]

/-- The machine follows a platform after a cycle if it issued what that platform executes before it.
-/
theorem tracks_of_issuing (settled : m.Settled) (cycled : Cycled m m') (issuing : Issuing p m)
    (other : m'.row.writeback.instruction.isEcall = false)
    (essential : (m'.row.writeback.settle m'.platform).essential = p.essential)
    (running : p.hart.exitCode = none)
    (early : ∀ r, p.Reaches r → r.hart.exitCode = none →
      r.memory.fetch r.hart.pc = m.platform.memory.fetch r.hart.pc) : Tracks p m' where
  settled := cycled.settled
  essential := essential
  calling ecall := by cases other.symm.trans ecall
  memory live := by
    rw [cycled.memory, Latch.isLive_executed] at live
    obtain ⟨predictor, issued⟩ := issuing.execute live
    refine ⟨predictor, issued ▸ cycled.executable live, ?_⟩
    rw [cycled.memory, Latch.executed, live, if_pos rfl, issued]
  behind q past := by
    rw [oldest_of_not_ecall other] at past
    exact issuing.next settled cycled past running early
      (register_of_settle cycled.settled other essential)

/-- The rest of the platform after a cycle in which no environment call is served. -/
theorem Tracks.essential_after (tracks : Tracks p m) (cycled : Cycled m m')
    (other : m.row.writeback.instruction.isEcall = false) :
    m'.platform.essential = { p with memory := m'.platform.memory }.essential := by
  obtain ⟨finished, finishes, same⟩ := cycled.finished
  rw [finish_of_not_ecall other] at finishes
  cases finishes
  obtain ⟨hart, -, host⟩ := FlatPlatform.essential_eq_iff.mp tracks.essential
  refine same.trans (FlatPlatform.essential_eq_iff.mpr ⟨?_, memory_settle, ?_⟩)
  · refine Eq.trans ?_ hart
    unfold Latch.settle
    split <;> rfl
  · refine Eq.trans ?_ host
    unfold Latch.settle
    split <;> rfl

/-- The platform fetches from its memory what it would fetch later. -/
abbrev FetchesAhead (p : FlatPlatform) : Prop :=
  ∀ r, p.Reaches r → r.hart.exitCode = none → r.memory.fetch r.hart.pc = p.memory.fetch r.hart.pc

/-- The environment call that the fifth stage serves is that of the platform. -/
theorem Tracks.finish_eq_executeNext (tracks : Tracks p m)
    (ecall : m.row.writeback.instruction.isEcall = true) :
    (m.row.writeback.finish m.platform).map FlatPlatform.essential =
      p.executeNext.map FlatPlatform.essential := by
  obtain ⟨predictor, fine, call⟩ := tracks.calling ecall
  have live := Latch.isLive_of_isEcall tracks.settled.writeback ecall
  have essential := tracks.essential
  rw [Latch.settle, ecall, Bool.not_true, Bool.and_false, if_neg Bool.false_ne_true] at essential
  have served := FlatPlatform.environmentCall_of_essential essential
  rw [FlatPlatform.executeNext_of_issued_ecall fine call, Latch.finish_of_isEcall live ecall]
  cases here : m.platform.environmentCall with
  | error failure =>
    rw [eq_error_of_map_eq served here]
    rfl
  | ok done =>
    obtain ⟨done', there, same⟩ := exists_ok_of_map_eq served here
    rw [there]
    exact congrArg Except.ok (FlatPlatform.essential_onHart_congr (fun _ => rfl) same)

/-- A cycle in which an environment call is served. -/
theorem Tracks.call (tracks : Tracks p m) (cycled : Cycled m m') (ahead : FetchesAhead p)
    (running : p.hart.exitCode = none) (ecall : m.row.writeback.instruction.isEcall = true) :
    ∃ q, p.Steps q ∧ p.Past m.oldest q ∧ m'.platform.essential = q.essential ∧
      (q.hart.exitCode = none → Tracks q m') := by
  have live := Latch.isLive_of_isEcall tracks.settled.writeback ecall
  obtain ⟨loaded, moved, writeback⟩ := cycled.moved
  rw [(tracks.settled.behindWriteback ecall).2.2] at moved writeback
  have kept : m'.platform.memory = m.platform.memory :=
    (congrArg Prod.snd (Except.ok.inj moved)).symm
  obtain ⟨finished, finishes, same⟩ := cycled.finished
  rw [kept] at finishes
  obtain ⟨q, executes, same'⟩ := exists_ok_of_map_eq (tracks.finish_eq_executeNext ecall) finishes
  have step : p.Steps q := ⟨running, executes⟩
  have past : p.Past m.oldest q := by
    rw [oldest, if_pos ecall, past_of_isLive live]
    exact executes
  have after := same.trans same'
  refine ⟨q, step, past, after, fun running' => ?_⟩
  have calm : m'.row.writeback.instruction.isEcall = false := by
    rw [writeback]
    rfl
  refine tracks_of_issuing tracks.settled cycled (tracks.behind q past) calm ?_ running' ?_
  · rw [writeback]
    exact after
  · intro r reached exits
    rw [tracks.memory_eq]
    exact ahead r (.head step reached) exits

/-- A cycle in which the data of an instruction are moved. -/
theorem Tracks.move (tracks : Tracks p m) (cycled : Cycled m m') (ahead : FetchesAhead p)
    (running : p.hart.exitCode = none) (live : m.row.memory.isLive = true)
    (other : m.row.memory.instruction.isEcall = false) :
    ∃ q, p.Steps q ∧ q.hart.exitCode = none ∧ p.Past m.oldest q ∧ Tracks q m' := by
  have calm := tracks.settled.calm_of_memory live
  have past_oldest {q : FlatPlatform} (executed : p.executeNext = .ok q) : p.Past m.oldest q := by
    rwa [oldest_of_not_ecall calm, past_of_isLive live]
  obtain ⟨predictor, fine, output⟩ := tracks.memory live
  have same : m.row.memory.instruction = (p.issued predictor).instruction := by rw [output]; rfl
  obtain ⟨loaded, moved, writeback⟩ := cycled.moved
  rw [Latch.transferred, live, if_pos rfl, tracks.memory_eq] at moved
  rw [Latch.accessed, live, if_pos rfl] at writeback
  -- the platform carries out the instruction in the cycle that moves its data
  have executes := FlatPlatform.executeNext_of_issued fine (same ▸ other) output
  rw [moved] at executes
  have step : p.Steps _ := ⟨running, executes⟩
  have running' :=
    (FlatPlatform.exitCode_of_executeNext predictor step.2 (same ▸ other)).trans running
  have past := past_oldest step.2
  have issuing := tracks.behind _ past
  have other' : m'.row.writeback.instruction.isEcall = false := by rw [writeback]; exact other
  have live' : m'.row.writeback.isLive = true := by rw [writeback]; exact live
  refine ⟨_, step, running', past, ?_⟩
  refine tracks_of_issuing tracks.settled cycled issuing other' ?_ running'
    fun r reached exits => ?_
  · rw [Latch.settle, live', other']
    refine (FlatPlatform.essential_onHart_congr Latch.essential_retire
      (tracks.essential_after cycled calm)).trans ?_
    rw [writeback]
    rfl
  · rw [tracks.memory_eq]
    exact ahead r (.head step reached) exits

/-- A cycle in which an environment call moves on to the fifth stage. -/
theorem Tracks.drain (tracks : Tracks p m) (cycled : Cycled m m')
    (ecall : m.row.memory.instruction.isEcall = true) :
    Tracks p m' ∧ m'.lag < m.lag := by
  have live := Latch.isLive_of_isEcall tracks.settled.memory ecall
  have calm := tracks.settled.calm_of_memory live
  obtain ⟨noDecode, noExecute⟩ := tracks.settled.behindMemory ecall
  obtain ⟨predictor, fine, output⟩ := tracks.memory live
  have same : m.row.memory.instruction = (p.issued predictor).instruction := by rw [output]; rfl
  obtain ⟨loaded, moved, writeback⟩ := cycled.moved
  rw [Latch.transferred, live, if_pos rfl] at moved
  rw [Latch.accessed, live, if_pos rfl] at writeback
  -- a call moves no data, so nothing happens to the platform yet
  have code : m.row.memory.instruction.mnemonic = .ecall := eq_of_beq ecall
  rw [code] at moved
  have kept : m'.platform.memory = m.platform.memory :=
    (congrArg Prod.snd (Except.ok.inj moved)).symm
  have ecall' : m'.row.writeback.instruction.isEcall = true := by rw [writeback]; exact ecall
  have live' : m'.row.writeback.isLive = true := by rw [writeback]; exact live
  constructor
  · constructor
    case settled => exact cycled.settled
    case essential =>
      rw [Latch.settle, ecall', Bool.not_true, Bool.and_false, if_neg Bool.false_ne_true,
        tracks.essential_after cycled calm, kept, tracks.memory_eq]
    case calling => exact fun _ => ⟨predictor, fine, same ▸ ecall⟩
    case memory =>
      intro moving
      rw [cycled.memory, noExecute] at moving
      cases moving
    case behind =>
      intro q past
      have issuing := tracks.behind q (by
        rw [oldest_of_not_ecall calm, past_of_isLive live]
        rwa [oldest, if_pos ecall', past_of_isLive live'] at past)
      have straight : m.row.execute.executed.redirection = none := by rw [noExecute]; rfl
      have still : q.Past m.row.execute q := by
        rw [noExecute]
        exact (past_of_not_isLive rfl).mpr rfl
      have fetching := fetching_of_straight issuing still straight
      cases cycled.advanced with
      | redirected _ leads => cases straight.symm.trans leads
      | held _ _ fetch decode execute => exact issuing_of_held fetching fetch decode execute
      | moved _ _ calm => cases calm.symm.trans ecall
  · simp [lag, ecall', calm, live]

/-- Where nothing is left behind the third stage, every cycle brings the next instruction nearer to
it. -/
theorem lag_lt_of_idle (settled : m.Settled) (cycled : Cycled m m')
    (calm : m.row.writeback.instruction.isEcall = false)
    (calm' : m'.row.writeback.instruction.isEcall = false) (nothing : m.row.memory = Latch.empty) :
    m'.lag < m.lag := by
  have idle : m.row.memory.isLive = false := by rw [nothing]; rfl
  have live := Latch.isLive_executed m.row.execute
  rw [← cycled.memory] at live
  cases executing : m.row.execute.isLive with
  | true => simp [lag, calm, calm', idle, executing, live]
  | false =>
    rw [executing] at live
    have empty : m.row.execute = Latch.empty :=
      settled.execute.resolve_left fun live => by cases executing.symm.trans live
    cases cycled.advanced with
    | redirected _ leads =>
      rw [empty] at leads
      cases leads
    | held _ holds =>
      rw [empty, nothing] at holds
      exact holds.elim (absurd · not_holdsBack_empty) (fun ecall => by cases ecall)
    | moved _ _ _ _ decode execute =>
      cases decoding : m.row.decode.isLive with
      | true =>
        have executing' : m'.row.execute.isLive = true := by
          rw [execute, Latch.isLive_supply]
          exact Latch.isLive_decoded decoding
        simp [lag, calm, calm', idle, executing, live, decoding, executing']
      | false =>
        rw [Latch.decoded_of_not_isLive decoding] at execute
        have decoding' : m'.row.decode.isLive = true := by
          rw [decode, FlatMachine.decoded, Latch.decoded_of_not_isLive decoding]
          exact FlatMemory.fetched_isLive
        have executing' : m'.row.execute.isLive = false := by rw [execute]; rfl
        simp [lag, calm, calm', idle, executing, live, decoding, executing', decoding']

/-- A cycle in which nothing is behind the third stage but results to be written. -/
theorem Tracks.idle (tracks : Tracks p m) (cycled : Cycled m m') (ahead : FetchesAhead p)
    (running : p.hart.exitCode = none) (calm : m.row.writeback.instruction.isEcall = false)
    (nothing : m.row.memory = Latch.empty) : Tracks p m' ∧ m'.lag < m.lag := by
  have idle : m.row.memory.isLive = false := by rw [nothing]; rfl
  obtain ⟨loaded, moved, writeback⟩ := cycled.moved
  rw [nothing] at moved writeback
  have kept : m'.platform.memory = m.platform.memory :=
    (congrArg Prod.snd (Except.ok.inj moved)).symm
  have calm' : m'.row.writeback.instruction.isEcall = false := by rw [writeback]; rfl
  -- the platform waits, and what executes is its next instruction
  have issuing := tracks.behind p (by rw [oldest_of_not_ecall calm, past_of_not_isLive idle])
  refine ⟨?_, lag_lt_of_idle tracks.settled cycled calm calm' nothing⟩
  refine tracks_of_issuing tracks.settled cycled issuing calm' ?_ running fun r reached exits => ?_
  · have after := tracks.essential_after cycled calm
    rw [kept, tracks.memory_eq] at after
    rw [writeback]
    exact after
  · rw [tracks.memory_eq]
    exact ahead r reached exits

/-- What a cycle is to the platform that the machine follows: one instruction after which the
program goes on or has asked to exit, or none. Then the lag is smaller, and nothing has passed the
oldest instruction. -/
inductive Stepped (p : FlatPlatform) (m m' : FlatMachine) : Prop
  | goesOn (q : FlatPlatform) (step : p.Steps q) (running : q.hart.exitCode = none)
      (past : p.Past m.oldest q) (tracks : Tracks q m')
  | exits (q : FlatPlatform) (step : p.Steps q) (exits : q.hart.exitCode ≠ none)
      (essential : m'.platform.essential = q.essential)
  | waits (still : p.Past m.oldest p ∨ m.row.decode = Latch.empty ∧ m.row.execute = Latch.empty)
      (tracks : Tracks p m') (less : m'.lag < m.lag)

theorem Tracks.step (tracks : Tracks p m) (ahead : FetchesAhead p)
    (running : p.hart.exitCode = none) (done : m.cycle = .ok m') : Stepped p m m' := by
  have cycled := cycled_of_cycle tracks.settled done
  cases calling : m.row.writeback.instruction.isEcall with
  | true =>
    obtain ⟨q, step, past, essential, tracks'⟩ := tracks.call cycled ahead running calling
    by_cases exits : q.hart.exitCode = none
    · exact .goesOn q step exits past (tracks' exits)
    · exact .exits q step exits essential
  | false =>
    rcases tracks.settled.memory with live | nothing
    · cases ecall : m.row.memory.instruction.isEcall with
      | true =>
        obtain ⟨tracks', less⟩ := tracks.drain cycled ecall
        exact .waits (.inr (tracks.settled.behindMemory ecall)) tracks' less
      | false =>
        obtain ⟨q, step, running', past, tracks'⟩ := tracks.move cycled ahead running live ecall
        exact .goesOn q step running' past tracks'
    · obtain ⟨tracks', less⟩ := tracks.idle cycled ahead running calling nothing
      refine .waits (.inl ?_) tracks' less
      rw [oldest_of_not_ecall calling, nothing]
      exact (past_of_not_isLive rfl).mpr rfl

/-! ### Failures -/

/-- How a cycle of a machine that follows a platform fails: the next instruction of the platform is
none, or it is an environment call or an access that fails, or what is behind an access that fails
is no instruction. -/
inductive Failed (p : FlatPlatform) (m : FlatMachine) (failure : Failure) : Prop
  | refused (q : FlatPlatform) (past : p.Past m.oldest q) (running : q.hart.exitCode = none)
      (refused : q.memory.refusal? q.hart.pc = some failure)
  | call (ecall : m.row.writeback.instruction.isEcall = true)
      (fails : p.executeNext = .error failure)
  | access (moving : m.row.memory.isLive = true) (fails : p.executeNext = .error failure)
      (behind : m.row.execute.isLive = true → m.row.execute.raised? = none)
  | overtaken (first : Failure) (moving : m.row.memory.isLive = true)
      (fails : p.executeNext = .error first)
      (live : m.row.execute.isLive = true) (raised : m.row.execute.raised? = some failure)

theorem refusal?_of_raised (issuing : Issuing p m) (live : m.row.execute.isLive = true)
    {failure : Failure}
    (raised : m.row.execute.raised? = some failure) :
    p.memory.refusal? p.hart.pc = some failure := by
  obtain ⟨predictor, issued⟩ := issuing.execute live
  rwa [issued, FlatPlatform.raised?_issued] at raised

/-- A cycle fails in the third stage. -/
theorem Tracks.failed_of_raised (tracks : Tracks p m) (running : p.hart.exitCode = none)
    (live : m.row.execute.isLive = true) {failure : Failure}
    (raised : m.row.execute.raised? = some failure) :
    Failed p m failure := by
  obtain ⟨calm, calm'⟩ := tracks.settled.calm_of_execute live
  have oldest := oldest_of_not_ecall calm'
  cases moving : m.row.memory.isLive with
  | false =>
    have past : p.Past m.oldest p := by rw [oldest, past_of_not_isLive moving]
    exact .refused p past running (refusal?_of_raised (tracks.behind p past) live raised)
  | true =>
    cases executes : p.executeNext with
    | error first => exact .overtaken first moving executes live raised
    | ok q =>
      have past : p.Past m.oldest q := by rw [oldest, past_of_isLive moving, executes]
      obtain ⟨predictor, fine, output⟩ := tracks.memory moving
      rw [output] at calm
      have other : (p.issued predictor).instruction.isEcall = false := calm
      have running' := (FlatPlatform.exitCode_of_executeNext predictor executes other).trans running
      exact .refused q past running' (refusal?_of_raised (tracks.behind q past) live raised)

/-- A cycle fails in the fourth stage. -/
theorem Tracks.executeNext_of_refused (tracks : Tracks p m) {cause : MemoryFault}
    (refused : m.row.memory.transferred m.platform.memory = .error cause) :
    m.row.memory.isLive = true ∧ p.executeNext = .error (.memory cause) := by
  rw [tracks.memory_eq, Latch.transferred] at refused
  cases live : m.row.memory.isLive with
  | false =>
    rw [live] at refused
    cases refused
  | true =>
    rw [live, if_pos rfl] at refused
    obtain ⟨predictor, fine, output⟩ := tracks.memory live
    have same : m.row.memory.instruction = (p.issued predictor).instruction := by rw [output]; rfl
    refine ⟨rfl, ?_⟩
    cases ecall : m.row.memory.instruction.isEcall with
    | true =>
      have code : m.row.memory.instruction.mnemonic = .ecall := eq_of_beq ecall
      rw [code] at refused
      cases refused
    | false =>
      rw [FlatPlatform.executeNext_of_issued fine (same ▸ ecall) output, refused]
      rfl

/-- A cycle fails in the fifth stage. -/
theorem Tracks.executeNext_of_finish (tracks : Tracks p m) {loaded : Option Word}
    {memory : FlatMemory}
    (moved : m.row.memory.transferred m.platform.memory = .ok (loaded, memory)) {failure : Failure}
    (finishes : m.row.writeback.finish { m.platform with memory } = .error failure) :
    m.row.writeback.instruction.isEcall = true ∧ p.executeNext = .error failure := by
  cases ecall : m.row.writeback.instruction.isEcall with
  | false =>
    rw [finish_of_not_ecall ecall] at finishes
    cases finishes
  | true =>
    rw [(tracks.settled.behindWriteback ecall).2.2] at moved
    obtain rfl : m.platform.memory = memory := congrArg Prod.snd (Except.ok.inj moved)
    exact ⟨rfl, eq_error_of_map_eq (tracks.finish_eq_executeNext ecall) finishes⟩

theorem Tracks.failure (tracks : Tracks p m) (running : p.hart.exitCode = none) {failure : Failure}
    (failed : m.cycle = .error failure) : Failed p m failure := by
  rcases failure_of_cycle tracks.settled failed with
    ⟨live, raised⟩ | ⟨fine, ⟨cause, refused, rfl⟩ | ⟨loaded, memory, moved, finishes⟩⟩
  · exact tracks.failed_of_raised running live raised
  · obtain ⟨moving, fails⟩ := tracks.executeNext_of_refused refused
    refine .access moving fails fun live => ?_
    rw [Latch.raised?, fine live]
    rfl
  · obtain ⟨ecall, fails⟩ := tracks.executeNext_of_finish moved finishes
    exact .call ecall fails

/-- A machine about to start follows its platform. -/
theorem tracks_start {platform : FlatPlatform} (predictor : Predictor) {entry : Word}
    (place : platform.hart.pc = entry) :
    Tracks platform ⟨platform, predictor, Latches.start entry⟩ := by
  have settled : Settled ⟨platform, predictor, Latches.start entry⟩ := by
    constructor
    case fetching => exact ⟨rfl, rfl⟩
    case decode => exact .inr rfl
    case execute => exact .inr rfl
    case memory => exact .inr rfl
    case writeback => exact .inr rfl
    case executeDirected => exact Latch.wellDirected_empty
    case memoryDirected => exact Latch.wellDirected_empty
    case writebackDirected => exact Latch.wellDirected_empty
    case behindExecute => rintro ⟨⟩
    case behindMemory => rintro ⟨⟩
    case behindWriteback => rintro ⟨⟩
    case forwarded => exact ⟨rfl, rfl⟩
  refine ⟨settled, rfl, by rintro ⟨⟩, by rintro ⟨⟩, fun q past => ?_⟩
  obtain rfl : q = platform := past
  exact issuing_of_fetching rfl (fetching_of_empty rfl place.symm)

end FlatMachine

end FiveStage
