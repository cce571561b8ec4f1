import Mathlib.Data.List.Nodup
import FiveStage.Proofs.Outcome
import FiveStage.Settings.Reader

/-!
# Settings and the lines that set them

What can be chosen about a machine falls into single settings. Each has one name, which the lines
that set it begin with, and a value that such a line has in its further words. The reader tries the
names one kind after the other, the names of operations last; since no two settings share a name,
not even in different cases, the order of these trials decides nothing.

## Main definitions

* `Setting`, `Setting.Value`, `Settings.get`: the settings and their values
* `Setting.isSetBy`, `Setting.valueIn?`: the lines that set a setting, and the values that they have
  for it
* `Setting.directive`: the directive that gives a setting a value

## Main results

* `Setting.ofKey?_eq_some_iff`: no first word is about two settings
* `Setting.toOption_ofWords`: what the reader makes of a line
-/

namespace FiveStage

open Text

/-! ### Results without their failures -/

theorem toOption_bind {ε α β : Type} (result : Except ε α) (continuation : α → Except ε β) :
    (result >>= continuation).toOption =
      result.toOption.bind fun a => (continuation a).toOption := by
  cases result <;> rfl

theorem toOption_mapM {ε α β : Type} (f : α → Except ε β) (items : List α) :
    (items.mapM f).toOption = items.mapM fun item => (f item).toOption := by
  induction items with
  | nil => rfl
  | cons item rest ih =>
    simp only [List.mapM_cons, toOption_bind, ih, pure_eq_ok]
    rfl

theorem toOption_mapError {ε φ α : Type} (embed : ε → φ) (result : Except ε α) :
    (result.mapError embed).toOption = result.toOption := by
  cases result <;> rfl

/-! ### Settings and their names -/

/-- One thing that can be chosen about a machine. -/
inductive Setting
  | memoryLatency
  | latency (level : CacheLevel)
  | geometry (level : CacheLevel)
  | ticks (mnemonic : Mnemonic)
deriving DecidableEq, Repr

/-- What is chosen for a setting. -/
def Setting.Value : Setting → Type
  | memoryLatency | latency _ => Latency
  | geometry _ => Geometry
  | ticks _ => Nat

/-- The value of one setting. -/
def Settings.get (settings : Settings) : (s : Setting) → s.Value
  | .memoryLatency => settings.memoryLatency
  | .latency level => (settings.levels level).latency
  | .geometry level => (settings.levels level).geometry
  | .ticks m => settings.ticks m

/-- Settings that agree on every setting are the same. -/
theorem Settings.ext_get {settings settings' : Settings}
    (same : ∀ s, settings.get s = settings'.get s) : settings = settings' := by
  obtain ⟨memoryLatency, levels, ticks⟩ := settings
  obtain ⟨memoryLatency', levels', ticks'⟩ := settings'
  obtain rfl : memoryLatency = memoryLatency' := same .memoryLatency
  obtain rfl : ticks = ticks' := funext fun m => same (.ticks m)
  have levels_eq : levels = levels' := by
    funext level
    have geometry : (levels level).geometry = (levels' level).geometry := same (.geometry level)
    have latency : (levels level).latency = (levels' level).latency := same (.latency level)
    cases left : levels level
    cases right : levels' level
    rw [left, right] at geometry latency
    cases geometry
    cases latency
    rfl
  rw [levels_eq]

namespace Setting

/-- All settings. -/
def all : List Setting :=
  memoryLatency :: CacheLevel.all.map latency ++ CacheLevel.all.map geometry ++
    Mnemonic.all.map ticks

theorem mem_all (s : Setting) : s ∈ all := by
  cases s with
  | memoryLatency => exact List.mem_cons_self
  | latency level => cases level <;> decide
  | geometry level => cases level <;> decide
  | ticks m => exact List.mem_append_right _ (List.mem_map_of_mem (Mnemonic.mem_all m))

/-- The first word of the lines that set it. -/
def name : Setting → String
  | memoryLatency => "Mem_Latency"
  | latency level => level.name ++ "_Latency"
  | geometry level => level.name ++ "_Config"
  | ticks m => m.name

/-- A text with its ASCII letters in lower case. -/
def lower (text : String) : List Char := text.toList.map Char.toLower

/-- Whether a line with the given first word is about the setting. The names of operations may be
written in any case. -/
def isNamed : Setting → String → Bool
  | ticks m, key => lower key == lower m.name
  | s, key => key == s.name

theorem lower_eq_of_isNamed {s : Setting} {key : String} (named : s.isNamed key = true) :
    lower key = lower s.name := by
  cases s with
  | ticks m => exact eq_of_beq named
  | _ => exact congrArg lower (eq_of_beq named)

/-- No two settings have the same name, in whatever case. -/
theorem lower_name_injective {s t : Setting} (same : lower s.name = lower t.name) : s = t := by
  have distinct : (all.map fun s => lower s.name).Nodup := by decide +kernel
  exact List.inj_on_of_nodup_map distinct (mem_all s) (mem_all t) same

theorem eq_of_isNamed {s t : Setting} {key : String} (named : s.isNamed key = true)
    (named' : t.isNamed key = true) : s = t :=
  lower_name_injective ((lower_eq_of_isNamed named).symm.trans (lower_eq_of_isNamed named'))

/-! ### Values in words -/

/-- An unsigned number of 64 bits. -/
def natural? (word : String) : Option Nat := (readNatural word).toOption

/-- A latency as the first two words. -/
def latencyIn? : List String → Option Latency
  | hit :: bus :: _ => return ⟨← natural? hit, ← natural? bus⟩
  | _ => none

/-- A geometry as the first four words, if a cache can have it. -/
def geometryIn? : List String → Option Geometry
  | size :: ways :: writeThrough :: writeAllocate :: _ => do
    let size ← natural? size
    let ways ← natural? ways
    let writeThrough ← natural? writeThrough
    let writeAllocate ← natural? writeAllocate
    (Geometry.make size ways (writeThrough != 0) (writeAllocate != 0)).toOption
  | _ => none

/-- A number of ticks as the first word. -/
def ticksIn? : List String → Option Nat
  | count :: _ => natural? count
  | _ => none

/-- The value of the setting in the words behind its name. -/
def read? : (s : Setting) → List String → Option s.Value
  | memoryLatency, fields | latency _, fields => latencyIn? fields
  | geometry _, fields => geometryIn? fields
  | ticks _, fields => ticksIn? fields

/-! ### Lines -/

/-- Whether a line sets the setting: it is no comment, and its first word names the setting. -/
def isSetBy (s : Setting) (line : List Char) : Bool :=
  !Directive.isComment line && (words line).head?.any s.isNamed

/-- The value that a line has for the setting. -/
def valueIn? (s : Setting) (line : List Char) : Option s.Value := s.read? (words line).tail

/-! ### Directives -/

/-- The directive that gives the setting a value. -/
def directive : (s : Setting) → s.Value → Directive
  | memoryLatency, chosen => .memoryLatency chosen
  | latency level, chosen => .levelLatency level chosen
  | geometry level, chosen => .levelGeometry level chosen
  | ticks m, chosen => .ticks m chosen

theorem get_apply_directive (settings : Settings) (s : Setting) (chosen : s.Value) :
    ((s.directive chosen).apply settings).get s = chosen := by
  cases s <;> simp [directive, Directive.apply, Settings.get, Settings.modifyLevel,
    Settings.setTicks]

theorem get_apply_directive_of_ne (settings : Settings) {s t : Setting} (chosen : s.Value)
    (other : t ≠ s) : ((s.directive chosen).apply settings).get t = settings.get t := by
  cases s with
  | memoryLatency =>
    cases t with
    | memoryLatency => exact absurd rfl other
    | _ => rfl
  | latency level =>
    cases t with
    | latency level' =>
      exact congrArg LevelSettings.latency (if_neg fun same => other (congrArg latency same))
    | geometry level' =>
      change LevelSettings.geometry (if level' = level then _ else _) = _
      split <;> rfl
    | _ => rfl
  | geometry level =>
    cases t with
    | latency level' =>
      change LevelSettings.latency (if level' = level then _ else _) = _
      split <;> rfl
    | geometry level' =>
      exact congrArg LevelSettings.geometry (if_neg fun same => other (congrArg geometry same))
    | _ => rfl
  | ticks m =>
    cases t with
    | ticks m' => exact if_neg fun same => other (congrArg ticks same)
    | _ => rfl

/-! ### How a first word finds its setting -/

/-- The setting that a first word is about, tried out in the order of the reader. -/
def ofKey? (key : String) : Option Setting :=
  if key = "Mem_Latency" then some memoryLatency
  else
    match Directive.levelKey? key with
    | some (level, .latency) => some (latency level)
    | some (level, .geometry) => some (geometry level)
    | none => (Mnemonic.ofName? key).map ticks

theorem isNamed_of_levelKey? {key : String} {level : CacheLevel} {part : Directive.LevelSetting}
    (found : Directive.levelKey? key = some (level, part)) :
    (part = .latency ∧ (latency level).isNamed key = true) ∨
      (part = .geometry ∧ (geometry level).isNamed key = true) := by
  obtain ⟨level', -, found⟩ := List.exists_of_findSome?_eq_some found
  split at found
  · next same =>
    obtain ⟨rfl, rfl⟩ := Prod.mk.inj (Option.some.inj found)
    exact .inl ⟨rfl, beq_iff_eq.mpr same⟩
  split at found
  · next same =>
    obtain ⟨rfl, rfl⟩ := Prod.mk.inj (Option.some.inj found)
    exact .inr ⟨rfl, beq_iff_eq.mpr same⟩
  · cases found

theorem lower_mnemonic_name (m : Mnemonic) : lower m.name = m.name.toList := by cases m <;> rfl

theorem isNamed_of_ofName? {key : String} {m : Mnemonic} (found : Mnemonic.ofName? key = some m) :
    (ticks m).isNamed key = true := by
  unfold Mnemonic.ofName? at found
  have same : m.name.toList = lower key := by
    simpa [lower] using List.find?_some found
  exact beq_iff_eq.mpr (same.symm.trans (lower_mnemonic_name m).symm)

theorem isNamed_of_ofKey? {key : String} {s : Setting} (found : ofKey? key = some s) :
    s.isNamed key = true := by
  unfold ofKey? at found
  split at found
  · next same =>
    obtain rfl := Option.some.inj found
    exact beq_iff_eq.mpr same
  split at found
  · next level read =>
    obtain rfl := Option.some.inj found
    obtain ⟨-, named⟩ | ⟨⟨⟩, -⟩ := isNamed_of_levelKey? read
    exact named
  · next level read =>
    obtain rfl := Option.some.inj found
    obtain ⟨⟨⟩, -⟩ | ⟨-, named⟩ := isNamed_of_levelKey? read
    exact named
  · obtain ⟨m, read, rfl⟩ := Option.map_eq_some_iff.mp found
    exact isNamed_of_ofName? read

theorem isSome_levelKey? {key : String} {level : CacheLevel}
    (named : (latency level).isNamed key = true ∨ (geometry level).isNamed key = true) :
    (Directive.levelKey? key).isSome := by
  refine List.findSome?_isSome_iff.mpr ⟨level, by cases level <;> decide, ?_⟩
  split
  · rfl
  · next other =>
    have same : key = level.name ++ "_Config" :=
      eq_of_beq (named.resolve_left fun same => other (eq_of_beq same))
    rw [if_pos same]
    rfl

theorem isSome_ofKey? {key : String} {s : Setting} (named : s.isNamed key = true) :
    (ofKey? key).isSome := by
  unfold ofKey?
  split
  · rfl
  split
  · rfl
  · rfl
  · next none =>
    cases s with
    | memoryLatency => exact absurd (eq_of_beq named) ‹_›
    | latency level => simpa [none] using isSome_levelKey? (.inl named)
    | geometry level => simpa [none] using isSome_levelKey? (.inr named)
    | ticks m =>
      rw [Option.isSome_map]
      refine List.find?_isSome.mpr ⟨m, Mnemonic.mem_all m, beq_iff_eq.mpr ?_⟩
      exact (lower_mnemonic_name m).symm.trans (eq_of_beq named).symm

/-- The first word of a line is about a setting exactly if it is the setting's name: the order in
which the reader tries the settings decides nothing. -/
theorem ofKey?_eq_some_iff {key : String} {s : Setting} :
    ofKey? key = some s ↔ s.isNamed key = true := by
  refine ⟨isNamed_of_ofKey?, fun named => ?_⟩
  obtain ⟨t, found⟩ := Option.isSome_iff_exists.mp (isSome_ofKey? named)
  rw [found, eq_of_isNamed (isNamed_of_ofKey? found) named]

/-! ### How a line is read -/

variable {lineNumber : Nat} {fields : List String}

theorem toOption_readNumber (word : String) :
    (Directive.readNumber lineNumber word).toOption = natural? word := by
  unfold Directive.readNumber natural?
  cases readNatural word <;> rfl

theorem toOption_readNumbers {count : Nat} (enough : count ≤ fields.length) :
    (Directive.readNumbers lineNumber count fields).toOption =
      (fields.take count).mapM natural? := by
  rw [Directive.readNumbers, if_neg (Nat.not_lt.mpr enough)]
  simp only [toOption_mapM, toOption_readNumber]

theorem toOption_readLatency :
    (Directive.readLatency lineNumber fields).toOption = latencyIn? fields := by
  rcases fields with _ | ⟨hit, _ | ⟨bus, rest⟩⟩
  · rfl
  · rfl
  · have enough : 2 ≤ (hit :: bus :: rest).length := Nat.le_add_left 2 _
    rw [Directive.readLatency, toOption_bind, toOption_readNumbers enough]
    simp [latencyIn?, Option.bind_assoc, Except.toOption]

theorem toOption_readGeometry :
    (Directive.readGeometry lineNumber fields).toOption = geometryIn? fields := by
  rcases fields with _ | ⟨size, _ | ⟨ways, _ | ⟨writeThrough, _ | ⟨writeAllocate, rest⟩⟩⟩⟩
  · rfl
  · rfl
  · rfl
  · rfl
  · have enough : 4 ≤ (size :: ways :: writeThrough :: writeAllocate :: rest).length :=
      Nat.le_add_left 4 _
    rw [Directive.readGeometry, toOption_bind, toOption_readNumbers enough]
    simp [geometryIn?, Option.bind_assoc, toOption_mapError]

theorem toOption_readTicks {key : String} {m : Mnemonic} (known : Mnemonic.ofName? key = some m) :
    (Directive.readTicks lineNumber key fields).toOption =
      (ticksIn? fields).map (directive (ticks m)) := by
  simp only [Directive.readTicks, known]
  rcases fields with _ | ⟨count, rest⟩
  · rfl
  · have enough : 1 ≤ (count :: rest).length := Nat.le_add_left 1 _
    rw [toOption_bind, toOption_readNumbers enough]
    simp only [ticksIn?, List.take_succ_cons, List.take_zero, List.mapM_cons, List.mapM_nil]
    cases natural? count <;> rfl

/-- A line with a first word does what the setting of this word says, if it is about one. -/
theorem toOption_ofWords (key : String) :
    (Directive.ofWords lineNumber key fields).toOption =
      (ofKey? key).elim (some (.unknown key)) fun s => (s.read? fields).map s.directive := by
  unfold Directive.ofWords ofKey?
  split
  · rw [toOption_bind, toOption_readLatency]
    exact Option.map_eq_bind.symm
  cases level : Directive.levelKey? key with
  | some found =>
    obtain ⟨level, _ | _⟩ := found
    · simp only [toOption_bind, toOption_readLatency]
      exact Option.map_eq_bind.symm
    · simp only [toOption_bind, toOption_readGeometry]
      exact Option.map_eq_bind.symm
  | none =>
    cases known : Mnemonic.ofName? key with
    | some m => exact toOption_readTicks known
    | none => simp [Directive.readTicks, known, Except.toOption]

end Setting

end FiveStage
