import FiveStage.Proofs.Memory.Loading
import FiveStage.Proofs.Settings.Reading
import FiveStage.Proofs.Text.Lines

/-!
# The last line that sets a setting wins

A settings text is a list of assignments. Each line is about one setting or about none, whatever
stands on the other lines, and what a text makes of the default settings depends only on the
assignments of its lines, in their order. All else follows from this: the line that has the last
word on a setting, and the lines that may be added, left out or moved.

## Main definitions

* `Assignment`, `assignment?`, `carryOut?`: lines as assignments, and settings after assignments
* `Settings.ofText?`: the settings that a text stands for
* `SetsNothing`: comments, blank lines and lines about no setting
* `Settings.MakesIfRoom`: settings that make an address space, as far as memory reaches
* `Settings.LastWins`: what becomes of lines that are joined to a text

## Main results

* `Settings.ofText?_intercalate`: a text is the list of its assignments
* `get_carryOut?_filter`, `carryOut?_eq_of_perm`: assignments to different settings do not interfere
* `Settings.makesIfRoom`: what keeps accepted settings from making an address space
* `Settings.lastWins`: all of `Settings.LastWins`
-/

namespace FiveStage

open Text

/-! ### Lines as assignments -/

/-- What a line assigns: a setting and, if the line has one for it, a value. -/
structure Assignment where
  setting : Setting
  value? : Option setting.Value

namespace Assignment

/-- The settings after an assignment, if it has a value. -/
def onto? (a : Assignment) (settings : Settings) : Option Settings :=
  a.value?.map fun chosen => (a.setting.directive chosen).apply settings

end Assignment

/-- The assignment of a line, which is none for a comment and for a line about no setting. -/
def assignment? (line : List Char) : Option Assignment :=
  if Directive.isComment line then none
  else (words line).head?.bind fun key => (Setting.ofKey? key).map fun s => ⟨s, s.valueIn? line⟩

/-- The settings after assignments, if all of them have values. -/
def carryOut? (settings : Settings) (assignments : List Assignment) : Option Settings :=
  assignments.foldlM (fun settings a => a.onto? settings) settings

namespace Setting

variable {s : Setting} {line : List Char}

theorem isSetBy_iff : s.isSetBy line = true ↔ assignment? line = some ⟨s, s.valueIn? line⟩ := by
  unfold isSetBy assignment?
  split
  · next comment => simp [comment]
  · next other =>
    cases word : (words line).head? with
    | none => simp
    | some key =>
      simp only [other, Bool.not_false, Bool.true_and, Option.any_some, Option.bind_some,
        Option.map_eq_some_iff, ← ofKey?_eq_some_iff]
      constructor
      · exact fun found => ⟨s, found, rfl⟩
      · rintro ⟨t, found, same⟩
        exact found.trans (congrArg (fun a => some a.setting) same)

/-- A line assigns at most to the setting that it sets, and its own value. -/
theorem eq_of_assignment? {a : Assignment} (assigns : assignment? line = some a) :
    a.setting.isSetBy line = true ∧ a = ⟨a.setting, a.setting.valueIn? line⟩ := by
  have eq : a = ⟨a.setting, a.setting.valueIn? line⟩ := by
    unfold assignment? at assigns
    split at assigns
    · cases assigns
    · obtain ⟨key, -, assigns⟩ := Option.bind_eq_some_iff.mp assigns
      obtain ⟨t, -, rfl⟩ := Option.map_eq_some_iff.mp assigns
      rfl
  exact ⟨isSetBy_iff.mpr (assigns.trans (congrArg some eq)), eq⟩

theorem assignment?_eq_none_iff :
    assignment? line = none ↔ ∀ s : Setting, s.isSetBy line = false := by
  constructor
  · intro none s
    refine Bool.eq_false_iff.mpr fun sets => ?_
    rw [isSetBy_iff, none] at sets
    cases sets
  · intro unset
    refine Option.eq_none_iff_forall_ne_some.mpr fun a assigns => ?_
    exact Bool.eq_false_iff.mp (unset a.setting) (eq_of_assignment? assigns).1

end Setting

/-! ### What the reader makes of lines -/

/-- Of a line the reader makes what its assignment makes of the settings. -/
theorem toOption_ofLine (lineNumber : Nat) (line : List Char) (settings : Settings) :
    (Directive.ofLine lineNumber line).toOption.map
        (fun read => read.elim settings (·.apply settings)) =
      (assignment? line).elim (some settings) (·.onto? settings) := by
  unfold Directive.ofLine assignment?
  split
  · rfl
  · cases split : words line with
    | nil => rfl
    | cons key fields =>
      simp only [toOption_bind, Setting.toOption_ofWords, List.head?_cons, Option.bind_some]
      cases found : Setting.ofKey? key with
      | none => rfl
      | some s =>
        simp only [Option.elim_some, Option.map_some, Assignment.onto?, Setting.valueIn?, split,
          List.tail_cons]
        cases s.read? fields <;> rfl

/-- The result of an action, if it succeeds. -/
def resultOf? {ε σ α : Type} (action : EStateM ε σ α) (state : σ) : Option α :=
  match action.run state with
  | .ok a _ => some a
  | .error _ _ => none

/-- The first of several lines is carried out before the others. -/
theorem carryOut?_filterMap_cons (settings : Settings) (line : List Char)
    (rest : List (List Char)) :
    carryOut? settings ((line :: rest).filterMap assignment?) =
      ((assignment? line).elim (some settings) (·.onto? settings)).bind
        (carryOut? · (rest.filterMap assignment?)) := by
  cases assigns : assignment? line with
  | none => simp [assigns]
  | some a => simp [assigns, carryOut?]

/-- The reader carries out the assignments of the lines, whatever their numbers and whatever was
reported before. -/
theorem resultOf?_readLines (lines : List (List Char)) (settings : Settings) (lineNumber : Nat)
    (log : Log) :
    resultOf? (settings.readLines lineNumber lines) log =
      carryOut? settings (lines.filterMap assignment?) := by
  induction lines generalizing settings lineNumber log with
  | nil => rfl
  | cons line rest ih =>
    have step := toOption_ofLine lineNumber line settings
    rw [carryOut?_filterMap_cons, ← step, Settings.readLines]
    cases Directive.ofLine lineNumber line with
    | error e => rfl
    | ok read =>
      cases read with
      | none => exact ih settings (lineNumber + 1) log
      | some directive =>
        cases directive with
        | unknown key => exact ih settings (lineNumber + 1) _
        | _ => exact ih _ (lineNumber + 1) log

theorem isComment_dropReturn (line : List Char) :
    Directive.isComment (dropReturn line) = Directive.isComment line := by
  rcases eq_dropReturn_or line with same | longer
  · rw [same]
  · conv_rhs => rw [← longer]
    cases dropReturn line with
    | nil => rfl
    | cons c rest => simp [Directive.isComment, isBlank]

theorem assignment?_dropReturn (line : List Char) :
    assignment? (dropReturn line) = assignment? line := by
  simp only [assignment?, isComment_dropReturn, words_dropReturn, Setting.valueIn?]

/-- The settings that a text stands for, if it is accepted. -/
def Settings.ofText? (log : Log) (text : String) : Option Settings := resultOf? (read text) log

/-- A text of joined lines stands for the default settings after the assignments of the lines. -/
theorem Settings.ofText?_intercalate (log : Log) {lines : List String}
    (whole : ∀ line ∈ lines, '\n' ∉ line.toList) :
    ofText? log ("\n".intercalate lines) =
      carryOut? default ((lines.map String.toList).filterMap assignment?) := by
  rw [ofText?, read, resultOf?_readLines, filterMap_lines assignment?_dropReturn rfl whole,
    List.filterMap_map]

/-! ### What assignments do to one setting -/

section Assignments

variable {settings settings' result result' : Settings} {assignments assignments' : List Assignment}
  {s : Setting}

@[simp] theorem carryOut?_nil : carryOut? settings [] = some settings := rfl

@[simp] theorem carryOut?_cons (a : Assignment) :
    carryOut? settings (a :: assignments) = (a.onto? settings).bind (carryOut? · assignments) := rfl

theorem carryOut?_append :
    carryOut? settings (assignments ++ assignments') =
      (carryOut? settings assignments).bind (carryOut? · assignments') :=
  List.foldlM_append

theorem Assignment.isSome_onto? (a : Assignment) (settings : Settings) :
    (a.onto? settings).isSome = a.value?.isSome :=
  Option.isSome_map

theorem isSome_carryOut?_iff :
    (carryOut? settings assignments).isSome ↔ ∀ a ∈ assignments, a.value?.isSome := by
  induction assignments generalizing settings with
  | nil => simp
  | cons a rest ih =>
    rw [List.forall_mem_cons, ← a.isSome_onto? settings, carryOut?_cons]
    cases a.onto? settings with
    | none => simp
    | some next => simp [ih]

theorem Assignment.value?_eq_of_onto? {a : Assignment} (done : a.onto? settings = some result) :
    a.value? = some (result.get a.setting) := by
  obtain ⟨chosen, value, rfl⟩ := Option.map_eq_some_iff.mp done
  rw [value, Setting.get_apply_directive]

theorem Assignment.get_of_onto? {a : Assignment} (done : a.onto? settings = some result)
    (other : s ≠ a.setting) : result.get s = settings.get s := by
  obtain ⟨chosen, -, rfl⟩ := Option.map_eq_some_iff.mp done
  exact Setting.get_apply_directive_of_ne settings chosen other

/-- Every value is an old one or an assigned one. -/
theorem get_eq_or_mem_of_carryOut? (done : carryOut? settings assignments = some result)
    (s : Setting) :
    result.get s = settings.get s ∨ ⟨s, some (result.get s)⟩ ∈ assignments := by
  induction assignments generalizing settings with
  | nil => exact .inl (by rw [Option.some.inj done])
  | cons a rest ih =>
    obtain ⟨next, first, done⟩ := Option.bind_eq_some_iff.mp done
    rcases ih done with kept | assigned
    · by_cases same : s = a.setting
      · subst same
        have value := a.value?_eq_of_onto? first
        rw [kept, ← value]
        exact .inr List.mem_cons_self
      · exact .inl (kept.trans (a.get_of_onto? first same))
    · exact .inr (List.mem_cons_of_mem a assigned)

/-- A setting to which nothing is assigned keeps its value. -/
theorem get_of_carryOut? (done : carryOut? settings assignments = some result)
    (others : ∀ a ∈ assignments, s ≠ a.setting) : result.get s = settings.get s :=
  (get_eq_or_mem_of_carryOut? done s).resolve_right fun assigned => others _ assigned rfl

/-- The last assignment to a setting decides its value. -/
theorem value?_eq_of_carryOut? {a : Assignment}
    (done : carryOut? settings (assignments ++ a :: assignments') = some result)
    (last : ∀ b ∈ assignments', a.setting ≠ b.setting) :
    a.value? = some (result.get a.setting) := by
  rw [carryOut?_append] at done
  obtain ⟨before, -, done⟩ := Option.bind_eq_some_iff.mp done
  obtain ⟨next, here, done⟩ := Option.bind_eq_some_iff.mp done
  rw [a.value?_eq_of_onto? here, get_of_carryOut? done last]

/-- What becomes of a setting depends on the assignments to this setting only. -/
theorem get_carryOut?_filter (done : carryOut? settings assignments = some result)
    (agree : settings.get s = settings'.get s) :
    ∃ result', carryOut? settings' (assignments.filter (s = ·.setting)) = some result' ∧
      result.get s = result'.get s := by
  induction assignments generalizing settings settings' with
  | nil => exact ⟨settings', rfl, by rw [← Option.some.inj done, agree]⟩
  | cons a rest ih =>
    obtain ⟨next, first, done⟩ := Option.bind_eq_some_iff.mp done
    by_cases same : s = a.setting
    · subst same
      obtain ⟨chosen, value, rfl⟩ := Option.map_eq_some_iff.mp first
      have agree' : ((a.setting.directive chosen).apply settings).get a.setting =
          ((a.setting.directive chosen).apply settings').get a.setting := by
        rw [Setting.get_apply_directive, Setting.get_apply_directive]
      obtain ⟨result', done', equal⟩ := ih done agree'
      refine ⟨result', ?_, equal⟩
      rw [List.filter_cons_of_pos (by simp), carryOut?_cons, Assignment.onto?, value]
      exact done'
    · rw [List.filter_cons_of_neg (by simpa using same)]
      exact ih done ((a.get_of_onto? first same).trans agree)

/-- Assignments may be reordered as long as those to the same setting keep their order. -/
theorem carryOut?_eq_of_perm (perm : assignments.Perm assignments')
    (ordered : ∀ s : Setting, assignments.filter (s = ·.setting) =
      assignments'.filter (s = ·.setting)) :
    carryOut? settings assignments = carryOut? settings assignments' := by
  have accepted : (carryOut? settings assignments).isSome =
      (carryOut? settings assignments').isSome := by
    rw [Bool.eq_iff_iff, isSome_carryOut?_iff, isSome_carryOut?_iff]
    simp only [perm.mem_iff]
  cases done : carryOut? settings assignments with
  | none =>
    have rejected : ¬ (carryOut? settings assignments').isSome := by
      rw [← accepted, done]
      exact Bool.false_ne_true
    exact (Option.not_isSome_iff_eq_none.mp rejected).symm
  | some result =>
    rw [done] at accepted
    obtain ⟨result', done'⟩ := Option.isSome_iff_exists.mp accepted.symm
    rw [done']
    refine congrArg some (Settings.ext_get fun s => ?_)
    obtain ⟨only, carried, equal⟩ := get_carryOut?_filter (s := s) done rfl
    obtain ⟨only', carried', equal'⟩ := get_carryOut?_filter (s := s) done' rfl
    rw [ordered s, carried'] at carried
    rw [equal, equal', Option.some.inj carried]

end Assignments

/-! ### Accepted texts make address spaces -/

/-- A line gives a level only geometries that a cache can have. -/
theorem fault?_of_geometryIn? {fields : List String} {geometry : Geometry}
    (read : Setting.geometryIn? fields = some geometry) : geometry.fault? = none := by
  unfold Setting.geometryIn? at read
  split at read
  · obtain ⟨size, -, read⟩ := Option.bind_eq_some_iff.mp read
    obtain ⟨ways, -, read⟩ := Option.bind_eq_some_iff.mp read
    obtain ⟨writeThrough, -, read⟩ := Option.bind_eq_some_iff.mp read
    obtain ⟨writeAllocate, -, read⟩ := Option.bind_eq_some_iff.mp read
    cases made : Geometry.make size ways (writeThrough != 0) (writeAllocate != 0) with
    | error e => simp [made, Except.toOption] at read
    | ok g =>
      obtain rfl : g = geometry := by simpa [made, Except.toOption] using read
      exact Geometry.fault?_eq_none_of_make made
  · cases read

/-- Whether a level with an accepted geometry gets its cache depends on the room for its lines. -/
theorem freshCache_cases {settings : Settings} {level : CacheLevel}
    (accepted : (settings.levels level).geometry.fault? = none) :
    let geometry := (settings.levels level).geometry
    geometry.fits = true ∧ (∃ cache, AddressSpace.freshCache settings level = .ok cache) ∨
      geometry.fits = false ∧
        AddressSpace.freshCache settings level = .error (.tooManyLines geometry.entries) := by
  intro geometry
  cases fits : geometry.fits with
  | true => exact .inl ⟨rfl, _, Cache.configure_eq_ok_iff.mpr ⟨rfl, accepted, fits, rfl⟩⟩
  | false => exact .inr ⟨rfl, Cache.configure_of_not_fits rfl accepted fits⟩

/-- The geometries that the reader accepts are the ones that caches accept. -/
theorem fault?_levels_of_carryOut? {lines : List (List Char)} {settings : Settings}
    (done : carryOut? default (lines.filterMap assignment?) = some settings) (level : CacheLevel) :
    (settings.levels level).geometry.fault? = none := by
  rcases get_eq_or_mem_of_carryOut? done (.geometry level) with kept | assigned
  · rw [show (settings.levels level).geometry = _ from kept]
    cases level <;> decide
  · obtain ⟨line, -, assigns⟩ := List.mem_filterMap.mp assigned
    obtain ⟨-, same⟩ := Setting.eq_of_assignment? assigns
    exact fault?_of_geometryIn? (eq_of_heq (Assignment.mk.inj same).2).symm

/-- Settings make an address space if there is room for the lines of every level. Otherwise a level
for whose lines there is none ends the program. -/
def Settings.MakesIfRoom (settings : Settings) : Prop :=
  match AddressSpace.ofSettings settings with
  | .ok _ => ∀ level, (settings.levels level).geometry.fits = true
  | .error fault => ∃ level, (settings.levels level).geometry.fits = false ∧
      fault = .tooManyLines (settings.levels level).geometry.entries

theorem Settings.makesIfRoom {settings : Settings}
    (accepted : ∀ level, (settings.levels level).geometry.fault? = none) :
    settings.MakesIfRoom := by
  unfold MakesIfRoom AddressSpace.ofSettings
  rcases freshCache_cases (accepted .l1) with ⟨fits1, l1, made1⟩ | ⟨full, refused⟩
  · rcases freshCache_cases (accepted .l2) with ⟨fits2, l2, made2⟩ | ⟨full, refused⟩
    · rcases freshCache_cases (accepted .llc) with ⟨fits3, llc, made3⟩ | ⟨full, refused⟩
      · rw [made1, made2, made3]
        exact fun level => by cases level <;> assumption
      · rw [made1, made2, refused]
        exact ⟨.llc, full, rfl⟩
    · rw [made1, refused]
      exact ⟨.l2, full, rfl⟩
  · rw [refused]
    exact ⟨.l1, full, rfl⟩

/-! ### Lines joined to a text -/

/-- Whether a line is a comment or blank, or its first word names no setting. -/
def SetsNothing (line : List Char) : Prop :=
  Directive.isComment line = true ∨
    ∀ key, (words line).head? = some key → ∀ s : Setting, s.isNamed key = false

theorem SetsNothing.isSetBy {line : List Char} (idle : SetsNothing line) (s : Setting) :
    s.isSetBy line = false := by
  rcases idle with comment | unnamed
  · simp [Setting.isSetBy, comment]
  · cases word : (words line).head? with
    | none => simp [Setting.isSetBy, word]
    | some key => simp [Setting.isSetBy, word, unnamed key word s]

/-- What becomes of lines that are joined to a text. -/
structure Settings.LastWins (log : Log) (lines : List String) : Prop where
  /-- The text is accepted exactly if each line is accepted alone. -/
  isSome_iff : (ofText? log ("\n".intercalate lines)).isSome ↔
    ∀ line ∈ lines, (ofText? log line).isSome
  /-- A setting that no line sets has its default value. -/
  unset : ∀ settings s, ofText? log ("\n".intercalate lines) = some settings →
    (∀ line ∈ lines, s.isSetBy line.toList = false) → settings.get s = default.get s
  /-- A setting has the value of the last line that sets it. -/
  last : ∀ settings s before line after, ofText? log ("\n".intercalate lines) = some settings →
    lines = before ++ line :: after → s.isSetBy line.toList = true →
    (∀ later ∈ after, s.isSetBy later.toList = false) →
      s.valueIn? line.toList = some (settings.get s)
  /-- A line that sets nothing may be left out, or put in, anywhere. -/
  idle : ∀ before line after, lines = before ++ line :: after → SetsNothing line.toList →
    ofText? log ("\n".intercalate (before ++ after)) = ofText? log ("\n".intercalate lines)
  /-- Lines may be moved past lines that set other settings. -/
  moved : ∀ lines', lines.Perm lines' →
    (∀ s : Setting, lines.filter (s.isSetBy ·.toList) = lines'.filter (s.isSetBy ·.toList)) →
      ofText? log ("\n".intercalate lines') = ofText? log ("\n".intercalate lines)
  /-- An accepted text makes an address space, as long as there is room for the lines of it. -/
  makes : ∀ settings, ofText? log ("\n".intercalate lines) = some settings → settings.MakesIfRoom

theorem mem_assignments_iff {a : Assignment} {lines : List String} :
    a ∈ (lines.map String.toList).filterMap assignment? ↔
      ∃ line ∈ lines, assignment? line.toList = some a := by
  simp only [List.mem_filterMap, List.mem_map, exists_exists_and_eq_and]

/-- Something is assigned only to settings that are set by lines. -/
theorem exists_isSetBy_of_mem {a : Assignment} {lines : List String}
    (assigned : a ∈ (lines.map String.toList).filterMap assignment?) :
    ∃ line ∈ lines, a.setting.isSetBy line.toList = true := by
  obtain ⟨line, member, assigns⟩ := mem_assignments_iff.mp assigned
  exact ⟨line, member, (Setting.eq_of_assignment? assigns).1⟩

/-- The assignments to a setting are those of the lines that set it. -/
theorem filter_assignments (s : Setting) (lines : List (List Char)) :
    (lines.filterMap assignment?).filter (s = ·.setting) =
      (lines.filter s.isSetBy).filterMap assignment? := by
  rw [List.filter_filterMap, List.filterMap_filter]
  refine List.filterMap_congr fun line _ => ?_
  cases assigns : assignment? line with
  | none => simp
  | some a =>
    obtain ⟨sets, -⟩ := Setting.eq_of_assignment? assigns
    by_cases same : s = a.setting
    · subst same
      simp [sets]
    · have unset : s.isSetBy line = false := by
        refine Bool.eq_false_iff.mpr fun sets' => same ?_
        rw [Setting.isSetBy_iff, assigns] at sets'
        rw [Option.some.inj sets']
      simp [same, unset]

namespace Settings

variable {log : Log} {lines : List String}

theorem ofText?_line {line : String} (whole : '\n' ∉ line.toList) :
    ofText? log line = carryOut? default ((assignment? line.toList).toList) := by
  have joined := ofText?_intercalate log (List.forall_mem_singleton.mpr whole)
  rw [String.intercalate_singleton] at joined
  rw [joined, List.map_singleton]
  cases assigns : assignment? line.toList <;> simp [assigns]

/-- The last line that sets a setting wins, in every text that is put together from lines. -/
theorem lastWins (log : Log) (whole : ∀ line ∈ lines, '\n' ∉ line.toList) : LastWins log lines where
  isSome_iff := by
    rw [ofText?_intercalate log whole, isSome_carryOut?_iff]
    constructor
    · intro accepted line member
      rw [ofText?_line (whole line member), isSome_carryOut?_iff]
      intro a assigns
      exact accepted a (mem_assignments_iff.mpr ⟨line, member, Option.mem_toList.mp assigns⟩)
    · intro accepted a assigned
      obtain ⟨line, member, assigns⟩ := mem_assignments_iff.mp assigned
      have alone := accepted line member
      rw [ofText?_line (whole line member), isSome_carryOut?_iff] at alone
      exact alone a (Option.mem_toList.mpr assigns)
  unset settings s accepted unset := by
    rw [ofText?_intercalate log whole] at accepted
    refine get_of_carryOut? accepted fun a assigned same => ?_
    obtain ⟨line, member, sets⟩ := exists_isSetBy_of_mem assigned
    rw [← same, unset line member] at sets
    cases sets
  last settings s before line after accepted split sets unset := by
    rw [ofText?_intercalate log whole] at accepted
    simp only [split, List.map_append, List.map_cons, List.filterMap_append,
      List.filterMap_cons_some (Setting.isSetBy_iff.mp sets)] at accepted
    refine value?_eq_of_carryOut? accepted fun a assigned same => ?_
    obtain ⟨later, member, sets'⟩ := exists_isSetBy_of_mem assigned
    rw [← show s = a.setting from same, unset later member] at sets'
    cases sets'
  idle before line after split idle := by
    have unassigned := Setting.assignment?_eq_none_iff.mpr idle.isSetBy
    have rest : ∀ line ∈ before ++ after, '\n' ∉ line.toList := by
      intro line member
      refine whole line (split ▸ ?_)
      rw [List.mem_append] at member
      exact List.mem_append.mpr (member.imp id (List.mem_cons_of_mem _))
    rw [ofText?_intercalate log whole, ofText?_intercalate log rest]
    simp only [split, List.map_append, List.map_cons, List.filterMap_append,
      List.filterMap_cons_none unassigned]
  moved lines' perm ordered := by
    have whole' : ∀ line ∈ lines', '\n' ∉ line.toList :=
      fun line member => whole line (perm.mem_iff.mpr member)
    rw [ofText?_intercalate log whole, ofText?_intercalate log whole']
    refine (carryOut?_eq_of_perm ((perm.map _).filterMap _) fun s => ?_).symm
    have same := congrArg (List.map String.toList) (ordered s)
    rw [filter_assignments, filter_assignments, List.filter_map, List.filter_map]
    exact congrArg _ same
  makes settings accepted := by
    rw [ofText?_intercalate log whole] at accepted
    exact makesIfRoom (fault?_levels_of_carryOut? accepted)

/-- Lines of every kind: a comment, a cache, an operation twice in different cases, and an operation
that there is none of. -/
def sampleLines : List String :=
  ["* a small cache", "L1_Config 128 1 0 1", "MUL 4", "fmadd 3", "mul 7 ticks", ""]

theorem lastWins_sampleLines :
    (∀ line ∈ sampleLines, '\n' ∉ line.toList) ∧ LastWins {} sampleLines ∧
      ∃ settings, ofText? {} ("\n".intercalate sampleLines) = some settings ∧
        (settings.levels .l1).geometry = ⟨128, 1, 2, false, true⟩ ∧ settings.ticks .mul = 7 := by
  have whole : ∀ line ∈ sampleLines, '\n' ∉ line.toList := by decide +kernel
  have checked : (ofText? {} ("\n".intercalate sampleLines)).any (fun settings =>
      (settings.levels .l1).geometry = ⟨128, 1, 2, false, true⟩ ∧ settings.ticks .mul = 7) := by
    decide +kernel
  obtain ⟨settings, accepted, values⟩ := (Option.any_eq_true ..).mp checked
  exact ⟨whole, lastWins {} whole, settings, accepted, of_decide_eq_true values⟩

/-- A first level of `2 ^ 63` bytes is accepted, and there is no room for its `2 ^ 57` lines. -/
theorem not_makes_hugeLevel :
    ∃ settings, ofText? {} "L1_Config 9223372036854775808 1 0 0" = some settings ∧
      AddressSpace.ofSettings settings = .error (.tooManyLines (2 ^ 57)) := by
  have checked : (ofText? {} "L1_Config 9223372036854775808 1 0 0").any (fun settings =>
      (settings.levels .l1).geometry = ⟨2 ^ 63, 1, 2 ^ 57, false, false⟩) := by
    decide +kernel
  obtain ⟨settings, accepted, huge⟩ := (Option.any_eq_true ..).mp checked
  replace huge := of_decide_eq_true huge
  refine ⟨settings, accepted, ?_⟩
  have refused : AddressSpace.freshCache settings .l1 = .error (.tooManyLines (2 ^ 57)) := by
    have valid : (settings.levels .l1).geometry.fault? = none := by
      rw [huge]
      decide
    rcases freshCache_cases valid with ⟨fits, -⟩ | ⟨-, refused⟩
    · rw [huge] at fits
      cases fits
    · rwa [huge] at refused
  rw [AddressSpace.ofSettings, refused]
  rfl

end Settings

end FiveStage
