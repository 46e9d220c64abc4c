import CBindings.Proofs.Probe.Reading
import CBindings.Proofs.Text.Cutting

/-! A probe's output is read by name. What comes out for a name is what the first segment with a value for it says,
wherever it stands. Segments that give no requested name a value may stand anywhere, and segments of different names in
any order. -/
namespace CBindings.Probe

/-- The texts between the delimiters of an output. -/
structure Parts (output : String) (parts : List String) : Prop where
  filled : parts ≠ []
  joined : delimiter.intercalate (parts.map String.toList) = output.toList
  free : ∀ part ∈ parts, ¬ delimiter <:+: part.toList

/-- The value that the segment gives to a name. -/
def reading? (e : Evaluator) (segment : String) : Option Reading :=
  match readSegment e segment with
  | .ok (.ok r) => some r
  | _ => none

def firstNamed (e : Evaluator) (parts : List String) (name : String) : Option Reading :=
  (parts.filterMap (reading? e)).find? (·.name == name)

/-- The segment gives this name a value. -/
def gives (e : Evaluator) (name part : String) : Bool := (reading? e part).any (·.name == name)

/-- The segment is blank or cannot be read, or its value is for a name that is not asked for. -/
def Idle (e : Evaluator) (names : List String) (part : String) : Prop :=
  (Text.trim part.toList).isEmpty = true ∨ (∃ f, readSegment e part = .ok (.error f)) ∨
    ∃ r, readSegment e part = .ok (.ok r) ∧ r.name ∉ names

/-- What is found for the names among the segments. -/
def foundIn (e : Evaluator) (names parts : List String) : Except Fault (List Constant) :=
  match parts.findSome? (fault? e) with
  | some f => .error f
  | none => .ok (names.filterMap fun n => (firstNamed e parts n).map Reading.constant)

variable {e : Evaluator} {names parts : List String} {output part name : String}

theorem parts_iff (output : String) (parts : List String) : Parts output parts ↔ segments output = parts := by
  have once : '\n' ∉ "@@cinclude@@".toList := by decide
  have cut : Text.splitOn delimiter output.toList = parts.map String.toList ↔ _ :=
    Text.splitOn_eq_iff once output.toList (parts.map String.toList)
  have same : segments output = parts ↔ Text.splitOn delimiter output.toList = parts.map String.toList := by
    unfold segments
    constructor
    · rintro rfl
      simp [Function.comp_def]
    · intro pieces
      simp [pieces, Function.comp_def]
  rw [same, cut]
  constructor
  · intro given
    exact ⟨by simpa using given.filled, given.joined, List.forall_mem_map.mpr given.free⟩
  · rintro ⟨filled, joined, free⟩
    exact ⟨by simpa using filled, joined, fun part inside => free part.toList (List.mem_map_of_mem inside)⟩

theorem parts_unique (output : String) : ∃! parts, Parts output parts := by
  refine ⟨segments output, (parts_iff output _).mpr rfl, fun parts given => ?_⟩
  exact ((parts_iff output parts).mp given).symm

section Segments

theorem reading?_eq_some_iff {r : Reading} : reading? e part = some r ↔ readSegment e part = .ok (.ok r) := by
  unfold reading?
  split
  · rename_i r' read
    simp [read]
  · rename_i other
    constructor
    · intro found
      cases found
    · intro read
      exact absurd read (other r)

theorem Idle.fault? (idle : Idle e names part) : fault? e part = none := by
  apply fault?_eq_none_iff.mpr
  rcases idle with blank | ⟨f, read⟩ | ⟨r, read, -⟩
  · exact ⟨_, readSegment_of_blank blank⟩
  · exact ⟨_, read⟩
  · exact ⟨_, read⟩

theorem Idle.reading? (idle : Idle e names part) {r : Reading} (read : reading? e part = some r) : r.name ∉ names := by
  rw [reading?_eq_some_iff] at read
  rcases idle with blank | ⟨f, refused⟩ | ⟨r', given, other⟩
  · cases (readSegment_of_blank blank).symm.trans read
  · cases refused.symm.trans read
  · cases given.symm.trans read
    exact other

end Segments

section Finding

theorem firstNamed_cons_none {rest : List String} (unread : reading? e part = none) (name : String) :
    firstNamed e (part :: rest) name = firstNamed e rest name := by
  simp [firstNamed, unread]

theorem firstNamed_cons_some {rest : List String} {r : Reading} (read : reading? e part = some r) (name : String) :
    firstNamed e (part :: rest) name = if r.name = name then some r else firstNamed e rest name := by
  by_cases named : r.name = name
  · simp [firstNamed, read, named]
  · simp [firstNamed, read, named]

/- What was found before counts first, then the first segment that gives the name a value. -/
theorem addSegments_find? (f : Findings) (ss : List String) (returns : ss.findSome? (fault? e) = none)
    (requested : name ∈ names) : (addSegments e names f ss).1.found.find? (·.name == name) =
      (f.found.find? (·.name == name)).or ((firstNamed e ss name).map Reading.constant) := by
  fun_induction addSegments e names f ss with
  | case1 f => simp [firstNamed]
  | case2 f segment rest blank ih =>
    have none : fault? e segment = none := fault?_eq_none_iff.mpr ⟨_, readSegment_of_blank blank⟩
    have unread : reading? e segment = .none := by simp [reading?, readSegment_of_blank blank]
    rw [List.findSome?_cons, none] at returns
    rw [ih returns, firstNamed_cons_none unread]
  | case3 f segment rest _ fault read =>
    rw [List.findSome?_cons, fault?_eq_some_iff.mpr read] at returns
    cases returns
  | case4 f segment rest _ fault read ih =>
    have unread : reading? e segment = none := by simp [reading?, read]
    rw [List.findSome?_cons, fault?_eq_none_iff.mpr ⟨_, read⟩] at returns
    rw [ih returns, firstNamed_cons_none unread]
  | case5 f segment rest _ r read dropped ih =>
    rw [List.findSome?_cons, fault?_eq_none_iff.mpr ⟨_, read⟩] at returns
    rw [ih returns, firstNamed_cons_some (reading?_eq_some_iff.mpr read)]
    by_cases named : r.name = name
    · -- a requested name is only dropped if it was found before
      have before : ∃ k, f.found.find? (·.name == name) = some k := by
        subst named
        simpa [requested, Findings.has, ← Option.isSome_iff_exists] using dropped
      obtain ⟨k, found⟩ := before
      simp [found]
    · simp [named]
  | case6 f segment rest _ r read taken ih =>
    rw [List.findSome?_cons, fault?_eq_none_iff.mpr ⟨_, read⟩] at returns
    rw [ih returns, firstNamed_cons_some (reading?_eq_some_iff.mpr read), List.find?_append, Option.or_assoc]
    by_cases named : r.name = name
    · simp [named, Reading.constant]
    · simp [named, Reading.constant]

theorem readOutput_foundIn (e : Evaluator) (output : String) (names : List String) :
    (readOutput e output names).1 = foundIn e names (segments output) := by
  have raised := addSegments_fault e names {} (segments output)
  have found : (segments output).findSome? (fault? e) = none → ∀ n ∈ names,
      (addSegments e names {} (segments output)).1.found.find? (·.name == n) =
        (firstNamed e (segments output) n).map Reading.constant := by
    intro returns n requested
    rw [addSegments_find? {} _ returns requested]
    simp
  unfold readOutput foundIn
  generalize addSegments e names {} (segments output) = added at raised found ⊢
  obtain ⟨f, ended⟩ := added
  dsimp only at raised found ⊢
  rw [← raised] at found ⊢
  cases ended with
  | some fault => rfl
  | none =>
    dsimp only
    rw [List.filterMap_congr (found rfl)]

theorem foundIn_eq_ok_iff (ks : List Constant) : foundIn e names parts = .ok ks ↔
    (∀ part ∈ parts, ∃ r, readSegment e part = .ok r) ∧
      ks = names.filterMap fun n => (firstNamed e parts n).map Reading.constant := by
  have returns : parts.findSome? (fault? e) = none ↔ ∀ part ∈ parts, ∃ r, readSegment e part = .ok r := by
    simp only [List.findSome?_eq_none_iff, fault?_eq_none_iff]
  rw [← returns]
  unfold foundIn
  cases parts.findSome? (fault? e) with
  | some f => simp
  | none => simp [eq_comm]

theorem foundIn_insert {before more after : List String} (idle : ∀ part ∈ more, Idle e names part) :
    foundIn e names (before ++ more ++ after) = foundIn e names (before ++ after) := by
  have quiet : more.findSome? (fault? e) = none := by
    rw [List.findSome?_eq_none_iff]
    exact fun part inside => (idle part inside).fault?
  have unnamed : ∀ n ∈ names, (more.filterMap (reading? e)).find? (·.name == n) = none := by
    intro n requested
    rw [List.find?_eq_none]
    intro r inside
    obtain ⟨part, member, read⟩ := List.mem_filterMap.mp inside
    have other := (idle part member).reading? read
    simp only [beq_iff_eq]
    rintro rfl
    exact other requested
  have first : ∀ n ∈ names, (firstNamed e (before ++ more ++ after) n).map Reading.constant =
      (firstNamed e (before ++ after) n).map Reading.constant := by
    intro n requested
    simp [firstNamed, unnamed n requested]
  have faults : (before ++ more ++ after).findSome? (fault? e) = (before ++ after).findSome? (fault? e) := by
    simp [List.findSome?_append, quiet]
  unfold foundIn
  rw [faults, List.filterMap_congr first]

/- Only the segments of the name matter for it. -/
theorem firstNamed_filter (e : Evaluator) (parts : List String) (name : String) :
    firstNamed e (parts.filter (gives e name)) name = firstNamed e parts name := by
  induction parts with
  | nil => rfl
  | cons part parts ih =>
    cases read : reading? e part with
    | none =>
      have other : gives e name part = false := by simp [gives, read]
      rw [List.filter_cons_of_neg (by simp [other]), firstNamed_cons_none read]
      exact ih
    | some r =>
      by_cases named : r.name = name
      · have given : gives e name part = true := by simp [gives, read, named]
        rw [List.filter_cons_of_pos given, firstNamed_cons_some read, firstNamed_cons_some read, if_pos named,
          if_pos named]
      · have other : gives e name part = false := by simp [gives, read, named]
        rw [List.filter_cons_of_neg (by simp [other]), firstNamed_cons_some read, if_neg named]
        exact ih

theorem foundIn_rearranged {parts' : List String} (moved : parts.Perm parts')
    (kept : ∀ n ∈ names, parts.filter (gives e n) = parts'.filter (gives e n)) (ks : List Constant) :
    foundIn e names parts = .ok ks ↔ foundIn e names parts' = .ok ks := by
  have first : ∀ n ∈ names,
      (firstNamed e parts n).map Reading.constant = (firstNamed e parts' n).map Reading.constant := by
    intro n requested
    rw [← firstNamed_filter e parts, kept n requested, firstNamed_filter]
  have same : (∀ part ∈ parts, ∃ r, readSegment e part = .ok r) ↔ ∀ part ∈ parts', ∃ r, readSegment e part = .ok r := by
    simp only [moved.mem_iff]
  rw [foundIn_eq_ok_iff, foundIn_eq_ok_iff, same, List.filterMap_congr first]

end Finding

/-- Every output is cut at its delimiters in one way. It is read exactly if each part by itself is read or refused, and
the constants are then, in the order of the names, those of the first part that gives each name a value. Parts that are
blank, refused or of other names can be put in anywhere, and parts can change places as long as those with a value for
the same name stay in order. -/
theorem readOutput_by_name (e : Evaluator) (names : List String) :
    (∀ output, ∃! parts, Parts output parts) ∧
    (∀ output parts, Parts output parts → ∀ ks, (readOutput e output names).1 = .ok ks ↔
      (∀ part ∈ parts, ∃ r, readSegment e part = .ok r) ∧
        ks = names.filterMap fun n => (firstNamed e parts n).map Reading.constant) ∧
    (∀ output output' before more after, Parts output (before ++ after) → Parts output' (before ++ more ++ after) →
      (∀ part ∈ more, Idle e names part) → (readOutput e output' names).1 = (readOutput e output names).1) ∧
    (∀ output output' parts parts', Parts output parts → Parts output' parts' → parts.Perm parts' →
      (∀ n ∈ names, parts.filter (gives e n) = parts'.filter (gives e n)) →
      ∀ ks, (readOutput e output names).1 = .ok ks ↔ (readOutput e output' names).1 = .ok ks) := by
  have found : ∀ {output parts}, Parts output parts → (readOutput e output names).1 = foundIn e names parts := by
    intro output parts given
    rw [readOutput_foundIn, (parts_iff output parts).mp given]
  refine ⟨parts_unique, ?_, ?_, ?_⟩
  · intro output parts given ks
    rw [found given]
    exact foundIn_eq_ok_iff ks
  · intro output output' before more after given given' idle
    rw [found given, found given']
    exact foundIn_insert idle
  · intro output output' parts parts' given given' moved kept ks
    rw [found given, found given']
    exact foundIn_rearranged moved kept ks

/-- Two strings with a comma between them are a pair; nothing else is more than a literal. -/
def pair : Value := .tuple ⟨some "('x', 'y')", .written [(0, "["), (1, "\"x\","), (1, "\"y\""), (0, "]")]⟩

def pairEvaluator : Evaluator := fun text => if text = "\"x\", \"y\"".toList then .value pair else .refused

/-- Two values; with parts in between that count for nothing; and the other way round. -/
def limitsOutput : String := "\n@@cinclude@@const LO = \"x\", \"y\"\n@@cinclude@@const HI = 2\n"

def noisyOutput : String :=
  "\n@@cinclude@@const LO = \"x\", \"y\"\n@@cinclude@@oops\n@@cinclude@@ \n@@cinclude@@const HI = \"x\" + 1" ++
    "\n@@cinclude@@const MID = 5\n@@cinclude@@const HI = 2\n"

def swappedOutput : String := "\n@@cinclude@@const HI = 2\n\n@@cinclude@@const LO = \"x\", \"y\""

theorem limitsOutput_by_name :
    Parts limitsOutput (["", "const LO = \"x\", \"y\""] ++ ["const HI = 2\n"]) ∧
    (readOutput pairEvaluator limitsOutput ["LO", "HI"]).1 = .ok
      [{ name := "LO", value := pair, kind := .string, isMacro := true, probed := true },
       { name := "HI", value := .int 2, kind := .integer, isMacro := true, probed := true }] ∧
    (readOutput pairEvaluator noisyOutput ["LO", "HI"]).1 = (readOutput pairEvaluator limitsOutput ["LO", "HI"]).1 ∧
    ∀ ks, (readOutput pairEvaluator limitsOutput ["LO", "HI"]).1 = .ok ks ↔
      (readOutput pairEvaluator swappedOutput ["LO", "HI"]).1 = .ok ks := by
  have plain : Parts limitsOutput (["", "const LO = \"x\", \"y\""] ++ ["const HI = 2\n"]) :=
    (parts_iff _ _).mpr (by decide +kernel)
  have noisy : Parts noisyOutput (["", "const LO = \"x\", \"y\""] ++
      ["oops", " ", "const HI = \"x\" + 1", "const MID = 5"] ++ ["const HI = 2\n"]) :=
    (parts_iff _ _).mpr (by decide +kernel)
  have swapped : Parts swappedOutput ["", "const HI = 2\n", "const LO = \"x\", \"y\""] :=
    (parts_iff _ _).mpr (by decide +kernel)
  have byName := readOutput_by_name pairEvaluator ["LO", "HI"]
  refine ⟨plain, (byName.2.1 _ _ plain _).mpr ⟨?_, by decide +kernel⟩, byName.2.2.1 _ _ _ _ _ plain noisy ?_,
    byName.2.2.2 _ _ _ _ plain swapped (by decide +kernel) (by decide +kernel)⟩
  · intro part inside
    simp only [List.cons_append, List.nil_append, List.mem_cons, List.not_mem_nil, or_false] at inside
    apply fault?_eq_none_iff.mp
    rcases inside with rfl | rfl | rfl <;> decide +kernel
  · intro part inside
    simp only [List.mem_cons, List.not_mem_nil, or_false] at inside
    rcases inside with rfl | rfl | rfl | rfl
    · exact .inr (.inl ⟨.malformed "oops", by decide +kernel⟩)
    · exact .inl (by decide)
    · exact .inr (.inl ⟨.badString "HI" "\"x\" + 1", by decide +kernel⟩)
    · exact .inr (.inr ⟨⟨"MID", .int 5, .integer⟩, by decide +kernel, by decide⟩)

end CBindings.Probe
