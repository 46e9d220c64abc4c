import CBindings.ParserLibrary

/-! Whether the library is found. The first call decides on a file, and every later call answers from that decision.
Of the files on the search path the first that exists is taken, before it is known to load, so it can hide another one
further on. -/
namespace CBindings.ParserLibrary

/-- What is asked of the library: whether it can be used, or to open it. -/
inductive Call where
  | configure
  | openLibrary
deriving DecidableEq, Repr

inductive Reply where
  | usable (found : Bool)
  | opened (result : Except Failure Unit)

def Call.ask (t : Toolchain) (p : LibraryPlaces) (l : ParserLibrary) : Call → Reply × ParserLibrary
  | .configure => (.usable (l.configure t p).1, (l.configure t p).2)
  | .openLibrary => (.opened (l.openLibrary t p).1, (l.openLibrary t p).2)

/-- The reply that says whether the library was found. -/
def Call.saying (found : Bool) : Call → Reply
  | .configure => .usable found
  | .openLibrary => .opened (if found then .ok () else .error notFound)

/-- The replies to calls that are made one after another, each in surroundings of its own. -/
def replies (p : LibraryPlaces) : ParserLibrary → List (Toolchain × Call) → List Reply
  | _, [] => []
  | l, (t, call) :: rest => (call.ask t p l).1 :: replies p (call.ask t p l).2 rest

/-- The library loads by default, or from a file that exists on the search path. -/
def Findable (t : Toolchain) (p : LibraryPlaces) : Prop :=
  p.hasDefault = true ∨ ∃ file ∈ searchPath t p, t.isFile file = true ∧ file ∈ p.loadable

/-- The first file that exists does not load, but one after it does. -/
def Hidden (t : Toolchain) (p : LibraryPlaces) : Prop :=
  p.hasDefault = false ∧ ∃ before first after, searchPath t p = before ++ first :: after ∧
    (∀ file ∈ before, t.isFile file = false) ∧ t.isFile first = true ∧ first ∉ p.loadable ∧
    ∃ file ∈ after, t.isFile file = true ∧ file ∈ p.loadable

variable {t : Toolchain} {p : LibraryPlaces} {l : ParserLibrary} {file : Option String}

/-- The decision is for this file, or for the default, and the library is open only if that loads. -/
structure Settled (p : LibraryPlaces) (file : Option String) (l : ParserLibrary) : Prop where
  isConfigured : l.isConfigured = true
  file_eq : l.file = file
  loads_of_isOpen : l.isOpen = true → loads p file = true

theorem choose_decided (t : Toolchain) (p : LibraryPlaces) :
    (choose t p {}).isConfigured = true ∧ (choose t p {}).isOpen = false := by
  unfold choose
  dsimp only
  split
  · exact ⟨rfl, rfl⟩
  split
  · exact ⟨rfl, rfl⟩
  split <;> exact ⟨rfl, rfl⟩

theorem settled_choose (t : Toolchain) (p : LibraryPlaces) : Settled p (choose t p {}).file (choose t p {}) := by
  obtain ⟨isConfigured, closed⟩ := choose_decided t p
  exact ⟨isConfigured, rfl, by simp [closed]⟩

theorem Settled.configure (settled : Settled p file l) : l.configure t p = (loads p file, l) := by
  rw [ParserLibrary.configure, if_pos settled.isConfigured, settled.file_eq]

theorem Settled.ask (settled : Settled p file l) (call : Call) :
    (call.ask t p l).1 = call.saying (loads p file) ∧ Settled p file (call.ask t p l).2 := by
  cases call with
  | configure =>
    rw [Call.ask, settled.configure]
    exact ⟨rfl, settled⟩
  | openLibrary =>
    rw [Call.ask, Call.saying, openLibrary, settled.configure]
    -- An open library is not looked for again, but it was opened because it loads.
    by_cases isOpen : l.isOpen = true
    · rw [if_pos isOpen, settled.loads_of_isOpen isOpen]
      exact ⟨rfl, settled⟩
    rw [if_neg isOpen]
    cases loaded : loads p file with
    | true => exact ⟨rfl, settled.isConfigured, settled.file_eq, fun _ => loaded⟩
    | false => exact ⟨rfl, settled⟩

theorem Settled.replies (settled : Settled p file l) (calls : List (Toolchain × Call)) :
    replies p l calls = (calls.map Prod.snd).map (Call.saying (loads p file)) := by
  induction calls generalizing l with
  | nil => rfl
  | cons asked rest ih =>
    obtain ⟨reply, onward⟩ := settled.ask (t := asked.1) asked.2
    rw [ParserLibrary.replies, reply, ih onward]
    rfl

theorem configure_first (t : Toolchain) (p : LibraryPlaces) :
    configure t p {} = (loads p (choose t p {}).file, choose t p {}) := rfl

/- Nothing is decided before the first call, so it begins with the decision and goes on like a later one. -/
theorem ask_first (call : Call) : call.ask t p {} = call.ask t p (choose t p {}) := by
  have decided : configure t p {} = (choose t p {}).configure t p := (settled_choose t p).configure.symm
  cases call with
  | configure => rw [Call.ask, Call.ask, decided]
  | openLibrary =>
    have same : openLibrary t p {} = (choose t p {}).openLibrary t p := by
      rw [openLibrary, openLibrary, if_neg Bool.false_ne_true, if_neg (by simp [(choose_decided t p).2]), decided]
    rw [Call.ask, Call.ask, same]

theorem replies_first (first : Call) (later : List (Toolchain × Call)) :
    replies p {} ((t, first) :: later) =
      (first :: later.map Prod.snd).map (Call.saying (configure t p {}).1) := by
  have all := (settled_choose t p).replies ((t, first) :: later)
  rw [replies, ask_first]
  exact all

/-- The library loads by default, or from the first file that exists. -/
def Reached (t : Toolchain) (p : LibraryPlaces) : Prop :=
  p.hasDefault = true ∨ ∃ first, (searchPath t p).find? t.isFile = some first ∧ first ∈ p.loadable

theorem configure_first_iff (unset : t.setting "CINCLUDE_LIBCLANG" "" = "") :
    (configure t p {}).1 = true ↔ Reached t p := by
  rw [configure_first, choose, unset, Reached]
  cases byDefault : p.hasDefault with
  | true => simp [loads, byDefault]
  | false =>
    cases found : (searchPath t p).find? t.isFile with
    | none => simp [loads, byDefault]
    | some first => simp [loads, byDefault]

theorem Reached.findable (reached : Reached t p) : Findable t p := by
  rcases reached with byDefault | ⟨first, found, loadable⟩
  · exact .inl byDefault
  · exact .inr ⟨first, List.mem_of_find?_eq_some found, List.find?_some found, loadable⟩

theorem Hidden.not_reached (hidden : Hidden t p) : Findable t p ∧ ¬ Reached t p := by
  obtain ⟨noDefault, before, first, after, path, missing, exists_first, fails, file, inside, exists_file, loadable⟩ :=
    hidden
  have found : (searchPath t p).find? t.isFile = some first :=
    List.find?_eq_some_iff_append.mpr ⟨exists_first, before, after, path, by simpa using missing⟩
  refine ⟨.inr ⟨file, by simp [path, inside], exists_file, loadable⟩, ?_⟩
  rintro (byDefault | ⟨other, taken, loads⟩)
  · simp [noDefault] at byDefault
  · cases found.symm.trans taken
    exact fails loads

/- The file that would load is neither the first that exists nor, since it exists, before it. -/
theorem hidden_of_not_reached (findable : Findable t p) (lost : ¬ Reached t p) : Hidden t p := by
  have noDefault : p.hasDefault = false := by
    rw [← Bool.not_eq_true]
    exact fun byDefault => lost (.inl byDefault)
  rcases findable with byDefault | ⟨file, inside, exists_file, loadable⟩
  · exact absurd (.inl byDefault) lost
  obtain ⟨first, found⟩ := Option.isSome_iff_exists.mp (List.find?_isSome.mpr ⟨file, inside, exists_file⟩)
  have fails : first ∉ p.loadable := fun loads => lost (.inr ⟨first, found, loads⟩)
  obtain ⟨exists_first, before, after, path, missing⟩ := List.find?_eq_some_iff_append.mp found
  refine ⟨noDefault, before, first, after, path, by simpa using missing, exists_first, fails, file, ?_, exists_file,
    loadable⟩
  rw [path, List.mem_append, List.mem_cons] at inside
  rcases inside with earlier | rfl | later
  · have absent := missing file earlier
    rw [exists_file] at absent
    cases absent
  · exact absurd loadable fails
  · exact later

/-- All calls say what the first one finds, whatever changes between them but for what loads. A library that can be
found is found, unless the first file that exists hides it. -/
theorem found_iff_not_hidden (unset : t.setting "CINCLUDE_LIBCLANG" "" = "") (first : Call)
    (later : List (Toolchain × Call)) :
    replies p {} ((t, first) :: later) =
      (first :: later.map Prod.snd).map (Call.saying (configure t p {}).1) ∧
    (((configure t p {}).1 = true ↔ Findable t p) ↔ ¬ Hidden t p) := by
  refine ⟨replies_first first later, ?_⟩
  rw [configure_first_iff unset]
  constructor
  · intro complete hidden
    obtain ⟨findable, lost⟩ := hidden.not_reached
    exact lost (complete.mpr findable)
  · intro shown
    refine ⟨Reached.findable, fun findable => ?_⟩
    exact Classical.byContradiction fun lost => shown (hidden_of_not_reached findable lost)

/-- Two files exist on the search path. -/
def twoLibraries : Toolchain := { files := ["/usr/lib64/libclang.so", "/usr/lib/libclang.so"] }

theorem twoLibraries_unset : twoLibraries.setting "CINCLUDE_LIBCLANG" "" = "" := rfl

theorem searchPath_twoLibraries (loadable : List String) : searchPath twoLibraries { loadable } =
    ["/usr/lib64/libclang.so", "/usr/lib/libclang.so", "/usr/local/lib/libclang.so"] := by
  simp [searchPath, twoLibraries, Toolchain.isDarwin, LibraryPlaces.newest]

/- A file that is asked for after the first call is not looked at. -/
theorem firstLibrary_found :
    replies { loadable := ["/usr/lib64/libclang.so"] } {}
      [(twoLibraries, .configure), ({ environment := [("CINCLUDE_LIBCLANG", "/other.so")] }, .openLibrary)] =
        [.usable true, .opened (.ok ())] ∧
    Findable twoLibraries { loadable := ["/usr/lib64/libclang.so"] } := by
  have reached : Reached twoLibraries { loadable := ["/usr/lib64/libclang.so"] } :=
    .inr ⟨"/usr/lib64/libclang.so", by rw [searchPath_twoLibraries]; decide, by decide⟩
  have found := (configure_first_iff twoLibraries_unset).mpr reached
  obtain ⟨said, complete⟩ := found_iff_not_hidden twoLibraries_unset .configure
    [({ environment := [("CINCLUDE_LIBCLANG", "/other.so")] }, .openLibrary)]
  rw [found] at said
  exact ⟨said, (complete.mpr fun hidden => hidden.not_reached.2 reached).mp found⟩

theorem secondLibrary_hidden :
    twoLibraries.setting "CINCLUDE_LIBCLANG" "" = "" ∧
    Findable twoLibraries { loadable := ["/usr/lib/libclang.so"] } ∧
    (configure twoLibraries { loadable := ["/usr/lib/libclang.so"] } {}).1 = false := by
  have hidden : Hidden twoLibraries { loadable := ["/usr/lib/libclang.so"] } := by
    refine ⟨rfl, [], "/usr/lib64/libclang.so", _, searchPath_twoLibraries _, by simp, by decide, by decide, ?_⟩
    exact ⟨"/usr/lib/libclang.so", by decide, by decide, by decide⟩
  obtain ⟨findable, lost⟩ := hidden.not_reached
  refine ⟨twoLibraries_unset, findable, ?_⟩
  rw [← Bool.not_eq_true, configure_first_iff twoLibraries_unset]
  exact lost

end CBindings.ParserLibrary
