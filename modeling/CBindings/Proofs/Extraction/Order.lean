import CBindings.Proofs.Extraction.Harvest

/-! The order of a request's declarations: messages, what was collected, what was probed; a record with its
constructor right behind it; no name twice. -/
namespace CBindings

open Declaration (names names_cons_some names_cons_none)

/-- Every record is followed at once by its constructor, and every constructor follows its record. -/
def Paired (ds : List Declaration) : Prop :=
  (∀ i body, ds[i]? = some (.record body) → ds[i + 1]? = some (.constructor body.name)) ∧
  ∀ i name, ds[i]? = some (.constructor name) →
    ∃ j body, i = j + 1 ∧ ds[j]? = some (.record body) ∧ body.name = name

theorem paired_nil : Paired [] := by simp [Paired]

theorem Paired.append {ds es : List Declaration} (left : Paired ds) (right : Paired es) : Paired (ds ++ es) := by
  constructor
  · intro i body found
    by_cases inLeft : i < ds.length
    · -- the constructor is in `ds` too, so nothing of `es` comes between
      rw [List.getElem?_append_left inLeft] at found
      have next := left.1 i body found
      have bounded := (List.getElem?_eq_some_iff.mp next).1
      rwa [List.getElem?_append_left bounded]
    · rw [List.getElem?_append_right (by omega)] at found ⊢
      have shifted : i + 1 - ds.length = i - ds.length + 1 := by omega
      rw [shifted]
      exact right.1 _ body found
  · intro i name found
    by_cases inLeft : i < ds.length
    · rw [List.getElem?_append_left inLeft] at found
      obtain ⟨j, body, rfl, before, same⟩ := left.2 i name found
      exact ⟨j, body, rfl, by rwa [List.getElem?_append_left (by omega)], same⟩
    · rw [List.getElem?_append_right (by omega)] at found
      obtain ⟨j, body, shifted, before, same⟩ := right.2 _ name found
      refine ⟨ds.length + j, body, by omega, ?_, same⟩
      rw [List.getElem?_append_right (by omega)]
      simpa using before

def StandsAlone (d : Declaration) : Prop := (∀ body, d ≠ .record body) ∧ d.isConstructor = false

theorem paired_single {d : Declaration} (alone : StandsAlone d) : Paired [d] := by
  obtain ⟨noRecord, noConstructor⟩ := alone
  constructor
  · intro i body found
    cases i with
    | zero => exact absurd (by simpa using found) (noRecord body)
    | succ i => simp at found
  · intro i name found
    cases i with
    | zero =>
      have same : d = .constructor name := by simpa using found
      simp [same, Declaration.isConstructor] at noConstructor
    | succ i => simp at found

theorem paired_record (body : Record) : Paired [.record body, .constructor body.name] := by
  constructor
  · intro i body' found
    cases i with
    | zero =>
      have same : body = body' := by simpa using found
      simp [same]
    | succ i => cases i <;> simp at found
  · intro i name found
    cases i with
    | zero => simp at found
    | succ i =>
      cases i with
      | zero => exact ⟨0, body, rfl, rfl, by simpa using found⟩
      | succ i => simp at found

theorem paired_of_standsAlone {ds : List Declaration} (alone : ∀ d ∈ ds, StandsAlone d) : Paired ds := by
  induction ds with
  | nil => exact paired_nil
  | cons d rest ih =>
    have first := paired_single (alone d List.mem_cons_self)
    exact first.append (ih fun e member => alone e (List.mem_cons_of_mem d member))

theorem synthesize_cons_record (library : String) (body : Record) (ds : List Declaration) :
    synthesize library (.record body :: ds) = [.record body, .constructor body.name] ++ synthesize library ds :=
  rfl

theorem synthesize_cons {d : Declaration} (noRecord : ∀ body, d ≠ .record body) (library : String)
    (ds : List Declaration) : synthesize library (d :: ds) = d.rebound library :: synthesize library ds := by
  cases d with
  | record body => exact absurd rfl (noRecord body)
  | _ => rfl

theorem rebound_same (library : String) (d : Declaration) :
    (d.rebound library).boundName? = d.boundName? ∧ (d.rebound library).isInfo = d.isInfo ∧
    (d.rebound library).isProbed = d.isProbed ∧ (d.rebound library).isConstructor = d.isConstructor ∧
    ∀ body, d.rebound library = .record body ↔ d = .record body := by
  fun_cases Declaration.rebound library d with
  | case1 f =>
    by_cases inside : f.library = some library
    · simp [inside, Declaration.boundName?, Declaration.isInfo, Declaration.isProbed, Declaration.isConstructor]
    · simp [inside]
  | case2 v =>
    by_cases inside : v.library = some library
    · simp [inside, Declaration.boundName?, Declaration.isInfo, Declaration.isProbed, Declaration.isConstructor]
    · simp [inside]
  | case3 => simp

theorem mem_synthesize {library : String} {ds : List Declaration} {d : Declaration}
    (member : d ∈ synthesize library ds) :
    (∃ e ∈ ds, d = e.rebound library) ∨ ∃ body, .record body ∈ ds ∧ d = .constructor body.name := by
  obtain ⟨e, given, made⟩ := List.mem_flatMap.mp member
  split at made
  · rename_i body
    rcases List.mem_cons.mp made with same | last
    · exact .inl ⟨.record body, given, same⟩
    · exact .inr ⟨body, given, List.mem_singleton.mp last⟩
  · exact .inl ⟨e, given, List.mem_singleton.mp made⟩

theorem names_synthesize (library : String) (ds : List Declaration) :
    names (synthesize library ds) = names ds := by
  induction ds with
  | nil => rfl
  | cons d rest ih =>
    by_cases record : ∃ body, d = .record body
    · obtain ⟨body, rfl⟩ := record
      rw [synthesize_cons_record, Declaration.names_append, ih]
      rfl
    · rw [synthesize_cons (not_exists.mp record)]
      have same := (rebound_same library d).1
      cases bound : d.boundName? with
      | none => rw [names_cons_none bound, names_cons_none (same.trans bound), ih]
      | some name => rw [names_cons_some bound, names_cons_some (same.trans bound), ih]

section Collected

/- Constructors are only added here: headers have none. -/
variable {ds : List Declaration} (collected : ∀ d ∈ ds, d.isCollected = true)
include collected

theorem isConstructor_of_collected {d : Declaration} (member : d ∈ ds) : d.isConstructor = false := by
  obtain ⟨name, bound⟩ := Declaration.exists_boundName? (collected d member)
  cases d <;> simp_all [Declaration.boundName?, Declaration.isConstructor]

theorem synthesize_kind {library : String} {d : Declaration} (member : d ∈ synthesize library ds) :
    d.isInfo = false ∧ d.isProbed = false ∧ (d.isConstructor = true ∨ ∃ name, d.boundName? = some name) := by
  obtain ⟨e, inside, rfl⟩ | ⟨body, _, rfl⟩ := mem_synthesize member
  · obtain ⟨bound, info, fromProbe, _⟩ := rebound_same library e
    have kind := collected e inside
    obtain ⟨name, named⟩ := Declaration.exists_boundName? kind
    rw [info, fromProbe, bound]
    refine ⟨?_, by simpa [Declaration.isCollected, named] using kind, .inr ⟨name, named⟩⟩
    cases e <;> simp_all [Declaration.boundName?, Declaration.isInfo]
  · exact ⟨rfl, rfl, .inl rfl⟩

theorem synthesize_paired (library : String) : Paired (synthesize library ds) := by
  induction ds with
  | nil => exact paired_nil
  | cons d rest ih =>
    have others := ih fun e member => collected e (List.mem_cons_of_mem d member)
    by_cases record : ∃ body, d = .record body
    · obtain ⟨body, rfl⟩ := record
      exact (paired_record body).append others
    · rw [synthesize_cons (not_exists.mp record)]
      obtain ⟨_, _, _, constructor, kind⟩ := rebound_same library d
      have alone : StandsAlone (d.rebound library) :=
        ⟨fun body same => record ⟨body, (kind body).mp same⟩,
          constructor.trans (isConstructor_of_collected collected List.mem_cons_self)⟩
      exact (paired_single alone).append others

theorem synthesize_filter (library : String) :
    (synthesize library ds).filter (!·.isConstructor) = ds.map (·.rebound library) := by
  induction ds with
  | nil => rfl
  | cons d rest ih =>
    have others := ih fun e member => collected e (List.mem_cons_of_mem d member)
    by_cases record : ∃ body, d = .record body
    · obtain ⟨body, rfl⟩ := record
      rw [synthesize_cons_record, List.filter_append, others]
      rfl
    · rw [synthesize_cons (not_exists.mp record), List.map_cons, ← others]
      have constructor := (rebound_same library d).2.2.2.1
      rw [isConstructor_of_collected collected List.mem_cons_self] at constructor
      simp [constructor]

end Collected

theorem synthesize_append (library : String) (ds es : List Declaration) :
    synthesize library (ds ++ es) = synthesize library ds ++ synthesize library es :=
  List.flatMap_append

theorem synthesize_constants (library : String) (ks : List Constant) :
    synthesize library (ks.map .constant) = ks.map .constant := by
  induction ks with
  | nil => rfl
  | cons k rest ih => simpa [synthesize, Declaration.rebound] using ih

namespace Extraction

open Collector (walkAll)

/-- How the declarations of a request are laid out, given the headers that were parsed and what was collected
from them. -/
structure LaidOut (r : Request) (paths : List String) (w : Collector) (ds : List Declaration) : Prop where
  blocks : ∃ (middle : List Declaration) (probed : List Constant), ds = messages r paths ++ middle ++ probed.map .constant ∧
    middle.filter (!·.isConstructor) = w.declarations.map (·.rebound defaultLibrary) ∧
    (∀ d ∈ middle, d.isInfo = false ∧ d.isProbed = false) ∧
    (∀ k ∈ probed, k.probed = true) ∧ (probed.map (·.name)).Sublist w.computed ∧ w.computed.Nodup
  named : ∀ d ∈ ds, d.isInfo = true ∨ d.isConstructor = true ∨ ∃ name, d.boundName? = some name
  distinct : (names ds).Nodup
  paired : Paired ds

theorem messages_info {r : Request} {paths : List String} {d : Declaration} (member : d ∈ messages r paths) :
    ∃ text, d = .info text := by
  unfold messages at member
  split at member
  · cases member
  · obtain ⟨path, _, rfl⟩ := List.mem_map.mp member
    exact ⟨_, rfl⟩

theorem names_messages (r : Request) (paths : List String) : names (messages r paths) = [] := by
  refine List.filterMap_eq_nil_iff.mpr fun d member => ?_
  obtain ⟨text, rfl⟩ := messages_info member
  rfl

theorem names_constants (ks : List Constant) : names (ks.map .constant) = ks.map (·.name) := by
  induction ks with
  | nil => rfl
  | cons k rest ih => rw [List.map_cons, names_cons_some rfl, ih, List.map_cons]

theorem assemble_laidOut (r : Request) (paths : List String) {w : Collector} {ks : List Constant}
    (consistent : w.Consistent) (ordered : (ks.map (·.name)).Sublist w.computed)
    (probed : ∀ k ∈ ks, k.probed = true) : LaidOut r paths w (assemble r paths w ks) := by
  have given : (names w.declarations ++ w.computed).Nodup := consistent.seen.nodup_iff.mp consistent.distinct
  have whole : assemble r paths w ks =
      messages r paths ++ synthesize defaultLibrary w.declarations ++ ks.map .constant := by
    rw [assemble, synthesize_append, synthesize_constants, List.append_assoc]
  have middle {d : Declaration} (member : d ∈ synthesize defaultLibrary w.declarations) :=
    synthesize_kind consistent.collected member
  rw [whole]
  refine ⟨⟨_, ks, rfl, synthesize_filter consistent.collected _, ?_, probed, ordered, ?_⟩, ?_, ?_, ?_⟩
  · exact fun d member => ⟨(middle member).1, (middle member).2.1⟩
  · exact (List.nodup_append.mp given).2.1
  · intro d member
    rcases List.mem_append.mp member with early | last
    · rcases List.mem_append.mp early with first | second
      · obtain ⟨text, rfl⟩ := messages_info first
        exact .inl rfl
      · exact .inr (middle second).2.2
    · obtain ⟨k, _, rfl⟩ := List.mem_map.mp last
      exact .inr (.inr ⟨k.name, rfl⟩)
  · rw [Declaration.names_append, Declaration.names_append, names_messages, names_synthesize, names_constants,
      List.nil_append]
    exact given.sublist ((List.Sublist.refl _).append ordered)
  · refine (Paired.append ?_ (synthesize_paired consistent.collected _)).append ?_
    · refine paired_of_standsAlone fun d member => ?_
      obtain ⟨text, rfl⟩ := messages_info member
      exact ⟨by simp, rfl⟩
    · refine paired_of_standsAlone fun d member => ?_
      obtain ⟨k, _, rfl⟩ := List.mem_map.mp member
      exact ⟨by simp, rfl⟩

/-- Whatever the toolchain and its answers, the declarations that a request returns are laid out in blocks, no two
bind one name, and records and constructors come in pairs. -/
theorem run_laidOut {t : Toolchain} {r : Request} {s s' : Session} {ds : List Declaration}
    (returned : (run t r).run s = (.ok ds, s')) :
    ∃ c, r.collection = .ok c ∧
      LaidOut r (parsed t (located t r s)) (walkAll c {} (unitsOf t (located t r s))) ds := by
  have result : ((run t r).run s).1 = .ok ds := congrArg Prod.fst returned
  cases compiled : r.collection with
  | error f =>
    rw [run_of_filterFault compiled] at result
    cases result
  | ok c =>
    obtain ⟨-, -, ks, answered, rfl⟩ := (run_eq_ok_iff compiled t s ds).mp result
    obtain ⟨ordered, probed⟩ := Probe.answer_ok answered
    exact ⟨c, rfl, assemble_laidOut r _ (Collector.consistent_walkAll c _) ordered probed⟩

/-- A record, and two macros that the compiler has to compute. -/
def pointHeader : HeaderUnit :=
  { cursors := [
      { kind := .macroDefinition, name := "SIZE", location := some ⟨"p.h", 1, some 9⟩,
        tokens := [⟨"SIZE", 8, 12⟩, ⟨"WIDTH", 13, 18⟩, ⟨"*", 19, 20⟩, ⟨"2", 21, 22⟩] },
      { kind := .record false, name := "point", location := some ⟨"p.h", 2, some 1⟩, isDefinition := true,
        definition := some 1 },
      { kind := .macroDefinition, name := "EDGE", location := some ⟨"p.h", 3, some 9⟩,
        tokens := [⟨"EDGE", 48, 52⟩, ⟨"SIZE", 53, 57⟩, ⟨"+", 58, 59⟩, ⟨"1", 60, 61⟩] }],
    top := [0, 1, 2] }

def pointToolchain : Toolchain := { files := ["p.h"], units := [("p.h", pointHeader)] }

/-- The probe is built and prints the second macro before the first. -/
def pointSession : Session :=
  { runs := [.exited 0 "" "", .exited 0 "" "",
      .exited 0 "\n@@cinclude@@const EDGE = 17\n@@cinclude@@const SIZE = 16\n" ""] }

/-- The second header cannot be parsed. -/
def pointRequest : Request := { headers := ["p.h", "q.h"] }

theorem run_pointHeader_laidOut :
    ∃ ds s', (run pointToolchain pointRequest).run pointSession = (.ok ds, s') ∧
      ds.map (·.boundName?) = [none, some "point", none, some "SIZE", some "EDGE"] ∧
      ∃ c, pointRequest.collection = .ok c ∧
        LaidOut pointRequest
          (parsed pointToolchain (located pointToolchain pointRequest pointSession))
          (walkAll c {} (unitsOf pointToolchain
            (located pointToolchain pointRequest pointSession))) ds := by
  have evaluated : ((run pointToolchain pointRequest).run pointSession).1.toOption.map
      (·.map (·.boundName?)) = some [none, some "point", none, some "SIZE", some "EDGE"] := by
    decide +kernel
  rcases returned : (run pointToolchain pointRequest).run pointSession with ⟨result, s'⟩
  rw [returned] at evaluated
  cases result with
  | error f => cases evaluated
  | ok ds => exact ⟨ds, s', rfl, Option.some.inj evaluated, run_laidOut returned⟩

end Extraction

end CBindings
