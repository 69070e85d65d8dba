import Mathlib.Data.List.Pairwise
import Mathlib.Data.String.Basic
import SchemaMigration.Proofs.FileTree
import SchemaMigration.Proofs.Path
import SchemaMigration.Proofs.Release
import SchemaMigration.Proofs.Version.Grammar

/-!
# SchemaMigration.Proofs.Release.Listing — the steps, in whatever order their directories are listed

Every entry of the directory of the steps is looked at by its whole path, and a directory is a step where its name
begins with a version.

* `ofStepName_ne_tooLong` : a name that a directory can hold has no run of digits that is too long.
* `entrySteps_eq` : the first entry whose path is too long decides, and without one every entry counts by itself.
* `map_name_filterMap_stepAt` : the directories whose names begin with a version, each as often as it is listed.
* `sortSteps_eq_of_perm` : steps to different versions are put into one order.
* `steps_listed` : what the listing ends with.
* `windingSite` : a root of short names whose path is long.
-/

namespace SchemaMigration.Release

open Job
open FileTree (maxNameBytes maxPathBytes)

variable {site : Site} {directory : Path} {entry : String × Node} {entries : List (String × Node)}

/-! ## Definitions -/

/-- The whole path of an entry of the directory is longer than the system takes. -/
def isTooLong (directory : Path) (entry : String × Node) : Bool :=
  maxPathBytes ≤ (directory.child entry.1).render.utf8ByteSize

/-- The name of a directory begins with a version. -/
def namesStep (name : String) : Bool := (Version.ofStepName name).isOk

/-- What stands in the directory of the steps, in the order in which it is listed. -/
def listed (site : Site) : List (String × Node) := site.files.children (stepDirectory site.root)

/-! ## One entry -/

theorem length_le_utf8ByteSize (s : String) : s.toList.length ≤ s.utf8ByteSize := by
  have hlen : ∀ cs : List Char, cs.length ≤ String.utf8Len cs := by
    intro cs
    induction cs with
    | nil => simp
    | cons c cs ih =>
      have hpos := Char.utf8Size_pos c
      simp only [List.length_cons, String.utf8Len_cons]
      omega
  have h := hlen s.toList
  rwa [← String.utf8ByteSize_ofList, String.ofList_toList] at h

/-- A name that a directory can hold is too short for a run of digits that is too long. -/
theorem ofStepName_ne_tooLong {name : String} (h : name.utf8ByteSize ≤ maxNameBytes) (n : Nat) :
    Version.ofStepName name ≠ .error (.tooLong n) := by
  intro hlong
  have hparse : Version.parse (String.ofList (name.toList.takeWhile (· != '_'))) = .error (.tooLong n) := by
    rwa [Version.parse, String.toList_ofList]
  have hdigits := Version.digitLimit_lt_length hparse
  rw [String.toList_ofList] at hdigits
  have hfront := (List.takeWhile_prefix (l := name.toList) (· != '_')).length_le
  have hbytes := length_le_utf8ByteSize name
  have hlimits : maxNameBytes < Text.digitLimit := by decide
  omega

theorem entryStep_of_long (h : isTooLong directory entry = true) :
    entryStep directory entry = .error (.accident (.nameTooLong (directory.child entry.1).render)) := by
  rw [isTooLong, decide_eq_true_iff] at h
  rw [entryStep, FileTree.checkLength, if_pos h]

theorem entryStep_of_short (hname : entry.1.utf8ByteSize ≤ maxNameBytes) (h : isTooLong directory entry = false) :
    entryStep directory entry = .ok (stepAt entry) := by
  rw [isTooLong, decide_eq_false_iff_not] at h
  rw [entryStep, FileTree.checkLength, if_neg h, stepAt]
  dsimp only
  split_ifs with hdir
  · rw [Step.ofName]
    cases hv : Version.ofStepName entry.1 with
    | ok v => rfl
    | error fault =>
      cases fault with
      | malformed text => rfl
      | tooLong n => exact absurd hv (ofStepName_ne_tooLong hname n)
  · rfl

/-! ## All entries -/

/-- The first entry whose path is too long decides, and without one every entry is what it stands for. -/
theorem entrySteps_eq (hnames : ∀ entry ∈ entries, entry.1.utf8ByteSize ≤ maxNameBytes) :
    entrySteps directory entries =
      match entries.find? (isTooLong directory) with
      | some entry => .error (.accident (.nameTooLong (directory.child entry.1).render))
      | none => .ok (entries.filterMap stepAt) := by
  induction entries with
  | nil => rfl
  | cons entry entries ih =>
    rw [entrySteps, ih fun e he => hnames e (List.mem_cons_of_mem _ he)]
    cases hlong : isTooLong directory entry with
    | true => rw [entryStep_of_long hlong, List.find?_cons_of_pos hlong]
    | false =>
      rw [entryStep_of_short (hnames entry List.mem_cons_self) hlong, List.find?_cons_of_neg (by simp [hlong])]
      cases entries.find? (isTooLong directory) with
      | some e => rfl
      | none => cases hstep : stepAt entry <;> simp [Except.map, hstep]

theorem listing_of_entries (hdir : site.files.isDirectory (stepDirectory site.root) = .ok true)
    (hnames : ∀ entry ∈ listed site, entry.1.utf8ByteSize ≤ maxNameBytes) :
    listing site =
      match (listed site).find? (isTooLong (stepDirectory site.root)) with
      | some entry => .error (.accident (.nameTooLong ((stepDirectory site.root).child entry.1).render))
      | none => .ok (sortSteps ((listed site).filterMap stepAt)) := by
  rw [listing, hdir]
  dsimp only
  rw [← listed, entrySteps_eq hnames]
  cases (listed site).find? (isTooLong (stepDirectory site.root)) with
  | some entry => rfl
  | none => rfl

/-! ## The steps that are found -/

theorem stepAt_eq_some {step : Step} (h : stepAt entry = some step) :
    entry.2 = .directory ∧ step.name = entry.1 ∧ Version.ofStepName entry.1 = .ok step.version := by
  rw [stepAt] at h
  split_ifs at h with hdir
  rw [Step.ofName] at h
  cases hv : Version.ofStepName entry.1 with
  | error fault => simp [hv, Except.map, Except.toOption] at h
  | ok v =>
    rw [hv] at h
    cases h
    exact ⟨hdir, rfl, rfl⟩

theorem map_name_stepAt (entry : String × Node) :
    (stepAt entry).map Step.name = (if entry.2 = .directory then some entry.1 else none).filter namesStep := by
  rw [stepAt, Step.ofName]
  split_ifs
  · cases hv : Version.ofStepName entry.1 with
    | ok v =>
      have hnamed : namesStep entry.1 = true := by
        rw [namesStep, hv]
        rfl
      rw [Option.filter, if_pos hnamed]
      rfl
    | error fault =>
      have hnamed : ¬ namesStep entry.1 = true := by
        rw [namesStep, hv]
        exact Bool.false_ne_true
      rw [Option.filter, if_neg hnamed]
      rfl
  · rfl

/-- Every directory whose name begins with a version is found once for each time that it is listed. -/
theorem map_name_filterMap_stepAt (entries : List (String × Node)) :
    (entries.filterMap stepAt).map Step.name =
      (entries.filterMap fun (name, node) => if node = .directory then some name else none).filter namesStep := by
  rw [List.map_filterMap, List.filter_filterMap]
  exact List.filterMap_congr fun entry _ => map_name_stepAt entry

theorem perm_names_sortSteps (site : Site) :
    ((sortSteps ((listed site).filterMap stepAt)).map Step.name).Perm
      ((site.files.subdirectories (stepDirectory site.root)).filter namesStep) := by
  rw [FileTree.subdirectories, ← map_name_filterMap_stepAt]
  exact (List.mergeSort_perm _ _).map _

/-- Steps that lead to different versions are put into one order, however they were listed. -/
theorem sortSteps_eq_of_perm {found others : List Step} (hperm : others.Perm found)
    (hdistinct : (sortSteps found).Pairwise fun a b => ¬ a.version.Same b.version) :
    sortSteps others = sortSteps found := by
  have hsorted : (sortSteps others).Perm (sortSteps found) :=
    ((List.mergeSort_perm _ _).trans hperm).trans (List.mergeSort_perm _ _).symm
  refine hsorted.eq_of_pairwise (fun a b ha hb hab hba => ?_) (pairwise_le_sortSteps _) (pairwise_le_sortSteps _)
  by_contra hne
  have hsymm : Std.Symm fun a b : Step => ¬ a.version.Same b.version := ⟨fun _ _ h hs => h hs.symm⟩
  exact hdistinct.forall (hsorted.mem_iff.1 ha) hb hne (Version.same_of_le_of_le hab hba)

/-! ## The listing -/

theorem endsWith_steps_of_missing (h : site.files.isDirectory (stepDirectory site.root) = .ok false) :
    EndsWith steps site (.ok []) := by
  have hsteps := endsWith_steps site
  rwa [listing, h] at hsteps

theorem endsWith_steps_of_short (hdir : site.files.isDirectory (stepDirectory site.root) = .ok true)
    (hnames : ∀ entry ∈ listed site, entry.1.utf8ByteSize ≤ maxNameBytes)
    (hshort : ∀ entry ∈ listed site, isTooLong (stepDirectory site.root) entry = false) :
    EndsWith steps site (.ok (sortSteps ((listed site).filterMap stepAt))) := by
  have hsteps := endsWith_steps site
  have hnone : (listed site).find? (isTooLong (stepDirectory site.root)) = none :=
    List.find?_eq_none.2 fun entry he => by simp [hshort entry he]
  rwa [listing_of_entries hdir hnames, hnone] at hsteps

/-- Where the names in the directory of the steps are not too long, what the listing ends with, whatever the store
holds.  It fails just where the whole path of an entry is too long, for the first such entry, and never for a run of
digits.  Otherwise the steps are the directories whose names begin with a version, each as often as it is listed and
with that version, in ascending order; where their versions differ, they are the same for every order in which the
directory is listed. -/
theorem steps_listed (hnames : ∀ entry ∈ listed site, entry.1.utf8ByteSize ≤ maxNameBytes) :
    (site.files.isDirectory (stepDirectory site.root) = .ok false → EndsWith steps site (.ok [])) ∧
      (site.files.isDirectory (stepDirectory site.root) = .ok true →
        (∀ entry, (listed site).find? (isTooLong (stepDirectory site.root)) = some entry →
          EndsWith steps site (.error (.accident (.nameTooLong ((stepDirectory site.root).child entry.1).render)))) ∧
        ((∀ entry ∈ listed site, isTooLong (stepDirectory site.root) entry = false) →
          ∃ found, EndsWith steps site (.ok found) ∧
            (found.map Step.name).Perm ((site.files.subdirectories (stepDirectory site.root)).filter namesStep) ∧
            (∀ step ∈ found, Version.ofStepName step.name = .ok step.version) ∧
            (found.Pairwise fun a b => a.version ≤ b.version) ∧
            ((found.Pairwise fun a b => ¬ a.version.Same b.version) →
              ∀ files : FileTree, files.isDirectory (stepDirectory site.root) = .ok true →
                (files.children (stepDirectory site.root)).Perm (listed site) →
                EndsWith steps { site with files } (.ok found)))) := by
  refine ⟨endsWith_steps_of_missing, fun hdir => ⟨fun entry hlong => ?_, fun hshort => ?_⟩⟩
  · have hsteps := endsWith_steps site
    rwa [listing_of_entries hdir hnames, hlong] at hsteps
  · refine ⟨_, endsWith_steps_of_short hdir hnames hshort, perm_names_sortSteps site, fun step hstep => ?_,
      pairwise_le_sortSteps _, fun hdistinct files hdir' hperm => ?_⟩
    · rw [sortSteps, List.mem_mergeSort, List.mem_filterMap] at hstep
      obtain ⟨entry, -, hentry⟩ := hstep
      obtain ⟨-, hname, hversion⟩ := stepAt_eq_some hentry
      rwa [hname]
    · have hother : EndsWith steps { site with files }
          (.ok (sortSteps ((files.children (stepDirectory site.root)).filterMap stepAt))) :=
        endsWith_steps_of_short hdir' (fun entry he => hnames entry (hperm.mem_iff.1 he)) fun entry he =>
          hshort entry (hperm.mem_iff.1 he)
      rwa [sortSteps_eq_of_perm (hperm.filterMap _) hdistinct] at hother

/-! ## A root that leads back and forth -/

/-- The directory `res`, with as many ways out of it and back. -/
def winding : Nat → Path
  | 0 => ⟨"", ["res"]⟩
  | n + 1 => ((winding n).child "..").child "res"

/-- Two steps among what is none, below `res`. -/
def windingFiles : FileTree where
  entries :=
    [(["res"], .directory), (["res", "sql"], .directory), (["res", "sql", "upgrade"], .directory),
      (["res", "sql", "upgrade", "1.10.0_schema"], .directory), (["res", "sql", "upgrade", "notes.txt"], .file []),
      (["res", "sql", "upgrade", "README_schema"], .directory),
      (["res", "sql", "upgrade", "1.2.0_schema"], .directory)]

/-- A release that is reached by such a root. -/
def windingSite (n : Nat) : Site := { vendor := .sqlite, files := windingFiles, root := winding n }

theorem parts_winding_ne (n : Nat) : (winding n).parts ≠ [] := by
  cases n with
  | zero => decide
  | succ n => simp [winding, Path.child]

theorem render_winding_succ (n : Nat) : (winding (n + 1)).render = (winding n).render ++ "/.." ++ "/res" := by
  have hout : ((winding n).child "..").parts ≠ [] := by simp [Path.child]
  rw [winding, Path.render_child hout, Path.render_child (parts_winding_ne n)]
  simp only [String.append_assoc]
  rfl

theorem render_stepDirectory_winding (n : Nat) :
    (stepDirectory (winding n)).render = (winding n).render ++ "/sql/upgrade" := by
  have hparts : stepDirectory (winding n) = ((winding n).child "sql").child "upgrade" := by
    have hbelow : Path.parse "sql/upgrade" = ⟨"", ["sql", "upgrade"]⟩ := by decide +kernel
    rw [stepDirectory, hbelow, Path.join_relative rfl]
    simp [Path.child]
  have hsql : ((winding n).child "sql").parts ≠ [] := by simp [Path.child]
  rw [hparts, Path.render_child hsql, Path.render_child (parts_winding_ne n)]
  simp only [String.append_assoc]
  rfl

theorem utf8ByteSize_winding (n : Nat) : (winding n).render.utf8ByteSize = 7 * n + 3 := by
  induction n with
  | zero => decide
  | succ n ih =>
    have hround : "/..".utf8ByteSize = 3 ∧ "/res".utf8ByteSize = 4 := by decide
    rw [render_winding_succ, String.utf8ByteSize_append, String.utf8ByteSize_append, ih, hround.1, hround.2]
    omega

theorem zero_not_mem_winding (n : Nat) : Char.ofNat 0 ∉ (winding n).render.toList := by
  induction n with
  | zero => decide
  | succ n ih =>
    rw [render_winding_succ, String.toList_append, String.toList_append, List.mem_append, List.mem_append]
    rintro ((h | h) | h)
    · exact ih h
    · revert h
      decide
    · revert h
      decide

/-- However often it leads out and back, the root is `res`. -/
theorem walk_winding (n : Nat) : windingFiles.walk (winding n) = .ok (some ["res"]) := by
  induction n with
  | zero => decide
  | succ n ih =>
    have hparts : (winding (n + 1)) = (winding n).join ⟨"", ["..", "res"]⟩ := by simp [winding, Path.child, Path.join]
    rw [hparts, FileTree.walk_join rfl, ih]
    rfl

theorem utf8ByteSize_stepDirectory_winding (n : Nat) :
    (stepDirectory (winding n)).render.utf8ByteSize = 7 * n + 15 := by
  have hbelow : "/sql/upgrade".utf8ByteSize = 12 := by decide
  rw [render_stepDirectory_winding, String.utf8ByteSize_append, utf8ByteSize_winding, hbelow]

theorem isTooLong_winding (n : Nat) (entry : String × Node) :
    isTooLong (stepDirectory (winding n)) entry = decide (maxPathBytes ≤ 7 * n + 16 + entry.1.utf8ByteSize) := by
  have hne : (stepDirectory (winding n)).parts ≠ [] := by
    rw [stepDirectory, Path.join_relative (by decide +kernel)]
    simp [parts_winding_ne n]
  have hslash : "/".utf8ByteSize = 1 := by decide
  rw [isTooLong, Path.render_child hne, String.utf8ByteSize_append, String.utf8ByteSize_append,
    utf8ByteSize_stepDirectory_winding, hslash]

theorem locate_winding {n : Nat} (h : n ≤ 582) :
    windingFiles.locate (stepDirectory (winding n)) = .ok (some ["res", "sql", "upgrade"]) := by
  have hzero : Char.ofNat 0 ∉ (stepDirectory (winding n)).render.toList := by
    rw [render_stepDirectory_winding, String.toList_append, List.mem_append]
    rintro (h | h)
    · exact zero_not_mem_winding n h
    · revert h
      decide
  have hwalk : windingFiles.walk (stepDirectory (winding n)) =
      .ok (some ["res", "sql", "upgrade"]) := by
    rw [stepDirectory, FileTree.walk_join (by decide +kernel), walk_winding]
    decide +kernel
  rw [FileTree.locate_eq, if_neg (by simpa using hzero), utf8ByteSize_stepDirectory_winding,
    if_neg (by rw [maxPathBytes]; omega), hwalk]
  rfl

theorem isDirectory_winding {n : Nat} (h : n ≤ 582) :
    windingFiles.isDirectory (stepDirectory (winding n)) = .ok true := by
  rw [FileTree.isDirectory, locate_winding h]
  rfl

theorem listed_winding {n : Nat} (h : n ≤ 582) :
    listed (windingSite n) =
      [("1.10.0_schema", .directory), ("notes.txt", .file []), ("README_schema", .directory),
        ("1.2.0_schema", .directory)] := by
  rw [listed, windingSite, FileTree.children, locate_winding h]
  have hfiles : windingFiles.entries.filterMap (FileTree.nameIn ["res", "sql", "upgrade"]) =
      [("1.10.0_schema", .directory), ("notes.txt", .file []), ("README_schema", .directory),
        ("1.2.0_schema", .directory)] := by
    decide +kernel
  exact hfiles

/-- Where the root leads out and back 582 times, the first entry has a path of 4096 bytes or more, and no step is
found; where it does not, the two steps are. -/
theorem steps_listed_winding :
    EndsWith steps (windingSite 582)
        (.error (.accident (.nameTooLong ((stepDirectory (winding 582)).child "1.10.0_schema").render))) ∧
      ∃ found, EndsWith steps (windingSite 0) (.ok found) ∧
        (found.map Step.name).Perm ["1.10.0_schema", "1.2.0_schema"] ∧
        found.Pairwise fun a b => a.version ≤ b.version := by
  have hnames : ∀ n, n ≤ 582 → ∀ entry ∈ listed (windingSite n), entry.1.utf8ByteSize ≤ maxNameBytes := by
    intro n hn
    rw [listed_winding hn]
    decide
  have hfirst : ∀ n, n ≤ 582 → maxPathBytes ≤ 7 * n + 29 → EndsWith steps (windingSite n)
      (.error (.accident (.nameTooLong ((stepDirectory (winding n)).child "1.10.0_schema").render))) := by
    intro n hn hlong
    have hfound : (listed (windingSite n)).find? (isTooLong (stepDirectory (winding n))) =
        some ("1.10.0_schema", .directory) := by
      rw [listed_winding hn]
      exact List.find?_cons_of_pos (by rw [isTooLong_winding]; exact decide_eq_true hlong)
    obtain ⟨-, hthere⟩ := steps_listed (hnames n hn)
    exact (hthere (isDirectory_winding hn)).1 _ hfound
  refine ⟨hfirst 582 (Nat.le_refl _) (by decide), ?_⟩
  have hshort : ∀ entry ∈ listed (windingSite 0), isTooLong (stepDirectory (winding 0)) entry = false := by
    intro entry hentry
    have hname := hnames 0 (Nat.zero_le _) entry hentry
    rw [isTooLong_winding, decide_eq_false_iff_not]
    simp only [maxPathBytes, maxNameBytes] at *
    omega
  have hsub : (windingFiles.subdirectories (stepDirectory (winding 0))).filter namesStep =
      ["1.10.0_schema", "1.2.0_schema"] := by
    have hlisted : windingFiles.children (stepDirectory (winding 0)) = _ := listed_winding (Nat.zero_le _)
    rw [FileTree.subdirectories, hlisted]
    decide +kernel
  obtain ⟨-, hthere⟩ := steps_listed (hnames 0 (Nat.zero_le _))
  obtain ⟨found, hends, hperm, -, hsorted, -⟩ := (hthere (isDirectory_winding (Nat.zero_le _))).2 hshort
  exact ⟨found, hends, hsub ▸ hperm, hsorted⟩

end SchemaMigration.Release
