import Mathlib.Data.List.Nodup
import SchemaMigration.Proofs.FolderSize.Sizes
import SchemaMigration.Proofs.Text.Pieces

/-!
# SchemaMigration.Proofs.FolderSize.Tree — files and folders that form a tree

The name of a folder and a slash begin the names of just those files that have one more part after the parts of the
folder.  In a tree of files, that part is the file itself or leads through one folder that lies in the first one.  So
the files below a folder are those directly in it and those below the folders directly in it, each of them once.

* `pathText`, `nameOf`, `parentOf` : names by their parts, and the name of the folder that something lies in.
* `IsTree` : different names, and a folder for every name that another one goes on from.
* `isBelow_nameOf`, `isIn_nameOf` : below a folder, and directly in it, by the parts of the names.
* `filter_isBelow_perm` : the files below a folder.
* `sumUnder_eq_sumIn` : the sum over the files below a folder, from what lies directly in it.
-/

namespace SchemaMigration.FolderSize

open Sql (Value)

variable {rows : List Resource} {r d c : Resource} {P Q rest : List (List Char)} {g p q X Y : List Char}

/-! ## Definitions -/

/-- A part of a name: not empty, and in one piece. -/
def IsPart (g : List Char) : Prop := g ≠ [] ∧ '/' ∉ g

instance (g : List Char) : Decidable (IsPart g) := inferInstanceAs (Decidable (_ ∧ _))

/-- The parts, with a slash before each. -/
def pathText (parts : List (List Char)) : List Char := parts.flatMap ('/' :: ·)

/-- The name that leads through these parts. -/
def nameOf (parts : List (List Char)) : Value := .text (String.ofList (pathText parts))

/-- What stands before the last slash of a name. -/
def parentOf : Value → Value
  | .text s => .text (String.ofList (Text.dropRightWhile (· != '/') s.toList).dropLast)
  | v => v

/-- The resource lies directly in the folder of this name. -/
def isIn (folder : Value) (r : Resource) : Bool := parentOf r.name = folder

/-- The resource lies below the folder of this name: its own name begins with that name, slashes at its end cut off,
and a slash. -/
def isBelow (folder : Value) (r : Resource) : Bool :=
  match folder with
  | .text s => begins (Text.dropRightWhile (· == '/') s.toList ++ ['/']) r.name
  | _ => false

/-- The sum of the sizes of those of the rows that lie below the folder. -/
def sumUnder (folder : Value) (rows : List Resource) : Int :=
  ((rows.filter (isBelow folder)).map (number ·.size)).sum

/-- The sum of the sizes of those of the rows that lie directly in the folder. -/
def sumIn (folder : Value) (rows : List Resource) : Int :=
  ((rows.filter (isIn folder)).map (number ·.size)).sum

/-- The rows are those of a tree of files: no two have the same name, every name leads from a slash through parts,
and if there are several, all but the last lead to a folder. -/
structure IsTree (rows : List Resource) : Prop where
  distinct : (rows.map (·.name)).Nodup
  paths : ∀ r ∈ rows, ∃ parts, parts ≠ [] ∧ (∀ g ∈ parts, IsPart g) ∧ r.name = nameOf parts ∧
    (1 < parts.length → ∃ d ∈ rows, isFolder d = true ∧ d.name = nameOf parts.dropLast)

theorem sumUnder_text (s : String) (rows : List Resource) : sumUnder (.text s) rows = sumBelow s rows := rfl

/-! ## Parts of names -/

@[simp] theorem pathText_nil : pathText [] = [] := rfl

@[simp] theorem pathText_cons (g : List Char) (P : List (List Char)) :
    pathText (g :: P) = '/' :: (g ++ pathText P) := rfl

@[simp] theorem pathText_append (P Q : List (List Char)) : pathText (P ++ Q) = pathText P ++ pathText Q :=
  List.flatMap_append

/-- What follows a part of a name. -/
def IsDelimited (X : List Char) : Prop := ∀ x ∈ X.head?, x = '/'

theorem isDelimited_pathText (P : List (List Char)) : IsDelimited (pathText P) := by
  cases P <;> simp [IsDelimited]

/-- Two texts that begin with a part and are equal begin with the same part: it ends where the next slash stands. -/
theorem part_append_inj (hp : '/' ∉ p) (hq : '/' ∉ q) (hX : IsDelimited X) (hY : IsDelimited Y) (h : p ++ X = q ++ Y) :
    p = q ∧ X = Y := by
  have hpq : p = q := by rw [← Text.takeWhile_ne_append hp hX, h, Text.takeWhile_ne_append hq hY]
  subst hpq
  exact ⟨rfl, List.append_cancel_left h⟩

theorem pathText_inj (hP : ∀ g ∈ P, IsPart g) (hQ : ∀ g ∈ Q, IsPart g) (h : pathText P = pathText Q) : P = Q := by
  induction P generalizing Q with
  | nil =>
    cases Q with
    | nil => rfl
    | cons q Q => cases h
  | cons p P ih =>
    cases Q with
    | nil => cases h
    | cons q Q =>
      obtain ⟨hp, hP'⟩ := List.forall_mem_cons.1 hP
      obtain ⟨hq, hQ'⟩ := List.forall_mem_cons.1 hQ
      obtain ⟨hpart, hrest⟩ := part_append_inj hp.2 hq.2 (isDelimited_pathText P) (isDelimited_pathText Q)
        (List.cons.inj h).2
      rw [hpart, ih hP' hQ' hrest]

theorem nameOf_inj (hP : ∀ g ∈ P, IsPart g) (hQ : ∀ g ∈ Q, IsPart g) (h : nameOf P = nameOf Q) : P = Q :=
  pathText_inj hP hQ (String.ofList_injective (Value.text.inj h))

/-- A name and a slash begin the names that go on with one more part. -/
theorem isPrefixOf_pathText (hP : ∀ g ∈ P, IsPart g) (hQ : ∀ g ∈ Q, IsPart g) :
    (pathText P ++ ['/']) <+: pathText Q ↔ ∃ g rest, Q = P ++ g :: rest := by
  constructor
  · intro h
    induction P generalizing Q with
    | nil =>
      cases Q with
      | nil => simp at h
      | cons q Q => exact ⟨q, Q, rfl⟩
    | cons p P ih =>
      cases Q with
      | nil => simp at h
      | cons q Q =>
        obtain ⟨hp, hP'⟩ := List.forall_mem_cons.1 hP
        obtain ⟨hq, hQ'⟩ := List.forall_mem_cons.1 hQ
        obtain ⟨Z, hZ⟩ := h
        have hbehind : IsDelimited (pathText P ++ ['/'] ++ Z) := by
          cases P <;> simp [IsDelimited]
        obtain ⟨hpart, hrest⟩ := part_append_inj hp.2 hq.2 hbehind (isDelimited_pathText Q)
          (by simpa using hZ)
        obtain ⟨g, rest, heq⟩ := ih hP' hQ' ⟨Z, hrest⟩
        exact ⟨g, rest, by rw [hpart, heq, List.cons_append]⟩
  · rintro ⟨g, rest, rfl⟩
    exact ⟨g ++ pathText rest, by simp⟩

/-! ## Names -/

theorem parentOf_nameOf (hg : IsPart g) (P : List (List Char)) : parentOf (nameOf (P ++ [g])) = nameOf P := by
  have hall := Text.bne_of_not_mem (List.mem_reverse.not.2 hg.2)
  have hreverse : (pathText (P ++ [g])).reverse = g.reverse ++ '/' :: (pathText P).reverse := by simp
  rw [nameOf, parentOf, String.toList_ofList, Text.dropRightWhile, hreverse, List.dropWhile_append_of_pos hall]
  simp [nameOf]

/-- No slash stands at the end of a name. -/
theorem dropRightWhile_pathText (hne : P ≠ []) (hP : ∀ g ∈ P, IsPart g) :
    Text.dropRightWhile (· == '/') (pathText P) = pathText P := by
  obtain ⟨P, g, rfl⟩ := (List.eq_nil_or_concat' P).resolve_left hne
  obtain ⟨hg, hslash⟩ := hP g (by simp)
  obtain ⟨g, x, rfl⟩ := (List.eq_nil_or_concat' g).resolve_left hg
  have hx : (x == '/') = false := by
    rw [beq_eq_false_iff_ne]
    rintro rfl
    simp at hslash
  have hends : pathText (P ++ [g ++ [x]]) = pathText P ++ '/' :: g ++ [x] := by simp
  rw [hends, Text.dropRightWhile, List.reverse_concat, List.dropWhile_cons_of_neg (by simp [hx]), ← List.reverse_concat,
    List.reverse_reverse]

/-- Below a folder are the names that go on from its own. -/
theorem isBelow_nameOf (hne : P ≠ []) (hP : ∀ g ∈ P, IsPart g) (hQ : ∀ g ∈ Q, IsPart g) (hr : r.name = nameOf Q) :
    isBelow (nameOf P) r = true ↔ ∃ g rest, Q = P ++ g :: rest := by
  rw [nameOf, isBelow, hr, nameOf, begins, String.toList_ofList, String.toList_ofList, dropRightWhile_pathText hne hP,
    List.isPrefixOf_iff_prefix, isPrefixOf_pathText hP hQ]

/-- Directly in a folder are the names that go on from its own by one part. -/
theorem isIn_nameOf (hP : ∀ g ∈ P, IsPart g) (hne : Q ≠ []) (hQ : ∀ g ∈ Q, IsPart g) (hr : r.name = nameOf Q) :
    isIn (nameOf P) r = true ↔ ∃ g, Q = P ++ [g] := by
  obtain ⟨Q, q, rfl⟩ := (List.eq_nil_or_concat' Q).resolve_left hne
  obtain ⟨hQ', hq⟩ := List.forall_mem_append.1 hQ
  rw [isIn, decide_eq_true_iff, hr, parentOf_nameOf (hq q (by simp))]
  constructor
  · intro h
    exact ⟨q, by rw [nameOf_inj hQ' hP h]⟩
  · rintro ⟨g, h⟩
    rw [(List.append_inj' h rfl).1]

/-! ## Trees -/

/-- Of what lies below a folder, everything on the way there is a folder. -/
theorem IsTree.exists_folder (h : IsTree rows) (hr : r ∈ rows) (hne : P ≠ []) (hrest : rest ≠ [])
    (hparts : ∀ g ∈ P ++ rest, IsPart g) (hname : r.name = nameOf (P ++ rest)) :
    ∃ c ∈ rows, isFolder c = true ∧ c.name = nameOf P := by
  induction rest using List.reverseRecOn generalizing r with
  | nil => exact absurd rfl hrest
  | append_singleton rest g ih =>
    obtain ⟨parts, -, hparts', hname', hfolder⟩ := h.paths r hr
    obtain rfl : parts = P ++ (rest ++ [g]) := nameOf_inj hparts' hparts (hname'.symm.trans hname)
    have hlong : 1 < (P ++ (rest ++ [g])).length := by
      have hlength := List.length_pos_iff.2 hne
      simp
      omega
    obtain ⟨d, hd, hdir, hdname⟩ := hfolder hlong
    rw [← List.append_assoc, List.dropLast_concat] at hdname
    cases rest with
    | nil => exact ⟨d, hd, hdir, by simpa using hdname⟩
    | cons q rest =>
      refine ih hd (List.cons_ne_nil _ _) (fun g hg => hparts g ?_) hdname
      rw [← List.append_assoc]
      exact List.mem_append_left _ hg

theorem mem_files : r ∈ files rows ↔ r ∈ rows ∧ isFolder r = false := by
  simp [files]

theorem IsTree.eq_of_name (h : IsTree rows) (hr : r ∈ rows) (hc : c ∈ rows) (hname : r.name = c.name) : r = c :=
  List.inj_on_of_nodup_map h.distinct hr hc hname

/-- What lies below a folder lies directly in it or below one of the folders that lie directly in it. -/
theorem IsTree.isBelow_iff (h : IsTree rows) (hd : d ∈ rows) (hr : r ∈ rows) :
    isBelow d.name r = true ↔ isIn d.name r = true ∨
      ∃ c ∈ rows, isFolder c = true ∧ isIn d.name c = true ∧ isBelow c.name r = true := by
  obtain ⟨P, hPne, hP, hdname, -⟩ := h.paths d hd
  obtain ⟨Q, hQne, hQ, hrname, -⟩ := h.paths r hr
  rw [hdname, isBelow_nameOf hPne hP hQ hrname, isIn_nameOf hP hQne hQ hrname]
  constructor
  · rintro ⟨g, rest, rfl⟩
    cases rest with
    | nil => exact .inl ⟨g, rfl⟩
    | cons q rest =>
      have hQ' : ∀ x ∈ (P ++ [g]) ++ q :: rest, IsPart x := by simpa using hQ
      have hPg : ∀ x ∈ P ++ [g], IsPart x := fun x hx => hQ' x (List.mem_append_left _ hx)
      obtain ⟨c, hc, hdir, hcname⟩ : ∃ c ∈ rows, isFolder c = true ∧ c.name = nameOf (P ++ [g]) :=
        h.exists_folder hr (by simp) (List.cons_ne_nil q rest) hQ' (by simpa using hrname)
      refine .inr ⟨c, hc, hdir, (isIn_nameOf hP (by simp) hPg hcname).2 ⟨g, rfl⟩, ?_⟩
      rw [hcname]
      exact (isBelow_nameOf (by simp) hPg hQ hrname).2 ⟨q, rest, by simp⟩
  · rintro (⟨g, rfl⟩ | ⟨c, hc, -, hin, hbelow⟩)
    · exact ⟨g, [], rfl⟩
    · obtain ⟨R, hRne, hR, hcname, -⟩ := h.paths c hc
      obtain ⟨g, rfl⟩ := (isIn_nameOf hP hRne hR hcname).1 hin
      rw [hcname, isBelow_nameOf hRne hR hQ hrname] at hbelow
      obtain ⟨q, rest, rfl⟩ := hbelow
      exact ⟨g, q :: rest, by simp⟩

/-- Nothing lies directly in a folder and below another folder in it. -/
theorem IsTree.not_isBelow_of_isIn (h : IsTree rows) (hd : d ∈ rows) (hr : r ∈ rows) (hc : c ∈ rows)
    (hrin : isIn d.name r = true) (hcin : isIn d.name c = true) : isBelow c.name r = false := by
  obtain ⟨P, -, hP, hdname, -⟩ := h.paths d hd
  obtain ⟨Q, hQne, hQ, hrname, -⟩ := h.paths r hr
  obtain ⟨R, hRne, hR, hcname, -⟩ := h.paths c hc
  rw [hdname] at hrin hcin
  obtain ⟨q, rfl⟩ := (isIn_nameOf hP hQne hQ hrname).1 hrin
  obtain ⟨g, rfl⟩ := (isIn_nameOf hP hRne hR hcname).1 hcin
  rw [Bool.eq_false_iff, ne_eq, hcname, isBelow_nameOf hRne hR hQ hrname]
  rintro ⟨x, rest, heq⟩
  have hlength := congrArg List.length heq
  simp at hlength

/-- Nothing lies below two of the folders that lie directly in one. -/
theorem IsTree.eq_of_isBelow {c' : Resource} (h : IsTree rows) (hd : d ∈ rows) (hr : r ∈ rows) (hc : c ∈ rows)
    (hc' : c' ∈ rows) (hcin : isIn d.name c = true) (hcin' : isIn d.name c' = true) (hbelow : isBelow c.name r = true)
    (hbelow' : isBelow c'.name r = true) : c = c' := by
  obtain ⟨P, -, hP, hdname, -⟩ := h.paths d hd
  obtain ⟨Q, hQne, hQ, hrname, -⟩ := h.paths r hr
  obtain ⟨R, hRne, hR, hcname, -⟩ := h.paths c hc
  obtain ⟨R', hRne', hR', hcname', -⟩ := h.paths c' hc'
  rw [hdname] at hcin hcin'
  obtain ⟨g, rfl⟩ := (isIn_nameOf hP hRne hR hcname).1 hcin
  obtain ⟨g', rfl⟩ := (isIn_nameOf hP hRne' hR' hcname').1 hcin'
  rw [hcname, isBelow_nameOf hRne hR hQ hrname] at hbelow
  rw [hcname', isBelow_nameOf hRne' hR' hQ hrname] at hbelow'
  obtain ⟨x, rest, hx⟩ := hbelow
  obtain ⟨x', rest', hx'⟩ := hbelow'
  refine h.eq_of_name hc hc' ?_
  have hsame : P ++ [g] = P ++ [g'] := (List.append_inj (hx.symm.trans hx') (by simp)).1
  rw [hcname, hcname', hsame]

/-- The files below a folder are those directly in it and those below the folders directly in it, each of them once. -/
theorem IsTree.filter_isBelow_perm (h : IsTree rows) (hd : d ∈ rows) :
    ((files rows).filter (isBelow d.name)).Perm ((files rows).filter (isIn d.name) ++
      (rows.filter fun c => isFolder c && isIn d.name c).flatMap fun c => (files rows).filter (isBelow c.name)) := by
  have hrows : rows.Nodup := h.distinct.of_map _
  have hfiles : (files rows).Nodup := hrows.filter _
  have hnodup : ((files rows).filter (isIn d.name) ++ (rows.filter fun c => isFolder c && isIn d.name c).flatMap
      fun c => (files rows).filter (isBelow c.name)).Nodup := by
    refine List.Nodup.append (hfiles.filter _) (List.nodup_flatMap.2 ⟨fun c _ => hfiles.filter _, ?_⟩) ?_
    · refine (hrows.filter _).imp_of_mem fun hc hc' hne r hr hr' => hne ?_
      simp only [List.mem_filter, Bool.and_eq_true, mem_files] at hc hc' hr hr'
      exact h.eq_of_isBelow hd hr.1.1 hc.1 hc'.1 hc.2.2 hc'.2.2 hr.2 hr'.2
    · intro r hr hr'
      simp only [List.mem_filter, List.mem_flatMap, Bool.and_eq_true, mem_files] at hr hr'
      obtain ⟨c, hc, -, hbelow⟩ := hr'
      rw [h.not_isBelow_of_isIn hd hr.1.1 hc.1 hr.2 hc.2.2] at hbelow
      cases hbelow
  refine (List.perm_ext_iff_of_nodup (hfiles.filter _) hnodup).2 fun r => ?_
  simp only [List.mem_filter, List.mem_append, List.mem_flatMap, mem_files, Bool.and_eq_true]
  constructor
  · rintro ⟨hr, hbelow⟩
    rcases (h.isBelow_iff hd hr.1).1 hbelow with hin | ⟨c, hc, hdir, hin, hbelow⟩
    · exact .inl ⟨hr, hin⟩
    · exact .inr ⟨c, ⟨hc, hdir, hin⟩, hr, hbelow⟩
  · rintro (⟨hr, hin⟩ | ⟨c, ⟨hc, hdir, hin⟩, hr, hbelow⟩)
    · exact ⟨hr, (h.isBelow_iff hd hr.1).2 (.inl hin)⟩
    · exact ⟨hr, (h.isBelow_iff hd hr.1).2 (.inr ⟨c, hc, hdir, hin, hbelow⟩)⟩

/-- The sum over the files below a folder, from the files directly in it and the sums of the folders directly in it. -/
theorem IsTree.sumUnder_eq (h : IsTree rows) (hd : d ∈ rows) :
    sumUnder d.name (files rows) = sumIn d.name (files rows) +
      ((rows.filter fun c => isFolder c && isIn d.name c).map fun c => sumUnder c.name (files rows)).sum := by
  rw [sumUnder, ((h.filter_isBelow_perm hd).map _).sum_eq, List.map_append, List.sum_append, sumIn, List.map_flatMap,
    List.flatMap_def, List.sum_flatten, List.map_map]
  rfl

/-- Where every folder has the sum over the files below it as its size, it has the sum over what lies directly in it. -/
theorem IsTree.sumUnder_eq_sumIn (h : IsTree rows) (hd : d ∈ rows) {f : Resource → Resource}
    (hname : ∀ r, (f r).name = r.name) (hfile : ∀ r, isFolder r = false → f r = r)
    (hfolder : ∀ r ∈ rows, isFolder r = true → number (f r).size = sumUnder r.name (files rows)) :
    sumUnder d.name (files rows) = sumIn d.name (rows.map f) := by
  have hsplit := List.filter_append_perm isFolder (rows.filter (isIn d.name))
  have hin : (rows.map f).filter (isIn d.name) = (rows.filter (isIn d.name)).map f := by
    rw [List.filter_map]
    refine congrArg (List.map f) (List.filter_congr fun r _ => ?_)
    rw [Function.comp_apply, isIn, isIn, hname]
  have hfolders : (((rows.filter (isIn d.name)).filter isFolder).map f).map (number ·.size) =
      (rows.filter fun c => isFolder c && isIn d.name c).map fun c => sumUnder c.name (files rows) := by
    rw [List.filter_filter, List.map_map]
    refine List.map_congr_left fun c hc => ?_
    obtain ⟨hc, hdir⟩ := List.mem_filter.1 hc
    exact hfolder c hc (Bool.and_eq_true_iff.1 hdir).1
  have hfiles : (((rows.filter (isIn d.name)).filter (!isFolder ·)).map f).map (number ·.size) =
      ((files rows).filter (isIn d.name)).map (number ·.size) := by
    rw [files, List.filter_comm, List.map_map]
    refine List.map_congr_left fun r hr => ?_
    rw [Function.comp_apply, hfile r (by simpa using (List.mem_filter.1 (List.mem_of_mem_filter hr)).2)]
  rw [h.sumUnder_eq hd, sumIn, sumIn, hin, ← ((hsplit.map f).map (number ·.size)).sum_eq, List.map_append,
    List.map_append, List.sum_append, hfolders, hfiles, add_comm]

end SchemaMigration.FolderSize
