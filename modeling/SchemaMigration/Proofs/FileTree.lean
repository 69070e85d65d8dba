import Mathlib.Tactic.SplitIfs
import SchemaMigration.FileTree
import SchemaMigration.Proofs.Except

/-!
# SchemaMigration.Proofs.FileTree — what is seen of a tree along a path

A path is followed name by name, so what stands at its end depends on the names on the way and on nothing else
in the tree.

* `FileTree.walk` : where the parts of a path lead, whatever its length.
* `follow_append`, `eq_of_follow` : a path in two pieces, and where a path down the tree ends.
* `locate_eq_error_iff`, `read?_eq_error_iff` : when a path is refused.
* `AgreeBelow` : trees that have the same at some of the names below a root.
* `AgreeBelow.read?_eq`, `AgreeBelow.isDirectory_eq` : questions that such trees answer alike.
-/

namespace SchemaMigration.FileTree

variable {t t' : FileTree} {base names parts rest : List String} {p q root : Path}
  {P : List String → Prop}

/-! ## Definitions -/

/-- The names that the parts of a path lead to. -/
def walk (t : FileTree) (p : Path) : Except Unit (Option (List String)) := t.follow (t.start p) p.parts

/-- The path is longer than the system takes. One with a zero character is turned away before its length counts. -/
def IsRefused (p : Path) : Prop := Char.ofNat 0 ∉ p.render.toList ∧ maxPathBytes ≤ p.render.utf8ByteSize

/-- The root is the same place in both trees, and below it the names in `P` lead to the same. -/
structure AgreeBelow (root : Path) (P : List String → Prop) (t t' : FileTree) : Prop where
  start : t.walk root = t'.walk root
  nodes : ∀ base, t.walk root = .ok (some base) → ∀ names, P names →
    t.node? (base ++ names) = t'.node? (base ++ names)

/-! ## Following a path -/

theorem follow_append (t : FileTree) (base parts rest : List String) :
    t.follow base (parts ++ rest) = (t.follow base parts).bind fun
      | some next => t.follow next rest
      | none => .ok none := by
  induction parts generalizing base with
  | nil => rfl
  | cons part parts ih =>
    simp only [List.cons_append, follow]
    split
    · rfl
    · split
      · rfl
      · cases t.enter base part with
        | none => rfl
        | some next => exact ih next

/-- Without a step back a path goes down the tree by its own names. -/
theorem eq_of_follow (hup : ".." ∉ parts) (h : t.follow base parts = .ok (some names)) : names = base ++ parts := by
  induction parts generalizing base with
  | nil =>
    cases h
    rw [List.append_nil]
  | cons part parts ih =>
    rw [List.mem_cons, not_or] at hup
    simp only [follow, enter, if_neg (Ne.symm hup.1)] at h
    split at h
    · cases h
    · split at h
      · cases h
      · split at h
        · cases h
        · next next hnext =>
          split at hnext
          · cases hnext
            rw [ih hup.2 h, List.append_assoc]
            rfl
          · cases hnext

/-- A path down the tree sees the names that lead to its end. -/
theorem follow_congr (hup : ".." ∉ parts)
    (h : ∀ names, names <+: parts → t.node? (base ++ names) = t'.node? (base ++ names)) :
    t.follow base parts = t'.follow base parts := by
  induction parts generalizing base with
  | nil => rfl
  | cons part parts ih =>
    rw [List.mem_cons, not_or] at hup
    have hhere : t.node? base = t'.node? base := by
      have := h [] (List.nil_prefix)
      rwa [List.append_nil] at this
    have hpart : t.node? (base ++ [part]) = t'.node? (base ++ [part]) :=
      h [part] ⟨parts, rfl⟩
    have hrest : t.follow (base ++ [part]) parts = t'.follow (base ++ [part]) parts := by
      refine ih hup.2 fun names hnames => ?_
      rw [List.append_assoc]
      exact h (part :: names) (List.cons_prefix_cons.2 ⟨rfl, hnames⟩)
    simp only [follow, holdsDirectory, enter, if_neg (Ne.symm hup.1), hhere, hpart]
    split
    · rfl
    · split
      · rfl
      · cases (t'.node? (base ++ [part])).isSome with
        | true => exact hrest
        | false => rfl

theorem walk_join (hq : q.anchor = "") :
    t.walk (root.join q) = (t.walk root).bind fun
      | some next => t.follow next q.parts
      | none => .ok none := by
  rw [walk, Path.join_relative hq]
  exact follow_append _ (t.start root) _ _

/-! ## Questions about a path -/

/-- A path that neither holds a zero character nor is too long leads where its parts lead. -/
theorem locate_eq (t : FileTree) (p : Path) :
    t.locate p =
      if p.render.toList.contains (Char.ofNat 0) then .ok none
      else if maxPathBytes ≤ p.render.utf8ByteSize then .error ⟨p.render⟩
      else (t.walk p).mapError fun _ => ⟨p.render⟩ := by
  unfold locate walk
  cases t.follow (t.start p) p.parts with
  | ok o => rfl
  | error e => rfl

theorem locate_eq_of_walk (h : t.walk p = t'.walk p) : t.locate p = t'.locate p := by
  rw [locate_eq, locate_eq, h]

theorem walk_of_locate (h : t.locate p = .ok (some names)) : t.walk p = .ok (some names) := by
  rw [locate_eq] at h
  split_ifs at h
  · cases h
  · exact mapError_eq_ok_iff.1 h

theorem exists_follow (h : ∀ part ∈ parts, part.utf8ByteSize ≤ maxNameBytes) (base : List String) :
    ∃ o, t.follow base parts = .ok o := by
  induction parts generalizing base with
  | nil => exact ⟨_, rfl⟩
  | cons part parts ih =>
    have hpart := Nat.not_lt.2 (h part List.mem_cons_self)
    have hrest := ih fun p hp => h p (List.mem_cons_of_mem _ hp)
    simp only [follow, if_neg hpart]
    split
    · exact ⟨_, rfl⟩
    · cases t.enter base part with
      | none => exact ⟨_, rfl⟩
      | some next => exact hrest next

/-- Where no name is too long, only the length of the whole path can be refused. -/
theorem locate_eq_error_iff (h : ∀ part ∈ p.parts, part.utf8ByteSize ≤ maxNameBytes) {e : NameTooLong} :
    t.locate p = .error e ↔ IsRefused p ∧ e = ⟨p.render⟩ := by
  obtain ⟨o, ho⟩ := exists_follow (t := t) h (t.start p)
  rw [locate_eq, walk, ho, IsRefused]
  simp only [List.contains_iff_mem]
  split_ifs with hzero hlong
  · simp [hzero]
  · simp [hzero, hlong, eq_comm]
  · simp [hlong, Except.mapError]

theorem read?_eq_error_iff (h : ∀ part ∈ p.parts, part.utf8ByteSize ≤ maxNameBytes) {e : NameTooLong} :
    t.read? p = .error e ↔ IsRefused p ∧ e = ⟨p.render⟩ := by
  rw [← locate_eq_error_iff (t := t) h, read?]
  cases t.locate p with
  | error e' => simp [Except.map]
  | ok o => simp [Except.map]

/-- A question about what stands at the end of a path. -/
theorem map_locate_eq {α : Type} {f f' : Option (List String) → α} (h : t.walk p = t'.walk p)
    (hnone : f none = f' none) (hsome : ∀ names, t.walk p = .ok (some names) → f (some names) = f' (some names)) :
    (t.locate p).map f = (t'.locate p).map f' := by
  rw [← locate_eq_of_walk h]
  cases hl : t.locate p with
  | error e => rfl
  | ok o =>
    cases o with
    | none => exact congrArg _ hnone
    | some names => exact congrArg _ (hsome names (walk_of_locate hl))

theorem read?_eq_of_walk (h : t.walk p = t'.walk p)
    (hn : ∀ names, t.walk p = .ok (some names) → t.node? names = t'.node? names) : t.read? p = t'.read? p :=
  map_locate_eq h rfl fun names hnames => by simp only [hn names hnames]

theorem isDirectory_eq_of_walk (h : t.walk p = t'.walk p)
    (hn : ∀ names, t.walk p = .ok (some names) → t.node? names = t'.node? names) :
    t.isDirectory p = t'.isDirectory p :=
  map_locate_eq h rfl fun names hnames => by simp only [Option.any_some, holdsDirectory, hn names hnames]

/-! ## Trees that agree below a root -/

theorem AgreeBelow.walk_eq (h : AgreeBelow root P t t') (hq : q.anchor = "") (hup : ".." ∉ q.parts)
    (hP : ∀ names, names <+: q.parts → P names) : t.walk (root.join q) = t'.walk (root.join q) := by
  rw [walk_join hq, walk_join hq, ← h.start]
  cases hr : t.walk root with
  | error e => rfl
  | ok o =>
    cases o with
    | none => rfl
    | some base => exact follow_congr hup fun names hnames => h.nodes base hr names (hP names hnames)

/-- At the end of such a path the trees have the same. -/
theorem AgreeBelow.node?_eq (h : AgreeBelow root P t t') (hq : q.anchor = "") (hup : ".." ∉ q.parts)
    (hP : P q.parts) (hw : t.walk (root.join q) = .ok (some names)) : t.node? names = t'.node? names := by
  rw [walk_join hq] at hw
  cases hr : t.walk root with
  | error e =>
    rw [hr] at hw
    cases hw
  | ok o =>
    rw [hr] at hw
    cases o with
    | none => cases hw
    | some base =>
      cases eq_of_follow hup hw
      exact h.nodes base hr q.parts hP

theorem AgreeBelow.read?_eq (h : AgreeBelow root P t t') (hq : q.anchor = "") (hup : ".." ∉ q.parts)
    (hP : ∀ names, names <+: q.parts → P names) :
    t.read? (root.join q) = t'.read? (root.join q) :=
  read?_eq_of_walk (h.walk_eq hq hup hP) fun _ hw => h.node?_eq hq hup (hP _ (List.prefix_refl _)) hw

theorem AgreeBelow.isDirectory_eq (h : AgreeBelow root P t t') (hq : q.anchor = "") (hup : ".." ∉ q.parts)
    (hP : ∀ names, names <+: q.parts → P names) :
    t.isDirectory (root.join q) = t'.isDirectory (root.join q) :=
  isDirectory_eq_of_walk (h.walk_eq hq hup hP) fun _ hw => h.node?_eq hq hup (hP _ (List.prefix_refl _)) hw

end SchemaMigration.FileTree
