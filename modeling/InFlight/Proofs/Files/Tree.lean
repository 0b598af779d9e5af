import Mathlib.Data.List.Basic
import Mathlib.Tactic.Lemma
import InFlight.Files.Tree
import InFlight.Proofs.Files.Path

/-!
# What operations on files leave alone

In a well-formed tree everything stands in a directory.  To make a directory changes no file and
takes no directory away, and to put a file where no directory stands changes nothing else, and not
where paths lead.

## Main definitions

* `InFlight.FileTree.WellFormed` — everything stands in a directory.
* `InFlight.FileTree.Extends` — there are more directories in a tree, and it is the same otherwise.

## Main results

* `InFlight.FileTree.directory_of_locate` — a path that does not end in a name leads to a directory.
* `InFlight.FileTree.ne_of_beside` — paths to two names in a directory lead to two places.
* `InFlight.FileTree.locate_mono` — where a path leads depends on directories only.
* `InFlight.FileTree.wellFormed_insert`, `InFlight.FileTree.wellFormed_erase` — what keeps a tree
  well-formed.
* `InFlight.FileTree.extends_makeParent` — to make the directories on a way changes nothing else.
-/

set_option relaxedAutoImplicit false
set_option autoImplicit false

namespace InFlight

namespace FileTree

variable {t t' : FileTree} {here place p q : Place} {node : FileNode} {path path' step : String}

/-! ## What stands at a place -/

/-- Looking up among the entries of all other places. -/
lemma lookup_filter_ne (entries : List (Place × FileNode)) (place q : Place) :
    (entries.filter fun e => e.1 != place).lookup q =
      if q = place then none else entries.lookup q := by
  induction entries with
  | nil => simp
  | cons e entries ih =>
    obtain ⟨key, node⟩ := e
    by_cases hq : q = key
    · subst hq
      by_cases hplace : q = place
      · rw [List.filter_cons_of_neg (by simp [hplace]), ih, if_pos hplace, if_pos hplace]
      · rw [List.filter_cons_of_pos (by simpa using hplace), if_neg hplace]
        simp
    · have hbeq : (q == key) = false := beq_eq_false_iff_ne.2 hq
      by_cases hplace : key = place
      · rw [List.filter_cons_of_neg (by simp [hplace]), ih]
        simp [List.lookup_cons, hbeq]
      · rw [List.filter_cons_of_pos (by simpa using hplace)]
        simp [List.lookup_cons, hbeq, ih]

/-- Only the place at the top is there without an entry. -/
lemma node?_of_ne_nil (hplace : place ≠ []) : t.node? place = t.entries.lookup place :=
  if_neg (by simpa using hplace)

/-- Erasing a place leaves all others as they are. -/
lemma node?_erase (hplace : place ≠ []) (q : Place) :
    (t.erase place).node? q = if q = place then none else t.node? q := by
  by_cases hq : q = []
  · rw [hq, if_neg hplace.symm]
    rfl
  · rw [node?_of_ne_nil hq, node?_of_ne_nil hq, erase, lookup_filter_ne]

/-- Inserting at a place leaves all others as they are. -/
lemma node?_insert (hplace : place ≠ []) (node : FileNode) (q : Place) :
    (t.insert place node).node? q = if q = place then some node else t.node? q := by
  by_cases hq : q = place
  · rw [if_pos hq, hq, node?_insert_self t place node hplace]
  · rw [if_neg hq]
    by_cases hroot : q = []
    · rw [hroot]
      rfl
    · have herase := node?_erase (t := t) hplace q
      rw [if_neg hq, node?_of_ne_nil hroot] at herase
      have hbeq : (q == place) = false := beq_eq_false_iff_ne.2 hq
      rw [node?_of_ne_nil hroot, insert, List.lookup_cons, herase]
      simp [hbeq]

/-- A place where no directory stands is not the root. -/
lemma ne_nil_of_not_directory (h : t.node? place ≠ some .directory) : place ≠ [] := by
  rintro rfl
  exact h rfl

/-! ## Where paths lead -/

/-- A step is possible in a directory, if the name is not too long. -/
lemma obstacle?_eq_none_iff : t.obstacle? here step = none ↔
    t.node? here = some .directory ∧ step.utf8ByteSize ≤ maxNameBytes := by
  unfold obstacle?
  cases t.node? here with
  | none => simp
  | some node =>
    cases node with
    | file content => simp
    | directory => simp

/-- The first step leads on from a directory. -/
lemma locateFrom_cons_iff {rest : List String} : t.locateFrom here (step :: rest) = .ok p ↔
    (t.node? here = some .directory ∧ step.utf8ByteSize ≤ maxNameBytes) ∧
      t.locateFrom (follow here step) rest = .ok p := by
  rw [locateFrom, ← obstacle?_eq_none_iff]
  cases t.obstacle? here step with
  | none => simp
  | some problem => simp

/-- Steps are taken one after the other. -/
lemma locateFrom_append_iff {before after : List String} :
    t.locateFrom here (before ++ after) = .ok p ↔
      ∃ q, t.locateFrom here before = .ok q ∧ t.locateFrom q after = .ok p := by
  induction before generalizing here with
  | nil => simp [locateFrom]
  | cons step before ih =>
    rw [List.cons_append, locateFrom_cons_iff, ih]
    simp only [locateFrom_cons_iff, and_assoc, exists_and_left]

/-- A path is located by taking its steps where it starts. -/
lemma locate_eq_ok_iff : t.locate path = .ok p ↔
    fault? path = none ∧ t.locateFrom (t.origin path) (Path.steps path) = .ok p := by
  unfold locate
  cases fault? path with
  | none => simp
  | some problem => simp

/-- Where a path leads depends on directories only. -/
lemma locate_mono (hhere : t'.here = t.here)
    (h : ∀ q, t.node? q = some .directory → t'.node? q = some .directory)
    (hlocate : t.locate path = .ok p) : t'.locate path = .ok p := by
  have hfrom : ∀ (steps : List String) (here : Place),
      t.locateFrom here steps = .ok p → t'.locateFrom here steps = .ok p := by
    intro steps
    induction steps with
    | nil => exact fun here hp => hp
    | cons step rest ih =>
      intro here hp
      obtain ⟨⟨hdirectory, hsize⟩, hrest⟩ := locateFrom_cons_iff.1 hp
      exact locateFrom_cons_iff.2 ⟨⟨h here hdirectory, hsize⟩, ih _ hrest⟩
  obtain ⟨hfault, hp⟩ := locate_eq_ok_iff.1 hlocate
  refine locate_eq_ok_iff.2 ⟨hfault, ?_⟩
  rw [origin, hhere]
  exact hfrom _ _ hp

/-- Dots lead nowhere else. -/
lemma eq_of_locateFrom_replicate {n : Nat}
    (h : t.locateFrom here (List.replicate n ".") = .ok p) : p = here := by
  induction n with
  | zero => exact (Except.ok.inj h).symm
  | succ n ih =>
    rw [List.replicate_succ, locateFrom_cons_iff] at h
    exact ih h.2

/-- A step with a name goes down. -/
lemma follow_of_name (h : Path.isDots step = false) : follow here step = here ++ [step] := by
  rw [Path.isDots, Bool.or_eq_false_iff] at h
  rw [follow, if_neg (by simp [h.1]), if_neg (by simp [h.2])]

/-- Paths to two names in one directory lead to two places. -/
lemma ne_of_beside (h : Path.Beside path path') (hp : t.locate path = .ok p)
    (hq : t.locate path' = .ok q) : p ≠ q := by
  obtain ⟨habsolute, before, name, name', n, hname, hname', hne, hsteps, hsteps'⟩ := h
  obtain ⟨-, hp⟩ := locate_eq_ok_iff.1 hp
  obtain ⟨-, hq⟩ := locate_eq_ok_iff.1 hq
  rw [hsteps] at hp
  rw [hsteps', origin, habsolute] at hq
  obtain ⟨directory, hdirectory, hp⟩ := locateFrom_append_iff.1 hp
  obtain ⟨directory', hdirectory', hq⟩ := locateFrom_append_iff.1 hq
  have heq : directory' = directory := Except.ok.inj (hdirectory'.symm.trans hdirectory)
  have hp := eq_of_locateFrom_replicate (locateFrom_cons_iff.1 hp).2
  have hq := Except.ok.inj (locateFrom_cons_iff.1 hq).2
  rw [hp, ← hq, follow_of_name hname, follow_of_name hname', heq]
  simpa using hne

/-! ## Well-formed trees -/

/-- Everything stands in a directory, and so does the working directory, which is one. -/
structure WellFormed (t : FileTree) : Prop where
  parent : ∀ p node, t.node? p = some node → t.node? p.dropLast = some .directory
  here : t.node? t.here = some .directory

/-- The empty tree is well-formed. -/
lemma wellFormed_empty : WellFormed {} where
  parent p node h := by
    by_cases hp : p = []
    · rw [hp]
      rfl
    · rw [node?_of_ne_nil hp] at h
      cases h
  here := rfl

/-- Paths start in a directory. -/
lemma WellFormed.origin (h : t.WellFormed) (path : String) :
    t.node? (t.origin path) = some .directory := by
  unfold FileTree.origin
  split
  · rfl
  · exact h.here

/-- A step that is no name leads from a directory to a directory. -/
lemma WellFormed.follow (h : t.WellFormed) (hhere : t.node? here = some .directory)
    (hstep : Path.isDots step = true) : t.node? (FileTree.follow here step) = some .directory := by
  unfold FileTree.follow
  split
  · exact hhere
  · split
    · exact h.parent here _ hhere
    · next hdot hdots =>
      rw [Path.isDots, Bool.or_eq_true] at hstep
      exact absurd hstep (not_or.2 ⟨hdot, hdots⟩)

/-- A path leads into a directory. -/
lemma WellFormed.parent_of_locate (h : t.WellFormed) (hp : t.locate path = .ok p) :
    t.node? p.dropLast = some .directory := by
  obtain ⟨-, hp⟩ := locate_eq_ok_iff.1 hp
  rcases List.eq_nil_or_concat (Path.steps path) with hsteps | ⟨before, step, hsteps⟩
  · rw [hsteps] at hp
    rw [← Except.ok.inj hp]
    exact h.parent _ _ (h.origin path)
  · rw [hsteps, List.concat_eq_append, locateFrom_append_iff] at hp
    obtain ⟨directory, -, hp⟩ := hp
    obtain ⟨⟨hdirectory, -⟩, hp⟩ := locateFrom_cons_iff.1 hp
    rw [← Except.ok.inj hp]
    by_cases hdots : Path.isDots step = true
    · exact h.parent _ _ (h.follow hdirectory hdots)
    · rw [follow_of_name (Bool.eq_false_iff.2 hdots), List.dropLast_concat]
      exact hdirectory

/-- A path that does not end in a name leads to a directory. -/
lemma WellFormed.directory_of_locate (h : t.WellFormed) (hp : t.locate path = .ok p)
    (hname : Path.endsInName path = false) : t.node? p = some .directory := by
  obtain ⟨-, hp⟩ := locate_eq_ok_iff.1 hp
  rcases List.eq_nil_or_concat (Path.steps path) with hsteps | ⟨before, step, hsteps⟩
  · rw [hsteps] at hp
    rw [← Except.ok.inj hp]
    exact h.origin path
  · have hdots : Path.isDots step = true := by
      rw [Path.endsInName, hsteps, List.concat_eq_append, List.getLast?_concat] at hname
      simpa using hname
    rw [hsteps, List.concat_eq_append, locateFrom_append_iff] at hp
    obtain ⟨directory, -, hp⟩ := hp
    obtain ⟨⟨hdirectory, -⟩, hp⟩ := locateFrom_cons_iff.1 hp
    rw [← Except.ok.inj hp]
    exact h.follow hdirectory hdots

/-- To put something where no directory stands, in a directory, keeps a tree well-formed. -/
lemma wellFormed_insert (h : t.WellFormed) (hplace : t.node? place ≠ some .directory)
    (hparent : t.node? place.dropLast = some .directory) (node : FileNode) :
    (t.insert place node).WellFormed := by
  have hne := ne_nil_of_not_directory hplace
  have hkept : ∀ {q}, t.node? q = some .directory →
      (t.insert place node).node? q = some .directory := fun {q} hq => by
    rw [node?_insert hne, if_neg (by rintro rfl; exact hplace hq), hq]
  refine ⟨fun p node' hp => ?_, hkept h.here⟩
  rw [node?_insert hne] at hp
  split at hp
  · next heq => exact heq ▸ hkept hparent
  · exact hkept (h.parent p node' hp)

/-- To take a file away keeps a tree well-formed. -/
lemma wellFormed_erase (h : t.WellFormed) {content : ByteArray}
    (hplace : t.node? place = some (.file content)) : (t.erase place).WellFormed := by
  have hne : place ≠ [] := ne_nil_of_not_directory (t := t) (by simp [hplace])
  have hkept : ∀ {q}, t.node? q = some .directory →
      (t.erase place).node? q = some .directory := fun {q} hq => by
    rw [node?_erase hne, if_neg (by rintro rfl; simp [hq] at hplace), hq]
  refine ⟨fun p node hp => ?_, hkept h.here⟩
  rw [node?_erase hne] at hp
  split at hp
  · cases hp
  · exact hkept (h.parent p node hp)

/-! ## Files and directories apart -/

/-- A file put where no directory stands leaves the directories as they are. -/
lemma directory_insert_file_iff (hplace : t.node? place ≠ some .directory) {content : ByteArray} :
    (t.insert place (.file content)).node? q = some .directory ↔ t.node? q = some .directory := by
  rw [node?_insert (ne_nil_of_not_directory hplace)]
  split
  · next heq => exact iff_of_false (by simp) (heq ▸ hplace)
  · rfl

/-- What is taken away where no directory stands leaves the directories as they are. -/
lemma directory_erase_iff (hplace : t.node? place ≠ some .directory) :
    (t.erase place).node? q = some .directory ↔ t.node? q = some .directory := by
  rw [node?_erase (ne_nil_of_not_directory hplace)]
  split
  · next heq => exact iff_of_false (by simp) (heq ▸ hplace)
  · rfl

/-- Nor does it change where paths lead. -/
lemma locate_insert_file_iff (hplace : t.node? place ≠ some .directory) {content : ByteArray} :
    (t.insert place (.file content)).locate path = .ok p ↔ t.locate path = .ok p :=
  ⟨locate_mono rfl fun _ => (directory_insert_file_iff hplace).1,
    locate_mono rfl fun _ => (directory_insert_file_iff hplace).2⟩

/-- No path is lost with a place that is no directory. -/
lemma locate_erase_iff (hplace : t.node? place ≠ some .directory) :
    (t.erase place).locate path = .ok p ↔ t.locate path = .ok p :=
  ⟨locate_mono rfl fun _ => (directory_erase_iff hplace).1,
    locate_mono rfl fun _ => (directory_erase_iff hplace).2⟩

/-! ## What operations do -/

/-- What is read is the content of the file at a path without a slash at its end. -/
lemma read_eq_ok_iff {content : ByteArray} : t.read path = .ok content ↔
    ∃ p, t.locate path = .ok p ∧ t.node? p = some (.file content) ∧
      Path.endsInSlash path = false := by
  unfold read lookup
  cases t.locate path with
  | error problem => simp
  | ok p =>
    cases hnode : t.node? p with
    | none => simp [hnode]
    | some node =>
      cases node with
      | directory => simp [hnode]
      | file content' => cases hslash : Path.endsInSlash path <;> simp [hnode]

/-- A file written beside a path leaves what can be read there as it is. -/
lemma read_insert_of_beside (hbeside : Path.Beside path path') (hp : t.locate path' = .ok p)
    (hpnode : t.node? p ≠ some .directory) {content content' : ByteArray}
    (hread : t.read path = .ok content') :
    (t.insert p (.file content)).read path = .ok content' := by
  obtain ⟨q, hq, hnode, hslash⟩ := read_eq_ok_iff.1 hread
  refine read_eq_ok_iff.2 ⟨q, (locate_insert_file_iff hpnode).2 hq, ?_, hslash⟩
  rw [node?_insert (ne_nil_of_not_directory hpnode), if_neg (ne_of_beside hbeside hq hp), hnode]

/-- What writing a file does where it succeeds. -/
lemma exists_of_write {content : ByteArray} (h : t.write path content = .ok t') :
    ∃ p, t.locate path = .ok p ∧ t.node? p ≠ some .directory ∧
      t' = t.insert p (.file content) := by
  unfold write at h
  cases hp : t.locate path with
  | error problem => simp [hp] at h
  | ok p =>
    simp only [hp] at h
    split at h
    · cases h
    · next hnode =>
      split at h
      · cases h
      · exact ⟨p, rfl, hnode, (Except.ok.inj h).symm⟩

/-- What making a directory does where it succeeds. -/
lemma exists_of_makeDirectory (h : t.makeDirectory path = .ok t') :
    ∃ p, t.locate path = .ok p ∧ t.node? p = none ∧ t' = t.insert p .directory := by
  unfold makeDirectory at h
  cases hp : t.locate path with
  | error problem => simp [hp] at h
  | ok p =>
    simp only [hp] at h
    split at h
    · cases h
    · next hnode => exact ⟨p, rfl, by simpa using hnode, (Except.ok.inj h).symm⟩

/-- What renaming a file does where it succeeds. -/
lemma exists_of_rename (h : t.rename path path' = .ok t') :
    ∃ p q content, t.locate path = .ok p ∧ t.node? p = some (.file content) ∧
      t.locate path' = .ok q ∧ t.node? q ≠ some .directory ∧ Path.endsInSlash path' = false ∧
      t' = (t.erase p).insert q (.file content) := by
  unfold rename at h
  split at h
  · next p content q hp hcontent hq =>
    split at h
    · cases h
    · next hrefusal =>
      obtain ⟨p', hp', hnode, -⟩ := read_eq_ok_iff.1 hcontent
      cases hp.symm.trans hp'
      unfold refusal? at hrefusal
      split at hrefusal
      · cases hrefusal
      · split at hrefusal
        · cases hrefusal
        · next hslash =>
          split at hrefusal
          · cases hrefusal
          · next hdirectory =>
            exact ⟨p, q, content, hp, hnode, hq, hdirectory, by simpa using hslash,
              (Except.ok.inj h).symm⟩
  · cases h
  · cases h
  · cases h

/-! ## More directories -/

/-- There are more directories in a tree, where nothing stood, and it is the same otherwise. -/
structure Extends (t t' : FileTree) : Prop where
  here : t'.here = t.here
  node? : ∀ p, t'.node? p = t.node? p ∨ t.node? p = none ∧ t'.node? p = some .directory
  wellFormed : t.WellFormed → t'.WellFormed

namespace Extends

variable {t'' : FileTree}

/-- A tree extends itself. -/
lemma refl (t : FileTree) : Extends t t := ⟨rfl, fun _ => Or.inl rfl, id⟩

/-- Extensions may be made one after the other. -/
lemma trans (h : Extends t t') (h' : Extends t' t'') : Extends t t'' where
  here := h'.here.trans h.here
  node? p := by
    rcases h.node? p with hp | ⟨hnone, hp⟩ <;> rcases h'.node? p with hp' | ⟨hnone', hp'⟩
    · exact Or.inl (hp'.trans hp)
    · exact Or.inr ⟨hp.symm.trans hnone', hp'⟩
    · exact Or.inr ⟨hnone, hp'.trans hp⟩
    · exact Or.inr ⟨hnone, hp'⟩
  wellFormed ht := h'.wellFormed (h.wellFormed ht)

/-- A directory stays one. -/
lemma directory (h : Extends t t') (hp : t.node? p = some .directory) :
    t'.node? p = some .directory := by
  rcases h.node? p with heq | ⟨-, heq⟩
  · exact heq.trans hp
  · exact heq

/-- The files are the same. -/
lemma file_iff (h : Extends t t') {content : ByteArray} :
    t'.node? p = some (.file content) ↔ t.node? p = some (.file content) := by
  rcases h.node? p with heq | ⟨hnone, heq⟩
  · rw [heq]
  · simp [hnone, heq]

/-- What can be read can still be read. -/
lemma read (h : Extends t t') {content : ByteArray} (hread : t.read path = .ok content) :
    t'.read path = .ok content := by
  obtain ⟨p, hp, hnode, hslash⟩ := read_eq_ok_iff.1 hread
  exact read_eq_ok_iff.2
    ⟨p, locate_mono h.here (fun _ => h.directory) hp, h.file_iff.2 hnode, hslash⟩

end Extends

/-- Making sure that there is a directory extends the tree. -/
lemma extends_ensureDirectory (t : FileTree) (path : String) :
    Extends t (t.ensureDirectory path).1 := by
  unfold ensureDirectory
  cases h : t.makeDirectory path with
  | error problem => exact .refl t
  | ok t' =>
    obtain ⟨p, hp, hnone, rfl⟩ := exists_of_makeDirectory h
    have hplace : t.node? p ≠ some .directory := by simp [hnone]
    refine ⟨rfl, fun q => ?_, fun ht =>
      wellFormed_insert ht hplace (ht.parent_of_locate hp) .directory⟩
    rw [node?_insert (ne_nil_of_not_directory hplace)]
    split
    · next heq => exact Or.inr ⟨heq ▸ hnone, rfl⟩
    · exact Or.inl rfl

/-- Making the directories of a path extends the tree, however far it gets. -/
lemma extends_makeWithin (far : Nat) (t : FileTree) (path : String) :
    Extends t (makeWithin far t path).1 := by
  induction far generalizing t path with
  | zero => exact .refl t
  | succ far ih =>
    have hfirst := extends_ensureDirectory t path
    unfold makeWithin
    split
    · next t₁ parent hensure _ =>
      rw [hensure] at hfirst
      split
      · exact hfirst
      · have hparent := hfirst.trans (ih t₁ parent)
        split
        · next hwithin => rwa [hwithin] at hparent
        · next t₂ hwithin =>
          rw [hwithin] at hparent
          exact hparent.trans (extends_ensureDirectory t₂ path)
    · exact hfirst

/-- To make the directories on a way changes nothing else. -/
lemma extends_makeParent (t : FileTree) (path : String) : Extends t (t.makeParent path).1 := by
  have hmake : ∀ parent, Extends t (t.makeDirectories parent).1 := fun parent => by
    unfold makeDirectories
    split
    · exact .refl t
    · exact extends_makeWithin _ t parent
  unfold makeParent
  split
  · exact .refl t
  · next parent _ =>
    have hparent := hmake parent
    split
    · next heq => rwa [heq] at hparent
    · next heq => rwa [heq] at hparent

end FileTree

end InFlight
