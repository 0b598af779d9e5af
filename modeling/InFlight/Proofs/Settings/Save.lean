import InFlight.Proofs.Files.Tree
import InFlight.Proofs.Settings.RoundTrip
import InFlight.Settings.File

/-!
# Saving settings

Settings are written beside their file and then moved into its place.  So the file either holds what
was saved, and nothing is left beside it, or is what it was before.

## Main definitions

* `InFlight.Settings.movedTree` — the tree after a file has been written and moved.
* `InFlight.Settings.Replaced` — the three ways in which a file is replaced, or not.

## Main results

* `InFlight.Settings.replaced_replaceFile` — there is no other way.
* `InFlight.Settings.wellFormed_save` — saving keeps a tree well-formed.
* `InFlight.Settings.load_save` — what is saved is loaded, and nothing is lost where saving fails.
-/

set_option relaxedAutoImplicit false
set_option autoImplicit false

namespace InFlight

namespace Settings

variable {files files' : FileTree} {path : String} {content : ByteArray} {p q r : Place}

/-- The temporary path does not end in a name, or it leads to another name beside the path. -/
lemma temporaryPath_cases (path : String) :
    Path.endsInName (temporaryPath path) = false ∨ Path.Beside path (temporaryPath path) :=
  Path.withExtension_cases path (by decide) (by decide)

/-! ## Replacing a file -/

/-- The tree after a file has been written at `p` and moved to `q`. -/
def movedTree (files : FileTree) (p q : Place) (content : ByteArray) : FileTree :=
  ((files.insert p (.file content)).erase p).insert q (.file content)

/-- How a file is replaced, with places `p` of the temporary file and `q` of the file: nothing is
written, or what is written cannot be moved, or it is moved. -/
inductive Replaced (files : FileTree) (path : String) (content : ByteArray) :
    FileTree × Option Error → Prop where
  | unwritten (e : Error) : Replaced files path content (files, some e)
  | unmoved (e : Error) (p : Place) (hp : files.locate (temporaryPath path) = .ok p)
    (hpnode : files.node? p ≠ some .directory) :
    Replaced files path content (files.insert p (.file content), some e)
  | moved (p q : Place) (hp : files.locate (temporaryPath path) = .ok p)
    (hpnode : files.node? p ≠ some .directory) (hq : files.locate path = .ok q)
    (hqnode : files.node? q ≠ some .directory) (hslash : Path.endsInSlash path = false) :
    Replaced files path content (movedTree files p q content, none)

/-- A file is replaced in one of these ways. -/
lemma replaced_replaceFile (files : FileTree) (path : String) (content : ByteArray) :
    Replaced files path content (replaceFile files path content) := by
  unfold replaceFile
  simp only
  cases hwrite : files.write (temporaryPath path) content with
  | error problem => exact .unwritten _
  | ok written =>
    obtain ⟨p, hp, hpnode, rfl⟩ := FileTree.exists_of_write hwrite
    simp only
    cases hrename : (files.insert p (.file content)).rename (temporaryPath path) path with
    | error problem => exact .unmoved _ p hp hpnode
    | ok moved =>
      obtain ⟨p', q, content', hp', hnode, hq, hqnode, hslash, rfl⟩ :=
        FileTree.exists_of_rename hrename
      -- what is moved is what has just been written
      cases hp.symm.trans ((FileTree.locate_insert_file_iff hpnode).1 hp')
      rw [FileTree.node?_insert (FileTree.ne_nil_of_not_directory hpnode), if_pos rfl] at hnode
      cases hnode
      exact .moved p q hp hpnode ((FileTree.locate_insert_file_iff hpnode).1 hq)
        (mt (FileTree.directory_insert_file_iff hpnode).2 hqnode) hslash

/-- Where the temporary file can be written, it stands beside the file. -/
lemma beside_temporaryPath (h : files.WellFormed) (hp : files.locate (temporaryPath path) = .ok p)
    (hpnode : files.node? p ≠ some .directory) : Path.Beside path (temporaryPath path) :=
  (temporaryPath_cases path).resolve_left fun hname => hpnode (h.directory_of_locate hp hname)

/-! ## The tree after a move -/

/-- Writing a file makes no directory of it. -/
lemma file_insert_ne_directory (hpnode : files.node? p ≠ some .directory) :
    (files.insert p (.file content)).node? p ≠ some .directory :=
  mt (FileTree.directory_insert_file_iff hpnode).1 hpnode

/-- Writing and erasing a file makes no directory of another place. -/
lemma erased_ne_directory (hpnode : files.node? p ≠ some .directory)
    (hqnode : files.node? q ≠ some .directory) :
    ((files.insert p (.file content)).erase p).node? q ≠ some .directory :=
  mt (FileTree.directory_erase_iff (file_insert_ne_directory hpnode)).1
    (mt (FileTree.directory_insert_file_iff hpnode).1 hqnode)

/-- What stands where after a move. -/
lemma node?_movedTree (hpnode : files.node? p ≠ some .directory)
    (hqnode : files.node? q ≠ some .directory) (content : ByteArray) (r : Place) :
    (movedTree files p q content).node? r =
      if r = q then some (.file content) else if r = p then none else files.node? r := by
  have hpne := FileTree.ne_nil_of_not_directory hpnode
  rw [movedTree, FileTree.node?_insert (FileTree.ne_nil_of_not_directory hqnode),
    FileTree.node?_erase hpne, FileTree.node?_insert hpne]
  by_cases hr : r = p <;> simp [hr]

/-- Paths lead where they led before a move. -/
lemma locate_movedTree_iff (hpnode : files.node? p ≠ some .directory)
    (hqnode : files.node? q ≠ some .directory) {path' : String} :
    (movedTree files p q content).locate path' = .ok r ↔ files.locate path' = .ok r := by
  rw [movedTree, FileTree.locate_insert_file_iff (erased_ne_directory hpnode hqnode),
    FileTree.locate_erase_iff (file_insert_ne_directory hpnode),
    FileTree.locate_insert_file_iff hpnode]

/-- What was moved can be read. -/
lemma read_movedTree (hpnode : files.node? p ≠ some .directory) (hq : files.locate path = .ok q)
    (hqnode : files.node? q ≠ some .directory) (hslash : Path.endsInSlash path = false) :
    (movedTree files p q content).read path = .ok content := by
  refine FileTree.read_eq_ok_iff.2 ⟨q, (locate_movedTree_iff hpnode hqnode).2 hq, ?_, hslash⟩
  rw [node?_movedTree hpnode hqnode, if_pos rfl]

/-- Nothing is left where it was moved from. -/
lemma contains_movedTree (hp : files.locate (temporaryPath path) = .ok p)
    (hpnode : files.node? p ≠ some .directory) (hqnode : files.node? q ≠ some .directory)
    (hne : p ≠ q) : (movedTree files p q content).contains (temporaryPath path) = false := by
  rw [FileTree.contains, FileTree.lookup, (locate_movedTree_iff hpnode hqnode).2 hp]
  simp only [node?_movedTree hpnode hqnode, if_neg hne, if_true]
  rfl

/-- A move keeps a tree well-formed. -/
lemma wellFormed_movedTree (h : files.WellFormed) (hp : files.locate (temporaryPath path) = .ok p)
    (hpnode : files.node? p ≠ some .directory) (hq : files.locate path = .ok q)
    (hqnode : files.node? q ≠ some .directory) (content : ByteArray) :
    (movedTree files p q content).WellFormed := by
  have hwritten := FileTree.wellFormed_insert h hpnode (h.parent_of_locate hp) (.file content)
  have hfile : (files.insert p (.file content)).node? p = some (.file content) := by
    rw [FileTree.node?_insert (FileTree.ne_nil_of_not_directory hpnode), if_pos rfl]
  refine FileTree.wellFormed_insert (FileTree.wellFormed_erase hwritten hfile)
    (erased_ne_directory hpnode hqnode) ?_ _
  exact (FileTree.directory_erase_iff (file_insert_ne_directory hpnode)).2
    ((FileTree.directory_insert_file_iff hpnode).2 (h.parent_of_locate hq))

/-! ## Saving -/

/-- Saving a file makes the directories on its way, and then replaces it unless that fails. -/
lemma save_cases (files : FileTree) (path : String) (s : Settings) :
    ∃ made, files.Extends made ∧
      ((∃ e, save files path s = (made, some e)) ∨
        Replaced made path s.toText.toUTF8 (save files path s)) := by
  have hmade := files.extends_makeParent path
  unfold save
  split
  · next made e heq =>
    rw [heq] at hmade
    exact ⟨made, hmade, Or.inl ⟨e, rfl⟩⟩
  · next made heq =>
    rw [heq] at hmade
    exact ⟨made, hmade, Or.inr (replaced_replaceFile made path _)⟩

/-- Saving keeps a tree well-formed, whether or not it succeeds. -/
theorem wellFormed_save (h : files.WellFormed) (path : String) (s : Settings) :
    (save files path s).1.WellFormed := by
  obtain ⟨made, hmade, ⟨e, hsave⟩ | hreplaced⟩ := save_cases files path s
  · rw [hsave]
    exact hmade.wellFormed h
  · have hwell := hmade.wellFormed h
    generalize save files path s = saved at hreplaced ⊢
    cases hreplaced with
    | unwritten e => exact hwell
    | unmoved e p hp hpnode =>
      exact FileTree.wellFormed_insert hwell hpnode (hwell.parent_of_locate hp) _
    | moved p q hp hpnode hq hqnode => exact wellFormed_movedTree hwell hp hpnode hq hqnode _

/-- What has been saved is loaded, if it fits together. -/
lemma load_of_read {s : Settings} (hs : s.InRange)
    (hread : files.read path = .ok s.toText.toUTF8) :
    load files path = s.validate.map fun _ => s := by
  rw [load, hread]
  simp only [Utf8.decode?_toUTF8, parse_toText hs]

/-- What does not fit together is reported as such. -/
lemma exists_of_validate {s : Settings} {e : Error} (h : s.validate = .error e) :
    ∃ problem, e = .invalidSettings problem := by
  unfold validate at h
  split at h
  · exact ⟨_, (Except.error.inj h).symm⟩
  · split at h
    · exact ⟨_, (Except.error.inj h).symm⟩
    · split at h
      · exact ⟨_, (Except.error.inj h).symm⟩
      · cases h

/-- **Saving and loading.**  In any well-formed tree, for any settings whose numbers are within the
ranges of their fields, and any path:

* If saving succeeds, then what is loaded from the path are those settings, or what is wrong with
  them.  Nothing is left at the temporary path, and the files anywhere else are those before.
* If saving fails, then what could be read at the path still can be, and the files anywhere but at
  the temporary path are those before.

**Proof sketch.** To make the directories on the way changes no file.  The temporary path does not
end in a name, in which case it leads to a directory and nothing is written, or else it leads to
another name than the path, in the same directory.  So what is written there leaves the file alone,
and can be moved into its place without changing where the two paths lead. -/
theorem load_save (hfiles : files.WellFormed) {s : Settings} (hs : s.InRange) (path : String) :
    (∀ files', save files path s = (files', none) →
      (s.validate = .ok () → load files' path = .ok s) ∧
      (∀ e, s.validate = .error e →
        load files' path = .error e ∧ ∃ problem, e = .invalidSettings problem) ∧
      files'.contains (temporaryPath path) = false ∧
      ∀ place content, files'.locate path ≠ .ok place →
        files'.locate (temporaryPath path) ≠ .ok place →
          (files'.node? place = some (.file content) ↔
            files.node? place = some (.file content))) ∧
    ∀ files' e, save files path s = (files', some e) →
      (∀ content, files.read path = .ok content → files'.read path = .ok content) ∧
      ∀ place content, files'.locate (temporaryPath path) ≠ .ok place →
        (files'.node? place = some (.file content) ↔
          files.node? place = some (.file content)) := by
  obtain ⟨made, hmade, hsave⟩ := save_cases files path s
  constructor
  · intro files' hsaved
    rw [hsaved] at hsave
    obtain ⟨e, ⟨⟩⟩ | hreplaced := hsave
    generalize hcontent : s.toText.toUTF8 = content at hreplaced
    cases hreplaced with
    | moved p q hp hpnode hq hqnode hslash =>
      have hbeside := beside_temporaryPath (hmade.wellFormed hfiles) hp hpnode
      have hne : p ≠ q := (FileTree.ne_of_beside hbeside hq hp).symm
      have hload : load (movedTree made p q content) path = s.validate.map fun _ => s := by
        refine load_of_read hs ?_
        rw [hcontent]
        exact read_movedTree hpnode hq hqnode hslash
      refine ⟨fun hvalid => by rw [hload, hvalid]; rfl, fun e he => ⟨?_, exists_of_validate he⟩,
        contains_movedTree hp hpnode hqnode hne, fun place content' hplace htemporary => ?_⟩
      · rw [hload, he]
        rfl
      · rw [ne_eq, locate_movedTree_iff hpnode hqnode, hq] at hplace
        rw [ne_eq, locate_movedTree_iff hpnode hqnode, hp] at htemporary
        rw [node?_movedTree hpnode hqnode, if_neg fun h => hplace (by rw [h]),
          if_neg fun h => htemporary (by rw [h])]
        exact hmade.file_iff
  · intro files' e hsaved
    rw [hsaved] at hsave
    rcases hsave with ⟨e', he'⟩ | hreplaced
    · cases he'
      exact ⟨fun content hread => hmade.read hread, fun place content _ => hmade.file_iff⟩
    · cases hreplaced with
      | unwritten =>
        exact ⟨fun content hread => hmade.read hread, fun place content _ => hmade.file_iff⟩
      | unmoved _ p hp hpnode =>
        have hbeside := beside_temporaryPath (hmade.wellFormed hfiles) hp hpnode
        refine ⟨fun content hread =>
          FileTree.read_insert_of_beside hbeside hp hpnode (hmade.read hread),
          fun place content hplace => ?_⟩
        rw [ne_eq, FileTree.locate_insert_file_iff hpnode, hp] at hplace
        rw [FileTree.node?_insert (FileTree.ne_nil_of_not_directory hpnode),
          if_neg fun h => hplace (by rw [h])]
        exact hmade.file_iff

/-- Settings are saved in a new directory, and are not where a directory is in the way of the
temporary file. -/
theorem load_save_obstructed :
    let blocked := ({} : FileTree).insert ["b.json.tmp"] .directory
    let files := blocked.insert ["b.json"] (.file ByteArray.empty)
    let s : Settings := { logFilter := "\"\n", adminIds := [-1] }
    files.WellFormed ∧ s.InRange ∧
      (save files "etc/a.json" s).2 = none ∧
      load (save files "etc/a.json" s).1 "etc/a.json" = .ok s ∧
      (save files "b.json" s).2 ≠ none ∧
      (save files "b.json" s).1.read "b.json" = .ok ByteArray.empty := by
  intro blocked files s
  have hfiles : files.WellFormed :=
    FileTree.wellFormed_insert
      (FileTree.wellFormed_insert FileTree.wellFormed_empty (by decide) (by decide) _)
      (by decide) (by decide) _
  have hs : s.InRange := by constructor <;> decide
  have hsaved : (save files "etc/a.json" s).2 = none :=
    Option.isNone_iff_eq_none.1 (by decide +kernel)
  obtain ⟨e, he⟩ : ∃ e, (save files "b.json" s).2 = some e :=
    Option.isSome_iff_exists.1 (by decide +kernel)
  obtain ⟨hload, -⟩ := (load_save hfiles hs "etc/a.json").1 _ (Prod.ext rfl hsaved)
  obtain ⟨hread, -⟩ := (load_save hfiles hs "b.json").2 _ e (Prod.ext rfl he)
  exact ⟨hfiles, hs, hsaved, hload rfl, by rw [he]; simp, hread ByteArray.empty (by decide +kernel)⟩

end Settings

end InFlight
