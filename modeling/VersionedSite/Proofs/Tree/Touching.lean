import VersionedSite.Build
import VersionedSite.Proofs.Tree.Walking

/-!
# What writing touches

Writing files into a directory makes the directories on the way to it that are missing, and leaves
all else alone. That this holds of one step and lasts from step to step is all that is needed for
any number of files, whether or not they could be written.

A file that has been written can be read back, and writing it once more changes nothing.
-/

namespace VersionedSite

namespace Workspace

variable {w w' w'' : Workspace} {l : Location} {d p q name text : String} {names : List String}

/-! ## Touching -/

/-- Nothing was there, and a directory on the way to `d` is there now. -/
structure MadeOnWay (d : String) (w w' : Workspace) (l : Location) : Prop where
  missing : w.tree.lookup? l = none
  made : w'.tree.lookup? l = some .directory
  onWay : ∃ front, front <+: Path.pieces d ∧ w'.walk (w'.start d) front = .ok l

/-- No directory was there, and a file of one of the names in `d` is there now. -/
structure WrittenIn (d : String) (names : List String) (w w' : Workspace) (l : Location) :
    Prop where
  noDirectory : w.tree.lookup? l ≠ some .directory
  written : ∃ content, w'.tree.lookup? l = some (.file content)
  named : ∃ l₀, ∃ name ∈ names, w'.reach d = .ok l₀ ∧ l = l₀ ++ [name]

/-- All that is different in `w'` is that there are directories on the way to `d` that had been
missing, and files of the given names in `d`. -/
structure Touches (d : String) (names : List String) (w w' : Workspace) : Prop where
  cwd : w'.cwd = w.cwd
  changed : ∀ l, w'.tree.lookup? l ≠ w.tree.lookup? l →
    MadeOnWay d w w' l ∨ WrittenIn d names w w' l

theorem Touches.refl (d : String) (names : List String) (w : Workspace) :
    Touches d names w w := ⟨rfl, fun _ h ↦ absurd rfl h⟩

theorem Touches.keepsDirectories (h : Touches d names w w') : w.KeepsDirectories w' := by
  refine ⟨h.cwd, fun l hl ↦ ?_⟩
  by_cases hsame : w'.tree.lookup? l = w.tree.lookup? l
  · exact hsame.trans hl
  · rcases h.changed l hsame with hmade | hwritten
    · exact hmade.made
    · exact absurd hl hwritten.noDirectory

theorem Touches.mono {names' : List String} (hnames : names ⊆ names') (h : Touches d names w w') :
    Touches d names' w w' := by
  refine ⟨h.cwd, fun l hl ↦ (h.changed l hl).imp_right fun hwritten ↦ ?_⟩
  obtain ⟨l₀, name, hname, hreach⟩ := hwritten.named
  exact ⟨hwritten.noDirectory, hwritten.written, l₀, name, hnames hname, hreach⟩

/-- What has been touched in two steps has been touched. -/
theorem Touches.trans (h : Touches d names w w') (h' : Touches d names w' w'') :
    Touches d names w w'' := by
  have hkeeps := h'.keepsDirectories
  refine ⟨h'.cwd.trans h.cwd, fun l hl ↦ ?_⟩
  by_cases hfirst : w'.tree.lookup? l = w.tree.lookup? l
  · -- the change is that of the second step
    rcases h'.changed l (hfirst ▸ hl) with hmade | hwritten
    · exact .inl ⟨hfirst ▸ hmade.missing, hmade.made, hmade.onWay⟩
    · exact .inr ⟨hfirst ▸ hwritten.noDirectory, hwritten.written, hwritten.named⟩
  · rcases h.changed l hfirst with hmade | hwritten
    · obtain ⟨front, hfront, hwalk⟩ := hmade.onWay
      refine .inl ⟨hmade.missing, hkeeps.directory l hmade.made, front, hfront, ?_⟩
      rw [hkeeps.start]
      exact hkeeps.walk hwalk
    · obtain ⟨l₀, name, hname, hreach, rfl⟩ := hwritten.named
      obtain ⟨content, hcontent⟩ := hwritten.written
      refine .inr ⟨hwritten.noDirectory, ?_, l₀, name, hname, hkeeps.reach hreach, rfl⟩
      -- a file stays a file, whatever becomes of its content
      by_cases hsecond : w''.tree.lookup? (l₀ ++ [name]) = w'.tree.lookup? (l₀ ++ [name])
      · exact ⟨content, hsecond.trans hcontent⟩
      · rcases h'.changed _ hsecond with hmade | hwritten'
        · exact absurd (hmade.missing.symm.trans hcontent) (by simp)
        · exact hwritten'.written

/-! ## Directories -/

theorem touches_of_makeDirectory (hq : Path.IsOnWay q d) (h : w.makeDirectory q = .ok w') :
    Touches d names w w' := by
  obtain ⟨l, hl, h⟩ := Steps.bind_eq_ok_iff.mp h
  split at h
  · cases h
  next hsome =>
  obtain rfl := Except.ok.inj h
  have hmissing : w.tree.lookup? l = none := by simpa using hsome
  have hroot : l ≠ [] := FileTree.ne_nil_of_lookup?_ne (t := w.tree) (by simp [hmissing])
  have hset (l' : Location) : (w.tree.set l .directory).lookup? l' =
      if l' = l then some .directory else w.tree.lookup? l' := FileTree.lookup?_set hroot
  have hkeeps : w.KeepsDirectories { w with tree := w.tree.set l .directory } := by
    refine ⟨rfl, fun l' hl' ↦ ?_⟩
    rw [hset]
    by_cases hll : l' = l
    · rw [if_pos hll]
    · rw [if_neg hll, hl']
  refine ⟨rfl, fun l' hl' ↦ .inl ?_⟩
  by_cases hll : l' = l
  case neg => exact absurd (by rw [hset, if_neg hll]) hl'
  subst hll
  obtain ⟨front, hfront, hwalk⟩ := walk_of_isOnWay hq hl
  exact ⟨hmissing, by rw [hset, if_pos rfl], front, hfront, hkeeps.walk hwalk⟩

theorem touches_makeDirectories (fuel : Nat) (w : Workspace) (hq : Path.IsOnWay q d) :
    Touches d names w (w.makeDirectories fuel q).2 := by
  induction fuel generalizing q w with
  | zero => exact .refl d names w
  | succ fuel ih =>
    rw [makeDirectories]
    by_cases hempty : q.isEmpty = true
    · rw [if_pos hempty]
      exact .refl d names w
    rw [if_neg hempty]
    cases hmake : w.makeDirectory q with
    | ok w' => exact touches_of_makeDirectory hq hmake
    | error e =>
      cases e <;> try exact .refl d names w
      -- the parent is missing, so it is made first
      cases hparent : Path.parent? q with
      | none => exact .refl d names w
      | some parent =>
        have hmade := ih w (hq.of_parent? hparent)
        simp only
        generalize w.makeDirectories fuel parent = made at hmade
        obtain ⟨_ | ⟨⟨⟩⟩, w₁⟩ := made
        · exact hmade
        · simp only at hmade ⊢
          cases hagain : w₁.makeDirectory q with
          | ok w' => exact hmade.trans (touches_of_makeDirectory hq hagain)
          | error e => exact hmade

theorem touches_makeParent (w : Workspace) (hname : Path.IsName name) :
    Touches d names w (w.makeParent (Path.join d name)).2 := by
  rw [makeParent]
  cases hparent : Path.parent? (Path.join d name) with
  | none => exact .refl d names w
  | some parent =>
    have hway := Path.isOnWay_of_parent?_join hname.2.2.2 hparent
    exact touches_makeDirectories (parent.length + 1) w hway

/-- Where a path leads somewhere, nothing is missing above it. -/
theorem makeParent_of_locate (h : w.locate p = .ok l) : w.makeParent p = (.ok (), w) := by
  rw [makeParent]
  cases hparent : Path.parent? p with
  | none => rfl
  | some parent =>
    simp only
    rw [makeDirectories]
    by_cases hne : parent = ""
    · simp [hne, Steps.mapError_ok]
    · obtain ⟨l₀, hlocate, hdir⟩ := locate_of_parent? hparent hne h
      have hmake : w.makeDirectory parent = .error .alreadyExists := by
        rw [makeDirectory, hlocate]
        simp [bind, Except.bind, hdir]
      have hthere : w.isDirectory parent = true := by
        rw [isDirectory, lookup?, hlocate]
        simp [hdir]
      simp [hne, hmake, hthere, Steps.mapError_ok]

/-! ## Files -/

theorem fromUTF8?_eq_some_iff {bytes : ByteArray} :
    String.fromUTF8? bytes = some text ↔ bytes = text.toUTF8 := by
  rw [String.fromUTF8?]
  constructor
  · intro h
    split at h
    · rw [← Option.some.inj h]
      rfl
    · cases h
  · rintro rfl
    have hvalid : text.toUTF8.IsValidUTF8 := text.isValidUTF8
    rw [dif_pos hvalid]
    rfl

theorem readText_eq_ok_iff :
    w.readText p = .ok text ↔
      ∃ l, w.locate p = .ok l ∧ w.tree.lookup? l = some (.file text.toUTF8) := by
  rw [readText, Steps.bind_eq_ok_iff]
  refine exists_congr fun l ↦ and_congr_right fun _ ↦ ?_
  cases w.tree.lookup? l with
  | none => simp
  | some e =>
    cases e with
    | directory => simp
    | file content =>
      simp only [Option.some.injEq, Entry.file.injEq]
      rw [← fromUTF8?_eq_some_iff]
      cases String.fromUTF8? content <;> simp

/-- A text is written where no directory stands. -/
theorem writeText_eq_ok_iff :
    w.writeText p text = .ok w' ↔ ∃ l, w.locate p = .ok l ∧
      w.tree.lookup? l ≠ some .directory ∧
      w' = { w with tree := w.tree.set l (.file text.toUTF8) } := by
  rw [writeText, Steps.bind_eq_ok_iff]
  refine exists_congr fun l ↦ and_congr_right fun _ ↦ ?_
  cases w.tree.lookup? l with
  | none => simp [eq_comm]
  | some e => cases e <;> simp [eq_comm]

theorem keepsDirectories_of_writeText (h : w.writeText p text = .ok w') :
    w.KeepsDirectories w' := by
  obtain ⟨l, -, hfile, rfl⟩ := writeText_eq_ok_iff.mp h
  refine ⟨rfl, fun l' hl' ↦ ?_⟩
  have hll : l' ≠ l := fun hll ↦ hfile (hll ▸ hl')
  rw [FileTree.lookup?_set (FileTree.ne_nil_of_lookup?_ne hfile), if_neg hll, hl']

theorem touches_of_writeText (hname : Path.IsName name)
    (h : w.writeText (Path.join d name) text = .ok w') : Touches d [name] w w' := by
  have hkeeps := keepsDirectories_of_writeText h
  obtain ⟨l, hl, hfile, rfl⟩ := writeText_eq_ok_iff.mp h
  have hroot := FileTree.ne_nil_of_lookup?_ne hfile
  refine ⟨rfl, fun l' hl' ↦ .inr ?_⟩
  by_cases hll : l' = l
  case neg => exact absurd (by rw [FileTree.lookup?_set hroot, if_neg hll]) hl'
  subst hll
  obtain ⟨l₀, hreach, -, rfl⟩ := (locate_join_eq_ok_iff hname).mp hl
  refine ⟨hfile, ⟨text.toUTF8, ?_⟩, l₀, name, List.mem_singleton_self name,
    hkeeps.reach hreach, rfl⟩
  rw [FileTree.lookup?_set hroot, if_pos rfl]

/-- What has been written is read. -/
theorem readText_of_writeText (h : w.writeText p text = .ok w') : w'.readText p = .ok text := by
  have hkeeps := keepsDirectories_of_writeText h
  obtain ⟨l, hl, hfile, rfl⟩ := writeText_eq_ok_iff.mp h
  refine readText_eq_ok_iff.mpr ⟨l, hkeeps.locate hl, ?_⟩
  rw [FileTree.lookup?_set (FileTree.ne_nil_of_lookup?_ne hfile), if_pos rfl]

/-- Writing what is read already changes nothing. -/
theorem writeText_of_readText (h : w.readText p = .ok text) : w.writeText p text = .ok w := by
  obtain ⟨l, hl, hfile⟩ := readText_eq_ok_iff.mp h
  have hnodir : w.tree.lookup? l ≠ some .directory := by simp [hfile]
  refine writeText_eq_ok_iff.mpr ⟨l, hl, hnodir, ?_⟩
  rw [FileTree.set_eq_self (FileTree.ne_nil_of_lookup?_ne hnodir) hfile]

/-- Files of other names are read as before. -/
theorem Touches.readText (h : Touches d names w w') (hname : Path.IsName name)
    (hnames : name ∉ names) (hread : w.readText (Path.join d name) = .ok text) :
    w'.readText (Path.join d name) = .ok text := by
  obtain ⟨l, hl, hfile⟩ := readText_eq_ok_iff.mp hread
  refine readText_eq_ok_iff.mpr ⟨l, h.keepsDirectories.locate hl, ?_⟩
  by_cases hsame : w'.tree.lookup? l = w.tree.lookup? l
  · exact hsame.trans hfile
  obtain ⟨l₀, -, -, rfl⟩ := (locate_join_eq_ok_iff hname).mp hl
  rcases h.changed _ hsame with hmade | hwritten
  · exact absurd (hmade.missing.symm.trans hfile) (by simp)
  · obtain ⟨l₁, other, hother, -, heq⟩ := hwritten.named
    obtain ⟨-, hlast⟩ := List.append_inj' heq rfl
    exact absurd ((List.cons.inj hlast).1 ▸ hother) hnames

/-! ## Outputs -/

/-- What comes of writing an output: its directories fail, or the file does, or all is well. -/
theorem writeOutput_cases (w : Workspace) (p text : String) :
    (∃ what e, w.writeOutput p text = (.error (stepFailure what e), (w.makeParent p).2)) ∨
      ∃ w', (w.makeParent p).2.writeText p text = .ok w' ∧
        w.writeOutput p text = (.ok (), w') := by
  rw [writeOutput]
  cases hmake : w.makeParent p with
  | mk made w₁ =>
    cases made with
    | error f =>
      have hfailure : ∃ what e, f = stepFailure what e := by
        rw [makeParent] at hmake
        cases hparent : Path.parent? p <;> simp only [hparent] at hmake
        case none => cases hmake
        case some parent =>
          obtain ⟨e, -, he⟩ := Steps.mapError_eq_error_iff.mp (Prod.mk.inj hmake).1
          exact ⟨_, e, he⟩
      obtain ⟨what, e, rfl⟩ := hfailure
      exact .inl ⟨what, e, rfl⟩
    | ok u =>
      cases u
      simp only
      cases hwrite : w₁.writeText p text with
      | error e => exact .inl ⟨_, e, rfl⟩
      | ok w' => exact .inr ⟨w', rfl, rfl⟩

theorem touches_writeOutput (w : Workspace) (hname : Path.IsName name) (text : String) :
    Touches d [name] w (w.writeOutput (Path.join d name) text).2 := by
  have hparent : Touches d [name] w (w.makeParent (Path.join d name)).2 :=
    touches_makeParent w hname
  rcases writeOutput_cases w (Path.join d name) text with ⟨what, e, h⟩ | ⟨w', hwrite, h⟩
  · rw [h]
    exact hparent
  · rw [h]
    exact hparent.trans (touches_of_writeText hname hwrite)

theorem readText_of_writeOutput (h : w.writeOutput p text = (.ok (), w')) :
    w'.readText p = .ok text := by
  rcases writeOutput_cases w p text with ⟨what, e, h'⟩ | ⟨w₁, hwrite, h'⟩
  · rw [h'] at h
    cases h
  · rw [h'] at h
    obtain ⟨-, rfl⟩ := Prod.mk.inj h
    exact readText_of_writeText hwrite

/-- An output that is there already is left as it is, and so is all else. -/
theorem writeOutput_of_readText (h : w.readText p = .ok text) :
    w.writeOutput p text = (.ok (), w) := by
  obtain ⟨l, hl, -⟩ := readText_eq_ok_iff.mp h
  rw [writeOutput, makeParent_of_locate hl]
  simp only
  rw [writeText_of_readText h]

/-- Into a directory that is there a file is written unless a directory has its name. -/
theorem writeOutput_of_reach (hname : Path.IsName name) (hreach : w.reach d = .ok l)
    (hdir : w.tree.lookup? l = some .directory)
    (hfree : w.tree.lookup? (l ++ [name]) ≠ some .directory) (text : String) :
    w.writeOutput (Path.join d name) text =
      (.ok (), { w with tree := w.tree.set (l ++ [name]) (.file text.toUTF8) }) := by
  have hlocate : w.locate (Path.join d name) = .ok (l ++ [name]) :=
    (locate_join_eq_ok_iff hname).mpr ⟨l, hreach, hdir, rfl⟩
  rw [writeOutput, makeParent_of_locate hlocate]
  simp only
  rw [writeText_eq_ok_iff.mpr ⟨_, hlocate, hfree, rfl⟩]

/-! ## A run of outputs -/

/-- The course of writing files into `d`: `done` has been written, and of `rest` the first has been
begun at most. -/
structure Wrote (d : String) (done rest : List (String × String)) (w : Workspace) (r : Writing) :
    Prop where
  begun : r.begun = (done ++ rest.take 1).map fun f ↦ Path.join d f.1
  touches : w.Touches d ((done ++ rest.take 1).map (·.1)) r.workspace
  read : ∀ f ∈ done, r.workspace.readText (Path.join d f.1) = .ok f.2
  complete : rest = [] → r.result = .ok ()
  broken : rest ≠ [] → ∃ what e, r.result = .error (stepFailure what e)

namespace Wrote

variable {done rest : List (String × String)} {r : Writing}

theorem result_eq_ok_iff (h : Wrote d done rest w r) : r.result = .ok () ↔ rest = [] := by
  refine ⟨fun hresult ↦ ?_, h.complete⟩
  by_cases hrest : rest = []
  · exact hrest
  · obtain ⟨what, e, hbroken⟩ := h.broken hrest
    rw [hbroken] at hresult
    cases hresult

/-- Nothing but the tree can be in the way. -/
theorem eq_stepFailure (h : Wrote d done rest w r) {f : Failure} (hf : r.result = .error f) :
    ∃ what e, f = stepFailure what e := by
  have hrest : rest ≠ [] := by
    intro hrest
    rw [h.complete hrest] at hf
    cases hf
  obtain ⟨what, e, hbroken⟩ := h.broken hrest
  rw [hbroken] at hf
  exact ⟨what, e, (Except.error.inj hf).symm⟩

/-- Whether or not all files have been begun, no others have. -/
theorem touches_all (h : Wrote d done rest w r) :
    w.Touches d ((done ++ rest).map (·.1)) r.workspace :=
  h.touches.mono (List.map_subset _ ((List.take_sublist 1 rest).append_left done).subset)

end Wrote

/-- Writing stops at the first file that cannot be written. What has been written before stays
written. -/
theorem exists_wrote (d : String) {files : List (String × String)}
    (hnames : ∀ f ∈ files, Path.IsName f.1) (hnodup : (files.map (·.1)).Nodup) (w : Workspace) :
    ∃ done rest, files = done ++ rest ∧
      Wrote d done rest w (writeOutputs (files.map fun f ↦ (Path.join d f.1, f.2)) w) := by
  induction files generalizing w with
  | nil => exact ⟨[], [], rfl, rfl, .refl d [] w, by simp, fun _ ↦ rfl, fun h ↦ absurd rfl h⟩
  | cons f files ih =>
    obtain ⟨name, text⟩ := f
    have hname : Path.IsName name := hnames _ List.mem_cons_self
    have htouches : Touches d [name] w (w.writeOutput (Path.join d name) text).2 :=
      touches_writeOutput w hname text
    rw [List.map_cons, writeOutputs]
    rcases writeOutput_cases w (Path.join d name) text with ⟨what, e, h⟩ | ⟨w₁, -, h⟩
    · rw [h] at htouches ⊢
      refine ⟨[], (name, text) :: files, rfl, ?_⟩
      exact { begun := rfl, touches := htouches, read := by simp, complete := nofun,
              broken := fun _ ↦ ⟨what, e, rfl⟩ }
    · rw [List.map_cons, List.nodup_cons] at hnodup
      obtain ⟨done, rest, hfiles, hrest⟩ :=
        ih (fun f hf ↦ hnames f (List.mem_cons_of_mem _ hf)) hnodup.2 w₁
      have hsub : done ++ rest.take 1 ⊆ files := by
        rw [hfiles]
        exact ((List.take_sublist 1 rest).append_left done).subset
      have hfresh : name ∉ (done ++ rest.take 1).map (·.1) :=
        fun hmem ↦ hnodup.1 (List.map_subset _ hsub hmem)
      rw [h] at htouches ⊢
      refine ⟨(name, text) :: done, rest, congrArg _ hfiles, ?_⟩
      exact {
        begun := congrArg _ hrest.begun
        touches := (htouches.mono (by simp)).trans (hrest.touches.mono (by simp))
        read := by
          intro f hf
          rcases List.mem_cons.mp hf with rfl | hf
          · exact hrest.touches.readText hname hfresh (readText_of_writeOutput h)
          · exact hrest.read f hf
        complete := hrest.complete
        broken := hrest.broken }

/-- Files are written into a directory that is there unless directories have their names. -/
theorem writeOutputs_of_reach {files : List (String × String)}
    (hnames : ∀ f ∈ files, Path.IsName f.1) (hreach : w.reach d = .ok l)
    (hdir : w.tree.lookup? l = some .directory)
    (hfree : ∀ f ∈ files, w.tree.lookup? (l ++ [f.1]) ≠ some .directory) :
    (writeOutputs (files.map fun f ↦ (Path.join d f.1, f.2)) w).result = .ok () := by
  induction files generalizing w with
  | nil => rfl
  | cons f files ih =>
    obtain ⟨name, text⟩ := f
    have hname : Path.IsName name := hnames _ List.mem_cons_self
    have hnodir := hfree _ List.mem_cons_self
    have hset (l' : Location) (hl' : w.tree.lookup? l' ≠ some .directory) :
        (w.tree.set (l ++ [name]) (.file text.toUTF8)).lookup? l' ≠ some .directory := by
      rw [FileTree.lookup?_set (by simp)]
      split
      · simp
      · exact hl'
    have hwrite := writeOutput_of_reach hname hreach hdir hnodir text
    have htouches : Touches d [name] w _ := touches_writeOutput w hname text
    rw [hwrite] at htouches
    have hkeeps := htouches.keepsDirectories
    rw [List.map_cons, writeOutputs, hwrite]
    exact ih (fun f hf ↦ hnames f (List.mem_cons_of_mem _ hf)) (hkeeps.reach hreach)
      (hkeeps.directory l hdir) fun f hf ↦ hset _ (hfree f (List.mem_cons_of_mem _ hf))

end Workspace

end VersionedSite
