import VersionedSite.Discovery
import VersionedSite.Proofs.Tree.Names

/-!
# The nearest configuration

A search for a configuration goes up one directory at a time. Each round leaves less text, so the
search ends, and what it has left behind at any time are directories without the file. So it ends
with the file in the nearest directory that has one, and the text of this directory is the text
that the search started from, cut short.
-/

namespace VersionedSite

/-! ## Nearest directories -/

theorem prefix_dropLast_of_ne {above names : List String} (h : above <+: names)
    (hne : above ≠ names) : above <+: names.dropLast := by
  obtain ⟨rest, rfl⟩ := h
  have hrest : rest ≠ [] := by
    rintro rfl
    exact hne (List.append_nil _).symm
  rw [List.dropLast_append_of_ne_nil hrest]
  exact List.prefix_append _ _

namespace Workspace

/-- The names lead to a directory with an entry of this name. -/
def Holds (w : Workspace) (l : Location) (above : List String) (name : String) : Prop :=
  w.Leads l above ∧ (w.tree.lookup? (l ++ above ++ [name])).isSome = true

/-- Of the directories on the way along the names, `above` is the last that has the entry. -/
structure Nearest (w : Workspace) (l : Location) (names : List String) (name : String)
    (above : List String) : Prop where
  on_way : above <+: names
  holds : w.Holds l above name
  nearest : ∀ nearer, nearer <+: names → w.Holds l nearer name → nearer <+: above

variable {w : Workspace} {l : Location} {names above : List String} {name d : String}

theorem isPresent_join_iff_holds (hname : Path.IsName name) (hup : ".." ∉ Path.names d) :
    w.isPresent (Path.join d name) = true ↔ w.Holds (w.start d) (Path.names d) name := by
  have hlocate {l : Location} := locate_join_iff_leads (w := w) (l := l) hname hup
  rw [isPresent, lookup?]
  cases hpath : w.locate (Path.join d name) with
  | ok l =>
    obtain ⟨hleads, rfl⟩ := hlocate.mp hpath
    exact (and_iff_right hleads).symm
  | error f =>
    refine iff_of_false (by simp) fun hholds ↦ ?_
    rw [hlocate.mpr ⟨hholds.1, rfl⟩] at hpath
    cases hpath

theorem not_holds_of_not_isPresent (hname : Path.IsName name) (hup : ".." ∉ Path.names d)
    (h : w.isPresent (Path.join d name) = false) : ¬w.Holds (w.start d) (Path.names d) name :=
  mt (isPresent_join_iff_holds hname hup).mpr (Bool.eq_false_iff.mp h)

/-- A directory without the entry can be left. -/
theorem Nearest.of_dropLast (hhere : ¬w.Holds l names name)
    (h : w.Nearest l names.dropLast name above) : w.Nearest l names name above := by
  refine ⟨h.on_way.trans (List.dropLast_prefix _), h.holds, fun nearer hnearer hholds ↦ ?_⟩
  refine h.nearest nearer (prefix_dropLast_of_ne hnearer ?_) hholds
  rintro rfl
  exact hhere hholds

end Workspace

namespace Config

theorem isName_configFileName : Path.IsName configFileName := by decide

/-! ## Searching -/

/-- The rounds of a search from a directory upwards, and the file that it ends with. -/
inductive Searches (w : Workspace) : String → Option String → Prop
  | found {dir : String} : w.isPresent (Path.join dir configFileName) = true →
      Searches w dir (some (Path.join dir configFileName))
  | top {dir : String} : w.isPresent (Path.join dir configFileName) = false →
      (Path.pop (Path.pop (Path.join dir configFileName)).1).2 = false → Searches w dir none
  | up {dir next : String} {result : Option String} :
      w.isPresent (Path.join dir configFileName) = false →
      Path.pop (Path.pop (Path.join dir configFileName)).1 = (next, true) →
      Searches w next result → Searches w dir result

variable {w : Workspace} {dir : String}

theorem find?_succ (fuel : Nat) : find? w (fuel + 1) dir =
    if w.isPresent (Path.join dir configFileName) then some (Path.join dir configFileName)
    else match Path.pop (Path.pop (Path.join dir configFileName)).1 with
      | (_, false) => none
      | (up, true) => find? w fuel up := by
  -- one round of the recursion, whatever going up does
  delta find? find?._f
  generalize Path.pop = pop
  rfl

/-- A search needs no more rounds than its text has characters, and one. -/
theorem searches_find? {fuel : Nat} (h : dir.length < fuel) :
    Searches w dir (find? w fuel dir) := by
  induction fuel generalizing dir with
  | zero => omega
  | succ fuel ih =>
    rw [find?_succ]
    cases hpresent : w.isPresent (Path.join dir configFileName) with
    | true =>
      rw [if_pos rfl]
      exact .found hpresent
    | false =>
      rw [if_neg Bool.false_ne_true]
      rcases Path.pop_pop_join isName_configFileName dir with ⟨-, htop⟩ | ⟨next, hpop, -, hlength⟩
      · cases hpop : Path.pop (Path.pop (Path.join dir configFileName)).1 with
        | mk left went =>
          rw [hpop] at htop
          cases htop
          exact .top hpresent (by rw [hpop])
      · rw [hpop]
        exact .up hpresent hpop (ih (by omega))

theorem searches_search? : Searches w dir (search? w dir) := searches_find? (by omega)

/-- There is one search from a directory. -/
theorem Searches.unique {result result' : Option String} (h : Searches w dir result)
    (h' : Searches w dir result') : result = result' := by
  induction h with
  | found hpresent =>
    cases h' with
    | found => rfl
    | top habsent => simp [hpresent] at habsent
    | up habsent => simp [hpresent] at habsent
  | top habsent htop =>
    cases h' with
    | found hpresent => simp [habsent] at hpresent
    | top => rfl
    | up _ hpop => simp [hpop] at htop
  | up habsent hpop _ ih =>
    cases h' with
    | found hpresent => simp [habsent] at hpresent
    | top _ htop => simp [hpop] at htop
    | up _ hpop' hrun =>
      rw [hpop] at hpop'
      cases hpop'
      exact ih hrun

/-- What the end of a search tells about the directories on the way. -/
theorem Searches.nearest {result : Option String} (h : Searches w dir result)
    (hup : ".." ∉ Path.names dir) :
    (∃ d above, result = some (Path.join d configFileName) ∧ Path.Cut d dir above ∧
      w.Nearest (w.start dir) (Path.names dir) configFileName above) ∨
    (result = none ∧
      ∀ above, above <+: Path.names dir → ¬w.Holds (w.start dir) above configFileName) := by
  induction h with
  | @found dir hpresent =>
    have hholds := (Workspace.isPresent_join_iff_holds isName_configFileName hup).mp hpresent
    exact .inl ⟨dir, Path.names dir, rfl, .refl dir, List.prefix_rfl, hholds, fun _ h _ ↦ h⟩
  | @top dir hpresent htop =>
    have hhere := Workspace.not_holds_of_not_isPresent isName_configFileName hup hpresent
    refine .inr ⟨rfl, fun above habove ↦ ?_⟩
    rcases Path.pop_pop_join isName_configFileName dir with ⟨hnames, -⟩ | ⟨next, hpop, -⟩
    · rw [hnames, List.prefix_nil] at habove
      rwa [habove, ← hnames]
    · rw [hpop] at htop
      cases htop
  | @up dir next result hpresent hpop hrun ih =>
    have hhere := Workspace.not_holds_of_not_isPresent isName_configFileName hup hpresent
    rcases Path.pop_pop_join isName_configFileName dir with ⟨-, htop⟩ | ⟨next', hpop', hcut, -⟩
    · rw [hpop] at htop
      cases htop
    · rw [hpop] at hpop'
      cases hpop'
      rw [hcut.names_eq, Workspace.start_congr hcut.absolute] at ih
      rcases ih fun h ↦ hup ((List.dropLast_prefix _).subset h) with
        ⟨d, above, hresult, hd, hnearest⟩ | ⟨hresult, hnone⟩
      · exact .inl ⟨d, above, hresult, hd.trans hcut, hnearest.of_dropLast hhere⟩
      · refine .inr ⟨hresult, fun above habove hholds ↦ ?_⟩
        by_cases heq : above = Path.names dir
        · exact hhere (heq ▸ hholds)
        · exact hnone above (prefix_dropLast_of_ne habove heq) hholds

/-! ## Roots -/

/-- `root` is the directory `above` on the way of `dir`: the text of `dir` cut short, or a point if
nothing of the text is left. -/
structure IsRoot (root dir : String) (above : List String) : Prop where
  ne_empty : root ≠ ""
  absolute : Path.isAbsolute root = Path.isAbsolute dir
  names_eq : Path.names root = above
  text : if Path.isAbsolute dir = false ∧ above = [] then root = "."
    else root.toList <+: dir.toList

theorem isRoot_rootOf {d : String} {above : List String} (hd : Path.Cut d dir above) :
    IsRoot (rootOf (Path.join d configFileName)) dir above := by
  obtain ⟨e, hpop, hcut, htrimmed⟩ := Path.pop_join isName_configFileName d
  rw [hd.names_eq] at hcut
  have he := hcut.trans hd
  rw [rootOf, hpop]
  dsimp only
  by_cases hempty : e = ""
  · subst hempty
    have hrelative : Path.isAbsolute dir = false := he.absolute.symm
    have hnone : above = [] := he.names_eq.symm
    refine ⟨by decide, hrelative.symm, hnone.symm, ?_⟩
    rw [if_pos ⟨hrelative, hnone⟩]
    rfl
  · rw [if_neg (by rwa [String.isEmpty_iff])]
    refine ⟨hempty, he.absolute, he.names_eq, ?_⟩
    split
    · next h => exact htrimmed.eq_point hempty (he.absolute.trans h.1) (he.names_eq.trans h.2)
    · exact he.begins

theorem root_of_ofFile {path : String} {c : Config} (h : ofFile w path = .ok c) :
    c.root = rootOf path := by
  rw [ofFile] at h
  obtain ⟨text, -, h⟩ := Steps.bind_eq_ok_iff.mp h
  obtain ⟨config, -, h⟩ := Steps.bind_eq_ok_iff.mp h
  cases h
  rfl

/-- **The configuration is that of the nearest directory.** A search from a path without steps back
ends. The file that it finds is in the nearest of the directories on the way, and this directory is
the root of the configuration. If none of them has the file, the root of the default configuration
is the path. -/
theorem discover_is_nearest (w : Workspace) (dir : String) (hup : ".." ∉ Path.names dir) :
    (∀ result, Searches w dir result ↔ result = search? w dir) ∧
    ((∃ path above, w.Nearest (w.start dir) (Path.names dir) configFileName above ∧
        search? w dir = some path ∧
        w.locate path = .ok (w.start dir ++ above ++ [configFileName]) ∧
        discover w dir = ofFile w path ∧
        ∀ c, discover w dir = .ok c →
          IsRoot c.root dir above ∧ w.locate c.root = .ok (w.start dir ++ above)) ∨
      ((∀ above, above <+: Path.names dir → ¬w.Holds (w.start dir) above configFileName) ∧
        search? w dir = none ∧ discover w dir = .ok { Config.default with root := dir })) := by
  have hsearch : Searches w dir (search? w dir) := searches_search?
  refine ⟨fun result ↦ ⟨fun h ↦ h.unique hsearch, fun h ↦ h ▸ hsearch⟩, ?_⟩
  rcases hsearch.nearest hup with ⟨d, above, hfound, hd, hnearest⟩ | ⟨hnone, hnowhere⟩
  · have hleads := hnearest.holds.1
    have hup : ".." ∉ above := fun h ↦ hup (hnearest.on_way.subset h)
    have hdiscover : discover w dir = ofFile w (Path.join d configFileName) := by
      rw [discover, hfound]
    refine .inl ⟨_, above, hnearest, hfound, ?_, hdiscover, fun c hc ↦ ?_⟩
    · rw [Workspace.locate_join_iff_leads isName_configFileName (hd.names_eq ▸ hup), hd.names_eq,
        Workspace.start_congr hd.absolute]
      exact ⟨hleads, rfl⟩
    · have hroot := isRoot_rootOf hd
      rw [← root_of_ofFile (hdiscover ▸ hc)] at hroot
      have hlocate := Workspace.locate_of_leads (w := w) hroot.ne_empty (hroot.names_eq ▸ hup)
      rw [hroot.names_eq, Workspace.start_congr hroot.absolute] at hlocate
      exact ⟨hroot, hlocate hleads⟩
  · exact .inr ⟨hnowhere, hnone, by rw [discover, hnone]⟩

/-- Configurations on several levels: above and in the directory that paths are relative to, further
down, and beside. -/
def nestedWorkspace : Workspace where
  tree := FileTree.empty.withFile ["_site.yml"] .empty
    |>.withFile ["home", "_site.yml"] .empty
    |>.withFile ["home", "docs", "_site.yml"] .empty
    |>.withFile ["home", "docs", "other", "_site.yml"] .empty
    |>.withFile ["home", "docs", "site", "child", "_site.yml"] .empty
  cwd := ["home"]

theorem discover_from_nested :
    ∃ c, discover nestedWorkspace "docs//site/." = .ok c ∧ c.root = "docs" ∧
      nestedWorkspace.Nearest ["home"] ["docs", "site"] configFileName ["docs"] ∧
      nestedWorkspace.locate c.root = .ok ["home", "docs"] := by
  have hrun : (discover nestedWorkspace "docs//site/.").toOption.any (·.root = "docs") = true := by
    decide +kernel
  obtain ⟨c, hc, hroot⟩ := Steps.any_toOption_iff.mp hrun
  have hroot : c.root = "docs" := of_decide_eq_true hroot
  obtain ⟨-, ⟨path, above, hnearest, -, -, -, hfound⟩ | ⟨-, -, hdefault⟩⟩ :=
    discover_is_nearest nestedWorkspace "docs//site/." (by decide +kernel)
  · obtain ⟨hisRoot, hlocate⟩ := hfound c hc
    have habove : above = ["docs"] := by
      rw [← hisRoot.names_eq, hroot]
      decide
    subst habove
    exact ⟨c, hc, hroot, hnearest, hlocate⟩
  · rw [Except.ok.inj (hc.symm.trans hdefault)] at hroot
    exact absurd hroot (by decide)

end Config

end VersionedSite
