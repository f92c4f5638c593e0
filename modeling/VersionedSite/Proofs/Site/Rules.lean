import VersionedSite.Proofs.Site.Resolved

/-!
# The rules for configurations

Eleven rules decide whether a record describes a site. Each is stated as a condition on the record
and, apart from that, as the report that is made where the condition fails; neither mentions the
order in which a program looks. Resolution is then shown to check the rules in the order of
`Rule.order`, which is what makes the report that of the first rule that is broken.

The two halves meet in `Rule.fault?`: the steps of the program fail with it, and it fails exactly
where the condition does.
-/

namespace VersionedSite

/-- What a record must satisfy to describe a site. -/
inductive Rule where
  | title
  | url
  | baseUrl
  | navbar
  | footer
  | locale
  | route
  | navbarLinks
  | footerLinks
  | someVersion
  | distinctPaths
  deriving DecidableEq, Repr

/-- A link leads to a page of the site or to an address, and not to both. -/
def OneTarget (page href : Option String) : Prop :=
  page.isSome ∧ href = none ∨ page = none ∧ href.isSome

namespace Rule

/-- The order in which rules are checked. -/
def order : List Rule :=
  [title, url, baseUrl, navbar, footer, locale, route, navbarLinks, footerLinks, someVersion,
    distinctPaths]

/-! ## Conditions and reports -/

/-- The condition that a rule puts on a record. -/
def Holds : Rule → Config → Prop
  | title, c => ∃ t, c.title = some t ∧ ∃ ch ∈ t.toList, Text.isBlank ch = false
  | url, c => c.url ≠ none
  | baseUrl, c => c.baseUrl ≠ none
  | navbar, c => c.navbar ≠ none
  | footer, c => c.footer ≠ none
  | locale, c => c.locales.defaultLocale ∈ c.locales.locales.names
  | route, c => c.docs.routeBasePath.toList ≠ [] ∧
      c.docs.routeBasePath.toList.head? ≠ some '/' ∧
      c.docs.routeBasePath.toList.getLast? ≠ some '/'
  | navbarLinks, c => ∀ n, c.navbar = some n → ∀ l, .link l ∈ n.items → OneTarget l.page l.href
  | footerLinks, c => ∀ f, c.footer = some f → ∀ g ∈ f.links, ∀ l ∈ g.items,
      OneTarget l.page l.href
  | someVersion, c => c.docs.versions ≠ []
  | distinctPaths, c => (c.docs.versions.map (·.path)).Nodup

/-- The report on a field that is not there. -/
def missingReport (field : String) : Report := ⟨"Missing required config field", [("Field", field)]⟩

/-- The report on a link with no target or two. -/
def linkReport (part label : String) : Report :=
  ⟨"Links need exactly one of `to` or `href`", [("Section", part), ("Label", label)]⟩

/-- The report on a record that breaks a rule. It names the field, the value, the label of the
first bad link, or the first path that repeats one before it. -/
def Blames : Rule → Config → Report → Prop
  | title, _, b => b = missingReport "title"
  | url, _, b => b = missingReport "url"
  | baseUrl, _, b => b = missingReport "base_url"
  | navbar, _, b => b = missingReport "navbar"
  | footer, _, b => b = missingReport "footer"
  | locale, c, b => b = ⟨"`i18n.default_locale` must be one of `i18n.locales`",
      [("Locale", c.locales.defaultLocale)]⟩
  | route, c, b => b = ⟨"`docs.route_base_path` must be a relative path without surrounding `/`",
      [("Value", c.docs.routeBasePath)]⟩
  | navbarLinks, c, b => ∃ n before l after, c.navbar = some n ∧
      n.items = before ++ .link l :: after ∧
      (∀ k, .link k ∈ before → OneTarget k.page k.href) ∧ ¬OneTarget l.page l.href ∧
      b = linkReport "navbar" (l.label.getD "<unlabeled>")
  | footerLinks, c, b => ∃ f before l after, c.footer = some f ∧
      f.links.flatMap (·.items) = before ++ l :: after ∧
      (∀ k ∈ before, OneTarget k.page k.href) ∧ ¬OneTarget l.page l.href ∧
      b = linkReport "footer" l.label
  | someVersion, _, b => b = ⟨"At least one documentation version is required",
      [("Field", "docs.versions")]⟩
  | distinctPaths, c, b => ∃ before v after, c.docs.versions = before ++ v :: after ∧
      (before.map (·.path)).Nodup ∧ v.path ∈ before.map (·.path) ∧
      b = ⟨"Documentation versions must have distinct paths", [("Path", v.path.text)]⟩

/-- The rule is broken, and every rule before it holds. -/
def FirstBroken (r : Rule) (c : Config) : Prop :=
  ¬r.Holds c ∧ ∃ before after, order = before ++ r :: after ∧ ∀ q ∈ before, q.Holds c

end Rule

/-! ## The checks one by one -/

theorem hasOneTarget_iff {page href : Option String} :
    hasOneTarget page href = true ↔ OneTarget page href := by
  cases page <;> cases href <;> simp [hasOneTarget, OneTarget]

/-- What checking one link comes to. -/
theorem blameUnlessOneTarget_eq_none_iff {page href : Option String} {b : BadLink} :
    (if hasOneTarget page href then none else some b) = none ↔ OneTarget page href := by
  rw [← hasOneTarget_iff]
  cases hasOneTarget page href <;> simp

theorem blameUnlessOneTarget_eq_some_iff {page href : Option String} {b b' : BadLink} :
    (if hasOneTarget page href then none else some b) = some b' ↔
      ¬OneTarget page href ∧ b' = b := by
  rw [← hasOneTarget_iff]
  cases hasOneTarget page href <;> simp [eq_comm]

theorem isRoute_iff {s : String} :
    isRoute s = true ↔
      s.toList ≠ [] ∧ s.toList.head? ≠ some '/' ∧ s.toList.getLast? ≠ some '/' := by
  rw [isRoute, Bool.and_eq_true, Bool.and_eq_true, and_assoc]
  simp only [decide_eq_true_eq]

theorem Config.usableTitle?_eq_some_iff {c : Config} {t : String} :
    c.usableTitle? = some t ↔ c.title = some t ∧ ∃ ch ∈ t.toList, Text.isBlank ch = false := by
  rw [usableTitle?, Option.filter_eq_some_iff]
  refine and_congr_right fun _ ↦ ?_
  simp [Text.allBlank]

theorem Navbar.badLink?_eq_none_iff {n : Navbar} :
    n.badLink? = none ↔ ∀ l, .link l ∈ n.items → OneTarget l.page l.href := by
  rw [badLink?, List.findSome?_eq_none_iff]
  constructor
  · intro h l hl
    exact blameUnlessOneTarget_eq_none_iff.mp (h _ hl)
  · intro h item hitem
    cases item with
    | link l => exact blameUnlessOneTarget_eq_none_iff.mpr (h l hitem)
    | docSidebar id label p => rfl
    | versionDropdown p => rfl
    | search p => rfl

theorem Navbar.exists_of_badLink?_eq_some {n : Navbar} {b : BadLink} (h : n.badLink? = some b) :
    ∃ before l after, n.items = before ++ .link l :: after ∧
      (∀ k, .link k ∈ before → OneTarget k.page k.href) ∧ ¬OneTarget l.page l.href ∧
      b = ⟨"navbar", l.label.getD "<unlabeled>"⟩ := by
  rw [badLink?, List.findSome?_eq_some_iff] at h
  obtain ⟨before, item, after, hitems, hb, hbefore⟩ := h
  cases item with
  | link l =>
    obtain ⟨hl, rfl⟩ := blameUnlessOneTarget_eq_some_iff.mp hb
    exact ⟨before, l, after, hitems,
      fun k hk ↦ blameUnlessOneTarget_eq_none_iff.mp (hbefore _ hk), hl, rfl⟩
  | docSidebar id label p => exact absurd hb (by simp)
  | versionDropdown p => exact absurd hb (by simp)
  | search p => exact absurd hb (by simp)

theorem Footer.badLink?_eq_none_iff {f : Footer} :
    f.badLink? = none ↔ ∀ g ∈ f.links, ∀ l ∈ g.items, OneTarget l.page l.href := by
  rw [badLink?, List.findSome?_eq_none_iff]
  constructor
  · intro h g hg l hl
    exact blameUnlessOneTarget_eq_none_iff.mp (h l (List.mem_flatMap.mpr ⟨g, hg, hl⟩))
  · intro h l hl
    obtain ⟨g, hg, hl⟩ := List.mem_flatMap.mp hl
    exact blameUnlessOneTarget_eq_none_iff.mpr (h g hg l hl)

theorem Footer.exists_of_badLink?_eq_some {f : Footer} {b : BadLink} (h : f.badLink? = some b) :
    ∃ before l after, f.links.flatMap (·.items) = before ++ l :: after ∧
      (∀ k ∈ before, OneTarget k.page k.href) ∧ ¬OneTarget l.page l.href ∧
      b = ⟨"footer", l.label⟩ := by
  rw [badLink?, List.findSome?_eq_some_iff] at h
  obtain ⟨before, l, after, hitems, hb, hbefore⟩ := h
  obtain ⟨hl, rfl⟩ := blameUnlessOneTarget_eq_some_iff.mp hb
  exact ⟨before, l, after, hitems,
    fun k hk ↦ blameUnlessOneTarget_eq_none_iff.mp (hbefore k hk), hl, rfl⟩

/-! ## Rules as the program checks them -/

namespace Rule

/-- The fault of a field that is not there. -/
def missing? {α : Type} (field : String) (x : Option α) : Option SiteFault :=
  if x.isSome then none else some (.missing field)

/-- The fault that a check of the rule ends with. -/
def fault? : Rule → Config → Option SiteFault
  | title, c => missing? "title" c.usableTitle?
  | url, c => missing? "url" c.url
  | baseUrl, c => missing? "base_url" c.baseUrl
  | navbar, c => missing? "navbar" c.navbar
  | footer, c => missing? "footer" c.footer
  | locale, c =>
    if c.locales.locales.contains c.locales.defaultLocale then none
    else some (.undeclaredLocale c.locales.defaultLocale)
  | route, c =>
    if isRoute c.docs.routeBasePath then none else some (.badRoute c.docs.routeBasePath)
  | navbarLinks, c => (c.navbar.bind Navbar.badLink?).map .badLink
  | footerLinks, c => (c.footer.bind Footer.badLink?).map .badLink
  | someVersion, c => if c.docs.versions = [] then some .noVersions else none
  | distinctPaths, c => (firstRepeated? [] c.docs.versions).map (.repeatedPath ·.path.text)

/-- The fault of the first rule that is broken, of those given. -/
def faultOf? (rules : List Rule) (c : Config) : Option SiteFault := rules.findSome? (·.fault? c)

theorem missing?_eq_none_iff {α : Type} {field : String} {x : Option α} :
    missing? field x = none ↔ x ≠ none := by
  cases x <;> simp [missing?]

theorem missing?_eq_some_iff {α : Type} {field : String} {x : Option α} {f : SiteFault} :
    missing? field x = some f ↔ x = none ∧ f = .missing field := by
  cases x <;> simp [missing?, eq_comm]

theorem fault?_eq_none_iff {r : Rule} {c : Config} : r.fault? c = none ↔ r.Holds c := by
  cases r with
  | title =>
    rw [fault?, missing?_eq_none_iff, Holds, ne_eq, Option.eq_none_iff_forall_ne_some,
      Classical.not_forall]
    exact exists_congr fun t ↦ by rw [ne_eq, Classical.not_not, Config.usableTitle?_eq_some_iff]
  | url => exact missing?_eq_none_iff
  | baseUrl => exact missing?_eq_none_iff
  | navbar => exact missing?_eq_none_iff
  | footer => exact missing?_eq_none_iff
  | locale => simp [fault?, Holds, NameSet.contains]
  | route => rw [fault?, Holds, ← isRoute_iff]; simp
  | navbarLinks =>
    rw [fault?, Holds, Option.map_eq_none_iff, Option.bind_eq_none_iff]
    exact forall_congr' fun n ↦ imp_congr_right fun _ ↦ Navbar.badLink?_eq_none_iff
  | footerLinks =>
    rw [fault?, Holds, Option.map_eq_none_iff, Option.bind_eq_none_iff]
    exact forall_congr' fun f ↦ imp_congr_right fun _ ↦ Footer.badLink?_eq_none_iff
  | someVersion => simp [fault?, Holds]
  | distinctPaths =>
    rw [fault?, Holds, Option.map_eq_none_iff, firstRepeated?_eq_none_iff]
    simp

/-- A fault is reported as the rule asks. -/
theorem blames_of_fault?_eq_some {r : Rule} {c : Config} {f : SiteFault}
    (h : r.fault? c = some f) : r.Blames c f.report := by
  cases r with
  | title => obtain ⟨-, rfl⟩ := missing?_eq_some_iff.mp h; rfl
  | url => obtain ⟨-, rfl⟩ := missing?_eq_some_iff.mp h; rfl
  | baseUrl => obtain ⟨-, rfl⟩ := missing?_eq_some_iff.mp h; rfl
  | navbar => obtain ⟨-, rfl⟩ := missing?_eq_some_iff.mp h; rfl
  | footer => obtain ⟨-, rfl⟩ := missing?_eq_some_iff.mp h; rfl
  | locale =>
    rw [fault?] at h
    split at h
    · exact absurd h (by simp)
    · obtain rfl := Option.some.inj h
      rfl
  | route =>
    rw [fault?] at h
    split at h
    · exact absurd h (by simp)
    · obtain rfl := Option.some.inj h
      rfl
  | navbarLinks =>
    obtain ⟨b, hb, rfl⟩ := Option.map_eq_some_iff.mp h
    obtain ⟨n, hn, hb⟩ := Option.bind_eq_some_iff.mp hb
    obtain ⟨before, l, after, hitems, hbefore, hl, rfl⟩ := Navbar.exists_of_badLink?_eq_some hb
    exact ⟨n, before, l, after, hn, hitems, hbefore, hl, rfl⟩
  | footerLinks =>
    obtain ⟨b, hb, rfl⟩ := Option.map_eq_some_iff.mp h
    obtain ⟨f, hf, hb⟩ := Option.bind_eq_some_iff.mp hb
    obtain ⟨before, l, after, hitems, hbefore, hl, rfl⟩ := Footer.exists_of_badLink?_eq_some hb
    exact ⟨f, before, l, after, hf, hitems, hbefore, hl, rfl⟩
  | someVersion =>
    rw [fault?] at h
    split at h
    · obtain rfl := Option.some.inj h
      rfl
    · exact absurd h (by simp)
  | distinctPaths =>
    obtain ⟨v, hv, rfl⟩ := Option.map_eq_some_iff.mp h
    obtain ⟨before, after, hvs, hnd, -, hmem⟩ := exists_of_firstRepeated?_eq_some hv
    exact ⟨before, v, after, hvs, hnd, hmem.resolve_left List.not_mem_nil, rfl⟩

/-! ## The order of the checks -/

/-- One step of a program that checks rules in turn: if it checks the first of them and what comes
after it the rest, the program fails with the first fault of all. -/
theorem bind_eq_error_iff_faultOf? {α β : Type} {c : Config} {x : Except SiteFault α}
    {k : α → Except SiteFault β} {f : SiteFault} (rules : List Rule) {rest : List Rule}
    (hx : ∀ f, x = .error f ↔ faultOf? rules c = some f)
    (hk : ∀ a, x = .ok a → (k a = .error f ↔ faultOf? rest c = some f)) :
    (x >>= k) = .error f ↔ faultOf? (rules ++ rest) c = some f := by
  rw [faultOf?, List.findSome?_append, Option.or_eq_some_iff, Steps.bind_eq_error_iff, hx]
  refine or_congr_right ?_
  cases hxa : x with
  | error e =>
    have he := (hx e).mp hxa
    rw [faultOf?] at he
    simp [he]
  | ok a =>
    -- a step that succeeds has no fault of its own, so the first fault is one of the rest
    have hnone : rules.findSome? (·.fault? c) = none := by
      rw [Option.eq_none_iff_forall_ne_some]
      exact fun g hg ↦ absurd (hxa.symm.trans ((hx g).mpr hg)) (by simp)
    rw [and_iff_right hnone, ← faultOf?, ← hk a hxa]
    simp

theorem faultOf?_singleton {r : Rule} {c : Config} : faultOf? [r] c = r.fault? c := by
  rw [faultOf?, List.findSome?_singleton]

theorem exists_firstBroken_of_faultOf? {c : Config} {f : SiteFault}
    (h : faultOf? order c = some f) : ∃ r : Rule, r.FirstBroken c ∧ r.Blames c f.report := by
  obtain ⟨before, r, after, horder, hr, hbefore⟩ := List.findSome?_eq_some_iff.mp h
  refine ⟨r, ⟨fun hh ↦ ?_, before, after, horder, fun q hq ↦ fault?_eq_none_iff.mp (hbefore q hq)⟩,
    blames_of_fault?_eq_some hr⟩
  exact absurd (hr.symm.trans (fault?_eq_none_iff.mpr hh)) (by simp)

theorem mem_order (r : Rule) : r ∈ order := by
  cases r <;> decide

theorem faultOf?_order_eq_none_iff {c : Config} :
    faultOf? order c = none ↔ ∀ r : Rule, r.Holds c := by
  rw [faultOf?, List.findSome?_eq_none_iff]
  exact ⟨fun h r ↦ fault?_eq_none_iff.mp (h r (mem_order r)),
    fun h r _ ↦ fault?_eq_none_iff.mpr (h r)⟩

end Rule

namespace Config

open Rule

variable {c l : Config} {profile : Option String}

theorem require_eq_error_iff_fault? {α : Type} {field : String} {x : Option α} {f : SiteFault} :
    require field x = .error f ↔ missing? field x = some f := by
  rw [require_eq_error_iff, missing?_eq_some_iff]

theorem check_eq_error_iff_fault? {ok : Bool} {f f' : SiteFault} :
    check ok f = .error f' ↔ (if ok then none else some f) = some f' := by
  rw [check_eq_error_iff]
  cases ok <;> simp [eq_comm]

theorem checkLinks_eq_error_iff_fault? {bad : Option BadLink} {f : SiteFault} :
    checkLinks bad = .error f ↔ bad.map .badLink = some f := by
  rw [checkLinks_eq_error_iff, Option.map_eq_some_iff]
  exact exists_congr fun b ↦ and_congr_right fun _ ↦ eq_comm

theorem ofList_eq_error_iff_faultOf? {f : SiteFault} :
    (Versions.ofList l.docs.versions).mapError SiteFault.ofVersions = .error f ↔
      faultOf? [someVersion, distinctPaths] l = some f := by
  rw [Steps.mapError_eq_error_iff, faultOf?, List.findSome?_cons, fault?]
  by_cases hl : l.docs.versions = []
  · rw [if_pos hl, Option.some_inj]
    constructor
    · rintro ⟨e, he, rfl⟩
      rcases Versions.ofList_eq_error_iff.mp he with ⟨-, rfl⟩ | ⟨hne, -⟩
      · rfl
      · exact absurd hl hne
    · rintro rfl
      exact ⟨.none, Versions.ofList_eq_error_iff.mpr (.inl ⟨hl, rfl⟩), rfl⟩
  · rw [if_neg hl, List.findSome?_singleton, fault?, Option.map_eq_some_iff]
    constructor
    · rintro ⟨e, he, rfl⟩
      rcases Versions.ofList_eq_error_iff.mp he with ⟨h, -⟩ | ⟨-, v, hv, rfl⟩
      · exact absurd h hl
      · exact ⟨v, hv, rfl⟩
    · rintro ⟨v, hv, rfl⟩
      exact ⟨.repeated v.path, Versions.ofList_eq_error_iff.mpr (.inr ⟨hl, v, hv, rfl⟩), rfl⟩

/-- The program checks the rules one after the other, in their order. -/
theorem toSite_eq_error_iff {f : SiteFault} :
    l.toSite profile = .error f ↔ faultOf? order l = some f := by
  have required {α : Type} {field : String} {x : Option α} {r : Rule}
      (hr : r.fault? l = missing? field x) (g : SiteFault) :
      require field x = .error g ↔ faultOf? [r] l = some g := by
    rw [faultOf?_singleton, hr, require_eq_error_iff_fault?]
  have checked {ok : Bool} {f : SiteFault} {r : Rule}
      (hr : r.fault? l = if ok then none else some f) (g : SiteFault) :
      check ok f = .error g ↔ faultOf? [r] l = some g := by
    rw [faultOf?_singleton, hr, check_eq_error_iff_fault?]
  rw [toSite]
  refine bind_eq_error_iff_faultOf? [.title] (required rfl) fun title _ ↦ ?_
  refine bind_eq_error_iff_faultOf? [.url] (required rfl) fun url _ ↦ ?_
  refine bind_eq_error_iff_faultOf? [.baseUrl] (required rfl) fun baseUrl _ ↦ ?_
  refine bind_eq_error_iff_faultOf? [.navbar] (required rfl) fun navbar hnavbar ↦ ?_
  refine bind_eq_error_iff_faultOf? [.footer] (required rfl) fun footer hfooter ↦ ?_
  refine bind_eq_error_iff_faultOf? [.locale] (checked rfl) fun _ _ ↦ ?_
  refine bind_eq_error_iff_faultOf? [.route] (checked rfl) fun _ _ ↦ ?_
  refine bind_eq_error_iff_faultOf? [.navbarLinks] (fun g ↦ ?_) fun _ _ ↦ ?_
  · rw [faultOf?_singleton, fault?, require_eq_ok_iff.mp hnavbar, Option.bind_some,
      checkLinks_eq_error_iff_fault?]
  refine bind_eq_error_iff_faultOf? [.footerLinks] (fun g ↦ ?_) fun _ _ ↦ ?_
  · rw [faultOf?_singleton, fault?, require_eq_ok_iff.mp hfooter, Option.bind_some,
      checkLinks_eq_error_iff_fault?]
  refine bind_eq_error_iff_faultOf? [.someVersion, .distinctPaths]
    (fun g ↦ ofList_eq_error_iff_faultOf?) fun versions _ ↦ ?_
  simp [faultOf?, pure, Except.pure]

theorem exists_toSite_iff : (∃ s, l.toSite profile = .ok s) ↔ ∀ r : Rule, r.Holds l := by
  rw [← faultOf?_order_eq_none_iff, Option.eq_none_iff_forall_ne_some]
  cases h : l.toSite profile with
  | error f => simpa using ⟨f, toSite_eq_error_iff.mp h⟩
  | ok s =>
    have hne (f : SiteFault) : faultOf? order l ≠ some f := fun hf ↦
      absurd (h.symm.trans (toSite_eq_error_iff.mpr hf)) (by simp)
    simpa using hne

/-! ## Resolution -/

/-- A site describes a record that satisfies the rules. -/
theorem exists_describes_of_resolve {s : Site} (h : c.resolve profile = .ok s) :
    ∃ l, c.Layered profile l ∧ l.Describes profile s ∧ ∀ r : Rule, r.Holds l := by
  obtain ⟨l, hL, hs⟩ := resolve_eq_ok_iff.mp h
  exact ⟨l, hL, describes_of_toSite hs, exists_toSite_iff.mp ⟨s, hs⟩⟩

/-- No rule is reported under the name that the profile goes by. -/
theorem getLast?_details_ne_of_blames {r : Rule} {b : Report} (h : r.Blames l b) (name : String) :
    b.details.getLast? ≠ some ("Profile", name) := by
  have single {b' : Report} {key value : String} (hb : b = b')
      (hd : b'.details = [(key, value)]) (hkey : key ≠ "Profile") :
      b.details.getLast? ≠ some ("Profile", name) := by
    rw [hb, hd, List.getLast?_singleton]
    exact fun he ↦ hkey (congrArg Prod.fst (Option.some.inj he))
  cases r with
  | title => exact single h rfl (by decide)
  | url => exact single h rfl (by decide)
  | baseUrl => exact single h rfl (by decide)
  | navbar => exact single h rfl (by decide)
  | footer => exact single h rfl (by decide)
  | locale => exact single h rfl (by decide)
  | route => exact single h rfl (by decide)
  | navbarLinks =>
    obtain ⟨n, before, k, after, -, -, -, -, rfl⟩ := h
    simp [linkReport]
  | footerLinks =>
    obtain ⟨f, before, k, after, -, -, -, -, rfl⟩ := h
    simp [linkReport]
  | someVersion => exact single h rfl (by decide)
  | distinctPaths =>
    obtain ⟨before, v, after, -, -, -, hb⟩ := h
    exact single hb rfl (by decide)

/-- The report on a profile that is not there. -/
def unknownProfileReport (c : Config) (name : String) : Report :=
  ⟨"Unknown profile", [("Profile", name), ("Available", ", ".intercalate c.profileNames)]⟩

/-- **Resolution accepts exactly what satisfies the rules, and blames the first rule that is
broken.** The rules are those of the record that is left once the profile has been applied. A
report ends with the profile exactly where a profile that is there was asked for. -/
theorem resolve_accepts_or_blames_first (c : Config) (profile : Option String) :
    ((∃ s, c.resolve profile = .ok s) ↔ ∃ l, c.Layered profile l ∧ ∀ r : Rule, r.Holds l) ∧
    ∀ e, c.resolve profile = .error e →
      ((∃ name, profile = some name ∧ name ∉ c.profileNames ∧
          e.report = c.unknownProfileReport name) ∨
        ∃ (l : Config) (r : Rule) (b : Report), c.Layered profile l ∧ r.FirstBroken l ∧
          r.Blames l b ∧
          e.report = ⟨b.title, b.details ++ (profile.map fun p ↦ ("Profile", p)).toList⟩) ∧
      ∀ name, e.report.details.getLast? = some ("Profile", name) ↔
        profile = some name ∧ name ∈ c.profileNames := by
  constructor
  · simp only [resolve_eq_ok_iff]
    constructor
    · rintro ⟨s, l, hL, hs⟩
      exact ⟨l, hL, exists_toSite_iff.mp ⟨s, hs⟩⟩
    · rintro ⟨l, hL, hr⟩
      obtain ⟨s, hs⟩ := exists_toSite_iff.mpr hr
      exact ⟨s, l, hL, hs⟩
  · intro e he
    rcases resolve_eq_error_iff.mp he with ⟨name, rfl, hn, rfl⟩ | ⟨l, f, hL, hf, rfl⟩
    · -- the report names the profile as well, but the profiles that there are come after it
      refine ⟨.inl ⟨name, rfl, hn, rfl⟩, fun name' ↦ ?_⟩
      constructor
      · intro hlast
        exact absurd hlast (by simp [ResolveFault.report, SiteFault.details])
      · rintro ⟨h, hmem⟩
        exact absurd (Option.some.inj h ▸ hmem) hn
    · obtain ⟨r, hfirst, hblames⟩ := exists_firstBroken_of_faultOf? (toSite_eq_error_iff.mp hf)
      refine ⟨.inr ⟨l, r, f.report, hL, hfirst, hblames, rfl⟩, fun name ↦ ?_⟩
      cases profile with
      | none =>
        have hne := getLast?_details_ne_of_blames hblames name
        simpa [ResolveFault.report, SiteFault.report] using hne
      | some p =>
        have hmem := exists_layered_iff.mp ⟨l, hL⟩ p rfl
        simp only [ResolveFault.report, Option.map_some, Option.toList_some,
          List.getLast?_concat, Option.some.injEq, Prod.mk.injEq, true_and]
        exact ⟨fun h ↦ ⟨h, h ▸ hmem⟩, And.left⟩

/-- A profile can break a record that describes a site by itself. -/
theorem minimal_preview_blames_path :
    ∃ e, minimal.resolve (some "preview") = .error e ∧
      e.report = ⟨"Documentation versions must have distinct paths",
        [("Path", "docs"), ("Profile", "preview")]⟩ ∧
      ∀ name, e.report.details.getLast? = some ("Profile", name) ↔
        some "preview" = some name ∧ name ∈ minimal.profileNames :=
  ⟨_, rfl, rfl, ((resolve_accepts_or_blames_first minimal (some "preview")).2 _ rfl).2⟩

end Config

end VersionedSite
